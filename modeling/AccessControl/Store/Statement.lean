import AccessControl.Store.Reference

/-!
# Statements

A statement changes the tables as a whole or not at all.  Clashing rows are
found first.  While references are enforced, a statement then keeps a count of
the references that it leaves without a row: a new row adds those of its own
that dangle, a deleted row adds the references to it that must not be given up.
References that dangled before and go away with the statement are taken off,
as far as the count is above zero when they go.  A count above zero at the end
refuses the statement.  Among rows without dangling references nothing is ever
taken off, and the count is above zero exactly when the statement would leave
a dangling reference.
-/

namespace AccessControl.Store

/-- Why the store refuses an operation. -/
inductive StoreFault where
  /-- A row would agree with another in columns declared unique. -/
  | unique
  /-- A reference would name no row. -/
  | foreignKey
  /-- The row to update does not exist. -/
  | notUpdated
  | noSuchTable (table : Table)
  /-- The connection to the store is closed. -/
  | closed
deriving DecidableEq, Repr

namespace StoreFault

/-- The class of a fault. -/
def name : StoreFault → String
  | .unique => "unique"
  | .foreignKey => "foreign key"
  | .notUpdated => "not updated"
  | .noSuchTable table => "no such table " ++ table.name
  | .closed => "closed"

/-- The class of a fault as it stands inside a longer sentence. -/
def message (fault : StoreFault) : String :=
  "<" ++ fault.name ++ ">"

end StoreFault

namespace Tables

/-! ## Insertion -/

/-- The rows with new ones after them, unless two of them clash. -/
def appendRows {table : Table} (present : List (Row table)) :
    List (Row table) → Option (List (Row table))
  | [] => some present
  | row :: later =>
      if present.any (Row.clashes row) then
        none
      else
        appendRows (present ++ [row]) later

/-- The count of open references after a row is inserted among several.  The
row closes the references that already named its key, table by table, the last
table first; nothing is closed once the count is zero. -/
def countInserted (tables : Tables) {table : Table} (count : Int)
    (row : Row table) : Int :=
  Table.all.reverse.foldl
    (fun count other =>
      if count = 0 then
        0
      else
        count - tables.countIn
          (fun reference => reference.names table (Row.key row)) other)
    (count + tables.danglingCount row)

/-- Whether the references of new rows may be left as they are.  A single row
is judged by its own references alone. -/
def acceptsInserted (tables : Tables) {table : Table} :
    List (Row table) → Bool
  | [row] => tables.danglingCount row == 0
  | rows => rows.foldl tables.countInserted 0 ≤ 0

/-- Insert rows into a table. -/
def insert (tables : Tables) (enforced : Bool) (table : Table)
    (rows : List (Row table)) : Except StoreFault Tables :=
  match appendRows (tables.rows table) rows with
  | none => .error .unique
  | some all =>
      if enforced && !tables.acceptsInserted rows then
        .error .foreignKey
      else
        .ok (tables.replace table all)

/-! ## Update -/

/-- Replace the row that has the key of a given row; this is the only kind of
update, and several rows take several of them.  All references of the new row
are checked, changed or not.  In a table whose columns are all part of the key
there is nothing to replace. -/
def update (tables : Tables) (enforced : Bool) (table : Table)
    (row : Row table) : Except StoreFault Tables :=
  let key := Row.key row
  if !tables.contains table key then
    .error .notUpdated
  else if table.isAllKey then
    .ok tables
  else if (tables.rows table).any fun other =>
      Row.key other != key && Row.sharesUnique row other then
    .error .unique
  else if enforced && tables.danglingCount row != 0 then
    .error .foreignKey
  else
    .ok <| tables.replace table <| (tables.rows table).map fun other =>
      if Row.key other == key then row else other

/-! ## Deletion -/

/-- The tables without the row of one table with a given key. -/
def without (tables : Tables) (table : Table) (key : Key) : Tables :=
  tables.replace table <| (tables.rows table).filter fun row =>
    Row.key row != key

/-- The tables after every row that refers to a deleted one has followed it or
given up the reference. -/
def release (tables : Tables) (table : Table) (key : Key) : Tables :=
  ofRows fun other => (tables.rows other).filterMap (Row.released table key)

/-- Whether a row goes away with the row that has a given key. -/
def follows {other : Table} (table : Table) (key : Key) (row : Row other) :
    Bool :=
  (Row.released table key row).isNone

/-- How many references to other rows dangle and go away when the row with a
given key is deleted. -/
def countFreed (tables : Tables) (table : Table) (key : Key) : Nat :=
  (Table.all.flatMap fun other =>
    ((tables.rows other).filter (follows table key)).flatMap
      Row.references).countP fun reference =>
    !reference.names table key && !tables.resolves reference

/-- How many references forbid the deletion of the row with a given key. -/
def countRefusing (tables : Tables) (table : Table) (key : Key) : Nat :=
  tables.countReferences fun reference =>
    reference.names table key && reference.onDelete == .refuse

/-- The state of a deletion that goes on from row to row. -/
structure Deletion where
  tables : Tables
  count : Nat := 0

/-- Delete one row with all that follows it. -/
def deleteRow {table : Table} (deletion : Deletion) (row : Row table) :
    Deletion :=
  let key := Row.key row
  let rest := deletion.tables.without table key
  { tables := rest.release table key
    count :=
      deletion.count - deletion.tables.danglingCount row +
        rest.countRefusing table key - rest.countFreed table key }

/-- Delete the selected rows of a table, in order.  While references are not
enforced, rows that referred to them stay as they are. -/
def deleteWhere (tables : Tables) (enforced : Bool) (table : Table)
    (selected : Row table → Bool) : Except StoreFault Tables :=
  if enforced then
    let deletion :=
      ((tables.rows table).filter selected).foldl deleteRow { tables }
    if deletion.count = 0 then .ok deletion.tables else .error .foreignKey
  else
    .ok <| tables.replace table <| (tables.rows table).filter fun row =>
      !selected row

/-- Delete the row of a table with a given key, if it exists. -/
def delete (tables : Tables) (enforced : Bool) (table : Table) (key : Key) :
    Except StoreFault Tables :=
  tables.deleteWhere enforced table fun row => Row.key row == key

end Tables

/-- A change to the tables.  Rows can be inserted or deleted together, but an
update is of one row, found by its key, which it keeps. -/
inductive Statement where
  | insert (table : Table) (rows : List (Row table))
  /-- The row that takes the place of the one with the same key. -/
  | update (table : Table) (row : Row table)
  | delete (table : Table) (key : Key)
  | deleteWhere (table : Table) (selected : Row table → Bool)

namespace Statement

/-- The table that a statement names. -/
def table : Statement → Table
  | .insert table _ | .update table _ | .delete table _
  | .deleteWhere table _ => table

/-- Run a statement. -/
def run (tables : Tables) (enforced : Bool) :
    Statement → Except StoreFault Tables
  | .insert table rows => tables.insert enforced table rows
  | .update table row => tables.update enforced table row
  | .delete table key => tables.delete enforced table key
  | .deleteWhere table selected => tables.deleteWhere enforced table selected

/-- Run statements until one is refused.  What the earlier ones did stays. -/
def runAll (tables : Tables) (enforced : Bool) :
    List Statement → Tables × Except StoreFault Unit
  | [] => (tables, .ok ())
  | statement :: later =>
      match statement.run tables enforced with
      | .ok changed => runAll changed enforced later
      | .error fault => (tables, .error fault)

end Statement

end AccessControl.Store
