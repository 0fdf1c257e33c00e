import AccessControl.Json.Document
import AccessControl.Store.Migration

/-!
# Browsing the tables

Rows are shown as JSON objects, one member per column, and listed by ascending
key.  The columns of a table say which documents are rows of it.
-/

namespace AccessControl.Store

open Json

/-- What the cells of a column hold. -/
inductive CellType where
  | typeId
  | id
  | text
  | flag
deriving DecidableEq, Repr

/-- The documents that stand for the cells of a type. -/
def CellType.schema : CellType → Schema
  | .typeId => Schema.typeId
  | .id => Schema.id
  | .text => .text
  | .flag => .boolean

/-- A column of a table. -/
structure Column where
  name : String
  type : CellType
  nullable : Bool := false
  /-- The place in the key, counted from one; zero for other columns. -/
  keyPlace : Nat := 0
deriving DecidableEq, Repr

namespace Table

/-- The columns of a table, in order. -/
def columns : Table → List Column
  | .resourceType =>
      [⟨"resource_type_id", .typeId, false, 1⟩,
        ⟨"resource_type_name", .text, false, 0⟩]
  | .resource =>
      [⟨"resource_id", .id, false, 1⟩, ⟨"resource_type_id", .typeId, false, 0⟩]
  | .permission =>
      [⟨"permission_id", .id, false, 1⟩, ⟨"permission_name", .text, false, 0⟩,
        ⟨"resource_type_id", .typeId, false, 0⟩,
        ⟨"permission_label", .text, true, 0⟩]
  | .authorization =>
      [⟨"authorization_id", .text, false, 1⟩,
        ⟨"authorization_name", .text, false, 0⟩]
  | .permissionAuthorization =>
      [⟨"permission_id", .id, false, 1⟩, ⟨"authorization_id", .text, false, 2⟩]
  | .principalType =>
      [⟨"principal_type_id", .typeId, false, 1⟩,
        ⟨"principal_type_name", .text, false, 0⟩]
  | .principal =>
      [⟨"principal_id", .id, false, 1⟩,
        ⟨"principal_type_id", .typeId, false, 0⟩]
  | .privilege =>
      [⟨"privilege_id", .id, false, 1⟩, ⟨"permission_id", .id, false, 0⟩,
        ⟨"resource_id", .id, false, 0⟩, ⟨"principal_id", .id, false, 0⟩]
  | .user =>
      [⟨"user_id", .id, false, 1⟩, ⟨"user_name", .text, false, 0⟩,
        ⟨"principal_id", .id, false, 0⟩, ⟨"active", .flag, false, 0⟩]
  | .cluster =>
      [⟨"cluster_id", .id, false, 1⟩, ⟨"cluster_name", .text, false, 0⟩,
        ⟨"resource_id", .id, false, 0⟩]
  | .view =>
      [⟨"view_instance_id", .id, false, 1⟩, ⟨"view_name", .text, false, 0⟩,
        ⟨"name", .text, false, 0⟩, ⟨"resource_id", .id, false, 0⟩,
        ⟨"cluster_handle", .id, true, 0⟩]

/-- The fields of a record with the given columns; a column that may be null
may be missing. -/
def fields : List Column → Fields
  | [] => .none
  | column :: later =>
      if column.nullable then
        .field column.name (.optional column.type.schema) (some .null)
          (fields later)
      else
        .field column.name column.type.schema none (fields later)

end Table

namespace Row

/-- The cells of a row, in the order of the columns. -/
def cells : {table : Table} → Row table → List Json
  | .resourceType, ⟨id, name⟩ => [Document.encode id, Document.encode name]
  | .resource, ⟨id, typeId⟩ => [Document.encode id, Document.encode typeId]
  | .permission, ⟨id, name, typeId, label⟩ =>
      [Document.encode id, Document.encode name, Document.encode typeId,
        Document.encode label]
  | .authorization, ⟨id, name⟩ => [Document.encode id, Document.encode name]
  | .permissionAuthorization, ⟨permissionId, authorizationId⟩ =>
      [Document.encode permissionId, Document.encode authorizationId]
  | .principalType, ⟨id, name⟩ => [Document.encode id, Document.encode name]
  | .principal, ⟨id, typeId⟩ => [Document.encode id, Document.encode typeId]
  | .privilege, ⟨id, permissionId, resourceId, principalId⟩ =>
      [Document.encode id, Document.encode permissionId,
        Document.encode resourceId, Document.encode principalId]
  | .user, ⟨id, name, principalId, active⟩ =>
      [Document.encode id, Document.encode name, Document.encode principalId,
        Document.encode active]
  | .cluster, ⟨id, name, resourceId⟩ =>
      [Document.encode id, Document.encode name, Document.encode resourceId]
  | .view, ⟨id, viewName, name, resourceId, clusterId⟩ =>
      [Document.encode id, Document.encode viewName, Document.encode name,
        Document.encode resourceId, Document.encode clusterId]

/-- The row with the given cells. -/
def ofCells? : (table : Table) → List Json → Option (Row table)
  | .resourceType, [id, name] => do
      pure ⟨← Document.decode id, ← Document.decode name⟩
  | .resource, [id, typeId] => do
      pure ⟨← Document.decode id, ← Document.decode typeId⟩
  | .permission, [id, name, typeId, label] => do
      pure ⟨← Document.decode id, ← Document.decode name,
        ← Document.decode typeId, ← Document.decode label⟩
  | .authorization, [id, name] => do
      pure ⟨← Document.decode id, ← Document.decode name⟩
  | .permissionAuthorization, [permissionId, authorizationId] => do
      pure ⟨← Document.decode permissionId, ← Document.decode authorizationId⟩
  | .principalType, [id, name] => do
      pure ⟨← Document.decode id, ← Document.decode name⟩
  | .principal, [id, typeId] => do
      pure ⟨← Document.decode id, ← Document.decode typeId⟩
  | .privilege, [id, permissionId, resourceId, principalId] => do
      pure ⟨← Document.decode id, ← Document.decode permissionId,
        ← Document.decode resourceId, ← Document.decode principalId⟩
  | .user, [id, name, principalId, active] => do
      pure ⟨← Document.decode id, ← Document.decode name,
        ← Document.decode principalId, ← Document.decode active⟩
  | .cluster, [id, name, resourceId] => do
      pure ⟨← Document.decode id, ← Document.decode name,
        ← Document.decode resourceId⟩
  | .view, [id, viewName, name, resourceId, clusterId] => do
      pure ⟨← Document.decode id, ← Document.decode viewName,
        ← Document.decode name, ← Document.decode resourceId,
        ← Document.decode clusterId⟩
  | _, _ => none

instance (table : Table) : Document (Row table) where
  schema := .record (Table.fields table.columns)
  encode row :=
    .object ((table.columns.map Column.name).zip (cells row))
  decode
    | .object members => ofCells? table (members.map Prod.snd)
    | _ => none

/-- The row as a JSON object. -/
def toJson {table : Table} (row : Row table) : Json :=
  Document.encode (α := Row table) row

end Row

/-- The key of a table's row, from the document that stands for it: the value
of the key column, or an array of the values of both. -/
def Key.ofJson? (table : Table) (document : Json) : Option Key :=
  match table with
  | .resourceType | .principalType =>
      (Document.ofJson? document).map Key.type
  | .authorization => (Document.ofJson? document).map Key.word
  | .permissionAuthorization =>
      match document with
      | .array [permission, authorization] => do
          pure (.pair (← Document.ofJson? permission)
            (← Document.ofJson? authorization))
      | _ => none
  | .resource | .permission | .principal | .privilege | .user | .cluster
  | .view => (Document.ofJson? document).map Key.id

namespace Tables

/-- The rows of a table by ascending key. -/
def listed (tables : Tables) (table : Table) : List (Row table) :=
  (tables.rows table).mergeSort fun a b =>
    Key.ascending (Row.key a) (Row.key b)

/-- The row of another table that a row refers to. -/
def related? (tables : Tables) {table : Table} (other : Table)
    (row : Row table) : Option (Row other) := do
  let reference ← (Row.references row).find? fun reference =>
    reference.table == other
  tables.find? other reference.key

end Tables

/-- The rows of a table by ascending key. -/
def rows (store : Store) (table : Table) :
    Except StoreFault (List (Row table)) :=
  (store.tables table).map fun tables => tables.listed table

/-- The row of a table with a given key. -/
def find? (store : Store) (table : Table) (key : Key) :
    Except StoreFault (Option (Row table)) :=
  (store.tables table).map fun tables => tables.find? table key

/-- The rows of a table by ascending key, each with the row of another table
that it refers to. -/
def related (store : Store) (table other : Table) :
    Except StoreFault (List (Row table × Option (Row other))) :=
  (store.tables table).map fun tables =>
    (tables.listed table).map fun row => (row, tables.related? other row)

/-- The tables that exist, with their columns. -/
def layout (store : Store) : Except StoreFault (List (Table × List Column)) :=
  store.connected.map fun contents =>
    contents.existing.map fun table => (table, table.columns)

end AccessControl.Store
