import AccessControl.Store.Table

/-!
# Keys and references

Rows are found by their key, refer to rows of other tables by those rows' keys,
and must not clash: two rows of a table differ in their keys and in every other
column that is declared unique.
-/

namespace AccessControl.Store

/-- What identifies a row within its table. -/
inductive Key where
  | type (id : Int32)
  | id (id : Int64)
  | word (id : String)
  | pair (permissionId : Int64) (authorizationId : String)
deriving DecidableEq, Repr

namespace Key

/-- Keys of one table in ascending order; texts by their characters, a pair by
its first part and then by its second. -/
def ascending : Key → Key → Bool
  | .type a, .type b => a ≤ b
  | .id a, .id b => a ≤ b
  | .word a, .word b => !decide (b < a)
  | .pair a x, .pair b y => a < b || (a == b && !decide (y < x))
  | _, _ => false

end Key

/-- What happens to a row when the row it refers to is deleted. -/
inductive OnDelete where
  /-- The deletion is refused. -/
  | refuse
  /-- The row is deleted too. -/
  | cascade
  /-- The row gives up the reference. -/
  | detach
deriving DecidableEq, Repr

/-- A reference to a row, which may or may not exist. -/
structure Reference where
  table : Table
  key : Key
  onDelete : OnDelete := .refuse
deriving DecidableEq, Repr

namespace Reference

/-- Whether a reference names the row of a table with a given key. -/
def names (reference : Reference) (table : Table) (key : Key) : Bool :=
  reference.table == table && reference.key == key

end Reference

namespace Row

/-- The key of a row. -/
def key : {table : Table} → Row table → Key
  | .resourceType, row => .type (ResourceTypeRow.id row)
  | .resource, row => .id (ResourceRow.id row)
  | .permission, row => .id (PermissionRow.id row)
  | .authorization, row => .word (AuthorizationRow.id row)
  | .permissionAuthorization, row =>
      .pair (PermissionAuthorizationRow.permissionId row)
        (PermissionAuthorizationRow.authorizationId row)
  | .principalType, row => .type (PrincipalTypeRow.id row)
  | .principal, row => .id (PrincipalRow.id row)
  | .privilege, row => .id (PrivilegeRow.id row)
  | .user, row => .id (UserRow.id row)
  | .cluster, row => .id (ClusterRow.id row)
  | .view, row => .id (ViewRow.id row)

/-- Whether two rows agree in unique columns other than the key. -/
def sharesUnique : {table : Table} → Row table → Row table → Bool
  | .resourceType, a, b => ResourceTypeRow.name a == ResourceTypeRow.name b
  | .permission, a, b =>
      PermissionRow.name a == PermissionRow.name b &&
        PermissionRow.typeId a == PermissionRow.typeId b
  | .principalType, a, b => PrincipalTypeRow.name a == PrincipalTypeRow.name b
  | .user, a, b => UserRow.name a == UserRow.name b
  | .cluster, a, b => ClusterRow.name a == ClusterRow.name b
  | .view, a, b => ViewRow.resourceId a == ViewRow.resourceId b
  | .resource, _, _ | .authorization, _, _ | .permissionAuthorization, _, _
  | .principal, _, _ | .privilege, _, _ => false

/-- Whether two rows cannot stand in one table. -/
def clashes {table : Table} (a b : Row table) : Bool :=
  key a == key b || sharesUnique a b

/-- The references of a row. -/
def references : {table : Table} → Row table → List Reference
  | .resourceType, _ => []
  | .resource, row =>
      [{ table := .resourceType, key := .type (ResourceRow.typeId row) }]
  | .permission, row =>
      [{ table := .resourceType, key := .type (PermissionRow.typeId row) }]
  | .authorization, _ => []
  | .permissionAuthorization, row =>
      [{ table := .permission
         key := .id (PermissionAuthorizationRow.permissionId row)
         onDelete := .cascade },
        { table := .authorization
          key := .word (PermissionAuthorizationRow.authorizationId row) }]
  | .principalType, _ => []
  | .principal, row =>
      [{ table := .principalType, key := .type (PrincipalRow.typeId row) }]
  | .privilege, row =>
      [{ table := .permission, key := .id (PrivilegeRow.permissionId row) },
        { table := .resource
          key := .id (PrivilegeRow.resourceId row)
          onDelete := .cascade },
        { table := .principal
          key := .id (PrivilegeRow.principalId row)
          onDelete := .cascade }]
  | .user, row =>
      [{ table := .principal, key := .id (UserRow.principalId row) }]
  | .cluster, row =>
      [{ table := .resource, key := .id (ClusterRow.resourceId row) }]
  | .view, row =>
      { table := .resource, key := .id (ViewRow.resourceId row) } ::
        match ViewRow.clusterId row with
        | some cluster =>
            [{ table := .cluster, key := .id cluster, onDelete := .detach }]
        | none => []

/-- The row without its references that can be given up. -/
def detached : {table : Table} → Row table → Row table
  | .view, row => { (row : ViewRow) with clusterId := none }
  | .resourceType, row | .resource, row | .permission, row
  | .authorization, row | .permissionAuthorization, row | .principalType, row
  | .principal, row | .privilege, row | .user, row | .cluster, row => row

/-- What is left of a row when the row of a table with a given key is
deleted. -/
def released {table : Table} (deletedTable : Table) (deletedKey : Key)
    (row : Row table) : Option (Row table) :=
  match (references row).find? fun reference =>
      reference.names deletedTable deletedKey with
  | some { onDelete := .cascade, .. } => none
  | some { onDelete := .detach, .. } => some (detached row)
  | some { onDelete := .refuse, .. } | none => some row

end Row

namespace Tables

/-- The row of a table with a given key. -/
def find? (tables : Tables) (table : Table) (key : Key) : Option (Row table) :=
  (tables.rows table).find? fun row => Row.key row == key

/-- Whether a table has a row with a given key. -/
def contains (tables : Tables) (table : Table) (key : Key) : Bool :=
  (tables.rows table).any fun row => Row.key row == key

/-- Whether the row that a reference names exists. -/
def resolves (tables : Tables) (reference : Reference) : Bool :=
  tables.contains reference.table reference.key

/-- How many references of a row name no row. -/
def danglingCount (tables : Tables) {table : Table} (row : Row table) : Nat :=
  (Row.references row).countP fun reference => !tables.resolves reference

/-- How many references with a given property the rows of one table hold. -/
def countIn (tables : Tables) (property : Reference → Bool) (table : Table) :
    Nat :=
  ((tables.rows table).flatMap Row.references).countP property

/-- How many references with a given property the rows of all tables hold. -/
def countReferences (tables : Tables) (property : Reference → Bool) : Nat :=
  (Table.all.flatMap fun table =>
    (tables.rows table).flatMap Row.references).countP property

end Tables

end AccessControl.Store
