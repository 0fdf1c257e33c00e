/-!
# The tables of the privilege store

Eleven tables hold the privilege records.  Each has a type of rows; `Tables`
is the contents of all of them, every table a list of rows in the order of
their insertion.  `Tables.rows` and `Tables.ofRows` view the contents as one
list per table, which is how operations on any table are defined.
-/

namespace AccessControl.Store

/-- The tables of the store. -/
inductive Table where
  | resourceType
  | resource
  | permission
  | authorization
  | permissionAuthorization
  | principalType
  | principal
  | privilege
  | user
  | cluster
  | view
deriving DecidableEq, Repr

namespace Table

/-- Every table, each after the tables it refers to. -/
def all : List Table :=
  [.resourceType, .resource, .permission, .authorization,
    .permissionAuthorization, .principalType, .principal, .privilege, .user,
    .cluster, .view]

/-- The name of a table in the store. -/
def name : Table → String
  | .resourceType => "adminresourcetype"
  | .resource => "adminresource"
  | .permission => "adminpermission"
  | .authorization => "roleauthorization"
  | .permissionAuthorization => "permission_roleauthorization"
  | .principalType => "adminprincipaltype"
  | .principal => "adminprincipal"
  | .privilege => "adminprivilege"
  | .user => "users"
  | .cluster => "clusters"
  | .view => "viewinstance"

/-- Whether every column of a table is part of its key. -/
def isAllKey : Table → Bool
  | .permissionAuthorization => true
  | .resourceType | .resource | .permission | .authorization | .principalType
  | .principal | .privilege | .user | .cluster | .view => false

/-- The table with a given name. -/
def ofName? (name : String) : Option Table :=
  all.find? fun table => table.name == name

end Table

/-! ## Rows -/

/-- A named kind of resource. -/
structure ResourceTypeRow where
  id : Int32
  name : String
deriving DecidableEq, Repr

/-- Something that privileges are granted on. -/
structure ResourceRow where
  id : Int64
  typeId : Int32
deriving DecidableEq, Repr

/-- A named permission for resources of one type.  The label is what people
read. -/
structure PermissionRow where
  id : Int64
  name : String
  typeId : Int32
  label : Option String
deriving DecidableEq, Repr

/-- An authorization with the name under which it is shown. -/
structure AuthorizationRow where
  id : String
  name : String
deriving DecidableEq, Repr

/-- One authorization recorded on one permission. -/
structure PermissionAuthorizationRow where
  permissionId : Int64
  authorizationId : String
deriving DecidableEq, Repr

/-- A named kind of principal. -/
structure PrincipalTypeRow where
  id : Int32
  name : String
deriving DecidableEq, Repr

/-- Someone that privileges are granted to. -/
structure PrincipalRow where
  id : Int64
  typeId : Int32
deriving DecidableEq, Repr

/-- One permission granted to one principal over one resource. -/
structure PrivilegeRow where
  id : Int64
  permissionId : Int64
  resourceId : Int64
  principalId : Int64
deriving DecidableEq, Repr

/-- A user, who acts as one principal.  Users that are not active hold
nothing. -/
structure UserRow where
  id : Int64
  name : String
  principalId : Int64
  active : Bool
deriving DecidableEq, Repr

/-- A cluster with the resource that stands for it. -/
structure ClusterRow where
  id : Int64
  name : String
  resourceId : Int64
deriving DecidableEq, Repr

/-- An instance of a view; `clusterId` names the cluster that owns it, and a
view without one stands alone. -/
structure ViewRow where
  id : Int64
  viewName : String
  name : String
  resourceId : Int64
  clusterId : Option Int64
deriving DecidableEq, Repr

/-- The rows of a table. -/
abbrev Row : Table → Type
  | .resourceType => ResourceTypeRow
  | .resource => ResourceRow
  | .permission => PermissionRow
  | .authorization => AuthorizationRow
  | .permissionAuthorization => PermissionAuthorizationRow
  | .principalType => PrincipalTypeRow
  | .principal => PrincipalRow
  | .privilege => PrivilegeRow
  | .user => UserRow
  | .cluster => ClusterRow
  | .view => ViewRow

/-! ## Contents -/

/-- The contents of all tables. -/
structure Tables where
  resourceTypes : List ResourceTypeRow := []
  resources : List ResourceRow := []
  permissions : List PermissionRow := []
  authorizations : List AuthorizationRow := []
  permissionAuthorizations : List PermissionAuthorizationRow := []
  principalTypes : List PrincipalTypeRow := []
  principals : List PrincipalRow := []
  privileges : List PrivilegeRow := []
  users : List UserRow := []
  clusters : List ClusterRow := []
  views : List ViewRow := []
deriving DecidableEq, Repr

namespace Tables

/-- The rows of one table. -/
def rows (tables : Tables) : (table : Table) → List (Row table)
  | .resourceType => tables.resourceTypes
  | .resource => tables.resources
  | .permission => tables.permissions
  | .authorization => tables.authorizations
  | .permissionAuthorization => tables.permissionAuthorizations
  | .principalType => tables.principalTypes
  | .principal => tables.principals
  | .privilege => tables.privileges
  | .user => tables.users
  | .cluster => tables.clusters
  | .view => tables.views

/-- The contents with the given rows in each table. -/
def ofRows (rows : (table : Table) → List (Row table)) : Tables where
  resourceTypes := rows .resourceType
  resources := rows .resource
  permissions := rows .permission
  authorizations := rows .authorization
  permissionAuthorizations := rows .permissionAuthorization
  principalTypes := rows .principalType
  principals := rows .principal
  privileges := rows .privilege
  users := rows .user
  clusters := rows .cluster
  views := rows .view

@[simp]
theorem rows_ofRows (rows : (table : Table) → List (Row table))
    (table : Table) : (ofRows rows).rows table = rows table := by
  cases table <;> rfl

@[simp]
theorem ofRows_rows (tables : Tables) : ofRows tables.rows = tables :=
  rfl

/-- The contents with other rows in one table. -/
def replace (tables : Tables) (table : Table) (rows : List (Row table)) :
    Tables :=
  ofRows fun other =>
    if same : other = table then same ▸ rows else tables.rows other

@[simp]
theorem rows_replace_self (tables : Tables) (table : Table)
    (rows : List (Row table)) : (tables.replace table rows).rows table = rows := by
  simp [replace]

theorem rows_replace_of_ne (tables : Tables) {table other : Table}
    (rows : List (Row table)) (different : other ≠ table) :
    (tables.replace table rows).rows other = tables.rows other := by
  simp [replace, different]

end Tables

end AccessControl.Store
