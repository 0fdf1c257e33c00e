import AccessControl.Lookup
import AccessControl.Store.Migration

/-!
# Loading privileges

Privilege rows are turned into privileges in a batch: the rows of the other
tables that any of them refers to are fetched once, and then every privilege
row picks what it needs.  A row whose permission, resource or principal is
missing is skipped and logged; a missing type has the empty name, and an
authorization without a row is shown under its id.
-/

namespace AccessControl.Store

/-- What a list of privilege rows refers to. -/
structure Batch where
  permissions : List Permission
  resources : List Resource
  holders : List Holder

/-- The name that a row with the given id has, or the empty text. -/
def storedName {α : Type} (rows : List α) (rowId : α → Int32)
    (rowName : α → String) (id : Int32) : String :=
  match rows.find? fun row => rowId row == id with
  | some row => rowName row
  | none => ""

namespace Tables

/-- The name of a resource type, or the empty text. -/
def resourceTypeName (tables : Tables) : Int32 → String :=
  storedName tables.resourceTypes ResourceTypeRow.id ResourceTypeRow.name

/-- The name of a principal type, or the empty text. -/
def principalTypeName (tables : Tables) : Int32 → String :=
  storedName tables.principalTypes PrincipalTypeRow.id PrincipalTypeRow.name

/-- The authorizations recorded on some permissions, ordered by permission and
then by id. -/
def recordedOn (tables : Tables) (permissions : List Int64) :
    List PermissionAuthorizationRow :=
  (tables.permissionAuthorizations.filter fun row =>
      permissions.contains row.permissionId).mergeSort fun a b =>
    Key.ascending (@Row.key .permissionAuthorization a)
      (@Row.key .permissionAuthorization b)

/-- The entitlement that a recorded authorization stands for. -/
def entitlement (authorizations : List AuthorizationRow)
    (row : PermissionAuthorizationRow) : Entitlement where
  id := row.authorizationId
  name :=
    match authorizations.find? fun known => known.id == row.authorizationId with
    | some known => known.name
    | none => row.authorizationId

/-- The permissions with the given ids. -/
def fetchPermissions (tables : Tables) (ids : List Int64) : List Permission :=
  let recorded := tables.recordedOn ids
  let authorizations := tables.authorizations.filter fun known =>
    recorded.any fun row => row.authorizationId == known.id
  (tables.permissions.filter fun row => ids.contains row.id).map fun row =>
    { id := row.id
      name := row.name
      entitlements :=
        (recorded.filter fun entry => entry.permissionId == row.id).map
          (entitlement authorizations) }

/-- The resources with the given ids. -/
def fetchResources (tables : Tables) (ids : List Int64) : List Resource :=
  (tables.resources.filter fun row => ids.contains row.id).map fun row =>
    { id := row.id, typeName := tables.resourceTypeName row.typeId }

/-- The principals with the given ids. -/
def fetchHolders (tables : Tables) (ids : List Int64) : List Holder :=
  (tables.principals.filter fun row => ids.contains row.id).map fun row =>
    { id := row.id, typeName := tables.principalTypeName row.typeId }

/-- Fetch what a list of privilege rows refers to. -/
def fetchBatch (tables : Tables) (rows : List PrivilegeRow) : Batch where
  permissions := tables.fetchPermissions (rows.map PrivilegeRow.permissionId)
  resources := tables.fetchResources (rows.map PrivilegeRow.resourceId)
  holders := tables.fetchHolders (rows.map PrivilegeRow.principalId)

end Tables

namespace Batch

/-- The privilege that a row stands for, if all it refers to was fetched. -/
def privilege? (batch : Batch) (row : PrivilegeRow) : Option Privilege := do
  let permission ← batch.permissions.find? fun found => found.id == row.permissionId
  let resource ← batch.resources.find? fun found => found.id == row.resourceId
  let holder ← batch.holders.find? fun found => found.id == row.principalId
  pure { id := row.id, holder, resource, permission }

/-- The privileges that rows stand for.  Rows without one are logged. -/
def privileges (batch : Batch) : List PrivilegeRow → Logged (List Privilege)
  | [] => pure []
  | row :: later =>
      match batch.privilege? row with
      | some privilege => do
          let others ← batch.privileges later
          pure (privilege :: others)
      | none => do
          Logged.emit (.danglingPrivilege row.id)
          batch.privileges later

end Batch

namespace Tables

/-- The privileges of the selected rows, by ascending id. -/
def privilegesWhere (tables : Tables) (selected : PrivilegeRow → Bool) :
    Logged (List Privilege) :=
  let rows :=
    (tables.privileges.filter selected).mergeSort fun a b => a.id ≤ b.id
  (tables.fetchBatch rows).privileges rows

/-- The privileges granted to a principal. -/
def privilegesOf (tables : Tables) (principal : Int64) :
    Logged (List Privilege) :=
  tables.privilegesWhere fun row => row.principalId == principal

/-- The privileges recorded against a resource. -/
def privilegesOn (tables : Tables) (resource : Int64) :
    Logged (List Privilege) :=
  tables.privilegesWhere fun row => row.resourceId == resource

/-- The active user of a given name. -/
def activeUser? (tables : Tables) (name : String) : Option UserRow :=
  tables.users.find? fun row => row.name == name && row.active

/-- The caller that an active user is, with all privileges of the user's
principal. -/
def caller? (tables : Tables) (name : String) : Logged (Option Caller) :=
  match tables.activeUser? name with
  | none => pure none
  | some user => do
      let privileges ← tables.privilegesOf user.principalId
      pure (some (Caller.holding user.name privileges))

/-- The cluster that owns the view stored under a resource id. -/
def owningCluster (tables : Tables) (resource : Int64) :
    Except LookupFailure (Option ResourceRef) :=
  match (tables.views.find? fun view => view.resourceId == resource).bind
      ViewRow.clusterId with
  | none => .ok none
  | some id =>
      match tables.clusters.find? fun cluster => cluster.id == id with
      | some cluster => .ok (some ⟨.cluster, cluster.resourceId⟩)
      | none =>
          .error <| .inconsistent <|
            "view resource " ++ toString resource.toInt ++
              " bound to missing cluster " ++ toString id.toInt

end Tables

/-- Load from the tables, for an operation that starts with the given one. -/
def load {α : Type} (store : Store) (first : Table)
    (loading : Tables → Logged α) : Logged (Except StoreFault α) :=
  match store.tables first with
  | .error fault => pure (.error fault)
  | .ok tables => do
      let value ← loading tables
      pure (.ok value)

/-- The active user of a given name. -/
def activeUser? (store : Store) (name : String) :
    Except StoreFault (Option UserRow) :=
  (store.tables .user).map fun tables => tables.activeUser? name

/-- The caller that an active user is. -/
def caller? (store : Store) (name : String) :
    Logged (Except StoreFault (Option Caller)) :=
  store.load .user fun tables => tables.caller? name

/-- The privileges granted to a principal. -/
def privilegesOf (store : Store) (principal : Int64) :
    Logged (Except StoreFault (List Privilege)) :=
  store.load .privilege fun tables => tables.privilegesOf principal

/-- The privileges recorded against a resource. -/
def privilegesOn (store : Store) (resource : Int64) :
    Logged (Except StoreFault (List Privilege)) :=
  store.load .privilege fun tables => tables.privilegesOn resource

/-- A store that cannot be read makes a question unanswerable. -/
def unavailable (fault : StoreFault) : LookupFailure :=
  .unavailable fault.message

/-- The store's answers to the questions of a decision. -/
def lookup (store : Store) : PrivilegeLookup where
  owningCluster resource :=
    match store.tables .view with
    | .error fault => pure (.error (unavailable fault))
    | .ok tables => pure (tables.owningCluster resource)
  recordedPrivileges resource := do
    let privileges ← store.privilegesOn resource
    pure (privileges.mapError unavailable)

end AccessControl.Store
