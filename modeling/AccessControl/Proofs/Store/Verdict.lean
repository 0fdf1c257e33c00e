import Mathlib
import AccessControl.Proofs.Decision.Meaning
import AccessControl.Proofs.Store.Distinct
import AccessControl.Proofs.Store.Resolution

/-!
# Decisions over the store as a query over its tables

A verdict takes several steps: a user is loaded with the privileges of the
user's principal, these are resolved in a batch, and a decision may ask the
store about the queried resource.  This file says with the rows alone when the
verdict is a grant.  Rows may refer to rows that do not exist; each reference
then counts as the readers of the store treat it.
-/

namespace AccessControl.Store

/-! ## Grants in terms of rows -/

/-- The name stored for the id of a type, or the empty text when no row has
the id. -/
def StoredName {α : Type} (rows : List α) (rowId : α → Int32)
    (rowName : α → String) (id : Int32) (name : String) : Prop :=
  (∃ row ∈ rows, rowId row = id ∧ rowName row = name) ∨
    (∀ row ∈ rows, rowId row ≠ id) ∧ name = ""

namespace Tables

/-- The type of a resource has a stored name. -/
def ResourceTypeNamed (tables : Tables) (resource : ResourceRow)
    (name : String) : Prop :=
  StoredName tables.resourceTypes ResourceTypeRow.id ResourceTypeRow.name
    resource.typeId name

/-- The type of a principal has a stored name. -/
def PrincipalTypeNamed (tables : Tables) (principal : PrincipalRow)
    (name : String) : Prop :=
  StoredName tables.principalTypes PrincipalTypeRow.id PrincipalTypeRow.name
    principal.typeId name

/-- A privilege row is complete when the rows that it refers to exist. -/
structure Complete (tables : Tables) (row : PrivilegeRow)
    (permission : PermissionRow) (resource : ResourceRow)
    (principal : PrincipalRow) : Prop where
  permission_mem : permission ∈ tables.permissions
  permission_id : permission.id = row.permissionId
  resource_mem : resource ∈ tables.resources
  resource_id : resource.id = row.resourceId
  principal_mem : principal ∈ tables.principals
  principal_id : principal.id = row.principalId

/-- A privilege on a resource reaches what a query asks about. -/
def Reaches (tables : Tables) (resource : ResourceRow) (query : Query) : Prop :=
  ∃ name, tables.ResourceTypeNamed resource name ∧
    (ResourceType.ofName name = .ok .admin ∨
      (∀ type ∈ query.resourceType, ResourceType.ofName name = .ok type) ∧
        ∀ id ∈ query.resourceId, id = resource.id)

/-- One of the required authorizations is recorded on a permission. -/
def Records (tables : Tables) (permission : Int64)
    (required : AuthorizationSet) : Prop :=
  ∃ row ∈ tables.permissionAuthorizations, row.permissionId = permission ∧
    ∃ authorization,
      Authorization.ofId row.authorizationId = .ok authorization ∧
        required.contains authorization = true

/-- A privilege of a principal settles a query. -/
def GrantsDirectly (tables : Tables) (principal : Int64) (query : Query) :
    Prop :=
  ∃ row ∈ tables.privileges, row.principalId = principal ∧
    ∃ permission resource holder,
      tables.Complete row permission resource holder ∧
        tables.Reaches resource query ∧
          tables.Records permission.id query.required

/-- The view stored under a resource id names a cluster that exists. -/
def Owned (tables : Tables) (resource : Int64) : Prop :=
  ∃ view ∈ tables.views, view.resourceId = resource ∧
    ∃ cluster ∈ tables.clusters, view.clusterId = some cluster.id

/-- A privilege recorded against a resource lets a permission inherit. -/
def LetsInherit (tables : Tables) (resource : Int64) (name : String) : Prop :=
  ∃ row ∈ tables.privileges, row.resourceId = resource ∧
    ∃ permission target holder,
      tables.Complete row permission target holder ∧
        name ≠ "" ∧ tables.PrincipalTypeNamed holder ("ALL." ++ name)

/-- A principal holds a permission of a given name on a cluster. -/
def HoldsOnCluster (tables : Tables) (principal : Int64) (name : String) :
    Prop :=
  ∃ row ∈ tables.privileges, row.principalId = principal ∧
    ∃ permission resource holder,
      tables.Complete row permission resource holder ∧
        (∃ typeName, tables.ResourceTypeNamed resource typeName ∧
          ResourceType.ofName typeName = .ok .cluster) ∧
          permission.name = name

/-- A permission that a principal holds on a cluster is inherited by the
queried view. -/
def GrantsByInheritance (tables : Tables) (principal : Int64) (query : Query) :
    Prop :=
  ∃ id ∈ query.resourceId, tables.Owned id ∧
    ∃ name, tables.LetsInherit id name ∧ tables.HoldsOnCluster principal name

/-- An active user of a given name is granted a query. -/
def Grants (tables : Tables) (userName : String) (query : Query) : Prop :=
  ∃ user ∈ tables.users, user.name = userName ∧ user.active = true ∧
    (tables.GrantsDirectly user.principalId query ∨
      tables.GrantsByInheritance user.principalId query)

end Tables

/-! ## Types -/

/-- The name that is found is a stored one. -/
theorem storedName_storedName {α : Type} (rows : List α) (rowId : α → Int32)
    (rowName : α → String) (id : Int32) :
    StoredName rows rowId rowName id (storedName rows rowId rowName id) := by
  unfold StoredName storedName
  split
  next row found =>
      exact .inl ⟨row, List.mem_of_find?_eq_some found,
        by simpa using List.find?_some found, rfl⟩
  next absent => exact .inr ⟨by simpa using absent, rfl⟩

namespace Tables

namespace Distinct

variable {tables : Tables} (distinct : tables.Distinct)

include distinct

/-- Where ids tell the types apart, only one name is stored. -/
theorem storedName_iff (table : Table) {rowId : Row table → Int32}
    (keys : ∀ row : Row table, Row.key row = .type (rowId row))
    {rowName : Row table → String} {id : Int32} {name : String} :
    StoredName (tables.rows table) rowId rowName id name ↔
      storedName (tables.rows table) rowId rowName id = name := by
  have identifies : Identifies table rowId :=
    .of_key fun a b same => by rw [keys, keys, same]
  have unique {row other : Row table} (member : row ∈ tables.rows table)
      (same : rowId row = id) (otherMember : other ∈ tables.rows table)
      (otherSame : rowId other = id) : row = other := by
    have found := distinct.find?_column_eq_some_iff identifies |>.mpr
      ⟨member, same⟩
    have otherFound := distinct.find?_column_eq_some_iff identifies |>.mpr
      ⟨otherMember, otherSame⟩
    exact Option.some.inj (found.symm.trans otherFound)
  have stored := storedName_storedName (tables.rows table) rowId rowName id
  constructor
  · rintro (⟨row, member, same, rfl⟩ | ⟨absent, rfl⟩)
    · rcases stored with ⟨other, otherMember, otherSame, named⟩ | ⟨absent, _⟩
      · rw [← named, unique otherMember otherSame member same]
      · exact absurd same (absent row member)
    · rcases stored with ⟨other, otherMember, otherSame, _⟩ | ⟨_, empty⟩
      · exact absurd otherSame (absent other otherMember)
      · exact empty
  · rintro rfl
    exact stored

theorem privilege?_eq_some_iff {row : PrivilegeRow} {privilege : Privilege} :
    tables.privilege? row = some privilege ↔
      ∃ permission resource principal,
        tables.Complete row permission resource principal ∧
          tables.assemble row permission resource principal = privilege := by
  have permissionId : Identifies .permission PermissionRow.id :=
    .of_key fun _ _ same => congrArg Key.id same
  have resourceId : Identifies .resource ResourceRow.id :=
    .of_key fun _ _ same => congrArg Key.id same
  have principalId : Identifies .principal PrincipalRow.id :=
    .of_key fun _ _ same => congrArg Key.id same
  simp only [privilege?, Option.bind_eq_bind, Option.bind_eq_some_iff,
    Option.pure_def, Option.some.injEq]
  constructor
  · rintro ⟨permission, foundPermission, resource, foundResource, principal,
      foundPrincipal, assembled⟩
    obtain ⟨permissionMember, permissionSame⟩ :=
      (distinct.find?_column_eq_some_iff permissionId).mp foundPermission
    obtain ⟨resourceMember, resourceSame⟩ :=
      (distinct.find?_column_eq_some_iff resourceId).mp foundResource
    obtain ⟨principalMember, principalSame⟩ :=
      (distinct.find?_column_eq_some_iff principalId).mp foundPrincipal
    exact ⟨permission, resource, principal,
      ⟨permissionMember, permissionSame, resourceMember, resourceSame,
        principalMember, principalSame⟩, assembled⟩
  · rintro ⟨permission, resource, principal, complete, assembled⟩
    exact ⟨permission,
      (distinct.find?_column_eq_some_iff permissionId).mpr
        ⟨complete.permission_mem, complete.permission_id⟩,
      resource,
      (distinct.find?_column_eq_some_iff resourceId).mpr
        ⟨complete.resource_mem, complete.resource_id⟩,
      principal,
      (distinct.find?_column_eq_some_iff principalId).mpr
        ⟨complete.principal_mem, complete.principal_id⟩,
      assembled⟩

/-- A loaded privilege with a property comes from a complete row that was
selected. -/
theorem exists_mem_privilegesWhere_iff {selected : PrivilegeRow → Bool}
    {property : Privilege → Prop} :
    (∃ privilege ∈ (tables.privilegesWhere selected).value,
        property privilege) ↔
      ∃ row ∈ tables.privileges, selected row = true ∧
        ∃ permission resource principal,
          tables.Complete row permission resource principal ∧
            property (tables.assemble row permission resource principal) := by
  simp only [value_privilegesWhere, List.mem_filterMap, List.mem_mergeSort,
    List.mem_filter, distinct.privilege?_eq_some_iff]
  constructor
  · rintro ⟨_, ⟨row, ⟨member, chosen⟩, permission, resource, principal,
      complete, rfl⟩, holds⟩
    exact ⟨row, member, chosen, permission, resource, principal, complete,
      holds⟩
  · rintro ⟨row, member, chosen, permission, resource, principal, complete,
      holds⟩
    exact ⟨_, ⟨row, ⟨member, chosen⟩, permission, resource, principal,
      complete, rfl⟩, holds⟩

end Distinct

/-! ## The direct pass -/

theorem carries_permissionOf_iff {tables : Tables} {permission : PermissionRow}
    {required : AuthorizationSet} :
    (tables.permissionOf permission).Carries required ↔
      tables.Records permission.id required := by
  constructor
  · rintro ⟨entitlement, listed, authorization, known, asked⟩
    obtain ⟨row, recorded, rfl⟩ := List.mem_map.mp listed
    obtain ⟨member, same⟩ := mem_recordsOf.mp recorded
    exact ⟨row, member, same, authorization, known, asked⟩
  · rintro ⟨row, member, same, authorization, known, asked⟩
    have recorded : row ∈ tables.recordsOf permission.id :=
      mem_recordsOf.mpr ⟨member, same⟩
    exact ⟨_, List.mem_map_of_mem recorded, authorization, known, asked⟩

namespace Distinct

variable {tables : Tables} (distinct : tables.Distinct)

include distinct

theorem covers_assemble_iff {row : PrivilegeRow} {permission : PermissionRow}
    {resource : ResourceRow} {principal : PrincipalRow} {query : Query} :
    (tables.assemble row permission resource principal).Covers query ↔
      tables.Reaches resource query := by
  have typed (name : String) : tables.ResourceTypeNamed resource name ↔
      (tables.resourceOf resource).typeName = name :=
    distinct.storedName_iff .resourceType fun _ => rfl
  simp only [Reaches, typed, exists_eq_left']
  exact Iff.rfl

theorem settledBy_privilegesOf_iff {principal : Int64} {query : Query} :
    query.SettledBy (tables.privilegesOf principal).value ↔
      tables.GrantsDirectly principal query := by
  unfold Query.SettledBy privilegesOf GrantsDirectly
  rw [distinct.exists_mem_privilegesWhere_iff]
  simp only [beq_iff_eq, distinct.covers_assemble_iff, assemble_permission,
    carries_permissionOf_iff]

/-! ## The inherited pass -/

theorem heldOnCluster_privilegesOf_iff {principal : Int64} {name : String} :
    HeldOnCluster name (tables.privilegesOf principal).value ↔
      tables.HoldsOnCluster principal name := by
  unfold HeldOnCluster privilegesOf HoldsOnCluster
  rw [distinct.exists_mem_privilegesWhere_iff]
  have typed (resource : ResourceRow) (name : String) :
      tables.ResourceTypeNamed resource name ↔
        (tables.resourceOf resource).typeName = name :=
    distinct.storedName_iff .resourceType fun _ => rfl
  simp only [beq_iff_eq, typed, exists_eq_left', assemble_permission,
    assemble_resource]
  exact Iff.rfl

theorem standsFor_privilegesOn_iff {resource : Int64} {name : String} :
    (∃ entry ∈ (tables.privilegesOn resource).value,
        entry.holder.StandsFor name) ↔
      tables.LetsInherit resource name := by
  unfold privilegesOn LetsInherit
  rw [distinct.exists_mem_privilegesWhere_iff]
  have typed (principal : PrincipalRow) (name : String) :
      tables.PrincipalTypeNamed principal name ↔
        (tables.holderOf principal).typeName = name :=
    distinct.storedName_iff .principalType fun _ => rfl
  simp only [beq_iff_eq, typed, assemble_holder, Holder.StandsFor]

theorem owningCluster_eq_ok_some_iff {resource : Int64} :
    (∃ cluster, tables.owningCluster resource = .ok (some cluster)) ↔
      tables.Owned resource := by
  have viewResource : Identifies .view ViewRow.resourceId :=
    .of_unique fun _ _ same => by simp [Row.sharesUnique, same]
  have clusterId : Identifies .cluster ClusterRow.id :=
    .of_key fun _ _ same => congrArg Key.id same
  unfold owningCluster Owned
  constructor
  · rintro ⟨owner, answer⟩
    cases bound : (tables.views.find? fun view =>
        view.resourceId == resource).bind ViewRow.clusterId with
    | none => simp [bound] at answer
    | some id =>
        obtain ⟨view, foundView, handle⟩ := Option.bind_eq_some_iff.mp bound
        obtain ⟨viewMember, stored⟩ :=
          (distinct.find?_column_eq_some_iff viewResource).mp foundView
        cases foundCluster : tables.clusters.find? fun cluster =>
            cluster.id == id with
        | none => simp [bound, foundCluster] at answer
        | some cluster =>
            obtain ⟨clusterMember, rfl⟩ :=
              (distinct.find?_column_eq_some_iff clusterId).mp foundCluster
            exact ⟨view, viewMember, stored, cluster, clusterMember, handle⟩
  · rintro ⟨view, viewMember, stored, cluster, clusterMember, handle⟩
    have foundView : tables.views.find? (fun view =>
        view.resourceId == resource) = some view :=
      (distinct.find?_column_eq_some_iff viewResource).mpr ⟨viewMember, stored⟩
    have foundCluster : tables.clusters.find? (fun found =>
        found.id == cluster.id) = some cluster :=
      (distinct.find?_column_eq_some_iff clusterId).mpr ⟨clusterMember, rfl⟩
    exact ⟨⟨.cluster, cluster.resourceId⟩, by
      simp [foundView, handle, foundCluster]⟩

/-! ## Users -/

theorem activeUser?_eq_some_iff {name : String} {user : UserRow} :
    tables.activeUser? name = some user ↔
      user ∈ tables.users ∧ user.name = name ∧ user.active = true := by
  have userName : Identifies .user UserRow.name :=
    .of_unique fun _ _ same => by simp [Row.sharesUnique, same]
  have fixes : ∀ row : UserRow,
      (row.name == name && row.active) = true → row.name = name := by
    intro row chosen
    exact beq_iff_eq.mp (Bool.and_eq_true_iff.mp chosen).1
  have search : tables.activeUser? name = some user ↔
      user ∈ tables.users ∧ (user.name == name && user.active) = true :=
    distinct.find?_eq_some_iff userName fixes
  rw [search, Bool.and_eq_true, beq_iff_eq]

end Distinct

/-- The caller that a user is, if the user is active. -/
theorem value_caller? (tables : Tables) (name : String) :
    (tables.caller? name).value =
      (tables.activeUser? name).map fun user =>
        Caller.holding user.name (tables.privilegesOf user.principalId).value := by
  unfold caller?
  cases tables.activeUser? name <;> rfl

end Tables

/-! ## The verdict -/

/-- Load the caller that an active user is and decide a query for it over the
same store. -/
def verdict (store : Store) (userName : String) (query : Query) :
    Except StoreFault Bool :=
  (store.caller? userName).value.map fun caller =>
    store.lookup.isAuthorized caller query

section

variable {store : Store} {tables : Tables} {filled : Bool}
  (present : store.contents = .created tables filled)
  (isOpen : store.isOpen = true)

include present isOpen

theorem tables_of_created (first : Table) : store.tables first = .ok tables := by
  unfold Store.tables connected
  simp only [isOpen, if_true, present]
  rfl

theorem value_caller?_of_created (userName : String) :
    (store.caller? userName).value = .ok (tables.caller? userName).value := by
  unfold caller? load
  rw [tables_of_created present isOpen]
  rfl

theorem value_owningCluster_of_created (id : Int64) :
    (store.lookup.owningCluster id).value = tables.owningCluster id := by
  unfold lookup
  simp only [tables_of_created present isOpen]
  rfl

theorem value_recordedPrivileges_of_created (id : Int64) :
    (store.lookup.recordedPrivileges id).value =
      .ok (tables.privilegesOn id).value := by
  unfold lookup privilegesOn load
  simp only [tables_of_created present isOpen]
  rfl

theorem opens_privilegesOf_iff (distinct : tables.Distinct)
    {principal id : Int64} :
    store.lookup.Opens id (tables.privilegesOf principal).value ↔
      tables.Owned id ∧
        ∃ name, tables.LetsInherit id name ∧
          tables.HoldsOnCluster principal name := by
  unfold PrivilegeLookup.Opens
  simp only [value_owningCluster_of_created present isOpen,
    value_recordedPrivileges_of_created present isOpen,
    distinct.heldOnCluster_privilegesOf_iff, Except.ok.injEq,
    exists_and_left, exists_eq_left', exists_and_right,
    distinct.standsFor_privilegesOn_iff, distinct.owningCluster_eq_ok_some_iff]

/-- A loaded user is granted a query by a decision over the store exactly when
the rows of the tables grant it. -/
theorem isAuthorized_holding_iff (distinct : tables.Distinct) (name : String)
    (principal : Int64) {query : Query}
    (required : query.required.isEmpty = false) :
    store.lookup.isAuthorized
        (some (Caller.holding name (tables.privilegesOf principal).value))
        query = true ↔
      tables.GrantsDirectly principal query ∨
        tables.GrantsByInheritance principal query := by
  rw [PrivilegeLookup.isAuthorized_some_iff _ _ required]
  simp only [Caller.holding, Query.settledBy_distinct,
    PrivilegeLookup.opens_distinct, distinct.settledBy_privilegesOf_iff,
    opens_privilegesOf_iff present isOpen distinct, Tables.GrantsByInheritance]

/-- Loading a user and deciding a query over an open store with tables always
gives a verdict, and it is a grant exactly when the rows of the tables grant
the query to an active user of that name. -/
theorem verdict_iff_grants (distinct : tables.Distinct) (userName : String)
    (query : Query) (required : query.required.isEmpty = false) :
    ∃ granted, store.verdict userName query = .ok granted ∧
      (granted = true ↔ tables.Grants userName query) := by
  refine ⟨store.lookup.isAuthorized (tables.caller? userName).value query,
    ?_, ?_⟩
  · unfold verdict
    rw [value_caller?_of_created present isOpen]
    rfl
  · rw [Tables.value_caller?]
    cases found : tables.activeUser? userName with
    | none =>
        have absent : ¬ tables.Grants userName query := by
          rintro ⟨user, member, named, active, _⟩
          have chosen :=
            distinct.activeUser?_eq_some_iff.mpr ⟨member, named, active⟩
          rw [found] at chosen
          cases chosen
        simp [PrivilegeLookup.isAuthorized_none _ required, absent]
    | some user =>
        rw [Option.map_some,
          isAuthorized_holding_iff present isOpen distinct _ _ required]
        obtain ⟨member, named, active⟩ :=
          distinct.activeUser?_eq_some_iff.mp found
        constructor
        · intro grant
          exact ⟨user, member, named, active, grant⟩
        · rintro ⟨other, otherMember, otherNamed, otherActive, grant⟩
          have chosen := distinct.activeUser?_eq_some_iff.mpr
            ⟨otherMember, otherNamed, otherActive⟩
          rw [found] at chosen
          cases chosen
          exact grant

end

/-! ## A store with missing rows -/

namespace Crossed

/-- The cluster `prod` owns the view under 10, while alice holds `CLUSTER.USER`
on another resource.  The resource of `prod`, the resource of alice's first
privilege and all authorizations are missing. -/
def tables : Tables where
  resourceTypes := [⟨2, "CLUSTER"⟩, ⟨3, "FILES\x7b1.0.0\x7d"⟩]
  resources := [⟨3, 2⟩, ⟨10, 3⟩]
  permissions := [⟨2, "CLUSTER.USER", 2, none⟩, ⟨4, "VIEW.USER", 3, none⟩]
  permissionAuthorizations := [⟨2, "CLUSTER.VIEW_METRICS"⟩]
  principalTypes := [⟨1, "USER"⟩, ⟨7, "ALL.CLUSTER.USER"⟩]
  principals := [⟨100, 1⟩, ⟨107, 7⟩]
  privileges := [⟨1, 2, 99, 100⟩, ⟨2, 2, 3, 100⟩, ⟨3, 4, 10, 107⟩]
  users := [⟨1, "alice", 100, true⟩]
  clusters := [⟨1, "prod", 2⟩]
  views := [⟨1, "FILES\x7b1.0.0\x7d", "files", 10, some 1⟩]

/-- The rows in a store that does not enforce references. -/
def store : Store where
  contents := .created tables true
  enforced := false

/-- Whether the view may be used. -/
def query : Query where
  resourceType := some .view
  resourceId := some 10
  required := .ofList [.viewUse]

theorem tables_distinct : tables.Distinct := by
  intro table
  cases table <;> decide

/-- Alice is let through to the view, and the rows say why. -/
theorem alice_granted_by_rows :
    store.contents = .created tables true ∧ store.isOpen = true ∧
      tables.Distinct ∧ query.required.isEmpty = false ∧
        store.verdict "alice" query = .ok true ∧
          tables.Grants "alice" query := by
  have present : store.contents = .created tables true := rfl
  have isOpen : store.isOpen = true := rfl
  have required : query.required.isEmpty = false := by decide
  have computed : store.verdict "alice" query = .ok true := by cbv
  obtain ⟨granted, verdict, meaning⟩ :=
    verdict_iff_grants present isOpen tables_distinct "alice" query required
  rw [computed] at verdict
  cases verdict
  exact ⟨present, isOpen, tables_distinct, required, computed, meaning.mp rfl⟩

end Crossed

end AccessControl.Store
