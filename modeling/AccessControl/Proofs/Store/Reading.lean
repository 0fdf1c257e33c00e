import Mathlib.Data.List.Forall2
import AccessControl.Proofs.Store.History
import AccessControl.Proofs.Store.Verdict

/-!
# Reading intact tables

The readers of the store are prepared for rows that refer to missing rows: they
skip a privilege, leave a name empty, or refuse to name a cluster.  Over intact
tables none of this happens.  Every privilege row stands for exactly one
privilege, everything in it is read from a row, and where a reader takes the
first row that it finds there is no other.
-/

namespace AccessControl.Store

/-! ## Loading without losses -/

theorem Batch.events_privileges (batch : Batch) (rows : List PrivilegeRow) :
    (batch.privileges rows).events =
      (rows.filter fun row => (batch.privilege? row).isNone).map fun row =>
        .danglingPrivilege row.id := by
  induction rows with
  | nil => rfl
  | cons row later induction =>
      cases resolved : batch.privilege? row with
      | none => simp [privileges, resolved, induction]
      | some privilege => simp [privileges, resolved, induction]

theorem Tables.events_privilegesWhere (tables : Tables)
    (selected : PrivilegeRow → Bool) :
    (tables.privilegesWhere selected).events =
      (((tables.privileges.filter selected).mergeSort fun a b =>
          a.id ≤ b.id).filter fun row => (tables.privilege? row).isNone).map
        fun row => .danglingPrivilege row.id := by
  unfold privilegesWhere
  rw [Batch.events_privileges]
  congr 1
  apply List.filter_congr
  intro row member
  rw [tables.privilege?_fetchBatch member]

theorem forall₂_filterMap {α β : Type} {relates : α → β → Prop}
    {step : α → Option β} {rows : List α}
    (resolved : ∀ row ∈ rows, ∃ value, step row = some value ∧
      relates row value) :
    List.Forall₂ relates rows (rows.filterMap step) := by
  induction rows with
  | nil => exact .nil
  | cons row later induction =>
      obtain ⟨value, found, related⟩ := resolved row List.mem_cons_self
      rw [List.filterMap_cons_some found]
      exact .cons related (induction fun other member =>
        resolved other (List.mem_cons_of_mem row member))

namespace Tables

/-! ## What is read -/

/-- A record of an authorization is shown under the name that is stored for
it. -/
def Shows (tables : Tables) (recorded : PermissionAuthorizationRow)
    (entitlement : Entitlement) : Prop :=
  ∃ known ∈ tables.authorizations, known.id = recorded.authorizationId ∧
    entitlement = ⟨known.id, known.name⟩

/-- A privilege tells what is stored for its row: each of its parts is read
from a row, and so is the name of each type. -/
structure Tells (tables : Tables) (row : PrivilegeRow) (privilege : Privilege) :
    Prop where
  id : privilege.id = row.id
  resource : ∃ stored ∈ tables.resources, stored.id = row.resourceId ∧
    ∃ type ∈ tables.resourceTypes, type.id = stored.typeId ∧
      privilege.resource = ⟨stored.id, type.name⟩
  holder : ∃ stored ∈ tables.principals, stored.id = row.principalId ∧
    ∃ type ∈ tables.principalTypes, type.id = stored.typeId ∧
      privilege.holder = ⟨stored.id, type.name⟩
  permission : ∃ stored ∈ tables.permissions, stored.id = row.permissionId ∧
    privilege.permission.id = stored.id ∧
      privilege.permission.name = stored.name
  entitlements : List.Forall₂ tables.Shows (tables.recordsOf row.permissionId)
    privilege.permission.entitlements

/-- The privilege rows of a selection in the order in which they are read. -/
def selection (tables : Tables) (selected : PrivilegeRow → Bool) :
    List PrivilegeRow :=
  (tables.privileges.filter selected).mergeSort fun a b => a.id ≤ b.id

theorem mem_selection {tables : Tables} {selected : PrivilegeRow → Bool}
    {row : PrivilegeRow} :
    row ∈ tables.selection selected ↔
      row ∈ tables.privileges ∧ selected row = true := by
  simp [selection]

namespace Intact

variable {tables : Tables} (intact : tables.Intact)

include intact

/-- The row that a reference names. -/
theorem exists_referred (table : Table) {row : Row table}
    (member : row ∈ tables.rows table) {reference : Reference}
    (referenceMember : reference ∈ Row.references row) :
    ∃ other ∈ tables.rows reference.table, Row.key other = reference.key := by
  have resolves := intact.resolved table row member reference referenceMember
  obtain ⟨other, otherMember, same⟩ := List.any_eq_true.mp resolves
  exact ⟨other, otherMember, beq_iff_eq.mp same⟩

/-- The stored name of the type that a reference names is that of its row. -/
theorem exists_storedName_eq (table target : Table) {row : Row table}
    (member : row ∈ tables.rows table) {rowId : Row target → Int32}
    (keys : ∀ row : Row target, Row.key row = .type (rowId row))
    (rowName : Row target → String) {id : Int32}
    (refers : ⟨target, .type id, .refuse⟩ ∈ Row.references row) :
    ∃ type ∈ tables.rows target, rowId type = id ∧
      storedName (tables.rows target) rowId rowName id = rowName type := by
  obtain ⟨type, typeMember, same⟩ := intact.exists_referred table member refers
  rw [keys] at same
  have named : StoredName (tables.rows target) rowId rowName id (rowName type) :=
    .inl ⟨type, typeMember, Key.type.inj same, rfl⟩
  exact ⟨type, typeMember, Key.type.inj same,
    (intact.distinct.storedName_iff target keys).mp named⟩

theorem resourceOf_eq {resource : ResourceRow}
    (member : resource ∈ tables.resources) :
    ∃ type ∈ tables.resourceTypes, type.id = resource.typeId ∧
      tables.resourceOf resource = ⟨resource.id, type.name⟩ := by
  obtain ⟨type, typeMember, same, named⟩ :=
    intact.exists_storedName_eq .resource .resourceType member (fun _ => rfl)
      ResourceTypeRow.name List.mem_cons_self
  exact ⟨type, typeMember, same, congrArg _ named⟩

theorem holderOf_eq {principal : PrincipalRow}
    (member : principal ∈ tables.principals) :
    ∃ type ∈ tables.principalTypes, type.id = principal.typeId ∧
      tables.holderOf principal = ⟨principal.id, type.name⟩ := by
  obtain ⟨type, typeMember, same, named⟩ :=
    intact.exists_storedName_eq .principal .principalType member
      (fun _ => rfl) PrincipalTypeRow.name List.mem_cons_self
  exact ⟨type, typeMember, same, congrArg _ named⟩

theorem shows_entitlement {recorded : PermissionAuthorizationRow}
    (member : recorded ∈ tables.permissionAuthorizations) :
    tables.Shows recorded (entitlement tables.authorizations recorded) := by
  obtain ⟨known, knownMember, same⟩ :=
    intact.exists_referred .permissionAuthorization member
      (List.mem_cons_of_mem _ List.mem_cons_self)
  have identifies : Identifies .authorization AuthorizationRow.id :=
    .of_key fun _ _ same => congrArg Key.word same
  have knownId : known.id = recorded.authorizationId := Key.word.inj same
  have found : tables.authorizations.find? (fun row =>
      row.id == recorded.authorizationId) = some known :=
    (intact.distinct.find?_column_eq_some_iff identifies).mpr
      ⟨knownMember, knownId⟩
  refine ⟨known, knownMember, knownId, ?_⟩
  unfold entitlement
  rw [found, knownId]

theorem exists_complete {row : PrivilegeRow}
    (member : row ∈ tables.privileges) :
    ∃ permission resource principal,
      tables.Complete row permission resource principal := by
  obtain ⟨permission, permissionMember, permissionSame⟩ :=
    intact.exists_referred .privilege member List.mem_cons_self
  obtain ⟨resource, resourceMember, resourceSame⟩ :=
    intact.exists_referred .privilege member
      (List.mem_cons_of_mem _ List.mem_cons_self)
  obtain ⟨principal, principalMember, principalSame⟩ :=
    intact.exists_referred .privilege member
      (List.mem_cons_of_mem _ (List.mem_cons_of_mem _ List.mem_cons_self))
  exact ⟨permission, resource, principal, permissionMember,
    Key.id.inj permissionSame, resourceMember, Key.id.inj resourceSame,
    principalMember, Key.id.inj principalSame⟩

/-- Every privilege row stands for a privilege that tells what is stored. -/
theorem exists_privilege {row : PrivilegeRow}
    (member : row ∈ tables.privileges) :
    ∃ privilege, tables.privilege? row = some privilege ∧
      tables.Tells row privilege := by
  obtain ⟨permission, resource, principal, complete⟩ :=
    intact.exists_complete member
  refine ⟨tables.assemble row permission resource principal,
    intact.distinct.privilege?_eq_some_iff.mpr
      ⟨permission, resource, principal, complete, rfl⟩, ?_⟩
  constructor
  · rfl
  · obtain ⟨type, typeMember, typed, read⟩ :=
      intact.resourceOf_eq complete.resource_mem
    exact ⟨resource, complete.resource_mem, complete.resource_id, type,
      typeMember, typed, read⟩
  · obtain ⟨type, typeMember, typed, read⟩ :=
      intact.holderOf_eq complete.principal_mem
    exact ⟨principal, complete.principal_mem, complete.principal_id, type,
      typeMember, typed, read⟩
  · exact ⟨permission, complete.permission_mem, complete.permission_id, rfl,
      rfl⟩
  · have shown : List.Forall₂ tables.Shows (tables.recordsOf permission.id)
        ((tables.recordsOf permission.id).map
          (entitlement tables.authorizations)) := by
      rw [List.forall₂_map_right_iff, List.forall₂_same]
      intro recorded recordedMember
      exact intact.shows_entitlement (mem_recordsOf.mp recordedMember).1
    rw [complete.permission_id] at shown
    rw [assemble_permission, permissionOf, complete.permission_id]
    exact shown

/-- Loading yields one privilege for each selected row and logs nothing. -/
theorem privilegesWhere_eq (selected : PrivilegeRow → Bool) :
    ∃ privileges, tables.privilegesWhere selected = ⟨privileges, []⟩ ∧
      List.Forall₂ tables.Tells (tables.selection selected) privileges := by
  have resolved : ∀ row ∈ tables.selection selected, ∃ privilege,
      tables.privilege? row = some privilege ∧ tables.Tells row privilege := by
    intro row member
    exact intact.exists_privilege (mem_selection.mp member).1
  refine ⟨(tables.selection selected).filterMap tables.privilege?, ?_,
    forall₂_filterMap resolved⟩
  have silent : (tables.privilegesWhere selected).events = [] := by
    rw [events_privilegesWhere, List.map_eq_nil_iff, List.filter_eq_nil_iff]
    intro row member
    obtain ⟨privilege, found, _⟩ := resolved row member
    simp [found]
  rw [← silent]
  exact congrArg (Logged.mk · _) (tables.value_privilegesWhere selected)

/-- A view that names a cluster is owned by one. -/
theorem owningCluster_eq_ok (resource : Int64) :
    ∃ binding, tables.owningCluster resource = .ok binding := by
  unfold owningCluster
  cases bound : (tables.views.find? fun view =>
      view.resourceId == resource).bind ViewRow.clusterId with
  | none => exact ⟨none, rfl⟩
  | some id =>
      obtain ⟨view, found, handle⟩ := Option.bind_eq_some_iff.mp bound
      have referenced : ⟨.cluster, .id id, .detach⟩ ∈
          @Row.references .view view := by
        simp [Row.references, handle]
      obtain ⟨cluster, clusterMember, same⟩ :=
        intact.exists_referred .view (List.mem_of_find?_eq_some found)
          referenced
      have identifies : Identifies .cluster ClusterRow.id :=
        .of_key fun _ _ same => congrArg Key.id same
      have foundCluster : tables.clusters.find? (fun row => row.id == id) =
          some cluster :=
        (intact.distinct.find?_column_eq_some_iff identifies).mpr
          ⟨clusterMember, Key.id.inj same⟩
      exact ⟨some ⟨.cluster, cluster.resourceId⟩, by simp [foundCluster]⟩

end Intact

/-- At most one row has a given value in a column that tells rows apart. -/
theorem Distinct.length_filter_le_one {α : Type} [DecidableEq α]
    {tables : Tables} (distinct : tables.Distinct) {table : Table}
    {column : Row table → α} (identifies : Identifies table column)
    (value : α) :
    ((tables.rows table).filter fun row => column row == value).length ≤ 1 := by
  have apart := (distinct table).filter fun row => column row == value
  cases chosen : (tables.rows table).filter fun row => column row == value with
  | nil => simp
  | cons first later =>
      cases later with
      | nil => simp
      | cons second others =>
          rw [chosen] at apart
          have clear := (List.pairwise_cons.mp apart).1 second
            List.mem_cons_self
          have holds : ∀ row ∈ first :: second :: others,
              column row = value := by
            intro row member
            rw [← chosen] at member
            exact beq_iff_eq.mp (List.mem_filter.mp member).2
          have same : column first = column second := by
            rw [holds first List.mem_cons_self, holds second (by simp)]
          rw [identifies first second same] at clear
          cases clear

end Tables

/-! ## The readers of a store -/

/-- What the readers of a store find when no row is missing.  Where they take
the first of several rows, there is no second. -/
structure ReadsWhole (store : Store) (tables : Tables) : Prop where
  ofPrincipal : ∀ principal, ∃ privileges,
    store.privilegesOf principal = ⟨.ok privileges, []⟩ ∧
      List.Forall₂ tables.Tells
        (tables.selection fun row => row.principalId == principal) privileges
  onResource : ∀ resource, ∃ privileges,
    store.privilegesOn resource = ⟨.ok privileges, []⟩ ∧
      List.Forall₂ tables.Tells
        (tables.selection fun row => row.resourceId == resource) privileges
  owner : ∀ resource, ∃ binding,
    store.lookup.owningCluster resource = pure (.ok binding)
  oneUser : ∀ name,
    (tables.users.filter fun row => row.name == name).length ≤ 1
  oneView : ∀ resource,
    (tables.views.filter fun row => row.resourceId == resource).length ≤ 1

theorem load_of_silent {α : Type} {store : Store} {tables : Tables}
    {first : Table} (loaded : store.tables first = .ok tables)
    {loading : Tables → Logged α} {value : α}
    (silent : loading tables = ⟨value, []⟩) :
    store.load first loading = ⟨.ok value, []⟩ := by
  unfold load
  simp only [loaded, silent]
  rfl

theorem Sound.readsWhole {store : Store} (sound : store.Sound)
    {tables : Tables} {filled : Bool}
    (present : store.contents = .created tables filled) :
    store.ReadsWhole tables := by
  have intact : tables.Intact := sound.intact tables filled present
  have loaded : ∀ first, store.tables first = .ok tables :=
    tables_of_created present sound.isOpen
  constructor
  · intro principal
    obtain ⟨privileges, read, told⟩ :=
      intact.privilegesWhere_eq fun row => row.principalId == principal
    exact ⟨privileges, load_of_silent (loaded .privilege) read, told⟩
  · intro resource
    obtain ⟨privileges, read, told⟩ :=
      intact.privilegesWhere_eq fun row => row.resourceId == resource
    exact ⟨privileges, load_of_silent (loaded .privilege) read, told⟩
  · intro resource
    obtain ⟨binding, found⟩ := intact.owningCluster_eq_ok resource
    refine ⟨binding, ?_⟩
    unfold lookup
    simp only [loaded, found]
  · intro name
    have identifies : Tables.Identifies .user UserRow.name :=
      .of_unique fun _ _ same => beq_iff_eq.mpr same
    exact intact.distinct.length_filter_le_one identifies name
  · intro resource
    have identifies : Tables.Identifies .view ViewRow.resourceId :=
      .of_unique fun _ _ same => beq_iff_eq.mpr same
    exact intact.distinct.length_filter_le_one identifies resource

/-- Whatever is done to the migrated store while references are enforced, and
whether it succeeds or fails, the readers miss nothing. -/
theorem readsWhole_after (history : List Action) {tables : Tables}
    {filled : Bool}
    (present :
      (migrated.afterAll history).contents = .created tables filled) :
    (migrated.afterAll history).ReadsWhole tables :=
  (sound_migrated.afterAll history).readsWhole present

namespace Eventful

/-- A view loses its cluster, and a rollback stops halfway. -/
def history : List Action :=
  [.execute (.insert .resource [⟨2, 2⟩, ⟨10, 3⟩]),
    .execute (.insert .cluster [⟨1, "prod", 2⟩]),
    .execute (.insert .view [⟨1, "FILES", "files", 10, some 1⟩]),
    .execute (.insert .privilege [⟨1, 2, 2, 3⟩]),
    .execute (.delete .cluster (.id 1)),
    .migrateDown]

/-- What is left: permissions without their authorizations, and a view that
stands alone. -/
def tables : Tables where
  resourceTypes := Catalog.resourceTypes
  resources := [Catalog.adminResource, ⟨2, 2⟩, ⟨10, 3⟩]
  permissions := Catalog.permissions
  authorizations := Catalog.authorizations
  principalTypes := Catalog.principalTypes
  principals := Catalog.inheritingPrincipals
  privileges := [⟨1, 2, 2, 3⟩]
  views := [⟨1, "FILES", "files", 10, none⟩]

theorem contents_afterAll :
    (migrated.afterAll history).contents = .created tables true := by
  decide +kernel

theorem reads_whole_halfway :
    (migrated.afterAll history).contents = .created tables true ∧
      (migrated.afterAll history).ReadsWhole tables :=
  ⟨contents_afterAll, readsWhole_after history contents_afterAll⟩

end Eventful

end AccessControl.Store
