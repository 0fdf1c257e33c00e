import AccessControl.Proofs.Store.Reading

/-!
# A register in place of a store

A register holds in memory what the tables say about views and privileges.
The store answers each question with a search or a load of its own; the
register is filled once, from all rows.  Over a store that enforces references
the two answer alike: views have different resources, so the order in which
they are registered plays no part, and the privileges on one resource keep
their order among all privileges.
-/

namespace AccessControl

/-! ## Filling a register -/

namespace PrivilegeRegister

theorem foldl_addView {α : Type} (resource : α → Int64)
    (owner : α → Option ResourceRef) (rows : List α)
    (register : PrivilegeRegister) :
    rows.foldl (fun register row =>
        register.addView (resource row) (owner row)) register =
      { register with
        views := rows.reverse.map (fun row => (resource row, owner row)) ++
          register.views } := by
  induction rows generalizing register with
  | nil => rfl
  | cons row later induction =>
      rw [List.foldl_cons, induction]
      simp [addView]

theorem foldl_addPrivilege (privileges : List Privilege)
    (register : PrivilegeRegister) :
    privileges.foldl addPrivilege register =
      { register with privileges := register.privileges ++ privileges } := by
  induction privileges generalizing register with
  | nil => simp
  | cons privilege later induction =>
      rw [List.foldl_cons, induction]
      simp [addPrivilege]

end PrivilegeRegister

namespace Store

theorem lookup_map_eq_find? {α β : Type} (column : α → Int64) (entry : α → β)
    (rows : List α) (value : Int64) :
    (rows.map fun row => (column row, entry row)).lookup value =
      (rows.find? fun row => column row == value).map entry := by
  induction rows with
  | nil => rfl
  | cons row later induction =>
      rw [List.map_cons, List.lookup_cons, List.find?_cons, induction,
        BEq.comm]
      cases column row == value <;> rfl

namespace Tables

/-- The cluster that a view names. -/
def ownerOf (tables : Tables) (view : ViewRow) : Option ResourceRef := do
  let id ← view.clusterId
  let cluster ← tables.clusters.find? fun cluster => cluster.id == id
  pure ⟨.cluster, cluster.resourceId⟩

/-- The register with the given views, in this order, and with all privileges
by ascending id. -/
def register (tables : Tables) (views : List ViewRow) : PrivilegeRegister :=
  (tables.privilegesWhere fun _ => true).value.foldl
    PrivilegeRegister.addPrivilege <|
      views.foldl (fun register view =>
        register.addView view.resourceId (tables.ownerOf view)) {}

theorem views_register (tables : Tables) (views : List ViewRow) :
    (tables.register views).views =
      views.reverse.map fun view =>
        (view.resourceId, tables.ownerOf view) := by
  unfold register
  rw [PrivilegeRegister.foldl_addPrivilege,
    PrivilegeRegister.foldl_addView ViewRow.resourceId tables.ownerOf]
  exact List.append_nil _

theorem privileges_register (tables : Tables) (views : List ViewRow) :
    (tables.register views).privileges =
      (tables.privilegesWhere fun _ => true).value := by
  unfold register
  rw [PrivilegeRegister.foldl_addPrivilege,
    PrivilegeRegister.foldl_addView ViewRow.resourceId tables.ownerOf]
  rfl

/-! ## The owner of a view -/

section

variable {tables : Tables}

theorem owningCluster_register (distinct : tables.Distinct)
    {views : List ViewRow} (rearranged : views.Perm tables.views)
    (resource : Int64) :
    (tables.register views).owningCluster resource =
      (tables.views.find? fun view => view.resourceId == resource).bind
        tables.ownerOf := by
  have identifies : Identifies .view ViewRow.resourceId :=
    .of_unique fun _ _ same => beq_iff_eq.mpr same
  have found : views.reverse.find? (fun view => view.resourceId == resource) =
      tables.views.find? fun view => view.resourceId == resource :=
    distinct.find?_eq_of_perm identifies (fun _ => beq_iff_eq.mp)
      ((List.reverse_perm views).trans rearranged)
  unfold PrivilegeRegister.owningCluster
  rw [views_register, lookup_map_eq_find?, found]
  cases tables.views.find? fun view => view.resourceId == resource <;> rfl

/-- The store finds the cluster that the view under a resource names. -/
theorem Intact.owningCluster_eq (intact : tables.Intact) (resource : Int64) :
    tables.owningCluster resource =
      .ok ((tables.views.find? fun view => view.resourceId == resource).bind
        tables.ownerOf) := by
  obtain ⟨binding, answered⟩ := intact.owningCluster_eq_ok resource
  unfold owningCluster at answered ⊢
  cases found : tables.views.find? fun view => view.resourceId == resource with
  | none => rfl
  | some view =>
      cases named : view.clusterId with
      | none => simp [ownerOf, named]
      | some id =>
          cases held : tables.clusters.find? fun cluster =>
              cluster.id == id with
          | none => simp [found, named, held] at answered
          | some cluster => simp [ownerOf, named, held]

/-! ## The privileges on a resource -/

theorem ascending_selection (tables : Tables)
    (selected : PrivilegeRow → Bool) :
    (tables.selection selected).Pairwise fun a b => a.id ≤ b.id := by
  have ordered : (tables.selection selected).Pairwise fun a b =>
      decide (a.id ≤ b.id) = true := by
    apply List.pairwise_mergeSort
    · intro a b c first second
      grind
    · intro a b
      grind
  exact ordered.imp of_decide_eq_true

/-- Some privilege rows come in the order that they have among all. -/
theorem Distinct.filter_selection (distinct : tables.Distinct)
    (selected : PrivilegeRow → Bool) :
    (tables.selection fun _ => true).filter selected =
      tables.selection selected := by
  have whole : (tables.selection fun _ => true).Perm tables.privileges := by
    unfold selection
    rw [List.filter_true]
    exact List.mergeSort_perm _ _
  have equal : ∀ a b, a ∈ (tables.selection fun _ => true).filter selected →
      b ∈ tables.selection selected → a.id ≤ b.id → b.id ≤ a.id → a = b := by
    intro a b aMember bMember forward backward
    have sameKey : @Row.key .privilege a = @Row.key .privilege b :=
      congrArg Key.id (Int64.le_antisymm forward backward)
    exact distinct.eq_of_key
      (mem_selection.mp (List.mem_of_mem_filter aMember)).1
      (mem_selection.mp bMember).1 sameKey
  apply List.Perm.eq_of_pairwise equal
    ((tables.ascending_selection _).filter selected)
    (tables.ascending_selection selected)
  exact (whole.filter selected).trans (List.mergeSort_perm _ _).symm

theorem Distinct.resource_id_of_privilege? (distinct : tables.Distinct)
    {row : PrivilegeRow} {privilege : Privilege}
    (resolved : tables.privilege? row = some privilege) :
    privilege.resource.id = row.resourceId := by
  obtain ⟨permission, resource, principal, complete, rfl⟩ :=
    distinct.privilege?_eq_some_iff.mp resolved
  exact complete.resource_id

theorem recordedPrivileges_register (distinct : tables.Distinct)
    (views : List ViewRow) (resource : Int64) :
    (tables.register views).recordedPrivileges resource =
      (tables.privilegesOn resource).value := by
  have kept : ∀ row : PrivilegeRow,
      (tables.privilege? row).filter (fun privilege =>
          privilege.resource.id == resource) =
        if row.resourceId == resource then tables.privilege? row else none := by
    intro row
    cases resolved : tables.privilege? row with
    | none => simp
    | some privilege =>
        rw [Option.filter_some, distinct.resource_id_of_privilege? resolved]
  calc (tables.register views).recordedPrivileges resource
      = ((tables.selection fun _ => true).filterMap tables.privilege?).filter
          fun privilege => privilege.resource.id == resource := by
        unfold PrivilegeRegister.recordedPrivileges
        rw [privileges_register, value_privilegesWhere]
        rfl
    _ = (tables.selection fun _ => true).filterMap fun row =>
          if row.resourceId == resource then tables.privilege? row
          else none := by
        rw [List.filter_filterMap]
        exact List.filterMap_congr fun row _ => kept row
    _ = (tables.selection fun row => row.resourceId == resource).filterMap
          tables.privilege? := by
        rw [← distinct.filter_selection fun row => row.resourceId == resource,
          List.filterMap_filter]
    _ = (tables.privilegesOn resource).value :=
        (tables.value_privilegesWhere _).symm

end

end Tables

/-! ## The register in place of the store -/

/-- Two lookups answer both questions alike for every resource, and so do the
decisions over them for every caller and query. -/
structure Interchangeable (lookup other : PrivilegeLookup) : Prop where
  owningCluster : ∀ id, lookup.owningCluster id = other.owningCluster id
  recordedPrivileges : ∀ id,
    lookup.recordedPrivileges id = other.recordedPrivileges id
  isAuthorized : ∀ caller query,
    lookup.isAuthorized caller query = other.isAuthorized caller query

section

variable {store : Store} {tables : Tables} {filled : Bool}

theorem Sound.owningCluster_eq_register (sound : store.Sound)
    (present : store.contents = .created tables filled) {views : List ViewRow}
    (rearranged : views.Perm tables.views) (id : Int64) :
    store.lookup.owningCluster id =
      (tables.register views).lookup.owningCluster id := by
  have intact : tables.Intact := sound.intact tables filled present
  unfold lookup PrivilegeRegister.lookup
  simp only [tables_of_created present sound.isOpen,
    intact.owningCluster_eq, Tables.owningCluster_register intact.distinct
      rearranged]

theorem Sound.recordedPrivileges_eq_register (sound : store.Sound)
    (present : store.contents = .created tables filled)
    (views : List ViewRow) (id : Int64) :
    store.lookup.recordedPrivileges id =
      (tables.register views).lookup.recordedPrivileges id := by
  have intact : tables.Intact := sound.intact tables filled present
  obtain ⟨privileges, read, _⟩ := (sound.readsWhole present).onResource id
  have answer : store.lookup.recordedPrivileges id = pure (.ok privileges) := by
    unfold lookup
    simp only [read]
    rfl
  have value : (tables.privilegesOn id).value = privileges := by
    have stored := value_recordedPrivileges_of_created present sound.isOpen id
    rw [answer] at stored
    exact (Except.ok.inj stored).symm
  rw [answer, ← value,
    ← Tables.recordedPrivileges_register intact.distinct views id]
  rfl

theorem sound_blank : Sound {} :=
  ⟨rfl, rfl, Contents.intact_blank⟩

/-- Whatever is done to a new store while references are enforced, and whether
it succeeds or fails: once there are tables, a register filled from them
stands in for the store.  The views may be registered in any order. -/
theorem interchangeable_register (history : List Action)
    (present : (({} : Store).afterAll history).contents =
      .created tables filled)
    {views : List ViewRow} (rearranged : views.Perm tables.views) :
    Interchangeable (({} : Store).afterAll history).lookup
      (tables.register views).lookup := by
  have sound := sound_blank.afterAll history
  have clusters := sound.owningCluster_eq_register present rearranged
  have privileges := sound.recordedPrivileges_eq_register present views
  refine ⟨clusters, privileges, ?_⟩
  intro caller query
  have alike : (({} : Store).afterAll history).lookup =
      (tables.register views).lookup :=
    congrArg₂ PrivilegeLookup.mk (funext clusters) (funext privileges)
  rw [alike]

end

/-- The permission to use a view, as the catalog has it. -/
def Catalog.viewUser : Permission where
  id := 4
  name := "VIEW.USER"
  entitlements := [⟨"VIEW.USE", "Use View"⟩]

theorem Catalog.permissionOf_viewUser {tables : Tables}
    (recorded : tables.permissionAuthorizations =
      permissions.flatMap fun row =>
        (carried row.id).map fun authorization => ⟨row.id, authorization⟩)
    (named : tables.authorizations = authorizations) :
    tables.permissionOf ⟨4, "VIEW.USER", 3, some "View User"⟩ = viewUser := by
  have alone : (permissions.flatMap fun row => (carried row.id).map
      fun authorization => PermissionAuthorizationRow.mk row.id authorization).filter
        (fun row => row.permissionId == 4) = [⟨4, "VIEW.USE"⟩] := by
    decide +kernel
  rw [Tables.permissionOf, Tables.recordsOf, recorded, named, alone,
    List.mergeSort_singleton]
  decide +kernel

namespace Registered

/-- Two views and three privileges are inserted, the privileges out of order;
a last one is refused, for its resource does not exist. -/
def history : List Action :=
  [.migrateUp,
    .execute (.insert .principal [⟨100, 1⟩]),
    .execute (.insert .resource [⟨2, 2⟩, ⟨10, 3⟩, ⟨11, 3⟩]),
    .execute (.insert .cluster [⟨1, "prod", 2⟩]),
    .execute (.insert .view
      [⟨1, "FILES", "files", 10, some 1⟩, ⟨2, "HIVE", "hive", 11, none⟩]),
    .execute (.insert .privilege
      [⟨3, 4, 10, 7⟩, ⟨1, 2, 2, 100⟩, ⟨2, 4, 10, 100⟩]),
    .execute (.insert .privilege [⟨4, 4, 12, 7⟩])]

def tables : Tables where
  resourceTypes := Catalog.resourceTypes
  resources := [Catalog.adminResource, ⟨2, 2⟩, ⟨10, 3⟩, ⟨11, 3⟩]
  permissions := Catalog.permissions
  authorizations := Catalog.authorizations
  permissionAuthorizations := Catalog.permissions.flatMap fun row =>
    (Catalog.carried row.id).map fun authorization => ⟨row.id, authorization⟩
  principalTypes := Catalog.principalTypes
  principals := Catalog.inheritingPrincipals ++ [⟨100, 1⟩]
  privileges := [⟨3, 4, 10, 7⟩, ⟨1, 2, 2, 100⟩, ⟨2, 4, 10, 100⟩]
  clusters := [⟨1, "prod", 2⟩]
  views :=
    [⟨1, "FILES", "files", 10, some 1⟩, ⟨2, "HIVE", "hive", 11, none⟩]

theorem contents_afterAll :
    (({} : Store).afterAll history).contents = .created tables true := by
  decide +kernel

/-- What is recorded on the view under 10, by ascending id. -/
def recorded : List Privilege :=
  [⟨2, ⟨100, "USER"⟩, ⟨10, "VIEW"⟩, Catalog.viewUser⟩,
    ⟨3, ⟨7, "ALL.CLUSTER.USER"⟩, ⟨10, "VIEW"⟩, Catalog.viewUser⟩]

theorem selection_ten :
    (tables.selection fun row => row.resourceId == 10) =
      [⟨2, 4, 10, 100⟩, ⟨3, 4, 10, 7⟩] := by
  cbv

theorem value_privilegesOn_ten : (tables.privilegesOn 10).value = recorded := by
  have resolved : (tables.privilegesOn 10).value =
      (tables.selection fun row => row.resourceId == 10).filterMap
        tables.privilege? :=
    tables.value_privilegesWhere _
  have permission := @Catalog.permissionOf_viewUser tables rfl rfl
  rw [resolved, selection_ten, recorded, ← permission]
  rfl

/-- The views may be registered from the last to the first.  The register knows
the cluster of the first view and all that is recorded on it. -/
theorem interchangeable_reversed :
    (({} : Store).afterAll history).contents = .created tables true ∧
      tables.views.reverse.Perm tables.views ∧
        Interchangeable (({} : Store).afterAll history).lookup
          (tables.register tables.views.reverse).lookup ∧
        ((tables.register tables.views.reverse).lookup.owningCluster 10).value =
          .ok (some ⟨.cluster, 2⟩) ∧
        ((tables.register tables.views.reverse).lookup.recordedPrivileges
          10).value = .ok recorded := by
  have interchangeable :=
    interchangeable_register history contents_afterAll
      (List.reverse_perm tables.views)
  have owner : ((({} : Store).afterAll history).lookup.owningCluster 10).value =
      .ok (some ⟨.cluster, 2⟩) := by
    decide +kernel
  have sound := sound_blank.afterAll history
  have stored := value_recordedPrivileges_of_created contents_afterAll
    sound.isOpen 10
  rw [value_privilegesOn_ten] at stored
  rw [← interchangeable.owningCluster, ← interchangeable.recordedPrivileges]
  exact ⟨contents_afterAll, List.reverse_perm _, interchangeable, owner, stored⟩

end Registered

end Store

end AccessControl
