import AccessControl.Proofs.Store.Deletion

/-!
# What a deletion revokes

The deletion of a resource takes the privileges on it from everyone, and the
deletion of a principal takes away what the principal holds.  The deletion of a
cluster leaves all privileges as they are and sets the views of the cluster
free.  Nothing else that is read from the store changes.
-/

namespace AccessControl

/-! ## Fewer privileges -/

namespace Caller

theorem distinct_filter (kept : Privilege → Bool) (privileges : List Privilege) :
    distinct (privileges.filter kept) = (distinct privileges).filter kept := by
  induction privileges with
  | nil => rfl
  | cons privilege later induction =>
      cases keeps : kept privilege with
      | true => simp [distinct, keeps, induction, Bool.and_comm]
      | false =>
          have apart : ∀ other, kept other =
              (kept other && (other != privilege)) := by
            intro other
            by_cases same : other = privilege <;> simp [same, keeps]
          rw [List.filter_cons_of_neg (by simp [keeps]), induction, distinct,
            List.filter_cons_of_neg (by simp [keeps]), List.filter_filter]
          exact List.filter_congr fun other _ => apart other

/-- The caller with some of the privileges only. -/
def keeping (caller : Caller) (kept : Privilege → Bool) : Caller :=
  { caller with privileges := caller.privileges.filter kept }

theorem holding_filter (name : String) (kept : Privilege → Bool)
    (privileges : List Privilege) :
    holding name (privileges.filter kept) =
      (holding name privileges).keeping kept :=
  congrArg (Caller.mk name) (distinct_filter kept privileges)

end Caller

namespace Store

/-! ## Reading a sound store -/

namespace Sound

variable {store : Store} {tables : Tables} {filled : Bool}
  (sound : store.Sound) (present : store.contents = .created tables filled)

include sound present

theorem tables_intact : tables.Intact :=
  sound.intact tables filled present

theorem load_privilegesWhere (first : Table) (selected : PrivilegeRow → Bool) :
    (store.load first fun tables => tables.privilegesWhere selected) =
      ⟨.ok (tables.privilegesWhere selected).value, []⟩ := by
  obtain ⟨privileges, read, _⟩ :=
    (sound.tables_intact present).privilegesWhere_eq selected
  rw [load_of_silent (tables_of_created present sound.isOpen first) read, read]

theorem privilegesOf_eq (principal : Int64) :
    store.privilegesOf principal =
      ⟨.ok (tables.privilegesOf principal).value, []⟩ :=
  sound.load_privilegesWhere present _ _

theorem privilegesOn_eq (resource : Int64) :
    store.privilegesOn resource =
      ⟨.ok (tables.privilegesOn resource).value, []⟩ :=
  sound.load_privilegesWhere present _ _

theorem caller?_eq (name : String) :
    store.caller? name = ⟨.ok ((tables.activeUser? name).map fun user =>
      .holding user.name (tables.privilegesOf user.principalId).value), []⟩ := by
  have loaded := tables_of_created present sound.isOpen .user
  have silent : tables.caller? name = ⟨(tables.caller? name).value, []⟩ := by
    unfold Tables.caller?
    cases tables.activeUser? name with
    | none => rfl
    | some user =>
        obtain ⟨privileges, read, _⟩ :=
          (sound.tables_intact present).privilegesWhere_eq
            fun row => row.principalId == user.principalId
        have silent : tables.privilegesOf user.principalId = ⟨privileges, []⟩ :=
          read
        simp only [silent]
        rfl
  rw [← Tables.value_caller?]
  exact load_of_silent loaded silent

theorem owningCluster_eq (id : Int64) :
    store.lookup.owningCluster id =
      pure (.ok ((tables.views.find? fun view => view.resourceId == id).bind
        tables.ownerOf)) := by
  unfold lookup
  simp only [tables_of_created present sound.isOpen,
    (sound.tables_intact present).owningCluster_eq]

end Sound

/-! ## What is read after some privileges are gone -/

namespace Tables

variable {tables changed : Tables}

/-- Tables of which only some privilege rows are left.  These stand for the
privileges that they stood for, and a test on privileges tells them apart. -/
structure Keeps (tables changed : Tables) (keptRow : PrivilegeRow → Bool)
    (kept : Privilege → Bool) : Prop where
  rows : changed.privileges = tables.privileges.filter keptRow
  same : ∀ row ∈ tables.privileges, keptRow row = true →
    changed.privilege? row = tables.privilege? row
  agrees : ∀ row privilege, tables.privilege? row = some privilege →
    kept privilege = keptRow row

theorem Distinct.selection_filter (distinct : tables.Distinct)
    {keptRow : PrivilegeRow → Bool}
    (rows : changed.privileges = tables.privileges.filter keptRow)
    (selected : PrivilegeRow → Bool) :
    changed.selection selected =
      (tables.selection selected).filter keptRow := by
  have narrowed : changed.selection selected =
      tables.selection fun row => selected row && keptRow row := by
    unfold selection
    rw [rows, List.filter_filter]
  rw [narrowed, ← distinct.filter_selection,
    ← distinct.filter_selection selected, List.filter_filter]
  exact List.filter_congr fun row _ => Bool.and_comm _ _

theorem Keeps.value_privilegesWhere {keptRow : PrivilegeRow → Bool}
    {kept : Privilege → Bool} (keeps : tables.Keeps changed keptRow kept)
    (distinct : tables.Distinct) (selected : PrivilegeRow → Bool) :
    (changed.privilegesWhere selected).value =
      (tables.privilegesWhere selected).value.filter kept := by
  have each : ∀ row ∈ tables.privileges,
      (if keptRow row = true then changed.privilege? row else none) =
        (tables.privilege? row).filter kept := by
    intro row member
    cases held : keptRow row with
    | true =>
        rw [if_pos rfl, keeps.same row member held]
        cases resolved : tables.privilege? row with
        | none => rfl
        | some privilege =>
            rw [Option.filter_some, keeps.agrees row privilege resolved, held]
            rfl
    | false =>
        cases resolved : tables.privilege? row with
        | none => rfl
        | some privilege =>
            rw [Option.filter_some, keeps.agrees row privilege resolved, held]
            rfl
  calc (changed.privilegesWhere selected).value
      = ((tables.selection selected).filter keptRow).filterMap
          changed.privilege? := by
        rw [← distinct.selection_filter keeps.rows]
        exact changed.value_privilegesWhere selected
    _ = (tables.selection selected).filterMap fun row =>
          (tables.privilege? row).filter kept := by
        rw [List.filterMap_filter]
        exact List.filterMap_congr fun row member =>
          each row (mem_selection.mp member).1
    _ = (tables.privilegesWhere selected).value.filter kept := by
        rw [tables.value_privilegesWhere, List.filter_filterMap]
        rfl

theorem Distinct.holder_id_of_privilege? (distinct : tables.Distinct)
    {row : PrivilegeRow} {privilege : Privilege}
    (resolved : tables.privilege? row = some privilege) :
    privilege.holder.id = row.principalId := by
  obtain ⟨permission, resource, principal, complete, rfl⟩ :=
    distinct.privilege?_eq_some_iff.mp resolved
  exact complete.principal_id

theorem exists_row_of_mem_privilegesWhere {selected : PrivilegeRow → Bool}
    {privilege : Privilege}
    (member : privilege ∈ (tables.privilegesWhere selected).value) :
    ∃ row, selected row = true ∧ tables.privilege? row = some privilege := by
  rw [value_privilegesWhere] at member
  obtain ⟨row, chosen, resolved⟩ := List.mem_filterMap.mp member
  exact ⟨row, (mem_selection.mp chosen).2, resolved⟩

theorem Distinct.resource_id_of_mem_privilegesOn (distinct : tables.Distinct)
    {resource : Int64} {privilege : Privilege}
    (member : privilege ∈ (tables.privilegesOn resource).value) :
    privilege.resource.id = resource := by
  obtain ⟨row, chosen, resolved⟩ := exists_row_of_mem_privilegesWhere member
  rw [distinct.resource_id_of_privilege? resolved]
  exact beq_iff_eq.mp chosen

theorem Distinct.holder_id_of_mem_privilegesOf (distinct : tables.Distinct)
    {principal : Int64} {privilege : Privilege}
    (member : privilege ∈ (tables.privilegesOf principal).value) :
    privilege.holder.id = principal := by
  obtain ⟨row, chosen, resolved⟩ := exists_row_of_mem_privilegesWhere member
  rw [distinct.holder_id_of_privilege? resolved]
  exact beq_iff_eq.mp chosen

theorem find?_filter_ne {α : Type} (column : α → Int64) (rows : List α)
    {gone value : Int64} (different : (value != gone) = true) :
    (rows.filter fun row => column row != gone).find?
        (fun row => column row == value) =
      rows.find? fun row => column row == value := by
  rw [List.find?_filter]
  congr 1
  funext row
  by_cases same : column row = value <;> simp_all

theorem keeps_withoutResource (distinct : tables.Distinct) (id : Int64) :
    tables.Keeps (tables.withoutResource id) (fun row => row.resourceId != id)
      fun privilege => privilege.resource.id != id where
  rows := rfl
  same row _ kept := by
    have found := find?_filter_ne ResourceRow.id tables.resources kept
    unfold privilege? withoutResource
    simp only [found]
    rfl
  agrees row privilege resolved := by
    rw [distinct.resource_id_of_privilege? resolved]

theorem keeps_withoutPrincipal (distinct : tables.Distinct) (id : Int64) :
    tables.Keeps (tables.withoutPrincipal id) (fun row => row.principalId != id)
      fun privilege => privilege.holder.id != id where
  rows := rfl
  same row _ kept := by
    have found := find?_filter_ne PrincipalRow.id tables.principals kept
    unfold privilege? withoutPrincipal
    simp only [found]
    rfl
  agrees row privilege resolved := by
    rw [distinct.holder_id_of_privilege? resolved]

/-! ## The owners of views -/

theorem find?_map_unbound (views : List ViewRow) (cluster id : Int64) :
    (views.map (ViewRow.unbound cluster)).find?
        (fun view => view.resourceId == id) =
      (views.find? fun view => view.resourceId == id).map
        (ViewRow.unbound cluster) := by
  rw [List.find?_map]
  congr 2
  funext view
  simp only [Function.comp_apply, ViewRow.unbound]
  split <;> rfl

theorem ownerOf_unbound (tables : Tables) (cluster : Int64) (view : ViewRow) :
    (tables.withoutCluster cluster).ownerOf (view.unbound cluster) =
      if view.clusterId = some cluster then none else tables.ownerOf view := by
  by_cases bound : view.clusterId = some cluster
  · simp [ownerOf, ViewRow.unbound, bound]
  · rw [ViewRow.unbound, if_neg bound, if_neg bound]
    cases owner : view.clusterId with
    | none => simp [ownerOf, owner]
    | some id =>
        have different : (id != cluster) = true := by
          rw [bne_iff_ne]
          rintro rfl
          exact bound owner
        have found := find?_filter_ne ClusterRow.id tables.clusters different
        simp only [ownerOf, owner, withoutCluster, Option.bind_eq_bind,
          Option.bind_some, found]

end Tables

/-! ## Effects -/

/-- A resource is gone, with all privileges on it. -/
structure LosesResource (store : Store) (resource : Int64) (changed : Store) :
    Prop where
  callers : ∀ name, changed.caller? name =
    Except.map (Option.map fun caller =>
      caller.keeping fun privilege => privilege.resource.id != resource) <$>
        store.caller? name
  privileges : ∀ principal, changed.privilegesOf principal =
    Except.map (List.filter fun privilege =>
      privilege.resource.id != resource) <$> store.privilegesOf principal
  none_recorded : changed.privilegesOn resource = pure (.ok [])
  recorded : ∀ id, id ≠ resource →
    changed.privilegesOn id = store.privilegesOn id
  bindings : ∀ id,
    changed.lookup.owningCluster id = store.lookup.owningCluster id

/-- A principal is gone, with all privileges that it held.  No user acts as
it. -/
structure LosesPrincipal (store : Store) (principal : Int64) (changed : Store) :
    Prop where
  callers : ∀ name, changed.caller? name = store.caller? name
  no_privileges : changed.privilegesOf principal = pure (.ok [])
  privileges : ∀ id, id ≠ principal →
    changed.privilegesOf id = store.privilegesOf id
  recorded : ∀ id, changed.privilegesOn id =
    Except.map (List.filter fun privilege =>
      privilege.holder.id != principal) <$> store.privilegesOn id
  bindings : ∀ id,
    changed.lookup.owningCluster id = store.lookup.owningCluster id

/-- A cluster is gone, and its views stand alone. -/
structure LosesCluster (store : Store) (views : List ViewRow)
    (cluster : ClusterRow) (changed : Store) : Prop where
  callers : ∀ name, changed.caller? name = store.caller? name
  privileges : ∀ principal,
    changed.privilegesOf principal = store.privilegesOf principal
  recorded : ∀ id, changed.privilegesOn id = store.privilegesOn id
  unbound : ∀ view ∈ views, view.clusterId = some cluster.id →
    store.lookup.owningCluster view.resourceId =
        pure (.ok (some ⟨.cluster, cluster.resourceId⟩)) ∧
      changed.lookup.owningCluster view.resourceId = pure (.ok none)
  bindings : ∀ id,
    (∀ view ∈ views, view.resourceId = id →
      view.clusterId ≠ some cluster.id) →
    changed.lookup.owningCluster id = store.lookup.owningCluster id
  consistent : ∀ id, ∃ binding,
    changed.lookup.owningCluster id = pure (.ok binding)

section

variable {store changed : Store} {tables : Tables} {filled : Bool}
  (sound : store.Sound) (present : store.contents = .created tables filled)
  (changedSound : changed.Sound)

include sound present changedSound

theorem losesResource {resource : Int64}
    (left : changed.contents =
      .created (tables.withoutResource resource) filled) :
    store.LosesResource resource changed := by
  have distinct := (sound.tables_intact present).distinct
  have keeps := Tables.keeps_withoutResource distinct resource
  have filtered := keeps.value_privilegesWhere distinct
  constructor
  case callers =>
    intro name
    rw [changedSound.caller?_eq left, sound.caller?_eq present]
    have same : (tables.withoutResource resource).activeUser? name =
        tables.activeUser? name := rfl
    rw [same]
    cases tables.activeUser? name with
    | none => rfl
    | some user =>
        rw [Option.map_some, Tables.privilegesOf, filtered,
          Caller.holding_filter]
        rfl
  case privileges =>
    intro principal
    rw [changedSound.privilegesOf_eq left, sound.privilegesOf_eq present,
      Tables.privilegesOf, filtered]
    rfl
  case none_recorded =>
    have nothing : ((tables.withoutResource resource).privilegesOn
        resource).value = [] := by
      rw [Tables.privilegesOn, filtered, List.filter_eq_nil_iff]
      intro privilege member
      simp [distinct.resource_id_of_mem_privilegesOn member]
    rw [changedSound.privilegesOn_eq left, nothing]
    rfl
  case recorded =>
    intro id different
    have all : ((tables.withoutResource resource).privilegesOn id).value =
        (tables.privilegesOn id).value := by
      rw [Tables.privilegesOn, filtered]
      apply List.filter_eq_self.mpr
      intro privilege member
      simp [distinct.resource_id_of_mem_privilegesOn member, different]
    rw [changedSound.privilegesOn_eq left, sound.privilegesOn_eq present, all]
  case bindings =>
    intro id
    rw [changedSound.owningCluster_eq left, sound.owningCluster_eq present]
    rfl

theorem losesPrincipal {principal : Int64}
    (left : changed.contents =
      .created (tables.withoutPrincipal principal) filled)
    (unused : ∀ user ∈ tables.users, user.principalId ≠ principal) :
    store.LosesPrincipal principal changed := by
  have distinct := (sound.tables_intact present).distinct
  have keeps := Tables.keeps_withoutPrincipal distinct principal
  have filtered := keeps.value_privilegesWhere distinct
  have others : ∀ id, id ≠ principal →
      ((tables.withoutPrincipal principal).privilegesOf id).value =
        (tables.privilegesOf id).value := by
    intro id different
    rw [Tables.privilegesOf, filtered]
    apply List.filter_eq_self.mpr
    intro privilege member
    simp [distinct.holder_id_of_mem_privilegesOf member, different]
  constructor
  case callers =>
    intro name
    rw [changedSound.caller?_eq left, sound.caller?_eq present]
    have same : (tables.withoutPrincipal principal).activeUser? name =
        tables.activeUser? name := rfl
    rw [same]
    cases found : tables.activeUser? name with
    | none => simp only [Option.map_none]
    | some user =>
        have different := unused user (List.mem_of_find?_eq_some found)
        simp only [Option.map_some, others user.principalId different]
  case no_privileges =>
    have nothing : ((tables.withoutPrincipal principal).privilegesOf
        principal).value = [] := by
      rw [Tables.privilegesOf, filtered, List.filter_eq_nil_iff]
      intro privilege member
      simp [distinct.holder_id_of_mem_privilegesOf member]
    rw [changedSound.privilegesOf_eq left, nothing]
    rfl
  case privileges =>
    intro id different
    rw [changedSound.privilegesOf_eq left, sound.privilegesOf_eq present,
      others id different]
  case recorded =>
    intro id
    rw [changedSound.privilegesOn_eq left, sound.privilegesOn_eq present,
      Tables.privilegesOn, filtered]
    rfl
  case bindings =>
    intro id
    rw [changedSound.owningCluster_eq left, sound.owningCluster_eq present]
    rfl

theorem losesCluster {cluster : ClusterRow} (member : cluster ∈ tables.clusters)
    (left : changed.contents =
      .created (tables.withoutCluster cluster.id) filled) :
    store.LosesCluster tables.views cluster changed := by
  have distinct := (sound.tables_intact present).distinct
  have owner (id : Int64) : changed.lookup.owningCluster id =
      pure (.ok ((tables.views.find? fun view => view.resourceId == id).bind
        fun view => if view.clusterId = some cluster.id then none
          else tables.ownerOf view)) := by
    rw [changedSound.owningCluster_eq left]
    unfold Tables.withoutCluster
    dsimp only
    rw [Tables.find?_map_unbound, Option.bind_map]
    congr 3
    funext view
    exact tables.ownerOf_unbound cluster.id view
  have identifies : Tables.Identifies .view ViewRow.resourceId :=
    .of_unique fun _ _ same => beq_iff_eq.mpr same
  constructor
  case callers =>
    intro name
    rw [changedSound.caller?_eq left, sound.caller?_eq present]
    rfl
  case privileges =>
    intro principal
    rw [changedSound.privilegesOf_eq left, sound.privilegesOf_eq present]
    rfl
  case recorded =>
    intro id
    rw [changedSound.privilegesOn_eq left, sound.privilegesOn_eq present]
    rfl
  case unbound =>
    intro view viewMember bound
    have found : tables.views.find? (fun other =>
        other.resourceId == view.resourceId) = some view :=
      (distinct.find?_column_eq_some_iff identifies).mpr ⟨viewMember, rfl⟩
    have identifiesCluster : Tables.Identifies .cluster ClusterRow.id :=
      .of_key fun _ _ same => congrArg Key.id same
    have foundCluster : tables.clusters.find? (fun other =>
        other.id == cluster.id) = some cluster :=
      (distinct.find?_column_eq_some_iff identifiesCluster).mpr ⟨member, rfl⟩
    rw [sound.owningCluster_eq present, owner, found]
    constructor
    · simp [Tables.ownerOf, bound, foundCluster]
    · simp [bound]
  case bindings =>
    intro id elsewhere
    rw [owner, sound.owningCluster_eq present]
    cases found : tables.views.find? fun view => view.resourceId == id with
    | none => rfl
    | some view =>
        have unbound := elsewhere view (List.mem_of_find?_eq_some found)
          (by simpa using List.find?_some found)
        simp [unbound]
  case consistent => exact fun id => ⟨_, owner id⟩

end

/-! ## When a deletion succeeds -/

/-- A deletion succeeds under a condition, and then it has an effect.
Otherwise it is refused and changes nothing. -/
structure Deletes (store : Store) (table : Table) (key : Key)
    (condition : Prop) (effect : Store → Prop) : Prop where
  succeeds_iff :
    (∃ changed, store.execute (.delete table key) = .ok changed) ↔ condition
  effect : ∀ changed, store.execute (.delete table key) = .ok changed →
    effect changed
  refused : ¬ condition →
    store.execute (.delete table key) = .error .foreignKey ∧
      store.after (.execute (.delete table key)) = store

namespace Sound

variable {store : Store} {tables : Tables} {filled : Bool}
  (sound : store.Sound) (present : store.contents = .created tables filled)

include sound present

theorem execute_delete (table : Table) (key : Key) :
    store.execute (.delete table key) =
      (tables.delete true table key).map fun left =>
        { store with contents := .created left filled } := by
  obtain ⟨contents, enforced, isOpen⟩ := store
  obtain rfl : isOpen = true := sound.isOpen
  obtain rfl : enforced = true := sound.enforced
  obtain rfl : contents = .created tables filled := present
  change (tables.delete true table key >>= fun left =>
    pure ({ contents := .created left filled } : Store)) = _
  cases tables.delete true table key <;> rfl

theorem deletes (table : Table) (row : Row table)
    (member : row ∈ tables.rows table) {condition : Prop}
    {effect : Store → Prop}
    (allowed : tables.Deletable table (Row.key row) ↔ condition)
    (effective : ∀ changed : Store, changed.Sound → condition →
      changed.contents = .created ((tables.without table (Row.key row)).release
        table (Row.key row)) filled →
      effect changed) :
    store.Deletes table (Row.key row) condition effect := by
  have intact := sound.tables_intact present
  have executed := sound.execute_delete present table (Row.key row)
  cases outcome : tables.delete true table (Row.key row) with
  | ok left =>
      obtain ⟨rfl, deletable⟩ := (intact.delete_eq_ok_iff member).mp outcome
      rw [outcome] at executed
      have holds : condition := allowed.mp deletable
      constructor
      case succeeds_iff => exact iff_of_true ⟨_, executed⟩ holds
      case effect =>
        intro changed success
        have changedSound := sound.execute success
        rw [executed] at success
        cases success
        exact effective _ changedSound holds rfl
      case refused => exact fun denied => absurd holds denied
  | error fault =>
      obtain rfl := Tables.deleteWhere_eq_error outcome
      have denied : ¬ condition := by
        intro holds
        have success := (intact.delete_eq_ok_iff member).mpr
          ⟨rfl, allowed.mpr holds⟩
        rw [outcome] at success
        cases success
      rw [outcome] at executed
      have failed : store.execute (.delete table (Row.key row)) =
          .error .foreignKey := executed
      constructor
      case succeeds_iff =>
        refine iff_of_false ?_ denied
        rintro ⟨changed, success⟩
        rw [failed] at success
        cases success
      case effect =>
        intro changed success
        rw [failed] at success
        cases success
      case refused =>
        refine fun _ => ⟨failed, ?_⟩
        simp only [Store.after, failed]

end Sound

/-- Whatever was done to a new store while references are enforced: a resource
can be deleted unless it is that of a cluster or a view, a principal unless a
user acts as it, and a cluster always, and each deletion revokes what belongs to
the deleted row and nothing else. -/
theorem deletions_revoke_exactly (history : List Action) {tables : Tables}
    {filled : Bool}
    (present : (({} : Store).afterAll history).contents =
      .created tables filled) :
    (∀ resource ∈ tables.resources,
      (({} : Store).afterAll history).Deletes .resource (.id resource.id)
        ((∀ cluster ∈ tables.clusters, cluster.resourceId ≠ resource.id) ∧
          ∀ view ∈ tables.views, view.resourceId ≠ resource.id)
        ((({} : Store).afterAll history).LosesResource resource.id)) ∧
    (∀ principal ∈ tables.principals,
      (({} : Store).afterAll history).Deletes .principal (.id principal.id)
        (∀ user ∈ tables.users, user.principalId ≠ principal.id)
        ((({} : Store).afterAll history).LosesPrincipal principal.id)) ∧
    ∀ cluster ∈ tables.clusters,
      (({} : Store).afterAll history).Deletes .cluster (.id cluster.id) True
        ((({} : Store).afterAll history).LosesCluster tables.views cluster) := by
  have sound := sound_blank.afterAll history
  refine ⟨?_, ?_, ?_⟩
  · intro resource member
    apply sound.deletes present .resource resource member
      Tables.deletable_resource_iff
    intro changed changedSound _ left
    rw [Row.key, tables.release_without_resource] at left
    exact losesResource sound present changedSound left
  · intro principal member
    apply sound.deletes present .principal principal member
      Tables.deletable_principal_iff
    intro changed changedSound unused left
    rw [Row.key, tables.release_without_principal] at left
    exact losesPrincipal sound present changedSound left unused
  · intro cluster member
    apply sound.deletes present .cluster cluster member
      (iff_true_intro (tables.deletable_cluster cluster.id))
    intro changed changedSound _ left
    rw [Row.key, tables.release_without_cluster] at left
    exact losesCluster sound present changedSound member left

namespace Dismissed

/-- Alice acts as one of the built-in principals.  The view under 10 belongs to
the cluster `prod`, and two principals hold a privilege on 12. -/
def history : List Action :=
  [.migrateUp,
    .execute (.insert .user [⟨1, "alice", 7, true⟩]),
    .execute (.insert .resource [⟨10, 3⟩, ⟨12, 3⟩]),
    .execute (.insert .cluster [⟨1, "prod", 1⟩]),
    .execute (.insert .view [⟨1, "FILES", "files", 10, some 1⟩]),
    .execute (.insert .privilege [⟨2, 4, 12, 7⟩, ⟨1, 4, 12, 6⟩])]

def tables : Tables where
  resourceTypes := Catalog.resourceTypes
  resources := [Catalog.adminResource, ⟨10, 3⟩, ⟨12, 3⟩]
  permissions := Catalog.permissions
  authorizations := Catalog.authorizations
  permissionAuthorizations := Catalog.permissions.flatMap fun row =>
    (Catalog.carried row.id).map fun authorization => ⟨row.id, authorization⟩
  principalTypes := Catalog.principalTypes
  principals := Catalog.inheritingPrincipals
  privileges := [⟨2, 4, 12, 7⟩, ⟨1, 4, 12, 6⟩]
  users := [⟨1, "alice", 7, true⟩]
  clusters := [⟨1, "prod", 1⟩]
  views := [⟨1, "FILES", "files", 10, some 1⟩]

theorem contents_afterAll :
    (({} : Store).afterAll history).contents = .created tables true := by
  decide +kernel

/-- The privilege of the service administrators on the resource under 12. -/
def administrators : Privilege :=
  ⟨1, ⟨6, "ALL.SERVICE.ADMINISTRATOR"⟩, ⟨12, "VIEW"⟩, Catalog.viewUser⟩

/-- The privilege of alice on the resource under 12. -/
def alices : Privilege :=
  ⟨2, ⟨7, "ALL.CLUSTER.USER"⟩, ⟨12, "VIEW"⟩, Catalog.viewUser⟩

theorem selection_twelve :
    (tables.selection fun row => row.resourceId == 12) =
      [⟨1, 4, 12, 6⟩, ⟨2, 4, 12, 7⟩] := by
  cbv

theorem privilegesOn_twelve :
    (({} : Store).afterAll history).privilegesOn 12 =
      pure (.ok [administrators, alices]) := by
  have resolved : (tables.privilegesOn 12).value =
      (tables.selection fun row => row.resourceId == 12).filterMap
        tables.privilege? :=
    tables.value_privilegesWhere _
  have permission := @Catalog.permissionOf_viewUser tables rfl rfl
  have sound := sound_blank.afterAll history
  rw [sound.privilegesOn_eq contents_afterAll, resolved, selection_twelve,
    administrators, alices, ← permission]
  rfl

/-- The resource under 12, the principal 6 and the cluster can be deleted, and
what is recorded on 12 is then nothing, what alice holds, or as before.  The
view keeps its resource, and alice keeps her principal. -/
theorem three_revoked_two_refused :
    (({} : Store).afterAll history).contents = .created tables true ∧
      (({} : Store).afterAll history).privilegesOn 12 =
        pure (.ok [administrators, alices]) ∧
      (∃ changed, (({} : Store).afterAll history).execute
          (.delete .resource (.id 12)) = .ok changed ∧
        (({} : Store).afterAll history).LosesResource 12 changed ∧
        changed.privilegesOn 12 = pure (.ok [])) ∧
      (∃ changed, (({} : Store).afterAll history).execute
          (.delete .principal (.id 6)) = .ok changed ∧
        (({} : Store).afterAll history).LosesPrincipal 6 changed ∧
        changed.privilegesOn 12 = pure (.ok [alices])) ∧
      (∃ changed, (({} : Store).afterAll history).execute
          (.delete .cluster (.id 1)) = .ok changed ∧
        (({} : Store).afterAll history).LosesCluster tables.views
          ⟨1, "prod", 1⟩ changed ∧
        changed.privilegesOn 12 = pure (.ok [administrators, alices])) ∧
      (({} : Store).afterAll history).after
          (.execute (.delete .resource (.id 10))) =
        ({} : Store).afterAll history ∧
      (({} : Store).afterAll history).after
          (.execute (.delete .principal (.id 7))) =
        ({} : Store).afterAll history := by
  obtain ⟨resources, principals, clusters⟩ :=
    deletions_revoke_exactly history contents_afterAll
  have resource := resources ⟨12, 3⟩ (by decide)
  have principal := principals ⟨6, 6⟩ (by decide)
  have cluster := clusters ⟨1, "prod", 1⟩ (by decide)
  obtain ⟨withoutResource, resourceGone⟩ := resource.succeeds_iff.mpr (by decide)
  obtain ⟨withoutPrincipal, principalGone⟩ :=
    principal.succeeds_iff.mpr (by decide)
  obtain ⟨withoutCluster, clusterGone⟩ := cluster.succeeds_iff.mpr trivial
  have resourceLost := resource.effect _ resourceGone
  have principalLost := principal.effect _ principalGone
  have clusterLost := cluster.effect _ clusterGone
  have left : withoutPrincipal.privilegesOn 12 = pure (.ok [alices]) := by
    rw [principalLost.recorded, privilegesOn_twelve]
    rfl
  have unchanged : withoutCluster.privilegesOn 12 =
      pure (.ok [administrators, alices]) := by
    rw [clusterLost.recorded, privilegesOn_twelve]
  exact ⟨contents_afterAll, privilegesOn_twelve,
    ⟨withoutResource, resourceGone, resourceLost, resourceLost.none_recorded⟩,
    ⟨withoutPrincipal, principalGone, principalLost, left⟩,
    ⟨withoutCluster, clusterGone, clusterLost, unchanged⟩,
    ((resources ⟨10, 3⟩ (by decide)).refused (by decide)).2,
    ((principals ⟨7, 7⟩ (by decide)).refused (by decide)).2⟩

end Dismissed

end Store

end AccessControl
