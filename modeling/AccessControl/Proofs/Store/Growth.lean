import AccessControl.Proofs.Store.Effect
import AccessControl.Proofs.Store.Verdict

/-!
# More rows, more grants

Rows enter a decision at many places, and at each of them a missing row counts
against the caller: a privilege with a missing reference is skipped, a missing
type has no meaning, a view whose cluster is missing inherits nothing.  So
adding rows never revokes what was granted, and removing rows, with all that
goes away or lets go of them, never grants what was denied.
-/

namespace AccessControl.Store

namespace Tables

/-! ## Smaller and larger tables -/

/-- Every row of the smaller tables stands in the larger ones, where it may
still hold the reference that it can give up. -/
def Within (smaller larger : Tables) : Prop :=
  ∀ table, ∀ row ∈ smaller.rows table, ∃ other ∈ larger.rows table,
    row = other ∨ row = Row.detached other

namespace Within

variable {smaller larger : Tables}

theorem refl (tables : Tables) : tables.Within tables := by
  intro table row member
  exact ⟨row, member, .inl rfl⟩

theorem trans {middle : Tables} (lower : smaller.Within middle)
    (upper : middle.Within larger) : smaller.Within larger := by
  intro table row member
  obtain ⟨between, betweenMember, first⟩ := lower table row member
  obtain ⟨other, otherMember, second⟩ := upper table between betweenMember
  refine ⟨other, otherMember, ?_⟩
  rcases first with rfl | rfl
  · exact second
  · rcases second with rfl | rfl
    · exact .inr rfl
    · exact .inr (Row.detached_detached other)

theorem of_subset
    (subset : ∀ table, ∀ row ∈ smaller.rows table, row ∈ larger.rows table) :
    smaller.Within larger := by
  intro table row member
  exact ⟨row, subset table row member, .inl rfl⟩

/-- Only views have a reference to give up. -/
theorem mem (within : smaller.Within larger) (table : Table)
    (whole : ∀ row : Row table, Row.detached row = row) {row : Row table}
    (member : row ∈ smaller.rows table) : row ∈ larger.rows table := by
  obtain ⟨other, otherMember, same⟩ := within table row member
  rw [whole other, or_self] at same
  exact same ▸ otherMember

end Within

/-! ## Types -/

/-- A resource whose type is missing has no type. -/
theorem ne_empty_of_ofName {name : String} {type : ResourceType}
    (known : ResourceType.ofName name = .ok type) : name ≠ "" := by
  rintro rfl
  have unknown : ResourceType.ofName "" = .error (.resourceType "") := by
    decide +kernel
  rw [unknown] at known
  cases known

/-! ## Grants -/

namespace Within

variable {smaller larger : Tables} (within : smaller.Within larger)

include within

theorem complete {row : PrivilegeRow} {permission : PermissionRow}
    {resource : ResourceRow} {principal : PrincipalRow}
    (complete : smaller.Complete row permission resource principal) :
    larger.Complete row permission resource principal where
  permission_mem :=
    within.mem .permission (fun _ => rfl) complete.permission_mem
  permission_id := complete.permission_id
  resource_mem := within.mem .resource (fun _ => rfl) complete.resource_mem
  resource_id := complete.resource_id
  principal_mem := within.mem .principal (fun _ => rfl) complete.principal_mem
  principal_id := complete.principal_id

/-- A name that some row gives is still given when there are more rows. -/
theorem storedName (table : Table)
    (whole : ∀ row : Row table, Row.detached row = row)
    {rowId : Row table → Int32} {rowName : Row table → String} {id : Int32}
    {name : String} (filled : name ≠ "")
    (stored : StoredName (smaller.rows table) rowId rowName id name) :
    StoredName (larger.rows table) rowId rowName id name := by
  rcases stored with ⟨row, member, facts⟩ | ⟨_, empty⟩
  · exact .inl ⟨row, within.mem table whole member, facts⟩
  · exact absurd empty filled

theorem reaches {resource : ResourceRow} {query : Query}
    (reaches : smaller.Reaches resource query) :
    larger.Reaches resource query := by
  obtain ⟨name, named, onAdmin | ⟨typed, identified⟩⟩ := reaches
  · exact ⟨name, within.storedName .resourceType (fun _ => rfl)
      (ne_empty_of_ofName onAdmin) named, .inl onAdmin⟩
  -- The type may have been missing, and then the query asks for no type.
  cases queried : query.resourceType with
  | none =>
      exact ⟨_, storedName_storedName _ _ _ _,
        .inr ⟨by simp [queried], identified⟩⟩
  | some type =>
      have known : ResourceType.ofName name = .ok type := typed type queried
      exact ⟨name, within.storedName .resourceType (fun _ => rfl)
        (ne_empty_of_ofName known) named, .inr ⟨typed, identified⟩⟩

theorem records {permission : Int64} {required : AuthorizationSet}
    (records : smaller.Records permission required) :
    larger.Records permission required := by
  obtain ⟨row, member, facts⟩ := records
  exact ⟨row,
    within.mem .permissionAuthorization (fun _ => rfl) member, facts⟩

theorem grantsDirectly {principal : Int64} {query : Query}
    (grants : smaller.GrantsDirectly principal query) :
    larger.GrantsDirectly principal query := by
  obtain ⟨row, member, held, permission, resource, holder, complete, reaches,
    records⟩ := grants
  exact ⟨row, within.mem .privilege (fun _ => rfl) member, held, permission,
    resource, holder, within.complete complete, within.reaches reaches,
    within.records records⟩

theorem owned {resource : Int64} (owned : smaller.Owned resource) :
    larger.Owned resource := by
  obtain ⟨view, viewMember, stored, cluster, clusterMember, handle⟩ := owned
  obtain ⟨other, otherMember, rfl | rfl⟩ := within .view view viewMember
  · exact ⟨view, otherMember, stored, cluster,
      within.mem .cluster (fun _ => rfl) clusterMember, handle⟩
  · -- A view that gave up its cluster is not owned.
    cases handle

theorem letsInherit {resource : Int64} {name : String}
    (inherits : smaller.LetsInherit resource name) :
    larger.LetsInherit resource name := by
  obtain ⟨row, member, recorded, permission, target, holder, complete, filled,
    named⟩ := inherits
  have marked : "ALL." ++ name ≠ "" := by
    simp
  exact ⟨row, within.mem .privilege (fun _ => rfl) member, recorded,
    permission, target, holder, within.complete complete, filled,
    within.storedName .principalType (fun _ => rfl) marked named⟩

theorem holdsOnCluster {principal : Int64} {name : String}
    (holds : smaller.HoldsOnCluster principal name) :
    larger.HoldsOnCluster principal name := by
  obtain ⟨row, member, held, permission, resource, holder, complete,
    ⟨typeName, typed, onCluster⟩, named⟩ := holds
  exact ⟨row, within.mem .privilege (fun _ => rfl) member, held, permission,
    resource, holder, within.complete complete,
    ⟨typeName, within.storedName .resourceType (fun _ => rfl)
      (ne_empty_of_ofName onCluster) typed, onCluster⟩, named⟩

theorem grantsByInheritance {principal : Int64} {query : Query}
    (grants : smaller.GrantsByInheritance principal query) :
    larger.GrantsByInheritance principal query := by
  obtain ⟨id, queried, owned, name, inherits, holds⟩ := grants
  exact ⟨id, queried, within.owned owned, name, within.letsInherit inherits,
    within.holdsOnCluster holds⟩

/-- Whatever the rows of the smaller tables grant, those of the larger ones
grant as well. -/
theorem grants {userName : String} {query : Query}
    (grants : smaller.Grants userName query) :
    larger.Grants userName query := by
  obtain ⟨user, member, named, active, direct | inherited⟩ := grants
  · exact ⟨user, within.mem .user (fun _ => rfl) member, named, active,
      .inl (within.grantsDirectly direct)⟩
  · exact ⟨user, within.mem .user (fun _ => rfl) member, named, active,
      .inr (within.grantsByInheritance inherited)⟩

end Within

/-! ## Statements that only add or only remove -/

variable {tables changed : Tables} {enforced : Bool} {table : Table}

theorem filter_within (tables : Tables) (kept : Row table → Bool) :
    (tables.replace table ((tables.rows table).filter kept)).Within tables := by
  apply Within.of_subset
  intro other row member
  by_cases same : other = table
  · subst same
    rw [rows_replace_self] at member
    exact List.mem_of_mem_filter member
  · rwa [rows_replace_of_ne tables _ same] at member

theorem release_within (tables : Tables) (table : Table) (key : Key) :
    (tables.release table key).Within tables := by
  intro other left member
  rw [release, rows_ofRows] at member
  obtain ⟨row, rowMember, remains⟩ := List.mem_filterMap.mp member
  exact ⟨row, rowMember, Row.eq_or_eq_detached_of_released remains⟩

theorem within_of_insert {rows : List (Row table)}
    (success : tables.insert enforced table rows = .ok changed) :
    tables.Within changed := by
  apply Within.of_subset
  intro other row member
  exact (rows_of_insert success other).subset member

theorem within_of_deleteWhere {selected : Row table → Bool}
    (success : tables.deleteWhere enforced table selected = .ok changed) :
    changed.Within tables := by
  let keeps := fun before after : Tables => after.Within before
  have kept : keeps tables changed := by
    apply deleteWhere_keeps _ _ _ _ success
    · exact Within.refl
    · exact fun first second => second.trans first
    · exact filter_within
    · exact fun before key => release_within before table key
  exact kept

end Tables

/-! ## Verdicts -/

/-- An open store with tables always gives a verdict. -/
theorem exists_verdict {store : Store} {tables : Tables} {filled : Bool}
    (present : store.contents = .created tables filled)
    (isOpen : store.isOpen = true) (userName : String) (query : Query) :
    ∃ granted, store.verdict userName query = .ok granted := by
  unfold verdict
  rw [value_caller?_of_created present isOpen]
  exact ⟨_, rfl⟩

/-- Over more rows a verdict is at least as favourable. -/
theorem verdict_of_within {smaller larger : Store} {few many : Tables}
    {fewFilled manyFilled : Bool}
    (fewPresent : smaller.contents = .created few fewFilled)
    (fewOpen : smaller.isOpen = true) (fewDistinct : few.Distinct)
    (manyPresent : larger.contents = .created many manyFilled)
    (manyOpen : larger.isOpen = true) (manyDistinct : many.Distinct)
    (within : few.Within many) {userName : String} {query : Query}
    (granted : smaller.verdict userName query = .ok true) :
    larger.verdict userName query = .ok true := by
  cases required : query.required.isEmpty with
  | true =>
      unfold verdict
      rw [value_caller?_of_created manyPresent manyOpen]
      exact congrArg Except.ok
        (PrivilegeLookup.isAuthorized_of_required_isEmpty _ _ required)
  | false =>
      obtain ⟨before, fewVerdict, fewMeaning⟩ :=
        verdict_iff_grants fewPresent fewOpen fewDistinct userName query required
      obtain ⟨after, manyVerdict, manyMeaning⟩ :=
        verdict_iff_grants manyPresent manyOpen manyDistinct userName query
          required
      rw [granted] at fewVerdict
      cases fewVerdict
      rw [manyVerdict, manyMeaning.mpr (within.grants (fewMeaning.mp rfl))]

/-- An insertion that succeeds revokes nothing, and a deletion that succeeds,
with all that follows the deleted row or lets go of it, grants nothing.  Rows
may refer to missing rows, and references may be enforced or not. -/
theorem verdict_monotone_in_rows {store : Store} {tables : Tables}
    {filled : Bool} (present : store.contents = .created tables filled)
    (distinct : tables.Distinct) (userName : String) (query : Query) :
    (∀ (table : Table) (rows : List (Row table)) (changed : Store),
        store.execute (.insert table rows) = .ok changed →
          store.verdict userName query = .ok true →
            changed.verdict userName query = .ok true) ∧
      ∀ (table : Table) (key : Key) (changed : Store),
        store.execute (.delete table key) = .ok changed →
          store.verdict userName query = .ok false →
            changed.verdict userName query = .ok false := by
  constructor
  · intro table rows changed success granted
    obtain ⟨after, ran, isOpen, changedPresent, changedOpen⟩ :=
      execute_created present success
    exact verdict_of_within present isOpen distinct changedPresent changedOpen
      (distinct.run ran) (Tables.within_of_insert ran) granted
  · intro table key changed success denied
    obtain ⟨after, ran, isOpen, changedPresent, changedOpen⟩ :=
      execute_created present success
    obtain ⟨granted, verdict⟩ :=
      exists_verdict changedPresent changedOpen userName query
    cases granted with
    | false => exact verdict
    | true =>
        have earlier := verdict_of_within changedPresent changedOpen
          (distinct.run ran) present isOpen distinct
          (Tables.within_of_deleteWhere ran) verdict
        rw [denied] at earlier
        cases earlier

namespace Crossed

/-- The same rows while references are enforced. -/
def enforcing : Store :=
  { store with enforced := true }

/-- Whether alice may use views in general. -/
def anyView : Query where
  resourceType := some .view
  resourceId := none
  required := .ofList [.viewUse]

/-- Alice keeps the view when the resources that were missing are added, and
gains no other when a resource is deleted with her privilege on it. -/
theorem alice_keeps_view_gains_none :
    enforcing.contents = .created tables true ∧ tables.Distinct ∧
      (∃ grown,
        enforcing.execute (.insert .resource [⟨2, 2⟩, ⟨99, 2⟩]) = .ok grown ∧
          enforcing.verdict "alice" query = .ok true ∧
            grown.verdict "alice" query = .ok true) ∧
        ∃ shrunk,
          enforcing.execute (.delete .resource (.id 3)) = .ok shrunk ∧
            enforcing.verdict "alice" anyView = .ok false ∧
              shrunk.verdict "alice" anyView = .ok false := by
  have present : enforcing.contents = .created tables true := rfl
  have granted : enforcing.verdict "alice" query = .ok true := by cbv
  have denied : enforcing.verdict "alice" anyView = .ok false := by cbv
  obtain ⟨grown, added⟩ : ∃ grown,
      enforcing.execute (.insert .resource [⟨2, 2⟩, ⟨99, 2⟩]) = .ok grown :=
    ⟨_, rfl⟩
  obtain ⟨shrunk, removed⟩ : ∃ shrunk,
      enforcing.execute (.delete .resource (.id 3)) = .ok shrunk :=
    ⟨_, rfl⟩
  have kept := (verdict_monotone_in_rows present tables_distinct "alice"
    query).1 .resource _ grown added granted
  have none := (verdict_monotone_in_rows present tables_distinct "alice"
    anyView).2 .resource _ shrunk removed denied
  exact ⟨present, tables_distinct, ⟨grown, added, granted, kept⟩,
    ⟨shrunk, removed, denied, none⟩⟩

end Crossed

end AccessControl.Store
