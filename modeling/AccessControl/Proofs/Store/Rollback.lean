import AccessControl.Proofs.Store.Clearing
import AccessControl.Store.Sample

/-!
# Migrations that fail and migrations that are undone

A migration that fails is not undone: its tables and its record stay as they
were, but the statements before the refused one have taken effect.  A rollback
that succeeds leaves nothing, and succeeds only if there was nothing to lose.
-/

namespace AccessControl.Store

open Statement (runAll StopsAt)

/-! ## Steps of a migration -/

namespace Contents

section

variable {step : Contents → Contents × Except StoreFault Unit}
  {contents next : Contents} (count : Nat)

theorem repeatStep_succ_of_ok (ran : step contents = (next, .ok ())) :
    repeatStep step (count + 1) contents = repeatStep step count next := by
  rw [repeatStep, ran]

theorem repeatStep_succ_of_error {fault : StoreFault}
    (ran : step contents = (next, .error fault)) :
    repeatStep step (count + 1) contents = (next, .error fault) := by
  rw [repeatStep, ran]

end

theorem repeatStep_one (step : Contents → Contents × Except StoreFault Unit)
    (contents : Contents) : repeatStep step 1 contents = step contents := by
  rcases ran : step contents with ⟨next, fault | done⟩
  · exact repeatStep_succ_of_error 0 ran
  · exact repeatStep_succ_of_ok 0 ran

variable {enforced : Bool}

/-- Nothing is left to apply. -/
theorem repeatStep_stepUp_filled (tables : Tables) (count : Nat) :
    repeatStep (stepUp enforced) count (.created tables true) =
      (.created tables true, .ok ()) := by
  induction count with
  | zero => rfl
  | succ count induction => exact induction

/-- The catalog fits into empty tables. -/
theorem exists_filled (enforced : Bool) :
    ∃ tables, runAll {} enforced Catalog.filling = (tables, .ok ()) := by
  have succeeds : (runAll {} enforced Catalog.filling).2.isOk = true := by
    cases enforced <;> decide +kernel
  rcases ran : runAll {} enforced Catalog.filling with ⟨tables, fault | done⟩
  · rw [ran] at succeeds
    cases succeeds
  · exact ⟨tables, rfl⟩

variable {contents left : Contents} {fault : StoreFault}

/-- Applying migrations fails only while the catalog is filled in. -/
theorem stopsAt_of_stepUp_error
    (failed : repeatStep (stepUp enforced) 2 contents =
      (left, .error fault)) :
    ∃ before after, contents = .created before false ∧
      left = .created after false ∧
        StopsAt before enforced Catalog.filling after fault := by
  match contents with
  | .blank =>
      -- The tables are created empty, so the catalog has no obstacle.
      obtain ⟨tables, filled⟩ := exists_filled enforced
      rw [repeatStep_succ_of_ok 1 rfl,
        repeatStep_succ_of_ok 0 (stepUp_of_ok filled)] at failed
      cases failed
  | .created tables true =>
      rw [repeatStep_stepUp_filled] at failed
      cases failed
  | .created tables false =>
      rcases ran : runAll tables enforced Catalog.filling with
        ⟨after, stopped | done⟩
      · rw [repeatStep_succ_of_error 1 (stepUp_of_error ran)] at failed
        cases failed
        exact ⟨tables, after, rfl, rfl, Statement.runAll_eq_error_iff.mp ran⟩
      · rw [repeatStep_succ_of_ok 1 (stepUp_of_ok ran),
          repeatStep_stepUp_filled] at failed
        cases failed

theorem stopsAt_of_stepDown_error
    (failed : stepDown enforced contents = (left, .error fault)) :
    ∃ before after, contents = .created before true ∧
      left = .created after true ∧
        StopsAt before enforced Catalog.clearing after fault := by
  match contents with
  | .blank => cases failed
  | .created tables false => cases failed
  | .created tables true =>
      rcases ran : runAll tables enforced Catalog.clearing with
        ⟨after, stopped | done⟩
      · rw [stepDown_of_error ran] at failed
        cases failed
        exact ⟨tables, after, rfl, rfl, Statement.runAll_eq_error_iff.mp ran⟩
      · rw [stepDown_of_ok ran] at failed
        cases failed

end Contents

/-! ## What a failed migration leaves -/

namespace Tables

variable {tables changed : Tables} {table : Table}

theorem rows_filter_sublist (tables : Tables) (kept : Row table → Bool)
    (other : Table) :
    ((tables.replace table ((tables.rows table).filter kept)).rows
      other).Sublist (tables.rows other) := by
  by_cases same : other = table
  · subst same
    rw [rows_replace_self]
    exact List.filter_sublist
  · rw [rows_replace_of_ne tables _ same]

theorem rows_release_sublist (whole : table ≠ .cluster) (tables : Tables)
    (key : Key) (other : Table) :
    ((tables.release table key).rows other).Sublist (tables.rows other) := by
  rw [release, rows_ofRows]
  generalize tables.rows other = rows
  induction rows with
  | nil => exact List.Sublist.refl _
  | cons row later induction =>
      cases remains : Row.released table key row with
      | none =>
          rw [List.filterMap_cons_none remains]
          exact induction.cons row
      | some left =>
          obtain rfl := Row.eq_of_released whole remains
          rw [List.filterMap_cons_some remains]
          exact induction.cons_cons left

/-- Nothing but rows goes away with rows other than clusters, and the others
stay in order. -/
theorem rows_deleteWhere_sublist (whole : table ≠ .cluster) {enforced : Bool}
    {selected : Row table → Bool}
    (success : tables.deleteWhere enforced table selected = .ok changed)
    (other : Table) :
    (changed.rows other).Sublist (tables.rows other) := by
  let keeps := fun before after : Tables =>
    (after.rows other).Sublist (before.rows other)
  have kept : keeps tables changed := by
    apply deleteWhere_keeps _ _ _ _ success
    · exact fun before => List.Sublist.refl _
    · exact fun first second => second.trans first
    · exact fun before kept => rows_filter_sublist before kept other
    · exact fun before key => rows_release_sublist whole before key other
  exact kept

end Tables

namespace Catalog

/-- Filling in the catalog only adds rows after those that are there. -/
theorem rows_runAll_filling (tables : Tables) (enforced : Bool)
    (table : Table) :
    tables.rows table <+: (runAll tables enforced filling).1.rows table := by
  have inserts : ∀ statement ∈ filling,
      ∃ target rows, statement = .insert target rows := by
    intro statement member
    simp only [filling, List.mem_append, List.mem_map, List.mem_flatMap,
      List.mem_cons, List.not_mem_nil, or_false] at member
    grind
  let keeps := fun before after : Tables =>
    before.rows table <+: after.rows table
  have kept : keeps tables (runAll tables enforced filling).1 := by
    apply Statement.runAll_keeps
    · exact fun before => List.prefix_rfl
    · exact fun first second => first.trans second
    · intro statement member before after ran
      obtain ⟨target, rows, rfl⟩ := inserts statement member
      exact Tables.rows_of_insert ran table
  exact kept

theorem rows_runAll_removing {statements : List Statement}
    (sublist : statements.Sublist clearing) (tables : Tables)
    (enforced : Bool) (table : Table) :
    ((runAll tables enforced statements).1.rows table).Sublist
      (tables.rows table) := by
  have removes : ∀ statement ∈ clearing, ∃ target selected,
      target ≠ .cluster ∧ statement = .deleteWhere target selected := by
    simp [clearing]
  let keeps := fun before after : Tables =>
    (after.rows table).Sublist (before.rows table)
  have kept : keeps tables (runAll tables enforced statements).1 := by
    apply Statement.runAll_keeps
    · exact fun before => List.Sublist.refl _
    · exact fun first second => second.trans first
    · intro statement member before after ran
      obtain ⟨target, selected, other, rfl⟩ :=
        removes statement (sublist.subset member)
      exact Tables.rows_deleteWhere_sublist other ran table
  exact kept

theorem permissionAuthorizations_runAll_clearing (tables : Tables)
    (enforced : Bool) :
    (runAll tables enforced clearing).1.permissionAuthorizations = [] := by
  have first : Statement.run tables enforced
      (.deleteWhere .permissionAuthorization fun _ => true) =
        .ok { tables with permissionAuthorizations := [] } :=
    tables.deleteWhere_permissionAuthorization enforced
  have rest : runAll tables enforced clearing =
      runAll { tables with permissionAuthorizations := [] } enforced
        (clearing.drop 1) :=
    Statement.runAll_cons_of_ok first
  have shrunk := rows_runAll_removing (List.drop_sublist 1 clearing)
    { tables with permissionAuthorizations := [] } enforced
    .permissionAuthorization
  rw [rest]
  exact List.eq_nil_of_subset_nil shrunk.subset

end Catalog

section

variable {store : Store}

theorem migrateBy_of_closed (closed : store.isOpen = false)
    (change : Contents → Contents × Except StoreFault Unit) :
    migrateBy change store = (store, .error .closed) := by
  unfold migrateBy connected
  rw [closed]
  rfl

theorem value_migrateUp_of_open (isOpen : store.isOpen = true) :
    store.migrateUp.value =
      let (contents, result) :=
        Contents.repeatStep (Contents.stepUp store.enforced) 2 store.contents
      ({ store with contents }, result) := by
  rw [value_migrateUp, up, migrateBy_of_open isOpen]
  rfl

theorem value_migrateDown_of_open (isOpen : store.isOpen = true) :
    store.migrateDown.value =
      let (contents, result) := Contents.stepDown store.enforced store.contents
      ({ store with contents }, result) := by
  rw [value_migrateDown, down, migrateBy_of_open isOpen]
  exact congrArg
    (fun ended => ({ store with contents := ended.1 }, ended.2))
    (Contents.repeatStep_one _ _)

end

/-- The migrations that are applied and the tables that exist. -/
def SameSchema (store left : Store) : Prop :=
  left.contents.applied = store.contents.applied ∧
    left.contents.existing = store.contents.existing

/-- A migration that stopped halfway: only the rows have changed, and they are
those that the statements before the refused one left. -/
structure Halted (store left : Store) (statements : List Statement)
    (fault : StoreFault) (before after : Tables) (filled : Bool) : Prop where
  present : store.contents = .created before filled
  left_eq : left = { store with contents := .created after filled }
  stops : StopsAt before store.enforced statements after fault

section

variable {store left : Store} {fault : StoreFault}

theorem Halted.sameSchema {statements : List Statement}
    {before after : Tables} {filled : Bool}
    (halted : store.Halted left statements fault before after filled) :
    store.SameSchema left := by
  unfold SameSchema
  rw [halted.left_eq, halted.present]
  cases filled <;> exact ⟨rfl, rfl⟩

theorem halted_of_migrateUp_error (isOpen : store.isOpen = true)
    (failed : store.migrateUp.value = (left, .error fault)) :
    ∃ before after,
      store.Halted left Catalog.filling fault before after false := by
  rw [value_migrateUp_of_open isOpen] at failed
  rcases ended : Contents.repeatStep (Contents.stepUp store.enforced) 2
      store.contents with ⟨contents, result⟩
  rw [ended] at failed
  cases failed
  obtain ⟨before, after, present, rfl, stops⟩ :=
    Contents.stopsAt_of_stepUp_error ended
  exact ⟨before, after, present, rfl, stops⟩

theorem halted_of_migrateDown_error (isOpen : store.isOpen = true)
    (failed : store.migrateDown.value = (left, .error fault)) :
    ∃ before after,
      store.Halted left Catalog.clearing fault before after true := by
  rw [value_migrateDown_of_open isOpen] at failed
  rcases ended : Contents.stepDown store.enforced store.contents with
    ⟨contents, result⟩
  rw [ended] at failed
  cases failed
  obtain ⟨before, after, present, rfl, stops⟩ :=
    Contents.stopsAt_of_stepDown_error ended
  exact ⟨before, after, present, rfl, stops⟩

end

/-- A migration that fails changes neither which migrations are applied nor
which tables exist, but what its statements did before one was refused stays.
Filling in the catalog has then only added rows after those that were there.
Clearing it has only removed rows, changing none and keeping their order, and
always all authorizations of all permissions. -/
theorem failed_migration_stops_halfway (store left : Store)
    (fault : StoreFault) :
    (store.migrateUp.value = (left, .error fault) →
      store.SameSchema left ∧
        (store.isOpen = false ∧ left = store ∨
          ∃ before after,
            store.Halted left Catalog.filling fault before after false ∧
              ∀ table, before.rows table <+: after.rows table)) ∧
      (store.migrateDown.value = (left, .error fault) →
        store.SameSchema left ∧
          (store.isOpen = false ∧ left = store ∨
            ∃ before after,
              store.Halted left Catalog.clearing fault before after true ∧
                (∀ table,
                  (after.rows table).Sublist (before.rows table)) ∧
                  after.permissionAuthorizations = [])) := by
  constructor
  · intro failed
    cases isOpen : store.isOpen with
    | false =>
        rw [value_migrateUp, up, migrateBy_of_closed isOpen] at failed
        cases failed
        exact ⟨⟨rfl, rfl⟩, .inl ⟨rfl, rfl⟩⟩
    | true =>
        obtain ⟨before, after, halted⟩ :=
          halted_of_migrateUp_error isOpen failed
        have grown := Catalog.rows_runAll_filling before store.enforced
        rw [Statement.runAll_eq_error_iff.mpr halted.stops] at grown
        exact ⟨halted.sameSchema, .inr ⟨before, after, halted, grown⟩⟩
  · intro failed
    cases isOpen : store.isOpen with
    | false =>
        rw [value_migrateDown, down, migrateBy_of_closed isOpen] at failed
        cases failed
        exact ⟨⟨rfl, rfl⟩, .inl ⟨rfl, rfl⟩⟩
    | true =>
        obtain ⟨before, after, halted⟩ :=
          halted_of_migrateDown_error isOpen failed
        have shrunk := Catalog.rows_runAll_removing
          (List.Sublist.refl Catalog.clearing) before store.enforced
        have stripped := Catalog.permissionAuthorizations_runAll_clearing
          before store.enforced
        rw [Statement.runAll_eq_error_iff.mpr halted.stops] at shrunk stripped
        exact ⟨halted.sameSchema,
          .inr ⟨before, after, halted, shrunk, stripped⟩⟩

/-- Privileges refuse a rollback, and it strips the permissions all the
same. -/
theorem Sound.value_migrateDown_of_privileges {store : Store}
    (sound : store.Sound) {tables : Tables}
    (present : store.contents = .created tables true)
    (held : tables.privileges ≠ []) :
    store.migrateDown.value =
      ({ store with
          contents :=
            .created { tables with permissionAuthorizations := [] } true },
        .error .foreignKey) := by
  have refused := (sound.intact tables true present).runAll_clearing_of_privileges
    held
  rw [value_migrateDown_of_open sound.isOpen, present, sound.enforced,
    Contents.stepDown_of_error refused]

/-! ## Two migrations that fail -/

namespace Sample

theorem sound_store : store.Sound where
  isOpen := rfl
  enforced := rfl
  intact := Contents.intact_created (Tables.intact_empty.runAll _) true

/-- The sample store without the authorizations of its permissions. -/
def stripped : Store where
  contents := .created { tables with permissionAuthorizations := [] } true

theorem privileges_and_records :
    tables.privileges ≠ [] ∧ tables.permissionAuthorizations ≠ [] := by
  decide +kernel

theorem value_migrateDown :
    store.migrateDown.value = (stripped, .error .foreignKey) :=
  sound_store.value_migrateDown_of_privileges rfl privileges_and_records.1

/-- A rollback that is refused does not leave the store as it was. -/
theorem refused_rollback_strips_permissions :
    store.migrateDown.value = (stripped, .error .foreignKey) ∧
      stripped.contents ≠ store.contents ∧
        ¬ ∀ (store left : Store) (fault : StoreFault),
          store.migrateUp.value = (left, .error fault) ∨
            store.migrateDown.value = (left, .error fault) →
              left.contents = store.contents := by
  have changed : stripped.contents ≠ store.contents := by
    intro same
    have tablesSame := (Contents.created.inj same).1
    apply privileges_and_records.2
    exact (congrArg Tables.permissionAuthorizations tablesSame).symm
  refine ⟨value_migrateDown, changed, ?_⟩
  intro unchanged
  exact changed (unchanged store stripped .foreignKey (.inr value_migrateDown))

/-- A store without the catalog, in which a row stands in its way. -/
def obstructed : Store where
  contents := .created { resourceTypes := [⟨2, "PIPELINE"⟩] } false

/-- What filling in the catalog leaves before it stops. -/
def halfFilled : Store where
  contents :=
    .created { resourceTypes := [⟨2, "PIPELINE"⟩, ⟨1, "AMBARI"⟩] } false

theorem value_migrateUp_obstructed :
    obstructed.migrateUp.value = (halfFilled, .error .unique) := by
  rfl

theorem both_directions_stop_halfway :
    (obstructed.migrateUp.value = (halfFilled, .error .unique) ∧
      obstructed.SameSchema halfFilled ∧
        (obstructed.isOpen = false ∧ halfFilled = obstructed ∨
          ∃ before after,
            obstructed.Halted halfFilled Catalog.filling .unique before after
                false ∧
              ∀ table, before.rows table <+: after.rows table)) ∧
      store.migrateDown.value = (stripped, .error .foreignKey) ∧
        store.SameSchema stripped ∧
          (store.isOpen = false ∧ stripped = store ∨
            ∃ before after,
              store.Halted stripped Catalog.clearing .foreignKey before after
                  true ∧
                (∀ table,
                  (after.rows table).Sublist (before.rows table)) ∧
                  after.permissionAuthorizations = []) := by
  have filling := (failed_migration_stops_halfway obstructed halfFilled
    .unique).1 value_migrateUp_obstructed
  have clearing := (failed_migration_stops_halfway store stripped
    .foreignKey).2 value_migrateDown
  exact ⟨⟨value_migrateUp_obstructed, filling⟩, value_migrateDown, clearing⟩

end Sample

/-! ## What a rollback needs and what undoes it -/

/-- Filling in the catalog anew leads to the migrated store. -/
theorem value_migrateUp_emptied :
    (migrateUp { contents := .created {} false }).value =
      (migrated, .ok ()) := by
  obtain ⟨tables, filled⟩ := Contents.exists_filled true
  have fromBlank :
      Contents.repeatStep (Contents.stepUp true) 2 .blank =
        (.created tables true, .ok ()) := by
    rw [Contents.repeatStep_succ_of_ok 1 rfl]
    exact Contents.repeatStep_succ_of_ok 0 (Contents.stepUp_of_ok filled)
  have fromEmptied :
      Contents.repeatStep (Contents.stepUp true) 2 (.created {} false) =
        (.created tables true, .ok ()) := by
    rw [Contents.repeatStep_succ_of_ok 1 (Contents.stepUp_of_ok filled)]
    exact Contents.repeatStep_stepUp_filled tables 1
  have complete : migrated = { contents := .created tables true } :=
    congrArg (fun ended => { contents := ended.1 : Store }) fromBlank
  rw [value_migrateUp_of_open rfl, fromEmptied, complete]

namespace Sound

variable {store : Store} (sound : store.Sound) {tables : Tables}
  (present : store.contents = .created tables true)

include sound present

theorem value_migrateDown_of_onlyCatalog (only : tables.OnlyCatalog) :
    store.migrateDown.value =
      ({ contents := .created {} false }, .ok ()) := by
  have cleared := Tables.runAll_clearing_of_onlyCatalog only true
  have isOpen := sound.isOpen
  rw [value_migrateDown_of_open isOpen, present, sound.enforced,
    Contents.stepDown_of_ok cleared]
  simp only [isOpen]

/-- A rollback succeeds exactly when there is nothing but the catalog. -/
theorem migrateDown_eq_ok_iff :
    store.migrateDown.value.2 = .ok () ↔ tables.OnlyCatalog := by
  constructor
  · intro success
    have intact := sound.intact tables true present
    rw [value_migrateDown_of_open sound.isOpen, present, sound.enforced]
      at success
    rcases ran : runAll tables true Catalog.clearing with
      ⟨left, fault | done⟩
    · rw [Contents.stepDown_of_error ran] at success
      cases success
    · exact (intact.runAll_clearing_eq_ok_iff.mp ran).1
  · intro only
    rw [sound.value_migrateDown_of_onlyCatalog present only]

end Sound

/-- Whatever happened to the migrated store while references were enforced, a
rollback of the catalog succeeds exactly when there is nothing but the catalog.
It then leaves no row, and applying the migration again leads back to the
migrated store. -/
theorem rollback_iff_onlyCatalog (history : List Action) {tables : Tables}
    (present : (migrated.afterAll history).contents = .created tables true) :
    ((migrated.afterAll history).migrateDown.value.2 = .ok () ↔
        tables.OnlyCatalog) ∧
      ((migrated.afterAll history).migrateDown.value.2 = .ok () →
        (migrated.afterAll history).migrateDown.value.1.contents =
            .created {} false ∧
          (migrated.afterAll history).migrateDown.value.1.migrateUp.value =
            (migrated, .ok ())) := by
  have sound := sound_migrated.afterAll history
  have succeeds := sound.migrateDown_eq_ok_iff present
  refine ⟨succeeds, ?_⟩
  intro success
  have emptied := sound.value_migrateDown_of_onlyCatalog present
    (succeeds.mp success)
  rw [emptied]
  exact ⟨rfl, value_migrateUp_emptied⟩

namespace Abandoned

/-- Another principal comes to stand for the operators of services, and the
administrative root goes. -/
def history : List Action :=
  [.execute (.insert .principal [⟨42, 5⟩]),
    .execute (.delete .resource (.id 1))]

/-- Nothing but the catalog, and not all of it. -/
def tables : Tables where
  resourceTypes := Catalog.resourceTypes
  permissions := Catalog.permissions
  authorizations := Catalog.authorizations
  permissionAuthorizations :=
    Catalog.permissions.flatMap fun row =>
      (Catalog.carried row.id).map fun authorization => ⟨row.id, authorization⟩
  principalTypes := Catalog.principalTypes
  principals := Catalog.inheritingPrincipals ++ [⟨42, 5⟩]

theorem contents_afterAll :
    (migrated.afterAll history).contents = .created tables true := by
  decide +kernel

theorem onlyCatalog_tables : tables.OnlyCatalog where
  users := rfl
  privileges := rfl
  clusters := rfl
  views := rfl
  principals := by decide
  resources := by decide

theorem rolled_back_and_restored :
    (migrated.afterAll history).contents = .created tables true ∧
      (migrated.afterAll history).migrateDown.value.2 = .ok () ∧
        (migrated.afterAll history).migrateDown.value.1.contents =
            .created {} false ∧
          (migrated.afterAll history).migrateDown.value.1.migrateUp.value =
            (migrated, .ok ()) := by
  obtain ⟨succeeds, restored⟩ :=
    rollback_iff_onlyCatalog history contents_afterAll
  have success := succeeds.mpr onlyCatalog_tables
  exact ⟨contents_afterAll, success, restored success⟩

end Abandoned

end AccessControl.Store
