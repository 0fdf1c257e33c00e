import AccessControl.Proofs.Store.Integrity

/-!
# Stores and their histories

A store changes by statements and by migrations in both directions, and each of
them may fail.  A failed statement changes nothing; a failed migration leaves
what its earlier statements did.  From the migrated store on, with references
enforced, all of this keeps the tables intact.
-/

namespace AccessControl.Store

/-! ## Several statements -/

namespace Statement

variable {tables left : Tables} {enforced : Bool}

/-- A run that fails stops at the statement that was refused: those before it
took effect, it and those after it did not. -/
def StopsAt (tables : Tables) (enforced : Bool) (statements : List Statement)
    (left : Tables) (fault : StoreFault) : Prop :=
  ∃ done refused later, statements = done ++ refused :: later ∧
    runAll tables enforced done = (left, .ok ()) ∧
      refused.run left enforced = .error fault

section

variable {statement : Statement} {later : List Statement}

theorem runAll_cons_of_ok {changed : Tables}
    (ran : statement.run tables enforced = .ok changed) :
    runAll tables enforced (statement :: later) =
      runAll changed enforced later := by
  rw [runAll, ran]

theorem runAll_cons_of_error {fault : StoreFault}
    (refused : statement.run tables enforced = .error fault) :
    runAll tables enforced (statement :: later) = (tables, .error fault) := by
  rw [runAll, refused]

theorem runAll_cons_eq_ok_iff :
    runAll tables enforced (statement :: later) = (left, .ok ()) ↔
      ∃ changed, statement.run tables enforced = .ok changed ∧
        runAll changed enforced later = (left, .ok ()) := by
  cases ran : statement.run tables enforced with
  | error fault => simp [runAll_cons_of_error ran]
  | ok changed => simp [runAll_cons_of_ok ran]

end

theorem runAll_append_eq_ok_iff {first second : List Statement} :
    runAll tables enforced (first ++ second) = (left, .ok ()) ↔
      ∃ between, runAll tables enforced first = (between, .ok ()) ∧
        runAll between enforced second = (left, .ok ()) := by
  induction first generalizing tables with
  | nil => simp [runAll]
  | cons statement later induction =>
      simp only [List.cons_append, runAll_cons_eq_ok_iff, induction]
      grind

theorem runAll_eq_error_iff {statements : List Statement}
    {fault : StoreFault} :
    runAll tables enforced statements = (left, .error fault) ↔
      StopsAt tables enforced statements left fault := by
  induction statements generalizing tables with
  | nil => simp [runAll, StopsAt]
  | cons statement later induction =>
      constructor
      · intro failed
        cases ran : statement.run tables enforced with
        | error stopped =>
            rw [runAll_cons_of_error ran] at failed
            cases failed
            exact ⟨[], statement, later, rfl, rfl, ran⟩
        | ok changed =>
            rw [runAll_cons_of_ok ran] at failed
            obtain ⟨done, refused, rest, split, succeeded, stopped⟩ :=
              induction.mp failed
            exact ⟨statement :: done, refused, rest, by rw [split]; rfl,
              runAll_cons_eq_ok_iff.mpr ⟨changed, ran, succeeded⟩, stopped⟩
      · rintro ⟨done, refused, rest, split, succeeded, stopped⟩
        cases done with
        | nil =>
            obtain ⟨rfl, rfl⟩ := List.cons.inj split
            cases succeeded
            exact runAll_cons_of_error stopped
        | cons first others =>
            obtain ⟨rfl, rfl⟩ := List.cons.inj split
            obtain ⟨changed, ran, remaining⟩ :=
              runAll_cons_eq_ok_iff.mp succeeded
            rw [runAll_cons_of_ok ran]
            exact induction.mpr
              ⟨others, refused, rest, rfl, remaining, stopped⟩

/-- What each statement that succeeds keeps is kept by a run, whether or not
it is refused on the way. -/
theorem runAll_keeps {keeps : Tables → Tables → Prop}
    (refl : ∀ tables, keeps tables tables)
    (trans : ∀ {first second third}, keeps first second → keeps second third →
      keeps first third)
    {statements : List Statement}
    (step : ∀ statement ∈ statements, ∀ tables changed,
      statement.run tables enforced = .ok changed → keeps tables changed)
    (tables : Tables) : keeps tables (runAll tables enforced statements).1 := by
  induction statements generalizing tables with
  | nil => exact refl tables
  | cons statement later induction =>
      cases ran : statement.run tables enforced with
      | error fault =>
          rw [runAll_cons_of_error ran]
          exact refl tables
      | ok changed =>
          rw [runAll_cons_of_ok ran]
          have here := step statement List.mem_cons_self tables changed ran
          have there := induction (fun other member =>
            step other (List.mem_cons_of_mem statement member)) changed
          exact trans here there

end Statement

theorem Tables.Intact.runAll {tables : Tables} (intact : tables.Intact)
    (statements : List Statement) :
    (Statement.runAll tables true statements).1.Intact := by
  let keeps := fun before after : Tables => before.Intact → after.Intact
  have kept : keeps tables (Statement.runAll tables true statements).1 := by
    apply Statement.runAll_keeps
    · exact fun _ => id
    · exact fun first second => second ∘ first
    · exact fun _ _ _ _ ran intact => intact.run ran
  exact kept intact

/-! ## Migrations -/

namespace Contents

/-- Intact tables, as far as there are tables. -/
def Intact (contents : Contents) : Prop :=
  ∀ tables filled, contents = .created tables filled → tables.Intact

variable {contents : Contents}

theorem intact_blank : Intact .blank := by
  intro tables filled present
  cases present

theorem intact_created {tables : Tables} (intact : tables.Intact)
    (filled : Bool) : Intact (.created tables filled) := by
  intro others _ present
  cases present
  exact intact

section

variable {tables left : Tables} {enforced : Bool} {fault : StoreFault}

theorem stepUp_of_ok
    (ran : Statement.runAll tables enforced Catalog.filling = (left, .ok ())) :
    stepUp enforced (.created tables false) = (.created left true, .ok ()) := by
  simp [stepUp, ran]

theorem stepUp_of_error
    (ran : Statement.runAll tables enforced Catalog.filling =
      (left, .error fault)) :
    stepUp enforced (.created tables false) =
      (.created left false, .error fault) := by
  simp [stepUp, ran]

theorem stepDown_of_ok
    (ran : Statement.runAll tables enforced Catalog.clearing =
      (left, .ok ())) :
    stepDown enforced (.created tables true) =
      (.created left false, .ok ()) := by
  simp [stepDown, ran]

theorem stepDown_of_error
    (ran : Statement.runAll tables enforced Catalog.clearing =
      (left, .error fault)) :
    stepDown enforced (.created tables true) =
      (.created left true, .error fault) := by
  simp [stepDown, ran]

end

theorem Intact.stepUp (intact : contents.Intact) :
    (contents.stepUp true).1.Intact := by
  match contents with
  | .blank => exact intact_created Tables.intact_empty false
  | .created tables true => exact intact
  | .created tables false =>
      have kept := (intact tables false rfl).runAll Catalog.filling
      rcases ran : Statement.runAll tables true Catalog.filling with
        ⟨left, fault | done⟩
      · rw [stepUp_of_error ran]
        rw [ran] at kept
        exact intact_created kept false
      · rw [stepUp_of_ok ran]
        rw [ran] at kept
        exact intact_created kept true

theorem Intact.stepDown (intact : contents.Intact) :
    (contents.stepDown true).1.Intact := by
  match contents with
  | .blank => exact intact
  | .created tables false => exact intact_blank
  | .created tables true =>
      have kept := (intact tables true rfl).runAll Catalog.clearing
      rcases ran : Statement.runAll tables true Catalog.clearing with
        ⟨left, fault | done⟩
      · rw [stepDown_of_error ran]
        rw [ran] at kept
        exact intact_created kept true
      · rw [stepDown_of_ok ran]
        rw [ran] at kept
        exact intact_created kept false

theorem Intact.repeatStep
    {step : Contents → Contents × Except StoreFault Unit}
    (preserved : ∀ contents : Contents, contents.Intact →
      (step contents).1.Intact)
    (count : Nat) (intact : contents.Intact) :
    (repeatStep step count contents).1.Intact := by
  induction count generalizing contents with
  | zero => exact intact
  | succ count induction =>
      have next := preserved contents intact
      unfold Contents.repeatStep
      split
      next left ran =>
          rw [ran] at next
          exact induction next
      next left fault ran =>
          rw [ran] at next
          exact next

end Contents

theorem value_migrateUp (store : Store) :
    store.migrateUp.value = up none store := by
  unfold migrateUp
  split
  next ran => exact ran.symm
  next => rfl

theorem value_migrateDown (store : Store) :
    store.migrateDown.value = down (some 1) store := by
  unfold migrateDown
  split
  next ran => exact ran.symm
  next => rfl

theorem migrateBy_of_open {store : Store} (isOpen : store.isOpen = true)
    (change : Contents → Contents × Except StoreFault Unit) :
    migrateBy change store =
      ({ store with contents := (change store.contents).1 },
        (change store.contents).2) := by
  unfold migrateBy connected
  rw [if_pos isOpen]

/-! ## Histories -/

/-- Something done to a store that may fail. -/
inductive Action where
  | execute (statement : Statement)
  | migrateUp
  | migrateDown

/-- The store after an action, whether it succeeds or fails. -/
def after (store : Store) : Action → Store
  | .execute statement =>
      match store.execute statement with
      | .ok changed => changed
      | .error _ => store
  | .migrateUp => store.migrateUp.value.1
  | .migrateDown => store.migrateDown.value.1

/-- The store after a history of actions. -/
def afterAll (store : Store) (history : List Action) : Store :=
  history.foldl after store

/-- An open store that enforces references over intact tables. -/
structure Sound (store : Store) : Prop where
  isOpen : store.isOpen = true
  enforced : store.enforced = true
  intact : store.contents.Intact

namespace Sound

variable {store : Store}

theorem migrateBy (sound : store.Sound)
    {step : Contents → Contents × Except StoreFault Unit}
    (preserved : ∀ contents : Contents, contents.Intact →
      (step contents).1.Intact) (count : Nat) :
    (Store.migrateBy (Contents.repeatStep step count) store).1.Sound := by
  rw [migrateBy_of_open sound.isOpen]
  exact ⟨sound.isOpen, sound.enforced,
    sound.intact.repeatStep preserved count⟩

theorem up (sound : store.Sound) (steps : Option Nat) :
    (Store.up steps store).1.Sound := by
  unfold Store.up
  rw [sound.enforced]
  exact sound.migrateBy (fun _ intact => intact.stepUp) _

theorem down (sound : store.Sound) (steps : Option Nat) :
    (Store.down steps store).1.Sound := by
  unfold Store.down
  rw [sound.enforced]
  exact sound.migrateBy (fun _ intact => intact.stepDown) _

theorem execute (sound : store.Sound) {statement : Statement} {changed : Store}
    (success : store.execute statement = .ok changed) : changed.Sound := by
  obtain ⟨tables, left, filled, present, isOpen, ran, rfl⟩ :=
    execute_eq_ok success
  rw [sound.enforced] at ran
  have intact := (sound.intact tables filled present).run ran
  exact ⟨isOpen, sound.enforced, Contents.intact_created intact filled⟩

/-- One action keeps a store sound. -/
theorem after (sound : store.Sound) (action : Action) :
    (store.after action).Sound := by
  cases action with
  | execute statement =>
      simp only [Store.after]
      split
      next success => exact sound.execute success
      next => exact sound
  | migrateUp =>
      change store.migrateUp.value.1.Sound
      rw [value_migrateUp]
      exact sound.up none
  | migrateDown =>
      change store.migrateDown.value.1.Sound
      rw [value_migrateDown]
      exact sound.down (some 1)

/-- A history keeps a store sound. -/
theorem afterAll (sound : store.Sound) (history : List Action) :
    (store.afterAll history).Sound := by
  unfold Store.afterAll
  induction history generalizing store with
  | nil => exact sound
  | cons action later induction => exact induction (sound.after action)

end Sound

theorem sound_migrated : migrated.Sound := by
  have start : Sound {} := ⟨rfl, rfl, Contents.intact_blank⟩
  exact start.up none

end AccessControl.Store
