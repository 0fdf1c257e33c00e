import Mathlib.Data.List.Forall2

/-!
# Lists read item by item

A list whose items are read one after the other is read item by item, or fails
at its first unreadable item.
-/

namespace AccessControl.Traversal

variable {α β ε : Type} {read : α → Except ε β} {items : List α}

theorem mapM_eq_ok_iff {results : List β} :
    items.mapM read = .ok results ↔
      List.Forall₂ (fun item result => read item = .ok result) items results := by
  induction items generalizing results with
  | nil => simp [pure, Except.pure, eq_comm]
  | cons item later induction =>
      rw [List.mapM_cons, List.forall₂_cons_left_iff]
      simp only [← induction]
      cases read item with
      | error failure => simp [bind, Except.bind]
      | ok result =>
          cases later.mapM read with
          | error failure => simp [bind, Except.bind]
          | ok others => simp [bind, Except.bind, pure, Except.pure, eq_comm]

theorem mapM_eq_some_iff {read : α → Option β} {results : List β} :
    items.mapM read = some results ↔
      List.Forall₂ (fun item result => read item = some result) items results := by
  induction items generalizing results with
  | nil => simp [eq_comm]
  | cons item later induction =>
      rw [List.mapM_cons, List.forall₂_cons_left_iff]
      simp only [← induction]
      cases read item with
      | none => simp
      | some result => cases later.mapM read <;> simp [eq_comm]

theorem mapM_append_cons {passed later : List α} {item : α} {failure : ε}
    (readable : ∀ other ∈ passed, ∃ result, read other = .ok result)
    (refused : read item = .error failure) :
    (passed ++ item :: later).mapM read = .error failure := by
  induction passed with
  | nil =>
      rw [List.nil_append, List.mapM_cons, refused]
      rfl
  | cons first passed induction =>
      obtain ⟨result, accepted⟩ := readable first List.mem_cons_self
      have rest := induction fun other member =>
        readable other (List.mem_cons_of_mem first member)
      rw [List.cons_append, List.mapM_cons, accepted, rest]
      rfl

/-- The items before the first failure were readable. -/
theorem mapM_eq_error_iff {failure : ε} :
    items.mapM read = .error failure ↔
      ∃ passed item later, items = passed ++ item :: later ∧
        (∀ other ∈ passed, ∃ result, read other = .ok result) ∧
          read item = .error failure := by
  constructor
  · intro refused
    induction items with
    | nil => cases refused
    | cons first rest induction =>
        rw [List.mapM_cons] at refused
        cases outcome : read first with
        | error missing =>
            rw [outcome] at refused
            cases refused
            exact ⟨[], first, rest, rfl, List.forall_mem_nil _, outcome⟩
        | ok result =>
            rw [outcome] at refused
            cases others : rest.mapM read with
            | ok results =>
                rw [others] at refused
                cases refused
            | error missing =>
                rw [others] at refused
                cases refused
                obtain ⟨passed, item, later, rfl, readable, unreadable⟩ :=
                  induction others
                refine ⟨first :: passed, item, later, rfl, ?_, unreadable⟩
                exact List.forall_mem_cons.mpr ⟨⟨result, outcome⟩, readable⟩
  · rintro ⟨passed, item, later, rfl, readable, refused⟩
    exact mapM_append_cons readable refused

theorem exists_mapM_eq_ok_iff :
    (∃ results, items.mapM read = .ok results) ↔
      ∀ item ∈ items, ∃ result, read item = .ok result := by
  constructor
  · rintro ⟨results, accepted⟩
    have found := mapM_eq_ok_iff.mp accepted
    clear accepted
    induction found with
    | nil => exact List.forall_mem_nil _
    | cons first _ induction => exact List.forall_mem_cons.mpr ⟨⟨_, first⟩, induction⟩
  · intro readable
    cases outcome : items.mapM read with
    | ok results => exact ⟨results, rfl⟩
    | error failure =>
        obtain ⟨passed, item, later, parts, _, refused⟩ :=
          mapM_eq_error_iff.mp outcome
        obtain ⟨result, accepted⟩ := readable item (by simp [parts])
        rw [refused] at accepted
        cases accepted

end AccessControl.Traversal
