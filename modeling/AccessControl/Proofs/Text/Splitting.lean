import AccessControl.Text

/-!
# Texts cut at a separator

The pieces of a text between separators are those parts that hold no separator
and, joined by separators, are the text again.  Cutting a text in two does so at
the first separator.
-/

namespace AccessControl.Text

variable {separator : Char} {cs : List Char}

theorem pieces_eq_splitOn (separator : Char) (cs : List Char) :
    pieces separator cs = cs.splitOn separator := by
  induction cs with
  | nil => rfl
  | cons c rest induction =>
      rw [List.splitOn_cons_eq_if_modifyHead, pieces, ← induction]
      by_cases same : c = separator
      · simp [same]
      · cases parts : pieces separator rest with
        | nil =>
            rw [induction] at parts
            exact absurd parts (List.splitOn_ne_nil separator rest)
        | cons piece later => simp [same]

theorem not_mem_of_mem_pieces {piece : List Char}
    (member : piece ∈ pieces separator cs) : separator ∉ piece := by
  induction cs generalizing piece with
  | nil =>
      rw [List.mem_singleton.mp member]
      exact List.not_mem_nil
  | cons c rest induction =>
      rw [pieces] at member
      split at member
      next same =>
        rcases List.mem_cons.mp member with rfl | later
        · exact List.not_mem_nil
        · exact induction later
      next different =>
        split at member
        next none =>
          rw [List.mem_singleton.mp member, List.mem_singleton]
          exact fun equal => different equal.symm
        next first later parts =>
          rw [parts] at induction
          rcases List.mem_cons.mp member with rfl | there
          · intro found
            rcases List.mem_cons.mp found with equal | inside
            · exact different equal.symm
            · exact induction List.mem_cons_self inside
          · exact induction (List.mem_cons_of_mem first there)

/-- The pieces of a text are determined by being free of separators and by
joining to the text. -/
theorem pieces_eq_iff {parts : List (List Char)} :
    pieces separator cs = parts ↔
      parts ≠ [] ∧ (∀ part ∈ parts, separator ∉ part) ∧
        [separator].intercalate parts = cs := by
  constructor
  · rintro rfl
    refine ⟨?_, fun part => not_mem_of_mem_pieces, ?_⟩
    · rw [pieces_eq_splitOn]
      exact List.splitOn_ne_nil separator cs
    · rw [pieces_eq_splitOn]
      exact List.intercalate_splitOn separator
  · rintro ⟨filled, free, rfl⟩
    rw [pieces_eq_splitOn]
    exact List.splitOn_intercalate separator free filled

/-! ## The first separator -/

theorem cutAt?_append {before : List Char} (free : separator ∉ before)
    (after : List Char) :
    cutAt? separator (before ++ separator :: after) = some (before, after) := by
  induction before with
  | nil => simp [cutAt?]
  | cons c rest induction =>
      have different : c ≠ separator := by
        rintro rfl
        exact free List.mem_cons_self
      have restFree : separator ∉ rest := fun member =>
        free (List.mem_cons_of_mem c member)
      rw [List.cons_append, cutAt?, if_neg different, induction restFree]
      rfl

theorem cutAt?_eq_some_iff {before after : List Char} :
    cutAt? separator cs = some (before, after) ↔
      separator ∉ before ∧ cs = before ++ separator :: after := by
  constructor
  · intro found
    induction cs generalizing before with
    | nil => cases found
    | cons c rest induction =>
        rw [cutAt?] at found
        split at found
        next same =>
          cases found
          exact ⟨List.not_mem_nil, by rw [same]; rfl⟩
        next different =>
          obtain ⟨⟨first, second⟩, cut, parts⟩ := Option.map_eq_some_iff.mp found
          cases parts
          obtain ⟨free, split⟩ := induction cut
          refine ⟨?_, by rw [split]; rfl⟩
          intro member
          rcases List.mem_cons.mp member with equal | inside
          · exact different equal.symm
          · exact free inside
  · rintro ⟨free, rfl⟩
    exact cutAt?_append free after

/-- Characters may be replaced before the cut, if none is replaced by a
separator or was one. -/
theorem cutAt?_map {replace : Char → Char}
    (kept : ∀ c, replace c = separator ↔ c = separator) (cs : List Char) :
    cutAt? separator (cs.map replace) =
      (cutAt? separator cs).map fun (before, after) =>
        (before.map replace, after.map replace) := by
  induction cs with
  | nil => rfl
  | cons c rest induction =>
      rw [List.map_cons, cutAt?, cutAt?, induction]
      by_cases same : c = separator
      · rw [if_pos ((kept c).mpr same), if_pos same]
        rfl
      · rw [if_neg (mt (kept c).mp same), if_neg same]
        cases cutAt? separator rest <;> rfl

end AccessControl.Text
