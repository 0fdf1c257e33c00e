import AccessControl.Text
import Mathlib.Data.List.DropRight

/-!
# Blanks around a text

Every list is a core between two runs of blanks, where the core neither starts
nor ends with one.  Trimming a text finds that core.
-/

namespace AccessControl.Text

/-- Neither the first nor the last element is blank. -/
structure Stripped {α : Type} (blank : α → Bool) (core : List α) : Prop where
  first : ∀ item ∈ core.head?, blank item = false
  last : ∀ item ∈ core.getLast?, blank item = false

section

variable {α : Type} {blank : α → Bool}

theorem Stripped.dropWhile_append {core : List α}
    (stripped : Stripped blank core) {after : List α}
    (blankAfter : ∀ item ∈ after, blank item = true) :
    (core ++ after).dropWhile blank = if core = [] then [] else core ++ after := by
  cases core with
  | nil => simpa using blankAfter
  | cons first later =>
      have kept : blank first = false := stripped.first first rfl
      simp [kept]

theorem Stripped.reverse {core : List α} (stripped : Stripped blank core) :
    Stripped blank core.reverse where
  first := by simpa using stripped.last
  last := by simpa using stripped.first

/-- Only the two ends of a text decide whether it is stripped. -/
theorem Stripped.around {before after : List α}
    (stripped : Stripped blank before) (filled : before ≠ [])
    (strippedAfter : Stripped blank after) (filledAfter : after ≠ [])
    (middle : List α) : Stripped blank (before ++ (middle ++ after)) where
  first := by
    rw [List.head?_append_of_ne_nil _ filled]
    exact stripped.first
  last := by
    rw [← List.append_assoc, List.getLast?_append_of_ne_nil _ filledAfter]
    exact strippedAfter.last

theorem exists_stripped (blank : α → Bool) (items : List α) :
    ∃ before core after, items = before ++ core ++ after ∧
      (∀ item ∈ before, blank item = true) ∧
      (∀ item ∈ after, blank item = true) ∧ Stripped blank core := by
  let rest := items.dropWhile blank
  refine ⟨items.takeWhile blank, rest.rdropWhile blank, rest.rtakeWhile blank,
    ?_, fun _ => List.mem_takeWhile_imp, fun _ => List.mem_rtakeWhile_imp,
    ?_, ?_⟩
  · rw [List.append_assoc, List.rdropWhile_append_rtakeWhile,
      List.takeWhile_append_dropWhile]
  · intro item first
    obtain ⟨after, parts⟩ := List.rdropWhile_prefix blank rest
    have restFirst : rest.head? = some item := by
      rw [← parts, List.head?_append, first]
      rfl
    have kept := List.head?_dropWhile_not blank items
    rw [show (items.dropWhile blank).head? = some item from restFirst] at kept
    exact kept
  · intro item last
    have nonempty : rest.rdropWhile blank ≠ [] := by
      intro empty
      rw [empty] at last
      cases last
    rw [List.getLast?_eq_some_getLast nonempty] at last
    cases last
    simpa using List.rdropWhile_last_not blank rest nonempty

end

theorem trimmed_append {before core after : List Char}
    (blankBefore : ∀ c ∈ before, isBlank c = true)
    (blankAfter : ∀ c ∈ after, isBlank c = true)
    (stripped : Stripped isBlank core) :
    trimmed (before ++ core ++ after) = core := by
  have forward : (before ++ core ++ after).dropWhile isBlank =
      if core = [] then [] else core ++ after := by
    rw [List.append_assoc, List.dropWhile_append_of_pos blankBefore,
      stripped.dropWhile_append blankAfter]
  unfold trimmed
  rw [forward]
  split
  next empty => rw [empty]; rfl
  next nonempty =>
      have kept : core.reverse.dropWhile isBlank = core.reverse := by
        have alone := stripped.reverse.dropWhile_append (List.forall_mem_nil _)
        simpa [nonempty] using alone
      have backward : (after.reverse ++ core.reverse).dropWhile isBlank =
          core.reverse := by
        rw [List.dropWhile_append_of_pos (by simpa using blankAfter), kept]
      rw [List.reverse_append, backward, List.reverse_reverse]

/-- What is left of a text without the blanks around it. -/
inductive Trims : List Char → List Char → Prop where
  | core {before core after : List Char} :
      (∀ c ∈ before, isBlank c = true) → (∀ c ∈ after, isBlank c = true) →
      Stripped isBlank core → Trims (before ++ core ++ after) core

theorem trims_iff {cs core : List Char} :
    Trims cs core ↔ trimmed cs = core := by
  constructor
  · intro trims
    cases trims with
    | core blankBefore blankAfter stripped =>
        exact trimmed_append blankBefore blankAfter stripped
  · rintro rfl
    obtain ⟨before, core, after, rfl, blankBefore, blankAfter, stripped⟩ :=
      exists_stripped isBlank cs
    rw [trimmed_append blankBefore blankAfter stripped]
    exact .core blankBefore blankAfter stripped

theorem trims_trimmed (cs : List Char) : Trims cs (trimmed cs) :=
  trims_iff.mpr rfl

theorem trims_ofList (cs : List Char) :
    Trims cs (String.ofList (trimmed cs)).toList := by
  rw [String.toList_ofList]
  exact trims_trimmed cs

namespace Trims

variable {cs core : List Char}

theorem stripped (trims : Trims cs core) : Stripped isBlank core := by
  cases trims with
  | core _ _ stripped => exact stripped

theorem subset (trims : Trims cs core) : core ⊆ cs := by
  cases trims with
  | core =>
      intro c member
      exact List.mem_append_left _ (List.mem_append_right _ member)

theorem of_stripped (stripped : Stripped isBlank core) : Trims core core := by
  have trims : Trims ([] ++ core ++ []) core :=
    .core (List.forall_mem_nil _) (List.forall_mem_nil _) stripped
  rwa [List.nil_append, List.append_nil] at trims

/-- Blanks before and after a text do not count. -/
theorem pad (trims : Trims cs core) {before after : List Char}
    (blankBefore : ∀ c ∈ before, isBlank c = true)
    (blankAfter : ∀ c ∈ after, isBlank c = true) :
    Trims (before ++ cs ++ after) core := by
  cases trims with
  | @core first _ last blankFirst blankLast stripped =>
      have whole : Trims ((before ++ first) ++ core ++ (last ++ after)) core :=
        .core (List.forall_mem_append.mpr ⟨blankBefore, blankFirst⟩)
          (List.forall_mem_append.mpr ⟨blankLast, blankAfter⟩) stripped
      simpa only [List.append_assoc] using whole

/-- Nothing is left exactly of a text of blanks. -/
theorem eq_nil_iff (trims : Trims cs core) :
    core = [] ↔ ∀ c ∈ cs, isBlank c = true := by
  cases trims with
  | core blankBefore blankAfter stripped =>
      constructor
      · rintro rfl
        rw [List.append_nil]
        exact List.forall_mem_append.mpr ⟨blankBefore, blankAfter⟩
      · intro blank
        cases core with
        | nil => rfl
        | cons first later =>
            have kept := stripped.first first rfl
            rw [blank first (by simp)] at kept
            cases kept

end Trims

end AccessControl.Text
