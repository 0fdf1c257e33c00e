import AccessControl.Json.Reader
import AccessControl.Proofs.Json.Writing

/-!
# Skipping written values

A written value is skipped as a whole, however deep its brackets are nested.
The fuel suffices because every character pays for two steps: one step takes the
character, and at most one more goes from an opening bracket to a first item.
-/

namespace AccessControl.Json

/-- How far a value is skipped. -/
structure Progress where
  awaited : Awaited
  openBrackets : List Bracket
  rest : List Char

/-- Go on skipping. -/
def Progress.skip (fuel : Nat) (place : Progress) :
    Except ReadFault (List Char) :=
  skipUntilClosed fuel place.awaited place.openBrackets place.rest

/-- Skipping comes from one place to another, with fuel for two steps a
character. -/
def Passes (before after : Progress) : Prop :=
  ∃ steps, steps + 2 * after.rest.length ≤ 2 * before.rest.length ∧
    ∀ fuel, before.skip (fuel + steps) = after.skip fuel

/-- A value is passed wherever it stands. -/
def Passed (document : Json) : Prop :=
  ∀ openBrackets rest, Ended rest →
    Passes ⟨.value, openBrackets, chars document ++ rest⟩
      ⟨.commaOrEnd, openBrackets, rest⟩

namespace Passes

variable {first second third : Progress} {openBrackets : List Bracket}
  {rest : List Char}

theorem trans (earlier : Passes first second) (later : Passes second third) :
    Passes first third := by
  obtain ⟨steps, bound, skips⟩ := earlier
  obtain ⟨moreSteps, moreBound, skipsMore⟩ := later
  refine ⟨moreSteps + steps, by omega, ?_⟩
  intro fuel
  rw [← Nat.add_assoc, skips, skipsMore]

theorem step (takes : second.rest.length < first.rest.length)
    (skips : ∀ fuel, first.skip (fuel + 1) = second.skip fuel) :
    Passes first second :=
  ⟨1, by omega, skips⟩

theorem comma_item :
    Passes ⟨.commaOrEnd, .square :: openBrackets, ',' :: rest⟩
      ⟨.value, .square :: openBrackets, rest⟩ :=
  step (Nat.lt_succ_self _) fun _ => rfl

theorem comma_member :
    Passes ⟨.commaOrEnd, .curly :: openBrackets, ',' :: rest⟩
      ⟨.member, .curly :: openBrackets, rest⟩ :=
  step (Nat.lt_succ_self _) fun _ => rfl

theorem end_items :
    Passes ⟨.commaOrEnd, .square :: openBrackets, ']' :: rest⟩
      ⟨.commaOrEnd, openBrackets, rest⟩ :=
  step (Nat.lt_succ_self _) fun _ => rfl

theorem end_members :
    Passes ⟨.commaOrEnd, .curly :: openBrackets, '\x7d' :: rest⟩
      ⟨.commaOrEnd, openBrackets, rest⟩ :=
  step (Nat.lt_succ_self _) fun _ => rfl

theorem no_items :
    Passes ⟨.value, openBrackets, '[' :: ']' :: rest⟩
      ⟨.commaOrEnd, openBrackets, rest⟩ :=
  ⟨2, by grind, fun _ => rfl⟩

theorem no_members :
    Passes ⟨.value, openBrackets, '\x7b' :: '\x7d' :: rest⟩
      ⟨.commaOrEnd, openBrackets, rest⟩ :=
  ⟨2, by grind, fun _ => rfl⟩

theorem null :
    Passes ⟨.value, openBrackets, 'n' :: 'u' :: 'l' :: 'l' :: rest⟩
      ⟨.commaOrEnd, openBrackets, rest⟩ :=
  step (by grind) fun _ => rfl

theorem boolean (value : Bool) :
    Passes ⟨.value, openBrackets, chars (.boolean value) ++ rest⟩
      ⟨.commaOrEnd, openBrackets, rest⟩ := by
  rw [chars_boolean]
  cases value with
  | true => exact step (by grind) fun _ => rfl
  | false => exact step (by grind) fun _ => rfl

theorem text {s : String} :
    Passes ⟨.value, openBrackets, '"' :: (quotedTail s ++ rest)⟩
      ⟨.commaOrEnd, openBrackets, rest⟩ := by
  apply step
  · grind
  · intro fuel
    change (do
      let rest ← skipText (quotedTail s ++ rest)
      skipUntilClosed fuel .commaOrEnd openBrackets rest) = _
    rw [skipText_quotedTail]
    rfl

theorem member_name {name : String} :
    Passes ⟨.member, .curly :: openBrackets, '"' :: (quotedTail name ++ ':' :: rest)⟩
      ⟨.value, .curly :: openBrackets, rest⟩ := by
  apply step
  · grind
  · intro fuel
    change (do
      let rest ← skipName (quotedTail name ++ ':' :: rest)
      skipUntilClosed fuel .value (.curly :: openBrackets) rest) = _
    rw [skipName, skipText_quotedTail]
    rfl

theorem first_member :
    Passes ⟨.value, openBrackets, '\x7b' :: '"' :: rest⟩
      ⟨.member, .curly :: openBrackets, '"' :: rest⟩ :=
  ⟨2, by grind, fun _ => rfl⟩

theorem first_item {c : Char} (visible : isSpace c = false) (other : c ≠ ']') :
    Passes ⟨.value, openBrackets, '[' :: c :: rest⟩
      ⟨.value, .square :: openBrackets, c :: rest⟩ := by
  refine ⟨2, by grind, ?_⟩
  intro fuel
  change skipUntilClosed (fuel + 1) .itemOrEnd (.square :: openBrackets)
    (c :: rest) = skipUntilClosed fuel .value (.square :: openBrackets) (c :: rest)
  simp [skipUntilClosed, skipSpace_cons visible, other]

theorem numeral {numeral : Numeral} (wellFormed : numeral.WellFormed)
    (ended : Ended rest) :
    Passes ⟨.value, openBrackets, numeral.spelling.toList ++ rest⟩
      ⟨.commaOrEnd, openBrackets, rest⟩ := by
  have read := wellFormed.read_spelling ended
  obtain ⟨c, later, spelled, starts⟩ := wellFormed.exists_first
  have visible := isSpace_of_startsNumeral starts
  have other : c ≠ 'n' ∧ c ≠ 't' ∧ c ≠ 'f' ∧ c ≠ '"' ∧ c ≠ '[' ∧ c ≠ '\x7b' := by
    refine ⟨?_, ?_, ?_, ?_, ?_, ?_⟩ <;> (rintro rfl; cases starts)
  rw [spelled, List.cons_append] at read ⊢
  apply step
  · grind
  · intro fuel
    change skipUntilClosed (fuel + 1) .value openBrackets (c :: (later ++ rest)) =
      skipUntilClosed fuel .commaOrEnd openBrackets rest
    simp [skipUntilClosed, skipSpace_cons visible, starts, read, other, bind,
      Except.bind]

/-! ## Brackets -/

theorem later_items {later : List Json} (passed : ∀ item ∈ later, Passed item) :
    Passes ⟨.commaOrEnd, .square :: openBrackets,
        afterOthers chars later ++ ']' :: rest⟩
      ⟨.commaOrEnd, openBrackets, rest⟩ := by
  induction later with
  | nil => exact end_items
  | cons item later induction =>
      obtain ⟨passedFirst, passedLater⟩ := List.forall_mem_cons.mp passed
      rw [afterOthers_cons, List.cons_append, List.append_assoc]
      apply comma_item.trans
      apply (passedFirst _ _ _).trans (induction passedLater)
      exact (ended_square rest).afterOthers chars later

theorem member {member : String × Json} (passed : Passed member.2)
    (ended : Ended rest) :
    Passes ⟨.member, .curly :: openBrackets, memberChars member ++ rest⟩
      ⟨.commaOrEnd, .curly :: openBrackets, rest⟩ := by
  rw [memberChars_append]
  exact member_name.trans (passed _ rest ended)

theorem later_members {later : List (String × Json)}
    (passed : ∀ member ∈ later, Passed member.2) :
    Passes ⟨.commaOrEnd, .curly :: openBrackets,
        afterOthers memberChars later ++ '\x7d' :: rest⟩
      ⟨.commaOrEnd, openBrackets, rest⟩ := by
  induction later with
  | nil => exact end_members
  | cons first later induction =>
      obtain ⟨passedFirst, passedLater⟩ := List.forall_mem_cons.mp passed
      rw [afterOthers_cons, List.cons_append, List.append_assoc]
      apply comma_member.trans
      apply (member passedFirst _).trans (induction passedLater)
      exact (ended_curly rest).afterOthers memberChars later

end Passes

theorem WellFormed.passed {document : Json} (wellFormed : document.WellFormed) :
    Passed document := by
  induction wellFormed with
  | null =>
      intro openBrackets rest _
      exact .null
  | boolean value =>
      intro openBrackets rest _
      exact .boolean value
  | integer n =>
      intro openBrackets rest ended
      rw [chars_integer]
      exact .numeral (Numeral.wellFormed_ofInt n) ended
  | decimal numeral =>
      intro openBrackets rest ended
      exact .numeral numeral ended
  | text s =>
      intro openBrackets rest _
      rw [chars_text]
      exact .text
  | @array items itemsWellFormed induction =>
      intro openBrackets rest _
      cases items with
      | nil => exact .no_items
      | cons item later =>
          obtain ⟨passed, passedLater⟩ := List.forall_mem_cons.mp induction
          obtain ⟨c, tail, spelled, opens⟩ :=
            (itemsWellFormed item List.mem_cons_self).exists_opens
          have first := passed (.square :: openBrackets) _
            ((ended_square rest).afterOthers chars later)
          have opening : Passes
              ⟨.value, openBrackets,
                '[' :: c :: (tail ++ (afterOthers chars later ++ ']' :: rest))⟩
              ⟨.value, .square :: openBrackets, _⟩ :=
            .first_item opens.isSpace opens.ne_bracket
          rw [← List.cons_append, ← spelled] at opening
          rw [chars_array, remaining_cons, List.cons_append, List.append_assoc,
            List.append_assoc]
          exact (opening.trans first).trans (.later_items passedLater)
  | @object members _ induction =>
      intro openBrackets rest _
      cases members with
      | nil => exact .no_members
      | cons member later =>
          obtain ⟨passed, passedLater⟩ := List.forall_mem_cons.mp induction
          have first : Passes ⟨.member, .curly :: openBrackets, _⟩ _ :=
            .member passed ((ended_curly rest).afterOthers memberChars later)
          rw [chars_object, remaining_cons, List.cons_append, List.append_assoc,
            List.append_assoc]
          exact (Passes.first_member.trans first).trans (.later_members passedLater)

/-- A written value is skipped, and nothing else. -/
theorem WellFormed.skipValue_append {document : Json}
    (wellFormed : document.WellFormed) {rest : List Char} (ended : Ended rest) :
    skipValue (chars document ++ rest) = .ok rest := by
  obtain ⟨steps, bound, skips⟩ := wellFormed.passed [] rest ended
  obtain ⟨fuel, enough⟩ : ∃ fuel,
      2 * (chars document ++ rest).length + 2 = fuel + 1 + steps := by
    refine ⟨2 * (chars document ++ rest).length + 1 - steps, ?_⟩
    dsimp only at bound
    omega
  rw [skipValue, enough]
  exact skips (fuel + 1)

end AccessControl.Json
