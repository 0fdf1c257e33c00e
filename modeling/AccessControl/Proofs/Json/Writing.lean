import AccessControl.Json.Lexeme
import AccessControl.Proofs.Json.Numerals
import AccessControl.Proofs.Json.Texts

/-!
# Written values

The characters of a written value, word by word, and the values that a text can
denote at all.
-/

namespace AccessControl.Json

/-- Values that a text can denote: what stands for a numeral is one. -/
inductive WellFormed : Json → Prop where
  | null : WellFormed .null
  | boolean (value : Bool) : WellFormed (.boolean value)
  | integer (n : Int) : WellFormed (.integer n)
  | decimal {numeral : Numeral} :
      numeral.WellFormed → WellFormed (.decimal numeral.spelling)
  | text (s : String) : WellFormed (.text s)
  | array {items : List Json} :
      (∀ item ∈ items, WellFormed item) → WellFormed (.array items)
  | object {members : List (String × Json)} :
      (∀ member ∈ members, WellFormed member.2) → WellFormed (.object members)

theorem wellFormed_array_iff {items : List Json} :
    WellFormed (.array items) ↔ ∀ item ∈ items, WellFormed item := by
  constructor
  · rintro (_ | _)
    assumption
  · exact .array

theorem wellFormed_object_iff {members : List (String × Json)} :
    WellFormed (.object members) ↔ ∀ member ∈ members, WellFormed member.2 := by
  constructor
  · rintro (_ | _)
    assumption
  · exact .object

/-- A value as it is written. -/
def chars (document : Json) : List Char :=
  (render document).toList

/-- A member as it is written. -/
def memberChars (member : String × Json) : List Char :=
  '"' :: (quotedTail member.1 ++ ':' :: chars member.2)

/-- Things as they are written after others, each after a comma. -/
def afterOthers {α : Type} (write : α → List Char) (later : List α) : List Char :=
  later.flatMap fun item => ',' :: write item

/-- What is still to be written of a list: the first of its items has no comma
before it. -/
def remaining {α : Type} (first : Bool) (write : α → List Char)
    (items : List α) : List Char :=
  if first then (afterOthers write items).tail else afterOthers write items

section

variable {α : Type} (write : α → List Char)

theorem afterOthers_cons (item : α) (later : List α) :
    afterOthers write (item :: later) =
      ',' :: (write item ++ afterOthers write later) :=
  List.flatMap_cons

theorem remaining_cons (item : α) (later : List α) :
    remaining true write (item :: later) =
      write item ++ afterOthers write later :=
  congrArg List.tail (afterOthers_cons write item later)

theorem length_le_remaining (items : List α) :
    items.length ≤ (remaining true write items).length + 1 := by
  have commas : items.length ≤ (afterOthers write items).length := by
    induction items with
    | nil => exact Nat.le_refl 0
    | cons item later induction =>
        rw [afterOthers_cons, List.length_cons, List.length_cons,
          List.length_append]
        omega
  change _ ≤ (afterOthers write items).tail.length + 1
  rw [List.length_tail]
  omega

/-- Fuel for every character that is still to be read suffices for the items. -/
theorem length_lt_remaining_append (items : List α) (c : Char) (rest : List Char) :
    items.length < (remaining true write items ++ c :: rest).length + 1 := by
  have length := length_le_remaining write items
  rw [List.length_append, List.length_cons]
  omega

theorem Ended.afterOthers {rest : List Char} (ended : Ended rest)
    (later : List α) : Ended (afterOthers write later ++ rest) := by
  cases later with
  | nil => exact ended
  | cons item later =>
      rintro c ⟨⟩
      exact .inl rfl

end

theorem ended_square (rest : List Char) : Ended (']' :: rest) := by
  rintro c ⟨⟩
  exact .inr (.inl rfl)

theorem ended_curly (rest : List Char) : Ended ('\x7d' :: rest) := by
  rintro c ⟨⟩
  exact .inr (.inr rfl)

theorem memberChars_append (member : String × Json) (rest : List Char) :
    memberChars member ++ rest =
      '"' :: (quotedTail member.1 ++ ':' :: (chars member.2 ++ rest)) := by
  simp [memberChars]

theorem toList_renderItems (items : List Json) :
    (renderItems items).toList = remaining true chars items := by
  induction items with
  | nil => rfl
  | cons item later induction =>
      rw [remaining_cons]
      cases later with
      | nil => simp [renderItems, afterOthers, chars]
      | cons next later =>
          rw [afterOthers_cons, ← remaining_cons, ← induction]
          simp [renderItems, chars]

theorem toList_renderMembers (members : List (String × Json)) :
    (renderMembers members).toList = remaining true memberChars members := by
  induction members with
  | nil => rfl
  | cons member later induction =>
      rw [remaining_cons]
      cases later with
      | nil => simp [renderMembers, afterOthers, memberChars, chars, toList_quoted]
      | cons next later =>
          rw [afterOthers_cons, ← remaining_cons, ← induction]
          simp [renderMembers, memberChars, chars, toList_quoted]

theorem chars_boolean (value : Bool) :
    chars (.boolean value) =
      if value then ['t', 'r', 'u', 'e'] else ['f', 'a', 'l', 's', 'e'] := by
  cases value <;> rfl

theorem chars_integer (n : Int) :
    chars (.integer n) = (Numeral.ofInt n).spelling.toList := by
  rw [Numeral.spelling_ofInt]
  rfl

theorem chars_text (s : String) : chars (.text s) = '"' :: quotedTail s :=
  toList_quoted s

theorem chars_array (items : List Json) :
    chars (.array items) = '[' :: (remaining true chars items ++ [']']) := by
  rw [← toList_renderItems]
  simp [chars, render]

theorem chars_object (members : List (String × Json)) :
    chars (.object members) =
      '\x7b' :: (remaining true memberChars members ++ ['\x7d']) := by
  rw [← toList_renderMembers]
  simp [chars, render]

/-- The character that a written value starts with. -/
inductive Opens : Json → Char → Prop where
  | null : Opens .null 'n'
  | yes : Opens (.boolean true) 't'
  | no : Opens (.boolean false) 'f'
  | integer {n : Int} {c : Char} : startsNumeral c = true → Opens (.integer n) c
  | decimal {numeral : String} {c : Char} :
      startsNumeral c = true → Opens (.decimal numeral) c
  | text {s : String} : Opens (.text s) '"'
  | array {items : List Json} : Opens (.array items) '['
  | object {members : List (String × Json)} : Opens (.object members) '\x7b'

theorem WellFormed.exists_opens {document : Json}
    (wellFormed : document.WellFormed) :
    ∃ c later, chars document = c :: later ∧ Opens document c := by
  cases wellFormed with
  | null => exact ⟨_, _, rfl, .null⟩
  | boolean value =>
      cases value with
      | true => exact ⟨_, _, rfl, .yes⟩
      | false => exact ⟨_, _, rfl, .no⟩
  | integer n =>
      obtain ⟨c, later, spelled, starts⟩ :=
        (Numeral.wellFormed_ofInt n).exists_first
      exact ⟨c, later, (chars_integer n).trans spelled, .integer starts⟩
  | decimal numeral =>
      obtain ⟨c, later, spelled, starts⟩ := numeral.exists_first
      exact ⟨c, later, spelled, .decimal starts⟩
  | text s => exact ⟨_, _, chars_text s, .text⟩
  | array => exact ⟨_, _, chars_array _, .array⟩
  | object => exact ⟨_, _, chars_object _, .object⟩

theorem isSpace_of_startsNumeral {c : Char} (starts : startsNumeral c = true) :
    isSpace c = false := by
  cases space : isSpace c with
  | false => rfl
  | true =>
      simp only [isSpace, Bool.or_eq_true, beq_iff_eq] at space
      rcases space with ((rfl | rfl) | rfl) | rfl <;> cases starts

theorem skipSpace_cons {c : Char} (visible : isSpace c = false)
    (rest : List Char) : skipSpace (c :: rest) = c :: rest :=
  List.dropWhile_cons_of_neg (by simp [visible])

section

variable {document : Json} {c : Char}

theorem Opens.isSpace (opens : Opens document c) : isSpace c = false := by
  cases opens with
  | integer starts => exact isSpace_of_startsNumeral starts
  | decimal starts => exact isSpace_of_startsNumeral starts
  | _ => rfl

theorem Opens.ne_bracket (opens : Opens document c) : c ≠ ']' := by
  rintro rfl
  cases opens with
  | integer starts => cases starts
  | decimal starts => cases starts

theorem Opens.eq_null (opens : Opens document 'n') : document = .null := by
  cases opens with
  | null => rfl
  | integer starts => cases starts
  | decimal starts => cases starts

end

end AccessControl.Json
