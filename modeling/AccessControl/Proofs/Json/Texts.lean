import Mathlib.Tactic.SplitIfs
import AccessControl.Json.Lexeme
import AccessControl.Json.Printer

/-!
# Reading quoted texts

What a character is escaped to is read back as that character, and skipped
without a fault.
-/

namespace AccessControl.Json

theorem shortEscape?_of_escapeLetter? {c letter : Char}
    (lettered : escapeLetter? c = some letter) :
    shortEscape? letter = some c ∧ letter ≠ 'u' := by
  unfold escapeLetter? at lettered
  split_ifs at lettered with mark <;> cases lettered
  · rcases mark with rfl | rfl <;> decide
  all_goals
    subst c
    decide

theorem codeUnit?_hexDigit {n : Nat} (small : n < 0x20) :
    codeUnit? '0' '0' (hexDigit (n / 16)) (hexDigit (n % 16)) = some n := by
  have each : ∀ m < 0x20,
      codeUnit? '0' '0' (hexDigit (m / 16)) (hexDigit (m % 16)) = some m := by
    decide
  exact each n small

/-- The ways to write a character inside a quoted text. -/
inductive Escapes (c : Char) : List Char → Prop where
  | letter {letter : Char} :
      shortEscape? letter = some c → letter ≠ 'u' → Escapes c ['\\', letter]
  | number {third fourth : Char} :
      codeUnit? '0' '0' third fourth = some c.toNat → c.toNat < 0x20 →
      Escapes c ['\\', 'u', '0', '0', third, fourth]
  | itself : ¬ c.toNat < 0x20 → c ≠ '"' → c ≠ '\\' → Escapes c [c]

theorem escapes_escaped (c : Char) : Escapes c (escaped c) := by
  unfold escaped
  split
  next letter lettered =>
      obtain ⟨short, other⟩ := shortEscape?_of_escapeLetter? lettered
      exact .letter short other
  next plain =>
      split
      next control => exact .number (codeUnit?_hexDigit control) control
      next visible =>
          apply Escapes.itself visible
          · rintro rfl
            cases plain
          · rintro rfl
            cases plain

variable {c : Char} {cs : List Char}

theorem Escapes.finishText_append (escapes : Escapes c cs)
    (read rest : List Char) :
    finishText read (cs ++ rest) = finishText (c :: read) rest := by
  cases escapes with
  | letter short other =>
      rw [List.cons_append, List.cons_append, List.nil_append, finishText, short]
      intro _ _ _ _ _ unit
      exact absurd unit other
  | number unit control =>
      have closing : closesPair c.toNat = false := by
        simp [closesPair]
        omega
      have opening : opensPair c.toNat = false := by
        simp [opensPair]
        omega
      simp [finishText, unit, closing, opening]
  | itself visible quote backslash =>
      rw [List.cons_append, List.nil_append, finishText, if_neg]
      · simp [visible, backslash]
      · exact quote
      · intro _ _ _ _ _ equal
        exact absurd equal backslash
      · intro _ _ equal
        exact absurd equal backslash

theorem Escapes.skipText_append (escapes : Escapes c cs) (rest : List Char) :
    skipText (cs ++ rest) = skipText rest := by
  cases escapes with
  | letter short other =>
      rw [List.cons_append, List.cons_append, List.nil_append, skipText, short]
      intro _ _ _ _ _ unit
      exact absurd unit other
  | number unit control => simp [skipText, unit]
  | itself visible quote backslash =>
      rw [List.cons_append, List.nil_append, skipText, if_neg]
      · simp [visible, backslash]
      · exact quote
      · intro _ _ _ _ _ equal
        exact absurd equal backslash
      · intro _ _ equal
        exact absurd equal backslash

theorem finishText_flatMap_escaped (cs read rest : List Char) :
    finishText read (cs.flatMap escaped ++ '"' :: rest) =
      .ok (String.ofList (read.reverse ++ cs), rest) := by
  induction cs generalizing read with
  | nil => simp [finishText]
  | cons c cs induction =>
      rw [List.flatMap_cons, List.append_assoc,
        (escapes_escaped c).finishText_append, induction, List.reverse_cons,
        List.append_assoc]
      rfl

theorem skipText_flatMap_escaped (cs rest : List Char) :
    skipText (cs.flatMap escaped ++ '"' :: rest) = .ok rest := by
  induction cs with
  | nil => simp [skipText]
  | cons c cs induction =>
      rw [List.flatMap_cons, List.append_assoc,
        (escapes_escaped c).skipText_append, induction]

/-- A text after its opening mark. -/
def quotedTail (s : String) : List Char :=
  s.toList.flatMap escaped ++ ['"']

theorem toList_quoted (s : String) : (quoted s).toList = '"' :: quotedTail s :=
  String.toList_ofList

theorem finishText_quotedTail (s : String) (rest : List Char) :
    finishText [] (quotedTail s ++ rest) = .ok (s, rest) := by
  rw [quotedTail, List.append_assoc, List.singleton_append,
    finishText_flatMap_escaped]
  simp

theorem skipText_quotedTail (s : String) (rest : List Char) :
    skipText (quotedTail s ++ rest) = .ok rest := by
  rw [quotedTail, List.append_assoc, List.singleton_append,
    skipText_flatMap_escaped]

end AccessControl.Json
