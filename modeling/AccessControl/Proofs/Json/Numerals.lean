import AccessControl.Json.Numeral
import AccessControl.Proofs.Text.Digits

/-!
# Reading written numerals

A numeral is read back from its spelling if what follows cannot belong to it.
Integers are numerals, and those that fit in a word stay far below the limit of
double precision.
-/

namespace AccessControl.Json

/-- What may follow a value: nothing, or a mark of an array or an object. -/
def Ended (rest : List Char) : Prop :=
  ∀ c ∈ rest.head?, c = ',' ∨ c = ']' ∨ c = '\x7d'

namespace Numeral

/-- A non-empty list of digits. -/
structure IsRun (run : List Char) : Prop where
  nonempty : run ≠ []
  digits : ∀ c ∈ run, c.isDigit = true

/-- The parts are as the grammar of numerals asks for. -/
structure WellFormed (numeral : Numeral) : Prop where
  whole : IsRun numeral.whole
  leading : numeral.whole = ['0'] ∨ numeral.whole.head? ≠ some '0'
  fraction : ∀ run ∈ numeral.fraction, IsRun run
  exponent : ∀ signed ∈ numeral.exponent, IsRun signed.2

/-- A text that does not go on with a digit. -/
def Stops (rest : List Char) : Prop :=
  ∀ c ∈ rest.head?, c.isDigit = false

theorem digits_append {run rest : List Char} (isRun : IsRun run)
    (stops : Stops rest) : digits (run ++ rest) = .ok (run, rest) := by
  have none : rest.takeWhile Char.isDigit = [] ∧
      rest.dropWhile Char.isDigit = rest := by
    cases rest with
    | nil => exact ⟨rfl, rfl⟩
    | cons c rest => simp [stops c rfl]
  unfold digits
  rw [List.takeWhile_append_of_pos isRun.digits,
    List.dropWhile_append_of_pos isRun.digits, none.1, none.2, List.append_nil]
  simp [isRun.nonempty]

theorem wholePart_append {run rest : List Char} (isRun : IsRun run)
    (leading : run = ['0'] ∨ run.head? ≠ some '0') (stops : Stops rest) :
    wholePart (run ++ rest) = .ok (run, rest) := by
  rcases leading with rfl | nonzero
  · cases rest with
    | nil => rfl
    | cons c rest =>
        have other : c.isDigit = false := stops c rfl
        simp [wholePart, other]
  · obtain ⟨c, later, rfl⟩ := List.exists_cons_of_ne_nil isRun.nonempty
    rw [wholePart, digits_append isRun stops]
    intro rest' equal
    cases equal
    exact nonzero rfl

/-- The fraction as it is written. -/
def fractionChars : Option (List Char) → List Char
  | some run => '.' :: run
  | none => []

/-- The exponent as it is written. -/
def exponentChars : Option (Bool × List Char) → List Char
  | some (negative, run) => 'e' :: (if negative then ['-'] else []) ++ run
  | none => []

theorem toList_spelling (numeral : Numeral) :
    numeral.spelling.toList = (if numeral.negative then ['-'] else []) ++
      (numeral.whole ++ (fractionChars numeral.fraction ++
        exponentChars numeral.exponent)) := by
  unfold spelling
  dsimp only
  rw [String.toList_ofList, List.append_assoc, List.append_assoc]
  rfl

theorem fractionPart_append {fraction : Option (List Char)} {rest : List Char}
    (wellFormed : ∀ run ∈ fraction, IsRun run) (stops : Stops rest)
    (unpointed : rest.head? ≠ some '.') :
    fractionPart (fractionChars fraction ++ rest) = .ok (fraction, rest) := by
  cases fraction with
  | none =>
      rw [fractionChars, List.nil_append, fractionPart]
      rintro later rfl
      exact unpointed rfl
  | some run =>
      rw [fractionChars, List.cons_append, fractionPart,
        digits_append (wellFormed run rfl) stops]
      rfl

theorem exponentPart_append {exponent : Option (Bool × List Char)}
    {rest : List Char} (wellFormed : ∀ signed ∈ exponent, IsRun signed.2)
    (stops : Stops rest)
    (unmarked : ∀ c ∈ rest.head?, ¬ (c = 'e' ∨ c = 'E')) :
    exponentPart (exponentChars exponent ++ rest) = .ok (exponent, rest) := by
  cases exponent with
  | none =>
      rw [exponentChars, List.nil_append]
      cases rest with
      | nil => rfl
      | cons c rest => exact if_neg (unmarked c rfl)
  | some signed =>
      obtain ⟨negative, run⟩ := signed
      have isRun : IsRun run := wellFormed _ rfl
      cases negative with
      | true =>
          simp [exponentChars, exponentPart, digits_append isRun stops, bind,
            Except.bind, pure, Except.pure]
      | false =>
          obtain ⟨c, later, rfl⟩ := List.exists_cons_of_ne_nil isRun.nonempty
          have digit := isRun.digits c List.mem_cons_self
          have plus : c ≠ '+' := by rintro rfl; cases digit
          have minus : c ≠ '-' := by rintro rfl; cases digit
          have read := digits_append isRun stops
          rw [List.cons_append] at read
          simp [exponentChars, exponentPart, read, plus, minus, bind,
            Except.bind, pure, Except.pure]

theorem WellFormed.read_spelling {numeral : Numeral}
    (wellFormed : numeral.WellFormed) {rest : List Char} (ended : Ended rest) :
    read (numeral.spelling.toList ++ rest) = .ok (numeral, rest) := by
  obtain ⟨negative, whole, fraction, exponent⟩ := numeral
  obtain ⟨isRun, leading, fractional, exponential⟩ := wellFormed
  let marked := exponentChars exponent ++ rest
  let pointed := fractionChars fraction ++ marked
  have stops : Stops rest := by
    intro c first
    rcases ended c first with rfl | rfl | rfl <;> rfl
  have unmarked : ∀ c ∈ rest.head?, ¬ (c = 'e' ∨ c = 'E') := by
    intro c first
    rcases ended c first with rfl | rfl | rfl <;> decide
  have markedFirst : ∀ c ∈ marked.head?, c.isDigit = false ∧ c ≠ '.' := by
    intro c first
    cases exponent with
    | none => rcases ended c first with rfl | rfl | rfl <;> decide
    | some signed => cases first; decide
  have pointedStops : Stops pointed := by
    intro c first
    cases fraction with
    | none => exact (markedFirst c first).1
    | some run => cases first; rfl
  have wholeRead : wholePart (whole ++ pointed) = .ok (whole, pointed) :=
    wholePart_append isRun leading pointedStops
  have fractionRead : fractionPart pointed = .ok (fraction, marked) :=
    fractionPart_append fractional (fun c first => (markedFirst c first).1)
      (fun first => (markedFirst '.' first).2 rfl)
  have exponentRead : exponentPart marked = .ok (exponent, rest) :=
    exponentPart_append exponential stops unmarked
  have rebuilt : (⟨negative, whole, fraction, exponent⟩ : Numeral).spelling.toList ++
      rest = (if negative then ['-'] else []) ++ (whole ++ pointed) := by
    simp only [toList_spelling, List.append_assoc, pointed, marked]
  rw [rebuilt]
  cases negative with
  | true =>
      simp [read, wholeRead, fractionRead, exponentRead, bind, Except.bind, pure,
        Except.pure]
  | false =>
      obtain ⟨c, later, rfl⟩ := List.exists_cons_of_ne_nil isRun.nonempty
      have digit := isRun.digits c List.mem_cons_self
      have minus : c ≠ '-' := by rintro rfl; cases digit
      rw [List.cons_append] at wholeRead
      simp [read, wholeRead, fractionRead, exponentRead, minus, bind,
        Except.bind, pure, Except.pure]

theorem WellFormed.exists_first {numeral : Numeral}
    (wellFormed : numeral.WellFormed) :
    ∃ c later, numeral.spelling.toList = c :: later ∧ startsNumeral c = true := by
  obtain ⟨c, later, run⟩ := List.exists_cons_of_ne_nil wellFormed.whole.nonempty
  have digit := wellFormed.whole.digits c (by simp [run])
  rw [toList_spelling, run]
  cases numeral.negative with
  | true => exact ⟨'-', _, rfl, rfl⟩
  | false => exact ⟨c, _, rfl, by simp [startsNumeral, digit]⟩

/-! ## Integers -/

/-- The numeral of an integer. -/
def ofInt (n : Int) : Numeral where
  negative := n < 0
  whole := Nat.toDigits 10 n.natAbs
  fraction := none
  exponent := none

theorem wellFormed_ofInt (n : Int) : (ofInt n).WellFormed where
  whole := ⟨Nat.toDigits_ne_nil, Text.isDigit_of_mem_toDigits⟩
  leading := by
    by_cases zero : n = 0
    · subst zero
      exact .inl rfl
    · exact .inr (Text.head?_toDigits_ne (Int.natAbs_pos.mpr zero))
  fraction := by rintro run ⟨⟩
  exponent := by rintro signed ⟨⟩

theorem spelling_ofInt (n : Int) : (ofInt n).spelling = n.repr := by
  apply String.toList_inj.mp
  rw [toList_spelling]
  cases n with
  | ofNat n =>
      change [] ++ (Nat.toDigits 10 n ++ []) = n.repr.toList
      rw [Nat.toList_repr, List.nil_append, List.append_nil]
  | negSucc n =>
      have negative : (ofInt (Int.negSucc n)).negative = true :=
        decide_eq_true (Int.negSucc_lt_zero n)
      rw [if_pos negative]
      change ['-'] ++ (Nat.toDigits 10 (n + 1) ++ []) =
        ("-" ++ (n + 1).repr).toList
      rw [String.toList_append, Nat.toList_repr, List.append_nil]
      rfl

theorem integer?_ofInt (n : Int) : (ofInt n).integer? = some n := by
  simp only [integer?, ofInt, Text.digitsValue_toDigits, decide_eq_true_eq]
  split
  next negative =>
      rw [if_neg (by omega), Int.ofNat_eq_natCast]
      congr 1
      omega
  next nonnegative =>
      rw [Int.ofNat_eq_natCast]
      congr 1
      omega

/-! ## Magnitude -/

theorem roundToDouble_le (n : Nat) : roundToDouble n ≤ 2 * n + 1 := by
  have small : Nat.pow 2 (n.log2 - 52) ≤ n + 1 := by
    by_cases zero : n = 0
    · subst zero
      decide
    · have shorter : 2 ^ (n.log2 - 52) ≤ 2 ^ n.log2 :=
        Nat.pow_le_pow_right (by decide) (Nat.sub_le _ _)
      have whole := Nat.le_trans shorter (Nat.log2_self_le zero)
      exact Nat.le_succ_of_le whole
  unfold roundToDouble
  dsimp only
  generalize Nat.pow 2 (n.log2 - 52) = unit at small
  have kept : n / unit * unit ≤ n := Nat.div_mul_le_self n unit
  rw [Nat.add_mul, Nat.one_mul]
  split <;> omega

theorem digitsValue_le_append (kept later : List Char) :
    Text.digitsValue kept ≤ Text.digitsValue (kept ++ later) := by
  induction later generalizing kept with
  | nil => simp
  | cons c later induction =>
      have next : Text.digitsValue kept ≤ Text.digitsValue (kept ++ [c]) := by
        simp only [Text.digitsValue, List.foldl_append, List.foldl_cons,
          List.foldl_nil]
        omega
      rw [List.append_cons]
      exact Nat.le_trans next (induction (kept ++ [c]))

/-- Digits are kept as long as their value fits in a word. -/
theorem appendDigits_of_lt {kept later : List Char}
    (fits : Text.digitsValue (kept ++ later) < Nat.pow 2 64) :
    appendDigits (Text.digitsValue kept) later =
      (Text.digitsValue (kept ++ later), []) := by
  induction later generalizing kept with
  | nil => simp [appendDigits]
  | cons c later induction =>
      have longer : Text.digitsValue kept * 10 + (c.toNat - '0'.toNat) =
          Text.digitsValue (kept ++ [c]) := by
        simp [Text.digitsValue]
      rw [List.append_cons] at fits ⊢
      have shorter := digitsValue_le_append (kept ++ [c]) later
      rw [← induction fits, appendDigits]
      simp only [longer]
      exact if_pos (Nat.lt_of_le_of_lt shorter fits)

theorem overflows_ofInt {n : Int} (fits : n.natAbs < Nat.pow 2 64) :
    (ofInt n).overflows = false := by
  have kept : appendDigits 0 (Nat.toDigits 10 n.natAbs) = (n.natAbs, []) := by
    have value := Text.digitsValue_toDigits n.natAbs
    have appended := @appendDigits_of_lt [] (Nat.toDigits 10 n.natAbs)
      (by rwa [List.nil_append, value])
    rwa [List.nil_append, value] at appended
  have magnitude : (ofInt n).magnitude = (n.natAbs, 0) := by
    simp [magnitude, ofInt, kept, appendDigits, writtenExponent]
  have rounded := roundToDouble_le n.natAbs
  have limit : 2 * Nat.pow 2 64 < overflow := by decide +kernel
  have one : roundToDouble (Nat.pow 10 (Int.toNat 0)) = 1 := by decide
  have near : ¬ Int.ofNat maxPowerOfTen < 0 := by decide
  have below : ¬ overflow ≤
      roundToDouble n.natAbs * roundToDouble (Nat.pow 10 (Int.toNat 0)) := by
    rw [one]
    omega
  unfold overflows
  rw [magnitude]
  simp only [near, below, if_false, decide_false, ite_self]

end Numeral

end AccessControl.Json
