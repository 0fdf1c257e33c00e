import Mathlib.Data.List.Basic
import AccessControl.Text

/-!
# Numbers written in digits

A natural number is read back from its decimal digits, which start with a zero
for the number zero only; an integer is read back from its digits and its sign.
-/

namespace AccessControl.Text

theorem digitsValue_toDigits (n : Nat) :
    digitsValue (Nat.toDigits 10 n) = n := by
  have read := @Nat.ofDigitChars_ten_toDigits n
  rw [Nat.ofDigitChars_eq_foldl] at read
  simpa only [digitsValue, Nat.mul_comm] using read

theorem isDigit_of_mem_toDigits {n : Nat} :
    ∀ c ∈ Nat.toDigits 10 n, c.isDigit = true := by
  intro c member
  exact Nat.isDigit_of_mem_toDigits (by decide) (by decide) member

theorem natural?_toDigits (n : Nat) :
    natural? (Nat.toDigits 10 n) = some n := by
  have digits : (Nat.toDigits 10 n).all Char.isDigit = true :=
    List.all_eq_true.mpr isDigit_of_mem_toDigits
  simp [natural?, digits, digitsValue_toDigits, Nat.toDigits_ne_nil]

theorem integer?_of_isDigit {cs : List Char}
    (digits : ∀ c ∈ cs, c.isDigit = true) :
    integer? cs = (natural? cs).map Int.ofNat := by
  unfold integer?
  split
  next =>
    have digit := digits '+' List.mem_cons_self
    exact absurd digit (by decide)
  next =>
    have digit := digits '-' List.mem_cons_self
    exact absurd digit (by decide)
  next => rfl

/-- An integer is read back from the text that shows it. -/
theorem integer?_repr (n : Int) : integer? n.repr.toList = some n := by
  cases n with
  | ofNat n =>
      change integer? n.repr.toList = _
      rw [Nat.toList_repr, integer?_of_isDigit isDigit_of_mem_toDigits,
        natural?_toDigits]
      rfl
  | negSucc n =>
      change integer? ("-" ++ (n + 1).repr).toList = _
      rw [String.toList_append, Nat.toList_repr]
      change (natural? (Nat.toDigits 10 (n + 1))).map
        (fun n => -Int.ofNat n) = _
      rw [natural?_toDigits]
      rfl

theorem head?_toDigits_ne {n : Nat} (positive : 0 < n) :
    (Nat.toDigits 10 n).head? ≠ some '0' := by
  induction n using Nat.strongRecOn with
  | ind n induction =>
      by_cases small : n < 10
      · rw [Nat.toDigits_of_lt_base small]
        have nonzero : ∀ digit < 10, 0 < digit →
            [Nat.digitChar digit].head? ≠ some '0' := by decide
        exact nonzero n small positive
      · have leading := induction (n / 10) (by omega) (by omega)
        rw [Nat.toDigits_of_base_le (by decide) (by omega),
          List.head?_append_of_ne_nil _ Nat.toDigits_ne_nil]
        exact leading

end AccessControl.Text
