import Mathlib
import AccessControl.Proofs.Text.Splitting
import AccessControl.Proofs.Text.Trimming

/-!
# The case of letters

Names are compared in upper case, where only ASCII letters change.  Raising
letters keeps blanks, separators and everything outside ASCII as they are, so
that it does not matter whether a text is trimmed or raised first.  Two names
have one canonical spelling exactly when they differ at most in the blanks
around them and in the case of ASCII letters.
-/

namespace AccessControl.Text

theorem isAlpha_iff {c : Char} :
    c.isAlpha = true ↔
      65 ≤ c.toNat ∧ c.toNat ≤ 90 ∨ 97 ≤ c.toNat ∧ c.toNat ≤ 122 := by
  simp only [Char.isAlpha, Char.isUpper, Char.isLower, Bool.or_eq_true,
    Bool.and_eq_true, decide_eq_true_eq, ge_iff_le, UInt32.le_iff_toNat_le]
  rfl

theorem not_isAlpha_of_beyond {c : Char} (beyond : 0x80 ≤ c.toNat) :
    c.isAlpha = false := by
  rw [← Bool.not_eq_true, isAlpha_iff]
  omega

theorem not_isAlpha_of_isBlank {c : Char} (blank : isBlank c = true) :
    c.isAlpha = false := by
  simp only [isBlank, Bool.or_eq_true, Bool.and_eq_true, decide_eq_true_eq,
    beq_iff_eq] at blank
  rw [← Bool.not_eq_true, isAlpha_iff]
  omega

theorem toUpper_of_not_isAlpha {c : Char} (other : c.isAlpha = false) :
    c.toUpper = c := by
  apply Char.toUpper_eq_of_not_isLower
  intro lower
  rw [Char.isAlpha, lower, Bool.or_true] at other
  cases other

/-- Only letters turn into other characters, and these are letters. -/
theorem toUpper_eq_iff {c target : Char} (other : target.isAlpha = false) :
    c.toUpper = target ↔ c = target := by
  constructor
  · rintro rfl
    rw [Char.isAlpha_toUpper_eq_isAlpha] at other
    exact (toUpper_of_not_isAlpha other).symm
  · rintro rfl
    exact toUpper_of_not_isAlpha other

theorem isBlank_toUpper (c : Char) : isBlank c.toUpper = isBlank c := by
  cases letter : c.isAlpha with
  | false => rw [toUpper_of_not_isAlpha letter]
  | true =>
      have unblank {d : Char} (alpha : d.isAlpha = true) :
          isBlank d = false := by
        by_contra blank
        rw [not_isAlpha_of_isBlank (by simpa using blank)] at alpha
        cases alpha
      have raised : c.toUpper.isAlpha = true := by
        rw [Char.isAlpha_toUpper_eq_isAlpha, letter]
      rw [unblank raised, unblank letter]

theorem trimmed_map_toUpper (cs : List Char) :
    trimmed (cs.map Char.toUpper) = (trimmed cs).map Char.toUpper := by
  have kept : isBlank ∘ Char.toUpper = isBlank := funext isBlank_toUpper
  unfold trimmed
  rw [List.dropWhile_map, kept, ← List.map_reverse, List.dropWhile_map, kept,
    ← List.map_reverse]

theorem toList_raise (s : String) :
    (raise s).toList = s.toList.map Char.toUpper :=
  String.toList_ofList

theorem toList_canonical (s : String) :
    (canonical s).toList = (trimmed s.toList).map Char.toUpper := by
  rw [canonical, toList_raise, trim, String.toList_ofList]

/-- What is no letter is still there when the letters are raised. -/
theorem mem_raise {c : Char} (other : c.isAlpha = false) {s : String}
    (member : c ∈ s.toList) : c ∈ (raise s).toList := by
  rw [toList_raise, ← toUpper_of_not_isAlpha other]
  exact List.mem_map_of_mem member

/-- Blanks around a name do not change its canonical spelling. -/
theorem canonical_pad {before after : List Char}
    (blankBefore : ∀ c ∈ before, isBlank c = true)
    (blankAfter : ∀ c ∈ after, isBlank c = true) (s : String) :
    canonical (String.ofList (before ++ s.toList ++ after)) = canonical s := by
  have padded := (trims_trimmed s.toList).pad blankBefore blankAfter
  rw [← String.toList_inj, toList_canonical, toList_canonical,
    String.toList_ofList, trims_iff.mp padded]

/-- The case of ASCII letters does not change the canonical spelling. -/
theorem canonical_of_raise_eq {s other : String}
    (same : raise other = raise s) : canonical other = canonical s := by
  rw [← String.toList_inj, toList_raise, toList_raise] at same
  rw [← String.toList_inj, toList_canonical, toList_canonical,
    ← trimmed_map_toUpper, same, trimmed_map_toUpper]

/-! ## Different spellings -/

/-- One character, or one ASCII letter in both cases. -/
def SameLetter (c d : Char) : Prop :=
  c = d ∨ c.isAlpha = true ∧ d.isAlpha = true ∧
    (c.toNat + 32 = d.toNat ∨ d.toNat + 32 = c.toNat)

theorem toNat_toUpper (c : Char) :
    c.toUpper.toNat =
      if 97 ≤ c.toNat ∧ c.toNat ≤ 122 then c.toNat - 32 else c.toNat := by
  have small : 'a'.val ≤ c.val ∧ c.val ≤ 'z'.val ↔
      97 ≤ c.toNat ∧ c.toNat ≤ 122 := by
    rw [UInt32.le_iff_toNat_le, UInt32.le_iff_toNat_le]
    rfl
  unfold Char.toUpper
  by_cases lower : 97 ≤ c.toNat ∧ c.toNat ≤ 122
  · rw [dif_pos (small.mpr lower), if_pos lower]
    have raised : (c.val + ('A'.val - 'a'.val)).toNat =
        (c.toNat + 4294967264) % 4294967296 :=
      UInt32.toNat_add c.val ('A'.val - 'a'.val)
    change (c.val + ('A'.val - 'a'.val)).toNat = _
    omega
  · rw [dif_neg (mt small.mp lower), if_neg lower]

theorem toUpper_eq_toUpper_iff {c d : Char} :
    c.toUpper = d.toUpper ↔ SameLetter c d := by
  unfold SameLetter
  rw [← Char.toNat_inj, ← Char.toNat_inj, toNat_toUpper, toNat_toUpper,
    isAlpha_iff, isAlpha_iff]
  split_ifs <;> omega

/-- Two texts that are alike but for the blanks around them and the case of
ASCII letters. -/
inductive SpelledAlike : String → String → Prop where
  | cores {s other : String} {core otherCore : List Char} :
      Trims s.toList core → Trims other.toList otherCore →
      List.Forall₂ SameLetter core otherCore → SpelledAlike s other

theorem spelledAlike_iff {s other : String} :
    SpelledAlike s other ↔ canonical s = canonical other := by
  have letters (core otherCore : List Char) :
      List.Forall₂ SameLetter core otherCore ↔
        core.map Char.toUpper = otherCore.map Char.toUpper := by
    rw [← List.forall₂_eq_eq_eq, List.forall₂_map_left_iff,
      List.forall₂_map_right_iff]
    simp only [toUpper_eq_toUpper_iff]
  rw [← String.toList_inj, toList_canonical, toList_canonical, ← letters]
  constructor
  · intro alike
    cases alike with
    | cores trims otherTrims same =>
        rw [trims_iff.mp trims, trims_iff.mp otherTrims]
        exact same
  · exact .cores (trims_trimmed s.toList) (trims_trimmed other.toList)

end AccessControl.Text
