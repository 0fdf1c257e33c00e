import Mathlib.Data.List.Basic
import AccessControl.Text

/-!
# The bytes of a text

Texts are compared character by character.  In UTF-8 this is the order of their
bytes: of two characters the smaller one has the smaller bytes, and none begins
with the bytes of another.
-/

namespace AccessControl.Text

/-- The bytes of a text in UTF-8. -/
def bytes (text : String) : List UInt8 :=
  text.toByteArray.data.toList

theorem bytes_eq_flatMap (text : String) :
    bytes text = text.toList.flatMap String.utf8EncodeChar := by
  have encoded : text.toByteArray = text.toList.utf8Encode := by
    rw [← String.toByteArray_ofList, String.ofList_toList]
  rw [bytes, encoded, List.utf8Encode, List.toList_data_toByteArray]

theorem byteSize_append (first second : List Char) :
    byteSize (first ++ second) = byteSize first + byteSize second := by
  induction first with
  | nil => simp [byteSize]
  | cons c rest induction => simp [byteSize, induction, Nat.add_assoc]

theorem length_le_byteSize (cs : List Char) : cs.length ≤ byteSize cs := by
  induction cs with
  | nil => exact Nat.le_refl 0
  | cons c rest induction =>
      have positive := c.utf8Size_pos
      rw [List.length_cons, byteSize]
      omega

/-! ## The order of bytes -/

theorem ofNat_cons_lt {m n : Nat} (bound : n < 256) {first second : List UInt8}
    (ordered : m ≤ n) (later : m = n → first < second) :
    UInt8.ofNat m :: first < UInt8.ofNat n :: second := by
  rw [List.cons_lt_cons_iff, UInt8.lt_iff_toNat_lt, UInt8.toNat_ofNat',
    UInt8.toNat_ofNat']
  by_cases same : m = n
  · exact .inr ⟨congrArg UInt8.ofNat same, later same⟩
  · left
    omega

theorem utf8EncodeChar_lt {c d : Char} (less : c < d) (first second : List UInt8) :
    String.utf8EncodeChar c ++ first < String.utf8EncodeChar d ++ second := by
  have values : c.val.toNat < d.val.toNat := less
  have bound : d.val.toNat < 0x110000 := by
    rcases d.valid with low | ⟨_, high⟩ <;> omega
  unfold String.utf8EncodeChar
  generalize c.val.toNat = m at values
  generalize d.val.toNat = n at values bound
  dsimp only
  split_ifs <;> simp only [List.cons_append, List.nil_append]
  -- As long as the bytes agree, so do the digits of the values.
  all_goals
    repeat refine ofNat_cons_lt (by omega) (by omega) fun _ => ?_
  all_goals
    exfalso
    omega

theorem utf8EncodeChar_ne_nil (c : Char) : String.utf8EncodeChar c ≠ [] := by
  unfold String.utf8EncodeChar
  dsimp only
  split_ifs <;> simp

theorem flatMap_utf8EncodeChar_lt {cs ds : List Char} (less : cs < ds) :
    cs.flatMap String.utf8EncodeChar < ds.flatMap String.utf8EncodeChar := by
  induction cs generalizing ds with
  | nil =>
      cases ds with
      | nil => cases less
      | cons d ds =>
          obtain ⟨byte, rest, encoded⟩ :=
            List.exists_cons_of_ne_nil (utf8EncodeChar_ne_nil d)
          rw [List.flatMap_cons, encoded]
          exact List.nil_lt_cons _ _
  | cons c cs induction =>
      cases ds with
      | nil => cases less
      | cons d ds =>
          rw [List.flatMap_cons, List.flatMap_cons]
          rcases List.cons_lt_cons_iff.mp less with first | ⟨rfl, later⟩
          · exact utf8EncodeChar_lt first _ _
          · exact List.append_left_lt (induction later)

theorem bytes_lt_of_lt {first second : String} (less : first < second) :
    bytes first < bytes second := by
  rw [bytes_eq_flatMap, bytes_eq_flatMap]
  exact flatMap_utf8EncodeChar_lt (String.lt_iff.mp less)

/-- Texts are in the order of their bytes. -/
theorem bytes_le_iff {first second : String} :
    bytes first ≤ bytes second ↔ first ≤ second := by
  constructor
  · intro ordered
    by_contra beyond
    exact List.not_lt.mpr ordered (bytes_lt_of_lt (String.not_le.mp beyond))
  · intro ordered
    apply List.not_lt.mp
    intro less
    have split : first < second ∨ first = second := by grind
    rcases split with before | rfl
    · exact List.lt_asymm less (bytes_lt_of_lt before)
    · exact List.lt_irrefl _ less

theorem bytes_lt_iff {first second : String} :
    bytes first < bytes second ↔ first < second := by
  rw [← List.not_le, ← String.not_le, bytes_le_iff]

theorem bytes_inj {first second : String} :
    bytes first = bytes second ↔ first = second := by
  constructor
  · intro same
    apply String.le_antisymm
    · exact bytes_le_iff.mp (same ▸ List.le_refl _)
    · exact bytes_le_iff.mp (same ▸ List.le_refl _)
  · exact congrArg bytes

end AccessControl.Text
