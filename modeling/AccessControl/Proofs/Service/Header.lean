import Mathlib.Data.Option.Basic
import AccessControl.Proofs.Text.Trimming
import AccessControl.Service.Http

/-!
# The login in a header

A header is a list of bytes, of which a request holds a text.  The login of the
request depends on the bytes alone: if all of them are visible, it is what
remains between the spaces at both ends, and if nothing remains or one of them
is not visible, there is none.
-/

namespace AccessControl.Service

/-- A byte that a header can hold and still be read. -/
def IsVisible (byte : UInt8) : Prop :=
  0x20 ≤ byte ∧ byte ≤ 0x7E ∨ byte = 0x09

/-- A space or a tab. -/
def isSpace (byte : UInt8) : Bool :=
  byte == 0x20 || byte == 0x09

/-- The text of ASCII bytes. -/
def ascii (bytes : List UInt8) : String :=
  String.ofList (bytes.map Char.ofUInt8)

/-- The text by which a request holds the bytes of a header.  Bytes outside
ASCII may be held by any text outside ASCII. -/
inductive Holds : Option String → Option (List UInt8) → Prop where
  | absent : Holds none none
  | plain (bytes : List UInt8) : Holds (some (ascii bytes)) (some bytes)
  | other {text : String} {bytes : List UInt8} {byte : UInt8} {c : Char} :
      byte ∈ bytes → 0x80 ≤ byte → c ∈ text.toList → 0x80 ≤ c.toNat →
      Holds (some text) (some bytes)

/-- The login that the bytes of a header name: what is left without spaces at
both ends, if all bytes are visible and anything is left. -/
inductive Names : Option (List UInt8) → Option String → Prop where
  | absent : Names none none
  | unreadable {bytes : List UInt8} {byte : UInt8} :
      byte ∈ bytes → ¬ IsVisible byte → Names (some bytes) none
  | blank {bytes : List UInt8} :
      (∀ byte ∈ bytes, isSpace byte = true) → Names (some bytes) none
  | login {before core after : List UInt8} :
      (∀ byte ∈ before, isSpace byte = true) →
      (∀ byte ∈ after, isSpace byte = true) →
      (∀ byte ∈ core, IsVisible byte) → core ≠ [] →
      Text.Stripped isSpace core →
      Names (some (before ++ core ++ after)) (some (ascii core))

theorem isVisible_of_isSpace {byte : UInt8} (space : isSpace byte = true) :
    IsVisible byte := by
  simp only [isSpace, Bool.or_eq_true, beq_iff_eq] at space
  rcases space with rfl | rfl
  · exact .inl (by decide)
  · exact .inr rfl

theorem toNat_ofUInt8 (byte : UInt8) :
    (Char.ofUInt8 byte).toNat = byte.toNat :=
  rfl

theorem isVisible_iff {byte : UInt8} :
    IsVisible byte ↔
      0x20 ≤ byte.toNat ∧ byte.toNat ≤ 0x7E ∨ byte.toNat = 0x09 := by
  unfold IsVisible
  rw [UInt8.le_iff_toNat_le, UInt8.le_iff_toNat_le, ← UInt8.toNat_inj]
  rfl

theorem isSpace_iff {byte : UInt8} :
    isSpace byte = true ↔ byte.toNat = 0x20 ∨ byte.toNat = 0x09 := by
  unfold isSpace
  rw [Bool.or_eq_true, beq_iff_eq, beq_iff_eq, ← UInt8.toNat_inj,
    ← UInt8.toNat_inj]
  rfl

theorem isBlank_ofUInt8 {byte : UInt8} (visible : IsVisible byte) :
    Text.isBlank (Char.ofUInt8 byte) = isSpace byte := by
  rw [isVisible_iff] at visible
  rw [Bool.eq_iff_iff, isSpace_iff]
  simp only [Text.isBlank, Bool.or_eq_true, Bool.and_eq_true, decide_eq_true_eq,
    beq_iff_eq]
  simp only [toNat_ofUInt8]
  omega

theorem isReadable_ascii {bytes : List UInt8} :
    isReadable (ascii bytes) = true ↔ ∀ byte ∈ bytes, IsVisible byte := by
  have tab (c : Char) : c = '\t' ↔ c.toNat = 0x09 :=
    (Char.toNat_inj (d := '\t')).symm
  unfold isReadable ascii
  simp only [String.toList_ofList, List.all_eq_true, List.mem_map,
    forall_exists_index, and_imp, forall_apply_eq_imp_iff₂, Bool.or_eq_true,
    Bool.and_eq_true, decide_eq_true_eq, beq_iff_eq, tab]
  simp only [toNat_ofUInt8, isVisible_iff]

theorem trim_ascii {before core after : List UInt8}
    (spaceBefore : ∀ byte ∈ before, isSpace byte = true)
    (spaceAfter : ∀ byte ∈ after, isSpace byte = true)
    (visible : ∀ byte ∈ core, IsVisible byte)
    (stripped : Text.Stripped isSpace core) :
    Text.trim (ascii (before ++ core ++ after)) = ascii core := by
  have blank {bytes : List UInt8}
      (space : ∀ byte ∈ bytes, isSpace byte = true) :
      ∀ c ∈ bytes.map Char.ofUInt8, Text.isBlank c = true := by
    intro c member
    obtain ⟨byte, byteMember, rfl⟩ := List.mem_map.mp member
    rw [isBlank_ofUInt8 (isVisible_of_isSpace (space byte byteMember))]
    exact space byte byteMember
  have strippedText : Text.Stripped Text.isBlank (core.map Char.ofUInt8) := by
    constructor
    · intro c first
      rw [List.head?_map] at first
      obtain ⟨byte, byteFirst, rfl⟩ := Option.mem_map.mp first
      rw [isBlank_ofUInt8 (visible byte (List.mem_of_mem_head? byteFirst))]
      exact stripped.first byte byteFirst
    · intro c last
      rw [List.getLast?_map] at last
      obtain ⟨byte, byteLast, rfl⟩ := Option.mem_map.mp last
      rw [isBlank_ofUInt8 (visible byte (List.mem_of_mem_getLast? byteLast))]
      exact stripped.last byte byteLast
  unfold Text.trim ascii
  rw [String.toList_ofList, List.map_append, List.map_append,
    Text.trimmed_append (blank spaceBefore) (blank spaceAfter) strippedText]

theorem Holds.isReadable_iff {text : String} {bytes : List UInt8}
    (holds : Holds (some text) (some bytes)) :
    isReadable text = true ↔ ∀ byte ∈ bytes, IsVisible byte := by
  cases holds with
  | plain => exact isReadable_ascii
  | @other _ _ byte c member beyond charMember charBeyond =>
      refine iff_of_false ?_ ?_
      · intro readable
        have kept := List.all_eq_true.mp readable c charMember
        simp only [Bool.or_eq_true, Bool.and_eq_true, decide_eq_true_eq,
          beq_iff_eq] at kept
        rcases kept with within | rfl
        · omega
        · exact absurd charBeyond (by decide)
      · intro visible
        have kept := isVisible_iff.mp (visible byte member)
        have bound : 0x80 ≤ byte.toNat := beyond
        omega

theorem Holds.eq_ascii {user : Option String} {bytes : List UInt8}
    (holds : Holds user (some bytes))
    (visible : ∀ byte ∈ bytes, IsVisible byte) : user = some (ascii bytes) := by
  cases holds with
  | plain => rfl
  | @other _ _ byte c member beyond =>
      have kept := isVisible_iff.mp (visible byte member)
      have bound : 0x80 ≤ byte.toNat := beyond
      omega

theorem exists_names (header : Option (List UInt8)) :
    ∃ login, Names header login := by
  cases header with
  | none => exact ⟨none, .absent⟩
  | some bytes =>
      by_cases visible : ∀ byte ∈ bytes, IsVisible byte
      · obtain ⟨before, core, after, rfl, spaceBefore, spaceAfter, stripped⟩ :=
          Text.exists_stripped isSpace bytes
        by_cases empty : core = []
        · refine ⟨none, .blank ?_⟩
          simpa [empty, or_imp, forall_and] using
            And.intro spaceBefore spaceAfter
        · exact ⟨_, .login spaceBefore spaceAfter
            (fun byte member => visible byte (by simp [member])) empty stripped⟩
      · simp only [not_forall] at visible
        obtain ⟨byte, member, hidden⟩ := visible
        exact ⟨none, .unreadable member hidden⟩

theorem login_eq_of_names {request : Request} {header : Option (List UInt8)}
    {login : Option String} (holds : Holds request.user header)
    (names : Names header login) : request.login = login := by
  unfold Request.login
  cases names with
  | absent =>
      generalize request.user = user at holds
      cases holds
      rfl
  | @unreadable bytes byte member hidden =>
      generalize request.user = user at holds
      obtain ⟨text, rfl⟩ : ∃ text, user = some text := by
        cases holds <;> exact ⟨_, rfl⟩
      have unreadable : isReadable text = false := by
        rw [← Bool.not_eq_true, holds.isReadable_iff]
        exact fun visible => hidden (visible byte member)
      simp [unreadable]
  | @blank bytes space =>
      have visible : ∀ byte ∈ bytes, IsVisible byte :=
        fun byte member => isVisible_of_isSpace (space byte member)
      have trimmed : Text.trim (ascii (bytes ++ [] ++ [])) = ascii [] :=
        trim_ascii space (List.forall_mem_nil _) (List.forall_mem_nil _)
          ⟨by simp, by simp⟩
      have empty : ascii [] = "" := rfl
      rw [List.append_nil, List.append_nil, empty] at trimmed
      simp [holds.eq_ascii visible, trimmed]
  | @login before core after spaceBefore spaceAfter shown nonempty stripped =>
      have visible : ∀ byte ∈ before ++ core ++ after, IsVisible byte := by
        simp only [List.forall_mem_append]
        exact ⟨⟨fun byte member => isVisible_of_isSpace (spaceBefore byte member),
          shown⟩, fun byte member => isVisible_of_isSpace (spaceAfter byte member)⟩
      have trimmed := trim_ascii spaceBefore spaceAfter shown stripped
      have left : ascii core ≠ "" := by
        simpa [ascii] using nonempty
      rw [holds.eq_ascii visible]
      dsimp only
      rw [trimmed, isReadable_ascii.mpr visible]
      simp [left]

/-- The login of a request is the one that its header names. -/
theorem names_iff {request : Request} {header : Option (List UInt8)}
    (holds : Holds request.user header) {login : Option String} :
    Names header login ↔ request.login = login := by
  refine ⟨login_eq_of_names holds, ?_⟩
  rintro rfl
  obtain ⟨login, names⟩ := exists_names header
  rwa [login_eq_of_names holds names]

end AccessControl.Service
