import AccessControl.Proofs.Decision.Translation
import AccessControl.Proofs.Text.Bytes
import AccessControl.Proofs.Text.LetterCase

/-!
# The grammar of type names

A name stands for a resource type by what is left of it without the blanks
around it: a word, in any case of its ASCII letters, or a view definition.  A
definition is recognised by its first opening brace and its last character, and
it makes no difference whether these are found by counting characters or bytes.
-/

namespace AccessControl.ResourceType

/-- A name without an opening brace, and a version between braces, which may
hold anything. -/
inductive IsDefinition : List Char → Prop where
  | braced {name version : List Char} :
      name ≠ [] → '\x7b' ∉ name → version ≠ [] →
      IsDefinition (name ++ '\x7b' :: (version ++ ['\x7d']))

theorem isViewDefinition_iff {cs : List Char} :
    isViewDefinition cs = true ↔ IsDefinition cs := by
  constructor
  · intro recognised
    unfold isViewDefinition at recognised
    split at recognised
    next name rest cut =>
        simp only [Bool.and_eq_true, Bool.not_eq_true', beq_iff_eq,
          decide_eq_true_eq] at recognised
        obtain ⟨⟨named, closed⟩, long⟩ := recognised
        obtain ⟨free, rfl⟩ := Text.cutAt?_eq_some_iff.mp cut
        obtain ⟨version, rfl⟩ := List.getLast?_eq_some_iff.mp closed
        apply IsDefinition.braced
        · exact List.isEmpty_eq_false_iff.mp named
        · exact free
        · rintro rfl
          simp at long
    next => cases recognised
  · intro definition
    cases definition with
    | @braced name version named free versioned =>
        have long : 0 < version.length := List.length_pos_of_ne_nil versioned
        unfold isViewDefinition
        rw [Text.cutAt?_append free]
        simp [named, long]

/-- The same test on byte offsets: the first opening brace is not at the start,
the text is more than two bytes longer than what precedes it, and a closing
brace ends the text. -/
def BracedByOffsets (cs : List Char) : Prop :=
  ∃ before after, Text.cutAt? '\x7b' cs = some (before, after) ∧
    0 < Text.byteSize before ∧
      Text.byteSize before + 2 < Text.byteSize cs ∧
        cs.getLast? = some '\x7d'

theorem isDefinition_iff_bracedByOffsets {cs : List Char} :
    IsDefinition cs ↔ BracedByOffsets cs := by
  constructor
  · intro definition
    cases definition with
    | @braced name version named free versioned =>
        have nameSize := Text.length_le_byteSize name
        have versionSize := Text.length_le_byteSize version
        have nameLength := List.length_pos_of_ne_nil named
        have versionLength := List.length_pos_of_ne_nil versioned
        refine ⟨name, version ++ ['\x7d'], Text.cutAt?_append free _, ?_, ?_, ?_⟩
        · omega
        · simp only [Text.byteSize_append, Text.byteSize]
          have brace : '\x7b'.utf8Size = 1 := rfl
          have closing : '\x7d'.utf8Size = 1 := rfl
          omega
        · rw [List.getLast?_append, List.getLast?_cons, List.getLast?_concat]
          rfl
  · rintro ⟨before, after, cut, positive, long, closed⟩
    obtain ⟨free, rfl⟩ := Text.cutAt?_eq_some_iff.mp cut
    have afterClosed : after.getLast? = some '\x7d' := by
      cases after with
      | nil => simp at closed
      | cons c rest => simpa using closed
    obtain ⟨version, rfl⟩ := List.getLast?_eq_some_iff.mp afterClosed
    apply IsDefinition.braced
    · rintro rfl
      exact Nat.lt_irrefl 0 positive
    · exact free
    · rintro rfl
      simp only [Text.byteSize_append, List.nil_append] at long
      exact Nat.lt_irrefl _ long

theorem isViewDefinition_map_toUpper (cs : List Char) :
    isViewDefinition (cs.map Char.toUpper) = isViewDefinition cs := by
  have brace (c : Char) : c.toUpper = '\x7b' ↔ c = '\x7b' :=
    Text.toUpper_eq_iff rfl
  have closing (c : Char) : c.toUpper = '\x7d' ↔ c = '\x7d' :=
    Text.toUpper_eq_iff rfl
  unfold isViewDefinition
  rw [Text.cutAt?_map brace]
  cases Text.cutAt? '\x7b' cs with
  | none => rfl
  | some parts =>
      obtain ⟨name, version⟩ := parts
      have last : ((version.map Char.toUpper).getLast? == some '\x7d') =
          (version.getLast? == some '\x7d') := by
        rw [List.getLast?_map, Bool.eq_iff_iff, beq_iff_eq, beq_iff_eq]
        cases version.getLast? <;> simp [closing]
      simp only [Option.map_some, last, List.isEmpty_map, List.length_map]

/-- What a name without blanks around it stands for. -/
inductive Spells (core : String) : ResourceType → Prop where
  | ambari : Text.raise core = "AMBARI" → Spells core .admin
  | admin : Text.raise core = "ADMIN" → Spells core .admin
  | cluster : Text.raise core = "CLUSTER" → Spells core .cluster
  | view : Text.raise core = "VIEW" → Spells core .view
  | definition : IsDefinition core.toList → Spells core .view

theorem IsDefinition.raise_ne {core word : String}
    (definition : IsDefinition core.toList) (plain : '\x7b' ∉ word.toList) :
    Text.raise core ≠ word := by
  rintro rfl
  apply plain
  apply Text.mem_raise rfl
  generalize core.toList = cs at definition
  cases definition
  simp

theorem ofName_eq_ok_iff {name : String} {type : ResourceType} :
    ofName name = .ok type ↔ Spells (Text.trim name) type := by
  have defined : isViewDefinition (Text.trimmed name.toList) = true ↔
      IsDefinition (Text.trim name).toList := by
    rw [isViewDefinition_iff, Text.trim, String.toList_ofList]
  constructor
  · intro found
    unfold ofName at found
    dsimp only at found
    split_ifs at found with administrative cluster view definition <;> cases found
    · exact administrative.elim .ambari .admin
    · exact .cluster cluster
    · exact .view view
    · exact .definition (defined.mp definition)
  · intro spelled
    unfold ofName Text.canonical
    cases spelled with
    | ambari word => rw [word]; rfl
    | admin word => rw [word]; rfl
    | cluster word => rw [word]; rfl
    | view word => rw [word]; rfl
    | definition definition =>
        -- The words have no braces, so that their tests fail.
        have other {word : String} (plain : '\x7b' ∉ word.toList) :=
          definition.raise_ne plain
        simp [other, defined.mpr definition]

/-- Names of one canonical spelling stand for the same type. -/
theorem toOption_ofName_congr {name other : String}
    (same : Text.canonical other = Text.canonical name) :
    (ofName other).toOption = (ofName name).toOption := by
  have definition (s : String) : isViewDefinition (Text.trimmed s.toList) =
      isViewDefinition (Text.canonical s).toList := by
    rw [Text.toList_canonical, isViewDefinition_map_toUpper]
  unfold ofName
  rw [definition, definition, same]
  dsimp only
  split_ifs <;> rfl

/-- No word has a letter beyond ASCII. -/
theorem spells_iff_of_beyond {core : String} {c : Char}
    (member : c ∈ core.toList) (beyond : 0x80 ≤ c.toNat) {type : ResourceType} :
    Spells core type ↔ type = .view ∧ IsDefinition core.toList := by
  have other {word : String} (ascii : ∀ d ∈ word.toList, d.toNat < 0x80) :
      Text.raise core ≠ word := by
    rintro rfl
    have kept := Text.mem_raise (Text.not_isAlpha_of_beyond beyond) member
    exact Nat.not_lt.mpr beyond (ascii c kept)
  constructor
  · intro spelled
    cases spelled with
    | ambari word => exact absurd word (other (by simp))
    | admin word => exact absurd word (other (by simp))
    | cluster word => exact absurd word (other (by simp))
    | view word => exact absurd word (other (by simp))
    | definition definition => exact ⟨rfl, definition⟩
  · rintro ⟨rfl, definition⟩
    exact .definition definition

/-- How a name is read, given what is left of it without the blanks around
it. -/
structure ReadsAs (name core : String) : Prop where
  admin : ofName name = .ok .admin ↔
    Text.raise core = "AMBARI" ∨ Text.raise core = "ADMIN"
  cluster : ofName name = .ok .cluster ↔ Text.raise core = "CLUSTER"
  view : ofName name = .ok .view ↔
    Text.raise core = "VIEW" ∨ IsDefinition core.toList
  /-- Offsets of braces in bytes lead to the same types. -/
  offsets : ofName name = .ok .view ↔
    Text.raise core = "VIEW" ∨ BracedByOffsets core.toList
  /-- There is no other failure, and it keeps the blanks. -/
  unknown (failure : UnknownName) : ofName name = .error failure ↔
    failure = .resourceType name ∧ ∀ type, ¬ Spells core type
  padded {before after : List Char} :
    (∀ c ∈ before, Text.isBlank c = true) →
    (∀ c ∈ after, Text.isBlank c = true) →
      (ofName (String.ofList (before ++ name.toList ++ after))).toOption =
        (ofName name).toOption
  recased {other : String} : Text.raise other = Text.raise name →
    (ofName other).toOption = (ofName name).toOption
  /-- A letter beyond ASCII is no variant of a letter in a word. -/
  beyond {c : Char} : c ∈ core.toList → 0x80 ≤ c.toNat →
    ∀ type, ofName name = .ok type ↔ type = .view ∧ IsDefinition core.toList

theorem ofName_eq_view_iff {name : String} :
    ofName name = .ok .view ↔ Text.raise (Text.trim name) = "VIEW" ∨
      IsDefinition (Text.trim name).toList := by
  rw [ofName_eq_ok_iff]
  constructor
  · intro spelled
    cases spelled with
    | view word => exact .inl word
    | definition definition => exact .inr definition
  · exact fun spelled => spelled.elim .view .definition

/-- Every name is read by its grammar. -/
theorem exists_readsAs (name : String) :
    ∃ core : String, Text.Trims name.toList core.toList ∧ ReadsAs name core := by
  refine ⟨Text.trim name, Text.trims_ofList name.toList, ?_⟩
  constructor
  case admin =>
    rw [ofName_eq_ok_iff]
    constructor
    · intro spelled
      cases spelled with
      | ambari word => exact .inl word
      | admin word => exact .inr word
    · exact fun word => word.elim .ambari .admin
  case cluster =>
    rw [ofName_eq_ok_iff]
    constructor
    · intro spelled
      cases spelled with
      | cluster word => exact word
    · exact .cluster
  case view => exact ofName_eq_view_iff
  case offsets =>
    rw [ofName_eq_view_iff, isDefinition_iff_bracedByOffsets]
  case unknown =>
    intro failure
    simp only [ofName_eq_error_iff, ne_eq, ofName_eq_ok_iff]
  case padded =>
    intro before after blankBefore blankAfter
    exact toOption_ofName_congr (Text.canonical_pad blankBefore blankAfter name)
  case recased =>
    intro other same
    exact toOption_ofName_congr (Text.canonical_of_raise_eq same)
  case beyond =>
    intro c member beyond type
    rw [ofName_eq_ok_iff, spells_iff_of_beyond member beyond]

-- A version may hold braces, and the long s is no variant of `S`.
example : ofName "\u2003Files\x7b1\x7d.\x7b2\x7d " = .ok .view ∧
    ofName " clu\u017fter" = .error (.resourceType " clu\u017fter") := by
  decide +kernel

end AccessControl.ResourceType
