import AccessControl.LoginAlias
import AccessControl.Proofs.Text.Splitting
import AccessControl.Proofs.Text.Trimming
import AccessControl.Proofs.Traversal

/-!
# Aliases written and read

A configuration text is a list of entries between commas, and an entry a name
and a user around its first equals sign.  Blanks count nowhere, so that many
texts define the same aliases; one of them is written without any blanks.
-/

namespace AccessControl.LoginAlias

/-! ## One entry -/

/-- Some text before the first equals sign, and some text after it. -/
def IsDivided (entry : List Char) : Prop :=
  ∃ before after, entry = before ++ '=' :: after ∧ '=' ∉ before ∧
    (∃ c ∈ before, Text.isBlank c = false) ∧
      ∃ c ∈ after, Text.isBlank c = false

/-- The alias that an entry defines: without the blanks, the name is before the
first equals sign and the user is after it. -/
inductive Defines : List Char → LoginAlias → Prop where
  | pair {before after : List Char} {addition : LoginAlias} :
      '=' ∉ before →
      Text.Trims before addition.name.toList → addition.name ≠ "" →
      Text.Trims after addition.user.toList → addition.user ≠ "" →
      Defines (before ++ '=' :: after) addition

theorem exists_defines_iff {entry : List Char} :
    (∃ addition, Defines entry addition) ↔ IsDivided entry := by
  have filled {cs : List Char} {core : String}
      (trims : Text.Trims cs core.toList) :
      core ≠ "" ↔ ∃ c ∈ cs, Text.isBlank c = false := by
    rw [ne_eq, ← String.toList_eq_nil_iff, trims.eq_nil_iff]
    simp
  constructor
  · rintro ⟨addition, defines⟩
    cases defines with
    | @pair before after _ free name named user assigned =>
        exact ⟨before, after, rfl, free, (filled name).mp named,
          (filled user).mp assigned⟩
  · rintro ⟨before, after, rfl, free, named, assigned⟩
    have name := Text.trims_ofList before
    have user := Text.trims_ofList after
    exact ⟨⟨_, _⟩, .pair free name ((filled name).mpr named) user
      ((filled user).mpr assigned)⟩

theorem ofEntry_eq_ok_iff {entry : List Char} {addition : LoginAlias} :
    ofEntry entry = .ok addition ↔ Defines entry addition := by
  have filled {cs : List Char} (nonempty : ¬ cs.isEmpty = true) :
      String.ofList cs ≠ "" := by
    rw [ne_eq, ← String.toList_eq_nil_iff, String.toList_ofList]
    exact mt List.isEmpty_iff.mpr nonempty
  constructor
  · intro accepted
    unfold ofEntry at accepted
    split at accepted
    next before after cut =>
        dsimp only at accepted
        split at accepted
        next => cases accepted
        next nonempty =>
            rw [Bool.or_eq_true, not_or] at nonempty
            cases accepted
            obtain ⟨free, rfl⟩ := Text.cutAt?_eq_some_iff.mp cut
            exact .pair free (Text.trims_ofList before) (filled nonempty.1)
              (Text.trims_ofList after) (filled nonempty.2)
    next => cases accepted
  · intro defines
    cases defines with
    | @pair before after _ free name named user assigned =>
        have first := Text.trims_iff.mp name
        have second := Text.trims_iff.mp user
        unfold ofEntry
        rw [Text.cutAt?_append free]
        simp [first, second, named, assigned]

theorem ofEntry_eq_error_iff {entry : List Char} {malformed : MalformedAlias} :
    ofEntry entry = .error malformed ↔
      ¬ IsDivided entry ∧ malformed.entry = String.ofList entry := by
  have named : ofEntry entry = .error ⟨String.ofList entry⟩ ∨
      ∃ addition, ofEntry entry = .ok addition := by
    unfold ofEntry
    dsimp only
    split
    · split
      · exact .inl rfl
      · exact .inr ⟨_, rfl⟩
    · exact .inl rfl
  rw [← exists_defines_iff]
  simp only [← ofEntry_eq_ok_iff]
  obtain ⟨text⟩ := malformed
  rcases named with refused | ⟨addition, accepted⟩
  · simp [refused, eq_comm]
  · simp [accepted]

/-! ## The entries of a text -/

/-- What is left of parts of a text without the blanks around them, where
parts of nothing but blanks are dropped. -/
inductive Remaining : List (List Char) → List (List Char) → Prop where
  | nil : Remaining [] []
  | blank {part : List Char} {parts entries : List (List Char)} :
      (∀ c ∈ part, Text.isBlank c = true) → Remaining parts entries →
      Remaining (part :: parts) entries
  | entry {part entry : List Char} {parts entries : List (List Char)} :
      Text.Trims part entry → entry ≠ [] → Remaining parts entries →
      Remaining (part :: parts) (entry :: entries)

/-- The entries of a text: what is left of its parts between commas. -/
inductive Contains : List Char → List (List Char) → Prop where
  | joined {parts entries : List (List Char)} :
      parts ≠ [] → (∀ part ∈ parts, ',' ∉ part) → Remaining parts entries →
      Contains ([','].intercalate parts) entries

theorem remaining_iff {parts entries : List (List Char)} :
    Remaining parts entries ↔
      ((parts.map Text.trimmed).filter fun entry => !entry.isEmpty) =
        entries := by
  constructor
  · intro remaining
    induction remaining with
    | nil => rfl
    | blank blank _ induction =>
        have empty := (Text.trims_trimmed _).eq_nil_iff.mpr blank
        rw [List.map_cons, empty]
        exact induction
    | entry trims filled _ induction =>
        rw [List.map_cons, Text.trims_iff.mp trims,
          List.filter_cons_of_pos (by simpa using filled), induction]
  · rintro rfl
    induction parts with
    | nil => exact .nil
    | cons part parts induction =>
        have trims := Text.trims_trimmed part
        rw [List.map_cons]
        by_cases empty : Text.trimmed part = []
        · rw [empty]
          exact .blank (trims.eq_nil_iff.mp empty) induction
        · rw [List.filter_cons_of_pos (by simpa using empty)]
          exact .entry trims empty induction

theorem entries_eq_iff {text : String} {found : List (List Char)} :
    entries text = found ↔ Contains text.toList found := by
  constructor
  · rintro rfl
    obtain ⟨filled, free, joined⟩ :=
      Text.pieces_eq_iff.mp (Eq.refl (Text.pieces ',' text.toList))
    have contains := Contains.joined filled free (remaining_iff.mpr rfl)
    rwa [joined] at contains
  · intro contains
    unfold entries
    generalize text.toList = cs at contains
    cases contains with
    | joined filled free remaining =>
        rw [Text.pieces_eq_iff.mpr ⟨filled, free, rfl⟩]
        exact remaining_iff.mp remaining

theorem ofEntries_eq_mapM (found : List (List Char)) :
    ofEntries found = found.mapM ofEntry := by
  induction found with
  | nil => rfl
  | cons entry later induction => rw [List.mapM_cons, ofEntries, induction]

theorem parse_eq_ok_iff {text : String} {additions : List LoginAlias} :
    parse text = .ok additions ↔
      ∃ found, Contains text.toList found ∧
        List.Forall₂ Defines found additions := by
  unfold parse
  rw [ofEntries_eq_mapM, Traversal.mapM_eq_ok_iff]
  simp only [← entries_eq_iff, ofEntry_eq_ok_iff, exists_eq_left']

/-! ## Writing aliases -/

/-- The entry for an addition, without blanks. -/
def entry (addition : LoginAlias) : String :=
  addition.name ++ "=" ++ addition.user

/-- The text for a list of aliases. -/
def render (additions : List LoginAlias) : String :=
  ",".intercalate (additions.map entry)

/-- An alias that can be written and read back. -/
structure WellFormed (addition : LoginAlias) : Prop where
  named : addition.name ≠ ""
  nameStripped : Text.Stripped Text.isBlank addition.name.toList
  nameUncut : ',' ∉ addition.name.toList
  nameUndivided : '=' ∉ addition.name.toList
  assigned : addition.user ≠ ""
  userStripped : Text.Stripped Text.isBlank addition.user.toList
  userUncut : ',' ∉ addition.user.toList

theorem toList_entry (addition : LoginAlias) :
    addition.entry.toList = addition.name.toList ++ '=' :: addition.user.toList := by
  simp [entry]

namespace WellFormed

variable {addition : LoginAlias}

theorem defines (wellFormed : addition.WellFormed) :
    Defines addition.entry.toList addition := by
  rw [toList_entry]
  exact .pair wellFormed.nameUndivided
    (.of_stripped wellFormed.nameStripped) wellFormed.named
    (.of_stripped wellFormed.userStripped) wellFormed.assigned

theorem stripped_entry (wellFormed : addition.WellFormed) :
    Text.Stripped Text.isBlank addition.entry.toList := by
  have named := mt String.toList_eq_nil_iff.mp wellFormed.named
  have assigned := mt String.toList_eq_nil_iff.mp wellFormed.assigned
  rw [toList_entry]
  exact wellFormed.nameStripped.around named wellFormed.userStripped assigned
    ['=']

theorem uncut_entry (wellFormed : addition.WellFormed) :
    ',' ∉ addition.entry.toList := by
  rw [toList_entry]
  simp [wellFormed.nameUncut, wellFormed.userUncut]

end WellFormed

variable {additions : List LoginAlias}

theorem contains_render (wellFormed : ∀ addition ∈ additions, addition.WellFormed) :
    Contains (render additions).toList
      (additions.map fun addition => addition.entry.toList) := by
  have remaining : Remaining
      (additions.map fun addition => addition.entry.toList)
      (additions.map fun addition => addition.entry.toList) := by
    induction additions with
    | nil => exact .nil
    | cons first later induction =>
        obtain ⟨firstFormed, laterFormed⟩ := List.forall_mem_cons.mp wellFormed
        refine .entry (.of_stripped firstFormed.stripped_entry) ?_
          (induction laterFormed)
        simp [toList_entry]
  have written : (render additions).toList = [','].intercalate
      (additions.map fun addition => addition.entry.toList) := by
    rw [render, String.toList_intercalate, List.map_map]
    rfl
  rw [written]
  cases additions with
  | nil =>
      -- The empty text has one part, which is blank.
      have blank : Remaining [[]] [] := .blank (List.forall_mem_nil _) .nil
      have joined := Contains.joined (List.cons_ne_nil [] []) (by simp) blank
      exact joined
  | cons first later =>
      refine .joined (List.cons_ne_nil _ _) ?_ remaining
      intro part member
      obtain ⟨addition, there, rfl⟩ := List.mem_map.mp member
      exact (wellFormed addition there).uncut_entry

theorem parse_render (wellFormed : ∀ addition ∈ additions, addition.WellFormed) :
    parse (render additions) = .ok additions := by
  apply parse_eq_ok_iff.mpr
  refine ⟨_, contains_render wellFormed, ?_⟩
  rw [List.forall₂_map_left_iff, List.forall₂_same]
  exact fun addition member => (wellFormed addition member).defines

/-! ## What is read can be written -/

theorem Remaining.uncut {parts found : List (List Char)}
    (remaining : Remaining parts found) (free : ∀ part ∈ parts, ',' ∉ part) :
    ∀ entry ∈ found, ',' ∉ entry := by
  induction remaining with
  | nil => exact List.forall_mem_nil _
  | blank _ _ induction => exact induction (List.forall_mem_cons.mp free).2
  | entry trims _ _ induction =>
      obtain ⟨first, later⟩ := List.forall_mem_cons.mp free
      have firstUncut := fun member => first (trims.subset member)
      exact List.forall_mem_cons.mpr ⟨firstUncut, induction later⟩

theorem Defines.wellFormed {entry : List Char} {addition : LoginAlias}
    (defines : Defines entry addition) (uncut : ',' ∉ entry) :
    addition.WellFormed := by
  cases defines with
  | pair free name named user assigned =>
      rw [List.mem_append, List.mem_cons, not_or, not_or] at uncut
      exact
        { named
          nameStripped := name.stripped
          nameUncut := fun member => uncut.1 (name.subset member)
          nameUndivided := fun member => free (name.subset member)
          assigned
          userStripped := user.stripped
          userUncut := fun member => uncut.2.2 (user.subset member) }

theorem wellFormed_of_parse {text : String}
    (accepted : parse text = .ok additions) :
    ∀ addition ∈ additions, addition.WellFormed := by
  obtain ⟨found, contains, defined⟩ := parse_eq_ok_iff.mp accepted
  have uncut : ∀ entry ∈ found, ',' ∉ entry := by
    clear accepted
    generalize text.toList = cs at contains
    cases contains with
    | joined _ free remaining => exact remaining.uncut free
  clear accepted contains
  induction defined with
  | nil => exact List.forall_mem_nil _
  | cons defines _ induction =>
      obtain ⟨first, later⟩ := List.forall_mem_cons.mp uncut
      exact List.forall_mem_cons.mpr ⟨defines.wellFormed first, induction later⟩

/-- A text is read as the aliases of its entries, or refused for the first
entry that defines none; and the aliases that can be read are those that can be
written and read back. -/
theorem parse_exact :
    (∀ text, ∃ found, Contains text.toList found ∧
      (∀ additions, parse text = .ok additions ↔
        List.Forall₂ Defines found additions) ∧
      ((∃ additions, parse text = .ok additions) ↔
        ∀ entry ∈ found, IsDivided entry) ∧
      ∀ malformed, parse text = .error malformed ↔
        ∃ passed entry later, found = passed ++ entry :: later ∧
          (∀ other ∈ passed, IsDivided other) ∧
            ¬ IsDivided entry ∧ malformed.entry = String.ofList entry) ∧
    (∀ additions, (∀ addition ∈ additions, WellFormed addition) →
      parse (render additions) = .ok additions) ∧
    (∀ text additions, parse text = .ok additions →
      (∀ addition ∈ additions, WellFormed addition) ∧
        parse (render additions) = .ok additions) := by
  refine ⟨?_, fun additions => parse_render, ?_⟩
  · intro text
    have decoded (additions : List LoginAlias) : parse text = .ok additions ↔
        List.Forall₂ Defines (entries text) additions := by
      simp only [parse_eq_ok_iff, ← entries_eq_iff, exists_eq_left']
    refine ⟨entries text, entries_eq_iff.mp rfl, decoded, ?_, ?_⟩
    · unfold parse
      rw [ofEntries_eq_mapM, Traversal.exists_mapM_eq_ok_iff]
      simp only [ofEntry_eq_ok_iff, exists_defines_iff]
    · intro malformed
      unfold parse
      rw [ofEntries_eq_mapM, Traversal.mapM_eq_error_iff]
      simp only [ofEntry_eq_ok_iff, exists_defines_iff, ofEntry_eq_error_iff]
  · intro text additions accepted
    have wellFormed := wellFormed_of_parse accepted
    exact ⟨wellFormed, parse_render wellFormed⟩

example : parse " jdoe@CORP=jdoe, ,root@CORP = name=admin" =
    .ok [⟨"jdoe@CORP", "jdoe"⟩, ⟨"root@CORP", "name=admin"⟩] := by
  decide +kernel

end AccessControl.LoginAlias
