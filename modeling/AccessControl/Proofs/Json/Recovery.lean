import AccessControl.Json.Schema
import AccessControl.Proofs.Json.Writing

/-!
# Values recovered from their texts

The reader that takes any value finds a written value again: its brackets must
not be nested too deep, its numerals must be integers of one word, and no object
may have two members of one name.  As in skipping, every character pays for two
steps.
-/

namespace AccessControl.Json

/-- Values that come through a text unchanged, with brackets nested up to a
depth. -/
inductive Plain : Nat → Json → Prop where
  | null {depth : Nat} : Plain depth .null
  | boolean {depth : Nat} (value : Bool) : Plain depth (.boolean value)
  | integer {depth : Nat} {n : Int} :
      n.natAbs < Nat.pow 2 64 → Plain depth (.integer n)
  | text {depth : Nat} (s : String) : Plain depth (.text s)
  | array {depth : Nat} {items : List Json} :
      (∀ item ∈ items, Plain depth item) → Plain (depth + 1) (.array items)
  | object {depth : Nat} {members : List (String × Json)} :
      (members.map Prod.fst).Nodup → (∀ member ∈ members, Plain depth member.2) →
      Plain (depth + 1) (.object members)

theorem Plain.wellFormed {depth : Nat} {document : Json}
    (plain : Plain depth document) : document.WellFormed := by
  induction plain with
  | null => exact .null
  | boolean value => exact .boolean value
  | integer _ => exact .integer _
  | text s => exact .text s
  | array _ induction => exact .array induction
  | object _ _ induction => exact .object induction

/-- A value is found again wherever it stands. -/
def Recovered (depth : Nat) (document : Json) : Prop :=
  ∀ {fuel : Nat} {rest : List Char}, 2 * (chars document).length ≤ fuel →
    Ended rest →
    readValue fuel depth (chars document ++ rest) = .ok (document, rest)

theorem length_le_memberChars (member : String × Json) :
    (chars member.2).length ≤ (memberChars member).length := by
  simp [memberChars]
  omega

theorem addMember_of_nodup {members later : List (String × Json)}
    {member : String × Json}
    (distinct : ((members ++ member :: later).map Prod.fst).Nodup) :
    addMember members member.1 member.2 = members ++ [member] := by
  rw [List.map_append, List.map_cons, List.nodup_append] at distinct
  unfold addMember
  rw [List.filter_eq_self.mpr]
  intro earlier isEarlier
  rw [bne_iff_ne]
  exact distinct.2.2 _ (List.mem_map_of_mem isEarlier) _ List.mem_cons_self

section

variable {depth fuel : Nat}

/-! ## Items and members -/

theorem readItems_item {item : Json} (recovered : Recovered depth item)
    (enough : 2 * (chars item).length ≤ fuel) {rest : List Char}
    (ended : Ended rest) (earlier : List Json) :
    readItems (fuel + 1) depth earlier (chars item ++ rest) =
      match skipSpace rest with
      | ',' :: rest => readItems fuel depth (item :: earlier) rest
      | ']' :: rest => .ok (.array (item :: earlier).reverse, rest)
      | _ => .error .malformed := by
  rw [readItems, recovered enough ended]
  rfl

theorem readItems_append {item : Json} {later : List Json}
    (recovered : ∀ other ∈ item :: later, Recovered depth other)
    (earlier : List Json)
    (enough : 2 * (remaining true chars (item :: later)).length < fuel)
    (rest : List Char) :
    readItems fuel depth earlier
        (remaining true chars (item :: later) ++ ']' :: rest) =
      .ok (.array (earlier.reverse ++ item :: later), rest) := by
  induction later generalizing item earlier fuel with
  | nil =>
      obtain ⟨fuel, rfl⟩ := Nat.exists_eq_succ_of_ne_zero (Nat.ne_zero_of_lt enough)
      obtain ⟨recoveredItem, _⟩ := List.forall_mem_cons.mp recovered
      rw [remaining_cons, List.length_append] at enough
      rw [remaining_cons, List.append_assoc,
        readItems_item recoveredItem (by omega)
          ((ended_square rest).afterOthers chars [])]
      change Except.ok _ = _
      simp
  | cons next later induction =>
      obtain ⟨fuel, rfl⟩ := Nat.exists_eq_succ_of_ne_zero (Nat.ne_zero_of_lt enough)
      obtain ⟨recoveredItem, recoveredLater⟩ := List.forall_mem_cons.mp recovered
      rw [remaining_cons, List.length_append, afterOthers_cons, ← remaining_cons,
        List.length_cons] at enough
      have laterRead := induction recoveredLater (item :: earlier)
        (by omega : _ < fuel)
      rw [remaining_cons, List.append_assoc,
        readItems_item recoveredItem (by omega)
          ((ended_square rest).afterOthers chars (next :: later)),
        afterOthers_cons, ← remaining_cons]
      apply laterRead.trans
      simp

theorem readMembers_member {member : String × Json}
    (recovered : Recovered depth member.2)
    (enough : 2 * (chars member.2).length ≤ fuel) {rest : List Char}
    (ended : Ended rest) {earlier later : List (String × Json)}
    (distinct : ((earlier ++ member :: later).map Prod.fst).Nodup) :
    readMembers (fuel + 1) depth earlier (memberChars member ++ rest) =
      match skipSpace rest with
      | ',' :: rest => readMembers fuel depth (earlier ++ [member]) rest
      | '\x7d' :: rest => .ok (.object (earlier ++ [member]), rest)
      | _ => .error .malformed := by
  have quote : isSpace '"' = false := rfl
  have colon : isSpace ':' = false := rfl
  rw [memberChars_append, readMembers, skipSpace_cons quote]
  simp only [finishText_quotedTail, skipSpace_cons colon, recovered enough ended,
    addMember_of_nodup distinct, bind, Except.bind]
  rfl

theorem readMembers_append {member : String × Json}
    {later : List (String × Json)}
    (recovered : ∀ other ∈ member :: later, Recovered depth other.2)
    {earlier : List (String × Json)}
    (distinct : ((earlier ++ member :: later).map Prod.fst).Nodup)
    (enough : 2 * (remaining true memberChars (member :: later)).length < fuel)
    (rest : List Char) :
    readMembers fuel depth earlier
        (remaining true memberChars (member :: later) ++ '\x7d' :: rest) =
      .ok (.object (earlier ++ member :: later), rest) := by
  induction later generalizing member earlier fuel with
  | nil =>
      obtain ⟨fuel, rfl⟩ := Nat.exists_eq_succ_of_ne_zero (Nat.ne_zero_of_lt enough)
      obtain ⟨recoveredMember, _⟩ := List.forall_mem_cons.mp recovered
      have shorter := length_le_memberChars member
      rw [remaining_cons, List.length_append] at enough
      rw [remaining_cons, List.append_assoc,
        readMembers_member recoveredMember (by omega)
          ((ended_curly rest).afterOthers memberChars []) distinct]
      rfl
  | cons next later induction =>
      obtain ⟨fuel, rfl⟩ := Nat.exists_eq_succ_of_ne_zero (Nat.ne_zero_of_lt enough)
      obtain ⟨recoveredMember, recoveredLater⟩ := List.forall_mem_cons.mp recovered
      have shorter := length_le_memberChars member
      have regrouped : earlier ++ member :: next :: later =
          (earlier ++ [member]) ++ next :: later := by
        simp
      rw [remaining_cons, List.length_append, afterOthers_cons, ← remaining_cons,
        List.length_cons] at enough
      have laterRead := induction recoveredLater (regrouped ▸ distinct)
        (by omega : _ < fuel)
      rw [remaining_cons, List.append_assoc,
        readMembers_member recoveredMember (by omega)
          ((ended_curly rest).afterOthers memberChars (next :: later)) distinct,
        afterOthers_cons, ← remaining_cons, regrouped]
      exact laterRead

end

/-! ## Values -/

theorem Numeral.readValue_spelling {numeral : Numeral}
    (wellFormed : numeral.WellFormed) (fits : numeral.overflows = false)
    (fuel depth : Nat) {rest : List Char} (ended : Ended rest) :
    readValue (fuel + 1) depth (numeral.spelling.toList ++ rest) =
      .ok (numeral.value, rest) := by
  have read := wellFormed.read_spelling ended
  obtain ⟨c, later, spelled, starts⟩ := wellFormed.exists_first
  have visible := isSpace_of_startsNumeral starts
  have other : c ≠ 'n' ∧ c ≠ 't' ∧ c ≠ 'f' ∧ c ≠ '"' ∧ c ≠ '[' ∧ c ≠ '\x7b' := by
    refine ⟨?_, ?_, ?_, ?_, ?_, ?_⟩ <;> (rintro rfl; cases starts)
  rw [spelled, List.cons_append] at read ⊢
  rw [readValue, skipSpace_cons visible]
  simp [starts, read, other, fits, bind, Except.bind, pure, Except.pure]

theorem readValue_items {fuel depth : Nat} {c : Char} {rest : List Char}
    (visible : isSpace c = false) (other : c ≠ ']') :
    readValue (fuel + 1) (depth + 1) ('[' :: c :: rest) =
      readItems fuel depth [] (c :: rest) := by
  have square : isSpace '[' = false := rfl
  rw [readValue, skipSpace_cons square]
  simp [skipSpace_cons visible, other]

theorem recovered_of_succ {depth : Nat} {document : Json}
    (wellFormed : document.WellFormed)
    (reads : ∀ {fuel : Nat} {rest : List Char},
      2 * (chars document).length ≤ fuel + 1 → Ended rest →
        readValue (fuel + 1) depth (chars document ++ rest) = .ok (document, rest)) :
    Recovered depth document := by
  intro fuel rest enough ended
  obtain ⟨c, later, spelled, _⟩ := wellFormed.exists_opens
  have written : (chars document).length = later.length + 1 := by
    rw [spelled, List.length_cons]
  obtain ⟨fuel, rfl⟩ := Nat.exists_eq_succ_of_ne_zero (by omega : fuel ≠ 0)
  exact reads enough ended

/-- What is plain comes back from its text. -/
theorem Plain.recovered {depth : Nat} {document : Json}
    (plain : Plain depth document) : Recovered depth document := by
  induction plain with
  | null => exact recovered_of_succ .null fun _ _ => rfl
  | boolean value =>
      apply recovered_of_succ (.boolean value)
      intro fuel rest _ _
      cases value <;> rfl
  | @integer depth n fits =>
      apply recovered_of_succ (.integer n)
      intro fuel rest _ ended
      rw [chars_integer, Numeral.readValue_spelling (Numeral.wellFormed_ofInt n)
        (Numeral.overflows_ofInt fits) fuel depth ended, Numeral.value,
        Numeral.integer?_ofInt]
  | text s =>
      apply recovered_of_succ (.text s)
      intro fuel rest _ _
      have quote : isSpace '"' = false := rfl
      rw [chars_text, List.cons_append, readValue, skipSpace_cons quote]
      simp only [finishText_quotedTail, bind, Except.bind]
      rfl
  | @array depth items plain induction =>
      apply recovered_of_succ (.array fun item isItem => (plain item isItem).wellFormed)
      intro fuel rest enough _
      rw [chars_array, List.length_cons, List.length_append,
        List.length_singleton] at enough
      rw [chars_array, List.cons_append, List.append_assoc, List.singleton_append]
      cases items with
      | nil => rfl
      | cons item later =>
          have itemsRead := readItems_append induction [] (by omega : _ < fuel) rest
          obtain ⟨c, tail, spelled, opens⟩ :=
            (plain item List.mem_cons_self).wellFormed.exists_opens
          rw [remaining_cons, spelled] at itemsRead ⊢
          exact (readValue_items opens.isSpace opens.ne_bracket).trans itemsRead
  | @object depth members distinct plain induction =>
      apply recovered_of_succ
        (.object fun member isMember => (plain member isMember).wellFormed)
      intro fuel rest enough _
      rw [chars_object, List.length_cons, List.length_append,
        List.length_singleton] at enough
      rw [chars_object, List.cons_append, List.append_assoc, List.singleton_append]
      cases members with
      | nil => rfl
      | cons member later =>
          have membersRead : readMembers fuel depth [] _ =
              .ok (.object ([] ++ member :: later), rest) :=
            readMembers_append induction distinct (by omega) rest
          rw [remaining_cons, memberChars] at membersRead ⊢
          exact membersRead

theorem Plain.readAny_append {document : Json} (plain : Plain maxDepth document)
    {rest : List Char} (ended : Ended rest) :
    readAny (chars document ++ rest) = .ok (document, rest) := by
  apply plain.recovered _ ended
  rw [List.length_append]
  omega

theorem Plain.parse?_render {document : Json} (plain : Plain maxDepth document) :
    parse? document.render = some document := by
  have ended : Ended [] := by
    rintro c ⟨⟩
  have read := plain.readAny_append ended
  rw [List.append_nil, readAny, chars] at read
  rw [parse?, parseWithin?, read]
  rfl

theorem Plain.objectReader_append {members : List (String × Json)}
    (plain : Plain maxDepth (.object members)) {rest : List Char}
    (ended : Ended rest) :
    objectReader (chars (.object members) ++ rest) =
      .ok (.object members, rest) := by
  have read := plain.readAny_append ended
  have curly : isSpace '\x7b' = false := rfl
  rw [chars_object, List.cons_append] at read ⊢
  rw [objectReader, skipSpace_cons curly]
  exact read

end AccessControl.Json
