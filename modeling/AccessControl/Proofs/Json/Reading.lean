import AccessControl.Proofs.Json.Fields
import AccessControl.Proofs.Json.Skipping

/-!
# Reading written documents

A text is checked while it is read.  For a written value this comes to the same
as checking the value: what the check accepts is read, up to the end of the
value, with the same outcome.
-/

namespace AccessControl.Json

/-- A reader takes every written value that a check accepts for the outcome of
the check. -/
def Follows (read : Reader Json) (check : Json → Option Json) : Prop :=
  ∀ {document normal : Json}, check document = some normal →
    document.WellFormed → ∀ {rest : List Char}, Ended rest →
      read (chars document ++ rest) = .ok (normal, rest)

/-! ## Words -/

theorem integerReader_follows {low high : Int} (lowFits : low.natAbs < Nat.pow 2 64)
    (highFits : high.natAbs < Nat.pow 2 64) :
    Follows (integerReader low high) (Schema.integer low high).conform := by
  intro document normal accepted _ rest ended
  cases document with
  | integer n =>
      rw [Schema.conform] at accepted
      split at accepted
      next bounds =>
          cases accepted
          have wellFormed := Numeral.wellFormed_ofInt n
          have read := wellFormed.read_spelling ended
          have fits : (Numeral.ofInt n).overflows = false :=
            Numeral.overflows_ofInt (by omega)
          obtain ⟨c, later, spelled, starts⟩ := wellFormed.exists_first
          rw [chars_integer]
          rw [spelled, List.cons_append] at read ⊢
          simp [integerReader, skipSpace_cons (isSpace_of_startsNumeral starts),
            starts, read, fits, Numeral.integer?_ofInt, bounds, bind, Except.bind,
            pure, Except.pure]
      next => cases accepted
  | _ => simp [Schema.conform] at accepted

theorem booleanReader_follows :
    Follows booleanReader Schema.boolean.conform := by
  intro document normal accepted _ rest _
  cases document with
  | boolean value =>
      rw [Schema.conform] at accepted
      cases accepted
      rw [chars_boolean]
      cases value <;> rfl
  | _ => simp [Schema.conform] at accepted

theorem wordReader_quoted {accepts : String → Bool} {s : String}
    (accepted : accepts s = true) (rest : List Char) :
    wordReader accepts ('"' :: (quotedTail s ++ rest)) = .ok (.text s, rest) := by
  have visible : isSpace '"' = false := rfl
  simp [wordReader, skipSpace_cons visible, finishText_quotedTail, accepted,
    bind, Except.bind, pure, Except.pure]

theorem wordReader_follows (accepts : String → Bool) :
    Follows (wordReader accepts) (Schema.word accepts).conform := by
  intro document normal accepted _ rest _
  cases document with
  | text s =>
      rw [Schema.conform] at accepted
      split at accepted
      next member =>
          cases accepted
          rw [chars_text]
          exact wordReader_quoted member rest
      next => cases accepted
  | _ => simp [Schema.conform] at accepted

theorem conform_text (document : Json) :
    Schema.text.conform document = (Schema.word fun _ => true).conform document := by
  cases document <;> simp [Schema.conform]

theorem textReader_follows :
    Follows (wordReader fun _ => true) Schema.text.conform := by
  intro document normal accepted
  rw [conform_text] at accepted
  exact wordReader_follows _ accepted

theorem conform_choice_cases {names : List String} {document normal : Json}
    (accepted : (Schema.choice names).conform document = some normal) :
    ∃ name, names.contains name = true ∧ normal = .text name ∧
      (document = .text name ∨ document = .object [(name, .null)]) := by
  cases document with
  | text name =>
      rw [Schema.conform, Option.ite_none_right_eq_some] at accepted
      exact ⟨name, accepted.1, (Option.some.inj accepted.2).symm, .inl rfl⟩
  | object members =>
      rcases members with _ | ⟨⟨name, value⟩, _ | ⟨other, more⟩⟩
      · simp [Schema.conform] at accepted
      · cases value with
        | null =>
            rw [Schema.conform, Option.ite_none_right_eq_some] at accepted
            exact ⟨name, accepted.1, (Option.some.inj accepted.2).symm, .inr rfl⟩
        | _ => simp [Schema.conform] at accepted
      · simp [Schema.conform] at accepted
  | _ => simp [Schema.conform] at accepted

theorem choiceReader_follows (names : List String) :
    Follows (choiceReader names) (Schema.choice names).conform := by
  intro document normal accepted _ rest _
  obtain ⟨name, listed, rfl, rfl | rfl⟩ := conform_choice_cases accepted
  · rw [chars_text]
    exact wordReader_quoted listed rest
  · have chosen : wordReader names.contains
        ('"' :: (quotedTail name ++ ':' :: (chars .null ++ '\x7d' :: rest))) =
          .ok (.text name, _) :=
      wordReader_quoted listed _
    have brace : isSpace '\x7b' = false := rfl
    have quote : isSpace '"' = false := rfl
    rw [chars_object, remaining_cons, memberChars, afterOthers]
    simp only [List.flatMap_nil, List.cons_append, List.append_assoc,
      List.nil_append]
    simp only [choiceReader, skipSpace_cons brace, skipSpace_cons quote, chosen]
    rfl

/-- What is not null is read as without the option. -/
theorem optionalReader_of_ne_null {document : Json}
    (wellFormed : document.WellFormed) (present : document ≠ .null)
    (inner : Reader Json) (rest : List Char) :
    optionalReader inner (chars document ++ rest) =
      inner (chars document ++ rest) := by
  obtain ⟨c, later, spelled, opens⟩ := wellFormed.exists_opens
  have other : c ≠ 'n' := by
    rintro rfl
    exact present opens.eq_null
  rw [spelled, List.cons_append]
  simp [optionalReader, skipSpace_cons opens.isSpace, other]

theorem optionalReader_follows {read : Reader Json} {schema : Schema}
    (follows : Follows read schema.conform) :
    Follows (optionalReader read) schema.optional.conform := by
  intro document normal accepted wellFormed rest ended
  by_cases absent : document = .null
  · subst absent
    rw [Schema.conform] at accepted
    cases accepted
    rfl
  · have present : schema.conform document = some normal := by
      rw [Schema.conform] at accepted
      · exact accepted
      · exact absent
    rw [optionalReader_of_ne_null wellFormed absent]
    exact follows present wellFormed ended

/-! ## Lists -/

theorem nextItem_end (first : Bool) (rest : List Char) :
    nextItem first (remaining first chars [] ++ ']' :: rest) =
      .ok (.finished rest) := by
  cases first <;> rfl

theorem nextItem_cons {item : Json} (wellFormed : item.WellFormed)
    (first : Bool) (later : List Json) (rest : List Char) :
    nextItem first (remaining first chars (item :: later) ++ rest) =
      .ok (.item (chars item ++ (remaining false chars later ++ rest))) := by
  obtain ⟨c, tail, spelled, opens⟩ := wellFormed.exists_opens
  have comma : isSpace ',' = false := rfl
  cases first with
  | true =>
      rw [remaining_cons, spelled]
      simp [nextItem, skipSpace_cons opens.isSpace, opens.ne_bracket, remaining]
  | false =>
      simp [remaining, afterOthers_cons, spelled, nextItem,
        skipSpace_cons comma, skipSpace_cons opens.isSpace, opens.ne_bracket]

theorem itemsReader_append {read : Reader Json} {check : Json → Option Json}
    (follows : Follows read check) {items normals : List Json}
    (accepted : List.Forall₂ (fun item normal => check item = some normal) items
      normals)
    (wellFormed : ∀ item ∈ items, item.WellFormed) (first : Bool)
    (earlier : List Json) {fuel : Nat} (enough : items.length < fuel)
    (rest : List Char) :
    itemsReader read fuel first earlier
        (remaining first chars items ++ ']' :: rest) =
      .ok (.array (earlier.reverse ++ normals), rest) := by
  induction accepted generalizing first earlier fuel with
  | nil =>
      obtain ⟨fuel, rfl⟩ := Nat.exists_eq_succ_of_ne_zero (Nat.ne_zero_of_lt enough)
      rw [itemsReader, nextItem_end]
      simp [bind, Except.bind, pure, Except.pure]
  | @cons item normal later normals firstAccepted laterAccepted induction =>
      obtain ⟨fuel, rfl⟩ := Nat.exists_eq_succ_of_ne_zero (Nat.ne_zero_of_lt enough)
      obtain ⟨itemWellFormed, laterWellFormed⟩ := List.forall_mem_cons.mp wellFormed
      have itemRead : read
          (chars item ++ (remaining false chars later ++ ']' :: rest)) =
            .ok (normal, _) :=
        follows firstAccepted itemWellFormed
          ((ended_square rest).afterOthers chars later)
      have laterRead := induction laterWellFormed false (normal :: earlier)
        (Nat.lt_of_succ_lt_succ enough)
      rw [itemsReader, nextItem_cons itemWellFormed]
      simp only [bind, Except.bind, itemRead, laterRead]
      simp

theorem listReader_follows {item : Schema} {read : Reader Json}
    (follows : Follows read item.conform) :
    Follows (listReader read) item.list.conform := by
  intro document normal accepted wellFormed rest _
  cases wellFormed with
  | @array items wellFormed =>
      rw [Schema.conform, Option.map_eq_some_iff] at accepted
      obtain ⟨normals, accepted, rfl⟩ := accepted
      have square : isSpace '[' = false := rfl
      have enough := length_lt_remaining_append chars items ']' rest
      rw [chars_array, List.cons_append, List.append_assoc, List.cons_append,
        List.nil_append, listReader, skipSpace_cons square]
      exact itemsReader_append follows (Traversal.mapM_eq_some_iff.mp accepted)
        wellFormed true [] enough rest
  | _ => simp [Schema.conform] at accepted

end AccessControl.Json
