import Mathlib
import AccessControl.Proofs.Decision.Translation
import AccessControl.Proofs.Text.LetterCase

/-!
# Ids as a code for authorizations

No two authorizations have the same id, so that a table filled from the list of
all authorizations loses none of them.  Looking a text up in that table and
searching the list come to the same: a text stands for the authorization whose
id is left of it without the blanks around it, in upper case.
-/

namespace AccessControl.Authorization

theorem nodup_ids : (all.map id).Nodup := by
  decide +kernel

theorem id_injective : Function.Injective id := by
  intro first second same
  exact List.inj_on_of_nodup_map nodup_ids (mem_all first) (mem_all second) same

theorem canonical_id (authorization : Authorization) :
    Text.canonical authorization.id = authorization.id := by
  have spelled : ∀ listed ∈ all,
      (Text.trimmed listed.id.toList).map Char.toUpper = listed.id.toList := by
    decide +kernel
  apply String.toList_inj.mp
  rw [Text.toList_canonical]
  exact spelled authorization (mem_all authorization)

theorem find?_id_eq_some_iff {spelling : String}
    {authorization : Authorization} :
    (all.find? fun listed => listed.id == spelling) = some authorization ↔
      spelling = authorization.id := by
  constructor
  · intro found
    have same := List.find?_some found
    exact (beq_iff_eq.mp same).symm
  · rintro rfl
    cases outcome : all.find? fun listed => listed.id == authorization.id with
    | none =>
        have missed := List.find?_eq_none.mp outcome authorization
          (mem_all authorization)
        simp at missed
    | some first =>
        have same := List.find?_some outcome
        rw [id_injective (beq_iff_eq.mp same)]

theorem ofId_eq_ok_iff {text : String} {authorization : Authorization} :
    ofId text = .ok authorization ↔ Text.canonical text = authorization.id := by
  rw [← find?_id_eq_some_iff]
  unfold ofId
  dsimp only
  cases all.find? fun listed => listed.id == Text.canonical text <;> simp

theorem ofId_id (authorization : Authorization) :
    ofId authorization.id = .ok authorization :=
  ofId_eq_ok_iff.mpr (canonical_id authorization)

/-! ## The table of ids -/

/-- The list of all authorizations as a table.  Of two entries with one id the
later one stays. -/
def byId : Std.HashMap String Authorization :=
  .ofList (all.map fun authorization => (authorization.id, authorization))

theorem getElem?_byId_eq_some_iff {spelling : String}
    {authorization : Authorization} :
    byId[spelling]? = some authorization ↔ spelling = authorization.id := by
  let entries := all.map fun authorization => (authorization.id, authorization)
  have distinct : entries.Pairwise fun entry other =>
      (entry.1 == other.1) = false := by
    have ids : (all.map id).Pairwise fun id other => (id == other) = false :=
      nodup_ids.imp beq_false_of_ne
    rw [List.pairwise_map] at ids ⊢
    exact ids
  have found (listed : Authorization) : byId[listed.id]? = some listed :=
    Std.HashMap.getElem?_ofList_of_mem (beq_self_eq_true listed.id) distinct
      (List.mem_map_of_mem (mem_all listed))
  constructor
  · intro held
    by_cases listed : spelling ∈ all.map id
    · obtain ⟨other, -, rfl⟩ := List.mem_map.mp listed
      rw [found other] at held
      cases held
      rfl
    · have absent : (entries.map Prod.fst).contains spelling = false := by
        rw [List.map_map, ← Bool.not_eq_true, List.contains_iff_mem]
        exact listed
      have missing : byId[spelling]? = none :=
        Std.HashMap.getElem?_ofList_of_contains_eq_false absent
      rw [missing] at held
      cases held
  · rintro rfl
    exact found authorization

theorem toOption_ofId (text : String) :
    (ofId text).toOption = byId[Text.canonical text]? := by
  cases found : ofId text with
  | ok authorization =>
      have spelled := ofId_eq_ok_iff.mp found
      exact (getElem?_byId_eq_some_iff.mpr spelled).symm
  | error unknown =>
      symm
      apply Option.eq_none_iff_forall_ne_some.mpr
      intro authorization held
      have spelled := getElem?_byId_eq_some_iff.mp held
      rw [ofId_eq_ok_iff.mpr spelled] at found
      cases found

/-! ## Reading a text -/

/-- How a text is read, given what is left of it without the blanks around
it. -/
structure ReadsAs (text core : String) : Prop where
  known (authorization : Authorization) : ofId text = .ok authorization ↔
    Text.raise core = authorization.id
  tabled : (ofId text).toOption = byId[Text.raise core]?
  /-- There is no other failure, and it keeps the blanks. -/
  unknown (failure : UnknownName) : ofId text = .error failure ↔
    failure.kind = "authorization" ∧ failure.text = text ∧
      ∀ authorization : Authorization, Text.raise core ≠ authorization.id

/-- Every text is read by what stands in the table of ids, where every
authorization stands under its own id. -/
theorem unambiguous_ids :
    Function.Injective id ∧
      (∀ authorization : Authorization,
        byId[authorization.id]? = some authorization ∧
          ofId authorization.id = .ok authorization) ∧
      ∀ text : String, ∃ core : String,
        Text.Trims text.toList core.toList ∧ ReadsAs text core := by
  refine ⟨id_injective, ?_, ?_⟩
  · intro authorization
    exact ⟨getElem?_byId_eq_some_iff.mpr rfl, ofId_id authorization⟩
  · intro text
    refine ⟨Text.trim text, Text.trims_ofList text.toList, ?_⟩
    constructor
    case known =>
      intro authorization
      exact ofId_eq_ok_iff
    case tabled =>
      exact toOption_ofId text
    case unknown =>
      intro failure
      have named : failure = .authorization text ↔
          failure.kind = "authorization" ∧ failure.text = text := by
        cases failure <;> simp [UnknownName.kind, UnknownName.text]
      rw [ofId_eq_error_iff, named, and_assoc]
      simp only [ne_eq, ofId_eq_ok_iff]
      rfl

-- Blanks beyond ASCII are dropped, and a letter beyond ASCII has no variant.
example : ofId "\u2003view.Use\u00a0" = .ok .viewUse ∧
    ofId " view.u\u017fe" = .error (.authorization " view.u\u017fe") := by
  decide +kernel

end AccessControl.Authorization
