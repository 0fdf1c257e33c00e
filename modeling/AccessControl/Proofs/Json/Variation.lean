import Mathlib.Data.List.Nodup
import AccessControl.Proofs.Json.Fields

/-!
# Variations of a document

A document in normal form may be varied without a change of its meaning: at any
depth the members of an object may be reordered, members that no field asks for
may be added, and members that hold their fallback may be left out.
-/

namespace AccessControl.Json

mutual

/-- A document in normal form, and a variation of it. -/
inductive Schema.Varies : Schema → Json → Json → Prop where
  | integer {low high n : Int} :
      low ≤ n → n ≤ high →
      Schema.Varies (.integer low high) (.integer n) (.integer n)
  | boolean {value : Bool} :
      Schema.Varies .boolean (.boolean value) (.boolean value)
  | text {s : String} : Schema.Varies .text (.text s) (.text s)
  | word {accepts : String → Bool} {s : String} :
      accepts s = true → Schema.Varies (.word accepts) (.text s) (.text s)
  | choice {names : List String} {name : String} :
      name ∈ names → Schema.Varies (.choice names) (.text name) (.text name)
  | list {item : Schema} {items others : List Json} :
      item.VariesEach items others →
      Schema.Varies (.list item) (.array items) (.array others)
  | absent {inner : Schema} : Schema.Varies (.optional inner) .null .null
  | present {inner : Schema} {document other : Json} :
      inner.Varies document other → other ≠ .null →
      Schema.Varies (.optional inner) document other
  | record {fields : Fields} {members kept added others : List (String × Json)} :
      fields.Varies members kept →
      (∀ member ∈ added, member.1 ∉ fields.names) →
      others.Perm (kept ++ added) →
      Schema.Varies (.record fields) (.object members) (.object others)

/-- Documents varied one by one. -/
inductive Schema.VariesEach : Schema → List Json → List Json → Prop where
  | nil {item : Schema} : item.VariesEach [] []
  | cons {item : Schema} {document other : Json} {later others : List Json} :
      item.Varies document other → item.VariesEach later others →
      item.VariesEach (document :: later) (other :: others)

/-- The members of all fields, varied one by one, and those that are kept. -/
inductive Fields.Varies :
    Fields → List (String × Json) → List (String × Json) → Prop where
  | none : Fields.Varies .none [] []
  | kept {name : String} {schema : Schema} {fallback : Option Json}
      {later : Fields} {value other : Json} {members kept : List (String × Json)} :
      schema.Varies value other → later.Varies members kept →
      Fields.Varies (.field name schema fallback later)
        ((name, value) :: members) ((name, other) :: kept)
  | omitted {name : String} {schema : Schema} {later : Fields} {value : Json}
      {members kept : List (String × Json)} :
      later.Varies members kept →
      Fields.Varies (.field name schema (some value) later)
        ((name, value) :: members) kept

end

theorem Schema.VariesEach.forall₂ {item : Schema} {items others : List Json}
    (varies : item.VariesEach items others) :
    List.Forall₂ item.Varies items others := by
  induction items generalizing others with
  | nil =>
      cases varies
      exact .nil
  | cons first later induction =>
      cases varies with
      | cons firstVaries laterVaries =>
          exact .cons firstVaries (induction laterVaries)

theorem Fields.Varies.mem_names {members kept : List (String × Json)} :
    ∀ {fields : Fields}, fields.Varies members kept →
      ∀ member ∈ kept, member.1 ∈ fields.names
  | .none, varies => by
      cases varies
      exact List.forall_mem_nil _
  | .field name schema fallback later, varies => by
      intro member isKept
      cases varies with
      | kept _ others =>
          rcases List.mem_cons.mp isKept with rfl | isLater
          · exact List.mem_cons_self
          · exact List.mem_cons_of_mem _ (others.mem_names member isLater)
      | omitted others =>
          exact List.mem_cons_of_mem _ (others.mem_names member isKept)

/-- A name that no field has is not among the members that are kept. -/
theorem Fields.Varies.named_eq_nil {fields : Fields}
    {members kept : List (String × Json)} (varies : fields.Varies members kept)
    {name : String} (fresh : name ∉ fields.names) : named name kept = [] := by
  apply named_eq_nil_of_ne
  rintro member isKept rfl
  exact fresh (varies.mem_names member isKept)

/-! ## Meaning -/

mutual

theorem Schema.wellFormed_of_varies (schema : Schema) (regular : schema.Regular)
    {document other : Json} (varies : schema.Varies document other) :
    document.WellFormed := by
  cases schema with
  | list item =>
      cases varies with
      | list each =>
          have itemsVary := each.forall₂.imp fun _ _ varies =>
            And.intro (item.wellFormed_of_varies regular varies) varies
          exact .array ((List.forall₂_and_left _ _).mp itemsVary).1
  | optional inner =>
      cases varies with
      | absent => exact .null
      | present innerVaries _ =>
          exact inner.wellFormed_of_varies regular innerVaries
  | record fields =>
      cases varies with
      | record fieldsVary _ _ =>
          exact .object (fields.wellFormed_of_varies regular.2 fieldsVary)
  | _ => cases varies <;> constructor

theorem Fields.wellFormed_of_varies (fields : Fields) (regular : fields.Regular)
    {members kept : List (String × Json)} (varies : fields.Varies members kept) :
    ∀ member ∈ members, member.2.WellFormed := by
  cases fields with
  | none =>
      cases varies
      exact List.forall_mem_nil _
  | field name schema fallback later =>
      obtain ⟨fallbackWellFormed, schemaRegular, laterRegular⟩ := regular
      cases varies with
      | kept valueVaries laterVary =>
          exact List.forall_mem_cons.mpr
            ⟨schema.wellFormed_of_varies schemaRegular valueVaries,
              later.wellFormed_of_varies laterRegular laterVary⟩
      | omitted laterVary =>
          exact List.forall_mem_cons.mpr
            ⟨fallbackWellFormed _ rfl,
              later.wellFormed_of_varies laterRegular laterVary⟩

end

mutual

/-- A variation is accepted for the document that it varies. -/
theorem Schema.conform_of_varies (schema : Schema) (regular : schema.Regular)
    {document other : Json} (varies : schema.Varies document other) :
    schema.conform other = some document := by
  cases schema with
  | list item =>
      cases varies with
      | list each =>
          have accepted := each.forall₂.imp fun _ _ varies =>
            item.conform_of_varies regular varies
          rw [Schema.conform, Traversal.mapM_eq_some_iff.mpr accepted.flip]
          rfl
  | optional inner =>
      cases varies with
      | absent => rw [Schema.conform]
      | present innerVaries something =>
          rw [Schema.conform, inner.conform_of_varies regular innerVaries]
          exact something
  | record fields =>
      cases varies with
      | @record _ members kept added others fieldsVary unknown perm =>
          have same : ∀ name ∈ fields.names,
              (named name others).Perm (named name kept) := by
            intro name asked
            have nothing : named name added = [] := by
              apply named_eq_nil_of_ne
              rintro member isAdded rfl
              exact unknown member isAdded asked
            have rearranged := named_perm perm name
            rwa [named_append, nothing, List.append_nil] at rearranged
          have assigned :=
            fields.assigns_of_varies regular.1 regular.2 fieldsVary same
          rw [Schema.conform, Fields.fill_eq_some_iff.mpr assigned]
          rfl
  | _ => cases varies <;> simp_all [Schema.conform]

/-- If the members are those that are kept, up to their order and to members
that no field asks for, every field gets its value. -/
theorem Fields.assigns_of_varies (fields : Fields) (distinct : fields.names.Nodup)
    (regular : fields.Regular) {members kept : List (String × Json)}
    (varies : fields.Varies members kept) {others : List (String × Json)}
    (same : ∀ name ∈ fields.names, (named name others).Perm (named name kept)) :
    Assigns (fun field => field.pick others) fields.toList members := by
  cases fields with
  | none =>
      cases varies
      exact .nil
  | field name schema fallback later =>
      obtain ⟨fresh, laterDistinct⟩ := List.nodup_cons.mp distinct
      obtain ⟨_, schemaRegular, laterRegular⟩ := regular
      obtain ⟨firstSame, laterSame⟩ := List.forall_mem_cons.mp same
      rw [Fields.toList, assigns_cons_iff]
      cases varies with
      | @kept _ _ _ _ value other members kept valueVaries laterVary =>
          rw [named_cons_self, laterVary.named_eq_nil fresh] at firstSame
          have present := List.perm_singleton.mp firstSame
          have accepted := schema.conform_of_varies schemaRegular valueVaries
          have picked : Field.pick ⟨name, schema, fallback⟩ others = some value :=
            Field.pick_eq_some_iff.mpr (.inr ⟨other, present, accepted⟩)
          refine ⟨value, members, picked, ?_, rfl⟩
          apply later.assigns_of_varies laterDistinct laterRegular laterVary
          intro asked isLater
          have different : name ≠ asked := by
            rintro rfl
            exact fresh isLater
          rw [← named_cons_of_ne different other kept]
          exact laterSame asked isLater
      | @omitted _ _ _ value members _ laterVary =>
          rw [laterVary.named_eq_nil fresh] at firstSame
          have absent := List.perm_nil.mp firstSame
          have picked : Field.pick ⟨name, schema, some value⟩ others = some value :=
            Field.pick_eq_some_iff.mpr (.inl ⟨absent, rfl⟩)
          exact ⟨value, members, picked,
            later.assigns_of_varies laterDistinct laterRegular laterVary laterSame,
            rfl⟩

end

end AccessControl.Json
