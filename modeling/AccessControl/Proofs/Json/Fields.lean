import AccessControl.Json.Schema
import AccessControl.Proofs.Json.Writing
import AccessControl.Proofs.Traversal

/-!
# The fields of a record

What a record makes of the members of an object is said field by field: every
field looks for the members of its name, and falls back if there are none.
-/

namespace AccessControl.Json

/-- A field of a record. -/
structure Field where
  name : String
  schema : Schema
  fallback : Option Json

/-- The reader of a field. -/
def Field.reader (field : Field) : FieldReader where
  name := field.name
  read := field.schema.read
  fallback := field.fallback

/-- The value of a field among the members of an object. -/
def Field.pick (field : Field) (members : List (String × Json)) : Option Json :=
  match named field.name members with
  | [] => field.fallback
  | [value] => field.schema.conform value
  | _ => none

/-- The fields of a record as a list. -/
def Fields.toList : Fields → List Field
  | .none => []
  | .field name schema fallback later =>
      ⟨name, schema, fallback⟩ :: later.toList

/-- The names of the fields. -/
def Fields.names (fields : Fields) : List String :=
  fields.toList.map Field.name

theorem Fields.readers_eq_map (fields : Fields) :
    fields.readers = fields.toList.map Field.reader := by
  cases fields with
  | none => rw [Fields.readers]; rfl
  | field name schema fallback later =>
      rw [Fields.readers, later.readers_eq_map]
      rfl

theorem named_cons_self (name : String) (value : Json)
    (later : List (String × Json)) :
    named name ((name, value) :: later) = value :: named name later := by
  simp [named]

theorem named_cons_of_ne {name other : String} (different : other ≠ name)
    (value : Json) (later : List (String × Json)) :
    named name ((other, value) :: later) = named name later := by
  simp [named, different]

theorem named_eq_nil_of_ne {name : String} {members : List (String × Json)}
    (absent : ∀ member ∈ members, member.1 ≠ name) : named name members = [] := by
  simpa [named] using absent

theorem named_append (name : String) (members others : List (String × Json)) :
    named name (members ++ others) = named name members ++ named name others := by
  simp [named]

theorem named_perm {members others : List (String × Json)}
    (perm : others.Perm members) (name : String) :
    (named name others).Perm (named name members) :=
  (perm.filter _).map _

/-- A value for every field, in order. -/
def Assigns (value : Field → Option Json) (fields : List Field)
    (members : List (String × Json)) : Prop :=
  List.Forall₂ (fun field member =>
    member.1 = field.name ∧ value field = some member.2) fields members

theorem assigns_cons_iff {value : Field → Option Json} {field : Field}
    {later : List Field} {members : List (String × Json)} :
    Assigns value (field :: later) members ↔
      ∃ found others, value field = some found ∧ Assigns value later others ∧
        members = (field.name, found) :: others := by
  unfold Assigns
  rw [List.forall₂_cons_left_iff]
  constructor
  · rintro ⟨⟨_, found⟩, others, ⟨rfl, valued⟩, assigned, rfl⟩
    exact ⟨found, others, valued, assigned, rfl⟩
  · rintro ⟨found, others, valued, assigned, rfl⟩
    exact ⟨_, others, ⟨rfl, valued⟩, assigned, rfl⟩

theorem Assigns.imp {value other : Field → Option Json} {fields : List Field}
    {members : List (String × Json)}
    (implied : ∀ field ∈ fields, ∀ {found},
      value field = some found → other field = some found)
    (assigned : Assigns value fields members) : Assigns other fields members := by
  induction assigned with
  | nil => exact .nil
  | cons first _ induction =>
      obtain ⟨firstImplied, laterImplied⟩ := List.forall_mem_cons.mp implied
      exact .cons ⟨first.1, firstImplied first.2⟩ (induction laterImplied)

theorem Assigns.exists_value {value : Field → Option Json} {fields : List Field}
    {members : List (String × Json)} (assigned : Assigns value fields members) :
    ∀ field ∈ fields, ∃ found, value field = some found := by
  induction assigned with
  | nil => exact List.forall_mem_nil _
  | cons first _ induction =>
      exact List.forall_mem_cons.mpr ⟨⟨_, first.2⟩, induction⟩

theorem bind_member_eq_some_iff {name : String} {value : Option Json}
    {later : Option (List (String × Json))} {members : List (String × Json)} :
    (do
      let found ← value
      let others ← later
      pure ((name, found) :: others)) = some members ↔
      ∃ found others, value = some found ∧ later = some others ∧
        members = (name, found) :: others := by
  cases value <;> cases later <;> simp [eq_comm]

theorem Field.pick_eq_some_iff {field : Field} {members : List (String × Json)}
    {picked : Json} :
    field.pick members = some picked ↔
      named field.name members = [] ∧ field.fallback = some picked ∨
        ∃ value, named field.name members = [value] ∧
          field.schema.conform value = some picked := by
  unfold Field.pick
  rcases named field.name members with _ | ⟨value, _ | ⟨other, more⟩⟩ <;> simp

theorem Fields.fill_field (name : String) (schema : Schema)
    (fallback : Option Json) (later : Fields) (members : List (String × Json)) :
    (Fields.field name schema fallback later).fill members = (do
      let found ← Field.pick ⟨name, schema, fallback⟩ members
      let others ← later.fill members
      pure ((name, found) :: others)) := by
  rw [Fields.fill, Field.pick]
  dsimp only
  rcases named name members with _ | ⟨value, _ | ⟨other, more⟩⟩ <;> rfl

theorem Fields.fill_eq_some_iff {fields : Fields}
    {members filled : List (String × Json)} :
    fields.fill members = some filled ↔
      Assigns (fun field => field.pick members) fields.toList filled := by
  cases fields with
  | none => simp [Fields.fill, Fields.toList, Assigns, eq_comm]
  | field name schema fallback later =>
      rw [Fields.fill_field, bind_member_eq_some_iff, Fields.toList,
        assigns_cons_iff]
      simp only [later.fill_eq_some_iff]

theorem completed_eq_some_iff {found filled : List (String × Json)}
    {fields : List Field} :
    completed found (fields.map Field.reader) = some filled ↔
      Assigns (fun field => (found.lookup field.name).or field.fallback) fields
        filled := by
  induction fields generalizing filled with
  | nil =>
      constructor
      · rintro ⟨⟩
        exact .nil
      · rintro ⟨⟩
        rfl
  | cons field later induction =>
      rw [List.map_cons, completed, bind_member_eq_some_iff, assigns_cons_iff]
      constructor
      · rintro ⟨value, others, valued, rest, rfl⟩
        exact ⟨value, others, valued, induction.mp rest, rfl⟩
      · rintro ⟨value, others, valued, rest, rfl⟩
        exact ⟨value, others, valued, induction.mpr rest, rfl⟩

/-! ## Regular schemas -/

mutual

/-- Schemas of documents with a fixed shape: integers fit in a word, the fields
of a record have names of their own, and a fallback can be written. -/
def Schema.Regular : Schema → Prop
  | .integer low high =>
      low.natAbs < Nat.pow 2 64 ∧ high.natAbs < Nat.pow 2 64
  | .list item => item.Regular
  | .object => False
  | .optional inner => inner.Regular
  | .record fields => fields.names.Nodup ∧ fields.Regular
  | _ => True

def Fields.Regular : Fields → Prop
  | .none => True
  | .field _ schema fallback later =>
      (∀ value ∈ fallback, value.WellFormed) ∧ schema.Regular ∧ later.Regular

end

end AccessControl.Json
