import AccessControl.Json.Records
import AccessControl.Proofs.Catalog.AuthorizationIds
import AccessControl.Proofs.Json.RecordReading
import AccessControl.Proofs.Json.Variation

/-!
# Survival of records

The written form of a value is a document in normal form, so that the value is
read back from every variation of it, checked as a value or as a text.
-/

namespace AccessControl.Json

open Document

/-- Documents in normal form for all values, from which the values are read. -/
class LawfulDocument (α : Type) [Document α] : Prop where
  regular : (schema α).Regular
  varies_encode (value : α) : (schema α).Varies (encode value) (encode value)
  decode_encode (value : α) : decode (encode value) = some value

open LawfulDocument

/-! ## Reading back -/

section

variable {α : Type} [Document α] [LawfulDocument α]

theorem wellFormed_encode (value : α) : (encode value).WellFormed :=
  (schema α).wellFormed_of_varies regular (varies_encode value)

theorem ofJson?_of_varies {value : α} {document : Json}
    (varies : (schema α).Varies (encode value) document) :
    ofJson? document = some value := by
  rw [ofJson?, (schema α).conform_of_varies regular varies]
  exact decode_encode value

theorem ofText_of_varies {value : α} {document : Json}
    (varies : (schema α).Varies (encode value) document)
    (wellFormed : document.WellFormed) :
    ofText document.render = .ok value := by
  have accepted := (schema α).conform_of_varies regular varies
  have parsed := (schema α).parse_render regular accepted wellFormed
  simp [ofText, parsed, decode_encode, bind, Except.bind, pure, Except.pure]

theorem ofJson?_encode (value : α) : ofJson? (encode value) = some value :=
  ofJson?_of_varies (varies_encode value)

theorem ofText_toText (value : α) : ofText (toText value) = .ok value :=
  ofText_of_varies (varies_encode value) (wellFormed_encode value)

end

/-- Values that survive being exchanged.  A value is read from its document and
from every variation of it, and reading is not changed by writing the value that
was read and reading it again. -/
structure Survives (α : Type) [Document α] : Prop where
  encoded (value : α) : ofJson? (encode value) = some value
  written (value : α) : ofText (toText value) = .ok value
  varied {value : α} {document : Json} :
    (schema α).Varies (encode value) document → ofJson? document = some value
  variedText {value : α} {document : Json} :
    (schema α).Varies (encode value) document → document.WellFormed →
      ofText document.render = .ok value
  reread (document : Json) :
    (ofJson? document).bind (fun value : α => ofJson? (encode value)) =
      (ofJson? document : Option α)
  rereadText (text : String) :
    (ofText text).bind (fun value : α => ofText (toText value)) =
      (ofText text : Except ReadFault α)

theorem LawfulDocument.survives (α : Type) [Document α] [LawfulDocument α] :
    Survives α where
  encoded := ofJson?_encode
  written := ofText_toText
  varied := ofJson?_of_varies
  variedText := ofText_of_varies
  reread document := by simp [ofJson?_encode]
  rereadText text := by
    cases (ofText text : Except ReadFault α) with
    | error fault => rfl
    | ok value => exact ofText_toText value

/-! ## Records -/

theorem Schema.Varies.of_fields {fields : Fields} {members : List (String × Json)}
    (varies : fields.Varies members members) :
    (Schema.record fields).Varies (.object members) (.object members) := by
  apply Schema.Varies.record varies (List.forall_mem_nil _)
  rw [List.append_nil]

section

variable {α : Type} [Document α] [LawfulDocument α]

theorem bind_decode_encode {β : Type} (value : α) (next : α → Option β) :
    (decode (encode value) >>= next) = next value := by
  rw [decode_encode]
  rfl

variable {name : String} {later : Fields}

theorem Fields.Regular.required (laterRegular : later.Regular) :
    (Fields.required name α later).Regular := by
  refine ⟨?_, regular, laterRegular⟩
  rintro value ⟨⟩

theorem Fields.Regular.defaulted {fallback : α} (laterRegular : later.Regular) :
    (Fields.defaulted name fallback later).Regular := by
  refine ⟨?_, regular, laterRegular⟩
  rintro value ⟨⟩
  exact wellFormed_encode fallback

theorem Fields.Varies.encoded {fallback : Option Json}
    {members kept : List (String × Json)} (value : α)
    (varies : later.Varies members kept) :
    (Fields.field name (schema α) fallback later).Varies
      ((name, encode value) :: members) ((name, encode value) :: kept) :=
  .kept (varies_encode value) varies

end

/-! ## Instances -/

instance : LawfulDocument Int64 where
  regular := ⟨by decide, by decide⟩
  varies_encode id := .integer id.minValue_le_toInt id.toInt_le
  decode_encode id := by
    change some (Int64.ofInt id.toInt) = some id
    rw [Int64.ofInt_toInt]

instance : LawfulDocument String where
  regular := trivial
  varies_encode _ := .text
  decode_encode _ := rfl

instance {α : Type} [Document α] [LawfulDocument α] : LawfulDocument (List α) where
  regular := regular (α := α)
  varies_encode values := by
    apply Schema.Varies.list
    induction values with
    | nil => exact .nil
    | cons value later induction => exact .cons (varies_encode value) induction
  decode_encode values := by
    change (values.map encode).mapM decode = some values
    rw [Traversal.mapM_eq_some_iff, List.forall₂_map_left_iff, List.forall₂_same]
    exact fun value _ => decode_encode value

section

variable {α : Type} [Document α]

theorem decode_option_of_ne_null {document : Json} (present : document ≠ .null) :
    (decode document : Option (Option α)) =
      (decode document : Option α).map some := by
  cases document with
  | null => exact absurd rfl present
  | _ => rfl

theorem lawfulDocument_option [LawfulDocument α]
    (present : ∀ value : α, encode value ≠ .null) : LawfulDocument (Option α) where
  regular := regular (α := α)
  varies_encode value := by
    cases value with
    | none => exact .absent
    | some value => exact .present (varies_encode value) (present value)
  decode_encode value := by
    cases value with
    | none => rfl
    | some value =>
        have read := decode_option_of_ne_null (α := α) (present value)
        rw [decode_encode] at read
        exact read

end

instance : LawfulDocument (Option String) :=
  lawfulDocument_option fun _ => Json.noConfusion

instance : LawfulDocument (Option Int64) :=
  lawfulDocument_option fun _ => Json.noConfusion

instance : LawfulDocument ResourceType where
  regular := trivial
  varies_encode type := by
    apply Schema.Varies.choice
    cases type <;> decide
  decode_encode type := by cases type <;> rfl

instance : LawfulDocument Authorization where
  regular := trivial
  varies_encode authorization := by
    apply Schema.Varies.word
    rw [Authorization.ofId_id]
    rfl
  decode_encode authorization := by
    change (Authorization.ofId authorization.id).toOption = some authorization
    rw [Authorization.ofId_id]
    rfl

instance : LawfulDocument ResourceRef where
  regular := ⟨by decide, .required (.required trivial)⟩
  varies_encode _ := .of_fields (.encoded _ (.encoded _ .none))
  decode_encode _ := (bind_decode_encode _ _).trans (bind_decode_encode _ _)

instance : LawfulDocument Entitlement where
  regular := ⟨by decide, .required (.required trivial)⟩
  varies_encode _ := .of_fields (.encoded _ (.encoded _ .none))
  decode_encode _ := (bind_decode_encode _ _).trans (bind_decode_encode _ _)

instance : LawfulDocument Permission where
  regular := ⟨by decide, .required (.required (.defaulted trivial))⟩
  varies_encode _ := .of_fields (.encoded _ (.encoded _ (.encoded _ .none)))
  decode_encode _ :=
    (bind_decode_encode _ _).trans <|
      (bind_decode_encode _ _).trans (bind_decode_encode _ _)

instance : LawfulDocument Resource where
  regular := ⟨by decide, .required (.required trivial)⟩
  varies_encode _ := .of_fields (.encoded _ (.encoded _ .none))
  decode_encode _ := (bind_decode_encode _ _).trans (bind_decode_encode _ _)

instance : LawfulDocument Holder where
  regular := ⟨by decide, .required (.required trivial)⟩
  varies_encode _ := .of_fields (.encoded _ (.encoded _ .none))
  decode_encode _ := (bind_decode_encode _ _).trans (bind_decode_encode _ _)

instance : LawfulDocument Privilege where
  regular := ⟨by decide, .required (.required (.required (.required trivial)))⟩
  varies_encode _ :=
    .of_fields (.encoded _ (.encoded _ (.encoded _ (.encoded _ .none))))
  decode_encode _ :=
    (bind_decode_encode _ _).trans <| (bind_decode_encode _ _).trans <|
      (bind_decode_encode _ _).trans (bind_decode_encode _ _)

instance : LawfulDocument Caller where
  regular := ⟨by decide, .required (.required trivial)⟩
  varies_encode _ := .of_fields (.encoded _ (.encoded _ .none))
  decode_encode _ := (bind_decode_encode _ _).trans (bind_decode_encode _ _)

instance : LawfulDocument Question where
  regular := ⟨by decide, .defaulted (.defaulted (.defaulted trivial))⟩
  varies_encode _ := .of_fields (.encoded _ (.encoded _ (.encoded _ .none)))
  decode_encode _ :=
    (bind_decode_encode _ _).trans <|
      (bind_decode_encode _ _).trans (bind_decode_encode _ _)

/-! ## Every record -/

theorem records_survive :
    Survives Caller ∧ Survives Privilege ∧ Survives Permission ∧
      Survives Entitlement ∧ Survives Resource ∧ Survives Holder ∧
      Survives ResourceRef ∧ Survives ResourceType ∧ Survives Authorization :=
  ⟨survives _, survives _, survives _, survives _, survives _, survives _,
    survives _, survives _, survives _⟩

namespace Rearranged

/-- A permission that records no authorizations. -/
def permission : Permission where
  id := 3
  name := "AMBARI.ADMINISTRATOR"

def privilege : Privilege where
  id := 7
  holder := ⟨5, "USER"⟩
  resource := ⟨1, "ADMIN"⟩
  permission := permission

def caller : Caller where
  name := "alice"
  privileges := [privilege, privilege]

/-- The empty list of authorizations is left out, and no field asks for the last
member, which comes first. -/
def permissionDocument : Json :=
  object ([("id", integer 3), ("name", text "AMBARI.ADMINISTRATOR")] ++
    [("sort order", decimal "-1.5e3")]).reverse

def privilegeDocument : Json :=
  object ([("id", integer 7), ("principal", encode privilege.holder),
    ("resource", encode privilege.resource),
    ("permission", permissionDocument)] ++ [("revoked", boolean false)]).reverse

/-- The first copy of the privilege is written as usual, the second one is not. -/
def callerDocument : Json :=
  object ([("name", text "alice"),
    ("privileges", array [encode privilege, privilegeDocument])] ++
    [("Name", object [("name", array [null, boolean true])]),
      ("Name", text "")]).reverse

theorem permission_varies :
    (schema Permission).Varies (encode permission) permissionDocument := by
  refine .record (.encoded permission.id (.encoded permission.name (.omitted .none)))
    ?_ (List.reverse_perm _)
  decide

theorem privilege_varies :
    (schema Privilege).Varies (encode privilege) privilegeDocument := by
  refine .record (.encoded privilege.id (.encoded privilege.holder
      (.encoded privilege.resource (.kept permission_varies .none))))
    ?_ (List.reverse_perm _)
  decide

theorem caller_varies : (schema Caller).Varies (encode caller) callerDocument := by
  have privileges : (schema (List Privilege)).Varies (encode caller.privileges)
      (.array [encode privilege, privilegeDocument]) :=
    .list (.cons (varies_encode privilege) (.cons privilege_varies .nil))
  refine .record (.encoded caller.name (.kept privileges .none)) ?_
    (List.reverse_perm _)
  decide

theorem wellFormed_callerDocument : callerDocument.WellFormed := by
  have digit {c : Char} (isDigit : c.isDigit = true) : Numeral.IsRun [c] :=
    ⟨List.cons_ne_nil c [], List.forall_mem_singleton.mpr isDigit⟩
  have numeral : Numeral.WellFormed
      ⟨true, ['1'], some ['5'], some (false, ['3'])⟩ := by
    constructor
    case whole => exact digit rfl
    case leading => exact .inr (by decide)
    case fraction =>
      rintro run ⟨⟩
      exact digit rfl
    case exponent =>
      rintro signed ⟨⟩
      exact digit rfl
  have decimal : WellFormed (.decimal "-1.5e3") := .decimal numeral
  simp [callerDocument, privilegeDocument, permissionDocument,
    wellFormed_object_iff, wellFormed_array_iff, wellFormed_encode, decimal,
    WellFormed.null, WellFormed.boolean, WellFormed.integer, WellFormed.text]

theorem caller_read_from_document :
    ofJson? callerDocument = some caller ∧
      ofText callerDocument.render = .ok caller :=
  ⟨records_survive.1.varied caller_varies,
    records_survive.1.variedText caller_varies wellFormed_callerDocument⟩

end Rearranged

end AccessControl.Json
