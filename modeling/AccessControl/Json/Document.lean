import AccessControl.Json.Schema
import AccessControl.Json.Printer

/-!
# Documents

A type whose values are exchanged as JSON has a schema, a way to write a value
and a way to read it back from a document in the schema's normal form.
-/

namespace AccessControl.Json

/-- Types whose values are exchanged as JSON. -/
class Document (α : Type) where
  schema : Schema
  encode : α → Json
  /-- Read a value from a document in normal form. -/
  decode : Json → Option α

namespace Document

variable {α : Type} [Document α]

/-- Read a value from any document that the schema accepts. -/
def ofJson? (document : Json) : Option α := do
  let normal ← (schema α).conform document
  decode normal

/-- Read a value from a text.  A document in normal form has a value, so what
`decode` refuses is no document of the schema. -/
def ofText (text : String) : Except ReadFault α := do
  let normal ← (schema α).parse text
  match decode normal with
  | some value => pure value
  | none => .error .mismatch

/-- The text of a value. -/
def toText (value : α) : String :=
  (encode value).render

end Document

namespace Schema

/-- The ids that records carry. -/
def id : Schema :=
  .integer Int64.minValue.toInt Int64.maxValue.toInt

/-- The ids of types, which are shorter. -/
def typeId : Schema :=
  .integer Int32.minValue.toInt Int32.maxValue.toInt

end Schema

instance : Document Int64 where
  schema := Schema.id
  encode id := .integer id.toInt
  decode
    | .integer n => some (Int64.ofInt n)
    | _ => none

instance : Document Int32 where
  schema := Schema.typeId
  encode id := .integer id.toInt
  decode
    | .integer n => some (Int32.ofInt n)
    | _ => none

instance : Document Bool where
  schema := .boolean
  encode := .boolean
  decode
    | .boolean value => some value
    | _ => none

instance : Document String where
  schema := .text
  encode := .text
  decode
    | .text s => some s
    | _ => none

instance {α : Type} [Document α] : Document (List α) where
  schema := .list (Document.schema α)
  encode values := .array (values.map Document.encode)
  decode
    | .array items => items.mapM Document.decode
    | _ => none

instance {α : Type} [Document α] : Document (Option α) where
  schema := .optional (Document.schema α)
  encode
    | some value => Document.encode value
    | none => .null
  decode
    | .null => some none
    | document => (Document.decode document).map some

namespace Fields

/-- A field that must be present, before the others. -/
def required (name : String) (α : Type) [Document α] (later : Fields) : Fields :=
  .field name (Document.schema α) Option.none later

/-- A field that may be missing, before the others. -/
def defaulted {α : Type} [Document α] (name : String) (fallback : α)
    (later : Fields) : Fields :=
  .field name (Document.schema α) (some (Document.encode fallback)) later

end Fields

end AccessControl.Json
