/-!
# JSON values

A value is kept as far as documents of this library tell values apart: a
numeral that denotes an integer is an integer, any other numeral is its text.
-/

namespace AccessControl

/-- A JSON value. -/
inductive Json where
  | null
  | boolean (value : Bool)
  | integer (value : Int)
  /-- A numeral with a fraction or an exponent, or the negative zero. -/
  | decimal (numeral : String)
  | text (value : String)
  | array (items : List Json)
  | object (members : List (String × Json))
deriving Inhabited, Repr

namespace Json

/-- The value of an object's member. -/
def member? (name : String) : Json → Option Json
  | .object members => members.lookup name
  | _ => none

/-- The text that a value is. -/
def text? : Json → Option String
  | .text value => some value
  | _ => none

/-- The integer that a value is. -/
def integer? : Json → Option Int
  | .integer value => some value
  | _ => none

/-- The items of an array. -/
def items? : Json → Option (List Json)
  | .array items => some items
  | _ => none

end Json

end AccessControl
