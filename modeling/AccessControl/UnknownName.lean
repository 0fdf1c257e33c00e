/-!
# Names without a counterpart in the catalog

Resource types and authorizations arrive as text, from the store and from
callers.  A text that names none of them is kept as it was written.
-/

namespace AccessControl

/-- A text that should have named something in the catalog and does not. -/
inductive UnknownName where
  | resourceType (text : String)
  | authorization (text : String)
deriving DecidableEq, Repr

namespace UnknownName

/-- What the text should have named. -/
def kind : UnknownName → String
  | .resourceType _ => "resource type"
  | .authorization _ => "authorization"

/-- The text as it was written, blanks included. -/
def text : UnknownName → String
  | .resourceType text => text
  | .authorization text => text

/-- The sentence shown to callers and written to the log. -/
def message (unknown : UnknownName) : String :=
  "unknown " ++ unknown.kind ++ " name '" ++ unknown.text ++ "'"

end UnknownName

end AccessControl
