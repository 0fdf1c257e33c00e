import AccessControl.Text
import AccessControl.UnknownName

/-!
# Resource types

A resource is the administrative root, a cluster or a view instance.  View
definitions register resource types of their own, written `NAME{version}`;
every such name stands for the view type.
-/

namespace AccessControl

/-- What a privilege is granted on. -/
inductive ResourceType where
  /-- The administrative root; privileges on it reach every resource. -/
  | admin
  | cluster
  | view
deriving DecidableEq, Repr

namespace ResourceType

/-- The name under which the store keeps the type. -/
def name : ResourceType → String
  | .admin => "AMBARI"
  | .cluster => "CLUSTER"
  | .view => "VIEW"

/-- The word for the type in exchanged documents. -/
def code : ResourceType → String
  | .admin => "ADMIN"
  | .cluster => "CLUSTER"
  | .view => "VIEW"

/-- Every resource type. -/
def all : List ResourceType :=
  [.admin, .cluster, .view]

/-- The type with a given word in exchanged documents. -/
def ofCode? (word : String) : Option ResourceType :=
  all.find? fun type => type.code == word

/-- `NAME{version}`: some text before the first opening brace, some text after
it, and a closing brace at the very end. -/
def isViewDefinition (cs : List Char) : Bool :=
  match Text.cutAt? '\x7b' cs with
  | some (name, version) =>
      !name.isEmpty && version.getLast? == some '\x7d' && 1 < version.length
  | none => false

/-- The type that a name stands for.  Blanks around the name and the case of
ASCII letters do not matter. -/
def ofName (name : String) : Except UnknownName ResourceType :=
  let spelling := Text.canonical name
  if spelling = "AMBARI" ∨ spelling = "ADMIN" then
    .ok .admin
  else if spelling = "CLUSTER" then
    .ok .cluster
  else if spelling = "VIEW" then
    .ok .view
  else if isViewDefinition (Text.trimmed name.toList) then
    .ok .view
  else
    .error (.resourceType name)

/-- The name that the store keeps for a type stands for it. -/
@[simp]
theorem ofName_name (type : ResourceType) : ofName type.name = .ok type := by
  cases type <;> rfl

end ResourceType

end AccessControl
