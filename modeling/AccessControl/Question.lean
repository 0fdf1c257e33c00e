import AccessControl.Decision

/-!
# Questions as callers phrase them

Callers name resource types and authorizations by text.  A question becomes a
query once all its names are found in the catalog.
-/

namespace AccessControl

/-- An authorization question: raw names and an optional scope. -/
structure Question where
  resourceType : Option String := none
  resourceId : Option Int64 := none
  authorizations : List String := []
deriving DecidableEq, Repr

namespace Question

/-- The resource type that a question names, if it names one. -/
def namedType (question : Question) :
    Except UnknownName (Option ResourceType) :=
  match question.resourceType with
  | none => .ok none
  | some name => (ResourceType.ofName name).map some

/-- The authorizations with the given ids, or the first id that is unknown. -/
def namedAuthorizations : List String → Except UnknownName (List Authorization)
  | [] => .ok []
  | id :: later => do
      let authorization ← Authorization.ofId id
      let others ← namedAuthorizations later
      pure (authorization :: others)

/-- The query that a question stands for.  The resource type is looked up
before the authorizations, these in order; the first unknown name is
reported. -/
def query (question : Question) : Except UnknownName Query := do
  let type ← question.namedType
  let authorizations ← namedAuthorizations question.authorizations
  pure
    { resourceType := type
      resourceId := question.resourceId
      required := AuthorizationSet.ofList authorizations }

end Question

end AccessControl
