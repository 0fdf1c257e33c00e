import Mathlib.Tactic.SplitIfs
import AccessControl.Question
import AccessControl.Proofs.Traversal

/-!
# The first unknown name

A question is refused for one of its names: the resource type if the catalog
does not have it, and otherwise the first authorization that the catalog does
not have.
-/

namespace AccessControl

theorem ResourceType.ofName_eq_error_iff {name : String}
    {unknown : UnknownName} :
    ofName name = .error unknown ↔
      unknown = .resourceType name ∧ ∀ type, ofName name ≠ .ok type := by
  unfold ofName
  dsimp only
  split_ifs <;> simp [eq_comm]

theorem Authorization.ofId_eq_error_iff {id : String} {unknown : UnknownName} :
    ofId id = .error unknown ↔
      unknown = .authorization id ∧
        ∀ authorization, ofId id ≠ .ok authorization := by
  unfold ofId
  dsimp only
  split <;> simp [eq_comm]

namespace Question

/-- The first name of a question that is not in the catalog.  The resource type
comes before the authorizations. -/
inductive FirstUnknown (question : Question) : UnknownName → Prop where
  | resourceType {name : String} :
      question.resourceType = some name →
      (∀ type, ResourceType.ofName name ≠ .ok type) →
      FirstUnknown question (.resourceType name)
  | authorization {known later : List String} {id : String} :
      (∀ name ∈ question.resourceType,
        ∃ type, ResourceType.ofName name = .ok type) →
      question.authorizations = known ++ id :: later →
      (∀ other ∈ known, ∃ authorization,
        Authorization.ofId other = .ok authorization) →
      (∀ authorization, Authorization.ofId id ≠ .ok authorization) →
      FirstUnknown question (.authorization id)

variable {question : Question} {unknown : UnknownName}

theorem namedType_eq_error_iff :
    question.namedType = .error unknown ↔
      ∃ name, question.resourceType = some name ∧
        ResourceType.ofName name = .error unknown := by
  unfold namedType
  cases question.resourceType with
  | none => simp
  | some name =>
      cases found : ResourceType.ofName name <;> simp [Except.map, found]

theorem exists_namedType_iff :
    (∃ type, question.namedType = .ok type) ↔
      ∀ name ∈ question.resourceType,
        ∃ type, ResourceType.ofName name = .ok type := by
  unfold namedType
  cases question.resourceType with
  | none => simp
  | some name =>
      cases found : ResourceType.ofName name <;> simp [Except.map, found]

theorem namedAuthorizations_eq_mapM (ids : List String) :
    namedAuthorizations ids = ids.mapM Authorization.ofId := by
  induction ids with
  | nil => rfl
  | cons id later induction => rw [List.mapM_cons, namedAuthorizations, induction]

theorem query_eq_error_cases :
    question.query = .error unknown ↔
      question.namedType = .error unknown ∨
        (∃ type, question.namedType = .ok type) ∧
          namedAuthorizations question.authorizations = .error unknown := by
  unfold query
  cases question.namedType with
  | error missing => simp [bind, Except.bind]
  | ok type =>
      cases namedAuthorizations question.authorizations with
      | error missing => simp [bind, Except.bind]
      | ok authorizations => simp [bind, Except.bind, pure, Except.pure]

/-- A question is refused for the first of its names that is unknown. -/
theorem query_eq_error_iff :
    question.query = .error unknown ↔ question.FirstUnknown unknown := by
  rw [query_eq_error_cases, namedType_eq_error_iff, exists_namedType_iff,
    namedAuthorizations_eq_mapM, Traversal.mapM_eq_error_iff]
  constructor
  · rintro (⟨name, named, missing⟩ | ⟨typed, known, id, later, ids, found, missing⟩)
    · obtain ⟨rfl, unnamed⟩ := ResourceType.ofName_eq_error_iff.mp missing
      exact .resourceType named unnamed
    · obtain ⟨rfl, unnamed⟩ := Authorization.ofId_eq_error_iff.mp missing
      exact .authorization typed ids found unnamed
  · intro first
    cases first with
    | @resourceType name named unnamed =>
        exact .inl ⟨name, named,
          ResourceType.ofName_eq_error_iff.mpr ⟨rfl, unnamed⟩⟩
    | @authorization known later id typed ids found unnamed =>
        exact .inr ⟨typed, known, id, later, ids, found,
          Authorization.ofId_eq_error_iff.mpr ⟨rfl, unnamed⟩⟩

end Question

end AccessControl
