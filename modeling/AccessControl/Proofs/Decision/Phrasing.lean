import AccessControl.Proofs.Catalog.TypeNames
import AccessControl.Proofs.Decision.Distribution
import AccessControl.Proofs.Decision.Translation

/-!
# One query in many phrasings

A question is read name by name: its query asks for the type that it names and
for exactly the authorizations that it lists, so that no list of known ids
turns into a query that requires nothing.  How the names are spelled, in which
order they are listed and how often makes no difference.
-/

namespace AccessControl

/-- Ids of one canonical spelling stand for the same authorization. -/
theorem Authorization.toOption_ofId_congr {id other : String}
    (same : Text.canonical other = Text.canonical id) :
    (ofId other).toOption = (ofId id).toOption := by
  unfold ofId
  rw [same]
  dsimp only
  split <;> rfl

theorem Traversal.toOption_eq_some_iff {α ε : Type} {outcome : Except ε α}
    {value : α} : outcome.toOption = some value ↔ outcome = .ok value := by
  cases outcome <;> simp [Except.toOption]

namespace Question

/-! ## The query of a question -/

/-- A query that asks for what a question names and for nothing else. -/
structure StandsFor (question : Question) (query : Query) : Prop where
  type : Option.Rel (fun name type => ResourceType.ofName name = .ok type)
    question.resourceType query.resourceType
  id : query.resourceId = question.resourceId
  known : ∀ id ∈ question.authorizations, ∃ authorization,
    Authorization.ofId id = .ok authorization
  required : ∀ authorization,
    query.required.contains authorization = true ↔
      ∃ id ∈ question.authorizations,
        Authorization.ofId id = .ok authorization

variable {question : Question}

theorem namedType_eq_ok_iff {type : Option ResourceType} :
    question.namedType = .ok type ↔
      Option.Rel (fun name type => ResourceType.ofName name = .ok type)
        question.resourceType type := by
  unfold namedType
  cases question.resourceType with
  | none =>
      constructor
      · intro untyped
        cases untyped
        exact .none
      · intro related
        cases related
        rfl
  | some name =>
      constructor
      · intro typed
        cases found : ResourceType.ofName name with
        | error unknown =>
            simp only [found] at typed
            cases typed
        | ok type =>
            simp only [found] at typed
            cases typed
            exact .some found
      · intro related
        cases related with
        | some found => simp only [found, Except.map]

theorem query_eq_ok_cases {query : Query} :
    question.query = .ok query ↔
      ∃ type authorizations, question.namedType = .ok type ∧
        namedAuthorizations question.authorizations = .ok authorizations ∧
          query = ⟨type, question.resourceId, .ofList authorizations⟩ := by
  unfold Question.query
  cases question.namedType with
  | error missing => simp [bind, Except.bind]
  | ok type =>
      cases namedAuthorizations question.authorizations with
      | error missing => simp [bind, Except.bind]
      | ok authorizations =>
          simp [bind, Except.bind, pure, Except.pure, eq_comm]

theorem mem_of_forall₂_ofId {ids : List String}
    {authorizations : List Authorization}
    (found : List.Forall₂ (fun id authorization =>
      Authorization.ofId id = .ok authorization) ids authorizations)
    (authorization : Authorization) :
    authorization ∈ authorizations ↔
      ∃ id ∈ ids, Authorization.ofId id = .ok authorization := by
  induction found with
  | nil => simp
  | cons first _ induction => simp [induction, first, eq_comm]

theorem query_eq_ok_iff {query : Query} :
    question.query = .ok query ↔ question.StandsFor query := by
  rw [query_eq_ok_cases]
  simp only [namedType_eq_ok_iff, namedAuthorizations_eq_mapM,
    Traversal.mapM_eq_ok_iff]
  constructor
  · intro translated
    obtain ⟨type, authorizations, typed, found, made⟩ := translated
    subst made
    constructor
    case type => exact typed
    case id => rfl
    case known =>
      apply Traversal.exists_mapM_eq_ok_iff.mp
      exact ⟨authorizations, Traversal.mapM_eq_ok_iff.mpr found⟩
    case required =>
      intro authorization
      rw [AuthorizationSet.contains_ofList, List.contains_iff_mem]
      exact mem_of_forall₂_ofId found authorization
  · intro standsFor
    obtain ⟨authorizations, accepted⟩ :=
      Traversal.exists_mapM_eq_ok_iff.mpr standsFor.known
    have found := Traversal.mapM_eq_ok_iff.mp accepted
    refine ⟨query.resourceType, authorizations, standsFor.type, found, ?_⟩
    obtain ⟨type, id, required⟩ := query
    have sameId : id = question.resourceId := standsFor.id
    have sameRequired : required = .ofList authorizations := by
      apply AuthorizationSet.eq_of_contains
      intro authorization
      rw [Bool.eq_iff_iff, AuthorizationSet.contains_ofList,
        List.contains_iff_mem, mem_of_forall₂_ofId found]
      exact standsFor.required authorization
    rw [sameId, sameRequired]

/-! ## Other phrasings -/

/-- Two questions that differ at most in how their names are spelled, and in
the order and the repetitions of the authorizations. -/
structure Rephrases (question other : Question) : Prop where
  type : Option.Rel Text.SpelledAlike question.resourceType other.resourceType
  id : question.resourceId = other.resourceId
  listed : ∀ id ∈ question.authorizations,
    ∃ otherId ∈ other.authorizations, Text.SpelledAlike id otherId
  relisted : ∀ otherId ∈ other.authorizations,
    ∃ id ∈ question.authorizations, Text.SpelledAlike id otherId

theorem ofName_of_spelledAlike {name other : String}
    (alike : Text.SpelledAlike name other) (type : ResourceType) :
    ResourceType.ofName name = .ok type ↔
      ResourceType.ofName other = .ok type := by
  have same := ResourceType.toOption_ofName_congr
    (Text.spelledAlike_iff.mp alike)
  rw [← Traversal.toOption_eq_some_iff, same, Traversal.toOption_eq_some_iff]

theorem ofId_of_spelledAlike {id other : String}
    (alike : Text.SpelledAlike id other) (authorization : Authorization) :
    Authorization.ofId id = .ok authorization ↔
      Authorization.ofId other = .ok authorization := by
  have same := Authorization.toOption_ofId_congr
    (Text.spelledAlike_iff.mp alike)
  rw [← Traversal.toOption_eq_some_iff, same, Traversal.toOption_eq_some_iff]

namespace Rephrases

variable {other : Question} (rephrases : question.Rephrases other)

include rephrases

theorem symm : other.Rephrases question := by
  have turned {name otherName : String}
      (alike : Text.SpelledAlike name otherName) :
      Text.SpelledAlike otherName name :=
    Text.spelledAlike_iff.mpr (Text.spelledAlike_iff.mp alike).symm
  constructor
  case type =>
    have alike := rephrases.type
    generalize question.resourceType = named at alike
    generalize other.resourceType = otherNamed at alike
    cases alike with
    | none => exact .none
    | some spelled => exact .some (turned spelled)
  case id => exact rephrases.id.symm
  case listed =>
    intro otherId member
    obtain ⟨id, listed, alike⟩ := rephrases.relisted otherId member
    exact ⟨id, listed, turned alike⟩
  case relisted =>
    intro id member
    obtain ⟨otherId, listed, alike⟩ := rephrases.listed id member
    exact ⟨otherId, listed, turned alike⟩

theorem standsFor {query : Query} (standsFor : question.StandsFor query) :
    other.StandsFor query := by
  constructor
  case type =>
    have alike := rephrases.type
    have typed := standsFor.type
    generalize question.resourceType = named at alike typed
    generalize other.resourceType = otherNamed at alike
    generalize query.resourceType = type at typed
    cases alike with
    | none => exact typed
    | some spelled =>
        cases typed with
        | some found => exact .some ((ofName_of_spelledAlike spelled _).mp found)
  case id => exact standsFor.id.trans rephrases.id
  case known =>
    intro otherId member
    obtain ⟨id, listed, alike⟩ := rephrases.relisted otherId member
    obtain ⟨authorization, found⟩ := standsFor.known id listed
    exact ⟨authorization, (ofId_of_spelledAlike alike _).mp found⟩
  case required =>
    intro authorization
    rw [standsFor.required]
    constructor
    · intro required
      obtain ⟨id, member, found⟩ := required
      obtain ⟨otherId, listed, alike⟩ := rephrases.listed id member
      exact ⟨otherId, listed, (ofId_of_spelledAlike alike _).mp found⟩
    · intro required
      obtain ⟨otherId, member, found⟩ := required
      obtain ⟨id, listed, alike⟩ := rephrases.relisted otherId member
      exact ⟨id, listed, (ofId_of_spelledAlike alike _).mpr found⟩

theorem toOption_query : other.query.toOption = question.query.toOption := by
  ext query
  rw [Traversal.toOption_eq_some_iff, Traversal.toOption_eq_some_iff,
    query_eq_ok_iff, query_eq_ok_iff]
  constructor
  · exact rephrases.symm.standsFor
  · exact rephrases.standsFor

end Rephrases

/-! ## Reading questions -/

theorem exists_query_iff :
    (∃ query, question.query = .ok query) ↔
      (∀ name ∈ question.resourceType, ∃ type,
        ResourceType.ofName name = .ok type) ∧
      ∀ id ∈ question.authorizations, ∃ authorization,
        Authorization.ofId id = .ok authorization := by
  rw [← exists_namedType_iff, ← Traversal.exists_mapM_eq_ok_iff,
    ← namedAuthorizations_eq_mapM]
  simp only [query_eq_ok_cases]
  constructor
  · intro accepted
    obtain ⟨query, type, authorizations, typed, found, _⟩ := accepted
    exact ⟨⟨type, typed⟩, authorizations, found⟩
  · intro readable
    obtain ⟨⟨type, typed⟩, authorizations, found⟩ := readable
    exact ⟨_, type, authorizations, typed, found, rfl⟩

theorem StandsFor.required_isEmpty_iff {query : Query}
    (standsFor : question.StandsFor query) :
    query.required.isEmpty = true ↔ question.authorizations = [] := by
  rw [← not_iff_not, Bool.not_eq_true,
    AuthorizationSet.isEmpty_eq_false_iff]
  simp only [standsFor.required]
  constructor
  · intro required none
    obtain ⟨_, id, listed, _⟩ := required
    rw [none] at listed
    cases listed
  · intro filled
    obtain ⟨id, listed⟩ := List.exists_mem_of_ne_nil _ filled
    obtain ⟨authorization, found⟩ := standsFor.known id listed
    exact ⟨authorization, id, listed, found⟩

/-- How a question is read. -/
structure ReadNameByName (question : Question) : Prop where
  translated : ∀ query,
    question.query = .ok query ↔ question.StandsFor query
  accepted : (∃ query, question.query = .ok query) ↔
    (∀ name ∈ question.resourceType, ∃ type,
      ResourceType.ofName name = .ok type) ∧
    ∀ id ∈ question.authorizations, ∃ authorization,
      Authorization.ofId id = .ok authorization
  /-- Everyone is authorized exactly where nothing was listed. -/
  requires : ∀ query, question.query = .ok query →
    (query.required.isEmpty = true ↔ question.authorizations = [])
  refused : ∀ unknown,
    question.query = .error unknown ↔ question.FirstUnknown unknown
  rephrased : ∀ other, question.Rephrases other →
    other.query.toOption = question.query.toOption

/-- Every question is read name by name, whatever its names are. -/
theorem readNameByName (question : Question) : question.ReadNameByName := by
  constructor
  case translated => exact fun query => query_eq_ok_iff
  case accepted => exact exists_query_iff
  case requires =>
    intro query translated
    exact (query_eq_ok_iff.mp translated).required_isEmpty_iff
  case refused => exact fun unknown => query_eq_error_iff
  case rephrased => exact fun other rephrases => rephrases.toOption_query

namespace Phrased

def plain : Question where
  resourceType := some "VIEW"
  resourceId := some 10
  authorizations := ["VIEW.USE", "CLUSTER.VIEW_METRICS"]

def careless : Question where
  resourceType := some "\tView "
  resourceId := some 10
  authorizations := [" cluster.view_metrics", "view.use", "View.Use\u2003"]

theorem plain_rephrases_careless : plain.Rephrases careless where
  type := .some (Text.spelledAlike_iff.mpr (by decide +kernel))
  id := rfl
  listed := by
    simp only [Text.spelledAlike_iff]
    decide +kernel
  relisted := by
    simp only [Text.spelledAlike_iff]
    decide +kernel

theorem careless_read_as_plain :
    plain.Rephrases careless ∧
      (plain.query.map fun query => query.required.toList) =
        .ok [.clusterViewMetrics, .viewUse] ∧
      plain.ReadNameByName ∧ careless.query.toOption = plain.query.toOption :=
  have read := plain.readNameByName
  ⟨plain_rephrases_careless, by decide +kernel, read,
    read.rephrased careless plain_rephrases_careless⟩

end Phrased

end Question

end AccessControl
