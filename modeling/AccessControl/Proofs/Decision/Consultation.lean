import AccessControl.Proofs.Decision.Meaning

/-!
# When a decision asks its lookup

A decision that something else settles asks nothing.  Any other decision asks
which cluster owns the queried resource, and what is recorded against it only
after a cluster was named.  The lookup matters only through the answers to the
questions that are asked, and an answer that fails can take a grant away but
never give one.
-/

namespace AccessControl

/-- Two lookups answer a question alike. -/
def LookupCall.AnsweredAlike (call : LookupCall)
    (left right : PrivilegeLookup) : Prop :=
  match call with
  | .owningCluster id => left.owningCluster id = right.owningCluster id
  | .recordedPrivileges id =>
      left.recordedPrivileges id = right.recordedPrivileges id

/-- The questions that a query can raise, in order. -/
def Query.questions (query : Query) : List LookupCall :=
  match query.resourceId with
  | some id => [.owningCluster id, .recordedPrivileges id]
  | none => []

/-- A query is settled without a question: nothing is required, nobody asks or
somebody without privileges, a privilege settles the query by itself, or no
resource is named. -/
def Query.Unquestioned (query : Query) (caller : Option Caller) : Prop :=
  query.required.isEmpty = true ∨ caller = none ∨
    (∃ actor ∈ caller, actor.privileges = []) ∨
      (∃ actor ∈ caller, query.SettledBy actor.privileges) ∨
        query.resourceId = none

namespace PrivilegeLookup

/-- A lookup gives the answers of another one where it does not fail. -/
structure FailingFrom (failing lookup : PrivilegeLookup) : Prop where
  owningCluster : ∀ id,
    failing.owningCluster id = lookup.owningCluster id ∨
      ∃ failure, (failing.owningCluster id).value = .error failure
  recordedPrivileges : ∀ id,
    failing.recordedPrivileges id = lookup.recordedPrivileges id ∨
      ∃ failure, (failing.recordedPrivileges id).value = .error failure

/-! ## Answers that are used -/

/-- What a computation comes to depends on the answers to its own questions
only. -/
def Heeds {α : Type} (computation : PrivilegeLookup → Consulted α) : Prop :=
  ∀ lookup other : PrivilegeLookup,
    (∀ call ∈ (computation lookup).calls, call.AnsweredAlike lookup other) →
      computation other = computation lookup

namespace Heeds

variable {α β : Type}

theorem const (result : Consulted α) : Heeds fun _ => result :=
  fun _ _ _ => rfl

theorem ask (call : LookupCall) : Heeds fun lookup => lookup.ask call := by
  intro lookup other alike
  have same : call.AnsweredAlike lookup other := alike call (by simp)
  cases call with
  | owningCluster id =>
      have equal : lookup.owningCluster id = other.owningCluster id := same
      simp only [PrivilegeLookup.ask, answer, equal]
  | recordedPrivileges id =>
      have equal : lookup.recordedPrivileges id = other.recordedPrivileges id :=
        same
      simp only [PrivilegeLookup.ask, answer, equal]

/-- The questions of a continuation are those it asks about the value it is
given, so the first part comes to the same before the second is compared. -/
theorem bind {first : PrivilegeLookup → Consulted α}
    {next : PrivilegeLookup → α → Consulted β} (heeds : Heeds first)
    (later : ∀ value, Heeds fun lookup => next lookup value) :
    Heeds fun lookup => first lookup >>= next lookup := by
  intro lookup other alike
  simp only [Consulted.calls_bind, List.mem_append] at alike
  have same : first other = first lookup :=
    heeds lookup other fun call asked => alike call (.inl asked)
  have continued : next other (first lookup).value =
      next lookup (first lookup).value :=
    later _ lookup other fun call asked => alike call (.inr asked)
  change Consulted.andThen _ _ = Consulted.andThen _ _
  unfold Consulted.andThen
  rw [same, continued]

end Heeds

/-! ## The second pass -/

section

variable (lookup : PrivilegeLookup) (held : List Privilege) (id : Int64)

/-- The second question follows exactly when a cluster was named. -/
theorem calls_decideInherited :
    (∃ cluster, (lookup.owningCluster id).value = .ok (some cluster)) ∧
        (lookup.decideInherited held id).calls =
          [.owningCluster id, .recordedPrivileges id] ∨
      (¬ ∃ cluster, (lookup.owningCluster id).value = .ok (some cluster)) ∧
        (lookup.decideInherited held id).calls = [.owningCluster id] := by
  unfold decideInherited
  cases binding : (lookup.owningCluster id).value with
  | error failure => simp [binding]
  | ok cluster =>
      cases cluster with
      | none => simp [binding]
      | some cluster =>
          cases answer : (lookup.recordedPrivileges id).value <;>
            simp [binding, answer, apply_ite Consulted.calls]

theorem owningCluster_mem_calls_decideInherited :
    .owningCluster id ∈ (lookup.decideInherited held id).calls := by
  rcases lookup.calls_decideInherited held id with
    ⟨_, calls⟩ | ⟨_, calls⟩ <;> simp [calls]

theorem heeds_decideInherited :
    Heeds fun lookup => lookup.decideInherited held id := by
  unfold decideInherited
  refine (Heeds.ask (.owningCluster id)).bind ?_
  rintro (failure | _ | cluster)
  case error => exact .const _
  case ok.none => exact .const _
  case ok.some =>
    refine (Heeds.ask (.recordedPrivileges id)).bind ?_
    rintro (failure | recorded)
    case error => exact .const _
    case ok => exact .const _

end

/-! ## Whole decisions -/

/-- A decision that asks nothing is the same for all lookups, and any other
decision is that of the second pass, after the events of the first. -/
theorem decide_cases (caller : Option Caller) (query : Query) :
    (query.Unquestioned caller ∧
        ∃ decision : Decision, decision.calls = [] ∧
          ∀ lookup : PrivilegeLookup, lookup.decide caller query = decision) ∨
      (¬ query.Unquestioned caller ∧
        ∃ (held : List Privilege) (id : Int64) (direct : Logged Bool),
          query.resourceId = some id ∧
            ∀ lookup : PrivilegeLookup, lookup.decide caller query =
              Consulted.decision do
                let _ ← direct
                lookup.decideInherited held id) := by
  unfold decide Query.Unquestioned
  cases required : query.required.isEmpty with
  | true => exact .inl ⟨.inl rfl, { granted := true }, rfl, fun _ => rfl⟩
  | false =>
      cases caller with
      | none =>
          exact .inl ⟨.inr (.inl rfl), { granted := false }, rfl, fun _ => rfl⟩
      | some actor =>
          cases holding : actor.hasPrivileges with
          | false =>
              have nothing : actor.privileges = [] := by
                simpa [Caller.hasPrivileges] using holding
              refine .inl ⟨.inr (.inr (.inl ⟨actor, rfl, nothing⟩)),
                { granted := false }, rfl, fun lookup => ?_⟩
              simp [holding, Consulted.decision]
          | true =>
              have something : actor.privileges ≠ [] := by
                simpa [Caller.hasPrivileges] using holding
              cases direct : (query.directPass actor.privileges).value with
              | true =>
                  have settled := Query.directPass_iff query _ |>.mp direct
                  refine .inl
                    ⟨.inr (.inr (.inr (.inl ⟨actor, rfl, settled⟩))),
                      ⟨true, [], (query.directPass actor.privileges).events⟩,
                      rfl, fun lookup => ?_⟩
                  simp [holding, direct, Consulted.decision]
              | false =>
                  have unsettled : ¬ query.SettledBy actor.privileges := by
                    rw [← Query.directPass_iff, direct]
                    exact Bool.false_ne_true
                  cases queried : query.resourceId with
                  | none =>
                      refine .inl ⟨.inr (.inr (.inr (.inr rfl))),
                        ⟨false, [], (query.directPass actor.privileges).events⟩,
                        rfl, fun lookup => ?_⟩
                      simp [holding, direct, Consulted.decision]
                  | some id =>
                      refine .inr ⟨by simp [something, unsettled],
                        actor.privileges, id,
                        query.directPass actor.privileges, rfl,
                        fun lookup => ?_⟩
                      simp [holding, direct, Consulted.decision]

section

variable {lookup : PrivilegeLookup} {caller : Option Caller} {query : Query}

theorem calls_prefix :
    (lookup.decide caller query).calls <+: query.questions := by
  rcases decide_cases caller query with
    ⟨_, decision, silent, same⟩ | ⟨_, held, id, direct, queried, same⟩
  · rw [same, silent]
    exact List.nil_prefix
  · rw [same, Query.questions, queried]
    rcases lookup.calls_decideInherited held id with
      ⟨_, calls⟩ | ⟨_, calls⟩ <;> simp [calls]

theorem calls_eq_nil_iff :
    (lookup.decide caller query).calls = [] ↔ query.Unquestioned caller := by
  rcases decide_cases caller query with
    ⟨unquestioned, decision, silent, same⟩ |
      ⟨questioned, held, id, direct, _, same⟩
  · rw [same]
    exact iff_of_true silent unquestioned
  · rw [same]
    refine iff_of_false ?_ questioned
    exact List.ne_nil_of_mem
      (lookup.owningCluster_mem_calls_decideInherited held id)

theorem recordedPrivileges_mem_calls_iff {id : Int64} :
    .recordedPrivileges id ∈ (lookup.decide caller query).calls ↔
      .owningCluster id ∈ (lookup.decide caller query).calls ∧
        ∃ cluster, (lookup.owningCluster id).value = .ok (some cluster) := by
  rcases decide_cases caller query with
    ⟨_, decision, silent, same⟩ | ⟨_, held, queriedId, direct, _, same⟩
  · simp [same, silent]
  · simp only [same, Consulted.calls_decision, Consulted.calls_bind,
      Consulted.calls_liftM, List.nil_append]
    rcases lookup.calls_decideInherited held queriedId with
      ⟨named, calls⟩ | ⟨unnamed, calls⟩
    · simp only [calls, List.mem_cons, List.not_mem_nil, or_false,
        LookupCall.recordedPrivileges.injEq, LookupCall.owningCluster.injEq,
        reduceCtorEq, false_or]
      exact ⟨fun equal => ⟨equal, equal ▸ named⟩, And.left⟩
    · simp only [calls, List.mem_singleton, LookupCall.owningCluster.injEq,
        reduceCtorEq, false_iff, not_and]
      exact fun equal => equal ▸ unnamed

/-- A decision depends on the answers to its own questions only. -/
theorem decide_congr {other : PrivilegeLookup}
    (alike : ∀ call ∈ (lookup.decide caller query).calls,
      call.AnsweredAlike lookup other) :
    other.decide caller query = lookup.decide caller query := by
  rcases decide_cases caller query with
    ⟨_, decision, _, same⟩ | ⟨_, held, id, direct, _, same⟩
  · rw [same, same]
  · rw [same] at alike
    have heeds := (Heeds.const (liftM direct)).bind
      fun _ => heeds_decideInherited held id
    rw [same, same]
    exact congrArg Consulted.decision (heeds lookup other alike)

theorem decide_congr_of_queried {other : PrivilegeLookup}
    (alike : ∀ id ∈ query.resourceId,
      lookup.owningCluster id = other.owningCluster id ∧
        lookup.recordedPrivileges id = other.recordedPrivileges id) :
    other.decide caller query = lookup.decide caller query := by
  apply decide_congr
  intro call asked
  have raised := calls_prefix.subset asked
  unfold Query.questions at raised
  cases queried : query.resourceId with
  | none => simp [queried] at raised
  | some id =>
      obtain ⟨first, second⟩ := alike id queried
      rw [queried] at raised
      rcases List.mem_cons.mp raised with equal | later
      · rw [equal]
        exact first
      · rw [List.mem_singleton.mp later]
        exact second

end

namespace FailingFrom

variable {failing lookup : PrivilegeLookup}

theorem opens (fails : failing.FailingFrom lookup) {id : Int64}
    {privileges : List Privilege} (opened : failing.Opens id privileges) :
    lookup.Opens id privileges := by
  obtain ⟨cluster, recorded, binding, answer, inherited⟩ := opened
  refine ⟨cluster, recorded, ?_, ?_, inherited⟩
  · rcases fails.owningCluster id with same | ⟨failure, failed⟩
    · rw [← same]
      exact binding
    · rw [binding] at failed
      cases failed
  · rcases fails.recordedPrivileges id with same | ⟨failure, failed⟩
    · rw [← same]
      exact answer
    · rw [answer] at failed
      cases failed

/-- Whatever is granted in spite of failures is granted without them. -/
theorem isAuthorized (fails : failing.FailingFrom lookup)
    {caller : Option Caller} {query : Query}
    (granted : failing.isAuthorized caller query = true) :
    lookup.isAuthorized caller query = true := by
  rw [isAuthorized_iff] at granted ⊢
  rcases granted with required | settled | ⟨actor, present, id, queried, opened⟩
  · exact .inl required
  · exact .inr (.inl settled)
  · exact .inr (.inr ⟨actor, present, id, queried, fails.opens opened⟩)

end FailingFrom

/-- How a decision deals with its lookup. -/
structure ConsultedSparingly (lookup : PrivilegeLookup)
    (caller : Option Caller) (query : Query) : Prop where
  /-- Questions are about the queried id, the owning cluster first. -/
  in_order : (lookup.decide caller query).calls <+: query.questions
  none_iff :
    (lookup.decide caller query).calls = [] ↔ query.Unquestioned caller
  second_iff : ∀ id,
    .recordedPrivileges id ∈ (lookup.decide caller query).calls ↔
      .owningCluster id ∈ (lookup.decide caller query).calls ∧
        ∃ cluster, (lookup.owningCluster id).value = .ok (some cluster)
  fails_closed : ∀ failing : PrivilegeLookup, failing.FailingFrom lookup →
    failing.isAuthorized caller query = true →
      lookup.isAuthorized caller query = true
  /-- What nobody needs to ask about is decided as if nothing had failed. -/
  undisturbed : ∀ failing : PrivilegeLookup, failing.FailingFrom lookup →
    query.required.isEmpty = true ∨
        (∃ actor ∈ caller, query.SettledBy actor.privileges) →
      failing.decide caller query = lookup.decide caller query
  /-- The answers to questions that are not asked play no part. -/
  by_answers : ∀ other : PrivilegeLookup,
    (∀ call ∈ (lookup.decide caller query).calls,
      call.AnsweredAlike lookup other) →
      other.decide caller query = lookup.decide caller query
  by_queried_id : ∀ other : PrivilegeLookup,
    (∀ id ∈ query.resourceId,
      lookup.owningCluster id = other.owningCluster id ∧
        lookup.recordedPrivileges id = other.recordedPrivileges id) →
      other.decide caller query = lookup.decide caller query

/-- Every decision asks only what it needs, and depends on nothing else. -/
theorem consulted_sparingly (lookup : PrivilegeLookup)
    (caller : Option Caller) (query : Query) :
    lookup.ConsultedSparingly caller query where
  in_order := calls_prefix
  none_iff := calls_eq_nil_iff
  second_iff := fun _ => recordedPrivileges_mem_calls_iff
  fails_closed := fun _ fails granted => fails.isAuthorized granted
  undisturbed := by
    intro failing _ settled
    have unquestioned : query.Unquestioned caller := by
      rcases settled with required | direct
      · exact .inl required
      · exact .inr (.inr (.inr (.inl direct)))
    have nothing : (lookup.decide caller query).calls = [] :=
      calls_eq_nil_iff.mpr unquestioned
    apply decide_congr
    simp [nothing]
  by_answers := fun _ alike => decide_congr alike
  by_queried_id := fun _ alike => decide_congr_of_queried alike

end PrivilegeLookup

end AccessControl
