import AccessControl.Proofs.Decision.Translation
import AccessControl.Proofs.Service.Agreement
import AccessControl.Proofs.Service.Header

/-!
# The answers to a question over HTTP

A question that could be read from the body of a request has four answers: the
caller cannot be loaded, a name is not in the catalog, the caller is let
through, or the caller is not.  This file says when each of them is given, from
the bytes of the header, the rows of the store and the names in the question.
Apart from an unknown name, an answer tells nothing but which of the four it
is.  A caller is not loaded over a closed connection or without tables; a store
with some of the tables only is no store here.
-/

namespace AccessControl

namespace Service

/-! ## Loading the caller -/

/-- What loading the caller of a login gives. -/
inductive Loading (service : Service) :
    Option String → Except Store.StoreFault (Option Caller) → Prop where
  | nobody : Loading service none (.ok none)
  | failed {login : String} {fault : Store.StoreFault} :
      service.store.tables .user = .error fault →
      Loading service (some login) (.error fault)
  | unknown {login : String} {tables : Store.Tables} :
      service.store.tables .user = .ok tables →
      (∀ user ∈ tables.users, user.name = service.aliases.resolve login →
        user.active = false) →
      Loading service (some login) (.ok none)
  | active {login : String} {tables : Store.Tables} {user : Store.UserRow} :
      service.store.tables .user = .ok tables →
      tables.activeUser? (service.aliases.resolve login) = some user →
      Loading service (some login) (.ok (some (.holding user.name
        (tables.privilegesOf user.principalId).value)))

section

variable {service : Service}

theorem activeUser?_eq_none_iff {tables : Store.Tables} {name : String} :
    tables.activeUser? name = none ↔
      ∀ user ∈ tables.users, user.name = name → user.active = false := by
  simp [Store.Tables.activeUser?]

theorem exists_loading (service : Service) (login : Option String) :
    ∃ result, service.Loading login result := by
  cases login with
  | none => exact ⟨_, .nobody⟩
  | some login =>
      cases read : service.store.tables .user with
      | error fault => exact ⟨_, .failed read⟩
      | ok tables =>
          cases found : tables.activeUser? (service.aliases.resolve login) with
          | none => exact ⟨_, .unknown read (activeUser?_eq_none_iff.mp found)⟩
          | some user => exact ⟨_, .active read found⟩

theorem Loading.value_caller? {login : String}
    {result : Except Store.StoreFault (Option Caller)}
    (loading : service.Loading (some login) result) :
    (service.store.caller? (service.aliases.resolve login)).value = result := by
  unfold Store.caller? Store.load
  cases loading with
  | failed read =>
      rw [read]
      rfl
  | unknown read absent =>
      rw [read]
      simp [Store.Tables.value_caller?, activeUser?_eq_none_iff.mpr absent]
  | active read found =>
      rw [read]
      simp [Store.Tables.value_caller?, found]

theorem Loading.value_resolve {login : Option String} {caller : Option Caller}
    (loading : service.Loading login (.ok caller)) :
    (service.resolve login).value = .ok caller := by
  cases login with
  | none =>
      cases loading
      rfl
  | some login => exact value_resolve_of_caller? loading.value_caller?

theorem Loading.value_resolve_of_error {login : Option String}
    {fault : Store.StoreFault} (loading : service.Loading login (.error fault)) :
    ∃ failure, (service.resolve login).value = .error failure := by
  cases login with
  | none => cases loading
  | some login =>
      refine ⟨⟨service.aliases.resolve login, fault⟩, ?_⟩
      unfold resolve
      simp only [Logged.value_bind, loading.value_caller?]
      rfl

/-! ## The four answers -/

/-- What a question is answered for a login. -/
inductive Answers (service : Service) (login : Option String)
    (question : Question) : Response → Prop where
  | failed {fault : Store.StoreFault} :
      service.Loading login (.error fault) →
      Answers service login question
        { status := 500, body := .text "internal server error" }
  | unknown {caller : Option Caller} {unknown : UnknownName} :
      service.Loading login (.ok caller) →
      question.FirstUnknown unknown →
      Answers service login question
        { status := 400
          body := .text ("bad request: unknown " ++ unknown.kind ++
            " name '" ++ unknown.text ++ "'") }
  | granted {caller : Option Caller} {query : Query} :
      service.Loading login (.ok caller) →
      question.query = .ok query →
      service.store.lookup.isAuthorized caller query = true →
      Answers service login question
        { status := 200
          body := .json (.object [("authorized", .boolean true)]) }
  | denied {caller : Option Caller} {query : Query} :
      service.Loading login (.ok caller) →
      question.query = .ok query →
      service.store.lookup.isAuthorized caller query = false →
      Answers service login question
        { status := 403, body := .text "forbidden" }

/-- A request puts a question, and its header has the given bytes. -/
structure Request.Posts (request : Request) (header : Option (List UInt8))
    (question : Question) : Prop where
  method : request.method = "POST"
  route : request.route = "/authorize"
  header : Holds request.user header
  question : request.question = .ok question

variable {login : Option String} {question : Question}

theorem exists_answer (service : Service) (login : Option String)
    (question : Question) :
    ∃ response, service.Answers login question response := by
  obtain ⟨result, loading⟩ := service.exists_loading login
  cases result with
  | error fault => exact ⟨_, .failed loading⟩
  | ok caller =>
      cases translated : question.query with
      | error unknown =>
          exact ⟨_, .unknown loading (Question.query_eq_error_iff.mp translated)⟩
      | ok query =>
          cases granted : service.store.lookup.isAuthorized caller query with
          | true => exact ⟨_, .granted loading translated granted⟩
          | false => exact ⟨_, .denied loading translated granted⟩

theorem Refusal.message_ofUnknownName (unknown : UnknownName) :
    (Refusal.ofUnknownName unknown).message =
      "bad request: unknown " ++ unknown.kind ++ " name '" ++ unknown.text ++
        "'" := by
  have words : "bad request: unknown " = "bad request: " ++ "unknown " := rfl
  rw [words]
  simp only [Refusal.message, Refusal.ofUnknownName, UnknownName.message,
    String.append_assoc]

theorem answer_eq_answerAuthorize {request : Request}
    {header : Option (List UInt8)} (posts : request.Posts header question) :
    service.answer request = service.answerAuthorize request := by
  unfold answer
  simp [posts.route, posts.method]

theorem value_answer_of_caller {request : Request}
    {header : Option (List UInt8)} (posts : request.Posts header question)
    {caller : Option Caller}
    (loading : service.Loading request.login (.ok caller)) :
    (service.answer request).value =
      (service.answerQuestion caller question).value := by
  rw [answer_eq_answerAuthorize posts, answerAuthorize,
    value_asCaller loading.value_resolve, posts.question]

theorem Answers.eq_answer {request : Request} {header : Option (List UInt8)}
    (posts : request.Posts header question) {response : Response}
    (answers : service.Answers request.login question response) :
    (service.answer request).value = response := by
  cases answers with
  | failed loading =>
      obtain ⟨failure, resolved⟩ := loading.value_resolve_of_error
      rw [answer_eq_answerAuthorize posts, answerAuthorize, asCaller]
      simp only [Logged.value_bind, resolved]
      rfl
  | unknown loading first =>
      rw [value_answer_of_caller posts loading, answerQuestion,
        Question.query_eq_error_iff.mpr first, Logged.value_pure,
        Response.ofRefusal, Refusal.message_ofUnknownName]
      rfl
  | @granted caller query loading translated granted =>
      have decided : (service.decide caller query).value = true := granted
      rw [value_answer_of_caller posts loading, answerQuestion, translated]
      simp only [Logged.value_bind, decided]
      rfl
  | @denied caller query loading translated denied =>
      have decided : (service.decide caller query).value = false := denied
      rw [value_answer_of_caller posts loading, answerQuestion, translated]
      simp only [Logged.value_bind, decided]
      rfl

/-- The status of an answer tells which one it is, and only an unknown name
says anything about the question. -/
theorem Answers.eq_of_status {other : Service} {otherLogin : Option String}
    {otherQuestion : Question} {first second : Response}
    (answers : service.Answers login question first)
    (otherAnswers : other.Answers otherLogin otherQuestion second)
    (status : first.status = second.status)
    (questions : first.status = 400 → question = otherQuestion) :
    first = second := by
  cases answers with
  | failed =>
      cases otherAnswers with
      | failed => rfl
      | unknown | granted | denied => cases status
  | @unknown _ unknown _ named =>
      cases otherAnswers with
      | @unknown _ otherUnknown _ otherNamed =>
          obtain rfl := questions rfl
          have refused := Question.query_eq_error_iff.mpr named
          rw [Question.query_eq_error_iff.mpr otherNamed] at refused
          cases refused
          rfl
      | failed | granted | denied => cases status
  | granted =>
      cases otherAnswers with
      | granted => rfl
      | failed | unknown | denied => cases status
  | denied =>
      cases otherAnswers with
      | denied => rfl
      | failed | unknown | granted => cases status

/-- A question over HTTP is answered for the one login that the bytes of the
header name.  Two answers with the same status are the same, whatever stores,
aliases and headers are behind them; where a name is unknown, the same question
must have been put. -/
structure Settles (service : Service) (request : Request)
    (header : Option (List UInt8)) (question : Question) : Prop where
  answered : ∃ login, (∀ other, Names header other ↔ other = login) ∧
    ∀ response, (service.answer request).value = response ↔
      service.Answers login question response
  discreet : ∀ (other : Service) (otherRequest : Request)
    (otherHeader : Option (List UInt8)) (otherQuestion : Question),
    otherRequest.Posts otherHeader otherQuestion →
    (service.answer request).value.status =
      (other.answer otherRequest).value.status →
    ((service.answer request).value.status = 400 → question = otherQuestion) →
    (service.answer request).value = (other.answer otherRequest).value

theorem answers_answer {request : Request} {header : Option (List UInt8)}
    (posts : request.Posts header question) :
    service.Answers request.login question (service.answer request).value := by
  obtain ⟨response, answers⟩ := exists_answer service request.login question
  rwa [answers.eq_answer posts]

/-- Every question that is posted is settled, whatever the store and the
header. -/
theorem posted_question_settled {request : Request}
    {header : Option (List UInt8)} (posts : request.Posts header question) :
    service.Settles request header question := by
  constructor
  case answered =>
    refine ⟨request.login, ?_, ?_⟩
    · intro other
      rw [names_iff posts.header, eq_comm]
    · intro response
      refine ⟨?_, fun answers => answers.eq_answer posts⟩
      rintro rfl
      exact answers_answer posts
  case discreet =>
    intro other otherRequest otherHeader otherQuestion otherPosts
    exact (answers_answer posts).eq_of_status (answers_answer otherPosts)

end

namespace Misbound

/-- The view under 10 is bound to a cluster without a row.  Alice would inherit
its use from any cluster. -/
def store : Store where
  contents := .created
    { resourceTypes := [⟨2, "CLUSTER"⟩, ⟨3, "FILES\x7b1.0.0\x7d"⟩]
      resources := [⟨2, 2⟩, ⟨10, 3⟩]
      permissions := [⟨2, "CLUSTER.USER", 2, none⟩, ⟨4, "VIEW.USER", 3, none⟩]
      permissionAuthorizations := [⟨4, "VIEW.USE"⟩]
      principalTypes := [⟨1, "USER"⟩, ⟨7, "ALL.CLUSTER.USER"⟩]
      principals := [⟨100, 1⟩, ⟨107, 7⟩]
      privileges := [⟨1, 2, 2, 100⟩, ⟨2, 4, 10, 107⟩]
      users := [⟨1, "alice", 100, true⟩]
      views := [⟨1, "FILES\x7b1.0.0\x7d", "files", 10, some 1⟩] } false
  enforced := false

def service : Service where
  store := store
  aliases := ⟨[⟨"al@C", "alice"⟩]⟩

/-- A tab, the login `al@C` and a space. -/
def header : List UInt8 :=
  [0x09, 0x61, 0x6C, 0x40, 0x43, 0x20]

def request : Request :=
  { Asked.http with user := some (ascii header) }

/-- The answer that could not be found is a denial like any other. -/
theorem inconsistency_denied :
    request.Posts (some header) Asked.question ∧
      (store.lookup.owningCluster 10).value =
        .error (.inconsistent "view resource 10 bound to missing cluster 1") ∧
      (service.answer request).value.status = 403 ∧
      service.Settles request (some header) Asked.question := by
  have asks := Request.posting_asks Asked.login Asked.question
  have posts : request.Posts (some header) Asked.question := by
    constructor
    case method => rfl
    case route => exact asks.route
    case header => exact .plain header
    case question =>
      have same : request.question = Asked.http.question := by
        unfold Request.question request
        dsimp only
      rw [same]
      exact asks.question
  have status : (service.answer request).value.status = 403 := by
    decide +kernel
  exact ⟨posts, rfl, status, posted_question_settled posts⟩

end Misbound

end Service

end AccessControl
