import AccessControl.Command.Run
import AccessControl.Proofs.Command.Arguments
import AccessControl.Proofs.Service.Requests
import AccessControl.Proofs.Store.Verdict
import AccessControl.Store.Sample

/-!
# Three ways to ask

A question is put over HTTP, in a GraphQL query or on the command line.  The
three resolve the caller, look up the names and decide in different orders, and
only the command line opens a connection of its own.  For a login that all of
them can carry, and whose privileges can be loaded, they answer alike.
-/

namespace AccessControl

namespace Store

/-! ## A new connection -/

section

variable {store : Store} (isOpen : store.isOpen = true)

include isOpen

theorem tables_reconnect (first : Table) :
    store.reconnect.tables first = store.tables first := by
  unfold Store.tables connected reconnect
  simp only [isOpen]

theorem caller?_reconnect (userName : String) :
    store.reconnect.caller? userName = store.caller? userName := by
  unfold caller? load
  rw [tables_reconnect isOpen]

theorem lookup_reconnect : store.reconnect.lookup = store.lookup := by
  unfold lookup privilegesOn load
  simp only [tables_reconnect isOpen]

end

theorem isOpen_of_caller? {store : Store} {userName : String}
    {caller : Option Caller}
    (loaded : (store.caller? userName).value = .ok caller) :
    store.isOpen = true := by
  cases isOpen : store.isOpen with
  | true => rfl
  | false =>
      have closed : store.tables .user = .error .closed := by
        unfold Store.tables connected
        rw [isOpen]
        rfl
      unfold caller? load at loaded
      rw [closed] at loaded
      cases loaded

end Store

namespace Service

/-! ## The caller of a login -/

/-- The privileges of a login can be loaded, whether or not it stands for an
active user. -/
def Loads (service : Service) (login : String) : Prop :=
  ∃ caller,
    (service.store.caller? (service.aliases.resolve login)).value = .ok caller

theorem value_resolve_of_caller? {service : Service} {login : String}
    {caller : Option Caller}
    (loaded : (service.store.caller? (service.aliases.resolve login)).value =
      .ok caller) :
    (service.resolve (some login)).value = .ok caller := by
  unfold resolve
  simp only [Logged.value_bind, loaded]
  cases caller <;> rfl

theorem value_asCaller {service : Service} {request : Request}
    {caller : Option Caller}
    (resolved : (service.resolve request.login).value = .ok caller)
    (serve : Option Caller → Logged Response) :
    (service.asCaller request serve).value = (serve caller).value := by
  unfold asCaller
  simp only [Logged.value_bind, resolved]

/-- A login that a header can carry as it is. -/
structure IsHeaderLogin (login : String) : Prop where
  nonempty : login ≠ ""
  readable : isReadable login = true
  trimmed : Text.trim login = login

theorem IsHeaderLogin.login_eq {login : String} (plain : IsHeaderLogin login)
    {request : Request} (named : request.user = some login) :
    request.login = some login := by
  unfold Request.login
  simp [named, plain.readable, plain.trimmed, plain.nonempty]

/-! ## What the front ends answer -/

theorem answer_of_inquires (service : Service) {request : Request}
    {login : String} {question : Question}
    (inquires : request.Inquires login question) :
    service.answer request =
      service.answerGraphQl request (some (.field (.authorized question))) := by
  unfold answer
  simp [inquires.route, inquires.method, inquires.inquiry]

section

variable {service : Service} {login : String} {caller : Option Caller}
  (plain : IsHeaderLogin login)
  (resolved : (service.resolve (some login)).value = .ok caller)

include plain resolved

theorem value_answer_of_asks {request : Request} {question : Question}
    (asks : request.Asks login question) :
    (service.answer request).value =
      (service.answerQuestion caller question).value := by
  have route : service.answer request = service.answerAuthorize request := by
    unfold answer
    simp [asks.route, asks.method]
  rw [← plain.login_eq asks.user] at resolved
  rw [route, answerAuthorize, value_asCaller resolved, asks.question]

theorem value_answerGraphQl_authorized {request : Request}
    (named : request.user = some login) (question : Question) :
    (service.answerGraphQl request
        (some (.field (.authorized question)))).value =
      .ofJson (service.answerField caller (.authorized question)).value := by
  rw [← plain.login_eq named] at resolved
  rw [answerGraphQl, value_asCaller resolved]
  rfl

end

end Service

/-- The service over a store under a configuration. -/
def Configuration.service (configuration : Configuration) (store : Store) :
    Service where
  store := store
  aliases := configuration.aliases.value

theorem Configuration.decide_service_reconnect (configuration : Configuration)
    {store : Store} (isOpen : store.isOpen = true) (caller : Option Caller)
    (query : Query) :
    (configuration.service store.reconnect).decide caller query =
      (configuration.service store).decide caller query := by
  unfold Service.decide Configuration.service
  rw [Store.lookup_reconnect isOpen]

namespace Command

theorem value_runCheck {store : Store} {configuration : Configuration}
    {login : String} {caller : Option Caller}
    (loaded :
      (store.caller? (configuration.aliases.value.resolve login)).value =
        .ok caller)
    (question : Question) :
    (runCheck store configuration login question).value =
      match question.query with
      | .error unknown => .failed (.unknownName unknown)
      | .ok query =>
          { result := .ok <| .verdict
              ((configuration.service store).decide caller query).value } := by
  have resolved : ((configuration.service store).resolve
      (some login)).value = .ok caller :=
    Service.value_resolve_of_caller? loaded
  unfold Configuration.service at resolved ⊢
  unfold runCheck
  rw [Logged.value_bind]
  cases question.query with
  | error unknown => rfl
  | ok query =>
      simp only [Logged.value_bind]
      rw [resolved]
      rfl

theorem value_run_check {environment : Environment} {stores : Stores}
    {configuration : Configuration} {url : String}
    (configured : Configuration.load environment = .ok configuration)
    (located : environment.databaseUrl = some url) (login : String)
    (question : Question) :
    (run environment stores (.check login question)).value =
      (runCheck (stores url).reconnect configuration login question).value := by
  unfold run
  simp only [configured, located]
  rfl

/-- A command prints an output, and the program ends with an exit code. -/
def Outcome.Prints (outcome : Outcome) (output : String) (exitCode : Nat) :
    Prop :=
  ∃ report, outcome.result = .ok report ∧ report.output = output ∧
    report.exitCode = exitCode

/-- A command fails because of a name that is not in the catalog. -/
def Outcome.Misses (outcome : Outcome) (unknown : UnknownName) : Prop :=
  outcome.result = .error (.unknownName unknown)

end Command

/-! ## The same verdict -/

theorem UnknownName.message_injective :
    Function.Injective UnknownName.message := by
  intro left right same
  have characters := congrArg String.toList same
  cases left with
  | resourceType text =>
      cases right with
      | resourceType other =>
          simpa [message, kind, UnknownName.text, String.toList_inj]
            using characters
      | authorization other =>
          simp [message, kind, UnknownName.text] at characters
  | authorization text =>
      cases right with
      | resourceType other =>
          simp [message, kind, UnknownName.text] at characters
      | authorization other =>
          simpa [message, kind, UnknownName.text, String.toList_inj]
            using characters

namespace Service

/-- A GraphQL response tells a verdict. -/
def Response.Tells (response : Response) (granted : Bool) : Prop :=
  response.body = .json (fieldData "authorized" (.boolean granted))

/-- A GraphQL response reports a refusal. -/
def Response.Reports (response : Response) (refusal : Refusal) : Prop :=
  response.body = .json (refusalData refusal)

namespace Response

variable {response : Response}

theorem Tells.iff {granted : Bool} (tells : response.Tells granted)
    (other : Bool) : response.Tells other ↔ granted = other := by
  unfold Tells at tells ⊢
  rw [tells]
  simp [fieldData]

theorem Tells.not_reports {granted : Bool} (tells : response.Tells granted)
    (refusal : Refusal) : ¬ response.Reports refusal := by
  unfold Tells at tells
  unfold Reports
  rw [tells]
  simp [fieldData, refusalData]

theorem Reports.not_tells {refusal : Refusal}
    (reports : response.Reports refusal) (granted : Bool) :
    ¬ response.Tells granted :=
  fun tells => tells.not_reports refusal reports

theorem Reports.unknownName_iff {unknown : UnknownName}
    (reports : response.Reports (.ofUnknownName unknown))
    (other : UnknownName) :
    response.Reports (.ofUnknownName other) ↔ unknown = other := by
  unfold Reports at reports ⊢
  rw [reports]
  constructor
  · intro same
    have reported : unknown.message = other.message ∧
        (Refusal.ofUnknownName unknown).extensions =
          (Refusal.ofUnknownName other).extensions := by
      simpa [refusalData, Refusal.ofUnknownName, Refusal.message] using same
    exact UnknownName.message_injective reported.1
  · rintro rfl
    rfl

end Response

/-- An HTTP response, a GraphQL response and the outcome of a check that give
one verdict.  Each verdict of one shows in both of the others, and there is no
fourth one. -/
structure Agree (http graphQl : Response) (check : Command.Outcome) : Prop where
  granted_graphQl : http.status = 200 ↔ graphQl.Tells true
  granted_check : http.status = 200 ↔ check.Prints "authorized\n" 0
  denied_graphQl : http.status = 403 ↔ graphQl.Tells false
  denied_check : http.status = 403 ↔ check.Prints "denied\n" 1
  refused_graphQl : http.status = 400 ↔
    ∃ refusal, refusal.code = "INVALID_INPUT" ∧ graphQl.Reports refusal
  refused_check : http.status = 400 ↔ ∃ unknown, check.Misses unknown
  same_name : ∀ unknown,
    graphQl.Reports (.ofUnknownName unknown) ↔ check.Misses unknown
  settled : http.status = 200 ∨ http.status = 403 ∨ http.status = 400

namespace Agree

variable {http graphQl : Response} {check : Command.Outcome}

theorem of_decided {granted : Bool}
    (status : http.status = if granted then 200 else 403)
    (tells : graphQl.Tells granted)
    (checked : check.result = .ok (.verdict granted)) :
    Agree http graphQl check := by
  have prints (output : String) (exitCode : Nat) :
      check.Prints output exitCode ↔
        (Command.Report.verdict granted).output = output ∧
          (Command.Report.verdict granted).exitCode = exitCode := by
    simp [Command.Outcome.Prints, checked]
  have misses (unknown : UnknownName) : ¬ check.Misses unknown := by
    simp [Command.Outcome.Misses, checked]
  constructor
  case granted_graphQl => cases granted <;> simp [status, tells.iff]
  case granted_check =>
    cases granted <;>
      simp [status, prints, Command.Report.output, Command.Report.exitCode]
  case denied_graphQl => cases granted <;> simp [status, tells.iff]
  case denied_check =>
    cases granted <;>
      simp [status, prints, Command.Report.output, Command.Report.exitCode]
  case refused_graphQl => cases granted <;> simp [status, tells.not_reports]
  case refused_check => cases granted <;> simp [status, misses]
  case same_name => simp [tells.not_reports, misses]
  case settled => cases granted <;> simp [status]

theorem of_unknown {unknown : UnknownName} (status : http.status = 400)
    (reports : graphQl.Reports (.ofUnknownName unknown))
    (missed : check.Misses unknown) : Agree http graphQl check := by
  have misses (other : UnknownName) :
      check.Misses other ↔ unknown = other := by
    unfold Command.Outcome.Misses at missed ⊢
    simp [missed]
  have prints (output : String) (exitCode : Nat) :
      ¬ check.Prints output exitCode := by
    unfold Command.Outcome.Misses at missed
    simp [Command.Outcome.Prints, missed]
  constructor
  case granted_graphQl => simp [status, reports.not_tells]
  case granted_check => simp [status, prints]
  case denied_graphQl => simp [status, reports.not_tells]
  case denied_check => simp [status, prints]
  case refused_graphQl => exact iff_of_true status ⟨_, rfl, reports⟩
  case refused_check => exact iff_of_true status ⟨unknown, missed⟩
  case same_name => simp [reports.unknownName_iff, misses]
  case settled => exact .inr (.inr status)

end Agree

section

variable {environment : Environment} {stores : Command.Stores}
  {configuration : Configuration} {url : String}
  (configured : Configuration.load environment = .ok configuration)
  (located : environment.databaseUrl = some url) {login : String}
  (plain : IsHeaderLogin login)
  (loads : (configuration.service (stores url)).Loads login)

include configured located plain loads

theorem agree_of_asks {question : Question} {http graphQl : Request}
    (asks : http.Asks login question) (named : graphQl.user = some login) :
    Agree ((configuration.service (stores url)).answer http).value
      ((configuration.service (stores url)).answerGraphQl graphQl
        (some (.field (.authorized question)))).value
      (Command.run environment stores (.check login question)).value := by
  obtain ⟨caller, loaded⟩ := loads
  have resolved := value_resolve_of_caller? loaded
  -- The check connects anew, to a store that is open because it was read.
  have isOpen : (stores url).isOpen = true := Store.isOpen_of_caller? loaded
  have checked : ((stores url).reconnect.caller?
      (configuration.aliases.value.resolve login)).value = .ok caller := by
    rw [Store.caller?_reconnect isOpen]
    exact loaded
  rw [value_answer_of_asks plain resolved asks,
    value_answerGraphQl_authorized plain resolved named,
    Command.value_run_check configured located, Command.value_runCheck checked]
  simp only [configuration.decide_service_reconnect isOpen]
  cases translated : question.query with
  | error unknown =>
      have missed : Command.Outcome.Misses
          (.failed (.unknownName unknown)) unknown := rfl
      refine .of_unknown ?_ ?_ missed
      · simp [answerQuestion, translated, Response.ofRefusal, Refusal.status,
          Refusal.ofUnknownName]
      · simp [answerField, translated, Response.Reports, Response.ofJson]
  | ok query =>
      refine .of_decided ?_ ?_ rfl
      · simp only [answerQuestion, translated, Logged.value_bind]
        split <;> rfl
      · simp [answerField, translated, Response.Tells, Response.ofJson]

/-- Every question can be posted and can be put in a GraphQL request, and the
answers to both agree with the check. -/
theorem agree_on_every_question (question : Question) :
    Agree
      ((configuration.service (stores url)).answer (.posting login question)).value
      ((configuration.service (stores url)).answer
        (.inquiring login question)).value
      (Command.run environment stores (.check login question)).value := by
  rw [answer_of_inquires _ (Request.inquiring_inquires login question)]
  exact agree_of_asks configured located plain loads
    (Request.posting_asks login question) rfl

end

/-- For a login that a header can carry and whose privileges can be loaded, a
question has the same verdict over HTTP, in a GraphQL query and on the command
line, where it can always be asked. -/
theorem front_ends_agree {environment : Environment} {stores : Command.Stores}
    {configuration : Configuration} {url : String}
    (configured : Configuration.load environment = .ok configuration)
    (located : environment.databaseUrl = some url) {login : String}
    (plain : IsHeaderLogin login)
    (loads : (configuration.service (stores url)).Loads login)
    {question : Question} {http graphQl : Request}
    (asks : http.Asks login question) (named : graphQl.user = some login) :
    Command.read (Command.checkArguments login question) =
        .ok (.check login question) ∧
      Agree ((configuration.service (stores url)).answer http).value
        ((configuration.service (stores url)).answerGraphQl graphQl
          (some (.field (.authorized question)))).value
        (Command.run environment stores (.check login question)).value :=
  ⟨Command.read_checkArguments login question,
    agree_of_asks configured located plain loads asks named⟩

namespace Asked

/-- The login of alice in an external directory. -/
def login : String :=
  "alice@CORP.EXAMPLE"

def environment : Environment where
  loginAliases := some "alice@CORP.EXAMPLE=alice"
  databaseUrl := some "sample"

def configuration : Configuration where
  database := {}
  loginAliases := [⟨"alice@CORP.EXAMPLE", "alice"⟩]

def stores : Command.Stores :=
  fun _ => Store.Sample.store

/-- Whether the view under 10 may be used. -/
def question : Question where
  resourceType := some "view"
  resourceId := some 10
  authorizations := ["view.use"]

def http : Request :=
  .posting login question

def graphQl : Request :=
  .inquiring login question

theorem load_environment :
    Configuration.load environment = .ok configuration :=
  Configuration.load_eq_ok_iff.mpr ⟨by decide +kernel, rfl⟩

/-- All front ends let alice through, and the GraphQL request is answered as
the question that it puts. -/
theorem alice_told_alike :
    (Configuration.load environment = .ok configuration ∧
      environment.databaseUrl = some "sample" ∧ IsHeaderLogin login ∧
      (configuration.service (stores "sample")).Loads login ∧
      http.Asks login question ∧ graphQl.user = some login) ∧
    ((configuration.service (stores "sample")).answer http).value.status =
      200 ∧
    graphQl.Inquires login question ∧
    (configuration.service (stores "sample")).answer graphQl =
      (configuration.service (stores "sample")).answerGraphQl graphQl
        (some (.field (.authorized question))) ∧
    Command.read (Command.checkArguments login question) =
        .ok (.check login question) ∧
      Agree ((configuration.service (stores "sample")).answer http).value
        ((configuration.service (stores "sample")).answerGraphQl graphQl
          (some (.field (.authorized question)))).value
        (Command.run environment stores (.check login question)).value := by
  have plain : IsHeaderLogin login :=
    ⟨by decide +kernel, by decide +kernel, by decide +kernel⟩
  have asks : http.Asks login question := Request.posting_asks login question
  have inquires : graphQl.Inquires login question :=
    Request.inquiring_inquires login question
  have loaded : ((stores "sample").caller? _).value = .ok _ :=
    Store.value_caller?_of_created rfl rfl
      ((configuration.service (stores "sample")).aliases.resolve login)
  have loads : (configuration.service (stores "sample")).Loads login := ⟨_, loaded⟩
  have status :
      ((configuration.service (stores "sample")).answer http).value.status =
        200 := by
    rw [value_answer_of_asks plain (value_resolve_of_caller? loaded) asks]
    decide +kernel
  exact ⟨⟨load_environment, rfl, plain, loads, asks, rfl⟩, status,
    inquires, answer_of_inquires _ inquires,
    front_ends_agree load_environment rfl plain loads asks rfl⟩

end Asked

end Service

end AccessControl
