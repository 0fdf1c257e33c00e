import AccessControl.Service.GraphQl
import AccessControl.Service.MediaType

/-!
# HTTP requests

Three paths are served: the health of the service, authorization questions and
GraphQL requests.  The caller of the last two is named by a header and resolved
before the body is looked at.

Two limits are not described: bodies are taken to be no longer than the two
mebibytes that a server reads by default, and of GraphQL queries only the fixed
texts of `Field.ofQuery?` are understood.
-/

namespace AccessControl.Service

/-- A request, as far as it matters. -/
structure Request where
  method : String := "POST"
  /-- A path, or a scheme, a host and a path; a query and a fragment may
  follow. -/
  target : String
  /-- The header that names the login of the caller. -/
  user : Option String := none
  contentType : Option String := none
  /-- At most two mebibytes; what becomes of a longer body is not described. -/
  body : String := ""
  requestId : Option String := none

/-- The body of a response. -/
inductive Body where
  | json (document : Json)
  | text (content : String)
  /-- Words that nobody should rely on. -/
  | unspecified

/-- The id by which a request is traced. -/
inductive RequestId where
  /-- The id that the request brought. -/
  | given (id : String)
  /-- An id made up for a request without one. -/
  | generated
deriving DecidableEq, Repr

/-- Whether a header can be read as text: visible ASCII, spaces and tabs. -/
def isReadable (header : String) : Bool :=
  header.toList.all fun c =>
    (0x20 ≤ c.toNat && c.toNat ≤ 0x7E) || c == '\t'

/-- The text of an id that was brought, if it can be read. -/
def RequestId.text? : RequestId → Option String
  | .given id => if isReadable id then some id else none
  | .generated => none

/-- A response. -/
structure Response where
  status : Nat
  body : Body := .unspecified

namespace Response

/-- A response with a JSON document. -/
def ofJson (document : Json) : Response where
  status := 200
  body := .json document

/-- The response to a request that is not served. -/
def ofRefusal (refusal : Refusal) : Response where
  status := refusal.status
  body := .text refusal.message

end Response

namespace Request

/-- The id that the response carries. -/
def traceId (request : Request) : RequestId :=
  match request.requestId with
  | some id => .given id
  | none => .generated

/-- The characters of a scheme. -/
def isSchemeChar (c : Char) : Bool :=
  c.isAlphanum || c == '+' || c == '-' || c == '.'

/-- What follows the host of a target.  A target that starts with a slash names
no host, and one that starts with neither a slash nor a scheme has no path. -/
def afterHost : List Char → List Char
  | '/' :: rest => '/' :: rest
  | cs =>
      match cs.dropWhile isSchemeChar with
      | ':' :: '/' :: '/' :: rest =>
          rest.dropWhile fun c => c != '/' && c != '?' && c != '#'
      | _ => []

/-- The path of the target, without query and fragment. -/
def route (request : Request) : String :=
  String.ofList <|
    (afterHost request.target.toList).takeWhile fun c => c != '?' && c != '#'

/-- The login that the request names: its header without surrounding blanks,
if that can be read and is not empty. -/
def login (request : Request) : Option String :=
  match request.user with
  | some header =>
      let login := Text.trim header
      if isReadable header && login != "" then some login else none
  | none => none

/-- The question in the body of a request, or the response that refuses the
body.  The length of the body is no reason to refuse it. -/
def question (request : Request) : Except Response Question :=
  if (request.contentType.bind MediaType.ofText?).any MediaType.isJson then
    match Json.Document.ofText request.body with
    | .ok question => .ok question
    | .error .malformed => .error { status := 400 }
    | .error .mismatch => .error { status := 422 }
  else
    .error { status := 415 }

/-- What a GraphQL request asks for, if its body can be read and its query is
one of the fixed texts.  The body is taken for JSON unless the content type
names a type of several parts; it must name some type, but a header that cannot
be read as text counts as missing. -/
def inquiry? (request : Request) : Option Inquiry :=
  match request.contentType.filter isReadable with
  | none => Inquiry.ofText? request.body
  | some contentType => do
      let mediaType ← MediaType.ofText? contentType
      if mediaType.type == "MULTIPART" then
        let boundary ← mediaType.parameter? "BOUNDARY"
        Inquiry.ofParts? (← Multipart.parts? boundary request.body)
      else
        Inquiry.ofText? request.body

end Request

/-- Serve a request of the caller that it names.  A caller that cannot be
loaded is an internal fault. -/
def asCaller (service : Service) (request : Request)
    (serve : Option Caller → Logged Response) : Logged Response := do
  match ← service.resolve request.login with
  | .error failure => do
      let refusal ← Refusal.ofFault failure.summary
      pure (.ofRefusal refusal)
  | .ok caller => serve caller

/-- The response to the health request. -/
def answerHealth (service : Service) : Response :=
  .ofJson <| .object
    [("ok", .boolean service.store.isOpen),
      ("db_ok", .boolean service.store.isOpen),
      ("version", .text version)]

/-- The response to an authorization question. -/
def answerQuestion (service : Service) (caller : Option Caller)
    (question : Question) : Logged Response :=
  match question.query with
  | .error unknown => pure (.ofRefusal (.ofUnknownName unknown))
  | .ok query => do
      let granted ← service.decide caller query
      if granted then
        pure (.ofJson (.object [("authorized", .boolean true)]))
      else
        pure (.ofRefusal .forbidden)

/-- The response to a request for an authorization. -/
def answerAuthorize (service : Service) (request : Request) : Logged Response :=
  service.asCaller request fun caller =>
    match request.question with
    | .error response => pure response
    | .ok question => service.answerQuestion caller question

/-- The response to a GraphQL request.  One that is not understood is refused
as a bad request, whether its body cannot be read or its query is none of the
fixed texts. -/
def answerGraphQl (service : Service) (request : Request)
    (inquiry : Option Inquiry) : Logged Response :=
  service.asCaller request fun caller =>
    match inquiry with
    | some inquiry => do
        let document ← service.answerInquiry caller inquiry
        pure (.ofJson document)
    | none => pure { status := 400 }

/-- The response to a request. -/
def answer (service : Service) (request : Request) : Logged Response :=
  if request.route = "/health" then
    if request.method = "GET" then
      pure service.answerHealth
    else if request.method = "HEAD" then
      pure { status := service.answerHealth.status, body := .text "" }
    else
      pure { status := 405 }
  else if request.route = "/authorize" then
    if request.method = "POST" then
      service.answerAuthorize request
    else
      pure { status := 405 }
  else if request.route = "/graphql" then
    if request.method = "POST" then
      service.answerGraphQl request request.inquiry?
    else
      pure { status := 405 }
  else
    pure { status := 404 }

end AccessControl.Service
