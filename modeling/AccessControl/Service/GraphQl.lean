import AccessControl.Json.Records
import AccessControl.Service.Login
import AccessControl.Service.Multipart
import AccessControl.Service.Refusal

/-!
# GraphQL fields

The fields that a GraphQL request can ask for, and the response to each.  The
caller was resolved before; an unknown name is reported inside a response of
its own, with no data, and so is a request that names an operation or has an
empty query.

The query language itself is not described.  Each field has one fixed query
text, and the variables of an authorization question have the declared types.
A request with any other text or variables is refused like one whose body
cannot be read.
-/

namespace AccessControl.Service

/-- The version that the service reports. -/
def version : String :=
  "0.1.0"

/-- The fields that can be asked for. -/
inductive Field where
  /-- The caller's name and authorizations. -/
  | me
  | health
  | version
  /-- Whether the caller holds any of some authorizations. -/
  | authorized (question : Question)
deriving DecidableEq, Repr

namespace Field

/-- The query text for the caller's name and authorizations. -/
def meQuery : String :=
  "\x7b me \x7b name authorizations \x7d \x7d"

/-- The query text for the state of the service. -/
def healthQuery : String :=
  "\x7b health \x7b ok \x7d \x7d"

/-- The query text for the version of the service. -/
def versionQuery : String :=
  "\x7b version \x7d"

/-- The query text for an authorization question, which variables hold. -/
def authorizedQuery : String :=
  "query($type: String, $id: Int, $names: [String!]!) \x7b " ++
    "authorized(resourceType: $type, resourceId: $id, authorizations: $names) \x7d"

/-- The question that variables hold.  A missing variable is null. -/
def question? (assigned : Json) : Option Question := do
  let value (name : String) : Json := (assigned.member? name).getD .null
  let resourceType ← Json.Document.ofJson? (value "type")
  let resourceId ← Json.Document.ofJson? (value "id")
  let authorizations ← Json.Document.ofJson? (value "names")
  pure { resourceType, resourceId, authorizations }

/-- The field that a query asks for.  Only the fixed query texts are
understood, and only variables of the declared types. -/
def ofQuery? (query : String) (assigned : Json) : Option Field :=
  if query = meQuery then some .me
  else if query = healthQuery then some .health
  else if query = versionQuery then some .version
  else if query = authorizedQuery then (question? assigned).map .authorized
  else none

end Field

/-- What a GraphQL request asks for. -/
inductive Inquiry where
  | field (field : Field)
  /-- Nothing: the query is empty. -/
  | nothing
  /-- An operation by name.  The operations of the fixed queries have no
  name. -/
  | unknownOperation (name : String)
deriving DecidableEq, Repr

namespace Inquiry

/-- The schema of request documents. -/
def schema : Json.Schema :=
  .record <|
    .field "query" .text (some (.text "")) <|
    .field "operationName" (.optional .text) (some .null) <|
    .field "variables" (.optional .object) (some .null) <|
    .field "extensions" (.optional .object) (some .null) .none

/-- What the body of a request asks for.  The whole body must denote a value,
also where the schema ignores it. -/
def ofText? (body : String) : Option Inquiry := do
  let _ ← Json.parse? body
  let document ← (schema.parse body).toOption
  let query ← (← document.member? "query").text?
  if query = "" then
    pure .nothing
  else
    let field ← Field.ofQuery? query (← document.member? "variables")
    match ← document.member? "operationName" with
    | .text name => pure (.unknownOperation name)
    | _ => pure (.field field)

/-- The names of the files that a map of files asks for: the members of an
object, each with a list of the places of a file. -/
def mappedFiles? (content : String) : Option (List String) := do
  match ← Json.parse? content with
  | .object members =>
      members.mapM fun (name, places) => do
        let _ ← (← places.items?).mapM Json.text?
        pure name
  | _ => none

/-- What a body of several parts asks for.  One part holds the request and
another one maps files to it; every file in the map must be among the parts.
Of several parts of one name the last one counts, but all must be readable. -/
def ofParts? (parts : List Part) : Option Inquiry := do
  let contents (name : String) : List String :=
    (parts.filter fun part => part.name == some name).map Part.content
  let inquiry ← (← (contents "operations").mapM ofText?).getLast?
  let mapped ← (← (contents "map").mapM mappedFiles?).getLast?
  let files := (parts.filter Part.isFile).filterMap Part.name
  if mapped.all files.contains then some inquiry else none

end Inquiry

/-- A response with the value of one field. -/
def fieldData (name : String) (value : Json) : Json :=
  .object [("data", .object [(name, value)])]

/-- A response that reports a refusal. -/
def refusalData (refusal : Refusal) : Json :=
  .object
    [("data", .null),
      ("errors", .array
        [.object
          [("message", .text refusal.message),
            ("extensions", refusal.extensions)]])]

/-- A response that reports a fault of the query. -/
def queryFaultData (fault : List (String × Json)) : Json :=
  .object [("data", .null), ("errors", .array [.object fault])]

/-- The sentence that reports an operation that a query does not name. -/
def unknownOperationMessage (name : String) : String :=
  "Unknown operation named \"" ++ name ++ "\""

/-- The report that an empty query lacks its first definition, which points
below the empty first line. -/
def emptyQueryMessage : String :=
  " --> 1:1\n  |\n1 | \n  | ^---\n  |\n  = expected executable_definition"

/-- The place at the start of a query. -/
def queryStart : Json :=
  .object [("line", .integer 1), ("column", .integer 1)]

/-- What a caller is told about itself. -/
def callerData (caller : Caller) : Json :=
  .object
    [("name", .text caller.name),
      ("authorizations", .array (caller.authorizationNames.map Json.text))]

/-- The response to a caller that asks for a field. -/
def answerField (service : Service) (caller : Option Caller) :
    Field → Logged Json
  | .me => pure (fieldData "me" ((caller.map callerData).getD .null))
  | .health => pure (fieldData "health" (.object [("ok", .boolean true)]))
  | .version => pure (fieldData "version" (.text Service.version))
  | .authorized question =>
      match question.query with
      | .error unknown => pure (refusalData (.ofUnknownName unknown))
      | .ok query => do
          let granted ← service.decide caller query
          pure (fieldData "authorized" (.boolean granted))

/-- The response to a GraphQL request of a caller. -/
def answerInquiry (service : Service) (caller : Option Caller) :
    Inquiry → Logged Json
  | .field field => service.answerField caller field
  | .nothing =>
      pure <| queryFaultData
        [("message", .text emptyQueryMessage),
          ("locations", .array [queryStart])]
  | .unknownOperation name =>
      pure (queryFaultData [("message", .text (unknownOperationMessage name))])

end AccessControl.Service
