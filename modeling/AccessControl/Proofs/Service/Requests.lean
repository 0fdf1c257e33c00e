import AccessControl.Proofs.Json.Recovery
import AccessControl.Proofs.Json.Survival
import AccessControl.Service.Http

/-!
# Questions put in requests

Every question can be put in a request: as a document, or as the variables of a
GraphQL query.  The body of the request is read back as the question.
-/

namespace AccessControl

/-! ## Variables -/

namespace Json

open Document

theorem plain_encode_option {α : Type} [Document α] {depth : Nat}
    (plain : ∀ value : α, Plain depth (encode value)) (value : Option α) :
    Plain depth (encode value) := by
  cases value with
  | none => exact .null
  | some value => exact plain value

theorem plain_encode_id (depth : Nat) (id : Int64) : Plain depth (encode id) := by
  have least := id.minValue_le_toInt
  have greatest := id.toInt_le
  have word : Nat.pow 2 64 = 18446744073709551616 := rfl
  apply Plain.integer
  rw [word]
  simp only [Int64.toInt_minValue, Int64.toInt_maxValue] at least greatest
  omega

theorem plain_encode_texts (depth : Nat) (values : List String) :
    Plain (depth + 1) (encode values) := by
  apply Plain.array
  rw [List.forall_mem_map]
  exact fun s _ => .text s

end Json

namespace Service

open Json.Document (encode ofJson?)

namespace Field

/-- The variables that hold a question. -/
def assigned (question : Question) : List (String × Json) :=
  [("type", encode question.resourceType), ("id", encode question.resourceId),
    ("names", encode question.authorizations)]

theorem question?_assigned (question : Question) :
    question? (.object (assigned question)) = some question := by
  change (do
    let resourceType ← ofJson? (encode question.resourceType)
    let resourceId ← ofJson? (encode question.resourceId)
    let authorizations ← ofJson? (encode question.authorizations)
    pure (⟨resourceType, resourceId, authorizations⟩ : Question)) = some question
  simp [Json.ofJson?_encode]

theorem plain_assigned (depth : Nat) (question : Question) :
    Json.Plain (depth + 2) (.object (assigned question)) := by
  have distinct : ["type", "id", "names"].Nodup := by decide
  refine .object distinct ?_
  simp only [assigned, List.forall_mem_cons]
  exact ⟨Json.plain_encode_option .text _,
    Json.plain_encode_option (Json.plain_encode_id _) _,
    Json.plain_encode_texts _ _, List.forall_mem_nil _⟩

end Field

namespace Inquiry

/-- The body of a GraphQL request that puts a question. -/
def body (question : Question) : Json :=
  .object [("query", .text Field.authorizedQuery),
    ("variables", .object (Field.assigned question))]

theorem plain_body (question : Question) :
    Json.Plain Json.maxDepth (body question) := by
  have distinct : ["query", "variables"].Nodup := by decide
  refine .object distinct ?_
  simp only [List.forall_mem_cons]
  exact ⟨.text _, Field.plain_assigned _ question, List.forall_mem_nil _⟩

theorem parse_body (question : Question) :
    schema.parse (body question).render = .ok
      (.object [("query", .text Field.authorizedQuery), ("operationName", .null),
        ("variables", .object (Field.assigned question)),
        ("extensions", .null)]) := by
  have wellFormed := Json.wellFormed_object_iff.mp (plain_body question).wellFormed
  apply Json.Schema.parse_render_of_read
  unfold schema body
  rw [Json.Schema.read]
  apply Json.recordReader_object
  case distinct => decide
  case accepted => rfl
  case wellFormed => exact wellFormed
  case reads =>
    simp only [Json.Fields.toList, List.forall_mem_cons]
    refine ⟨?query, ?operation, ?assignment, ?extension, List.forall_mem_nil _⟩
    case query =>
      intro value isMember normal accepted rest ended
      exact Json.textReader_follows accepted (wellFormed _ isMember) ended
    case operation =>
      intro value isMember
      simp at isMember
    case assignment =>
      intro value isMember normal accepted rest ended
      obtain rfl : value = .object (Field.assigned question) := by
        simpa using isMember
      cases accepted
      have plain : Json.Plain Json.maxDepth (.object (Field.assigned question)) :=
        Field.plain_assigned _ question
      exact (Json.optionalReader_of_ne_null plain.wellFormed nofun _ rest).trans
        (plain.objectReader_append ended)
    case extension =>
      intro value isMember
      simp at isMember

theorem ofText?_body (question : Question) :
    ofText? (body question).render = some (.field (.authorized question)) := by
  have asked : Field.ofQuery? Field.authorizedQuery
      (.object (Field.assigned question)) = some (.authorized question) := by
    unfold Field.ofQuery?
    rw [if_neg (by decide +kernel), if_neg (by decide +kernel),
      if_neg (by decide +kernel), if_pos rfl, Field.question?_assigned, Option.map_some]
  have written : Field.authorizedQuery ≠ "" := by decide +kernel
  unfold ofText?
  simp only [(plain_body question).parse?_render, parse_body]
  change (if Field.authorizedQuery = "" then some nothing else
    (Field.ofQuery? Field.authorizedQuery (.object (Field.assigned question))).bind
      fun field => some (.field field)) = _
  rw [if_neg written, asked]
  rfl

end Inquiry

/-! ## Requests -/

/-- A request that puts a question for a login. -/
structure Request.Asks (request : Request) (login : String)
    (question : Question) : Prop where
  method : request.method = "POST"
  route : request.route = "/authorize"
  user : request.user = some login
  question : request.question = .ok question

/-- A GraphQL request that puts a question for a login. -/
structure Request.Inquires (request : Request) (login : String)
    (question : Question) : Prop where
  method : request.method = "POST"
  route : request.route = "/graphql"
  user : request.user = some login
  inquiry : request.inquiry? = some (.field (.authorized question))

namespace Request

/-- The request that posts a question for a login. -/
def posting (login : String) (question : Question) : Request where
  target := "/authorize"
  user := some login
  contentType := some "application/json"
  body := Json.Document.toText question

/-- The GraphQL request that puts a question for a login. -/
def inquiring (login : String) (question : Question) : Request where
  target := "/graphql"
  user := some login
  contentType := some "application/json"
  body := (Inquiry.body question).render

variable (login : String) (question : Question)

theorem posting_asks : (posting login question).Asks login question where
  method := rfl
  route := by
    have bare : Request.route { target := "/authorize" } = "/authorize" := by
      decide +kernel
    exact bare
  user := rfl
  question := by
    have isJson : ((some "application/json").bind MediaType.ofText?).any
        MediaType.isJson = true := by
      decide +kernel
    have read : Json.Document.ofText (posting login question).body = .ok question :=
      Json.ofText_toText question
    unfold Request.question
    rw [read]
    exact if_pos isJson

theorem inquiring_inquires :
    (inquiring login question).Inquires login question where
  method := rfl
  route := by
    have bare : Request.route { target := "/graphql" } = "/graphql" := by
      decide +kernel
    exact bare
  user := rfl
  inquiry := by
    have readable : (some "application/json").filter isReadable =
        some "application/json" := by
      decide +kernel
    have single : (MediaType.ofText? "application/json").any
        (fun mediaType => mediaType.type != "MULTIPART") = true := by
      decide +kernel
    obtain ⟨mediaType, isRead, other⟩ := (Option.any_eq_true _ _).mp single
    unfold inquiry?
    simp only [inquiring, readable, isRead]
    simp [bne_iff_ne.mp other, Inquiry.ofText?_body]

end Request

end Service

end AccessControl
