import AccessControl.Decision
import AccessControl.Json.Value

/-!
# Refusals

What a caller is told when a request is not served.  A denial never says which
authorization was missing, and an internal fault never says what it was; that
goes to the log.
-/

namespace AccessControl.Service

/-- Why a request is not served. -/
inductive Refusal where
  | unauthorized
  /-- The caller is known but not allowed. -/
  | forbidden
  | invalidInput (reason : String)
  | internal
deriving DecidableEq, Repr

namespace Refusal

/-- The word for a refusal that programs look at. -/
def code : Refusal → String
  | .unauthorized => "UNAUTHORIZED"
  | .forbidden => "FORBIDDEN"
  | .invalidInput _ => "INVALID_INPUT"
  | .internal => "INTERNAL"

/-- The status of an HTTP response. -/
def status : Refusal → Nat
  | .unauthorized => 401
  | .forbidden => 403
  | .invalidInput _ => 400
  | .internal => 500

/-- The sentence shown to the caller. -/
def message : Refusal → String
  | .unauthorized => "unauthorized"
  | .forbidden => "forbidden"
  | .invalidInput reason => "bad request: " ++ reason
  | .internal => "internal server error"

/-- What an error of a GraphQL response carries besides its message. -/
def extensions (refusal : Refusal) : Json :=
  match refusal with
  | .invalidInput _ =>
      .object [("code", .text refusal.code), ("type", .text "BAD_REQUEST")]
  | .unauthorized | .forbidden | .internal =>
      .object [("code", .text refusal.code)]

/-- A name that is not in the catalog is the caller's fault. -/
def ofUnknownName (unknown : UnknownName) : Refusal :=
  .invalidInput unknown.message

/-- A denial. -/
def ofDenial : AccessDenied → Refusal
  | .denied => .forbidden

/-- An internal fault.  Its description goes to the log only. -/
def ofFault (description : String) : Logged Refusal := do
  Logged.emit (.internalError description)
  pure .internal

end Refusal

end AccessControl.Service
