import AccessControl.Decision
import AccessControl.LoginAlias
import AccessControl.Store.Loading

/-!
# From logins to callers

A request names its caller by a login.  The login is resolved through the
aliases, once, and the user of that name is loaded from the store.
-/

namespace AccessControl

/-- What requests are served from. -/
structure Service where
  store : Store
  aliases : LoginAliases := {}

namespace Service

/-- The privileges of a user could not be loaded. -/
structure LoadFailure where
  userName : String
  fault : Store.StoreFault
deriving DecidableEq, Repr

namespace LoadFailure

/-- The sentence that reports the failure. -/
def summary (failure : LoadFailure) : String :=
  "failed to load privileges for '" ++ failure.userName ++ "'"

/-- The sentence that reports the failure with its cause. -/
def message (failure : LoadFailure) : String :=
  failure.summary ++ ": " ++ failure.fault.message

end LoadFailure

/-- The caller that a login stands for.  Without a login, and for a login that
stands for no active user, there is none. -/
def resolve (service : Service) (login : Option String) :
    Logged (Except LoadFailure (Option Caller)) :=
  match login with
  | none => pure (.ok none)
  | some login => do
      let userName := service.aliases.resolve login
      match ← service.store.caller? userName with
      | .error fault => pure (.error { userName, fault })
      | .ok (some caller) => pure (.ok (some caller))
      | .ok none => do
          Logged.emit (.noActiveUser login userName)
          pure (.ok none)

/-- Decide a query over the store, and keep what was logged. -/
def decide (service : Service) (caller : Option Caller) (query : Query) :
    Logged Bool :=
  let decision := service.store.lookup.decide caller query
  { value := decision.granted, events := decision.events }

end Service

end AccessControl
