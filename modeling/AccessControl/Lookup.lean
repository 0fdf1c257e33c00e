import AccessControl.Event

/-!
# Questions to the privilege records

A decision that its caller's own privileges do not settle asks two questions:
which cluster owns the view stored under a resource id, and which privileges
are recorded against that id.  A `PrivilegeLookup` is any way to answer them;
a `PrivilegeRegister` answers from fixed lists.

An answer is had by asking for it with `PrivilegeLookup.ask`, which keeps a
record: `Consulted` is a value together with the questions that were asked to
find it and the events logged on the way.
-/

namespace AccessControl

/-- Answers to the two questions about a resource id.  Missing data is an
answer, not a failure. -/
structure PrivilegeLookup where
  /-- The cluster that owns the view stored under an id; `none` when no view
  is stored there or it stands alone. -/
  owningCluster : Int64 → Logged (Except LookupFailure (Option ResourceRef))
  /-- Every privilege recorded against an id, whoever holds it. -/
  recordedPrivileges : Int64 → Logged (Except LookupFailure (List Privilege))

/-- A question put to a lookup. -/
inductive LookupCall where
  | owningCluster (id : Int64)
  | recordedPrivileges (id : Int64)
deriving DecidableEq, Repr

/-- What answers a question. -/
abbrev LookupCall.Answer : LookupCall → Type
  | .owningCluster _ => Option ResourceRef
  | .recordedPrivileges _ => List Privilege

/-- The answer of a lookup to a question. -/
def PrivilegeLookup.answer (lookup : PrivilegeLookup) :
    (call : LookupCall) → Logged (Except LookupFailure call.Answer)
  | .owningCluster id => lookup.owningCluster id
  | .recordedPrivileges id => lookup.recordedPrivileges id

/-! ## Asking -/

/-- A value with the questions asked and the events logged in its computation,
the earliest first. -/
structure Consulted (α : Type) where
  value : α
  calls : List LookupCall
  events : List Event

namespace Consulted

/-- A value found without any question or event. -/
def quiet {α : Type} (value : α) : Consulted α where
  value := value
  calls := []
  events := []

/-- Continue with the value; what the continuation asks and logs comes
later. -/
def andThen {α β : Type} (first : Consulted α) (next : α → Consulted β) :
    Consulted β where
  value := (next first.value).value
  calls := first.calls ++ (next first.value).calls
  events := first.events ++ (next first.value).events

instance : Monad Consulted where
  pure := quiet
  bind := andThen

/-- A logged value for which nothing was asked. -/
def unasked {α : Type} (logged : Logged α) : Consulted α where
  value := logged.value
  calls := []
  events := logged.events

instance : MonadLift Logged Consulted where
  monadLift := unasked

section

variable {α β : Type}

@[simp]
theorem value_pure (value : α) : (pure value : Consulted α).value = value :=
  rfl

@[simp]
theorem calls_pure (value : α) : (pure value : Consulted α).calls = [] :=
  rfl

@[simp]
theorem events_pure (value : α) : (pure value : Consulted α).events = [] :=
  rfl

@[simp]
theorem value_bind (first : Consulted α) (next : α → Consulted β) :
    (first >>= next).value = (next first.value).value :=
  rfl

@[simp]
theorem calls_bind (first : Consulted α) (next : α → Consulted β) :
    (first >>= next).calls = first.calls ++ (next first.value).calls :=
  rfl

@[simp]
theorem events_bind (first : Consulted α) (next : α → Consulted β) :
    (first >>= next).events = first.events ++ (next first.value).events :=
  rfl

@[simp]
theorem value_liftM (logged : Logged α) :
    (liftM logged : Consulted α).value = logged.value :=
  rfl

@[simp]
theorem calls_liftM (logged : Logged α) :
    (liftM logged : Consulted α).calls = [] :=
  rfl

@[simp]
theorem events_liftM (logged : Logged α) :
    (liftM logged : Consulted α).events = logged.events :=
  rfl

end

end Consulted

namespace PrivilegeLookup

/-- Ask a question, which is recorded whatever the answer is. -/
def ask (lookup : PrivilegeLookup) (call : LookupCall) :
    Consulted (Except LookupFailure call.Answer) where
  value := (lookup.answer call).value
  calls := [call]
  events := (lookup.answer call).events

section

variable (lookup : PrivilegeLookup) (call : LookupCall) (id : Int64)

@[simp]
theorem calls_ask : (lookup.ask call).calls = [call] :=
  rfl

@[simp]
theorem value_ask_owningCluster :
    (lookup.ask (.owningCluster id)).value = (lookup.owningCluster id).value :=
  rfl

@[simp]
theorem value_ask_recordedPrivileges :
    (lookup.ask (.recordedPrivileges id)).value =
      (lookup.recordedPrivileges id).value :=
  rfl

end

end PrivilegeLookup

/-! ## Registers -/

/-- Views and privileges held in memory. -/
structure PrivilegeRegister where
  /-- Views by resource id with their owning cluster, the latest entry first. -/
  views : List (Int64 × Option ResourceRef) := []
  /-- Privileges in the order of their registration. -/
  privileges : List Privilege := []

namespace PrivilegeRegister

/-- Register a view and the cluster that owns it, if any.  A later entry for
the same id replaces an earlier one. -/
def addView (register : PrivilegeRegister) (view : Int64)
    (cluster : Option ResourceRef) : PrivilegeRegister :=
  { register with views := (view, cluster) :: register.views }

/-- Register a privilege under the resource it was granted on. -/
def addPrivilege (register : PrivilegeRegister) (privilege : Privilege) :
    PrivilegeRegister :=
  { register with privileges := register.privileges ++ [privilege] }

/-- The cluster registered for a view. -/
def owningCluster (register : PrivilegeRegister) (id : Int64) :
    Option ResourceRef :=
  (register.views.lookup id).join

/-- The privileges registered under a resource id, in order. -/
def recordedPrivileges (register : PrivilegeRegister) (id : Int64) :
    List Privilege :=
  register.privileges.filter fun privilege => privilege.resource.id == id

/-- A register answers every question. -/
def lookup (register : PrivilegeRegister) : PrivilegeLookup where
  owningCluster id := pure (.ok (register.owningCluster id))
  recordedPrivileges id := pure (.ok (register.recordedPrivileges id))

end PrivilegeRegister

namespace PrivilegeLookup

/-- The same lookup, except that the first question always fails. -/
def failingClusters (lookup : PrivilegeLookup) (failure : LookupFailure) :
    PrivilegeLookup :=
  { lookup with owningCluster := fun _ => pure (.error failure) }

/-- The same lookup, except that the second question always fails. -/
def failingPrivileges (lookup : PrivilegeLookup) (failure : LookupFailure) :
    PrivilegeLookup :=
  { lookup with recordedPrivileges := fun _ => pure (.error failure) }

end PrivilegeLookup

end AccessControl
