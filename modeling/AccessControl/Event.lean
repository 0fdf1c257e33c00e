import AccessControl.Privilege

/-!
# The log

Everything that the library writes to its log is an `Event`, one constructor
per cause.  `Logged` is a value together with the events of its computation,
the earliest first.
-/

namespace AccessControl

/-- Why a question to the privilege records has no answer. -/
inductive LookupFailure where
  /-- The records cannot be read. -/
  | unavailable (detail : String)
  /-- The records contradict each other. -/
  | inconsistent (detail : String)
deriving DecidableEq, Repr

/-- The sentence written to the log for a failed lookup. -/
def LookupFailure.message : LookupFailure → String
  | .unavailable detail => "privilege store unavailable: " ++ detail
  | .inconsistent detail => "inconsistent privilege data: " ++ detail

/-- How much attention an event asks for. -/
inductive Level where
  | debug
  | info
  | warn
  | error
deriving DecidableEq, Repr

/-- The word for a level. -/
def Level.name : Level → String
  | .debug => "DEBUG"
  | .info => "INFO"
  | .warn => "WARN"
  | .error => "ERROR"

/-- What the library writes to its log. -/
inductive Event where
  /-- A caller's privilege settles the question. -/
  | grantedDirectly (privilege : Int64) (authorization : Authorization)
  /-- A permission on the owning cluster settles the question. -/
  | grantedByInheritance (resource cluster : Int64) (permission : String)
  | unknownResourceType (privilege : Int64) (unknown : UnknownName)
  | unknownAuthorization (id : String)
  | bindingLookupFailed (resource : Int64) (failure : LookupFailure)
  | privilegeLookupFailed (resource : Int64) (failure : LookupFailure)
  /-- A privilege row whose permission, resource or holder row is missing. -/
  | danglingPrivilege (privilege : Int64)
  | noActiveUser (login userName : String)
  | aliasAdded (name userName : String)
  | internalError (text : String)
  | storeConnected (maxConnections : Nat)
  | migrationsApplied
  | migrationRolledBack
deriving DecidableEq, Repr

/-- A named detail of an event. -/
inductive Detail where
  | number (value : Int)
  | text (value : String)
deriving DecidableEq, Repr

namespace Event

/-- The attention that an event asks for: decisions explain themselves at
debug level, stored data without meaning is a warning. -/
def level : Event → Level
  | .grantedDirectly .. | .grantedByInheritance .. | .noActiveUser .. => .debug
  | .aliasAdded .. | .storeConnected .. | .migrationsApplied
  | .migrationRolledBack => .info
  | .unknownResourceType .. | .unknownAuthorization .. | .bindingLookupFailed ..
  | .privilegeLookupFailed .. | .danglingPrivilege .. => .warn
  | .internalError .. => .error

/-- The fixed sentence of an event. -/
def message : Event → String
  | .grantedDirectly .. => "authorized by direct privilege"
  | .grantedByInheritance .. => "authorized through cluster-inherited permission"
  | .unknownResourceType .. => "ignoring resource type"
  | .unknownAuthorization .. => "ignoring unknown authorization id"
  | .bindingLookupFailed .. => "cluster binding lookup failed; denying"
  | .privilegeLookupFailed .. => "privilege lookup failed; denying"
  | .danglingPrivilege .. => "skipping privilege with dangling references"
  | .noActiveUser .. => "no active user for login"
  | .aliasAdded .. => "adding login alias"
  | .internalError .. => "internal error"
  | .storeConnected .. => "privilege store connected"
  | .migrationsApplied => "database migrations applied"
  | .migrationRolledBack => "most recent migration rolled back"

/-- The details of an event, named as the log names them. -/
def details : Event → List (String × Detail)
  | .grantedDirectly privilege authorization =>
      [("privilege_id", .number privilege.toInt),
        ("authorization", .text authorization.id)]
  | .grantedByInheritance resource cluster permission =>
      [("resource_id", .number resource.toInt),
        ("cluster_id", .number cluster.toInt), ("permission", .text permission)]
  | .unknownResourceType privilege unknown =>
      [("privilege_id", .number privilege.toInt),
        ("error", .text unknown.message)]
  | .unknownAuthorization id => [("authorization", .text id)]
  | .bindingLookupFailed resource failure =>
      [("resource_id", .number resource.toInt),
        ("error", .text failure.message)]
  | .privilegeLookupFailed resource failure =>
      [("resource_id", .number resource.toInt),
        ("error", .text failure.message)]
  | .danglingPrivilege privilege =>
      [("privilege_id", .number privilege.toInt)]
  | .noActiveUser login userName =>
      [("login", .text login), ("user_name", .text userName)]
  | .aliasAdded name userName =>
      [("alias", .text name), ("user_name", .text userName)]
  | .internalError text => [("error", .text text)]
  | .storeConnected maxConnections =>
      [("max_connections", .number maxConnections)]
  | .migrationsApplied => []
  | .migrationRolledBack => []

end Event

/-- A value with the events of its computation, the earliest first. -/
structure Logged (α : Type) where
  value : α
  events : List Event

namespace Logged

/-- A value found without any event. -/
def quiet {α : Type} (value : α) : Logged α where
  value := value
  events := []

/-- A single event. -/
def emit (event : Event) : Logged Unit where
  value := ()
  events := [event]

/-- Continue with the value; the events of the continuation come later. -/
def andThen {α β : Type} (first : Logged α) (next : α → Logged β) : Logged β where
  value := (next first.value).value
  events := first.events ++ (next first.value).events

instance : Monad Logged where
  pure := quiet
  bind := andThen

section

variable {α β : Type}

@[simp]
theorem value_pure (value : α) : (pure value : Logged α).value = value :=
  rfl

@[simp]
theorem events_pure (value : α) : (pure value : Logged α).events = [] :=
  rfl

@[simp]
theorem value_bind (first : Logged α) (next : α → Logged β) :
    (first >>= next).value = (next first.value).value :=
  rfl

@[simp]
theorem events_bind (first : Logged α) (next : α → Logged β) :
    (first >>= next).events = first.events ++ (next first.value).events :=
  rfl

@[simp]
theorem value_emit (event : Event) : (emit event).value = () :=
  rfl

@[simp]
theorem events_emit (event : Event) : (emit event).events = [event] :=
  rfl

end

end Logged

end AccessControl
