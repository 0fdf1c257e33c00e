import AccessControl.Command.Arguments
import AccessControl.Service.Login
import AccessControl.Settings

/-!
# Running commands

A command runs on the store that the environment points to.  The configuration
is loaded first, then the store is connected, and then the command does its
work.
-/

namespace AccessControl.Command

/-- Where stores are found: the store behind an address. -/
abbrev Stores := String → Store

/-- What a command reports when it succeeds. -/
inductive Report where
  /-- The answer to a question. -/
  | verdict (granted : Bool)
  | migrated
  /-- The server may start and would listen on this address. -/
  | serving (address : String) (allowPending : Bool)
deriving DecidableEq, Repr

namespace Report

/-- What the command prints. -/
def output : Report → String
  | .verdict true => "authorized\n"
  | .verdict false => "denied\n"
  | .migrated => ""
  | .serving _ _ => ""

/-- The exit code of the program. -/
def exitCode : Report → Nat
  | .verdict true => 0
  | .verdict false => 1
  | .migrated => 0
  | .serving _ _ => 0

end Report

/-- Why a command fails. -/
inductive Failure where
  | configuration (malformed : MalformedAlias)
  | connection (missing : MissingUrl)
  | unknownName (unknown : UnknownName)
  | loading (failure : Service.LoadFailure)
  | migration (fault : Store.StoreFault)
  | start (fault : Store.StartFault)
deriving DecidableEq, Repr

/-- The sentence that reports a failure. -/
def Failure.message : Failure → String
  | .configuration malformed => malformed.message
  | .connection missing =>
      "failed to connect to the privilege store: " ++ missing.message
  | .unknownName unknown => unknown.message
  | .loading failure => failure.message
  | .migration fault => fault.message
  | .start fault => fault.message

/-- The outcome of a command: its report or failure, and the store it changed,
if it came to that. -/
structure Outcome where
  result : Except Failure Report
  changed : Option Store := none

/-- A failed command. -/
def Outcome.failed (failure : Failure) : Outcome where
  result := .error failure

/-- Answer one question for the user of a login. -/
def runCheck (store : Store) (configuration : Configuration) (login : String)
    (question : Question) : Logged Outcome := do
  let aliases ← configuration.aliases
  match question.query with
  | .error unknown => pure (.failed (.unknownName unknown))
  | .ok query => do
      let service : Service := { store, aliases }
      match ← service.resolve (some login) with
      | .error failure => pure (.failed (.loading failure))
      | .ok caller => do
          let granted ← service.decide caller query
          pure { result := .ok (.verdict granted) }

/-- Migrate the store. -/
def runMigrate (store : Store) (direction : Direction) : Logged Outcome := do
  let (store, result) ←
    match direction with
    | .up => store.migrateUp
    | .down => store.migrateDown
  match result with
  | .ok () => pure { result := .ok .migrated, changed := some store }
  | .error fault =>
      pure { result := .error (.migration fault), changed := some store }

/-- Run a command.  A server that may start is only reported; it connects, and
logs that, once it is started. -/
def run (environment : Environment) (stores : Stores) (command : Command) :
    Logged Outcome :=
  match Configuration.load environment with
  | .error malformed => pure (.failed (.configuration malformed))
  | .ok configuration =>
      match configuration.database.url environment.databaseUrl with
      | .error missing => pure (.failed (.connection missing))
      | .ok url =>
          let store := (stores url).reconnect
          let connected : Event :=
            .storeConnected configuration.database.maxConnections
          match command with
          | .serve host port allowPending =>
              match store.ensureMigrated allowPending with
              | .ok () =>
                  pure
                    { result :=
                        .ok (.serving (host.withPort port) allowPending) }
              | .error fault => do
                  Logged.emit connected
                  pure (.failed (.start fault))
          | .migrate direction => do
              Logged.emit connected
              runMigrate store direction
          | .check user question => do
              Logged.emit connected
              runCheck store configuration user question

end AccessControl.Command
