import AccessControl.LoginAlias

/-!
# Settings

The program is configured by environment variables.  An `Environment` is the
values of those that matter; reading the real one is left to the command line.
-/

namespace AccessControl

/-- The variables that configure the program; `none` for an unset one. -/
structure Environment where
  loginAliases : Option String := none
  maxConnections : Option String := none
  databaseUrl : Option String := none

/-- How to reach the privilege store. -/
structure DatabaseSettings where
  /-- The variable that holds the address of the store. -/
  urlKey : String := "DATABASE_URL"
  maxConnections : Nat := 10
deriving DecidableEq, Repr

/-- The variable with the address of the store is not set. -/
structure MissingUrl where
  key : String
deriving DecidableEq, Repr

/-- The sentence that reports a missing address. -/
def MissingUrl.message (missing : MissingUrl) : String :=
  "database url missing (set " ++ missing.key ++ ")"

namespace DatabaseSettings

/-- The greatest number of connections that can be configured. -/
def maxConnectionsBound : Nat :=
  Nat.pow 2 32 - 1

/-- The settings from the environment.  A number of connections that does not
read as one leaves the default in place. -/
def ofEnvironment (environment : Environment) : DatabaseSettings :=
  match environment.maxConnections.bind
      (Text.naturalUpTo? maxConnectionsBound) with
  | some count => { maxConnections := count }
  | none => {}

/-- The address of the store, given the value of the variable for it. -/
def url (settings : DatabaseSettings) (value : Option String) :
    Except MissingUrl String :=
  match value with
  | some url => .ok url
  | none => .error ⟨settings.urlKey⟩

end DatabaseSettings

/-- The configuration of the program. -/
structure Configuration where
  database : DatabaseSettings
  loginAliases : List LoginAlias

/-- Read the configuration from the environment. -/
def Configuration.load (environment : Environment) :
    Except MalformedAlias Configuration := do
  let aliases ← LoginAlias.parse (environment.loginAliases.getD "")
  pure
    { database := DatabaseSettings.ofEnvironment environment
      loginAliases := aliases }

theorem Configuration.load_eq_ok_iff {environment : Environment}
    {configuration : Configuration} :
    load environment = .ok configuration ↔
      LoginAlias.parse (environment.loginAliases.getD "") =
          .ok configuration.loginAliases ∧
        configuration.database = DatabaseSettings.ofEnvironment environment := by
  obtain ⟨database, loginAliases⟩ := configuration
  unfold load
  cases LoginAlias.parse (environment.loginAliases.getD "") with
  | error malformed => simp [bind, Except.bind]
  | ok aliases =>
      simp only [bind, Except.bind, pure, Except.pure, Except.ok.injEq,
        Configuration.mk.injEq]
      rw [and_comm, @eq_comm _ database]

/-- The configured aliases, added in order. -/
def Configuration.aliases (configuration : Configuration) :
    Logged LoginAliases :=
  LoginAliases.addAll {} configuration.loginAliases

end AccessControl
