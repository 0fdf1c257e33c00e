import AccessControl.Command.Address
import AccessControl.Question

/-!
# Command line arguments

The first argument names a command, the rest are its options.  An option's
value is attached with an equals sign or is the next argument, which must not
look like an option then.  Arguments are read from left to right, and the first
one that is wrong, or that asks for help or the version, ends the reading.
-/

namespace AccessControl

/-- Which way to migrate. -/
inductive Command.Direction where
  | up
  | down
deriving DecidableEq, Repr

/-- What the program is asked to do. -/
inductive Command where
  /-- Start the server, perhaps although migrations are pending. -/
  | serve (host : Command.Address) (port : Nat) (allowPending : Bool)
  | migrate (direction : Command.Direction)
  /-- Answer one question for the user of a login. -/
  | check (user : String) (question : Question)
deriving DecidableEq, Repr

namespace Command

/-- Why arguments give no command. -/
inductive Stop where
  /-- Help or the version was asked for. -/
  | shown
  /-- The arguments cannot be understood. -/
  | misused
deriving DecidableEq, Repr

/-- The exit code of a program that stops. -/
def Stop.exitCode : Stop → Nat
  | .shown => 0
  | .misused => 2

/-- An option of a command. -/
structure OptionSpec where
  name : String
  /-- Which values are accepted; `none` for an option without a value. -/
  accepts : Option (String → Bool) := none
  repeatable : Bool := false

/-- An option that was given, with its value. -/
structure Given where
  name : String
  value : String := ""
deriving DecidableEq, Repr

/-- Whether an argument looks like an option. -/
def isOptionLike (argument : String) : Bool :=
  match argument.toList with
  | '-' :: _ :: _ => true
  | _ => false

/-- The name and the attached value of an argument that starts with two
dashes. -/
def longOption? (argument : String) : Option (String × Option String) :=
  match argument.toList with
  | '-' :: '-' :: option =>
      match Text.cutAt? '=' option with
      | some (name, value) =>
          some (String.ofList name, some (String.ofList value))
      | none => some (String.ofList option, none)
  | _ => none

/-- Whether an argument is a single dash followed by a given letter, and
perhaps by more. -/
def isShort (letter : Char) (argument : String) : Bool :=
  match argument.toList with
  | '-' :: c :: _ => c == letter
  | _ => false

/-- Whether an argument asks for help. -/
def asksHelp (argument : String) : Bool :=
  argument == "--help" || isShort 'h' argument

/-- Whether an argument asks for the version. -/
def asksVersion (argument : String) : Bool :=
  argument == "--version" || isShort 'V' argument

/-- Read the options of a command; `found` holds the earlier ones. -/
def readOptions (specs : List OptionSpec) (found : List Given) :
    List String → Except Stop (List Given)
  | [] => .ok found
  | ["--"] => .ok found
  | argument :: later =>
      if asksHelp argument then
        .error .shown
      else
        match longOption? argument with
        | none => .error .misused
        | some (name, attached) =>
            match specs.find? fun spec => spec.name == name with
            | none => .error .misused
            | some spec =>
                if !spec.repeatable && found.any (fun given => given.name == name) then
                  .error .misused
                else
                  match spec.accepts, attached with
                  | none, none => readOptions specs (found ++ [{ name }]) later
                  | none, some _ => .error .misused
                  | some accepts, some value =>
                      if accepts value then
                        readOptions specs (found ++ [{ name, value }]) later
                      else
                        .error .misused
                  | some accepts, none =>
                      match later with
                      | [] => .error .misused
                      | value :: later =>
                          if isOptionLike value || !accepts value then
                            .error .misused
                          else
                            readOptions specs (found ++ [{ name, value }]) later

/-- The value of an option that was given. -/
def valueOf? (found : List Given) (name : String) : Option String :=
  (found.find? fun given => given.name == name).map Given.value

/-- The values of an option that was given several times. -/
def valuesOf (found : List Given) (name : String) : List String :=
  (found.filter fun given => given.name == name).map Given.value

/-- The id that a text denotes. -/
def resourceId? (s : String) : Option Int64 :=
  (Text.integerWithin? Int64.minValue.toInt Int64.maxValue.toInt s).map
    Int64.ofInt

/-- The port that a text denotes. -/
def port? (s : String) : Option Nat :=
  (Text.integerWithin? 0 65535 s).map Int.toNat

/-- The options of the command that starts the server. -/
def serveOptions : List OptionSpec :=
  [{ name := "host", accepts := some fun s => (Address.parse? s).isSome },
    { name := "port", accepts := some fun s => (port? s).isSome },
    { name := "allow-dirty" }]

/-- The options of the command that answers one question. -/
def checkOptions : List OptionSpec :=
  [{ name := "user", accepts := some fun _ => true },
    { name := "resource-type", accepts := some fun _ => true },
    { name := "resource-id", accepts := some fun s => (resourceId? s).isSome },
    { name := "authorization", accepts := some (fun _ => true)
      repeatable := true }]

/-- The address that the server listens on if none is given. -/
def defaultHost : Address :=
  .short [0, 0, 0, 0]

/-- The port that the server listens on if none is given. -/
def defaultPort : Nat :=
  8080

/-- Read the arguments of the command that starts the server. -/
def readServe (arguments : List String) : Except Stop Command := do
  let found ← readOptions serveOptions [] arguments
  pure <| .serve
    (((valueOf? found "host").bind Address.parse?).getD defaultHost)
    (((valueOf? found "port").bind port?).getD defaultPort)
    (valueOf? found "allow-dirty").isSome

/-- Read the arguments of the command that answers one question. -/
def readCheck (arguments : List String) : Except Stop Command := do
  let found ← readOptions checkOptions [] arguments
  match valueOf? found "user" with
  | none => .error .misused
  | some user =>
      pure <| .check user
        { resourceType := valueOf? found "resource-type"
          resourceId := (valueOf? found "resource-id").bind resourceId?
          authorizations := valuesOf found "authorization" }

/-- Help about a topic is shown if the topic names a command. -/
def helpOn (topics : List (List String)) (topic : List String) : Stop :=
  if topic.isEmpty || topics.contains topic then .shown else .misused

/-- Read the arguments of the command that migrates. -/
def readMigrate : List String → Except Stop Command
  | "up" :: later => do
      let _ ← readOptions [] [] later
      pure (.migrate .up)
  | "down" :: later => do
      let _ ← readOptions [] [] later
      pure (.migrate .down)
  | "help" :: topic => .error (helpOn [["up"], ["down"], ["help"]] topic)
  | argument :: _ => .error (if asksHelp argument then .shown else .misused)
  | [] => .error .misused

/-- Read the arguments of the program. -/
def read : List String → Except Stop Command
  | "serve" :: later => readServe later
  | "check" :: later => readCheck later
  | "migrate" :: later => readMigrate later
  | "help" :: topic =>
      .error <| helpOn
        [["serve"], ["check"], ["migrate"], ["migrate", "up"],
          ["migrate", "down"], ["migrate", "help"], ["help"]] topic
  | argument :: _ =>
      .error <|
        if asksHelp argument || asksVersion argument then .shown else .misused
  | [] => .error .misused

end Command

end AccessControl
