import AccessControl.Command.Run

/-!
# The command line

Reads the arguments and the environment, runs the command on a store in memory
and prints what it reports.
-/

namespace AccessControl

/-- One line of the log. -/
def Event.line (event : Event) : String :=
  let shown (detail : String × Detail) : String :=
    match detail.2 with
    | .number value => " " ++ detail.1 ++ "=" ++ toString value
    | .text value => " " ++ detail.1 ++ "=" ++ value
  event.level.name ++ " " ++ event.message ++
    String.join (event.details.map shown)

/-- Report a failure; the result is the exit code for it. -/
def reportFailure (message : String) : IO UInt32 := do
  IO.eprintln ("Error: " ++ message)
  pure 1

/-- Run a command; the result is the exit code. -/
def runCommand (command : Command) : IO UInt32 := do
  let environment : Environment :=
    { loginAliases := ← IO.getEnv "LOGIN_ALIASES"
      maxConnections := ← IO.getEnv "DATABASE_MAX_CONNECTIONS"
      databaseUrl := ← IO.getEnv "DATABASE_URL" }
  let outcome := Command.run environment (fun _ => {}) command
  for event in outcome.events do
    IO.eprintln event.line
  match outcome.value.result with
  | .ok report =>
      IO.print report.output
      pure (UInt32.ofNat report.exitCode)
  | .error failure => reportFailure failure.message

/-- Run the program; the result is its exit code. -/
def runProgram (arguments : List String) : IO UInt32 :=
  match Command.read arguments with
  | .error stop => pure (UInt32.ofNat stop.exitCode)
  | .ok command => runCommand command

end AccessControl

/-- The program. -/
def main (arguments : List String) : IO UInt32 :=
  AccessControl.runProgram arguments
