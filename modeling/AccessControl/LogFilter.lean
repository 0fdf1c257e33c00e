import AccessControl.LogFilter.Directive

/-!
# Log filters

A filter is a list of directives separated by commas.  It is only checked here:
every directive must be one that can be read.
-/

namespace AccessControl

/-- How the log is filtered and where spans are sent. -/
structure LogSettings where
  serviceName : String := "authz-server"
  filter : Option String := none
  spanEndpoint : Option String := none
deriving DecidableEq, Repr

/-- A filter with a directive that cannot be read. -/
structure InvalidFilter where
  directives : String
deriving DecidableEq, Repr

/-- The sentence that reports an invalid filter. -/
def InvalidFilter.message (invalid : InvalidFilter) : String :=
  "invalid log filter '" ++ invalid.directives ++ "'"

namespace LogSettings

/-- Settings from the environment.  A blank endpoint counts as none. -/
def ofEnvironment (filter endpoint : Option String) : LogSettings where
  filter := filter
  spanEndpoint := endpoint.filter fun text => !(Text.trimmed text.toList).isEmpty

/-- Check that every directive of the filter can be read.  Without a filter
there is nothing to read, and nothing between two commas is no directive. -/
def check (settings : LogSettings) : Except InvalidFilter Unit :=
  match settings.filter with
  | none => .ok ()
  | some directives =>
      let written :=
        (Text.pieces ',' directives.toList).filter fun piece => !piece.isEmpty
      if written.all Directive.isDirective then
        .ok ()
      else
        .error ⟨directives⟩

end LogSettings

end AccessControl
