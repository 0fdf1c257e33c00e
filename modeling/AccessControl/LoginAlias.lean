import AccessControl.Event

/-!
# Login aliases

A login alias is a name from an external directory that stands for a local
user.  Aliases are configured as entries `alias=user` separated by commas, and
more may be added later; the latest addition for a name counts.
-/

namespace AccessControl

/-- The name of an alias and the user it stands for. -/
structure LoginAlias where
  name : String
  user : String
deriving DecidableEq, Repr

/-- An entry that is not of the form `alias=user` with text on both sides. -/
structure MalformedAlias where
  entry : String
deriving DecidableEq, Repr

/-- The sentence that reports a malformed entry. -/
def MalformedAlias.message (malformed : MalformedAlias) : String :=
  "invalid LOGIN_ALIASES entry '" ++ malformed.entry ++
    "', expected alias=user"

namespace LoginAlias

/-- The alias that a trimmed entry defines. -/
def ofEntry (entry : List Char) : Except MalformedAlias LoginAlias :=
  match Text.cutAt? '=' entry with
  | some (before, after) =>
      let name := Text.trimmed before
      let user := Text.trimmed after
      if name.isEmpty || user.isEmpty then
        .error ⟨String.ofList entry⟩
      else
        .ok ⟨String.ofList name, String.ofList user⟩
  | none => .error ⟨String.ofList entry⟩

/-- The aliases that a list of trimmed entries defines, or the first malformed
entry. -/
def ofEntries : List (List Char) → Except MalformedAlias (List LoginAlias)
  | [] => .ok []
  | entry :: later => do
      let first ← ofEntry entry
      let others ← ofEntries later
      pure (first :: others)

/-- The entries of a configuration text: its pieces between commas, trimmed,
blank ones dropped. -/
def entries (text : String) : List (List Char) :=
  ((Text.pieces ',' text.toList).map Text.trimmed).filter fun entry =>
    !entry.isEmpty

/-- The aliases that a configuration text defines, in order. -/
def parse (text : String) : Except MalformedAlias (List LoginAlias) :=
  ofEntries (entries text)

end LoginAlias

/-- All aliases added so far, the latest first. -/
structure LoginAliases where
  added : List LoginAlias := []
deriving DecidableEq, Repr

namespace LoginAliases

/-- Add an alias.  Every addition is logged. -/
def add (aliases : LoginAliases) (addition : LoginAlias) :
    Logged LoginAliases := do
  Logged.emit (.aliasAdded addition.name addition.user)
  pure ⟨addition :: aliases.added⟩

/-- Add several aliases, one after the other. -/
def addAll (aliases : LoginAliases) : List LoginAlias → Logged LoginAliases
  | [] => pure aliases
  | first :: later => do
      let extended ← aliases.add first
      extended.addAll later

/-- The user that a login stands for: the one of the latest alias of that
name, or the login itself. -/
def resolve (aliases : LoginAliases) (login : String) : String :=
  match aliases.added.find? fun addition => addition.name == login with
  | some addition => addition.user
  | none => login

@[simp]
theorem events_add (aliases : LoginAliases) (addition : LoginAlias) :
    (aliases.add addition).events =
      [.aliasAdded addition.name addition.user] :=
  rfl

/-- The latest addition counts for its own name and leaves other names as they
were. -/
theorem resolve_add (aliases : LoginAliases) (addition : LoginAlias)
    (login : String) :
    (aliases.add addition).value.resolve login =
      if addition.name = login then addition.user
      else aliases.resolve login := by
  by_cases same : addition.name = login <;> simp [add, resolve, same]

end LoginAliases

end AccessControl
