import AccessControl.Text.Alphanumeric

/-!
# Patterns

The value of a field may be matched against a pattern, which is a regular
expression over characters.  Nothing is matched here: `isPattern` says which
texts are patterns that a matcher without look-around can be made for.

A pattern must denote texts: where characters are read as bytes, what could
match half a character is refused.  Boundaries of words are refused where they
would need the letters of all scripts.  A count in curly brackets is refused
too, because a closing curly bracket ends the fields of a directive.
-/

namespace AccessControl.Pattern

/-! ## Modes -/

/-- How a pattern is read from some place on. -/
structure Mode where
  /-- Whether classes range over the characters of all scripts. -/
  unicode : Bool := true
  /-- Whether blanks and comments are skipped. -/
  verbose : Bool := false
deriving DecidableEq, Repr

/-- What follows the blanks and comments at the front.  A comment starts with a
number sign and takes the rest of its line. -/
def skipComments (inComment : Bool) : List Char → List Char
  | [] => []
  | c :: rest =>
      if inComment then skipComments (c != '\n') rest
      else if Text.isBlank c then skipComments false rest
      else if c == '#' then skipComments true rest
      else c :: rest

/-- What follows the characters that carry no meaning. -/
def Mode.skip (mode : Mode) (cs : List Char) : List Char :=
  if mode.verbose then skipComments false cs else cs

/-! ## Depth -/

/-- How deep the parts of a pattern may be nested. -/
def maxDepth : Nat :=
  250

/-- Parts side by side: how many there are and the depth of the deepest. -/
structure Parts where
  count : Nat := 0
  depth : Nat := 0
deriving DecidableEq, Repr

namespace Parts

/-- One more part. -/
def add (parts : Parts) (depth : Nat) : Parts where
  count := parts.count + 1
  depth := max parts.depth depth

/-- The depth of the whole: several parts are nested in what holds them. -/
def nesting (parts : Parts) : Nat :=
  if parts.count < 2 then parts.depth else parts.depth + 1

end Parts

/-! ## Escapes -/

/-- What a single item of a pattern stands for. -/
inductive Item where
  | literal (c : Char)
  | set
  /-- A place between characters. -/
  | assertion
deriving DecidableEq, Repr

/-- The number of hexadecimal digits after a letter that announces them. -/
def hexWidth? (c : Char) : Option Nat :=
  if c = 'x' then some 2
  else if c = 'u' then some 4
  else if c = 'U' then some 8
  else none

/-- Read a number of hexadecimal digits after those that give `value`. -/
def readHexDigits (mode : Mode) :
    Nat → Nat → List Char → Option (Nat × List Char)
  | 0, value, cs => some (value, cs)
  | _ + 1, _, [] => none
  | width + 1, value, c :: rest => do
      let digit ← Text.hexValue? c
      readHexDigits mode width (value * 16 + digit) (mode.skip rest)

/-- The control character that a letter stands for after a backslash. -/
def controlEscape? (c : Char) : Option Char :=
  if c = 'a' then some '\x07'
  else if c = 'f' then some '\x0c'
  else if c = 't' then some '\t'
  else if c = 'n' then some '\n'
  else if c = 'r' then some '\r'
  else if c = 'v' then some '\x0b'
  else none

/-- The general categories that have one letter. -/
def isCategory (c : Char) : Bool :=
  "CLMNPSZ".toList.contains c.toUpper

/-- The characters that stand for themselves after a backslash: ASCII, but
neither letters nor digits, nor the angle brackets. -/
def isEscapable (c : Char) : Bool :=
  c.toNat < 0x80 && !c.isAlphanum && c != '<' && c != '>'

/-- Read what follows a backslash.  Where characters are bytes, two hexadecimal
digits must denote ASCII, and neither categories nor complements of sets can be
expressed. -/
def readEscape (mode : Mode) : List Char → Option (Item × List Char)
  | [] => none
  | c :: rest =>
      match hexWidth? c with
      | some width => do
          let (value, rest) ← readHexDigits mode width 0 (mode.skip rest)
          if value.isValidChar ∧ (mode.unicode ∨ width ≠ 2 ∨ value < 0x80) then
            some (.literal (Char.ofNat value), rest)
          else
            none
      | none =>
          if c = 'p' ∨ c = 'P' then
            match mode.skip rest with
            | letter :: rest =>
                if mode.unicode && isCategory letter then
                  some (.set, mode.skip rest)
                else
                  none
            | [] => none
          else if "dsw".toList.contains c then
            some (.set, rest)
          else if "DSW".toList.contains c then
            if mode.unicode then some (.set, rest) else none
          else if "Az".toList.contains c then
            some (.assertion, rest)
          else if "bB<>".toList.contains c then
            if mode.unicode then none else some (.assertion, rest)
          else
            match controlEscape? c with
            | some control => some (.literal control, rest)
            | none => if isEscapable c then some (.literal c, rest) else none

/-! ## Sets in square brackets -/

/-- The names of sets of ASCII characters. -/
def setNames : List String :=
  ["alnum", "alpha", "ascii", "blank", "cntrl", "digit", "graph", "lower",
    "print", "punct", "space", "upper", "word", "xdigit"]

/-- Read the rest of a named set, given what follows its square bracket:
whether it is complemented, and what follows it. -/
def readNamedSet? : List Char → Option (Bool × List Char)
  | ':' :: rest =>
      let (complemented, rest) :=
        match rest with
        | '^' :: rest => (true, rest)
        | rest => (false, rest)
      match rest.dropWhile (· != ':') with
      | ':' :: ']' :: later =>
          if setNames.contains (String.ofList (rest.takeWhile (· != ':'))) then
            some (complemented, later)
          else
            none
      | _ => none
  | _ => none

/-- Read the dashes at the start of a set, which stand for themselves. -/
def readDashes (mode : Mode) : Nat → Parts → List Char → Parts × List Char
  | fuel + 1, parts, '-' :: rest =>
      readDashes mode fuel (parts.add 0) (mode.skip rest)
  | _, parts, cs => (parts, cs)

/-- Read the start of a set, given what follows its square bracket: its first
items.  A closing bracket in the first place stands for itself. -/
def openSet (mode : Mode) (cs : List Char) : Option (Parts × List Char) :=
  let (complemented, cs) :=
    match mode.skip cs with
    | '^' :: rest => (true, mode.skip rest)
    | rest => (false, rest)
  if complemented && !mode.unicode then
    none
  else
    match readDashes mode cs.length {} cs with
    | (parts, ']' :: rest) =>
        if parts.count = 0 then
          some (parts.add 0, mode.skip rest)
        else
          some (parts, ']' :: rest)
    | opened => some opened

/-- Read an item of a set. -/
def readSetItem (mode : Mode) : List Char → Option (Item × List Char)
  | '\\' :: rest => readEscape mode rest
  | c :: rest => some (.literal c, rest)
  | [] => none

/-- Whether an item may stand in a set.  Where characters are bytes, it must be
ASCII. -/
def isSetItem (mode : Mode) : Item → Bool
  | .literal c => mode.unicode || c.toNat < 0x80
  | .set => true
  | .assertion => false

/-- The next character that is neither blank nor starts a comment, as far as a
range looks ahead.  A comment is taken to end with its first character. -/
def peek? (mode : Mode) (cs : List Char) : Option Char :=
  if mode.verbose then
    match cs.dropWhile Text.isBlank with
    | '#' :: rest => (rest.dropWhile Text.isBlank).head?
    | rest => rest.head?
  else
    cs.head?

/-- Read an item or a range of a set.  A dash makes a range unless the set or a
difference follows it. -/
def readRange (mode : Mode) (cs : List Char) : Option (List Char) := do
  let (first, rest) ← readSetItem mode cs
  match mode.skip rest with
  | '-' :: later =>
      if peek? mode later = some ']' ∨ peek? mode later = some '-' then
        if isSetItem mode first then some ('-' :: later) else none
      else do
        let (last, rest) ← readSetItem mode (mode.skip later)
        match first, last with
        | .literal low, .literal high =>
            if isSetItem mode first && isSetItem mode last && low ≤ high then
              some rest
            else
              none
        | _, _ => none
  | rest => if isSetItem mode first then some rest else none

/-- The depth of a set so far: an operation nests both of its sides. -/
def operated (left : Option Nat) (items : Parts) : Nat :=
  match left with
  | some depth => (({} : Parts).add depth |>.add items.nesting).nesting
  | none => items.nesting

/-- Read the rest of a set up to its closing bracket, and give its depth; `left`
is the depth of what stands before the last operation.  Every step takes a
character. -/
def readSet (mode : Mode) :
    Nat → Option Nat → Parts → List Char → Option (Nat × List Char)
  | 0, _, _, _ => none
  | fuel + 1, left, items, cs =>
      match mode.skip cs with
      | [] => none
      | ']' :: rest => some (operated left items, rest)
      | '&' :: '&' :: rest =>
          readSet mode fuel (some (operated left items)) {} rest
      | '-' :: '-' :: rest =>
          readSet mode fuel (some (operated left items)) {} rest
      | '~' :: '~' :: rest =>
          readSet mode fuel (some (operated left items)) {} rest
      | '[' :: rest =>
          match readNamedSet? rest with
          | some (complemented, rest) =>
              if complemented && !mode.unicode then
                none
              else
                readSet mode fuel left (items.add 0) rest
          | none => do
              let (inner, rest) ← openSet mode rest
              let (depth, rest) ← readSet mode fuel none inner rest
              readSet mode fuel left (items.add (depth + 1)) rest
      | c :: rest => do
          let rest ← readRange mode (c :: rest)
          readSet mode fuel left (items.add 0) rest

/-! ## Groups -/

/-- What a group starts with, or is. -/
inductive Opening where
  /-- Flags that hold up to the end of the group around them. -/
  | flags (mode : Mode)
  /-- A group, read in a mode, with the names of groups up to there. -/
  | group (mode : Mode) (names : List (List Char))
deriving DecidableEq, Repr

/-- Whether a text can name a group. -/
def isGroupName : List Char → Bool
  | [] => false
  | c :: rest =>
      (c == '_' || Text.isAlphabetic c) &&
        rest.all fun c => "_.[]".toList.contains c || Text.isAlphanumeric c

/-- The mode after a flag was set or cleared. -/
def Mode.withFlag (mode : Mode) (flag : Char) (value : Bool) : Mode :=
  if flag = 'u' then { mode with unicode := value }
  else if flag = 'x' then { mode with verbose := value }
  else mode

/-- Read flags up to the colon or parenthesis that ends them; `read` holds the
earlier ones, the latest first.  None is repeated, a dash clears the flags
after it, and there must be some. -/
def readFlags (mode : Mode) (names : List (List Char)) (read : List Char) :
    List Char → Option (Opening × List Char)
  | [] => none
  | c :: rest =>
      if c = ':' then
        if read.head? = some '-' then none else some (.group mode names, rest)
      else if c = ')' then
        if read.head? = some '-' ∨ read.isEmpty then none
        else some (.flags mode, rest)
      else if "imsURux-".toList.contains c && !read.contains c then
        readFlags (mode.withFlag c (!read.contains '-')) names (c :: read) rest
      else
        none

/-- Read the start of a group, given what follows its parenthesis. -/
def readOpening (mode : Mode) (names : List (List Char)) (cs : List Char) :
    Option (Opening × List Char) :=
  let named (cs : List Char) : Option (Opening × List Char) :=
    let name := cs.takeWhile (· != '>')
    match cs.dropWhile (· != '>') with
    | '>' :: rest =>
        if isGroupName name && !names.contains name then
          some (.group mode (name :: names), rest)
        else
          none
    | _ => none
  match mode.skip cs with
  | '?' :: 'P' :: '<' :: rest => named rest
  | '?' :: '<' :: rest => named rest
  | '?' :: rest => readFlags mode names [] rest
  | rest => some (.group mode names, rest)

/-! ## Alternatives -/

/-- What was read of a group. -/
structure Progress where
  names : List (List Char) := []
  /-- The alternatives before the current one. -/
  branches : Parts := {}
  /-- The parts of the current alternative. -/
  parts : Parts := {}
  /-- The depth of the latest part, if it can be repeated. -/
  latest : Option Nat := none
deriving DecidableEq, Repr

namespace Progress

/-- One more part. -/
def add (progress : Progress) (depth : Nat) : Progress :=
  { progress with parts := progress.parts.add depth, latest := some depth }

/-- Flags are a part that cannot be repeated. -/
def addFlags (progress : Progress) : Progress :=
  { progress with parts := progress.parts.add 0, latest := none }

/-- The latest part is repeated, which nests it. -/
def nestLatest (progress : Progress) (depth : Nat) : Progress :=
  { progress with
    parts :=
      { progress.parts with depth := max progress.parts.depth (depth + 1) }
    latest := some (depth + 1) }

/-- The next alternative starts. -/
def nextBranch (progress : Progress) : Progress :=
  { names := progress.names
    branches := progress.branches.add progress.parts.nesting }

/-- The depth of the group. -/
def depth (progress : Progress) : Nat :=
  (progress.branches.add progress.parts.nesting).nesting

end Progress

/-- Read the alternatives of a group, and give their depth, the names of all
groups so far and what follows: nothing, or a closing parenthesis.  Every step
takes a character. -/
def readGroup : Nat → Mode → Progress → List Char →
    Option (Nat × List (List Char) × List Char)
  | 0, _, _, _ => none
  | fuel + 1, mode, progress, cs =>
      match mode.skip cs with
      | [] => some (progress.depth, progress.names, [])
      | ')' :: rest => some (progress.depth, progress.names, ')' :: rest)
      | '|' :: rest => readGroup fuel mode progress.nextBranch rest
      | '(' :: rest => do
          match ← readOpening mode progress.names rest with
          | (.flags mode, rest) => readGroup fuel mode progress.addFlags rest
          | (.group inner names, rest) => do
              let (depth, names, rest) ← readGroup fuel inner { names } rest
              match rest with
              | ')' :: rest =>
                  readGroup fuel mode
                    ({ progress with names }.add (depth + 1)) rest
              | _ => none
      | '[' :: rest => do
          let (items, rest) ← openSet mode rest
          let (depth, rest) ← readSet mode (rest.length + 1) none items rest
          readGroup fuel mode (progress.add (depth + 1)) rest
      | '\\' :: rest => do
          let (_, rest) ← readEscape mode rest
          readGroup fuel mode (progress.add 0) rest
      | c :: rest =>
          if "?*+".toList.contains c then do
            let depth ← progress.latest
            let rest := if rest.head? = some '?' then rest.tail else rest
            readGroup fuel mode (progress.nestLatest depth) rest
          else if c = '\x7b' ∨ (c = '.' ∧ !mode.unicode) then
            none
          else
            readGroup fuel mode (progress.add 0) rest

/-- Whether a text is a pattern. -/
def isPattern (cs : List Char) : Bool :=
  match readGroup (cs.length + 1) {} {} cs with
  | some (depth, _, []) => depth ≤ maxDepth
  | _ => false

end AccessControl.Pattern
