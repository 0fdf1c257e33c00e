import AccessControl.Json.Value
import AccessControl.Text

/-!
# The words of JSON text

Blanks, literal names and quoted texts are read from the front of a list of
characters; each reader hands back what follows.  A quoted text is either read,
and then its escapes must denote characters, or skipped, and then they only
have to be well formed.
-/

namespace AccessControl.Json

/-- Why a text does not give the value asked for. -/
inductive ReadFault where
  /-- The text is not JSON, up to the place where the first fault shows. -/
  | malformed
  /-- The text is JSON so far, but not of the shape asked for. -/
  | mismatch
deriving DecidableEq, Repr

/-- Reading from the front of a text: what was read, and what follows. -/
abbrev Reader (α : Type) := List Char → Except ReadFault (α × List Char)

/-- Blanks between the words of JSON. -/
def isSpace (c : Char) : Bool :=
  c == ' ' || c == '\n' || c == '\t' || c == '\r'

/-- What follows the blanks at the front. -/
def skipSpace (cs : List Char) : List Char :=
  cs.dropWhile isSpace

/-- Skip the letters of a literal name. -/
def skipWord : List Char → List Char → Except ReadFault (List Char)
  | [], rest => .ok rest
  | letter :: word, c :: rest =>
      if letter = c then skipWord word rest else .error .malformed
  | _ :: _, [] => .error .malformed

/-! ## Quoted texts -/

/-- The code unit that four hexadecimal digits denote. -/
def codeUnit? (a b c d : Char) : Option Nat := do
  let a ← Text.hexValue? a
  let b ← Text.hexValue? b
  let c ← Text.hexValue? c
  let d ← Text.hexValue? d
  pure (((a * 16 + b) * 16 + c) * 16 + d)

/-- Code units that open a pair for one character. -/
def opensPair (unit : Nat) : Bool :=
  0xD800 ≤ unit && unit ≤ 0xDBFF

/-- Code units that close such a pair. -/
def closesPair (unit : Nat) : Bool :=
  0xDC00 ≤ unit && unit ≤ 0xDFFF

/-- The character denoted by a pair of code units. -/
def pairedChar (first second : Nat) : Char :=
  Char.ofNat ((first - 0xD800) * 0x400 + (second - 0xDC00) + 0x10000)

/-- The character denoted by a one-letter escape. -/
def shortEscape? (c : Char) : Option Char :=
  if c = '"' ∨ c = '\\' ∨ c = '/' then some c
  else if c = 'b' then some '\x08'
  else if c = 'f' then some '\x0c'
  else if c = 'n' then some '\n'
  else if c = 'r' then some '\r'
  else if c = 't' then some '\t'
  else none

/-- Read the rest of a quoted text; `read` holds the characters so far, the
latest first.  Escapes must denote characters. -/
def finishText (read : List Char) : Reader String
  | '"' :: rest => .ok (String.ofList read.reverse, rest)
  | '\\' :: 'u' :: a :: b :: c :: d :: rest =>
      match codeUnit? a b c d with
      | none => .error .malformed
      | some unit =>
          if closesPair unit then
            .error .malformed
          else if opensPair unit then
            match rest with
            | '\\' :: 'u' :: a :: b :: c :: d :: rest =>
                match codeUnit? a b c d with
                | none => .error .malformed
                | some second =>
                    if closesPair second then
                      finishText (pairedChar unit second :: read) rest
                    else
                      .error .malformed
            | _ => .error .malformed
          else
            finishText (Char.ofNat unit :: read) rest
  | '\\' :: letter :: rest =>
      match shortEscape? letter with
      | some c => finishText (c :: read) rest
      | none => .error .malformed
  | c :: rest =>
      if c.toNat < 0x20 ∨ c = '\\' then
        .error .malformed
      else
        finishText (c :: read) rest
  | [] => .error .malformed

/-- Skip the rest of a quoted text.  Escapes only have to be well formed. -/
def skipText : List Char → Except ReadFault (List Char)
  | '"' :: rest => .ok rest
  | '\\' :: 'u' :: a :: b :: c :: d :: rest =>
      match codeUnit? a b c d with
      | some _ => skipText rest
      | none => .error .malformed
  | '\\' :: letter :: rest =>
      match shortEscape? letter with
      | some _ => skipText rest
      | none => .error .malformed
  | c :: rest =>
      if c.toNat < 0x20 ∨ c = '\\' then .error .malformed else skipText rest
  | [] => .error .malformed

end AccessControl.Json
