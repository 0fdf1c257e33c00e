import AccessControl.Service.MediaType

/-!
# Bodies of several parts

The parts of a body stand between boundary lines.  Each starts with header
lines, and an empty line separates them from its content.  The header named
`Content-Disposition` gives the part a name, and a file name if it is a file.
-/

namespace AccessControl.Service

/-- A part of a body. -/
structure Part where
  name : Option String
  isFile : Bool
  content : String
deriving DecidableEq, Repr

namespace Multipart

/-- What stands before and after the first occurrence of a pattern. -/
def cutAt? (pattern : List Char) : List Char → Option (List Char × List Char)
  | [] => if pattern.isEmpty then some ([], []) else none
  | c :: rest =>
      if pattern.isPrefixOf (c :: rest) then
        some ([], (c :: rest).drop pattern.length)
      else
        (cutAt? pattern rest).map fun (before, after) => (c :: before, after)

/-! ## Headers -/

/-- How many headers a part may have. -/
def maxHeaders : Nat :=
  32

/-- Blanks within a line. -/
def isLineBlank (c : Char) : Bool :=
  c == ' ' || c == '\t'

/-- The characters that may stand in the value of a header. -/
def isHeaderChar (c : Char) : Bool :=
  c == '\t' || (0x20 ≤ c.toNat && c.toNat != 0x7F)

/-- Read at most a number of headers up to the empty line after them.  Each is
`name:value` on a line of its own; the blanks around the value are dropped. -/
def readHeaders : Nat → List Char → Option (List (String × List Char))
  | _, '\r' :: '\n' :: _ => some []
  | _, '\n' :: _ => some []
  | 0, _ => none
  | count + 1, cs =>
      let name := cs.takeWhile MediaType.isToken
      match cs.dropWhile MediaType.isToken with
      | ':' :: rest =>
          let rest := rest.dropWhile isLineBlank
          let value := rest.takeWhile isHeaderChar
          let header :=
            (MediaType.raise name,
              (value.reverse.dropWhile isLineBlank).reverse)
          if name.isEmpty then
            none
          else
            match rest.dropWhile isHeaderChar with
            | '\r' :: '\n' :: rest => (readHeaders count rest).map (header :: ·)
            | '\n' :: rest => (readHeaders count rest).map (header :: ·)
            | _ => none
      | _ => none

/-- The blanks between the words of a header. -/
def isWordBlank (c : Char) : Bool :=
  isLineBlank c || c == '\r' || c == '\n' || c == '\x0c'

/-- Read a quoted value whose opening mark was read.  A quotation mark after a
backslash belongs to it. -/
def readQuotedValue : List Char → Option (List Char)
  | [] => none
  | '"' :: _ => some []
  | '\\' :: '"' :: rest => (readQuotedValue rest).map ('"' :: ·)
  | c :: rest => (readQuotedValue rest).map (c :: ·)

/-- Read a value, given what follows its name. -/
def readValue (cs : List Char) : Option (List Char) :=
  match cs.dropWhile isWordBlank with
  | '=' :: rest =>
      match rest.dropWhile isWordBlank with
      | '"' :: rest => readQuotedValue rest
      | rest => some (rest.takeWhile fun c => c != ';' && c != ' ')
  | _ => none

/-- The value that a header gives to a name, up to a number of occurrences of the
name.  It follows a blank, a semicolon or the place up to which the search has
come. -/
def valueOf? (name : List Char) : Nat → List Char → Option (List Char)
  | 0, _ => none
  | fuel + 1, header => do
      let (before, after) ← cutAt? name header
      if before.getLast?.all fun c => isWordBlank c || c == ';' then
        readValue after
      else
        valueOf? name fuel after

/-- The part with given headers and content.  Of several headers of one name the
last one counts. -/
def part (headers : List (String × List Char)) (content : List Char) : Part :=
  let disposition := (headers.reverse.lookup "CONTENT-DISPOSITION").getD []
  let given (name : String) : Option (List Char) :=
    valueOf? name.toList (disposition.length + 1) disposition
  { name := (given "name").map String.ofList
    isFile := (given "filename").isSome
    content := String.ofList content }

/-! ## Parts -/

/-- Read the parts, up to a number of them, given what follows a boundary.  Two
dashes after a boundary end the body. -/
def readParts (boundary : List Char) : Nat → List Char → Option (List Part)
  | 0, _ => none
  | _ + 1, '-' :: '-' :: _ => some []
  | fuel + 1, cs =>
      match cs.dropWhile isLineBlank with
      | '\r' :: '\n' :: rest => do
          let emptyLine := "\r\n\r\n".toList
          let (head, rest) ← cutAt? emptyLine rest
          let headers ← readHeaders maxHeaders (head ++ emptyLine)
          let (content, rest) ← cutAt? ("\r\n--".toList ++ boundary) rest
          let later ← readParts boundary fuel rest
          pure (part headers content :: later)
      | _ => none

/-- The parts of a body.  What stands before the first boundary is ignored. -/
def parts? (boundary body : String) : Option (List Part) := do
  let (_, rest) ← cutAt? ("--".toList ++ boundary.toList) body.toList
  readParts boundary.toList (rest.length + 1) rest

end Multipart

end AccessControl.Service
