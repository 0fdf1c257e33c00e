import AccessControl.Json.Numeral

/-!
# Reading and skipping JSON values

`readAny` reads a value whatever it is; brackets nested too deep are refused,
so that a hostile text cannot exhaust the stack.  `skipValue` passes over a
value that nobody asked for: it keeps only the brackets that are still open, so
that the depth of the value does not matter, and it does not ask what numerals
and escapes denote.
-/

namespace AccessControl.Json

/-- An object's members with one more at the end; an earlier member of the
same name is dropped. -/
def addMember (members : List (String × Json)) (name : String) (value : Json) :
    List (String × Json) :=
  members.filter (fun member => member.1 != name) ++ [(name, value)]

/-- How deep the brackets of a value may be nested. -/
def maxDepth : Nat :=
  127

mutual

/-- Read a value with brackets nested up to a depth.  Every step down takes a
character or goes from a list to its first item, so twice the length of the
text is enough fuel. -/
def readValue : Nat → Nat → Reader Json
  | 0, _, _ => .error .malformed
  | fuel + 1, depth, cs =>
      match skipSpace cs with
      | 'n' :: rest => do
          let rest ← skipWord "ull".toList rest
          pure (.null, rest)
      | 't' :: rest => do
          let rest ← skipWord "rue".toList rest
          pure (.boolean true, rest)
      | 'f' :: rest => do
          let rest ← skipWord "alse".toList rest
          pure (.boolean false, rest)
      | '"' :: rest => do
          let (s, rest) ← finishText [] rest
          pure (.text s, rest)
      | '[' :: rest =>
          match depth, skipSpace rest with
          | 0, _ => .error .malformed
          | _ + 1, ']' :: rest => .ok (.array [], rest)
          | depth + 1, rest => readItems fuel depth [] rest
      | '\x7b' :: rest =>
          match depth, skipSpace rest with
          | 0, _ => .error .malformed
          | _ + 1, '\x7d' :: rest => .ok (.object [], rest)
          | depth + 1, rest => readMembers fuel depth [] rest
      | c :: rest =>
          if startsNumeral c then do
            let (numeral, rest) ← Numeral.read (c :: rest)
            if numeral.overflows then
              .error .malformed
            else
              pure (numeral.value, rest)
          else
            .error .malformed
      | [] => .error .malformed

/-- Read the items of an array up to its end; `read` holds the earlier ones,
the latest first. -/
def readItems : Nat → Nat → List Json → Reader Json
  | 0, _, _, _ => .error .malformed
  | fuel + 1, depth, read, cs => do
      let (item, rest) ← readValue fuel depth cs
      match skipSpace rest with
      | ',' :: rest => readItems fuel depth (item :: read) rest
      | ']' :: rest => pure (.array (item :: read).reverse, rest)
      | _ => .error .malformed

/-- Read the members of an object up to its end, after the earlier ones. -/
def readMembers : Nat → Nat → List (String × Json) → Reader Json
  | 0, _, _, _ => .error .malformed
  | fuel + 1, depth, read, cs =>
      match skipSpace cs with
      | '"' :: rest => do
          let (name, rest) ← finishText [] rest
          match skipSpace rest with
          | ':' :: rest => do
              let (value, rest) ← readValue fuel depth rest
              let read := addMember read name value
              match skipSpace rest with
              | ',' :: rest => readMembers fuel depth read rest
              | '\x7d' :: rest => pure (.object read, rest)
              | _ => .error .malformed
          | _ => .error .malformed
      | _ => .error .malformed

end

/-- Read a value with brackets nested up to a depth. -/
def readWithin (depth : Nat) : Reader Json := fun cs =>
  readValue (2 * cs.length + 2) depth cs

/-- Read a value, whatever it is. -/
def readAny : Reader Json :=
  readWithin maxDepth

/-- The value that a text denotes, if it is JSON with brackets nested up to a
depth. -/
def parseWithin? (depth : Nat) (text : String) : Option Json :=
  match readWithin depth text.toList with
  | .ok (value, rest) => if (skipSpace rest).isEmpty then some value else none
  | .error _ => none

/-- The value that a text denotes, if it is JSON. -/
def parse? (text : String) : Option Json :=
  parseWithin? maxDepth text

/-- An open bracket. -/
inductive Bracket where
  | square
  | curly
deriving DecidableEq, Repr

/-- What may come next while a value is skipped. -/
inductive Awaited where
  | value
  | itemOrEnd
  | memberOrEnd
  | member
  | commaOrEnd
deriving DecidableEq, Repr

/-- Skip a name and the colon after it. -/
def skipName (cs : List Char) : Except ReadFault (List Char) := do
  let rest ← skipText cs
  match skipSpace rest with
  | ':' :: rest => pure rest
  | _ => .error .malformed

/-- Skip until the brackets that are open are closed again.  Every second step
takes a character. -/
def skipUntilClosed : Nat → Awaited → List Bracket → List Char →
    Except ReadFault (List Char)
  | 0, _, _, _ => .error .malformed
  | _ + 1, .commaOrEnd, [], cs => .ok cs
  | fuel + 1, awaited, openBrackets, cs =>
      match awaited, openBrackets, skipSpace cs with
      | .commaOrEnd, .square :: _, ',' :: rest =>
          skipUntilClosed fuel .value openBrackets rest
      | .commaOrEnd, .curly :: _, ',' :: rest =>
          skipUntilClosed fuel .member openBrackets rest
      | .commaOrEnd, .square :: outer, ']' :: rest =>
          skipUntilClosed fuel .commaOrEnd outer rest
      | .commaOrEnd, .curly :: outer, '\x7d' :: rest =>
          skipUntilClosed fuel .commaOrEnd outer rest
      | .itemOrEnd, .square :: outer, ']' :: rest =>
          skipUntilClosed fuel .commaOrEnd outer rest
      | .itemOrEnd, _, rest =>
          skipUntilClosed fuel .value openBrackets rest
      | .memberOrEnd, .curly :: outer, '\x7d' :: rest =>
          skipUntilClosed fuel .commaOrEnd outer rest
      | .memberOrEnd, _, rest =>
          skipUntilClosed fuel .member openBrackets rest
      | .member, _, '"' :: rest => do
          let rest ← skipName rest
          skipUntilClosed fuel .value openBrackets rest
      | .value, _, 'n' :: rest => do
          let rest ← skipWord "ull".toList rest
          skipUntilClosed fuel .commaOrEnd openBrackets rest
      | .value, _, 't' :: rest => do
          let rest ← skipWord "rue".toList rest
          skipUntilClosed fuel .commaOrEnd openBrackets rest
      | .value, _, 'f' :: rest => do
          let rest ← skipWord "alse".toList rest
          skipUntilClosed fuel .commaOrEnd openBrackets rest
      | .value, _, '"' :: rest => do
          let rest ← skipText rest
          skipUntilClosed fuel .commaOrEnd openBrackets rest
      | .value, _, '[' :: rest =>
          skipUntilClosed fuel .itemOrEnd (.square :: openBrackets) rest
      | .value, _, '\x7b' :: rest =>
          skipUntilClosed fuel .memberOrEnd (.curly :: openBrackets) rest
      | .value, _, c :: rest =>
          if startsNumeral c then do
            let (_, rest) ← Numeral.read (c :: rest)
            skipUntilClosed fuel .commaOrEnd openBrackets rest
          else
            .error .malformed
      | _, _, _ => .error .malformed

/-- Skip a value, whatever it is. -/
def skipValue (cs : List Char) : Except ReadFault (List Char) :=
  skipUntilClosed (2 * cs.length + 2) .value [] cs

end AccessControl.Json
