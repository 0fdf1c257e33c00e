import AccessControl.Text

/-!
# Network addresses

An address is written as four decimal numbers separated by points, or as eight
hexadecimal groups separated by colons.  A pair of colons stands for at least
one group of zeros, and the last two groups may be written as four decimal
numbers.  Addresses are shown in their shortest form.
-/

namespace AccessControl.Command

/-- A network address. -/
inductive Address where
  /-- Four bytes. -/
  | short (bytes : List Nat)
  /-- Eight groups of sixteen bits. -/
  | long (groups : List Nat)
deriving DecidableEq, Repr

namespace Address

/-- A decimal number up to 255, without superfluous zeros. -/
def byte? (cs : List Char) : Option Nat :=
  match cs with
  | '0' :: _ :: _ => none
  | _ => if cs.length ≤ 3 then (Text.natural? cs).filter (· ≤ 255) else none

/-- Four decimal numbers separated by points. -/
def bytes? (cs : List Char) : Option (List Nat) := do
  let bytes ← (Text.pieces '.' cs).mapM byte?
  if bytes.length = 4 then some bytes else none

/-- One to four hexadecimal digits. -/
def group? (cs : List Char) : Option Nat := do
  let digits ← cs.mapM Text.hexValue?
  if digits.isEmpty ∨ 4 < digits.length then
    none
  else
    some (digits.foldl (fun value digit => value * 16 + digit) 0)

/-- The groups that the pieces between colons denote.  Where `mixed` says so,
the last piece may be four decimal numbers, which make two groups. -/
def groups? (mixed : Bool) : List (List Char) → Option (List Nat)
  | [] => some []
  | [piece] =>
      match group? piece with
      | some group => some [group]
      | none =>
          if mixed then
            match bytes? piece with
            | some [a, b, c, d] => some [a * 256 + b, c * 256 + d]
            | _ => none
          else
            none
  | piece :: later => do
      let group ← group? piece
      let others ← groups? mixed later
      pure (group :: others)

/-- The parts before and after the first pair of colons. -/
def cutAtGap? : List Char → Option (List Char × List Char)
  | ':' :: ':' :: rest => some ([], rest)
  | c :: rest => (cutAtGap? rest).map fun (before, after) => (c :: before, after)
  | [] => none

/-- The groups on one side of the pair of colons, which may be none. -/
def side? (mixed : Bool) (cs : List Char) : Option (List Nat) :=
  if cs.isEmpty then some [] else groups? mixed (Text.pieces ':' cs)

/-- Eight groups, some of them perhaps left out. -/
def long? (cs : List Char) : Option (List Nat) :=
  match cutAtGap? cs with
  | some (before, after) => do
      let front ← side? false before
      let back ← side? true after
      if front.length + back.length ≤ 7 then
        some (front ++ List.replicate (8 - front.length - back.length) 0 ++ back)
      else
        none
  | none => do
      let groups ← groups? true (Text.pieces ':' cs)
      if groups.length = 8 then some groups else none

/-- The address that a text denotes. -/
def parse? (s : String) : Option Address :=
  match bytes? s.toList with
  | some bytes => some (.short bytes)
  | none => (long? s.toList).map Address.long

/-! ## Writing -/

/-- Decimal numbers separated by points. -/
def dotted (bytes : List Nat) : String :=
  ".".intercalate (bytes.map toString)

/-- A group in hexadecimal, without superfluous zeros. -/
def hex (group : Nat) : String :=
  String.ofList (Nat.toDigits 16 group)

/-- Groups separated by colons. -/
def colons (groups : List Nat) : String :=
  ":".intercalate (groups.map hex)

/-- The number of zeros at the front. -/
def zerosAtFront (groups : List Nat) : Nat :=
  (groups.takeWhile (· == 0)).length

/-- The start and the length of the longest run of zeros, the first of several
of that length; `start` is the position of the list in a longer one. -/
def longestGap (start : Nat) : List Nat → Nat × Nat
  | [] => (start, 0)
  | group :: later =>
      let here := zerosAtFront (group :: later)
      let (place, length) := longestGap (start + 1) later
      if here = 0 ∨ here < length then (place, length) else (start, here)

/-- Eight groups in their shortest form.  Addresses that stand for four bytes
show these; a gap replaces the longest run of at least two zero groups. -/
def shortest (groups : List Nat) : String :=
  match groups with
  | [0, 0, 0, 0, 0, 0xFFFF, a, b] =>
      "::ffff:" ++ dotted [a / 256, a % 256, b / 256, b % 256]
  | _ =>
      let (place, length) := longestGap 0 groups
      if 1 < length then
        colons (groups.take place) ++ "::" ++ colons (groups.drop (place + length))
      else
        colons groups

/-- An address with a port. -/
def withPort (address : Address) (port : Nat) : String :=
  match address with
  | .short bytes => dotted bytes ++ ":" ++ toString port
  | .long groups => "[" ++ shortest groups ++ "]:" ++ toString port

end Address

end AccessControl.Command
