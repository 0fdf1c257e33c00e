import AccessControl.Json.Lexeme

/-!
# Numerals

A numeral is cut into its parts and keeps them as they were written.  It is an
integer, or it stands for a number of double precision; a numeral beyond that
range is refused.

The range is tested on an approximation.  Only the leading digits that fit in a
machine word are kept, and these digits, the power of ten that they are
multiplied by and the product are each rounded to double precision.  Close to
the limit the outcome differs from that of rounding the exact value once.
-/

namespace AccessControl.Json

/-! ## Double precision -/

/-- The nearest number with at most 53 binary digits before its trailing
zeros.  Of two nearest numbers it is the one whose last such digit is even. -/
def roundToDouble (n : Nat) : Nat :=
  let unit := Nat.pow 2 (n.log2 - 52)
  let quotient := n / unit
  let remainder := n % unit
  if unit < 2 * remainder ∨ (2 * remainder = unit ∧ quotient % 2 = 1) then
    (quotient + 1) * unit
  else
    quotient * unit

/-- The least number that rounds to none of double precision: halfway between
the greatest such number and the next power of two. -/
def overflow : Nat :=
  Nat.pow 2 1024 - Nat.pow 2 970

/-- The greatest power of ten that double precision reaches. -/
def maxPowerOfTen : Nat :=
  308

/-! ## Parts of a numeral -/

/-- A numeral, cut into its parts. -/
structure Numeral where
  negative : Bool
  whole : List Char
  fraction : Option (List Char)
  exponent : Option (Bool × List Char)

namespace Numeral

/-- The integer denoted by a numeral without fraction and exponent.  The
negative zero is not an integer. -/
def integer? (numeral : Numeral) : Option Int :=
  match numeral.fraction, numeral.exponent with
  | none, none =>
      let magnitude := Text.digitsValue numeral.whole
      if numeral.negative then
        if magnitude = 0 then none else some (-Int.ofNat magnitude)
      else
        some (Int.ofNat magnitude)
  | _, _ => none

/-- The numeral as it was written. -/
def spelling (numeral : Numeral) : String :=
  let sign := if numeral.negative then ['-'] else []
  let fraction :=
    match numeral.fraction with
    | some digits => '.' :: digits
    | none => []
  let exponent :=
    match numeral.exponent with
    | some (negative, digits) => 'e' :: (if negative then ['-'] else []) ++ digits
    | none => []
  String.ofList (sign ++ numeral.whole ++ fraction ++ exponent)

/-- The value of a numeral. -/
def value (numeral : Numeral) : Json :=
  match numeral.integer? with
  | some n => .integer n
  | none => .decimal numeral.spelling

/-! ## Magnitude -/

/-- Append digits to a significand while it fits in a word of 64 bits: the
result, and the digits that are left out. -/
def appendDigits (significand : Nat) : List Char → Nat × List Char
  | [] => (significand, [])
  | c :: rest =>
      let longer := significand * 10 + (c.toNat - '0'.toNat)
      if longer < Nat.pow 2 64 then
        appendDigits longer rest
      else
        (significand, c :: rest)

/-- The exponent as it was written. -/
def writtenExponent (numeral : Numeral) : Int :=
  match numeral.exponent with
  | some (true, digits) => -Int.ofNat (Text.digitsValue digits)
  | some (false, digits) => Int.ofNat (Text.digitsValue digits)
  | none => 0

/-- The leading digits of a numeral and the power of ten that they are
multiplied by.  A digit left out before the point raises the power, a digit
kept after it lowers the power. -/
def magnitude (numeral : Numeral) : Nat × Int :=
  let fraction := numeral.fraction.getD []
  let (significand, unkeptWhole) := appendDigits 0 numeral.whole
  let (significand, unkeptFraction) := appendDigits significand fraction
  (significand,
    numeral.writtenExponent + Int.ofNat unkeptWhole.length -
      Int.ofNat (fraction.length - unkeptFraction.length))

/-- Whether a numeral is too large in magnitude for double precision. -/
def overflows (numeral : Numeral) : Bool :=
  let (significand, power) := numeral.magnitude
  if significand = 0 ∨ power < 0 then
    false
  else if Int.ofNat maxPowerOfTen < power then
    true
  else
    overflow ≤ roundToDouble significand * roundToDouble (Nat.pow 10 power.toNat)

/-! ## Reading -/

/-- Split off a run of digits, which must not be empty. -/
def digits (cs : List Char) : Except ReadFault (List Char × List Char) :=
  let run := cs.takeWhile Char.isDigit
  if run.isEmpty then
    .error .malformed
  else
    .ok (run, cs.dropWhile Char.isDigit)

/-- The digits before the point: a single zero, or a run that does not start
with one. -/
def wholePart : Reader (List Char)
  | '0' :: rest =>
      match rest with
      | c :: _ => if c.isDigit then .error .malformed else .ok (['0'], rest)
      | [] => .ok (['0'], rest)
  | cs => digits cs

/-- The digits after a point, if there is one. -/
def fractionPart : Reader (Option (List Char))
  | '.' :: rest => do
      let (run, rest) ← digits rest
      pure (some run, rest)
  | cs => .ok (none, cs)

/-- The sign and the digits of an exponent, if there is one. -/
def exponentPart : Reader (Option (Bool × List Char))
  | c :: rest =>
      if c = 'e' ∨ c = 'E' then do
        let (negative, rest) :=
          match rest with
          | '+' :: rest => (false, rest)
          | '-' :: rest => (true, rest)
          | rest => (false, rest)
        let (run, rest) ← digits rest
        pure (some (negative, run), rest)
      else
        .ok (none, c :: rest)
  | [] => .ok (none, [])

/-- Read a numeral. -/
def read : Reader Numeral := fun cs => do
  let (negative, cs) :=
    match cs with
    | '-' :: rest => (true, rest)
    | rest => (false, rest)
  let (whole, cs) ← wholePart cs
  let (fraction, cs) ← fractionPart cs
  let (exponent, cs) ← exponentPart cs
  pure ({ negative, whole, fraction, exponent }, cs)

end Numeral

/-- Whether a character can start a numeral. -/
def startsNumeral (c : Char) : Bool :=
  c == '-' || c.isDigit

end AccessControl.Json
