/-!
# Blanks, letter case and numbers in names

Stored names are compared after blanks around them are dropped and ASCII
letters are raised to upper case.  Both steps, the cutting of a text at a
separator or after a number of bytes and the reading of decimal integers work
on lists of characters, so that a statement about them is a statement about
lists.
-/

namespace AccessControl.Text

/-- The characters with the Unicode property `White_Space`. -/
def isBlank (c : Char) : Bool :=
  (9 ≤ c.toNat && c.toNat ≤ 13) || c.toNat == 0x20 || c.toNat == 0x85 ||
    c.toNat == 0xA0 || c.toNat == 0x1680 ||
    (0x2000 ≤ c.toNat && c.toNat ≤ 0x200A) || c.toNat == 0x2028 ||
    c.toNat == 0x2029 || c.toNat == 0x202F || c.toNat == 0x205F ||
    c.toNat == 0x3000

/-- The characters without the blanks at both ends. -/
def trimmed (cs : List Char) : List Char :=
  ((cs.dropWhile isBlank).reverse.dropWhile isBlank).reverse

/-- The text without the blanks at both ends. -/
def trim (s : String) : String :=
  String.ofList (trimmed s.toList)

/-- ASCII letters in upper case, every other character as it is. -/
def raise (s : String) : String :=
  String.ofList (s.toList.map Char.toUpper)

/-- The spelling under which names are compared. -/
def canonical (s : String) : String :=
  raise (trim s)

/-- The pieces between the occurrences of a separator: one more than the
separator occurs. -/
def pieces (separator : Char) : List Char → List (List Char)
  | [] => [[]]
  | c :: rest =>
      if c = separator then
        [] :: pieces separator rest
      else
        match pieces separator rest with
        | [] => [[c]]
        | piece :: later => (c :: piece) :: later

/-- The parts before and after the first occurrence of a separator. -/
def cutAt? (separator : Char) : List Char → Option (List Char × List Char)
  | [] => none
  | c :: rest =>
      if c = separator then
        some ([], rest)
      else
        (cutAt? separator rest).map fun (before, after) => (c :: before, after)

/-! ## Bytes -/

/-- The number of bytes that characters take in UTF-8. -/
def byteSize : List Char → Nat
  | [] => 0
  | c :: rest => c.utf8Size + byteSize rest

/-- What follows a number of bytes, unless they end inside a character or go
beyond the end. -/
def dropBytes? : Nat → List Char → Option (List Char)
  | 0, cs => some cs
  | _ + 1, [] => none
  | count + 1, c :: rest =>
      if c.utf8Size ≤ count + 1 then
        dropBytes? (count + 1 - c.utf8Size) rest
      else
        none

/-- The characters of a number of bytes, unless they end inside a character or
go beyond the end. -/
def takeBytes? : Nat → List Char → Option (List Char)
  | 0, _ => some []
  | _ + 1, [] => none
  | count + 1, c :: rest =>
      if c.utf8Size ≤ count + 1 then
        (takeBytes? (count + 1 - c.utf8Size) rest).map (c :: ·)
      else
        none

/-! ## Numbers -/

/-- The number that a run of ASCII digits denotes. -/
def digitsValue (digits : List Char) : Nat :=
  digits.foldl (fun value c => value * 10 + (c.toNat - '0'.toNat)) 0

/-- The value of a non-empty run of ASCII digits. -/
def natural? (cs : List Char) : Option Nat :=
  if cs.isEmpty || !cs.all Char.isDigit then none else some (digitsValue cs)

/-- The value of a run of ASCII digits after an optional sign. -/
def integer? : List Char → Option Int
  | '+' :: digits => (natural? digits).map Int.ofNat
  | '-' :: digits => (natural? digits).map fun n => -Int.ofNat n
  | digits => (natural? digits).map Int.ofNat

/-- An integer written as `integer?` reads it, between two bounds. -/
def integerWithin? (low high : Int) (s : String) : Option Int :=
  (integer? s.toList).filter fun n => low ≤ n && n ≤ high

/-- A natural number with an optional plus sign, up to a bound. -/
def naturalUpTo? (high : Nat) (s : String) : Option Nat :=
  match s.toList with
  | '+' :: digits => (natural? digits).filter (· ≤ high)
  | digits => (natural? digits).filter (· ≤ high)

/-- The value of a hexadecimal digit. -/
def hexValue? (c : Char) : Option Nat :=
  if c.isDigit then some (c.toNat - '0'.toNat)
  else if 'a' ≤ c ∧ c ≤ 'f' then some (c.toNat - 'a'.toNat + 10)
  else if 'A' ≤ c ∧ c ≤ 'F' then some (c.toNat - 'A'.toNat + 10)
  else none

end AccessControl.Text
