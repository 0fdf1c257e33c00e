import AccessControl.LogFilter.Pattern

/-!
# Directives of log filters

A directive is a level or a target; spans may be chosen in square brackets
after a target, perhaps by a field in curly brackets, and the level for them
follows an equals sign.

A directive is read without the blanks around it.  The level and the field are
then cut from the text with the blanks, at the places that were found without
them: blanks after a directive end up in its level, and blanks before it move
both cuts to the left.
-/

namespace AccessControl.Directive

/-! ## Levels -/

/-- The words for levels, which may be written in either case.  The empty one
is the level for errors. -/
def levelWords : List String :=
  ["", "OFF", "ERROR", "WARN", "INFO", "DEBUG", "TRACE"]

/-- The greatest level that is given by its number. -/
def maxLevel : Nat :=
  5

/-- Whether a text is a level: a word for it or its number. -/
def isLevel (level : List Char) : Bool :=
  levelWords.contains (Text.raise (String.ofList level)) ||
    (Text.naturalUpTo? maxLevel (String.ofList level)).isSome

/-! ## Fields -/

/-- The digits of a decimal exponent, which may be absent with its letter. -/
def isExponent : List Char → Bool
  | [] => true
  | c :: rest =>
      let digits :=
        match rest with
        | '+' :: digits => digits
        | '-' :: digits => digits
        | digits => digits
      (c == 'e' || c == 'E') && !digits.isEmpty && digits.all Char.isDigit

/-- Whether a text is a decimal number without a sign: digits, perhaps with a
point among, before or after them, and perhaps an exponent. -/
def isDecimal (cs : List Char) : Bool :=
  let whole := cs.takeWhile Char.isDigit
  match cs.dropWhile Char.isDigit with
  | '.' :: rest =>
      !(whole.isEmpty && (rest.takeWhile Char.isDigit).isEmpty) &&
        isExponent (rest.dropWhile Char.isDigit)
  | rest => !whole.isEmpty && isExponent rest

/-- The words for numbers that are not decimal. -/
def numberWords : List String :=
  ["INF", "INFINITY", "NAN"]

/-- Whether a text is a number, perhaps with a sign. -/
def isNumber (cs : List Char) : Bool :=
  let unsigned :=
    match cs with
    | '+' :: rest => rest
    | '-' :: rest => rest
    | rest => rest
  numberWords.contains (Text.raise (String.ofList unsigned)) ||
    isDecimal unsigned

/-- The value that a field is compared with: what stands between the first two
equals signs. -/
def fieldValue? (field : List Char) : Option (List Char) :=
  (Text.cutAt? '=' field).map fun (_, rest) => rest.takeWhile (· != '=')

/-- Whether a field can be compared: its value, if it has one, is a number or a
pattern. -/
def isField (field : List Char) : Bool :=
  (fieldValue? field).all fun value => isNumber value || Pattern.isPattern value

/-! ## Directives -/

/-- Where the parts of a directive stand that are read on their own.  Each place
is given by what follows it. -/
structure Outline where
  /-- Where the field starts and where it ends. -/
  field : Option (List Char × List Char) := none
  /-- Where the level starts. -/
  level : Option (List Char) := none
deriving DecidableEq, Repr

/-- The characters that a target may start with. -/
def startsTarget (c : Char) : Bool :=
  Text.isAlphanumeric c || c == '-' || c == ':' || c == '_'

/-- The outline of the choice of spans, given what follows its opening bracket,
and what follows the closing one.  A field is not empty and ends the choice. -/
def outlineSpans? (cs : List Char) : Option (Outline × List Char) :=
  match cs.dropWhile fun c => c != ']' && c != '\x7b' with
  | ']' :: rest => some ({}, rest)
  | '\x7b' :: field =>
      match field.takeWhile (· != '\x7d'), field.dropWhile (· != '\x7d') with
      | _ :: _, '\x7d' :: ']' :: rest =>
          some ({ field := some (field, '\x7d' :: ']' :: rest) }, rest)
      | _, _ => none
  | _ => none

/-- The outline of a target with its choice of spans, and what follows it. -/
def outlineTarget? : List Char → Option (Outline × List Char)
  | [] => none
  | '[' :: rest => outlineSpans? rest
  | c :: rest =>
      if startsTarget c then
        match rest.dropWhile fun c => c != '=' && c != '[' with
        | '[' :: rest => outlineSpans? rest
        | rest => some ({}, rest)
      else
        none

/-- The outline of a directive without the blanks around it. -/
def outline? (body : List Char) : Option Outline :=
  match outlineTarget? body with
  | some (outline, []) => some outline
  | some (outline, '=' :: level) => some { outline with level := some level }
  | _ => none

/-- Whether a directive can be read. -/
def isDirective (directive : List Char) : Bool :=
  let body := Text.trimmed directive
  let place (rest : List Char) : Nat := Text.byteSize body - Text.byteSize rest
  match outline? body with
  | none => false
  | some outline =>
      let field :=
        outline.field.map fun (first, last) =>
          (Text.dropBytes? (place first) directive).bind
            (Text.takeBytes? (place last - place first))
      let level :=
        outline.level.map fun first => Text.dropBytes? (place first) directive
      field.all (·.any isField) && level.all (·.any isLevel)

end AccessControl.Directive
