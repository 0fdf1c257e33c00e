import AccessControl.Text

/-!
# Media types

The content type of a request names a media type: a type and a subtype
separated by a slash, and parameters after semicolons.  The part of a subtype
after its last plus sign is its suffix, unless the subtype starts with that
sign.
-/

namespace AccessControl.Service

/-- A media type; all words but the values of parameters are in upper case. -/
structure MediaType where
  type : String
  subtype : String
  suffix : Option String
  parameters : List (String × String)
deriving DecidableEq, Repr

namespace MediaType

/-- The characters of the words of a media type. -/
def isToken (c : Char) : Bool :=
  c.isAlphanum || "!#$%&'*+-.^_|~\x60".toList.contains c

/-- The characters that may stand between quotation marks. -/
def isQuotable (c : Char) : Bool :=
  0x20 ≤ c.toNat && c.toNat ≤ 0x7E

/-- Read a quoted text whose opening mark was read.  It is never empty: its
first character belongs to it even if it is a quotation mark. -/
def readQuoted : List Char → Option (List Char × List Char)
  | [] => none
  | first :: rest =>
      let isInner (c : Char) : Bool := isQuotable c && c != '"'
      match rest.dropWhile isInner with
      | '"' :: later =>
          if isQuotable first then
            some (first :: rest.takeWhile isInner, later)
          else
            none
      | _ => none

/-- Words in upper case. -/
def raise (word : List Char) : String :=
  Text.raise (String.ofList word)

/-- Read a run of parameters, up to a number of them.  Each is `name=value`, the
value a word or a quoted text; spaces may precede a name and follow a quoted
value.  Only the last value may be empty, if it is not quoted. -/
def readParameters : Nat → List Char → Option (List (String × String))
  | 0, _ => none
  | fuel + 1, cs =>
      let cs := cs.dropWhile (· == ' ')
      if cs.isEmpty then
        some []
      else
        let name := cs.takeWhile isToken
        let parameter (value : List Char) : String × String :=
          (raise name, String.ofList value)
        if name.isEmpty then
          none
        else
          match cs.dropWhile isToken with
          | '=' :: '"' :: rest => do
              let (value, rest) ← readQuoted rest
              match rest.dropWhile (· == ' ') with
              | [] => some [parameter value]
              | ';' :: rest => do
                  let later ← readParameters fuel rest
                  pure (parameter value :: later)
              | _ => none
          | '=' :: rest =>
              let value := rest.takeWhile isToken
              match rest.dropWhile isToken with
              | [] => some [parameter value]
              | ';' :: rest =>
                  if value.isEmpty then
                    none
                  else do
                    let later ← readParameters fuel rest
                    pure (parameter value :: later)
              | _ => none
          | _ => none

/-- The subtype without its suffix, and the suffix, of the characters of a
subtype. -/
def splitSuffix (subtype : List Char) : List Char × Option (List Char) :=
  match Text.cutAt? '+' subtype.reverse with
  | some (suffix, name) =>
      if name.isEmpty then
        (subtype, none)
      else
        (name.reverse, some suffix.reverse)
  | none => (subtype, none)

/-- The media type that a content type names.  A subtype may only be missing
where no parameters follow. -/
def ofText? (contentType : String) : Option MediaType :=
  let cs := contentType.toList
  let type := cs.takeWhile isToken
  match cs.dropWhile isToken with
  | '/' :: rest => do
      let subtype := rest.takeWhile isToken
      let parameters ←
        match rest.dropWhile isToken with
        | [] => some []
        | ';' :: rest =>
            if subtype.isEmpty then none
            else readParameters (rest.length + 1) rest
        | _ => none
      if type.isEmpty then
        none
      else
        let (name, suffix) := splitSuffix subtype
        some
          { type := raise type, subtype := raise name
            suffix := suffix.map raise, parameters }
  | _ => none

/-- The value of the first parameter with a name in upper case. -/
def parameter? (mediaType : MediaType) (name : String) : Option String :=
  mediaType.parameters.lookup name

/-- Whether a media type is a form of JSON: the subtype of `application` or its
suffix is `json`. -/
def isJson (mediaType : MediaType) : Bool :=
  mediaType.type == "APPLICATION" &&
    (mediaType.subtype == "JSON" || mediaType.suffix == some "JSON")

end MediaType

end AccessControl.Service
