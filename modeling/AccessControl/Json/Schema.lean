import AccessControl.Json.Reader

/-!
# Schemas

A schema says which documents are accepted.  `Schema.conform` checks a value
against it, `Schema.read` checks a text while reading it, so that the first
fault in the text decides how the text fails.  Both give the document in normal
form: a record is an object with exactly its fields, in the order of the
schema, with the fallbacks filled in.

Members that no field asks for are ignored.  A record may also be written as an
array of its fields, and a choice as an object with the chosen name for its
only member and `null` for the value of it.
-/

namespace AccessControl.Json

mutual

/-- Which documents are accepted. -/
inductive Schema where
  /-- Integers between two bounds. -/
  | integer (low high : Int)
  | boolean
  | text
  /-- Texts that satisfy a test. -/
  | word (accepts : String → Bool)
  /-- One of several names. -/
  | choice (names : List String)
  | list (item : Schema)
  /-- Objects with any members. -/
  | object
  /-- A document or `null`. -/
  | optional (inner : Schema)
  | record (fields : Fields)

/-- The fields of a record, in order.  A field with a fallback may be
missing. -/
inductive Fields where
  | none
  | field (name : String) (schema : Schema) (fallback : Option Json)
      (later : Fields)

end

/-! ## Checking values -/

/-- The values of the members with a given name. -/
def named (name : String) (members : List (String × Json)) : List Json :=
  (members.filter fun member => member.1 == name).map Prod.snd

mutual

/-- The normal form of a value that a schema accepts. -/
def Schema.conform : Schema → Json → Option Json
  | .integer low high, .integer n =>
      if low ≤ n ∧ n ≤ high then some (.integer n) else none
  | .boolean, .boolean value => some (.boolean value)
  | .text, .text s => some (.text s)
  | .word accepts, .text s => if accepts s then some (.text s) else none
  | .choice names, .text s => if names.contains s then some (.text s) else none
  | .choice names, .object [(s, .null)] =>
      if names.contains s then some (.text s) else none
  | .list item, .array items =>
      (items.mapM fun value => item.conform value).map Json.array
  | .object, .object members => some (.object members)
  | .optional _, .null => some .null
  | .optional inner, value => inner.conform value
  | .record fields, .object members => (fields.fill members).map Json.object
  | .record fields, .array items => (fields.align items).map Json.object
  | _, _ => none

/-- The fields of a record in order, found among the members of an object.
A member for a field must not be repeated. -/
def Fields.fill : Fields → List (String × Json) →
    Option (List (String × Json))
  | .none, _ => some []
  | .field name schema fallback later, members => do
      let value ←
        match named name members with
        | [] => fallback
        | [value] => schema.conform value
        | _ => Option.none
      let others ← later.fill members
      pure ((name, value) :: others)

/-- The fields of a record in order, taken from the items of an array. -/
def Fields.align : Fields → List Json → Option (List (String × Json))
  | .none, [] => some []
  | .none, _ :: _ => Option.none
  | .field name _ fallback later, [] => do
      let value ← fallback
      let others ← later.align []
      pure ((name, value) :: others)
  | .field name schema _ later, item :: items => do
      let value ← schema.conform item
      let others ← later.align items
      pure ((name, value) :: others)

end

/-! ## Reading texts -/

/-- The fault of a text where something else was asked for: a mismatch if a
value starts there, as far as a reader has to look to tell. -/
def unexpected (cs : List Char) : ReadFault :=
  let faultOf {α : Type} (result : Except ReadFault α) : ReadFault :=
    match result with
    | .ok _ => .mismatch
    | .error fault => fault
  match skipSpace cs with
  | 'n' :: rest => faultOf (skipWord "ull".toList rest)
  | 't' :: rest => faultOf (skipWord "rue".toList rest)
  | 'f' :: rest => faultOf (skipWord "alse".toList rest)
  | '"' :: rest => faultOf (finishText [] rest)
  | '[' :: _ => .mismatch
  | '\x7b' :: _ => .mismatch
  | c :: rest =>
      if startsNumeral c then
        match Numeral.read (c :: rest) with
        | .ok (numeral, _) => if numeral.overflows then .malformed else .mismatch
        | .error fault => fault
      else
        .malformed
  | [] => .malformed

/-- Read an integer between two bounds. -/
def integerReader (low high : Int) : Reader Json := fun cs =>
  match skipSpace cs with
  | c :: rest =>
      if startsNumeral c then do
        let (numeral, rest) ← Numeral.read (c :: rest)
        if numeral.overflows then
          .error .malformed
        else
          match numeral.integer? with
          | some n =>
              if low ≤ n ∧ n ≤ high then
                pure (.integer n, rest)
              else
                .error .mismatch
          | none => .error .mismatch
      else
        .error (unexpected cs)
  | [] => .error .malformed

/-- Read a boolean. -/
def booleanReader : Reader Json := fun cs =>
  match skipSpace cs with
  | 't' :: rest => do
      let rest ← skipWord "rue".toList rest
      pure (.boolean true, rest)
  | 'f' :: rest => do
      let rest ← skipWord "alse".toList rest
      pure (.boolean false, rest)
  | _ => .error (unexpected cs)

/-- Read a text that satisfies a test. -/
def wordReader (accepts : String → Bool) : Reader Json := fun cs =>
  match skipSpace cs with
  | '"' :: rest => do
      let (s, rest) ← finishText [] rest
      if accepts s then pure (.text s, rest) else .error .mismatch
  | _ => .error (unexpected cs)

/-- Read a literal `null`. -/
def nullReader : Reader Json := fun cs =>
  match skipSpace cs with
  | 'n' :: rest => do
      let rest ← skipWord "ull".toList rest
      pure (.null, rest)
  | _ => .error (unexpected cs)

/-- Read one of several names.  The only member of an object must start with
a quotation mark, like that of any other object. -/
def choiceReader (names : List String) : Reader Json := fun cs =>
  match skipSpace cs with
  | '"' :: _ => wordReader names.contains cs
  | '\x7b' :: rest => do
      let (name, rest) ←
        match skipSpace rest with
        | '"' :: _ => wordReader names.contains rest
        | _ => .error .malformed
      match skipSpace rest with
      | ':' :: rest => do
          let (_, rest) ← nullReader rest
          match skipSpace rest with
          | '\x7d' :: rest => pure (name, rest)
          | _ => .error .malformed
      | _ => .error .malformed
  | _ => .error .malformed

/-- Read a document or `null`. -/
def optionalReader (inner : Reader Json) : Reader Json := fun cs =>
  match skipSpace cs with
  | 'n' :: rest => do
      let rest ← skipWord "ull".toList rest
      pure (.null, rest)
  | _ => inner cs

/-- What stands where the next item of an array may start. -/
inductive NextItem where
  | item (rest : List Char)
  | finished (rest : List Char)

/-- Find the next item of an array; `first` while none was read. -/
def nextItem (first : Bool) (cs : List Char) : Except ReadFault NextItem :=
  match skipSpace cs with
  | [] => .error .malformed
  | c :: rest =>
      if c = ']' then
        .ok (.finished rest)
      else if first then
        .ok (.item (c :: rest))
      else if c = ',' then
        match skipSpace rest with
        | [] => .error .malformed
        | c :: rest =>
            if c = ']' then .error .malformed else .ok (.item (c :: rest))
      else
        .error .malformed

/-- Read the items of an array; every item takes a character. -/
def itemsReader (item : Reader Json) : Nat → Bool → List Json → Reader Json
  | 0, _, _, _ => .error .malformed
  | fuel + 1, first, read, cs => do
      match ← nextItem first cs with
      | .finished rest => pure (.array read.reverse, rest)
      | .item rest => do
          let (value, rest) ← item rest
          itemsReader item fuel false (value :: read) rest

/-- Read an array of documents. -/
def listReader (item : Reader Json) : Reader Json := fun cs =>
  match skipSpace cs with
  | '[' :: rest => itemsReader item (rest.length + 1) true [] rest
  | _ => .error (unexpected cs)

/-- Read an object with any members. -/
def objectReader : Reader Json := fun cs =>
  match skipSpace cs with
  | '\x7b' :: _ => readAny cs
  | _ => .error (unexpected cs)

/-- A field of a record with the reader of its document. -/
structure FieldReader where
  name : String
  read : Reader Json
  fallback : Option Json

/-- Read the fields of a record from the items of an array.  An array with too
few items lacks a field; what follows the last field must be its end. -/
def alignedReader : Bool → List (String × Json) → List FieldReader → Reader Json
  | _, read, [], cs =>
      match skipSpace cs with
      | ']' :: rest => .ok (.object read.reverse, rest)
      | _ => .error .malformed
  | first, read, field :: later, cs => do
      match ← nextItem first cs with
      | .item rest => do
          let (value, rest) ← field.read rest
          alignedReader false ((field.name, value) :: read) later rest
      | .finished _ =>
          match field.fallback with
          | some value =>
              alignedReader first ((field.name, value) :: read) later cs
          | none => .error .mismatch

/-- All fields in order, from those that were read, with fallbacks. -/
def completed (found : List (String × Json)) :
    List FieldReader → Option (List (String × Json))
  | [] => some []
  | field :: later => do
      let value ← (found.lookup field.name).or field.fallback
      let others ← completed found later
      pure ((field.name, value) :: others)

/-- What stands where the next member of an object may start. -/
inductive NextMember where
  | member (name : String) (rest : List Char)
  | finished (rest : List Char)

/-- Find the name of the next member of an object; `first` while none was
read. -/
def nextMember (first : Bool) (cs : List Char) : Except ReadFault NextMember :=
  match skipSpace cs with
  | [] => .error .malformed
  | c :: rest =>
      if c = '\x7d' then
        .ok (.finished rest)
      else if first then
        memberName (c :: rest)
      else if c = ',' then
        memberName (skipSpace rest)
      else
        .error .malformed
where
  memberName : List Char → Except ReadFault NextMember
    | '"' :: rest => do
        let (name, rest) ← finishText [] rest
        pure (.member name rest)
    | _ => .error .malformed

/-- Skip the colon between a name and its value. -/
def skipColon (cs : List Char) : Except ReadFault (List Char) :=
  match skipSpace cs with
  | ':' :: rest => .ok rest
  | _ => .error .malformed

/-- Read the fields of a record from the members of an object; every member
takes a character.  A repeated field is a mismatch where its name stands. -/
def membersReader (fields : List FieldReader) :
    Nat → Bool → List (String × Json) → Reader Json
  | 0, _, _, _ => .error .malformed
  | fuel + 1, first, found, cs => do
      match ← nextMember first cs with
      | .finished rest =>
          match completed found fields with
          | some members => pure (.object members, rest)
          | none => .error .mismatch
      | .member name rest =>
          match fields.find? fun field => field.name == name with
          | some field =>
              if (found.lookup name).isSome then
                .error .mismatch
              else do
                let (value, rest) ← field.read (← skipColon rest)
                membersReader fields fuel false ((name, value) :: found) rest
          | none => do
              let rest ← skipValue (← skipColon rest)
              membersReader fields fuel false found rest

/-- Read a record, written as an object or as an array. -/
def recordReader (fields : List FieldReader) : Reader Json := fun cs =>
  match skipSpace cs with
  | '[' :: rest => alignedReader true [] fields rest
  | '\x7b' :: rest => membersReader fields (rest.length + 1) true [] rest
  | _ => .error (unexpected cs)

mutual

/-- Read a document of a schema, in normal form. -/
def Schema.read : Schema → Reader Json
  | .integer low high => integerReader low high
  | .boolean => booleanReader
  | .text => wordReader fun _ => true
  | .word accepts => wordReader accepts
  | .choice names => choiceReader names
  | .list item => listReader item.read
  | .object => objectReader
  | .optional inner => optionalReader inner.read
  | .record fields => recordReader fields.readers

/-- The readers of a record's fields. -/
def Fields.readers : Fields → List FieldReader
  | .none => []
  | .field name schema fallback later =>
      { name, read := schema.read, fallback } :: later.readers

end

/-- Read a whole text as one document; only blanks may follow it. -/
def Schema.parse (schema : Schema) (text : String) : Except ReadFault Json := do
  let (value, rest) ← schema.read text.toList
  if (skipSpace rest).isEmpty then pure value else .error .malformed

end AccessControl.Json
