import Mathlib.Data.List.Nodup
import AccessControl.Proofs.Json.Reading

/-!
# Reading written records

The members of an object are read one after the other, whatever their order.  At
every member the same is known about a field: it is found already, or it is
still to come, or it falls back.  What a field comes to does not change on the
way, and at the end it is what checking the object as a whole gives.
-/

namespace AccessControl.Json

/-! ## Arrays of fields -/

theorem alignedReader_append (fields : Fields)
    (follows : ∀ field ∈ fields.toList,
      Follows field.schema.read field.schema.conform)
    {items : List Json} {aligned : List (String × Json)}
    (accepted : fields.align items = some aligned)
    (wellFormed : ∀ item ∈ items, item.WellFormed) (first : Bool)
    (earlier : List (String × Json)) (rest : List Char) :
    alignedReader first earlier (fields.toList.map Field.reader)
        (remaining first chars items ++ ']' :: rest) =
      .ok (.object (earlier.reverse ++ aligned), rest) := by
  cases fields with
  | none =>
      cases items with
      | nil =>
          cases accepted
          have nothing : remaining first chars [] = [] := by cases first <;> rfl
          have square : isSpace ']' = false := rfl
          rw [nothing, List.nil_append, Fields.toList, List.map_nil, alignedReader,
            skipSpace_cons square]
          simp
      | cons item items => simp [Fields.align] at accepted
  | field name schema fallback later =>
      obtain ⟨fieldFollows, laterFollows⟩ := List.forall_mem_cons.mp follows
      cases items with
      | nil =>
          rw [Fields.align, bind_member_eq_some_iff] at accepted
          obtain ⟨value, others, rfl, laterAccepted, rfl⟩ := accepted
          have laterRead := alignedReader_append later laterFollows laterAccepted
            wellFormed first ((name, value) :: earlier) rest
          rw [Fields.toList, List.map_cons, alignedReader, nextItem_end]
          simp only [bind, Except.bind, Field.reader, laterRead]
          simp
      | cons item items =>
          rw [Fields.align, bind_member_eq_some_iff] at accepted
          obtain ⟨value, others, valued, laterAccepted, rfl⟩ := accepted
          obtain ⟨itemWellFormed, itemsWellFormed⟩ :=
            List.forall_mem_cons.mp wellFormed
          have itemRead : schema.read
              (chars item ++ (remaining false chars items ++ ']' :: rest)) =
                .ok (value, _) :=
            fieldFollows valued itemWellFormed
              ((ended_square rest).afterOthers chars items)
          have laterRead := alignedReader_append later laterFollows laterAccepted
            itemsWellFormed false ((name, value) :: earlier) rest
          rw [Fields.toList, List.map_cons, alignedReader, nextItem_cons itemWellFormed]
          simp only [bind, Except.bind, Field.reader, itemRead, laterRead]
          simp

theorem nextMember_end (first : Bool) (rest : List Char) :
    nextMember first (remaining first memberChars [] ++ '\x7d' :: rest) =
      .ok (.finished rest) := by
  cases first <;> rfl

theorem memberName_quoted (name : String) (rest : List Char) :
    nextMember.memberName ('"' :: (quotedTail name ++ rest)) =
      .ok (.member name rest) := by
  rw [nextMember.memberName, finishText_quotedTail]
  rfl

theorem nextMember_cons (first : Bool) (member : String × Json)
    (later : List (String × Json)) (rest : List Char) :
    nextMember first (remaining first memberChars (member :: later) ++ rest) =
      .ok (.member member.1 (':' ::
        (chars member.2 ++ (remaining false memberChars later ++ rest)))) := by
  have quote : isSpace '"' = false := rfl
  have comma : isSpace ',' = false := rfl
  have named := memberName_quoted member.1
  cases first with
  | true =>
      rw [remaining_cons, List.append_assoc, memberChars_append, nextMember,
        skipSpace_cons quote]
      exact named _
  | false =>
      have written : remaining false memberChars (member :: later) =
          ',' :: (memberChars member ++ remaining false memberChars later) :=
        afterOthers_cons memberChars member later
      rw [written, List.cons_append, List.append_assoc, memberChars_append,
        nextMember, skipSpace_cons comma]
      dsimp only
      rw [skipSpace_cons quote]
      exact named _

/-- The value of a field once all members are read, of which some are found
already. -/
def Field.settle (field : Field) (found later : List (String × Json)) :
    Option Json :=
  match named field.name later with
  | [] => (found.lookup field.name).or field.fallback
  | value :: _ => field.schema.conform value

/-- A field that is not found twice and has a document of its schema. -/
def Field.Settles (field : Field) (found later : List (String × Json)) : Prop :=
  named field.name later = [] ∨
    ∃ value normal, named field.name later = [value] ∧
      field.schema.conform value = some normal ∧
      found.lookup field.name = none

section

variable {fields : List Field} {found later : List (String × Json)}
  {name : String} {value : Json}

/-- A member that no field asks for settles nothing. -/
theorem settles_of_unknown (unknown : ∀ field ∈ fields, field.name ≠ name)
    (settles : ∀ field ∈ fields, field.Settles found ((name, value) :: later)) :
    ∀ field ∈ fields, field.Settles found later ∧
      field.settle found later = field.settle found ((name, value) :: later) := by
  intro field member
  have same := named_cons_of_ne (unknown field member).symm value later
  have settled := settles field member
  unfold Field.Settles at settled ⊢
  unfold Field.settle
  rw [same] at settled ⊢
  exact ⟨settled, rfl⟩

/-- A member settles the field of its name and no other. -/
theorem settles_of_known {field : Field} {normal : Json}
    (alone : ∀ other ∈ fields, other.name = field.name → other = field)
    (accepted : field.schema.conform value = some normal)
    (last : named field.name later = [])
    (settles : ∀ other ∈ fields,
      other.Settles found ((field.name, value) :: later)) :
    ∀ other ∈ fields,
      other.Settles ((field.name, normal) :: found) later ∧
        other.settle ((field.name, normal) :: found) later =
          other.settle found ((field.name, value) :: later) := by
  intro other member
  by_cases same : other.name = field.name
  · obtain rfl := alone other member same
    refine ⟨.inl last, ?_⟩
    simp [Field.settle, last, named_cons_self, accepted]
  · have kept := named_cons_of_ne (Ne.symm same) value later
    have settled := settles other member
    have looked : ((field.name, normal) :: found).lookup other.name =
        found.lookup other.name := by
      rw [List.lookup_cons, beq_false_of_ne same]
    unfold Field.Settles at settled ⊢
    unfold Field.settle
    rw [kept] at settled ⊢
    rw [looked]
    exact ⟨settled, rfl⟩

end

theorem find?_reader (fields : List Field) (name : String) :
    (fields.map Field.reader).find? (fun reader => reader.name == name) =
      (fields.find? fun field => field.name == name).map Field.reader :=
  List.find?_map

/-- The value of a field is read as what checking it gives. -/
def Field.Reads (field : Field) (value : Json) : Prop :=
  ∀ {normal : Json}, field.schema.conform value = some normal →
    ∀ {rest : List Char}, Ended rest →
      field.schema.read (chars value ++ rest) = .ok (normal, rest)

theorem membersReader_append {fields : List Field}
    (distinct : (fields.map Field.name).Nodup)
    {filled : List (String × Json)} {later : List (String × Json)}
    (wellFormed : ∀ member ∈ later, member.2.WellFormed)
    (reads : ∀ field ∈ fields, ∀ {value}, (field.name, value) ∈ later →
      field.Reads value)
    {found : List (String × Json)}
    (settles : ∀ field ∈ fields, field.Settles found later)
    (settled : Assigns (fun field => field.settle found later) fields filled)
    (first : Bool) {fuel : Nat} (enough : later.length < fuel)
    (rest : List Char) :
    membersReader (fields.map Field.reader) fuel first found
        (remaining first memberChars later ++ '\x7d' :: rest) =
      .ok (.object filled, rest) := by
  induction later generalizing found first fuel with
  | nil =>
      obtain ⟨fuel, rfl⟩ := Nat.exists_eq_succ_of_ne_zero (Nat.ne_zero_of_lt enough)
      rw [membersReader, nextMember_end]
      simp only [bind, Except.bind, completed_eq_some_iff.mpr settled]
      rfl
  | cons member later induction =>
      obtain ⟨name, value⟩ := member
      obtain ⟨fuel, rfl⟩ := Nat.exists_eq_succ_of_ne_zero (Nat.ne_zero_of_lt enough)
      obtain ⟨valueWellFormed, laterWellFormed⟩ := List.forall_mem_cons.mp wellFormed
      have colon : ∀ cs, skipColon (':' :: cs) = .ok cs := fun _ => rfl
      have ended : Ended (remaining false memberChars later ++ '\x7d' :: rest) :=
        (ended_curly rest).afterOthers memberChars later
      have laterReads : ∀ field ∈ fields, ∀ {value}, (field.name, value) ∈ later →
          field.Reads value := by
        intro field member value isLater
        exact reads field member (List.mem_cons_of_mem _ isLater)
      rw [membersReader, nextMember_cons]
      simp only [bind, Except.bind, find?_reader]
      cases asked : fields.find? fun field => field.name == name with
      | none =>
          have unknown : ∀ field ∈ fields, field.name ≠ name := by
            intro field member
            simpa using List.find?_eq_none.mp asked field member
          have goesOn := settles_of_unknown unknown settles
          have laterRead := induction laterWellFormed laterReads
            (fun field member => (goesOn field member).1)
            (settled.imp fun field member _ => (goesOn field member).2.trans)
            false (Nat.lt_of_succ_lt_succ enough)
          simp only [Option.map_none, colon, valueWellFormed.skipValue_append ended]
          exact laterRead
      | some field =>
          obtain rfl : field.name = name := by
            simpa using List.find?_some asked
          have member := List.mem_of_find?_eq_some asked
          have alone : ∀ other ∈ fields, other.name = field.name → other = field :=
            fun other otherMember same =>
              List.inj_on_of_nodup_map distinct otherMember member same
          obtain ⟨normal, accepted, last, fresh⟩ : ∃ normal,
              field.schema.conform value = some normal ∧
                named field.name later = [] ∧ found.lookup field.name = none := by
            have fieldSettles := settles field member
            unfold Field.Settles at fieldSettles
            rw [named_cons_self] at fieldSettles
            rcases fieldSettles with absent | ⟨_, normal, only, accepted, fresh⟩
            · cases absent
            · obtain ⟨rfl, last⟩ := List.cons.inj only
              exact ⟨normal, accepted, last, fresh⟩
          have valueRead : field.schema.read
              (chars value ++ (remaining false memberChars later ++ '\x7d' :: rest)) =
                .ok (normal, _) :=
            reads field member List.mem_cons_self accepted ended
          have goesOn := settles_of_known alone accepted last settles
          have laterRead := induction laterWellFormed laterReads
            (fun field member => (goesOn field member).1)
            (settled.imp fun field member _ => (goesOn field member).2.trans)
            false (Nat.lt_of_succ_lt_succ enough)
          simp only [Option.map_some, colon, fresh, Field.reader, valueRead]
          exact laterRead

theorem recordReader_object {fields : Fields} (distinct : fields.names.Nodup)
    {members filled : List (String × Json)}
    (accepted : fields.fill members = some filled)
    (wellFormed : ∀ member ∈ members, member.2.WellFormed)
    (reads : ∀ field ∈ fields.toList, ∀ {value},
      (field.name, value) ∈ members → field.Reads value) (rest : List Char) :
    recordReader fields.readers (chars (.object members) ++ rest) =
      .ok (.object filled, rest) := by
  have assigned := Fields.fill_eq_some_iff.mp accepted
  have curly : isSpace '\x7b' = false := rfl
  have enough := length_lt_remaining_append memberChars members '\x7d' rest
  rw [fields.readers_eq_map, chars_object, List.cons_append, List.append_assoc,
    List.cons_append, List.nil_append, recordReader, skipSpace_cons curly]
  apply membersReader_append distinct wellFormed reads _ _ true enough
  · intro field member
    obtain ⟨picked, isPicked⟩ := assigned.exists_value field member
    rcases Field.pick_eq_some_iff.mp isPicked with
      ⟨absent, _⟩ | ⟨value, present, accepted⟩
    · exact .inl absent
    · exact .inr ⟨value, picked, present, accepted, rfl⟩
  · apply assigned.imp
    intro field _ picked isPicked
    rcases Field.pick_eq_some_iff.mp isPicked with
      ⟨absent, fallback⟩ | ⟨value, present, accepted⟩
    · simp [Field.settle, absent, fallback]
    · simp [Field.settle, present, accepted]

theorem recordReader_follows {fields : Fields} (distinct : fields.names.Nodup)
    (follows : ∀ field ∈ fields.toList,
      Follows field.schema.read field.schema.conform) :
    Follows (recordReader fields.readers) (Schema.record fields).conform := by
  intro document normal accepted wellFormed rest _
  cases wellFormed with
  | @array items wellFormed =>
      rw [Schema.conform, Option.map_eq_some_iff] at accepted
      obtain ⟨aligned, accepted, rfl⟩ := accepted
      have square : isSpace '[' = false := rfl
      rw [fields.readers_eq_map, chars_array, List.cons_append, List.append_assoc,
        List.cons_append, List.nil_append, recordReader, skipSpace_cons square]
      exact alignedReader_append fields follows accepted wellFormed true [] rest
  | @object members wellFormed =>
      rw [Schema.conform, Option.map_eq_some_iff] at accepted
      obtain ⟨filled, accepted, rfl⟩ := accepted
      apply recordReader_object distinct accepted wellFormed
      intro field member value isMember normal accepted rest
      exact follows field member accepted (wellFormed _ isMember)
  | _ => simp [Schema.conform] at accepted

/-! ## Schemas -/

mutual

/-- Reading a written value comes to the same as checking it. -/
theorem Schema.read_follows (schema : Schema) (regular : schema.Regular) :
    Follows schema.read schema.conform := by
  cases schema with
  | integer low high => exact integerReader_follows regular.1 regular.2
  | boolean => exact booleanReader_follows
  | text => exact textReader_follows
  | word accepts => exact wordReader_follows accepts
  | choice names => exact choiceReader_follows names
  | list item => exact listReader_follows (item.read_follows regular)
  | object => cases regular
  | optional inner => exact optionalReader_follows (inner.read_follows regular)
  | record fields =>
      exact recordReader_follows regular.1 (fields.read_follows regular.2)

theorem Fields.read_follows (fields : Fields) (regular : fields.Regular) :
    ∀ field ∈ fields.toList, Follows field.schema.read field.schema.conform := by
  cases fields with
  | none => exact List.forall_mem_nil _
  | field name schema fallback later =>
      exact List.forall_mem_cons.mpr
        ⟨schema.read_follows regular.2.1, later.read_follows regular.2.2⟩

end

theorem Schema.parse_render_of_read {schema : Schema} {document normal : Json}
    (read : schema.read (chars document ++ []) = .ok (normal, [])) :
    schema.parse document.render = .ok normal := by
  rw [List.append_nil, chars] at read
  rw [Schema.parse, read]
  rfl

/-- The text of a value is read as what checking the value gives. -/
theorem Schema.parse_render (schema : Schema) (regular : schema.Regular)
    {document normal : Json} (accepted : schema.conform document = some normal)
    (wellFormed : document.WellFormed) :
    schema.parse document.render = .ok normal := by
  have ended : Ended [] := by
    rintro c ⟨⟩
  exact parse_render_of_read (schema.read_follows regular accepted wellFormed ended)

end AccessControl.Json
