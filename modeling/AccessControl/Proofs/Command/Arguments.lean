import AccessControl.Command.Arguments
import AccessControl.Proofs.Text.Digits
import AccessControl.Proofs.Text.Splitting

/-!
# Asking on the command line

Every question can be asked on the command line for every login.  The values
are attached to their options, so that a value is read as it is even where it
looks like an option itself.
-/

namespace AccessControl.Command

theorem resourceId?_repr (id : Int64) :
    resourceId? id.toInt.repr = some id := by
  have within : (decide (Int64.minValue.toInt ≤ id.toInt) &&
      decide (id.toInt ≤ Int64.maxValue.toInt)) = true := by
    rw [decide_eq_true id.minValue_le_toInt, decide_eq_true id.toInt_le]
    rfl
  unfold resourceId? Text.integerWithin?
  rw [Text.integer?_repr, Option.filter_some, if_pos within,
    Option.map_some, Int64.ofInt_toInt]

/-! ## Options with attached values -/

/-- An option with its value attached. -/
def attached (name value : String) : String :=
  "--" ++ name ++ "=" ++ value

theorem toList_attached (name value : String) :
    (attached name value).toList =
      '-' :: '-' :: (name.toList ++ '=' :: value.toList) := by
  simp [attached]

theorem attached_ne {name value other : String} (free : '=' ∉ other.toList) :
    attached name value ≠ other := by
  rintro rfl
  simp [toList_attached] at free

theorem asksHelp_attached (name value : String) :
    asksHelp (attached name value) = false := by
  have different : attached name value ≠ "--help" := attached_ne (by decide)
  simp [asksHelp, isShort, toList_attached, different]

theorem longOption?_attached {name : String} (free : '=' ∉ name.toList)
    (value : String) :
    longOption? (attached name value) = some (name, some value) := by
  unfold longOption?
  rw [toList_attached]
  simp [Text.cutAt?_append free]

/-- Reading one option with its value attached. -/
theorem readOptions_attached {specs : List OptionSpec} {spec : OptionSpec}
    {accepts : String → Bool} {found : List Given} {name value : String}
    (known : specs.find? (fun spec => spec.name == name) = some spec)
    (free : '=' ∉ name.toList) (valued : spec.accepts = some accepts)
    (accepted : accepts value = true)
    (fresh : spec.repeatable = true ∨
      found.any (fun given => given.name == name) = false)
    (later : List String) :
    readOptions specs found (attached name value :: later) =
      readOptions specs (found ++ [⟨name, value⟩]) later := by
  have single : attached name value ≠ "--" := attached_ne (by decide)
  have once : (!spec.repeatable &&
      found.any fun given => given.name == name) = false := by
    rcases fresh with repeatable | absent
    · simp [repeatable]
    · simp [absent]
  rw [readOptions]
  · simp [asksHelp_attached, longOption?_attached free, known, once, valued,
      accepted]
  · intro equal
    exact absurd equal single

theorem readOptions_toList {specs : List OptionSpec} {spec : OptionSpec}
    {accepts : String → Bool} {found : List Given} {name : String}
    {value : Option String}
    (known : specs.find? (fun spec => spec.name == name) = some spec)
    (free : '=' ∉ name.toList) (valued : spec.accepts = some accepts)
    (accepted : ∀ content ∈ value, accepts content = true)
    (fresh : found.any (fun given => given.name == name) = false)
    (later : List String) :
    readOptions specs found (value.toList.map (attached name) ++ later) =
      readOptions specs (found ++ value.toList.map (Given.mk name)) later := by
  cases value with
  | none => simp
  | some content =>
      exact readOptions_attached known free valued (accepted content rfl)
        (.inr fresh) later

/-! ## Values of options -/

theorem valueOf?_eq_head? (found : List Given) (name : String) :
    valueOf? found name = (valuesOf found name).head? := by
  unfold valueOf? valuesOf
  rw [List.head?_map, List.head?_filter]

@[simp]
theorem valuesOf_cons (given : Given) (later : List Given) (name : String) :
    valuesOf (given :: later) name =
      if given.name = name then given.value :: valuesOf later name
      else valuesOf later name := by
  by_cases same : given.name = name <;> simp [valuesOf, same]

@[simp]
theorem valuesOf_append (found later : List Given) (name : String) :
    valuesOf (found ++ later) name =
      valuesOf found name ++ valuesOf later name := by
  simp [valuesOf]

@[simp]
theorem valuesOf_map_mk (values : List String) (given name : String) :
    valuesOf (values.map (Given.mk given)) name =
      if given = name then values else [] := by
  induction values with
  | nil => simp [valuesOf]
  | cons value later induction =>
      rw [List.map_cons, valuesOf_cons, induction]
      split <;> rfl

/-! ## Questions -/

/-- The options that ask a question for the user of a login. -/
def checkGiven (login : String) (question : Question) : List Given :=
  [login].map (Given.mk "user") ++
    question.resourceType.toList.map (Given.mk "resource-type") ++
    (question.resourceId.map fun id => id.toInt.repr).toList.map
      (Given.mk "resource-id") ++
    question.authorizations.map (Given.mk "authorization")

/-- The arguments that ask a question for the user of a login. -/
def checkArguments (login : String) (question : Question) : List String :=
  "check" :: (checkGiven login question).map fun given =>
    attached given.name given.value

theorem readOptions_authorizations (found : List Given) (ids : List String) :
    readOptions checkOptions found (ids.map (attached "authorization")) =
      .ok (found ++ ids.map (Given.mk "authorization")) := by
  induction ids generalizing found with
  | nil => simp [readOptions]
  | cons id later induction =>
      rw [List.map_cons,
        readOptions_attached rfl (by decide) rfl rfl (.inl rfl), induction]
      simp

theorem readOptions_checkGiven (login : String) (question : Question) :
    readOptions checkOptions []
        ((checkGiven login question).map fun given =>
          attached given.name given.value) =
      .ok (checkGiven login question) := by
  have idAccepted : ∀ shown ∈ question.resourceId.map fun id => id.toInt.repr,
      (resourceId? shown).isSome = true := by
    intro shown member
    obtain ⟨id, _, rfl⟩ := Option.map_eq_some_iff.mp member
    rw [resourceId?_repr]
    rfl
  unfold checkGiven
  simp only [List.map_append, List.map_map, Function.comp_def,
    List.append_assoc, List.map_cons, List.map_nil, List.cons_append,
    List.nil_append]
  rw [readOptions_attached rfl (by decide) rfl rfl (.inr rfl),
    readOptions_toList rfl (by decide) rfl (fun _ _ => rfl) rfl,
    readOptions_toList rfl (by decide) rfl idAccepted (by simp),
    readOptions_authorizations]
  simp only [List.append_assoc, List.cons_append, List.nil_append]

/-- Every question can be asked on the command line for every login. -/
theorem read_checkArguments (login : String) (question : Question) :
    read (checkArguments login question) = .ok (.check login question) := by
  have user : valueOf? (checkGiven login question) "user" = some login := by
    simp [valueOf?_eq_head?, checkGiven]
  have type : valueOf? (checkGiven login question) "resource-type" =
      question.resourceType := by
    simp [valueOf?_eq_head?, checkGiven]
  have id : (valueOf? (checkGiven login question) "resource-id").bind
      resourceId? = question.resourceId := by
    cases named : question.resourceId with
    | none => simp [valueOf?_eq_head?, checkGiven, named]
    | some id =>
        simp [valueOf?_eq_head?, checkGiven, named, resourceId?_repr]
  have authorizations : valuesOf (checkGiven login question) "authorization" =
      question.authorizations := by
    simp [checkGiven]
  change readCheck ((checkGiven login question).map fun given =>
    attached given.name given.value) = _
  unfold readCheck
  rw [readOptions_checkGiven]
  simp only [bind, Except.bind, user, type, id, authorizations]
  rfl

end AccessControl.Command
