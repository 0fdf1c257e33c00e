import AccessControl.Service.Login
import AccessControl.Settings
import AccessControl.Proofs.Decision.Log
import AccessControl.Proofs.Login.AliasEntries
import AccessControl.Proofs.Text.Bytes

/-!
# Aliases over a session

A session starts with the configured aliases.  From then on logins are resolved
and more aliases are added, in any order.  What a login stands for depends on
the additions so far alone: it is the user of the last one for that name, which
is not resolved again.
-/

namespace AccessControl

namespace LoginAliases

/-! ## What a login stands for -/

/-- Additions are listed from the first to the last.  Names are compared byte
by byte. -/
inductive StandsFor : List LoginAlias → String → String → Prop where
  | last {earlier later : List LoginAlias} {addition : LoginAlias}
      {login : String} :
      Text.bytes addition.name = Text.bytes login →
      (∀ other ∈ later, Text.bytes other.name ≠ Text.bytes login) →
      StandsFor (earlier ++ addition :: later) login addition.user
  | itself {additions : List LoginAlias} {login : String} :
      (∀ other ∈ additions, Text.bytes other.name ≠ Text.bytes login) →
      StandsFor additions login login

/-- The aliases after some additions, the last of which counts first. -/
def afterAdditions (additions : List LoginAlias) : LoginAliases where
  added := additions.reverse

theorem resolve_afterAdditions_iff {additions : List LoginAlias}
    {login user : String} :
    (afterAdditions additions).resolve login = user ↔
      StandsFor additions login user := by
  constructor
  · intro resolved
    unfold resolve afterAdditions at resolved
    split at resolved
    next addition found =>
        obtain ⟨named, later, earlier, parts, others⟩ :=
          List.find?_eq_some_iff_append.mp found
        have ordered : additions =
            earlier.reverse ++ addition :: later.reverse := by
          rw [List.reverse_eq_iff.mp parts]
          simp
        subst resolved
        rw [ordered]
        apply StandsFor.last
        · exact Text.bytes_inj.mpr (beq_iff_eq.mp named)
        · intro other member same
          have apart := others other (List.mem_reverse.mp member)
          simp [Text.bytes_inj.mp same] at apart
    next unnamed =>
        subst resolved
        apply StandsFor.itself
        intro other member same
        have apart := List.find?_eq_none.mp unnamed other
          (List.mem_reverse.mpr member)
        exact apart (beq_iff_eq.mpr (Text.bytes_inj.mp same))
  · intro standsFor
    unfold resolve afterAdditions
    cases standsFor with
    | @last earlier later addition _ named others =>
        have found : (earlier ++ addition :: later).reverse.find?
            (fun known => known.name == login) = some addition := by
          apply List.find?_eq_some_iff_append.mpr
          refine ⟨beq_iff_eq.mpr (Text.bytes_inj.mp named), later.reverse,
            earlier.reverse, by simp, ?_⟩
          intro other member
          have apart := others other (List.mem_reverse.mp member)
          simpa [Text.bytes_inj] using apart
        rw [found]
    | itself others =>
        have unnamed : additions.reverse.find?
            (fun known => known.name == login) = none := by
          apply List.find?_eq_none.mpr
          intro other member same
          apply others other (List.mem_reverse.mp member)
          exact Text.bytes_inj.mpr (beq_iff_eq.mp same)
        rw [unnamed]

theorem add_afterAdditions (made : List LoginAlias) (addition : LoginAlias) :
    (afterAdditions made).add addition =
      ⟨afterAdditions (made ++ [addition]),
        [.aliasAdded addition.name addition.user]⟩ := by
  unfold afterAdditions
  rw [List.reverse_append]
  rfl

theorem addAll_afterAdditions (made additions : List LoginAlias) :
    (afterAdditions made).addAll additions =
      ⟨afterAdditions (made ++ additions),
        additions.map fun addition =>
          .aliasAdded addition.name addition.user⟩ := by
  induction additions generalizing made with
  | nil =>
      rw [List.append_nil]
      rfl
  | cons addition later induction =>
      have rest := induction (made ++ [addition])
      rw [List.append_assoc, List.singleton_append] at rest
      rw [addAll, add_afterAdditions]
      change Logged.andThen _ _ = _
      rw [Logged.andThen, rest]
      rfl

/-! ## Calls in any order -/

/-- What the aliases are asked for during a session. -/
inductive Call where
  | add (addition : LoginAlias)
  | resolve (login : String)

def Call.addition? : Call → Option LoginAlias
  | .add addition => some addition
  | .resolve _ => none

/-- The additions among some calls. -/
def additions (calls : List Call) : List LoginAlias :=
  calls.filterMap Call.addition?

/-- The aliases after a call, with its answer if it has one. -/
def call (aliases : LoginAliases) :
    Call → Logged (LoginAliases × Option String)
  | .add addition => do
      let extended ← aliases.add addition
      pure (extended, none)
  | .resolve login => pure (aliases, some (aliases.resolve login))

/-- The aliases after several calls, with all answers. -/
def callAll (aliases : LoginAliases) :
    List Call → Logged (LoginAliases × List String)
  | [] => pure (aliases, [])
  | first :: later => do
      let (next, answer) ← aliases.call first
      let (last, answers) ← next.callAll later
      pure (last, answer.toList ++ answers)

/-- The answers to calls, each of them by the additions before it. -/
inductive Answered : List LoginAlias → List Call → List String → Prop where
  | nil {made : List LoginAlias} : Answered made [] []
  | add {made : List LoginAlias} {addition : LoginAlias} {later : List Call}
      {answers : List String} :
      Answered (made ++ [addition]) later answers →
      Answered made (.add addition :: later) answers
  | resolve {made : List LoginAlias} {login user : String} {later : List Call}
      {answers : List String} :
      StandsFor made login user → Answered made later answers →
      Answered made (.resolve login :: later) (user :: answers)

section

variable (made : List LoginAlias) (later : List Call)

theorem callAll_add (addition : LoginAlias) :
    (afterAdditions made).callAll (.add addition :: later) =
      ⟨((afterAdditions (made ++ [addition])).callAll later).value,
        .aliasAdded addition.name addition.user ::
          ((afterAdditions (made ++ [addition])).callAll later).events⟩ := by
  rw [callAll, call, add_afterAdditions]
  change Logged.mk _ _ = _
  simp

theorem callAll_resolve (login : String) :
    (afterAdditions made).callAll (.resolve login :: later) =
      ⟨(((afterAdditions made).callAll later).value.1,
          (afterAdditions made).resolve login ::
            ((afterAdditions made).callAll later).value.2),
        ((afterAdditions made).callAll later).events⟩ := by
  rw [callAll, call]
  change Logged.mk _ _ = _
  simp

end

theorem aliases_callAll (made : List LoginAlias) (calls : List Call) :
    ((afterAdditions made).callAll calls).value.1 =
      afterAdditions (made ++ additions calls) := by
  induction calls generalizing made with
  | nil =>
      rw [additions, List.filterMap_nil, List.append_nil]
      rfl
  | cons first later induction =>
      cases first with
      | add addition =>
          rw [callAll_add, induction, List.append_assoc]
          rfl
      | resolve login =>
          rw [callAll_resolve, induction]
          rfl

theorem events_callAll (made : List LoginAlias) (calls : List Call) :
    ((afterAdditions made).callAll calls).events =
      (additions calls).map fun addition =>
        .aliasAdded addition.name addition.user := by
  induction calls generalizing made with
  | nil => rfl
  | cons first later induction =>
      cases first with
      | add addition =>
          rw [callAll_add, induction]
          rfl
      | resolve login =>
          rw [callAll_resolve, induction]
          rfl

theorem answers_callAll_iff {made : List LoginAlias} {calls : List Call}
    {answers : List String} :
    ((afterAdditions made).callAll calls).value.2 = answers ↔
      Answered made calls answers := by
  induction calls generalizing made answers with
  | nil =>
      constructor
      · intro none
        subst none
        exact .nil
      · intro answered
        cases answered
        rfl
  | cons first later induction =>
      cases first with
      | add addition =>
          rw [callAll_add, induction]
          constructor
          · exact .add
          · intro answered
            cases answered with
            | add rest => exact rest
      | resolve login =>
          rw [callAll_resolve]
          constructor
          · intro given
            subst given
            apply Answered.resolve
            · exact resolve_afterAdditions_iff.mp rfl
            · exact induction.mp rfl
          · intro answered
            cases answered with
            | resolve standsFor rest =>
                rw [resolve_afterAdditions_iff.mpr standsFor,
                  induction.mpr rest]

end LoginAliases

/-! ## A configured session -/

open LoginAliases

theorem Service.value_resolve (service : Service) (login : String) :
    (service.resolve (some login)).value =
      (service.store.caller? (service.aliases.resolve login)).value.mapError
        fun fault => ⟨service.aliases.resolve login, fault⟩ := by
  unfold Service.resolve
  simp only [Logged.value_bind]
  cases (service.store.caller? (service.aliases.resolve login)).value with
  | error fault => rfl
  | ok caller => cases caller <;> rfl

namespace Configuration

/-- The calls of a session that starts with the configured aliases. -/
def session (configuration : Configuration) (calls : List Call) :
    Logged (LoginAliases × List String) := do
  let aliases ← configuration.aliases
  aliases.callAll calls

theorem session_eq (configuration : Configuration) (calls : List Call) :
    configuration.session calls =
      ⟨((afterAdditions configuration.loginAliases).callAll calls).value,
        (configuration.loginAliases ++ additions calls).map fun addition =>
          .aliasAdded addition.name addition.user⟩ := by
  have configured : configuration.aliases =
      ⟨afterAdditions configuration.loginAliases,
        configuration.loginAliases.map fun addition =>
          .aliasAdded addition.name addition.user⟩ :=
    addAll_afterAdditions [] configuration.loginAliases
  unfold session
  rw [configured, List.map_append, ← events_callAll]
  rfl

theorem aliases_session (configuration : Configuration) (calls : List Call) :
    (configuration.session calls).value.1 =
      afterAdditions (configuration.loginAliases ++ additions calls) := by
  rw [session_eq, aliases_callAll]

/-- A session under a configuration goes by its additions, the configured ones
first. -/
structure GoesByAdditions (configuration : Configuration) (calls : List Call) :
    Prop where
  answers : ∀ answers, (configuration.session calls).value.2 = answers ↔
    Answered configuration.loginAliases calls answers
  resolves : ∀ login user,
    (configuration.session calls).value.1.resolve login = user ↔
      StandsFor (configuration.loginAliases ++ additions calls) login user
  /-- The user is the one that is loaded, whatever it may be an alias of. -/
  loads : ∀ store login user,
    StandsFor (configuration.loginAliases ++ additions calls) login user →
      (Service.resolve ⟨store, (configuration.session calls).value.1⟩
          (some login)).value =
        (store.caller? user).value.mapError fun fault => ⟨user, fault⟩
  /-- Resolving logins leaves no trace. -/
  unchanged : ∀ fewer, additions fewer = additions calls →
    (configuration.session fewer).value.1 =
        (configuration.session calls).value.1 ∧
      (configuration.session fewer).events =
        (configuration.session calls).events
  others : ∀ addition login, addition.name ≠ login →
    ((configuration.session calls).value.1.add addition).value.resolve login =
      (configuration.session calls).value.1.resolve login
  logged : lines (configuration.session calls).events =
    (configuration.loginAliases ++ additions calls).map fun addition =>
      ⟨.info, "adding login alias",
        [("alias", .text addition.name), ("user_name", .text addition.user)]⟩

theorem goesByAdditions (configuration : Configuration) (calls : List Call) :
    configuration.GoesByAdditions calls := by
  constructor
  case answers =>
    intro answers
    rw [session_eq]
    exact answers_callAll_iff
  case resolves =>
    intro login user
    rw [aliases_session]
    exact resolve_afterAdditions_iff
  case loads =>
    intro store login user standsFor
    have resolved := resolve_afterAdditions_iff.mpr standsFor
    rw [aliases_session, Service.value_resolve, resolved]
  case unchanged =>
    intro fewer same
    constructor
    · rw [aliases_session, aliases_session, same]
    · rw [session_eq, session_eq, same]
  case others =>
    intro addition login different
    rw [resolve_add, if_neg different]
  case logged =>
    rw [session_eq]
    unfold lines
    rw [List.map_map]
    rfl

/-- A session under a configuration text that can be read starts with the
aliases that the entries of the text define, and goes by its additions from
there on. -/
theorem session_of_entries {environment : Environment}
    {configuration : Configuration}
    (loaded : load environment = .ok configuration) (calls : List Call) :
    (∃ entries,
      LoginAlias.Contains (environment.loginAliases.getD "").toList entries ∧
        List.Forall₂ LoginAlias.Defines entries configuration.loginAliases) ∧
      configuration.GoesByAdditions calls := by
  constructor
  · exact LoginAlias.parse_eq_ok_iff.mp (load_eq_ok_iff.mp loaded).1
  · exact configuration.goesByAdditions calls

end Configuration

namespace Chained

/-- The second entry for `al` replaces the first one, and `bob` is the user of
one alias and the name of another. -/
def environment : Environment where
  loginAliases := some " al = bob ,bob=carol, al=alice"

def configuration : Configuration where
  database := {}
  loginAliases := [⟨"al", "bob"⟩, ⟨"bob", "carol"⟩, ⟨"al", "alice"⟩]

def calls : List Call :=
  [.resolve "al", .resolve "bob", .add ⟨"carol", "dave"⟩, .resolve "bob",
    .add ⟨"al", "bob"⟩, .resolve "al", .resolve "AL"]

theorem load_environment :
    Configuration.load environment = .ok configuration :=
  Configuration.load_eq_ok_iff.mpr ⟨by decide +kernel, rfl⟩

/-- Neither `bob` nor `al` is followed to the end of its chain. -/
theorem al_stands_for_bob_at_last :
    Configuration.load environment = .ok configuration ∧
      (configuration.session calls).value.2 =
        ["alice", "carol", "carol", "bob", "AL"] ∧
      (configuration.session calls).events.length = 5 ∧
      (∃ entries,
        LoginAlias.Contains (environment.loginAliases.getD "").toList entries ∧
          List.Forall₂ LoginAlias.Defines entries configuration.loginAliases) ∧
        configuration.GoesByAdditions calls := by
  have answers : (configuration.session calls).value.2 =
      ["alice", "carol", "carol", "bob", "AL"] := by
    decide
  exact ⟨load_environment, answers, rfl,
    configuration.session_of_entries load_environment calls⟩

end Chained

end AccessControl
