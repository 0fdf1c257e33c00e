import AccessControl.Proofs.Decision.Log

/-!
# Decisions without a warning

A decision warns of names without a meaning and of questions without an answer.
A caller whose privileges have none but known names is decided upon without a
warning, if the lookup answers every question.
-/

namespace AccessControl

/-- The catalog knows the recorded authorization. -/
def Entitlement.Known (entitlement : Entitlement) : Prop :=
  ∃ authorization, Authorization.ofId entitlement.id = .ok authorization

/-- The catalog knows the type of the resource and every recorded
authorization. -/
structure Privilege.Known (privilege : Privilege) : Prop where
  type : ∃ type, privilege.resource.type = .ok type
  entitlements : ∀ entitlement ∈ privilege.permission.entitlements,
    entitlement.Known

/-- Every question is answered, and nothing is logged on the way. -/
structure PrivilegeLookup.Answers (lookup : PrivilegeLookup) : Prop where
  owner : ∀ id, ∃ binding, lookup.owningCluster id = pure (.ok binding)
  recorded : ∀ id, ∃ privileges,
    lookup.recordedPrivileges id = pure (.ok privileges)

section

variable {privileges : List Privilege} {verdict : Bool}
  {explanation : List LogLine}

theorem Entitlement.flatMap_warnings {entitlements : List Entitlement}
    (known : ∀ entitlement ∈ entitlements, entitlement.Known) :
    entitlements.flatMap Entitlement.warnings = [] := by
  apply List.flatMap_eq_nil_iff.mpr
  intro entitlement member
  obtain ⟨authorization, named⟩ := known entitlement member
  simp only [warnings, named]

namespace Privilege

theorem Known.typeWarnings {privilege : Privilege} (known : privilege.Known) :
    privilege.typeWarnings = [] := by
  obtain ⟨type, typed⟩ := known.type
  exact typeWarnings_of_ok typed

theorem flatMap_typeWarnings
    (known : ∀ privilege ∈ privileges, privilege.Known) :
    privileges.flatMap typeWarnings = [] :=
  List.flatMap_eq_nil_iff.mpr fun privilege member =>
    (known privilege member).typeWarnings

theorem flatMap_warnings
    (known : ∀ privilege ∈ privileges, privilege.Known) (query : Query) :
    privileges.flatMap query.warnings = [] := by
  apply List.flatMap_eq_nil_iff.mpr
  intro privilege member
  have here := known privilege member
  unfold Query.warnings
  rw [here.typeWarnings, Entitlement.flatMap_warnings here.entitlements]
  split <;> rfl

end Privilege

theorem EntitlementLog.level_eq_debug {required : AuthorizationSet}
    {privilege : Int64} {entitlements : List Entitlement}
    (log : EntitlementLog required privilege entitlements verdict explanation)
    (known : ∀ entitlement ∈ entitlements, entitlement.Known) :
    ∀ line ∈ explanation, line.level = .debug := by
  cases log with
  | provided listed =>
      rw [listed] at known
      have passed := Entitlement.flatMap_warnings
        (List.forall_mem_append.mp known).1
      simp [passed]
  | exhausted => simp [Entitlement.flatMap_warnings known]

theorem Query.DirectLog.level_eq_debug {query : Query}
    (log : query.DirectLog privileges verdict explanation)
    (known : ∀ privilege ∈ privileges, privilege.Known) :
    ∀ line ∈ explanation, line.level = .debug := by
  cases log with
  | settled split _ _ log =>
      rw [split] at known
      obtain ⟨earlier, rest⟩ := List.forall_mem_append.mp known
      obtain ⟨here, _⟩ := List.forall_mem_cons.mp rest
      rw [Privilege.flatMap_warnings earlier, here.typeWarnings]
      exact log.level_eq_debug here.entitlements
  | unsettled => simp [Privilege.flatMap_warnings known]

theorem InheritedLog.level_eq_debug {resource cluster : Int64}
    {inherits : String → Prop}
    (log : InheritedLog resource cluster inherits privileges verdict
      explanation)
    (known : ∀ privilege ∈ privileges, privilege.Known) :
    ∀ line ∈ explanation, line.level = .debug := by
  cases log with
  | held split =>
      rw [split] at known
      have earlier := Privilege.flatMap_typeWarnings
        (List.forall_mem_append.mp known).1
      simp [earlier]
  | unheld => simp [Privilege.flatMap_typeWarnings known]

end

namespace PrivilegeLookup

variable {lookup : PrivilegeLookup} {calls : List LookupCall} {verdict : Bool}
  {before after : List LogLine}

theorem Answers.answerEvents (answers : lookup.Answers) (call : LookupCall) :
    lookup.answerEvents call = [] := by
  cases call with
  | owningCluster id =>
      obtain ⟨binding, found⟩ := answers.owner id
      rw [PrivilegeLookup.answerEvents, found]
      rfl
  | recordedPrivileges id =>
      obtain ⟨privileges, found⟩ := answers.recorded id
      rw [PrivilegeLookup.answerEvents, found]
      rfl

theorem SecondLog.level_eq_debug {held : List Privilege} {id : Int64}
    (log : lookup.SecondLog held id calls verdict after)
    (answers : lookup.Answers)
    (known : ∀ privilege ∈ held, privilege.Known) :
    ∀ line ∈ after, line.level = .debug := by
  obtain ⟨binding, owner⟩ := answers.owner id
  obtain ⟨privileges, recorded⟩ := answers.recorded id
  cases log with
  | bindingFailed failed =>
      rw [owner] at failed
      cases failed
  | recordsFailed _ failed =>
      rw [recorded] at failed
      cases failed
  | unowned => exact List.forall_mem_nil _
  | nothingInherited => exact List.forall_mem_nil _
  | searched _ _ _ _ log => exact log.level_eq_debug known

theorem DecisionLog.level_eq_debug {caller : Option Caller} {query : Query}
    (log : lookup.DecisionLog caller query calls verdict before after)
    (answers : lookup.Answers)
    (known : ∀ actor ∈ caller, ∀ privilege ∈ actor.privileges,
      privilege.Known) :
    ∀ line ∈ before ++ after, line.level = .debug := by
  refine List.forall_mem_append.mpr ?_
  cases log with
  | nobody => exact ⟨List.forall_mem_nil _, List.forall_mem_nil _⟩
  | direct present log =>
      exact ⟨log.level_eq_debug (known _ present), List.forall_mem_nil _⟩
  | unscoped present log =>
      exact ⟨log.level_eq_debug (known _ present), List.forall_mem_nil _⟩
  | second present _ log _ second =>
      exact ⟨log.level_eq_debug (known _ present),
        second.level_eq_debug answers (known _ present)⟩

/-- A decision without unknown names and unanswered questions tells of nothing
but a grant. -/
theorem Answers.level_decide (answers : lookup.Answers)
    {caller : Option Caller}
    (known : ∀ actor ∈ caller, ∀ privilege ∈ actor.privileges,
      privilege.Known) (query : Query) :
    ∀ event ∈ (lookup.decide caller query).events, event.level = .debug := by
  intro event member
  cases required : query.required.isEmpty with
  | true => simp [decide, required] at member
  | false =>
      obtain ⟨before, after, log, complete⟩ :=
        lookup.lines_decide caller query required
      have silent : (lookup.decide caller query).calls.flatMap
          lookup.answerEvents = [] :=
        List.flatMap_eq_nil_iff.mpr fun call _ => answers.answerEvents call
      have line : LogLine.ofEvent event ∈
          lines (lookup.decide caller query).events :=
        List.mem_map_of_mem member
      rw [complete, silent, lines_nil, List.append_nil] at line
      exact log.level_eq_debug answers known _ line

end PrivilegeLookup

end AccessControl
