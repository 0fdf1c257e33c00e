import AccessControl.Proofs.Decision.Inheritance

/-!
# What a decision logs

A decision explains itself in the log.  This file describes its lines without
any scan.  A grant is told by one line at debug level, which is the last, and
which names the first privilege that settles the query or the first one that is
inherited.  All lines before it are warnings, one for each name without a
meaning that was looked at on the way, in the order in which the privileges are
listed.  A denial leaves nothing but warnings.
-/

namespace AccessControl

/-- How an event appears in the log. -/
structure LogLine where
  level : Level
  sentence : String
  details : List (String × Detail)
deriving DecidableEq, Repr

/-- The line of an event. -/
def LogLine.ofEvent (event : Event) : LogLine :=
  ⟨event.level, event.message, event.details⟩

/-- The lines of events, in order. -/
def lines (events : List Event) : List LogLine :=
  events.map LogLine.ofEvent

@[simp]
theorem lines_nil : lines [] = [] :=
  rfl

@[simp]
theorem lines_cons (event : Event) (later : List Event) :
    lines (event :: later) = LogLine.ofEvent event :: lines later :=
  rfl

@[simp]
theorem lines_append (first second : List Event) :
    lines (first ++ second) = lines first ++ lines second :=
  List.map_append

/-! ## Grants after warnings -/

/-- The lines explain a verdict: a grant is the last of them, at debug level,
and everything else is a warning. -/
inductive Explains : Bool → List LogLine → Prop where
  | granted {warnings : List LogLine} {grant : LogLine} :
      (∀ line ∈ warnings, line.level = .warn) → grant.level = .debug →
      Explains true (warnings ++ [grant])
  | denied {warnings : List LogLine} :
      (∀ line ∈ warnings, line.level = .warn) → Explains false warnings

namespace Explains

variable {verdict : Bool} {explanation : List LogLine}

theorem prepend {warnings : List LogLine}
    (warned : ∀ line ∈ warnings, line.level = .warn)
    (explains : Explains verdict explanation) :
    Explains verdict (warnings ++ explanation) := by
  cases explains with
  | granted later grant =>
      rw [← List.append_assoc]
      apply Explains.granted _ grant
      intro line member
      exact (List.mem_append.mp member).elim (warned line) (later line)
  | denied later =>
      apply Explains.denied
      intro line member
      exact (List.mem_append.mp member).elim (warned line) (later line)

/-- There is a line at debug level exactly when the verdict is a grant. -/
theorem exists_debug_iff (explains : Explains verdict explanation) :
    (∃ line ∈ explanation, line.level = .debug) ↔ verdict = true := by
  cases explains with
  | @granted warnings grant _ debug =>
      refine iff_of_true ⟨grant, ?_, debug⟩ rfl
      exact List.mem_append_right warnings List.mem_cons_self
  | denied warned =>
      refine iff_of_false ?_ Bool.false_ne_true
      rintro ⟨line, member, debug⟩
      rw [warned line member] at debug
      cases debug

end Explains

/-! ## Names without a meaning -/

/-- The warning about the type name of a resource. -/
def Privilege.typeWarnings (privilege : Privilege) : List LogLine :=
  match privilege.resource.type with
  | .ok _ => []
  | .error unknown =>
      [⟨.warn, "ignoring resource type",
        [("privilege_id", .number privilege.id.toInt),
          ("error", .text unknown.message)]⟩]

/-- The warning about the id of a recorded authorization. -/
def Entitlement.warnings (entitlement : Entitlement) : List LogLine :=
  match Authorization.ofId entitlement.id with
  | .ok _ => []
  | .error _ =>
      [⟨.warn, "ignoring unknown authorization id",
        [("authorization", .text entitlement.id)]⟩]

/-- A recorded id stands for a required authorization. -/
def Entitlement.Provides (entitlement : Entitlement)
    (required : AuthorizationSet) : Prop :=
  ∃ authorization, Authorization.ofId entitlement.id = .ok authorization ∧
    required.contains authorization = true

instance (privilege : Privilege) (query : Query) :
    Decidable (privilege.Covers query) :=
  decidable_of_iff _ (query.covers_iff privilege)

/-- The warnings about a privilege that does not settle a query.  The recorded
authorizations are looked at only if the privilege covers the query. -/
def Query.warnings (query : Query) (privilege : Privilege) : List LogLine :=
  privilege.typeWarnings ++
    if privilege.Covers query then
      privilege.permission.entitlements.flatMap Entitlement.warnings
    else
      []

theorem Privilege.lines_knownType (privilege : Privilege) :
    lines privilege.knownType.events = privilege.typeWarnings := by
  unfold Privilege.knownType typeWarnings
  cases privilege.resource.type with
  | ok type => rfl
  | error unknown => rfl

theorem Privilege.typeWarnings_of_ok {privilege : Privilege}
    {type : ResourceType} (typed : privilege.resource.type = .ok type) :
    privilege.typeWarnings = [] := by
  simp [typeWarnings, typed]

theorem Privilege.level_typeWarnings (privilege : Privilege) :
    ∀ line ∈ privilege.typeWarnings, line.level = .warn := by
  unfold typeWarnings
  cases privilege.resource.type <;> simp

theorem Entitlement.level_warnings (entitlement : Entitlement) :
    ∀ line ∈ entitlement.warnings, line.level = .warn := by
  unfold warnings
  cases Authorization.ofId entitlement.id <;> simp

theorem level_flatMap {α : Type} {items : List α}
    {warnings : α → List LogLine}
    (warned : ∀ item, ∀ line ∈ warnings item, line.level = .warn) :
    ∀ line ∈ items.flatMap warnings, line.level = .warn := by
  intro line member
  obtain ⟨item, _, here⟩ := List.mem_flatMap.mp member
  exact warned item line here

theorem Query.level_warnings (query : Query) (privilege : Privilege) :
    ∀ line ∈ query.warnings privilege, line.level = .warn := by
  intro line member
  rcases List.mem_append.mp member with typed | listed
  · exact privilege.level_typeWarnings line typed
  · split at listed
    · exact level_flatMap Entitlement.level_warnings line listed
    · cases listed

/-! ## The direct pass -/

/-- What looking through the entitlements of one privilege logs.  The line of
a grant names the first required authorization. -/
inductive EntitlementLog (required : AuthorizationSet) (privilege : Int64)
    (entitlements : List Entitlement) : Bool → List LogLine → Prop where
  | provided {passed rest : List Entitlement} {entitlement : Entitlement}
      {authorization : Authorization} :
      entitlements = passed ++ entitlement :: rest →
      (∀ other ∈ passed, ¬ other.Provides required) →
      Authorization.ofId entitlement.id = .ok authorization →
      required.contains authorization = true →
      EntitlementLog required privilege entitlements true
        (passed.flatMap Entitlement.warnings ++
          [⟨.debug, "authorized by direct privilege",
            [("privilege_id", .number privilege.toInt),
              ("authorization", .text authorization.id)]⟩])
  | exhausted :
      (∀ other ∈ entitlements, ¬ other.Provides required) →
      EntitlementLog required privilege entitlements false
        (entitlements.flatMap Entitlement.warnings)

/-- What the direct pass logs: all warnings about the privileges before the
first one that settles the query, and then the log of that one. -/
inductive Query.DirectLog (query : Query) (privileges : List Privilege) :
    Bool → List LogLine → Prop where
  | settled {earlier later : List Privilege} {privilege : Privilege}
      {explanation : List LogLine} :
      privileges = earlier ++ privilege :: later →
      ¬ query.SettledBy earlier → privilege.Covers query →
      EntitlementLog query.required privilege.id
        privilege.permission.entitlements true explanation →
      DirectLog query privileges true
        (earlier.flatMap query.warnings ++ privilege.typeWarnings ++
          explanation)
  | unsettled :
      ¬ query.SettledBy privileges →
      DirectLog query privileges false (privileges.flatMap query.warnings)

theorem EntitlementLog.cons {required : AuthorizationSet} {privilege : Int64}
    {later : List Entitlement} {verdict : Bool} {explanation : List LogLine}
    (log : EntitlementLog required privilege later verdict explanation)
    {entitlement : Entitlement}
    (useless : ¬ entitlement.Provides required) :
    EntitlementLog required privilege (entitlement :: later) verdict
      (entitlement.warnings ++ explanation) := by
  cases log with
  | @provided passed rest found authorization listed before known wanted =>
      rw [← List.append_assoc, ← List.flatMap_cons]
      refine .provided (by rw [listed]; rfl) ?_ known wanted
      simpa [useless] using before
  | exhausted all =>
      rw [← List.flatMap_cons]
      exact .exhausted (by simpa [useless] using all)

theorem EntitlementLog.of_false {required : AuthorizationSet}
    {privilege : Int64} {entitlements : List Entitlement}
    {explanation : List LogLine}
    (log : EntitlementLog required privilege entitlements false explanation) :
    (∀ other ∈ entitlements, ¬ other.Provides required) ∧
      explanation = entitlements.flatMap Entitlement.warnings := by
  cases log with
  | exhausted all => exact ⟨all, rfl⟩

theorem entitlementLog_scanEntitlements (required : AuthorizationSet)
    (privilege : Int64) (entitlements : List Entitlement) :
    EntitlementLog required privilege entitlements
      (Query.scanEntitlements required privilege entitlements).value
      (lines (Query.scanEntitlements required privilege entitlements).events) := by
  induction entitlements with
  | nil => exact .exhausted (by simp)
  | cons entitlement later induction =>
      unfold Query.scanEntitlements
      cases known : Authorization.ofId entitlement.id with
      | error unknown =>
          have useless : ¬ entitlement.Provides required := by
            simp [Entitlement.Provides, known]
          have warned : entitlement.warnings =
              [LogLine.ofEvent (.unknownAuthorization entitlement.id)] := by
            simp only [Entitlement.warnings, known]
            rfl
          have log := induction.cons useless
          rw [warned] at log
          exact log
      | ok authorization =>
          cases wanted : required.contains authorization with
          | true =>
              have found : EntitlementLog required privilege
                  ([] ++ entitlement :: later) true _ :=
                .provided rfl (by simp) known wanted
              simp only [wanted, if_true]
              exact found
          | false =>
              have useless : ¬ entitlement.Provides required := by
                simp [Entitlement.Provides, known, wanted]
              have silent : entitlement.warnings = [] := by
                simp only [Entitlement.warnings, known]
              have log := induction.cons useless
              rw [silent] at log
              simpa [wanted] using log

theorem Query.DirectLog.cons {query : Query} {later : List Privilege}
    {verdict : Bool} {explanation : List LogLine}
    (log : query.DirectLog later verdict explanation) {privilege : Privilege}
    (useless : ¬ query.SettledBy [privilege]) :
    query.DirectLog (privilege :: later) verdict
      (query.warnings privilege ++ explanation) := by
  have extended : ∀ {privileges : List Privilege},
      ¬ query.SettledBy privileges →
        ¬ query.SettledBy (privilege :: privileges) := by
    rintro privileges unsettled ⟨found, member, settles⟩
    rcases List.mem_cons.mp member with rfl | there
    · exact useless ⟨found, List.mem_cons_self, settles⟩
    · exact unsettled ⟨found, there, settles⟩
  cases log with
  | @settled earlier rest found lines split before covers log =>
      have whole : query.DirectLog (privilege :: later) true
          ((privilege :: earlier).flatMap query.warnings ++
            found.typeWarnings ++ lines) :=
        .settled (by rw [split]; rfl) (extended before) covers log
      simpa only [List.flatMap_cons, List.append_assoc] using whole
  | unsettled all =>
      rw [← List.flatMap_cons]
      exact .unsettled (extended all)

theorem Query.lines_directPass_cons (query : Query) (privilege : Privilege)
    (later : List Privilege) :
    lines (query.directPass (privilege :: later)).events =
      privilege.typeWarnings ++
        if privilege.Covers query then
          let scan := scanEntitlements query.required privilege.id
            privilege.permission.entitlements
          lines scan.events ++
            if scan.value then [] else lines (query.directPass later).events
        else
          lines (query.directPass later).events := by
  have covered := query.covers_iff privilege
  simp only [directPass, Logged.events_bind, lines_append,
    Privilege.lines_knownType, Privilege.value_knownType]
  by_cases covers : privilege.Covers query
  · simp only [covered.mpr covers, if_true, covers]
    cases found : (scanEntitlements query.required privilege.id
      privilege.permission.entitlements).value <;> simp [found]
  · have uncovered := Bool.eq_false_iff.mpr (mt covered.mp covers)
    simp [uncovered, covers]

theorem Query.directLog_directPass (query : Query)
    (privileges : List Privilege) :
    query.DirectLog privileges (query.directPass privileges).value
      (lines (query.directPass privileges).events) := by
  induction privileges with
  | nil => exact .unsettled (by simp [SettledBy])
  | cons privilege later induction =>
      have scan := entitlementLog_scanEntitlements query.required
        privilege.id privilege.permission.entitlements
      have covered := query.covers_iff privilege
      rw [value_directPass_cons, lines_directPass_cons]
      by_cases covers : privilege.Covers query
      · rw [covered.mpr covers, if_pos covers, Bool.true_and]
        cases found : (scanEntitlements query.required privilege.id
            privilege.permission.entitlements).value with
        | true =>
            rw [found] at scan
            have unsettled : ¬ query.SettledBy [] := by simp [SettledBy]
            have log : query.DirectLog ([] ++ privilege :: later) true _ :=
              .settled rfl unsettled covers scan
            simpa [found] using log
        | false =>
            rw [found] at scan
            obtain ⟨useless, listed⟩ := scan.of_false
            have unsettled : ¬ query.SettledBy [privilege] := by
              rintro ⟨held, member, _, entitlement, recorded, provides⟩
              obtain rfl := List.mem_singleton.mp member
              exact useless entitlement recorded provides
            have log := induction.cons unsettled
            rw [Query.warnings, if_pos covers, ← listed] at log
            simpa [found] using log
      · have uncovered := Bool.eq_false_iff.mpr (mt covered.mp covers)
        have unsettled : ¬ query.SettledBy [privilege] := by
          simp [SettledBy, covers]
        have log := induction.cons unsettled
        rw [Query.warnings, if_neg covers, List.append_nil] at log
        rw [uncovered, if_neg covers, Bool.false_and, Bool.false_or]
        exact log

theorem EntitlementLog.explains {required : AuthorizationSet}
    {privilege : Int64} {entitlements : List Entitlement} {verdict : Bool}
    {explanation : List LogLine}
    (log : EntitlementLog required privilege entitlements verdict explanation) :
    Explains verdict explanation := by
  cases log with
  | provided => exact .granted (level_flatMap Entitlement.level_warnings) rfl
  | exhausted => exact .denied (level_flatMap Entitlement.level_warnings)

theorem Query.DirectLog.explains {query : Query} {privileges : List Privilege}
    {verdict : Bool} {explanation : List LogLine}
    (log : query.DirectLog privileges verdict explanation) :
    Explains verdict explanation := by
  cases log with
  | @settled earlier later privilege lines split before covers log =>
      rw [List.append_assoc]
      apply Explains.prepend (level_flatMap query.level_warnings)
      exact log.explains.prepend privilege.level_typeWarnings
  | unsettled => exact .denied (level_flatMap query.level_warnings)

/-! ## The inherited pass -/

/-- What the inherited pass logs: the warnings about all type names before the
first privilege on a cluster whose permission is inherited. -/
inductive InheritedLog (resource cluster : Int64) (inherits : String → Prop)
    (privileges : List Privilege) : Bool → List LogLine → Prop where
  | held {earlier later : List Privilege} {privilege : Privilege} :
      privileges = earlier ++ privilege :: later →
      (∀ permission, inherits permission →
        ¬ HeldOnCluster permission earlier) →
      privilege.resource.type = .ok .cluster →
      inherits privilege.permission.name →
      InheritedLog resource cluster inherits privileges true
        (earlier.flatMap Privilege.typeWarnings ++
          [⟨.debug, "authorized through cluster-inherited permission",
            [("resource_id", .number resource.toInt),
              ("cluster_id", .number cluster.toInt),
              ("permission", .text privilege.permission.name)]⟩])
  | unheld :
      (∀ permission, inherits permission →
        ¬ HeldOnCluster permission privileges) →
      InheritedLog resource cluster inherits privileges false
        (privileges.flatMap Privilege.typeWarnings)

theorem InheritedLog.cons {resource cluster : Int64}
    {inherits : String → Prop} {later : List Privilege} {verdict : Bool}
    {explanation : List LogLine}
    (log : InheritedLog resource cluster inherits later verdict explanation)
    {privilege : Privilege}
    (useless : ¬ (privilege.resource.type = .ok .cluster ∧
      inherits privilege.permission.name)) :
    InheritedLog resource cluster inherits (privilege :: later) verdict
      (privilege.typeWarnings ++ explanation) := by
  have extended : ∀ {privileges : List Privilege},
      (∀ permission, inherits permission →
        ¬ HeldOnCluster permission privileges) →
      ∀ permission, inherits permission →
        ¬ HeldOnCluster permission (privilege :: privileges) := by
    rintro privileges unheld permission inherited
      ⟨found, member, onCluster, rfl⟩
    rcases List.mem_cons.mp member with rfl | there
    · exact useless ⟨onCluster, inherited⟩
    · exact unheld _ inherited ⟨found, there, onCluster, rfl⟩
  cases log with
  | held split before onCluster inherited =>
      rw [← List.append_assoc, ← List.flatMap_cons]
      exact .held (by rw [split]; rfl) (extended before) onCluster inherited
  | unheld all =>
      rw [← List.flatMap_cons]
      exact .unheld (extended all)

theorem inheritedLog_inheritedPass (resource cluster : Int64)
    (inherited : List String) (privileges : List Privilege) :
    InheritedLog resource cluster (· ∈ inherited) privileges
      (inheritedPass resource cluster inherited privileges).value
      (lines (inheritedPass resource cluster inherited privileges).events) := by
  induction privileges with
  | nil =>
      refine .unheld ?_
      rintro permission _ ⟨_, member, _⟩
      cases member
  | cons privilege later induction =>
      have chosen : (privilege.resource.type.toOption == some .cluster &&
          inherited.contains privilege.permission.name) = true ↔
          privilege.resource.type = .ok .cluster ∧
            privilege.permission.name ∈ inherited := by
        cases privilege.resource.type <;> simp [Except.toOption]
      unfold inheritedPass
      simp only [Logged.value_bind, Logged.events_bind, lines_append,
        Privilege.lines_knownType, Privilege.value_knownType]
      by_cases settles : privilege.resource.type = .ok .cluster ∧
          privilege.permission.name ∈ inherited
      · have unheld : ∀ permission ∈ inherited,
            ¬ HeldOnCluster permission [] := by
          simp [HeldOnCluster]
        have log : InheritedLog resource cluster (· ∈ inherited)
            ([] ++ privilege :: later) true _ :=
          .held rfl unheld settles.1 settles.2
        rw [if_pos (chosen.mpr settles),
          Privilege.typeWarnings_of_ok settles.1]
        exact log
      · rw [if_neg (mt chosen.mp settles)]
        exact induction.cons settles

theorem InheritedLog.explains {resource cluster : Int64}
    {inherits : String → Prop} {privileges : List Privilege} {verdict : Bool}
    {explanation : List LogLine}
    (log : InheritedLog resource cluster inherits privileges verdict
      explanation) : Explains verdict explanation := by
  cases log with
  | held => exact .granted (level_flatMap Privilege.level_typeWarnings) rfl
  | unheld => exact .denied (level_flatMap Privilege.level_typeWarnings)

/-! ## Whole decisions -/

namespace PrivilegeLookup

/-- What a lookup logs while it answers a question. -/
def answerEvents (lookup : PrivilegeLookup) : LookupCall → List Event
  | .owningCluster id => (lookup.owningCluster id).events
  | .recordedPrivileges id => (lookup.recordedPrivileges id).events

/-- What the second pass asks, and what it logs when that is answered.  The
caller's privileges are looked at only if the records let something inherit. -/
inductive SecondLog (lookup : PrivilegeLookup) (held : List Privilege)
    (id : Int64) : List LookupCall → Bool → List LogLine → Prop where
  | bindingFailed {failure : LookupFailure} :
      (lookup.owningCluster id).value = .error failure →
      SecondLog lookup held id [.owningCluster id] false
        [⟨.warn, "cluster binding lookup failed; denying",
          [("resource_id", .number id.toInt),
            ("error", .text failure.message)]⟩]
  | unowned :
      (lookup.owningCluster id).value = .ok none →
      SecondLog lookup held id [.owningCluster id] false []
  | recordsFailed {cluster : ResourceRef} {failure : LookupFailure} :
      (lookup.owningCluster id).value = .ok (some cluster) →
      (lookup.recordedPrivileges id).value = .error failure →
      SecondLog lookup held id [.owningCluster id, .recordedPrivileges id]
        false
        [⟨.warn, "privilege lookup failed; denying",
          [("resource_id", .number id.toInt),
            ("error", .text failure.message)]⟩]
  | nothingInherited {cluster : ResourceRef} {recorded : List Privilege} :
      (lookup.owningCluster id).value = .ok (some cluster) →
      (lookup.recordedPrivileges id).value = .ok recorded →
      (∀ entry ∈ recorded, ∀ permission,
        ¬ entry.holder.StandsFor permission) →
      SecondLog lookup held id [.owningCluster id, .recordedPrivileges id]
        false []
  | searched {cluster : ResourceRef} {recorded : List Privilege}
      {entry : Privilege} {permission : String} {verdict : Bool}
      {explanation : List LogLine} :
      (lookup.owningCluster id).value = .ok (some cluster) →
      (lookup.recordedPrivileges id).value = .ok recorded →
      entry ∈ recorded → entry.holder.StandsFor permission →
      InheritedLog id cluster.id
        (fun name => ∃ entry ∈ recorded, entry.holder.StandsFor name) held
        verdict explanation →
      SecondLog lookup held id [.owningCluster id, .recordedPrivileges id]
        verdict explanation

/-- What a decision logs on its own when something is required: before it asks
its lookup anything, and after that. -/
inductive DecisionLog (lookup : PrivilegeLookup) (caller : Option Caller)
    (query : Query) :
    List LookupCall → Bool → List LogLine → List LogLine → Prop where
  | nobody :
      (∀ actor ∈ caller, actor.privileges = []) →
      DecisionLog lookup caller query [] false [] []
  | direct {actor : Caller} {before : List LogLine} :
      caller = some actor → query.DirectLog actor.privileges true before →
      DecisionLog lookup caller query [] true before []
  | unscoped {actor : Caller} {before : List LogLine} :
      caller = some actor → query.DirectLog actor.privileges false before →
      query.resourceId = none →
      DecisionLog lookup caller query [] false before []
  | second {actor : Caller} {id : Int64} {calls : List LookupCall}
      {verdict : Bool} {before after : List LogLine} :
      caller = some actor → actor.privileges ≠ [] →
      query.DirectLog actor.privileges false before →
      query.resourceId = some id →
      lookup.SecondLog actor.privileges id calls verdict after →
      DecisionLog lookup caller query calls verdict before after

@[simp]
theorem events_ask (lookup : PrivilegeLookup) (call : LookupCall) :
    (lookup.ask call).events = lookup.answerEvents call := by
  cases call <;> rfl

theorem lines_decideInherited (lookup : PrivilegeLookup)
    (held : List Privilege) (id : Int64) :
    ∃ after,
      lookup.SecondLog held id (lookup.decideInherited held id).calls
          (lookup.decideInherited held id).granted after ∧
        lines (lookup.decideInherited held id).events =
          lines ((lookup.decideInherited held id).calls.flatMap
            lookup.answerEvents) ++ after := by
  unfold decideInherited
  simp only [Consulted.value_bind, Consulted.calls_bind, Consulted.events_bind,
    value_ask_owningCluster, calls_ask, events_ask]
  cases binding : (lookup.owningCluster id).value with
  | error failure =>
      exact ⟨_, .bindingFailed binding, by simp; rfl⟩
  | ok cluster =>
      cases cluster with
      | none => exact ⟨[], .unowned binding, by simp⟩
      | some cluster =>
          simp only [Consulted.value_bind, Consulted.calls_bind,
            Consulted.events_bind, value_ask_recordedPrivileges, calls_ask,
            events_ask]
          cases answer : (lookup.recordedPrivileges id).value with
          | error failure =>
              exact ⟨_, .recordsFailed binding answer, by simp; rfl⟩
          | ok recorded =>
              cases inherited : inheritedPermissions recorded with
              | nil =>
                  have nothing : ∀ entry ∈ recorded, ∀ permission,
                      ¬ entry.holder.StandsFor permission := by
                    intro entry member permission standing
                    have listed := mem_inheritedPermissions_iff.mpr
                      ⟨entry, member, standing⟩
                    rw [inherited] at listed
                    cases listed
                  simp only [inherited, List.isEmpty_nil, if_true]
                  exact ⟨[], .nothingInherited binding answer nothing, by simp⟩
              | cons permission others =>
                  have listed : permission ∈ inheritedPermissions recorded := by
                    simp [inherited]
                  obtain ⟨entry, member, standing⟩ :=
                    mem_inheritedPermissions_iff.mp listed
                  have log := inheritedLog_inheritedPass id cluster.id
                    (inheritedPermissions recorded) held
                  simp only [mem_inheritedPermissions_iff] at log
                  rw [inherited] at log
                  simp only [inherited, List.isEmpty_cons, Bool.false_eq_true,
                    if_false]
                  exact ⟨_, .searched binding answer member standing log, by
                    simp⟩

theorem lines_decide (lookup : PrivilegeLookup) (caller : Option Caller)
    (query : Query) (required : query.required.isEmpty = false) :
    ∃ before after,
      lookup.DecisionLog caller query (lookup.decide caller query).calls
          (lookup.decide caller query).granted before after ∧
        lines (lookup.decide caller query).events =
          before ++
            lines ((lookup.decide caller query).calls.flatMap
              lookup.answerEvents) ++ after := by
  unfold decide
  simp only [required, Bool.false_eq_true, if_false]
  cases caller with
  | none => exact ⟨[], [], .nobody (by simp), rfl⟩
  | some actor =>
      cases holding : actor.hasPrivileges with
      | false =>
          have nothing : actor.privileges = [] := by
            simpa [Caller.hasPrivileges] using holding
          simp only [holding, Bool.false_eq_true, if_false]
          exact ⟨[], [], .nobody (by simp [nothing]), rfl⟩
      | true =>
          have something : actor.privileges ≠ [] := by
            simpa [Caller.hasPrivileges] using holding
          have log := query.directLog_directPass actor.privileges
          simp only [holding, if_true, Consulted.granted_decision,
            Consulted.calls_decision, Consulted.events_decision,
            Consulted.value_bind, Consulted.calls_bind, Consulted.events_bind,
            Consulted.value_liftM, Consulted.calls_liftM,
            Consulted.events_liftM]
          cases direct : (query.directPass actor.privileges).value with
          | true =>
              rw [direct] at log
              exact ⟨_, [], .direct rfl log, by simp⟩
          | false =>
              rw [direct] at log
              cases queried : query.resourceId with
              | none =>
                  exact ⟨_, [], .unscoped rfl log queried, by simp⟩
              | some id =>
                  obtain ⟨after, second, logged⟩ :=
                    lookup.lines_decideInherited actor.privileges id
                  exact ⟨_, after, .second rfl something log queried second,
                    by simp [logged]⟩

section

variable {lookup : PrivilegeLookup} {calls : List LookupCall} {verdict : Bool}
  {before after : List LogLine}

theorem SecondLog.explains {held : List Privilege} {id : Int64}
    (log : lookup.SecondLog held id calls verdict after) :
    Explains verdict after := by
  cases log with
  | bindingFailed | recordsFailed => exact .denied (by simp)
  | unowned | nothingInherited => exact .denied (by simp)
  | searched _ _ _ _ log => exact log.explains

/-- A decision is explained before it asks its lookup, and then it asks
nothing, or it is explained after that. -/
theorem DecisionLog.explains {caller : Option Caller} {query : Query}
    (log : lookup.DecisionLog caller query calls verdict before after) :
    calls = [] ∧ Explains verdict before ∧ after = [] ∨
      (∀ line ∈ before, line.level = .warn) ∧ Explains verdict after := by
  cases log with
  | nobody => exact .inl ⟨rfl, .denied (by simp), rfl⟩
  | direct _ log => exact .inl ⟨rfl, log.explains, rfl⟩
  | unscoped _ log => exact .inl ⟨rfl, log.explains, rfl⟩
  | second _ _ log _ second =>
      cases log.explains with
      | denied warned => exact .inr ⟨warned, second.explains⟩

/-- Lines of the lookup between those of the decision leave the grant last. -/
theorem DecisionLog.getLast? {caller : Option Caller} {query : Query}
    (log : lookup.DecisionLog caller query calls true before after)
    (events : LookupCall → List Event) :
    ∃ warnings grant, before ++ after = warnings ++ [grant] ∧
      grant.level = .debug ∧ (∀ line ∈ warnings, line.level = .warn) ∧
        (before ++ lines (calls.flatMap events) ++ after).getLast? =
          some grant := by
  rcases log.explains with ⟨rfl, explains, rfl⟩ | ⟨warned, explains⟩
  · cases explains with
    | @granted warnings grant warns debug =>
        exact ⟨warnings, grant, by simp, debug, warns, by simp⟩
  · cases explains with
    | @granted warnings grant warns debug =>
        refine ⟨before ++ warnings, grant, by simp, debug, ?_, by simp⟩
        intro line member
        exact (List.mem_append.mp member).elim (warned line) (warns line)

/-- Warnings of the lookup between the lines of the decision leave it
explained. -/
theorem DecisionLog.explains_of_warnings {caller : Option Caller}
    {query : Query}
    (log : lookup.DecisionLog caller query calls verdict before after)
    {events : LookupCall → List Event}
    (warned : ∀ call ∈ calls, ∀ event ∈ events call, event.level = .warn) :
    Explains verdict (before ++ lines (calls.flatMap events) ++ after) := by
  rcases log.explains with ⟨rfl, explains, rfl⟩ | ⟨warnedBefore, explains⟩
  · simpa using explains
  · have between : ∀ line ∈ lines (calls.flatMap events),
        line.level = .warn := by
      intro line member
      obtain ⟨event, logged, rfl⟩ := List.mem_map.mp member
      obtain ⟨call, asked, answered⟩ := List.mem_flatMap.mp logged
      exact warned call asked event answered
    rw [List.append_assoc]
    exact (explains.prepend between).prepend warnedBefore

end

/-- The log of a decision.  Its own lines stand before and after those that its
lookup writes while it answers. -/
structure Logs (lookup : PrivilegeLookup) (caller : Option Caller)
    (query : Query) (before after : List LogLine) : Prop where
  complete : lines (lookup.decide caller query).events =
    before ++
      lines ((lookup.decide caller query).calls.flatMap
        lookup.answerEvents) ++ after
  /-- Which lines they are. -/
  described : lookup.DecisionLog caller query
    (lookup.decide caller query).calls (lookup.decide caller query).granted
    before after
  debug_iff : (∃ line ∈ before ++ after, line.level = .debug) ↔
    (lookup.decide caller query).granted = true
  /-- A grant is told once, by the last line of all. -/
  granted : (lookup.decide caller query).granted = true →
    ∃ warnings grant, before ++ after = warnings ++ [grant] ∧
      grant.level = .debug ∧ (∀ line ∈ warnings, line.level = .warn) ∧
        (lines (lookup.decide caller query).events).getLast? = some grant
  denied : (lookup.decide caller query).granted = false →
    ∀ line ∈ before ++ after, line.level = .warn
  /-- A lookup that writes nothing but warnings does not change that. -/
  whole :
    (∀ call ∈ (lookup.decide caller query).calls,
      ∀ event ∈ lookup.answerEvents call, event.level = .warn) →
      Explains (lookup.decide caller query).granted
        (lines (lookup.decide caller query).events)

/-- The log of every decision for which something is required, whatever the
lookup answers. -/
theorem decision_log_exact (lookup : PrivilegeLookup) (caller : Option Caller)
    (query : Query) (required : query.required.isEmpty = false) :
    ∃ before after, lookup.Logs caller query before after := by
  obtain ⟨before, after, described, complete⟩ :=
    lookup.lines_decide caller query required
  have own : Explains (lookup.decide caller query).granted
      (before ++ after) := by
    let silence : LookupCall → List Event := fun _ => []
    have silent : (lookup.decide caller query).calls.flatMap silence = [] :=
      List.flatMap_eq_nil_iff.mpr fun _ _ => rfl
    have warned : ∀ call ∈ (lookup.decide caller query).calls,
        ∀ event ∈ silence call, event.level = .warn := by
      simp [silence]
    simpa [silent] using described.explains_of_warnings warned
  refine ⟨before, after, complete, described, own.exists_debug_iff,
    ?granted, ?denied, ?whole⟩
  case granted =>
    intro granted
    rw [granted] at described
    rw [complete]
    exact described.getLast? lookup.answerEvents
  case denied =>
    intro denied
    rw [denied] at own
    cases own with
    | denied warned => exact warned
  case whole =>
    intro warned
    rw [complete]
    exact described.explains_of_warnings warned

end PrivilegeLookup

/-! ## A caller with outdated names -/

namespace OutdatedNames

/-- The user of the cluster that owns the view holds a privilege on a resource
of an unknown type, and one on the view that records an unknown id. -/
def caller : Caller where
  name := "alice"
  privileges :=
    { id := 7
      holder := ⟨100, "USER"⟩
      resource := ⟨5, "PIPELINE"⟩
      permission := { id := 8, name := "PIPELINE.USER" } } ::
    { id := 9
      holder := ⟨100, "USER"⟩
      resource := ⟨20, "VIEW"⟩
      permission :=
        { id := 6
          name := "VIEW.PILOT"
          entitlements := [⟨"VIEW.FLY", "Fly"⟩] } } ::
    (SharedView.clusterUser 10).privileges

/-- The type name is met in both passes, the id in the direct one. -/
def log : List LogLine :=
  [⟨.warn, "ignoring resource type",
      [("privilege_id", .number 7),
        ("error", .text "unknown resource type name 'PIPELINE'")]⟩,
    ⟨.warn, "ignoring unknown authorization id",
      [("authorization", .text "VIEW.FLY")]⟩,
    ⟨.warn, "ignoring resource type",
      [("privilege_id", .number 7),
        ("error", .text "unknown resource type name 'PIPELINE'")]⟩,
    ⟨.debug, "authorized through cluster-inherited permission",
      [("resource_id", .number 20), ("cluster_id", .number 10),
        ("permission", .text "CLUSTER.USER")]⟩]

theorem told_in_four_lines :
    (SharedView.query .viewUse).required.isEmpty = false ∧
      lines (SharedView.register.lookup.decide (some caller)
        (SharedView.query .viewUse)).events = log ∧
        ∃ before after,
          SharedView.register.lookup.Logs (some caller)
            (SharedView.query .viewUse) before after := by
  have required : (SharedView.query .viewUse).required.isEmpty = false := by
    decide
  refine ⟨required, by decide +kernel, ?_⟩
  exact SharedView.register.lookup.decision_log_exact (some caller)
    (SharedView.query .viewUse) required

end OutdatedNames

end AccessControl
