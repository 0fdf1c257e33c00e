import AccessControl.Proofs.Decision.Meaning

/-!
# Decisions privilege by privilege

When something is required, a caller is granted a query exactly when one of
the caller's privileges, held alone, is granted one of the required
authorizations, asked for alone.  Neither pass of a decision looks at two
privileges together, and the second pass does not look at what is required.
How the privileges are listed therefore plays no part, and a verdict can be
put together from the verdicts on parts of a question.
-/

namespace AccessControl

namespace AuthorizationSet

/-- The set of the members of two sets. -/
def union (left right : AuthorizationSet) : AuthorizationSet :=
  ofList (left.toList ++ right.toList)

@[simp]
theorem contains_union (left right : AuthorizationSet)
    (authorization : Authorization) :
    (left.union right).contains authorization =
      (left.contains authorization || right.contains authorization) := by
  rw [union, contains_ofList, List.contains_append]
  rfl

theorem isEmpty_eq_false_iff {set : AuthorizationSet} :
    set.isEmpty = false ↔
      ∃ authorization, set.contains authorization = true := by
  unfold isEmpty contains
  cases set.toList with
  | nil => simp
  | cons first later => exact iff_of_true rfl ⟨first, by simp⟩

theorem isEmpty_singleton (authorization : Authorization) :
    (ofList [authorization]).isEmpty = false :=
  isEmpty_eq_false_iff.mpr ⟨authorization, by simp⟩

end AuthorizationSet

/-! ## The passes -/

section

variable {query : Query} {privileges : List Privilege}

/-- The same query for one authorization. -/
def Query.requiring (query : Query) (authorization : Authorization) : Query :=
  { query with required := .ofList [authorization] }

theorem Permission.carries_iff {permission : Permission}
    {required : AuthorizationSet} :
    permission.Carries required ↔
      ∃ authorization, required.contains authorization = true ∧
        permission.Carries (.ofList [authorization]) := by
  constructor
  · rintro ⟨entitlement, member, authorization, known, wanted⟩
    exact ⟨authorization, wanted, entitlement, member, authorization, known,
      by simp⟩
  · rintro ⟨authorization, wanted, entitlement, member, other, known, single⟩
    obtain rfl : other = authorization := by simpa using single
    exact ⟨entitlement, member, other, known, wanted⟩

theorem Query.settledBy_iff :
    query.SettledBy privileges ↔
      ∃ privilege ∈ privileges, ∃ authorization,
        query.required.contains authorization = true ∧
          (query.requiring authorization).SettledBy [privilege] := by
  constructor
  · rintro ⟨privilege, member, covers, carries⟩
    obtain ⟨authorization, wanted, carriesOne⟩ :=
      Permission.carries_iff.mp carries
    exact ⟨privilege, member, authorization, wanted, privilege,
      List.mem_cons_self, covers, carriesOne⟩
  · rintro ⟨privilege, member, authorization, wanted, alone, aloneMember,
      covers, carriesOne⟩
    obtain rfl : alone = privilege := List.mem_singleton.mp aloneMember
    exact ⟨alone, member, covers,
      Permission.carries_iff.mpr ⟨authorization, wanted, carriesOne⟩⟩

theorem PrivilegeLookup.opens_iff {lookup : PrivilegeLookup} {id : Int64} :
    lookup.Opens id privileges ↔
      ∃ privilege ∈ privileges, lookup.Opens id [privilege] := by
  constructor
  · rintro ⟨cluster, recorded, binding, answer, permission, standing,
      privilege, member, held⟩
    exact ⟨privilege, member, cluster, recorded, binding, answer, permission,
      standing, privilege, List.mem_cons_self, held⟩
  · rintro ⟨privilege, member, cluster, recorded, binding, answer, permission,
      standing, alone, aloneMember, held⟩
    obtain rfl : alone = privilege := List.mem_singleton.mp aloneMember
    exact ⟨cluster, recorded, binding, answer, permission, standing, alone,
      member, held⟩

end

/-! ## The verdict -/

namespace PrivilegeLookup

/-- What is granted to several privileges for several authorizations is
granted to one of them for one of these. -/
theorem isAuthorized_some_iff_alone (lookup : PrivilegeLookup)
    (caller : Caller) {query : Query}
    (required : query.required.isEmpty = false) (name : String) :
    lookup.isAuthorized (some caller) query = true ↔
      ∃ privilege ∈ caller.privileges, ∃ authorization,
        query.required.contains authorization = true ∧
          lookup.isAuthorizedFor (some ⟨name, [privilege]⟩) query.resourceType
            query.resourceId authorization = true := by
  have alone : ∀ privilege authorization,
      lookup.isAuthorizedFor (some ⟨name, [privilege]⟩) query.resourceType
          query.resourceId authorization = true ↔
        (query.requiring authorization).SettledBy [privilege] ∨
          ∃ id ∈ query.resourceId, lookup.Opens id [privilege] := by
    intro privilege authorization
    have nonempty : (query.requiring authorization).required.isEmpty = false :=
      AuthorizationSet.isEmpty_singleton authorization
    exact lookup.isAuthorized_some_iff ⟨name, [privilege]⟩ nonempty
  rw [lookup.isAuthorized_some_iff caller required]
  simp only [alone]
  constructor
  · rintro (settled | ⟨id, queried, opened⟩)
    · obtain ⟨privilege, member, authorization, wanted, settledAlone⟩ :=
        Query.settledBy_iff.mp settled
      exact ⟨privilege, member, authorization, wanted, .inl settledAlone⟩
    · obtain ⟨privilege, member, openedAlone⟩ := opens_iff.mp opened
      -- The second pass lets in for any authorization, so any member will do.
      obtain ⟨authorization, wanted⟩ :=
        AuthorizationSet.isEmpty_eq_false_iff.mp required
      exact ⟨privilege, member, authorization, wanted,
        .inr ⟨id, queried, openedAlone⟩⟩
  · rintro ⟨privilege, member, authorization, wanted,
      settledAlone | ⟨id, queried, openedAlone⟩⟩
    · exact .inl (Query.settledBy_iff.mpr
        ⟨privilege, member, authorization, wanted, settledAlone⟩)
    · exact .inr ⟨id, queried, opens_iff.mpr ⟨privilege, member, openedAlone⟩⟩

end PrivilegeLookup

/-- A verdict on held privileges and required authorizations is found by asking
about one privilege and one authorization at a time.  Nothing is said about
empty sets of authorizations, which grant everything to everyone. -/
structure Distributes (verdict : List Privilege → AuthorizationSet → Bool)
    (alone : Privilege → Authorization → Bool) : Prop where
  one_by_one : ∀ privileges required, required.isEmpty = false →
    (verdict privileges required = true ↔
      ∃ privilege ∈ privileges, ∃ authorization,
        required.contains authorization = true ∧
          alone privilege authorization = true)
  /-- Neither the order of the privileges nor repetitions among them matter. -/
  rearranged : ∀ privileges others required, required.isEmpty = false →
    (∀ privilege, privilege ∈ others ↔ privilege ∈ privileges) →
      verdict others required = verdict privileges required
  /-- More privileges and more alternatives never take a grant away. -/
  extended : ∀ privileges more required wider, required.isEmpty = false →
    privileges ⊆ more →
      (∀ authorization, required.contains authorization = true →
        wider.contains authorization = true) →
        verdict privileges required = true → verdict more wider = true
  appended : ∀ left right required, required.isEmpty = false →
    verdict (left ++ right) required =
      (verdict left required || verdict right required)
  united : ∀ privileges left right,
    left.isEmpty = false → right.isEmpty = false →
      verdict privileges (left.union right) =
        (verdict privileges left || verdict privileges right)

/-- Asking one by one is all that the other laws rest on. -/
theorem Distributes.of_one_by_one
    {verdict : List Privilege → AuthorizationSet → Bool}
    {alone : Privilege → Authorization → Bool}
    (one_by_one : ∀ privileges required, required.isEmpty = false →
      (verdict privileges required = true ↔
        ∃ privilege ∈ privileges, ∃ authorization,
          required.contains authorization = true ∧
            alone privilege authorization = true)) :
    Distributes verdict alone := by
  refine ⟨one_by_one, ?rearranged, ?extended, ?appended, ?united⟩
  case rearranged =>
    intro privileges others required nonempty same
    rw [Bool.eq_iff_iff, one_by_one _ _ nonempty, one_by_one _ _ nonempty]
    simp only [same]
  case extended =>
    intro privileges more required wider nonempty kept within granted
    obtain ⟨privilege, member, authorization, wanted, grantedAlone⟩ :=
      (one_by_one _ _ nonempty).mp granted
    have stillWanted := within authorization wanted
    have widerNonempty : wider.isEmpty = false :=
      AuthorizationSet.isEmpty_eq_false_iff.mpr ⟨authorization, stillWanted⟩
    exact (one_by_one _ _ widerNonempty).mpr
      ⟨privilege, kept member, authorization, stillWanted, grantedAlone⟩
  case appended =>
    intro left right required nonempty
    rw [Bool.eq_iff_iff, Bool.or_eq_true, one_by_one _ _ nonempty,
      one_by_one _ _ nonempty, one_by_one _ _ nonempty]
    simp only [List.mem_append, or_and_right, exists_or]
  case united =>
    intro privileges left right leftNonempty rightNonempty
    obtain ⟨authorization, wanted⟩ :=
      AuthorizationSet.isEmpty_eq_false_iff.mp leftNonempty
    have nonempty : (left.union right).isEmpty = false :=
      AuthorizationSet.isEmpty_eq_false_iff.mpr
        ⟨authorization, by simp [wanted]⟩
    rw [Bool.eq_iff_iff, Bool.or_eq_true, one_by_one _ _ nonempty,
      one_by_one _ _ leftNonempty, one_by_one _ _ rightNonempty]
    simp only [AuthorizationSet.contains_union, Bool.or_eq_true, or_and_right,
      exists_or, and_or_left]

/-- Verdicts distribute over the privileges of a caller and over what is
required, for a caller with the privileges as listed and for one who holds
equal ones once. -/
theorem PrivilegeLookup.isAuthorized_distributes (lookup : PrivilegeLookup)
    (name : String) (type : Option ResourceType) (id : Option Int64) :
    Distributes
        (fun privileges required =>
          lookup.isAuthorized (some ⟨name, privileges⟩) ⟨type, id, required⟩)
        (fun privilege authorization =>
          lookup.isAuthorizedFor (some ⟨name, [privilege]⟩) type id
            authorization) ∧
      Distributes
        (fun privileges required =>
          lookup.isAuthorized (some (.holding name privileges))
            ⟨type, id, required⟩)
        (fun privilege authorization =>
          lookup.isAuthorizedFor (some (.holding name [privilege])) type id
            authorization) := by
  constructor
  · apply Distributes.of_one_by_one
    intro privileges required nonempty
    let query : Query := ⟨type, id, required⟩
    have nonempty : query.required.isEmpty = false := nonempty
    exact lookup.isAuthorized_some_iff_alone ⟨name, privileges⟩ nonempty name
  · apply Distributes.of_one_by_one
    intro privileges required nonempty
    let query : Query := ⟨type, id, required⟩
    have nonempty : query.required.isEmpty = false := nonempty
    have distributed := lookup.isAuthorized_some_iff_alone
      (.holding name privileges) nonempty name
    have single : ∀ privilege, Caller.holding name [privilege] =
        ⟨name, [privilege]⟩ := fun _ => rfl
    have held : ∀ privilege,
        privilege ∈ (Caller.holding name privileges).privileges ↔
          privilege ∈ privileges := fun _ => Caller.mem_distinct
    simpa only [single, held] using distributed

namespace TwoPrivileges

/-- A privilege on a cluster that lets see its metrics. -/
def onCluster : Privilege where
  id := 1
  holder := ⟨100, "USER"⟩
  resource := ⟨10, "CLUSTER"⟩
  permission :=
    { id := 2
      name := "CLUSTER.USER"
      entitlements := [Authorization.clusterViewMetrics.entitlement] }

/-- A privilege to use a view. -/
def onView : Privilege where
  id := 2
  holder := ⟨100, "USER"⟩
  resource := ⟨20, "VIEW"⟩
  permission :=
    { id := 4
      name := "VIEW.USER"
      entitlements := [Authorization.viewUse.entitlement] }

/-- One of two authorizations, of which the first is recorded nowhere. -/
def required : AuthorizationSet :=
  .ofList [.adminManageUsers, .viewUse]

/-- The verdict on the view, where nothing is inherited. -/
def verdict (privileges : List Privilege) : Bool :=
  ({} : PrivilegeRegister).lookup.isAuthorized (some ⟨"alice", privileges⟩)
    ⟨some .view, some 20, required⟩

/-- The two privileges are granted the view directly, and so is one of them,
asked alone about one authorization; they may be listed in any order. -/
theorem granted_by_one_alone :
    required.isEmpty = false ∧ verdict [onCluster, onView] = true ∧
      (∃ privilege ∈ [onCluster, onView], ∃ authorization,
        required.contains authorization = true ∧
          ({} : PrivilegeRegister).lookup.isAuthorizedFor
            (some ⟨"alice", [privilege]⟩) (some .view) (some 20)
            authorization = true) ∧
      verdict [onView, onCluster, onView] = true ∧
        (verdict [onCluster] || verdict [onView]) = true := by
  have nonempty : required.isEmpty = false := by decide
  have granted : verdict [onCluster, onView] = true := by decide
  have laws := (({} : PrivilegeRegister).lookup.isAuthorized_distributes
    "alice" (some .view) (some 20)).1
  have alone := (laws.one_by_one _ _ nonempty).mp granted
  have rearranged := laws.rearranged [onCluster, onView]
    [onView, onCluster, onView] _ nonempty (by simp)
  have apart := laws.appended [onCluster] [onView] _ nonempty
  exact ⟨nonempty, granted, alone, rearranged.trans granted,
    apart.symm.trans granted⟩

end TwoPrivileges

end AccessControl
