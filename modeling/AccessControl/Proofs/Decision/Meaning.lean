import AccessControl.Decision

/-!
# What a decision means

A decision scans lists of privileges and stops at the first one that settles
it.  This file states its verdict without any scan: a query is granted exactly
when nothing is required, when some privilege of the caller covers the query
and carries a required authorization, or when the queried resource is opened
to a permission that the caller holds on a cluster.  A name without a meaning
in the catalog helps in none of these cases.
-/

namespace AccessControl

/-! ## Covering and carrying -/

/-- A privilege covers a query when it is granted on the administrative root,
or when its resource has the queried type and the queried id, as far as the
query names them. -/
def Privilege.Covers (privilege : Privilege) (query : Query) : Prop :=
  privilege.resource.type = .ok .admin ∨
    (∀ type ∈ query.resourceType, privilege.resource.type = .ok type) ∧
      ∀ id ∈ query.resourceId, id = privilege.resource.id

/-- A permission carries the authorizations that its recorded ids stand for. -/
def Permission.Carries (permission : Permission)
    (required : AuthorizationSet) : Prop :=
  ∃ entitlement ∈ permission.entitlements, ∃ authorization,
    Authorization.ofId entitlement.id = .ok authorization ∧
      required.contains authorization = true

/-- A list of privileges settles a query by itself. -/
def Query.SettledBy (query : Query) (privileges : List Privilege) : Prop :=
  ∃ privilege ∈ privileges,
    privilege.Covers query ∧ privilege.permission.Carries query.required

theorem Privilege.value_knownType (privilege : Privilege) :
    privilege.knownType.value = privilege.resource.type.toOption := by
  unfold Privilege.knownType
  cases privilege.resource.type with
  | ok type => rfl
  | error unknown => rfl

namespace Query

theorem covers_iff (query : Query) (privilege : Privilege) :
    query.covers privilege.resource.type.toOption privilege.resource = true ↔
      privilege.Covers query := by
  obtain ⟨queriedType, queriedId, required⟩ := query
  unfold covers Privilege.Covers
  cases privilege.resource.type with
  | error unknown =>
      cases queriedType <;> cases queriedId <;> simp [Except.toOption]
  | ok type =>
      cases queriedType with
      | none => cases queriedId <;> simp [Except.toOption]
      | some queriedType =>
          have swap : queriedType = type ↔ type = queriedType := eq_comm
          cases queriedId <;> simp [Except.toOption, swap]

theorem scanEntitlements_iff (required : AuthorizationSet) (id : Int64)
    (entitlements : List Entitlement) :
    (scanEntitlements required id entitlements).value = true ↔
      ∃ entitlement ∈ entitlements, ∃ authorization,
        Authorization.ofId entitlement.id = .ok authorization ∧
          required.contains authorization = true := by
  induction entitlements with
  | nil => simp [scanEntitlements]
  | cons entitlement later induction =>
      simp only [scanEntitlements, List.mem_cons, exists_eq_or_imp]
      rw [← induction]
      cases Authorization.ofId entitlement.id with
      | error unknown => simp
      | ok authorization =>
          cases member : required.contains authorization <;> simp [member]

theorem value_directPass_cons (query : Query) (privilege : Privilege)
    (later : List Privilege) :
    (query.directPass (privilege :: later)).value =
      (query.covers privilege.resource.type.toOption privilege.resource &&
          (scanEntitlements query.required privilege.id
            privilege.permission.entitlements).value ||
        (query.directPass later).value) := by
  simp only [directPass, Logged.value_bind, Privilege.value_knownType]
  cases query.covers privilege.resource.type.toOption privilege.resource with
  | false => simp
  | true =>
      cases scan : (scanEntitlements query.required privilege.id
        privilege.permission.entitlements).value <;> simp [scan]

theorem directPass_iff (query : Query) (privileges : List Privilege) :
    (query.directPass privileges).value = true ↔
      query.SettledBy privileges := by
  unfold SettledBy
  induction privileges with
  | nil => simp [directPass]
  | cons privilege later induction =>
      rw [value_directPass_cons, Bool.or_eq_true, Bool.and_eq_true, covers_iff,
        scanEntitlements_iff, induction]
      simp only [List.mem_cons, exists_eq_or_imp, Permission.Carries]

/-- Holding a privilege several times settles nothing more. -/
@[simp]
theorem settledBy_distinct {query : Query} {privileges : List Privilege} :
    query.SettledBy (Caller.distinct privileges) ↔
      query.SettledBy privileges := by
  simp [SettledBy]

end Query

/-! ## Inheriting -/

/-- A holder stands for the permission that its type name gives after the mark
of inheritance. -/
def Holder.StandsFor (holder : Holder) (permission : String) : Prop :=
  permission ≠ "" ∧ holder.typeName = "ALL." ++ permission

/-- A permission of a given name is among privileges on clusters. -/
def HeldOnCluster (permission : String) (privileges : List Privilege) : Prop :=
  ∃ privilege ∈ privileges,
    privilege.resource.type = .ok .cluster ∧
      privilege.permission.name = permission

@[simp]
theorem heldOnCluster_distinct {permission : String}
    {privileges : List Privilege} :
    HeldOnCluster permission (Caller.distinct privileges) ↔
      HeldOnCluster permission privileges := by
  simp [HeldOnCluster]

/-- A lookup opens a resource to privileges when some cluster owns it and a
permission that stands among them on any cluster is inherited by the records
of the resource. -/
def PrivilegeLookup.Opens (lookup : PrivilegeLookup) (id : Int64)
    (privileges : List Privilege) : Prop :=
  ∃ cluster recorded,
    (lookup.owningCluster id).value = .ok (some cluster) ∧
      (lookup.recordedPrivileges id).value = .ok recorded ∧
        ∃ permission, (∃ entry ∈ recorded, entry.holder.StandsFor permission) ∧
          HeldOnCluster permission privileges

@[simp]
theorem PrivilegeLookup.opens_distinct {lookup : PrivilegeLookup} {id : Int64}
    {privileges : List Privilege} :
    lookup.Opens id (Caller.distinct privileges) ↔
      lookup.Opens id privileges := by
  simp [Opens]

theorem Holder.inheritedPermission?_eq_some_iff {holder : Holder}
    {permission : String} :
    holder.inheritedPermission? = some permission ↔
      holder.StandsFor permission := by
  have spelled : holder.typeName = "ALL." ++ permission ↔
      holder.typeName.toList = inheritanceMark ++ permission.toList := by
    rw [← String.toList_inj, String.toList_append, inheritanceMark]
  rw [StandsFor, spelled]
  unfold inheritedPermission?
  by_cases marked : inheritanceMark <+: holder.typeName.toList
  · obtain ⟨name, equality⟩ := marked
    have named : String.ofList name = permission ↔ name = permission.toList := by
      rw [← String.toList_inj, String.toList_ofList]
    have unnamed : permission = "" ↔ permission.toList = [] :=
      String.toList_eq_nil_iff.symm
    rw [← equality, List.append_cancel_left_eq, Ne, unnamed]
    simp only [List.isPrefixOf_iff_prefix, List.prefix_append, if_true,
      List.drop_left]
    constructor
    · intro result
      split at result
      next => cases result
      next filled =>
        have equal : name = permission.toList := named.mp (by simpa using result)
        simpa [← equal] using filled
    · rintro ⟨filled, equal⟩
      rw [← equal] at filled
      simp [filled, named.mpr equal]
  · have unmarked : holder.typeName.toList ≠
        inheritanceMark ++ permission.toList :=
      fun equality => marked ⟨permission.toList, equality.symm⟩
    simp [List.isPrefixOf_iff_prefix, marked, unmarked]

theorem mem_inheritedPermissions_iff {recorded : List Privilege}
    {permission : String} :
    permission ∈ inheritedPermissions recorded ↔
      ∃ entry ∈ recorded, entry.holder.StandsFor permission := by
  simp only [inheritedPermissions, List.mem_filterMap,
    Holder.inheritedPermission?_eq_some_iff]

theorem value_inheritedPass_cons (resource cluster : Int64)
    (inherited : List String) (privilege : Privilege)
    (later : List Privilege) :
    (inheritedPass resource cluster inherited (privilege :: later)).value =
      (privilege.resource.type.toOption == some .cluster &&
          inherited.contains privilege.permission.name ||
        (inheritedPass resource cluster inherited later).value) := by
  simp only [inheritedPass, Logged.value_bind, Privilege.value_knownType]
  cases found : privilege.resource.type.toOption == some .cluster &&
      inherited.contains privilege.permission.name <;> simp

theorem inheritedPass_iff (resource cluster : Int64) (inherited : List String)
    (privileges : List Privilege) :
    (inheritedPass resource cluster inherited privileges).value = true ↔
      ∃ permission ∈ inherited, HeldOnCluster permission privileges := by
  unfold HeldOnCluster
  induction privileges with
  | nil => simp [inheritedPass]
  | cons privilege later induction =>
      have typed : privilege.resource.type.toOption = some .cluster ↔
          privilege.resource.type = .ok .cluster := by
        cases privilege.resource.type <;> simp [Except.toOption]
      rw [value_inheritedPass_cons, Bool.or_eq_true, Bool.and_eq_true,
        beq_iff_eq, typed, List.contains_iff_mem, induction]
      constructor
      · rintro (⟨onCluster, member⟩ | ⟨permission, member, held⟩)
        · exact ⟨privilege.permission.name, member, privilege,
            List.mem_cons_self, onCluster, rfl⟩
        · obtain ⟨holding, holdingMember, facts⟩ := held
          exact ⟨permission, member, holding,
            List.mem_cons_of_mem _ holdingMember, facts⟩
      · rintro ⟨permission, member, holding, holdingMember, onCluster, named⟩
        rcases List.mem_cons.mp holdingMember with here | there
        · subst here
          exact .inl ⟨onCluster, named ▸ member⟩
        · exact .inr ⟨permission, member, holding, there, onCluster, named⟩

theorem value_inheritedPass_nil (resource cluster : Int64)
    (privileges : List Privilege) :
    (inheritedPass resource cluster [] privileges).value = false := by
  rw [← Bool.not_eq_true, inheritedPass_iff]
  simp

/-- Skipping the pass when nothing is inherited does not change its result. -/
theorem value_skipped_inheritedPass (resource cluster : Int64)
    (inherited : List String) (privileges : List Privilege) :
    (if inherited.isEmpty then pure false
      else liftM (inheritedPass resource cluster inherited privileges) :
        Consulted Bool).value =
          (inheritedPass resource cluster inherited privileges).value := by
  cases inherited with
  | nil => simp [value_inheritedPass_nil]
  | cons first later => simp

/-! ## The verdict -/

namespace PrivilegeLookup

theorem decideInherited_iff (lookup : PrivilegeLookup)
    (privileges : List Privilege) (id : Int64) :
    (lookup.decideInherited privileges id).granted = true ↔
      lookup.Opens id privileges := by
  unfold decideInherited Opens
  cases binding : (lookup.owningCluster id).value with
  | error failure => simp [binding]
  | ok cluster =>
      cases cluster with
      | none => simp [binding]
      | some cluster =>
          cases answer : (lookup.recordedPrivileges id).value with
          | error failure => simp [binding, answer]
          | ok recorded =>
              simp only [Consulted.value_bind, value_ask_owningCluster,
                value_ask_recordedPrivileges, binding, answer,
                value_skipped_inheritedPass, inheritedPass_iff,
                mem_inheritedPermissions_iff]
              simp

/-- Whoever holds nothing opens nothing. -/
theorem not_opens_nil (lookup : PrivilegeLookup) (id : Int64) :
    ¬ lookup.Opens id [] := by
  rintro ⟨_, _, _, _, permission, _, holding, member, _⟩
  cases member

variable {query : Query}

theorem isAuthorized_of_required_isEmpty (lookup : PrivilegeLookup)
    (caller : Option Caller) (required : query.required.isEmpty = true) :
    lookup.isAuthorized caller query = true := by
  simp [isAuthorized, decide, required]

theorem isAuthorized_none (lookup : PrivilegeLookup)
    (required : query.required.isEmpty = false) :
    lookup.isAuthorized none query = false := by
  simp [isAuthorized, decide, required]

/-- When something is required, a caller is granted a query by the caller's
own privileges or because they open the queried resource. -/
theorem isAuthorized_some_iff (lookup : PrivilegeLookup) (caller : Caller)
    (required : query.required.isEmpty = false) :
    lookup.isAuthorized (some caller) query = true ↔
      query.SettledBy caller.privileges ∨
        ∃ id ∈ query.resourceId, lookup.Opens id caller.privileges := by
  rw [← Query.directPass_iff]
  simp only [← decideInherited_iff]
  unfold isAuthorized decide
  -- A caller without privileges is refused before either pass.
  cases held : caller.hasPrivileges with
  | false =>
      have nothing : caller.privileges = [] := by
        simpa [Caller.hasPrivileges] using held
      simp [required, held, nothing, Query.directPass, decideInherited_iff,
        not_opens_nil]
  | true =>
      cases direct : (query.directPass caller.privileges).value <;>
        cases query.resourceId <;>
          simp [required, held, direct]

/-- The exact meaning of a decision, whatever the lookup answers: nothing is
required, or the caller holds a privilege that settles the query, or a
resource id is queried that the lookup opens to the caller's privileges. -/
theorem isAuthorized_iff (lookup : PrivilegeLookup) (caller : Option Caller)
    (query : Query) :
    lookup.isAuthorized caller query = true ↔
      query.required.isEmpty = true ∨
        (∃ actor ∈ caller, query.SettledBy actor.privileges) ∨
          ∃ actor ∈ caller, ∃ id ∈ query.resourceId,
            lookup.Opens id actor.privileges := by
  cases required : query.required.isEmpty with
  | true => simp [isAuthorized_of_required_isEmpty, required]
  | false =>
      cases caller with
      | none => simp [isAuthorized_none, required]
      | some actor => simp [isAuthorized_some_iff, required]

end PrivilegeLookup

end AccessControl
