import AccessControl.Proofs.Decision.Inheritance

/-!
# Wider and narrower questions

A question leaves out the type, the id or both to ask about any.  Leaving out
the type never takes a grant away.  Leaving out the id may: only a question for
an id goes on to the inherited pass, so that a grant by inheritance is lost.
-/

namespace AccessControl

/-- One query asks for what another one asks for, within the same bounds or
wider ones. -/
structure Query.Widens (wide narrow : Query) : Prop where
  type : ∀ type ∈ wide.resourceType, type ∈ narrow.resourceType
  id : ∀ id ∈ wide.resourceId, id ∈ narrow.resourceId
  required : wide.required = narrow.required

section

variable {wide narrow : Query} {privileges : List Privilege}

theorem Query.Widens.covers (widens : wide.Widens narrow)
    {privilege : Privilege} (covers : privilege.Covers narrow) :
    privilege.Covers wide := by
  rcases covers with root | ⟨typed, identified⟩
  · exact .inl root
  · right
    constructor
    · exact fun type queried => typed type (widens.type type queried)
    · exact fun id queried => identified id (widens.id id queried)

theorem Query.Widens.settledBy (widens : wide.Widens narrow)
    (settled : narrow.SettledBy privileges) : wide.SettledBy privileges := by
  obtain ⟨privilege, member, covers, carries⟩ := settled
  refine ⟨privilege, member, widens.covers covers, ?_⟩
  rwa [widens.required]

/-- A privilege that settles a query for any id settles it for the id of its
own resource. -/
theorem Query.SettledBy.exists_id {type : Option ResourceType}
    {required : AuthorizationSet}
    (settled : Query.SettledBy ⟨type, none, required⟩ privileges) :
    ∃ id, Query.SettledBy ⟨type, some id, required⟩ privileges := by
  obtain ⟨privilege, member, covers, carries⟩ := settled
  refine ⟨privilege.resource.id, privilege, member, ?_, carries⟩
  rcases covers with root | ⟨typed, _⟩
  · exact .inl root
  · right
    refine ⟨typed, ?_⟩
    intro id queried
    exact (Option.some.inj queried).symm

/-- What is granted on the administrative root reaches everything alike. -/
theorem Query.settledBy_iff_of_administrative
    (administrative : ∀ privilege ∈ privileges,
      privilege.resource.type = .ok .admin)
    (query : Query) :
    query.SettledBy privileges ↔ ∃ privilege ∈ privileges,
      privilege.permission.Carries query.required := by
  constructor
  · rintro ⟨privilege, member, _, carries⟩
    exact ⟨privilege, member, carries⟩
  · rintro ⟨privilege, member, carries⟩
    exact ⟨privilege, member, .inl (administrative privilege member), carries⟩

/-- Nothing is inherited without a privilege on a cluster. -/
theorem PrivilegeLookup.not_opens_of_administrative (lookup : PrivilegeLookup)
    (administrative : ∀ privilege ∈ privileges,
      privilege.resource.type = .ok .admin)
    (id : Int64) : ¬ lookup.Opens id privileges := by
  rintro ⟨_, _, _, _, _, _, privilege, member, onCluster, _⟩
  rw [administrative privilege member] at onCluster
  cases onCluster

end

/-- How verdicts on queries with the same requirements depend on the type and
the id that are asked for. -/
structure PrivilegeLookup.ScopeLaws (lookup : PrivilegeLookup)
    (caller : Option Caller) (required : AuthorizationSet) : Prop where
  untyped {type : ResourceType} {id : Option Int64} :
    lookup.isAuthorized caller ⟨some type, id, required⟩ = true →
      lookup.isAuthorized caller ⟨none, id, required⟩ = true
  /-- Only a grant by inheritance is lost without the id. -/
  inherited {type : Option ResourceType} {id : Int64} :
    lookup.isAuthorized caller ⟨type, some id, required⟩ = true →
      lookup.isAuthorized caller ⟨type, none, required⟩ = false →
        ∃ cluster, (lookup.owningCluster id).value = .ok (some cluster) ∧
          ∃ actor ∈ caller,
            (Query.directPass ⟨type, some id, required⟩
              actor.privileges).value = false ∧
            (lookup.decideInherited actor.privileges id).granted = true
  somewhere {type : Option ResourceType} :
    lookup.isAuthorized caller ⟨type, none, required⟩ = true →
      ∃ id, lookup.isAuthorized caller ⟨type, some id, required⟩ = true ∧
        ∃ actor ∈ caller,
          (Query.directPass ⟨type, some id, required⟩
            actor.privileges).value = true
  administrative :
    (∀ actor ∈ caller, ∀ privilege ∈ actor.privileges,
      privilege.resource.type = .ok .admin) →
      ∀ type otherType id otherId,
        lookup.isAuthorized caller ⟨type, id, required⟩ =
          lookup.isAuthorized caller ⟨otherType, otherId, required⟩

namespace PrivilegeLookup

theorem ScopeLaws.nobody (lookup : PrivilegeLookup)
    {required : AuthorizationSet} (nonempty : required.isEmpty = false) :
    lookup.ScopeLaws none required := by
  have denied (type : Option ResourceType) (id : Option Int64) :
      lookup.isAuthorized none ⟨type, id, required⟩ = false :=
    lookup.isAuthorized_none nonempty
  constructor
  case untyped => simp [denied]
  case inherited => simp [denied]
  case somewhere => simp [denied]
  case administrative => simp [denied]

theorem ScopeLaws.actor (lookup : PrivilegeLookup) (actor : Caller)
    {required : AuthorizationSet} (nonempty : required.isEmpty = false) :
    lookup.ScopeLaws (some actor) required := by
  have verdict (type : Option ResourceType) (id : Option Int64) :
      lookup.isAuthorized (some actor) ⟨type, id, required⟩ = true ↔
        Query.SettledBy ⟨type, id, required⟩ actor.privileges ∨
          ∃ queried ∈ id, lookup.Opens queried actor.privileges :=
    lookup.isAuthorized_some_iff actor nonempty
  constructor
  case untyped =>
    intro type id granted
    apply (verdict none id).mpr
    rcases (verdict (some type) id).mp granted with settled | opened
    · left
      apply Query.Widens.settledBy _ settled
      exact { type := by simp, id := fun _ member => member, required := rfl }
    · exact .inr opened
  case inherited =>
    intro type id granted lost
    -- What settles the query for the id would settle it for any id too.
    have unsettledAnywhere :
        ¬ Query.SettledBy ⟨type, none, required⟩ actor.privileges := by
      intro settled
      rw [(verdict type none).mpr (.inl settled)] at lost
      cases lost
    have unsettled :
        ¬ Query.SettledBy ⟨type, some id, required⟩ actor.privileges := by
      apply mt (Query.Widens.settledBy _) unsettledAnywhere
      exact { type := fun _ member => member, id := by simp, required := rfl }
    obtain ⟨queried, same, opened⟩ :=
      ((verdict type (some id)).mp granted).resolve_left unsettled
    obtain rfl := Option.some.inj same
    have second := (lookup.decideInherited_iff actor.privileges id).mpr opened
    obtain ⟨cluster, _, binding, _⟩ := opened
    refine ⟨cluster, binding, actor, rfl, ?_, second⟩
    rw [← Bool.not_eq_true, Query.directPass_iff]
    exact unsettled
  case somewhere =>
    intro type granted
    have settled : Query.SettledBy ⟨type, none, required⟩ actor.privileges := by
      rcases (verdict type none).mp granted with settled | ⟨_, queried, _⟩
      · exact settled
      · cases queried
    obtain ⟨id, settledThere⟩ := settled.exists_id
    refine ⟨id, (verdict type (some id)).mpr (.inl settledThere), actor, rfl, ?_⟩
    exact (Query.directPass_iff _ actor.privileges).mpr settledThere
  case administrative =>
    intro administrative type otherType id otherId
    have held := administrative actor rfl
    have closed := lookup.not_opens_of_administrative held
    rw [Bool.eq_iff_iff, verdict, verdict]
    simp only [Query.settledBy_iff_of_administrative held, closed, and_false,
      exists_false, or_false]

/-- Whoever asks, and whatever the lookup answers, the verdicts on wider and
narrower questions are tied to each other. -/
theorem isAuthorized_scope_laws (lookup : PrivilegeLookup)
    (caller : Option Caller) (required : AuthorizationSet)
    (nonempty : required.isEmpty = false) :
    lookup.ScopeLaws caller required := by
  cases caller with
  | none => exact .nobody lookup nonempty
  | some actor => exact .actor lookup actor nonempty

end PrivilegeLookup

namespace SharedView

/-- A caller who holds the permission to use the view on the view itself. -/
def viewUser : Caller where
  name := "bob"
  privileges :=
    [{ id := 2
       holder := ⟨101, "USER"⟩
       resource := ⟨20, "VIEW"⟩
       permission :=
        { id := 4
          name := "VIEW.USER"
          entitlements := [Authorization.viewUse.entitlement] } }]

/-- A caller who holds the same permission on the administrative root. -/
def administrator : Caller where
  name := "admin"
  privileges :=
    [{ id := 3
       holder := ⟨102, "USER"⟩
       resource := ⟨1, "AMBARI"⟩
       permission :=
        { id := 1
          name := "AMBARI.ADMINISTRATOR"
          entitlements := [Authorization.viewUse.entitlement] } }]

/-- The user of the cluster is granted the view that it owns, but not a view in
general.  The user of the view is granted it under any type and as a view in
general, and the administrator is granted everything. -/
theorem three_callers_granted :
    (query .viewUse).required.isEmpty = false ∧
      (register.lookup.isAuthorized (some (clusterUser 10)) (query .viewUse) =
          true ∧
        register.lookup.isAuthorized (some (clusterUser 10))
          { query .viewUse with resourceId := none } = false ∧
        ∃ cluster,
          (register.lookup.owningCluster 20).value = .ok (some cluster) ∧
            (register.lookup.decideInherited (clusterUser 10).privileges
              20).granted = true) ∧
      (register.lookup.isAuthorized (some viewUser) (query .viewUse) = true ∧
        register.lookup.isAuthorized (some viewUser)
          { query .viewUse with resourceType := none } = true ∧
        register.lookup.isAuthorized (some viewUser)
          { query .viewUse with resourceId := none } = true ∧
        ∃ id, register.lookup.isAuthorized (some viewUser)
            { query .viewUse with resourceId := some id } = true ∧
          (Query.directPass { query .viewUse with resourceId := some id }
            viewUser.privileges).value = true) ∧
      (register.lookup.isAuthorized (some administrator) (query .viewUse) =
          true ∧
        ∀ type id, register.lookup.isAuthorized (some administrator)
          { query .viewUse with resourceType := type, resourceId := id } =
            true) := by
  have required : (query .viewUse).required.isEmpty = false := by decide
  have laws (caller : Caller) :=
    register.lookup.isAuthorized_scope_laws (some caller) _ required
  refine ⟨required, ?clusterUser, ?viewUser, ?administrator⟩
  case clusterUser =>
    have granted : register.lookup.isAuthorized (some (clusterUser 10))
        (query .viewUse) = true := by decide
    have lost : register.lookup.isAuthorized (some (clusterUser 10))
        { query .viewUse with resourceId := none } = false := by decide
    obtain ⟨cluster, binding, actor, present, _, second⟩ :=
      (laws (clusterUser 10)).inherited granted lost
    cases present
    exact ⟨granted, lost, cluster, binding, second⟩
  case viewUser =>
    have granted : register.lookup.isAuthorized (some viewUser)
        (query .viewUse) = true := by decide
    have anywhere : register.lookup.isAuthorized (some viewUser)
        { query .viewUse with resourceId := none } = true := by decide
    obtain ⟨id, grantedThere, actor, present, direct⟩ :=
      (laws viewUser).somewhere anywhere
    cases present
    exact ⟨granted, (laws viewUser).untyped granted, anywhere, id,
      grantedThere, direct⟩
  case administrator =>
    have granted : register.lookup.isAuthorized (some administrator)
        (query .viewUse) = true := by decide
    have administrative : ∀ actor ∈ some administrator,
        ∀ privilege ∈ actor.privileges,
          privilege.resource.type = .ok .admin := by
      intro actor present privilege member
      cases present
      obtain rfl := List.mem_singleton.mp member
      exact ResourceType.ofName_name .admin
    refine ⟨granted, ?_⟩
    intro type id
    exact ((laws administrator).administrative administrative type _ id _).trans
      granted

end SharedView

end AccessControl
