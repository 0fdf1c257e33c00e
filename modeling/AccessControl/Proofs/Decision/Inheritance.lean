import AccessControl.Proofs.Decision.Meaning

/-!
# What an inherited grant rests on

The inherited pass compares names.  It asks which cluster owns the resource,
but lets through whoever holds a permission of an inherited name on any
cluster, and it looks neither at the queried type nor at the required
authorizations.  The theorems below say what a grant still guarantees, and two
small records show that it guarantees no more.
-/

namespace AccessControl

namespace PrivilegeLookup

/-- Opening a resource grants every query for it. -/
theorem isAuthorized_of_opens {lookup : PrivilegeLookup} {id : Int64}
    {caller : Caller} (opened : lookup.Opens id caller.privileges)
    {query : Query} (queried : query.resourceId = some id) :
    lookup.isAuthorized (some caller) query = true := by
  cases required : query.required.isEmpty with
  | true => exact lookup.isAuthorized_of_required_isEmpty (some caller) required
  | false =>
      apply (lookup.isAuthorized_some_iff caller required).mpr
      exact .inr ⟨id, queried, opened⟩

end PrivilegeLookup

/-! ## A view that a cluster owns -/

namespace SharedView

/-- Cluster 10 owns the view under 20.  The only record of the view lets
`CLUSTER.USER` inherit a permission to use it. -/
def register : PrivilegeRegister where
  views := [(20, some ⟨.cluster, 10⟩)]
  privileges :=
    [{ id := 900
       holder := ⟨50, "ALL.CLUSTER.USER"⟩
       resource := ⟨20, "VIEW"⟩
       permission :=
        { id := 4
          name := "VIEW.USER"
          entitlements := [Authorization.viewUse.entitlement] } }]

/-- A caller who holds `CLUSTER.USER` on one cluster and nothing else. -/
def clusterUser (cluster : Int64) : Caller where
  name := "alice"
  privileges :=
    [{ id := 1
       holder := ⟨100, "USER"⟩
       resource := ⟨cluster, "CLUSTER"⟩
       permission :=
        { id := 2
          name := "CLUSTER.USER"
          entitlements := [Authorization.clusterViewMetrics.entitlement] } }]

/-- Whether one authorization is held on the view. -/
def query (authorization : Authorization) : Query where
  resourceType := some .view
  resourceId := some 20
  required := .ofList [authorization]

/-- A privilege on a cluster does not reach the view by itself. -/
theorem not_settledBy_clusterUser (cluster : Int64)
    (authorization : Authorization) :
    ¬ (query authorization).SettledBy (clusterUser cluster).privileges := by
  rintro ⟨privilege, member, covers, _⟩
  have typed : privilege.resource.type = .ok .cluster := by
    obtain rfl := List.mem_singleton.mp member
    exact ResourceType.ofName_name .cluster
  rcases covers with root | ⟨sameType, _⟩
  · rw [typed] at root
    cases root
  · have view := sameType .view rfl
    rw [typed] at view
    cases view

end SharedView

/-! ## Authorizations -/

/-- A grant is carried by a privilege that covers the query, or it is
inherited: the resource records that a permission is inherited which the
caller holds on a cluster.  An inherited grant is one of every query for that
resource, whatever the query requires. -/
theorem PrivilegeLookup.carried_or_inherited_of_granted
    (lookup : PrivilegeLookup) (caller : Option Caller) (query : Query)
    (required : query.required.isEmpty = false)
    (granted : lookup.isAuthorized caller query = true) :
    (∃ actor ∈ caller, query.SettledBy actor.privileges) ∨
      ∃ actor ∈ caller, ∃ id ∈ query.resourceId, ∃ recorded,
        (lookup.recordedPrivileges id).value = .ok recorded ∧
          (∃ entry ∈ recorded, ∃ permission,
            entry.holder.StandsFor permission ∧
              HeldOnCluster permission actor.privileges) ∧
            ∀ other : Query, other.resourceId = some id →
              lookup.isAuthorized caller other = true := by
  cases caller with
  | none => simp [lookup.isAuthorized_none required] at granted
  | some actor =>
      rcases (lookup.isAuthorized_some_iff actor required).mp granted with
        settled | ⟨id, queried, opened⟩
      · exact .inl ⟨actor, rfl, settled⟩
      · have everything : ∀ other : Query, other.resourceId = some id →
            lookup.isAuthorized (some actor) other = true :=
          fun other sameId => isAuthorized_of_opens opened sameId
        obtain ⟨_, recorded, _, answer, permission,
          ⟨entry, member, standing⟩, held⟩ := opened
        exact .inr ⟨actor, rfl, id, queried, recorded, answer,
          ⟨entry, member, permission, standing, held⟩, everything⟩

/-- Whoever uses the view through the cluster may do anything with it. -/
theorem SharedView.clusterUser_granted_everything :
    (query .viewUse).required.isEmpty = false ∧
      register.lookup.isAuthorized (some (clusterUser 10)) (query .viewUse) =
        true ∧
      ∀ other : Query, other.resourceId = some 20 →
        register.lookup.isAuthorized (some (clusterUser 10)) other = true := by
  have required : (query .viewUse).required.isEmpty = false := by decide
  have granted : register.lookup.isAuthorized (some (clusterUser 10))
      (query .viewUse) = true := by decide
  refine ⟨required, granted, ?_⟩
  rcases register.lookup.carried_or_inherited_of_granted _ _ required granted
    with ⟨actor, present, settled⟩ | ⟨actor, present, id, queried, inherited⟩
  · cases present
    exact absurd settled (not_settledBy_clusterUser _ _)
  · cases present
    cases queried
    obtain ⟨_, _, _, everything⟩ := inherited
    exact everything

/-- What is granted need not be carried by a privilege of the caller, nor by
the record that lets the caller in. -/
theorem SharedView.granted_without_carrying :
    ¬ ∀ (lookup : PrivilegeLookup) (caller : Option Caller) (query : Query),
      query.required.isEmpty = false →
        lookup.isAuthorized caller query = true →
          (∃ actor ∈ caller, query.SettledBy actor.privileges) ∨
            ∃ actor ∈ caller, ∃ id ∈ query.resourceId, ∃ recorded,
              (lookup.recordedPrivileges id).value = .ok recorded ∧
                ∃ entry ∈ recorded,
                  entry.permission.Carries query.required ∧
                    ∃ permission, entry.holder.StandsFor permission ∧
                      HeldOnCluster permission actor.privileges := by
  intro carrying
  rcases carrying register.lookup (some (clusterUser 10))
      (query .adminManageUsers) (by decide) (by decide) with
    ⟨actor, present, settled⟩ |
      ⟨actor, present, id, queried, recorded, answer, entry, member, carried, _⟩
  · cases present
    exact absurd settled (not_settledBy_clusterUser _ _)
  · cases queried
    cases answer
    have only : entry = register.privileges.head (by decide) := by
      simpa [register, PrivilegeRegister.recordedPrivileges] using member
    subst only
    have scan := (Query.scanEntitlements_iff _ 900 _).mpr carried
    exact absurd scan (by decide)

/-! ## Clusters -/

/-- A grant that no privilege of the caller settles comes from a permission on
a cluster.  The resource must be a view that some cluster owns and must record
that the permission is inherited.  The cluster of the permission is any: all
who hold a permission of that name on some cluster are granted the query. -/
theorem PrivilegeLookup.held_on_some_cluster_of_granted
    (lookup : PrivilegeLookup) (caller : Caller) (query : Query) (id : Int64)
    (queried : query.resourceId = some id)
    (required : query.required.isEmpty = false)
    (granted : lookup.isAuthorized (some caller) query = true)
    (unsettled : ¬ query.SettledBy caller.privileges) :
    ∃ cluster recorded,
      (lookup.owningCluster id).value = .ok (some cluster) ∧
        (lookup.recordedPrivileges id).value = .ok recorded ∧
          ∃ held ∈ caller.privileges,
            held.resource.type = .ok .cluster ∧
              (∃ entry ∈ recorded,
                entry.holder.StandsFor held.permission.name) ∧
                ∀ other : Caller,
                  HeldOnCluster held.permission.name other.privileges →
                    lookup.isAuthorized (some other) query = true := by
  rcases (lookup.isAuthorized_some_iff caller required).mp granted with
    settled | ⟨openedId, openedQueried, opened⟩
  · exact absurd settled unsettled
  · obtain rfl : id = openedId := by
      simpa [queried] using openedQueried
    obtain ⟨cluster, recorded, binding, answer, permission, standing,
      held, member, onCluster, rfl⟩ := opened
    refine ⟨cluster, recorded, binding, answer, held, member, onCluster,
      standing, ?_⟩
    intro other otherHeld
    exact isAuthorized_of_opens
      ⟨cluster, recorded, binding, answer, held.permission.name, standing,
        otherHeld⟩ queried

/-- The user of another cluster opens the view, and so does everyone like
that user. -/
theorem SharedView.stranger_granted :
    register.lookup.isAuthorized (some (clusterUser 11)) (query .viewUse) =
        true ∧
      ¬ (query .viewUse).SettledBy (clusterUser 11).privileges ∧
        ∀ other : Caller, HeldOnCluster "CLUSTER.USER" other.privileges →
          register.lookup.isAuthorized (some other) (query .viewUse) = true := by
  have granted : register.lookup.isAuthorized (some (clusterUser 11))
      (query .viewUse) = true := by decide
  have unsettled := not_settledBy_clusterUser 11 .viewUse
  refine ⟨granted, unsettled, ?_⟩
  obtain ⟨_, _, _, _, held, member, _, _, everyone⟩ :=
    register.lookup.held_on_some_cluster_of_granted _ _ 20 rfl (by decide)
      granted unsettled
  have only : held = (clusterUser 11).privileges.head (by decide) := by
    simpa [clusterUser] using member
  subst only
  exact everyone

/-- The cluster on which an inherited permission is held need not be the one
that owns the view. -/
theorem SharedView.granted_across_clusters :
    ¬ ∀ (lookup : PrivilegeLookup) (caller : Caller) (query : Query)
        (id : Int64),
      query.resourceId = some id →
        query.required.isEmpty = false →
          lookup.isAuthorized (some caller) query = true →
            ¬ query.SettledBy caller.privileges →
              ∃ cluster recorded,
                (lookup.owningCluster id).value = .ok (some cluster) ∧
                  (lookup.recordedPrivileges id).value = .ok recorded ∧
                    ∃ held ∈ caller.privileges,
                      held.resource.type = .ok .cluster ∧
                        held.resource.id = cluster.id ∧
                          ∃ entry ∈ recorded,
                            entry.holder.StandsFor held.permission.name := by
  intro confined
  have unsettled := not_settledBy_clusterUser 11 .viewUse
  obtain ⟨cluster, recorded, binding, _, held, member, _, same, _⟩ :=
    confined register.lookup (clusterUser 11) (query .viewUse) 20 rfl
      (by decide) (by decide) unsettled
  have owner : cluster = ⟨.cluster, 10⟩ := by
    cases binding
    rfl
  have only : held = (clusterUser 11).privileges.head (by decide) := by
    simpa [clusterUser] using member
  subst owner only
  exact absurd same (by decide)

end AccessControl
