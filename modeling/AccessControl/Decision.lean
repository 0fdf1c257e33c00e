import AccessControl.Lookup

/-!
# Decisions

A query asks whether a caller holds one of several authorizations, on
resources of a given type or any, with a given id or any.

The direct pass reads the caller's own privileges: one that covers the queried
resource and whose permission records a required authorization settles the
query.  When none does and a resource id was given, the resource may be a view
that a cluster owns.  The inherited pass then lets through a caller who holds,
on some cluster, a permission that a privilege recorded against the resource
names as inherited.  Only the second pass asks a `PrivilegeLookup`.
-/

namespace AccessControl

/-- A question about a caller's authority.  No type means any type, no id any
resource; one of the required authorizations is enough, and if none is
required everyone is authorized. -/
structure Query where
  resourceType : Option ResourceType
  resourceId : Option Int64
  required : AuthorizationSet

/-- A verdict with the questions asked and the events logged on the way. -/
structure Decision where
  granted : Bool
  calls : List LookupCall := []
  events : List Event := []

namespace Consulted

/-- The verdict of a consultation. -/
abbrev granted (consulted : Consulted Bool) : Bool :=
  consulted.value

/-- The decision that a consultation comes to. -/
def decision (consulted : Consulted Bool) : Decision where
  granted := consulted.granted
  calls := consulted.calls
  events := consulted.events

section

variable (consulted : Consulted Bool)

@[simp]
theorem granted_decision : consulted.decision.granted = consulted.value :=
  rfl

@[simp]
theorem calls_decision : consulted.decision.calls = consulted.calls :=
  rfl

@[simp]
theorem events_decision : consulted.decision.events = consulted.events :=
  rfl

end

end Consulted

/-- The type of a privilege's resource.  A type name that the catalog does not
know is logged and has no type. -/
def Privilege.knownType (privilege : Privilege) : Logged (Option ResourceType) :=
  match privilege.resource.type with
  | .ok type => pure (some type)
  | .error unknown => do
      Logged.emit (.unknownResourceType privilege.id unknown)
      pure none

namespace Query

/-- Whether a privilege on a resource of the given type reaches what is asked
about.  Privileges on the administrative root reach everything.  A resource
whose type is unknown is reached only by queries for any type. -/
def covers (query : Query) (type : Option ResourceType) (resource : Resource) :
    Bool :=
  type == some .admin ||
    ((query.resourceType.isNone || query.resourceType == type) &&
      (query.resourceId.isNone || query.resourceId == some resource.id))

/-- Look for a required authorization among the entitlements that one
privilege's permission records. -/
def scanEntitlements (required : AuthorizationSet) (privilege : Int64) :
    List Entitlement → Logged Bool
  | [] => pure false
  | entitlement :: later =>
      match Authorization.ofId entitlement.id with
      | .ok authorization =>
          if required.contains authorization then do
            Logged.emit (.grantedDirectly privilege authorization)
            pure true
          else
            scanEntitlements required privilege later
      | .error _ => do
          Logged.emit (.unknownAuthorization entitlement.id)
          scanEntitlements required privilege later

/-- Look for a privilege that settles the query by itself. -/
def directPass (query : Query) : List Privilege → Logged Bool
  | [] => pure false
  | privilege :: later => do
      let type ← privilege.knownType
      let found ←
        if query.covers type privilege.resource then
          scanEntitlements query.required privilege.id
            privilege.permission.entitlements
        else
          pure false
      if found then pure true else directPass query later

end Query

/-- The names of the cluster permissions that a list of recorded privileges
lets inherit. -/
def inheritedPermissions (recorded : List Privilege) : List String :=
  recorded.filterMap fun privilege => privilege.holder.inheritedPermission?

/-- Look for a privilege on a cluster whose permission is inherited. -/
def inheritedPass (resource cluster : Int64) (inherited : List String) :
    List Privilege → Logged Bool
  | [] => pure false
  | privilege :: later => do
      let type ← privilege.knownType
      if type == some .cluster && inherited.contains privilege.permission.name then do
        Logged.emit
          (.grantedByInheritance resource cluster privilege.permission.name)
        pure true
      else
        inheritedPass resource cluster inherited later

namespace PrivilegeLookup

/-- The verdict of the second pass for a resource id.  A failed question
denies. -/
def decideInherited (lookup : PrivilegeLookup) (held : List Privilege)
    (id : Int64) : Consulted Bool := do
  match ← lookup.ask (.owningCluster id) with
  | .error failure =>
      Logged.emit (.bindingLookupFailed id failure)
      pure false
  | .ok none => pure false
  | .ok (some cluster) =>
      match ← lookup.ask (.recordedPrivileges id) with
      | .error failure =>
          Logged.emit (.privilegeLookupFailed id failure)
          pure false
      | .ok recorded =>
          let inherited := inheritedPermissions recorded
          if inherited.isEmpty then
            pure false
          else
            inheritedPass id cluster.id inherited held

/-- Decide a query for a caller, or for nobody. -/
def decide (lookup : PrivilegeLookup) (caller : Option Caller) (query : Query) :
    Decision :=
  Consulted.decision <|
    if query.required.isEmpty then
      pure true
    else
      match caller with
      | none => pure false
      | some caller =>
          if caller.hasPrivileges then do
            let direct ← query.directPass caller.privileges
            match direct, query.resourceId with
            | false, some id => lookup.decideInherited caller.privileges id
            | granted, _ => pure granted
          else
            pure false

/-- Whether a query is granted. -/
def isAuthorized (lookup : PrivilegeLookup) (caller : Option Caller)
    (query : Query) : Bool :=
  (lookup.decide caller query).granted

/-- Whether a caller holds one authorization. -/
def isAuthorizedFor (lookup : PrivilegeLookup) (caller : Option Caller)
    (type : Option ResourceType) (id : Option Int64)
    (authorization : Authorization) : Bool :=
  lookup.isAuthorized caller
    { resourceType := type, resourceId := id
      required := .ofList [authorization] }

end PrivilegeLookup

/-- A denial, which deliberately does not say what was missing. -/
inductive AccessDenied where
  | denied
deriving DecidableEq, Repr

/-- The sentence of a denial. -/
def AccessDenied.message : AccessDenied → String
  | .denied => "access denied"

/-- The verdict of a decision as a success or a denial. -/
def Decision.verify (decision : Decision) : Except AccessDenied Unit :=
  if decision.granted then .ok () else .error .denied

end AccessControl
