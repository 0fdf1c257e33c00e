import AccessControl.Authorization
import AccessControl.ResourceType

/-!
# Privileges and those who hold them

A privilege grants one permission to one holder over one resource.  Type names
and authorization ids stay the raw texts of the store until a decision asks
for their meaning, so that a name the catalog does not know is not lost.
-/

namespace AccessControl

/-- A resource named by its type and its id. -/
structure ResourceRef where
  type : ResourceType
  id : Int64
deriving DecidableEq, Repr

/-- An authorization as a permission records it: the id decides, the name is
shown. -/
structure Entitlement where
  id : String
  name : String
deriving DecidableEq, Repr

/-- The record of an authorization of the catalog, shown under its own id. -/
def Authorization.entitlement (authorization : Authorization) : Entitlement where
  id := authorization.id
  name := authorization.id

/-- A named list of recorded authorizations. -/
structure Permission where
  id : Int64
  name : String
  entitlements : List Entitlement := []
deriving DecidableEq, Repr

/-- The permission with one more recorded authorization, after the others. -/
def Permission.adding (permission : Permission) (entitlement : Entitlement) :
    Permission :=
  { permission with entitlements := permission.entitlements ++ [entitlement] }

/-- A resource as the store records it. -/
structure Resource where
  id : Int64
  typeName : String
deriving DecidableEq, Repr

/-- The type that the resource's type name stands for. -/
def Resource.type (resource : Resource) : Except UnknownName ResourceType :=
  ResourceType.ofName resource.typeName

/-- The record of a named resource. -/
def ResourceRef.resource (target : ResourceRef) : Resource where
  id := target.id
  typeName := target.type.name

/-- A principal that privileges are granted to, as the store records it. -/
structure Holder where
  id : Int64
  typeName : String
deriving DecidableEq, Repr

namespace Holder

/-- A holder whose type name starts with this mark stands for everyone who
holds the permission named after it on the owning cluster. -/
def inheritanceMark : List Char :=
  "ALL.".toList

/-- The name of the cluster permission that the holder stands for. -/
def inheritedPermission? (holder : Holder) : Option String :=
  if inheritanceMark.isPrefixOf holder.typeName.toList then
    let name := holder.typeName.toList.drop inheritanceMark.length
    if name.isEmpty then none else some (String.ofList name)
  else
    none

end Holder

/-- One permission granted to one holder over one resource. -/
structure Privilege where
  id : Int64
  holder : Holder
  resource : Resource
  permission : Permission
deriving DecidableEq, Repr

/-- The authenticated actor of a request with the privileges it holds. -/
structure Caller where
  name : String
  privileges : List Privilege
deriving DecidableEq, Repr

namespace Caller

/-- The list without the later copies of an equal privilege. -/
def distinct : List Privilege → List Privilege
  | [] => []
  | privilege :: later =>
      privilege :: (distinct later).filter fun other => other != privilege

@[simp]
theorem mem_distinct {privilege : Privilege} {privileges : List Privilege} :
    privilege ∈ distinct privileges ↔ privilege ∈ privileges := by
  induction privileges with
  | nil => simp [distinct]
  | cons first later induction =>
      by_cases equal : privilege = first <;> simp [distinct, induction, equal]

theorem distinct_nodup (privileges : List Privilege) :
    (distinct privileges).Nodup := by
  induction privileges with
  | nil => simp [distinct]
  | cons first later induction =>
      simp only [distinct, List.nodup_cons, List.mem_filter, bne_self_eq_false,
        Bool.false_eq_true, and_false, not_false_eq_true, true_and]
      exact induction.filter _

/-- The caller who holds the given privileges, equal ones once. -/
def holding (name : String) (privileges : List Privilege) : Caller where
  name := name
  privileges := distinct privileges

/-- Whether the caller holds any privilege. -/
def hasPrivileges (caller : Caller) : Bool :=
  !caller.privileges.isEmpty

/-- The display names of all recorded authorizations, privilege by privilege,
repetitions included. -/
def authorizationNames (caller : Caller) : List String :=
  caller.privileges.flatMap fun privilege =>
    privilege.permission.entitlements.map Entitlement.name

/-- The name of the current caller, or a default when there is none. -/
def nameOr? (caller : Option Caller) (fallback : Option String) :
    Option String :=
  (caller.map Caller.name).or fallback

/-- The name under which requests without a caller are recorded. -/
def anonymous : String :=
  "anonymous"

/-- The name under which a request is recorded. -/
def displayName (caller : Option Caller) : String :=
  (nameOr? caller (some anonymous)).getD anonymous

end Caller

end AccessControl
