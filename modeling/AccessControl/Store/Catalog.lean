import AccessControl.Store.Statement

/-!
# The built-in catalog

A new store is filled with the resource types, the administrative resource,
the principal types, the authorizations and the permissions that every
installation has.  `Catalog.filling` adds them row by row, `Catalog.clearing`
removes them table by table.
-/

namespace AccessControl.Store.Catalog

/-- The built-in resource types. -/
def resourceTypes : List ResourceTypeRow :=
  [⟨1, "AMBARI"⟩, ⟨2, "CLUSTER"⟩, ⟨3, "VIEW"⟩]

/-- The administrative root, on which privileges over everything are
granted. -/
def adminResource : ResourceRow :=
  ⟨1, 1⟩

/-- The built-in principal types.  A type named with the inheritance mark
stands for every holder of the permission named after the mark. -/
def principalTypes : List PrincipalTypeRow :=
  [⟨1, "USER"⟩, ⟨2, "GROUP"⟩, ⟨3, "ALL.CLUSTER.ADMINISTRATOR"⟩,
    ⟨4, "ALL.CLUSTER.OPERATOR"⟩, ⟨5, "ALL.SERVICE.OPERATOR"⟩,
    ⟨6, "ALL.SERVICE.ADMINISTRATOR"⟩, ⟨7, "ALL.CLUSTER.USER"⟩, ⟨8, "ROLE"⟩]

/-- The principal types that stand for the holders of a permission. -/
def isInheritingType (id : Int32) : Bool :=
  3 ≤ id && id ≤ 7

/-- The one principal of each type that stands for the holders of a
permission; its id is that of the type. -/
def inheritingPrincipals : List PrincipalRow :=
  [⟨3, 3⟩, ⟨4, 4⟩, ⟨5, 5⟩, ⟨6, 6⟩, ⟨7, 7⟩]

/-- The built-in authorizations with the names under which they are shown. -/
def authorizations : List AuthorizationRow :=
  [⟨"AMBARI.ADD_DELETE_CLUSTERS", "Create new clusters"⟩,
    ⟨"AMBARI.ASSIGN_ROLES", "Assign roles"⟩,
    ⟨"AMBARI.MANAGE_GROUPS", "Manage groups"⟩,
    ⟨"AMBARI.MANAGE_SETTINGS", "Manage settings"⟩,
    ⟨"AMBARI.MANAGE_USERS", "Manage users"⟩,
    ⟨"AMBARI.MANAGE_VIEWS", "Manage Ambari Views"⟩,
    ⟨"AMBARI.RENAME_CLUSTER", "Rename clusters"⟩,
    ⟨"CLUSTER.MANAGE_ALERTS", "Manage cluster-level alerts"⟩,
    ⟨"CLUSTER.MANAGE_CONFIG_GROUPS", "Manage cluster config groups"⟩,
    ⟨"CLUSTER.MODIFY_CONFIGS", "Modify cluster configurations"⟩,
    ⟨"CLUSTER.TOGGLE_KERBEROS", "Enable/disable Kerberos"⟩,
    ⟨"CLUSTER.VIEW_ALERTS", "View cluster-level alerts"⟩,
    ⟨"CLUSTER.VIEW_CONFIGS", "View configuration"⟩,
    ⟨"CLUSTER.VIEW_METRICS", "View metrics"⟩,
    ⟨"CLUSTER.VIEW_STATUS_INFO", "View status information"⟩,
    ⟨"SERVICE.RUN_SERVICE_CHECK", "Run service checks"⟩,
    ⟨"SERVICE.START_STOP", "Start/Stop/Restart Service"⟩,
    ⟨"SERVICE.VIEW_CONFIGS", "View configurations"⟩,
    ⟨"SERVICE.VIEW_METRICS", "View metrics"⟩,
    ⟨"VIEW.USE", "Use View"⟩]

/-- The built-in permissions. -/
def permissions : List PermissionRow :=
  [⟨1, "AMBARI.ADMINISTRATOR", 1, some "Ambari Administrator"⟩,
    ⟨2, "CLUSTER.USER", 2, some "Cluster User"⟩,
    ⟨3, "CLUSTER.ADMINISTRATOR", 2, some "Cluster Administrator"⟩,
    ⟨4, "VIEW.USER", 3, some "View User"⟩,
    ⟨5, "CLUSTER.OPERATOR", 2, some "Cluster Operator"⟩,
    ⟨6, "SERVICE.OPERATOR", 2, some "Service Operator"⟩,
    ⟨7, "SERVICE.ADMINISTRATOR", 2, some "Service Administrator"⟩]

/-- What every user of a cluster may do. -/
def clusterUse : List String :=
  ["CLUSTER.VIEW_ALERTS", "CLUSTER.VIEW_CONFIGS", "CLUSTER.VIEW_METRICS",
    "CLUSTER.VIEW_STATUS_INFO", "SERVICE.VIEW_CONFIGS", "SERVICE.VIEW_METRICS"]

/-- What the operator of a service may do besides. -/
def serviceOperation : List String :=
  ["SERVICE.RUN_SERVICE_CHECK", "SERVICE.START_STOP"]

/-- What the operator of a cluster may do besides. -/
def clusterOperation : List String :=
  ["CLUSTER.MANAGE_CONFIG_GROUPS", "CLUSTER.MODIFY_CONFIGS",
    "CLUSTER.MANAGE_ALERTS"]

/-- What the administrator of a cluster may do besides. -/
def clusterAdministration : List String :=
  ["CLUSTER.TOGGLE_KERBEROS"]

/-- The ids of the authorizations that a built-in permission carries. -/
def carried (permission : Int64) : List String :=
  if permission = 1 then authorizations.map AuthorizationRow.id
  else if permission = 2 then clusterUse
  else if permission = 3 then
    clusterUse ++ serviceOperation ++ clusterOperation ++ clusterAdministration
  else if permission = 4 then ["VIEW.USE"]
  else if permission = 5 ∨ permission = 7 then
    clusterUse ++ serviceOperation ++ clusterOperation
  else if permission = 6 then clusterUse ++ serviceOperation
  else []

/-- The statements that fill a new store, one row each. -/
def filling : List Statement :=
  resourceTypes.map (fun row => .insert .resourceType [row]) ++
    [.insert .resource [adminResource]] ++
    principalTypes.map (fun row => .insert .principalType [row]) ++
    inheritingPrincipals.map (fun row => .insert .principal [row]) ++
    authorizations.map (fun row => .insert .authorization [row]) ++
    permissions.flatMap fun row =>
      .insert .permission [row] ::
        (carried row.id).map fun authorization =>
          .insert .permissionAuthorization [⟨row.id, authorization⟩]

/-- The statements that clear a store of the built-in catalog. -/
def clearing : List Statement :=
  [.deleteWhere .permissionAuthorization fun _ => true,
    .deleteWhere .permission fun _ => true,
    .deleteWhere .authorization fun _ => true,
    .deleteWhere .principal fun row => isInheritingType row.typeId,
    .deleteWhere .principalType fun _ => true,
    .deleteWhere .resource fun row => row.id == adminResource.id,
    .deleteWhere .resourceType fun _ => true]

end AccessControl.Store.Catalog
