import AccessControl.Text
import AccessControl.UnknownName

/-!
# Authorizations

An authorization is a fine-grained capability.  The store and callers write it
as an id such as `CLUSTER.VIEW_METRICS`: the area it belongs to, a point, and
what may be done there.  The order of the constructors is the order in which
sets of authorizations are listed.
-/

namespace AccessControl

/-- A capability that a permission may carry. -/
inductive Authorization where
  | adminAddDeleteClusters
  | adminAssignRoles
  | adminEditStackRepos
  | adminManageGroups
  | adminManageSettings
  | adminManageUsers
  | adminManageViews
  | adminRenameCluster
  | adminRunCustomCommand
  | adminViewStatusInfo
  | clusterManageAlerts
  | clusterManageConfigGroups
  | clusterManageCredentials
  | clusterManageUserPersistedData
  | clusterModifyConfigs
  | clusterRunCustomCommand
  | clusterToggleAlerts
  | clusterToggleKerberos
  | clusterUpgradeDowngradeStack
  | clusterViewAlerts
  | clusterViewConfigs
  | clusterViewMetrics
  | clusterViewStackDetails
  | clusterViewStatusInfo
  | hostAddDeleteComponents
  | hostAddDeleteHosts
  | hostToggleMaintenance
  | hostViewConfigs
  | hostViewMetrics
  | hostViewStatusInfo
  | serviceAddDeleteServices
  | serviceCompareConfigs
  | serviceDecommissionRecommission
  | serviceManageAlerts
  | serviceManageConfigGroups
  | serviceModifyConfigs
  | serviceMove
  | serviceRunCustomCommand
  | serviceRunServiceCheck
  | serviceStartStop
  | serviceToggleAlerts
  | serviceToggleMaintenance
  | serviceViewAlerts
  | serviceViewConfigs
  | serviceViewMetrics
  | serviceViewOperationalLogs
  | serviceViewStatusInfo
  | viewUse
deriving DecidableEq, Repr

namespace Authorization

/-- Every authorization, in order. -/
def all : List Authorization :=
  [
    .adminAddDeleteClusters,
    .adminAssignRoles,
    .adminEditStackRepos,
    .adminManageGroups,
    .adminManageSettings,
    .adminManageUsers,
    .adminManageViews,
    .adminRenameCluster,
    .adminRunCustomCommand,
    .adminViewStatusInfo,
    .clusterManageAlerts,
    .clusterManageConfigGroups,
    .clusterManageCredentials,
    .clusterManageUserPersistedData,
    .clusterModifyConfigs,
    .clusterRunCustomCommand,
    .clusterToggleAlerts,
    .clusterToggleKerberos,
    .clusterUpgradeDowngradeStack,
    .clusterViewAlerts,
    .clusterViewConfigs,
    .clusterViewMetrics,
    .clusterViewStackDetails,
    .clusterViewStatusInfo,
    .hostAddDeleteComponents,
    .hostAddDeleteHosts,
    .hostToggleMaintenance,
    .hostViewConfigs,
    .hostViewMetrics,
    .hostViewStatusInfo,
    .serviceAddDeleteServices,
    .serviceCompareConfigs,
    .serviceDecommissionRecommission,
    .serviceManageAlerts,
    .serviceManageConfigGroups,
    .serviceModifyConfigs,
    .serviceMove,
    .serviceRunCustomCommand,
    .serviceRunServiceCheck,
    .serviceStartStop,
    .serviceToggleAlerts,
    .serviceToggleMaintenance,
    .serviceViewAlerts,
    .serviceViewConfigs,
    .serviceViewMetrics,
    .serviceViewOperationalLogs,
    .serviceViewStatusInfo,
    .viewUse
  ]

/-- The id under which the store keeps an authorization. -/
def id : Authorization → String
  | .adminAddDeleteClusters => "AMBARI.ADD_DELETE_CLUSTERS"
  | .adminAssignRoles => "AMBARI.ASSIGN_ROLES"
  | .adminEditStackRepos => "AMBARI.EDIT_STACK_REPOS"
  | .adminManageGroups => "AMBARI.MANAGE_GROUPS"
  | .adminManageSettings => "AMBARI.MANAGE_SETTINGS"
  | .adminManageUsers => "AMBARI.MANAGE_USERS"
  | .adminManageViews => "AMBARI.MANAGE_VIEWS"
  | .adminRenameCluster => "AMBARI.RENAME_CLUSTER"
  | .adminRunCustomCommand => "AMBARI.RUN_CUSTOM_COMMAND"
  | .adminViewStatusInfo => "AMBARI.VIEW_STATUS_INFO"
  | .clusterManageAlerts => "CLUSTER.MANAGE_ALERTS"
  | .clusterManageConfigGroups => "CLUSTER.MANAGE_CONFIG_GROUPS"
  | .clusterManageCredentials => "CLUSTER.MANAGE_CREDENTIALS"
  | .clusterManageUserPersistedData => "CLUSTER.MANAGE_USER_PERSISTED_DATA"
  | .clusterModifyConfigs => "CLUSTER.MODIFY_CONFIGS"
  | .clusterRunCustomCommand => "CLUSTER.RUN_CUSTOM_COMMAND"
  | .clusterToggleAlerts => "CLUSTER.TOGGLE_ALERTS"
  | .clusterToggleKerberos => "CLUSTER.TOGGLE_KERBEROS"
  | .clusterUpgradeDowngradeStack => "CLUSTER.UPGRADE_DOWNGRADE_STACK"
  | .clusterViewAlerts => "CLUSTER.VIEW_ALERTS"
  | .clusterViewConfigs => "CLUSTER.VIEW_CONFIGS"
  | .clusterViewMetrics => "CLUSTER.VIEW_METRICS"
  | .clusterViewStackDetails => "CLUSTER.VIEW_STACK_DETAILS"
  | .clusterViewStatusInfo => "CLUSTER.VIEW_STATUS_INFO"
  | .hostAddDeleteComponents => "HOST.ADD_DELETE_COMPONENTS"
  | .hostAddDeleteHosts => "HOST.ADD_DELETE_HOSTS"
  | .hostToggleMaintenance => "HOST.TOGGLE_MAINTENANCE"
  | .hostViewConfigs => "HOST.VIEW_CONFIGS"
  | .hostViewMetrics => "HOST.VIEW_METRICS"
  | .hostViewStatusInfo => "HOST.VIEW_STATUS_INFO"
  | .serviceAddDeleteServices => "SERVICE.ADD_DELETE_SERVICES"
  | .serviceCompareConfigs => "SERVICE.COMPARE_CONFIGS"
  | .serviceDecommissionRecommission => "SERVICE.DECOMMISSION_RECOMMISSION"
  | .serviceManageAlerts => "SERVICE.MANAGE_ALERTS"
  | .serviceManageConfigGroups => "SERVICE.MANAGE_CONFIG_GROUPS"
  | .serviceModifyConfigs => "SERVICE.MODIFY_CONFIGS"
  | .serviceMove => "SERVICE.MOVE"
  | .serviceRunCustomCommand => "SERVICE.RUN_CUSTOM_COMMAND"
  | .serviceRunServiceCheck => "SERVICE.RUN_SERVICE_CHECK"
  | .serviceStartStop => "SERVICE.START_STOP"
  | .serviceToggleAlerts => "SERVICE.TOGGLE_ALERTS"
  | .serviceToggleMaintenance => "SERVICE.TOGGLE_MAINTENANCE"
  | .serviceViewAlerts => "SERVICE.VIEW_ALERTS"
  | .serviceViewConfigs => "SERVICE.VIEW_CONFIGS"
  | .serviceViewMetrics => "SERVICE.VIEW_METRICS"
  | .serviceViewOperationalLogs => "SERVICE.VIEW_OPERATIONAL_LOGS"
  | .serviceViewStatusInfo => "SERVICE.VIEW_STATUS_INFO"
  | .viewUse => "VIEW.USE"

/-- The authorization with a given id.  Blanks around the id and the case of
ASCII letters do not matter. -/
def ofId (text : String) : Except UnknownName Authorization :=
  let spelling := Text.canonical text
  match all.find? fun authorization => authorization.id == spelling with
  | some authorization => .ok authorization
  | none => .error (.authorization text)

theorem mem_all (authorization : Authorization) : authorization ∈ all := by
  cases authorization <;> simp [all]

end Authorization

/-- A set of authorizations, kept as the sublist of `Authorization.all` that
holds its members: two sets with the same members are equal. -/
structure AuthorizationSet where
  toList : List Authorization
  ordered : toList = Authorization.all.filter fun member => toList.contains member

namespace AuthorizationSet

/-- The set of the authorizations in a list. -/
def ofList (members : List Authorization) : AuthorizationSet where
  toList := Authorization.all.filter fun member => members.contains member
  ordered := by
    apply List.filter_congr
    intro member listed
    simp [listed]

/-- The set without members. -/
def empty : AuthorizationSet :=
  ofList []

/-- Whether the set has no members. -/
def isEmpty (set : AuthorizationSet) : Bool :=
  set.toList.isEmpty

/-- Whether an authorization is in the set. -/
def contains (set : AuthorizationSet) (authorization : Authorization) : Bool :=
  set.toList.contains authorization

/-- The member that comes last in the order of authorizations. -/
def greatest? (set : AuthorizationSet) : Option Authorization :=
  set.toList.getLast?

@[simp]
theorem contains_ofList (members : List Authorization)
    (authorization : Authorization) :
    (ofList members).contains authorization = members.contains authorization := by
  simp [contains, ofList, Authorization.mem_all]

/-- A set is determined by its members. -/
theorem eq_of_contains {left right : AuthorizationSet}
    (same : ∀ authorization,
      left.contains authorization = right.contains authorization) :
    left = right := by
  obtain ⟨members, ordered⟩ := left
  obtain ⟨others, ordered'⟩ := right
  have equal : members = others := by
    rw [ordered, ordered']
    exact List.filter_congr fun member _ => same member
  subst equal
  rfl

end AuthorizationSet

end AccessControl
