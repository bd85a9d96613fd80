import Mathlib.Data.Finset.Dedup
import Mathlib.Data.Fintype.Defs
import CyberNetizen.Domain.Channel

namespace CyberNetizen.Domain

inductive EntityStatus
  | active | disabled
  deriving DecidableEq

inductive AgentLifecycleStatus
  | active | disabled | archived | deleted
  deriving DecidableEq

inductive AdminRole
  | admin | operator | viewer
  deriving DecidableEq

/-- `AdminRole(value)`. -/
def AdminRole.ofValue? : String → Option AdminRole
  | "admin" => some .admin
  | "operator" => some .operator
  | "viewer" => some .viewer
  | _ => none

inductive IdentityGovernanceSource
  | oidc | development | manual
  deriving DecidableEq

inductive AdminPermission
  | dashboardRead | configurationRead | configurationWrite | secretManage | conversationRead
  | conversationUse | accessControlRead | agentRead | agentWrite | cognitionRead | cognitionWrite
  | cognitionEvaluate | evaluationReview | evaluationApprove | memoryRead | memoryWrite
  | memoryRebuild | taskRead | taskManage | proactiveManage | channelRead | channelWrite
  | channelSend | channelCredentialManage | channelAlertManage | channelNotificationManage
  | observabilityAlertManage | integrationRead | integrationManage | inboxReplay | traceRead
  | userRead | userWrite | userRoleWrite | auditRead | dataLifecycleRead | dataExport | dataForget
  | dataRetentionManage | backupDrillRecord
  deriving DecidableEq

instance : Fintype AdminPermission where
  elems := List.toFinset
    [.dashboardRead, .configurationRead, .configurationWrite, .secretManage, .conversationRead,
      .conversationUse, .accessControlRead, .agentRead, .agentWrite, .cognitionRead,
      .cognitionWrite, .cognitionEvaluate, .evaluationReview, .evaluationApprove, .memoryRead,
      .memoryWrite, .memoryRebuild, .taskRead, .taskManage, .proactiveManage, .channelRead,
      .channelWrite, .channelSend, .channelCredentialManage, .channelAlertManage,
      .channelNotificationManage, .observabilityAlertManage, .integrationRead, .integrationManage,
      .inboxReplay, .traceRead, .userRead, .userWrite, .userRoleWrite, .auditRead,
      .dataLifecycleRead, .dataExport, .dataForget, .dataRetentionManage, .backupDrillRecord]
  complete p := by cases p <;> decide

structure AdminPrincipal where
  tenantId : UUID
  userId : UUID
  displayName : String
  role : AdminRole
  permissions : Finset AdminPermission
  authenticationMode : String
  deriving DecidableEq

end CyberNetizen.Domain

namespace CyberNetizen.Application

open Domain

/-- `_ROLE_PERMISSIONS` -/
def permissionsForRole : AdminRole → Finset AdminPermission
  | .admin => Finset.univ
  | .operator => List.toFinset [
      .dashboardRead, .configurationRead, .configurationWrite, .conversationRead,
      .conversationUse, .accessControlRead, .agentRead, .agentWrite, .cognitionRead,
      .cognitionWrite, .cognitionEvaluate, .evaluationReview, .memoryRead, .memoryWrite,
      .memoryRebuild, .taskRead, .taskManage, .proactiveManage, .channelRead, .channelWrite,
      .channelSend, .channelAlertManage, .channelNotificationManage, .observabilityAlertManage,
      .integrationRead, .integrationManage, .inboxReplay, .traceRead, .userRead, .userWrite,
      .auditRead, .dataLifecycleRead, .dataExport]
  | .viewer => List.toFinset [
      .dashboardRead, .configurationRead, .conversationRead, .accessControlRead, .agentRead,
      .cognitionRead, .evaluationReview, .memoryRead, .taskRead, .channelRead, .integrationRead,
      .traceRead, .userRead, .auditRead, .dataLifecycleRead]

def withRole (p : AdminPrincipal) (role : AdminRole) : AdminPrincipal :=
  { p with role, permissions := permissionsForRole role }

end CyberNetizen.Application
