import CyberNetizen.Application.AlertAggregates
import CyberNetizen.Application.Pagination
import CyberNetizen.Application.TaskService
import CyberNetizen.Infrastructure.AdministrationRepository
import CyberNetizen.Infrastructure.ConversationRepository

/-! # The listings that are read page by page -/

namespace CyberNetizen.Infrastructure

open Domain Application Pagination KeyedTable

/-- `(created_at, id)` or another time with an id, in the order of the listings. -/
abbrev ListingKey := Datetime ×ₗ ℕ

def entityKey (cursor : EntityCursor) : ListingKey := toLex (cursor.occurredAt, cursor.entityId)

def auditKey (cursor : AuditCursor) : ListingKey := toLex (cursor.occurredAt, cursor.recordId)

section administration

/-- `audit_logs`; a record of no tenant is shown to every one. -/
structure AuditLog where
  id : ℕ
  tenantId : Option UUID
  action : String
  resourceType : String
  resourceId : Option String
  createdAt : Datetime

def agentOrder (row : AgentRow) : ListingKey := toLex (row.createdAt, row.id)

def userOrder (row : UserRow) : ListingKey := toLex (row.createdAt, row.id)

def auditOrder (row : AuditLog) : ListingKey := toLex (row.createdAt, row.id)

-- `ilike` is how the database compares a pattern with a text.
variable (ilike : String → String → Bool)

def agentListed (tenantId : UUID) (search : Option String)
    (status : Option AgentLifecycleStatus) (row : AgentRow) : Bool :=
  row.tenantId = tenantId && search.all (fun search ↦ ilike s!"%{search}%" row.name) &&
    status.all (row.status = ·)

def listAgents (tenantId : UUID) (search : Option String) (status : Option AgentLifecycleStatus)
    (limit : ℕ) (cursor : Option EntityCursor) (agents : Table AgentRow.id) : List AgentRow :=
  Keyset.fetch agentOrder agents.rows (agentListed ilike tenantId search status)
    (cursor.map entityKey) limit

def userListed (tenantId : UUID) (search : Option String) (status : Option EntityStatus)
    (row : UserRow) : Bool :=
  row.tenantId = tenantId && search.all (fun search ↦ ilike s!"%{search}%" row.displayName) &&
    status.all (row.status = ·)

def listUsers (tenantId : UUID) (search : Option String) (status : Option EntityStatus)
    (limit : ℕ) (cursor : Option EntityCursor) (users : Table UserRow.id) : List UserRow :=
  Keyset.fetch userOrder users.rows (userListed ilike tenantId search status)
    (cursor.map entityKey) limit

def auditListed (tenantId : UUID) (search action resourceType resourceId : Option String)
    (row : AuditLog) : Bool :=
  row.tenantId.all (· = tenantId) &&
    search.all (fun search ↦ ilike s!"%{search}%" row.action ||
      ilike s!"%{search}%" row.resourceType || row.resourceId.any (ilike s!"%{search}%")) &&
    action.all (row.action = ·) && resourceType.all (row.resourceType = ·) &&
    resourceId.all fun resourceId ↦ row.resourceId = some resourceId

def listAuditRecords (tenantId : UUID) (search action resourceType resourceId : Option String)
    (limit : ℕ) (cursor : Option AuditCursor) (logs : Table AuditLog.id) : List AuditLog :=
  Keyset.fetch auditOrder logs.rows
    (auditListed ilike tenantId search action resourceType resourceId) (cursor.map auditKey) limit

end administration

section conversations

def conversationOrder (row : Conversation) : ListingKey := toLex (row.updatedAt, row.id)

def conversationListed (ilike : String → String → Bool) (userId agentId : UUID)
    (search : Option String) (status : Option ConversationStatus) (s : ConversationStore)
    (row : Conversation) : Bool :=
  (s.members.find? (row.id, userId)).isSome && row.agentId = agentId && row.deletedAt.isNone &&
    search.all (fun search ↦ ilike s!"%{search}%" row.title) && status.all (row.status = ·)

def listConversations (ilike : String → String → Bool) (userId agentId : UUID) (limit : ℕ)
    (cursor : Option EntityCursor) (search : Option String) (status : Option ConversationStatus)
    (s : ConversationStore) : List Conversation :=
  Keyset.fetch conversationOrder s.conversations.rows
    (conversationListed ilike userId agentId search status s) (cursor.map entityKey) limit

/-- `get_conversation_for_user` -/
def conversationForUser (conversationId userId agentId : UUID) (s : ConversationStore) :
    Option Conversation :=
  if (s.members.find? (conversationId, userId)).isSome then
    (s.conversations.find? conversationId).filter fun row ↦
      row.agentId = agentId && row.deletedAt.isNone
  else none

end conversations

section observability

inductive ObservabilityAlertReplayDecision
  | allowed | blocked
  deriving DecidableEq

inductive ObservabilityAlertReplayReason
  | allowedNoSuppression | allowedSuppressionExpired | blockedActiveSuppression
  | blockedMissingSource | blockedInvalidAgent | blockedAgentMismatch
  deriving DecidableEq

structure ObservabilityAlertReplayReview where
  id : UUID
  tenantId : UUID
  agentId : Option UUID
  sourceType : Option String
  decision : ObservabilityAlertReplayDecision
  reasonCode : ObservabilityAlertReplayReason
  reviewedAt : Datetime

def reviewOrder (row : ObservabilityAlertReplayReview) : ListingKey := toLex (row.reviewedAt, row.id)

def reviewListed (tenantId agentId : UUID) (decision : Option ObservabilityAlertReplayDecision)
    (reasonCode : Option ObservabilityAlertReplayReason) (sourceType : Option String)
    (row : ObservabilityAlertReplayReview) : Bool :=
  row.tenantId = tenantId && row.agentId = some agentId && decision.all (row.decision = ·) &&
    reasonCode.all (row.reasonCode = ·) &&
    sourceType.all fun sourceType ↦ row.sourceType = some sourceType

def listObservabilityAlertReplayReviews (tenantId agentId : UUID)
    (decision : Option ObservabilityAlertReplayDecision)
    (reasonCode : Option ObservabilityAlertReplayReason) (sourceType : Option String)
    (cursor : Option EntityCursor) (limit : ℕ) (rows : List ObservabilityAlertReplayReview) :
    List ObservabilityAlertReplayReview :=
  Keyset.fetch reviewOrder rows (reviewListed tenantId agentId decision reasonCode sourceType)
    (cursor.map entityKey) limit

def lifecycleOrder (row : AlertLifecycle ObservabilityAlertSource) : ListingKey :=
  toLex (row.updatedAt, row.id)

structure LifecycleFilter where
  status : Option AlertLifecycleStatus
  sourceType : Option String
  severity : Option AlertSeverity
  minimumDurationMinutes : Option ℤ

/-- An incident that goes on lasts until the time of evaluation. -/
def lifecycleListed (tenantId agentId : UUID) (filter : LifecycleFilter) (evaluatedAt : Datetime)
    (row : AlertLifecycle ObservabilityAlertSource) : Bool :=
  row.tenantId = tenantId && row.agentId = agentId && filter.status.all (row.status = ·) &&
    filter.sourceType.all (row.source.sourceType = ·) && filter.severity.all (row.severity = ·) &&
    filter.minimumDurationMinutes.all fun minutes ↦
      minutes * 60000000 ≤ (row.resolvedAt.getD evaluatedAt : ℤ) - row.firstOccurredAt

def listObservabilityAlertLifecycles (tenantId agentId : UUID) (filter : LifecycleFilter)
    (evaluatedAt : Datetime) (cursor : Option EntityCursor) (limit : ℕ)
    (rows : List (AlertLifecycle ObservabilityAlertSource)) :
    List (AlertLifecycle ObservabilityAlertSource) :=
  Keyset.fetch lifecycleOrder rows (lifecycleListed tenantId agentId filter evaluatedAt)
    (cursor.map entityKey) limit

end observability

end CyberNetizen.Infrastructure

namespace CyberNetizen.Application

open Domain Infrastructure Pagination KeyedTable

namespace AdministrationService

def normalizeSearch (value : Option String) : Option String :=
  value.bind fun value ↦ if (strip value).isEmpty then none else some (strip value)

variable (ilike : String → String → Bool) (tenantId : UUID) (search : Option String) (limit : ℕ)
  (cursor : Option String)

def listAgents (status : Option AgentLifecycleStatus) (agents : Table AgentRow.id) :
    Except InvalidCursorError (List AgentRow × Option String) := do
  let cursor ← decodeCursor cursor
  let rows := Infrastructure.listAgents ilike tenantId (normalizeSearch search) status (limit + 1)
    cursor agents
  return entityPage (fun item ↦ encodeCursor ⟨item.createdAt, item.id⟩) rows limit

def listUsers (status : Option EntityStatus) (users : Table UserRow.id) :
    Except InvalidCursorError (List UserRow × Option String) := do
  let cursor ← decodeCursor cursor
  let rows := Infrastructure.listUsers ilike tenantId (normalizeSearch search) status (limit + 1)
    cursor users
  return entityPage (fun item ↦ encodeCursor ⟨item.createdAt, item.id⟩) rows limit

def listAuditRecords (action resourceType resourceId : Option String) (logs : Table AuditLog.id) :
    Except InvalidCursorError (List AuditLog × Option String) := do
  let cursor ← decodeAuditCursor cursor
  let rows := Infrastructure.listAuditRecords ilike tenantId (normalizeSearch search)
    (normalizeSearch action) (normalizeSearch resourceType) (normalizeSearch resourceId)
    (limit + 1) cursor logs
  return entityPage (fun item ↦ encodeAuditCursor ⟨item.createdAt, item.id⟩) rows limit

end AdministrationService

namespace ConversationService

inductive ListingError
  | conversationNotFound (conversationId : UUID)
  | invalidCursor (error : InvalidCursorError)

def listConversations (ilike : String → String → Bool) (identity : DevelopmentIdentity)
    (limit : ℕ) (cursor search : Option String) (status : Option ConversationStatus)
    (s : ConversationStore) : Except InvalidCursorError (List Conversation × Option String) := do
  let cursor ← decodeCursor cursor
  let rows := Infrastructure.listConversations ilike identity.userId identity.agentId (limit + 1)
    cursor (AdministrationService.normalizeSearch search) status s
  return entityPage (fun item ↦ encodeCursor ⟨item.updatedAt, item.id⟩) rows limit

/-- A page of a conversation, the oldest message first. -/
def listMessages (identity : DevelopmentIdentity) (conversationId : UUID) (limit : ℕ)
    (cursor : Option String) (s : ConversationStore) :
    Except ListingError (List Message × Option String) :=
  match conversationForUser conversationId identity.userId identity.agentId s with
  | none => .error (.conversationNotFound conversationId)
  | some _ =>
    match decodeCursor cursor with
    | .error error => .error (.invalidCursor error)
    | .ok cursor =>
      let rows := ConversationRepository.listMessages conversationId identity.userId (limit + 1)
        (cursor.map fun cursor ↦ (cursor.occurredAt, cursor.entityId)) s
      let page := entityPage (fun item ↦ encodeCursor ⟨item.createdAt, item.id⟩) rows limit
      .ok (page.1.reverse, page.2)

end ConversationService

namespace ObservabilityService

structure ObservabilityValidationError where
  message : String
  deriving DecidableEq

def refuse (bad : Bool) (message : String) : Except ObservabilityValidationError Unit :=
  Checks.require (!bad) ⟨message⟩

/-- The type of the sources that are asked for. -/
def normalizedSource (sourceType : Option String) (label : String) :
    Except ObservabilityValidationError (Option String) := do
  let normalized := sourceType.map strip
  refuse (normalized.any String.isEmpty) s!"{label}不能为空"
  refuse (normalized.any fun source ↦ 80 < source.length) s!"{label}不能超过 80 个字符"
  return normalized

def parsedCursor (cursor : Option String) (message : String) :
    Except ObservabilityValidationError (Option EntityCursor) :=
  match decodeCursor cursor with
  | .error _ => .error ⟨message⟩
  | .ok cursor => .ok cursor

def alertLifecyclePage (tenantId agentId : UUID) (filter : LifecycleFilter)
    (cursor : Option String) (limit : ℕ) (now : Datetime)
    (lifecycles : List (AlertLifecycle ObservabilityAlertSource))
    (dispositions : List ObservabilityAlertDisposition) :
    Except ObservabilityValidationError (List DisposedLifecycle × Option String) := do
  refuse (!decide (1 ≤ limit ∧ limit ≤ 100)) "通用告警生命周期分页数量必须位于 1 到 100 之间"
  let sourceType ← normalizedSource filter.sourceType "通用告警来源类型"
  refuse (filter.minimumDurationMinutes.any fun minutes ↦ !decide (0 ≤ minutes ∧ minutes ≤ 525600))
    "最短持续时间必须位于 0 到 525600 分钟之间"
  let cursor ← parsedCursor cursor "通用告警生命周期分页游标无效"
  let rows := listObservabilityAlertLifecycles tenantId agentId { filter with sourceType } now
    cursor (limit + 1) lifecycles
  let page := entityPage (fun item ↦ encodeCursor ⟨item.updatedAt, item.id⟩) rows limit
  return (attachDispositions page.1 dispositions now, page.2)

def alertReplayReviews (tenantId agentId : UUID)
    (decision : Option ObservabilityAlertReplayDecision)
    (reasonCode : Option ObservabilityAlertReplayReason) (sourceType cursor : Option String)
    (limit : ℕ) (reviews : List ObservabilityAlertReplayReview) :
    Except ObservabilityValidationError (List ObservabilityAlertReplayReview × Option String) := do
  refuse (!decide (1 ≤ limit ∧ limit ≤ 100)) "重放复核分页数量必须位于 1 到 100 之间"
  let sourceType ← normalizedSource sourceType "重放复核来源类型"
  let cursor ← parsedCursor cursor "重放复核分页游标无效"
  let rows := listObservabilityAlertReplayReviews tenantId agentId decision reasonCode sourceType
    cursor (limit + 1) reviews
  return entityPage (fun item ↦ encodeCursor ⟨item.reviewedAt, item.id⟩) rows limit

end ObservabilityService

end CyberNetizen.Application
