import CyberNetizen.Domain.Administration
import CyberNetizen.Domain.Conversation
import CyberNetizen.Infrastructure.ConversationRepository
import CyberNetizen.Infrastructure.ObjectStorage

namespace CyberNetizen.Domain

inductive LifecycleRunKind
  | userExport | observabilityAlertHistoryExport | userForget | retentionCleanup
  | orphanCleanup | backupRestoreDrill
  deriving DecidableEq

inductive LifecycleRunStatus
  | running | succeeded | failed
  deriving DecidableEq

/-- A value of the evidence of a run. An instant stands for its text in the ISO format. -/
inductive Evidence
  | instant (at_ : ℤ)
  | flag (b : Bool)
  deriving DecidableEq

structure LifecycleRun where
  id : UUID
  tenantId : UUID
  actorId : Option UUID
  subjectUserId : Option UUID
  kind : LifecycleRunKind
  status : LifecycleRunStatus
  counters : List (String × ℕ)
  evidence : List (String × Evidence)
  errorCode : Option String
  startedAt : Datetime
  completedAt : Option Datetime
  deriving DecidableEq

structure Agent where
  id : UUID
  tenantId : UUID
  status : AgentLifecycleStatus
  archivedAt : Option Datetime := none
  deletedAt : Option Datetime := none
  purgeAfter : Option Datetime := none
  deriving DecidableEq

end CyberNetizen.Domain

namespace CyberNetizen.Infrastructure

open Domain KeyedTable

/-- The tables that cleanups read or write, and the bucket. -/
structure DataLifecycleStore where
  conversations : Table Conversation.id
  members : Table memberKey
  agents : Table Agent.id
  attachments : Table Attachment.id
  runs : List LifecycleRun
  objects : ObjectTable

inductive DataLifecycleError
  | validation (message : String)
  | notFound (message : String)
  | operation (message : String)
  deriving DecidableEq

namespace SqlAlchemyDataLifecycleRepository

def startRun (runId tenantId actorId : UUID) (subjectUserId : Option UUID)
    (kind : LifecycleRunKind) (now : Datetime) : LifecycleRun where
  id := runId
  tenantId
  actorId := some actorId
  subjectUserId
  kind
  status := .running
  counters := []
  evidence := []
  errorCode := none
  startedAt := now
  completedAt := none

structure RunOutcome where
  status : LifecycleRunStatus
  counters : List (String × ℕ)
  evidence : List (String × Evidence)
  errorCode : Option String

def RunOutcome.apply (outcome : RunOutcome) (now : Datetime) (row : LifecycleRun) : LifecycleRun :=
  { row with
    status := outcome.status
    counters := outcome.counters
    evidence := outcome.evidence
    errorCode := outcome.errorCode
    completedAt := some now }

def finishRun (runs : List LifecycleRun) (runId tenantId : UUID) (outcome : RunOutcome)
    (now : Datetime) : Except DataLifecycleError (LifecycleRun × List LifecycleRun) :=
  match runs.find? fun row ↦ row.id = runId ∧ row.tenantId = tenantId with
  | none => .error (.notFound "生命周期运行记录不存在")
  | some row => .ok (outcome.apply now row, runs.map fun row ↦
      if row.id = runId ∧ row.tenantId = tenantId then outcome.apply now row else row)

def listKnownObjectKeys (attachments : Table Attachment.id) (tenantId : UUID) : List String :=
  (attachments.rows.filter fun row ↦ row.tenantId = tenantId ∧
    row.status ∉ [AttachmentStatus.deleted, .rejected]).map (·.objectKey)

section retention

/-- A conversation or an agent whose retention is over, with its objects. -/
structure RetentionCandidate where
  ownerId : UUID
  objectKeys : List String
  deriving DecidableEq

/-- `… IS NOT NULL AND … <= before`. -/
def isDue (before : ℤ) : Option Datetime → Bool
  | none => false
  | some t => (t : ℤ) ≤ before

def instantOf (time : Option Datetime) : ℕ := time.getD 0

/-- The order of two rows; what the query leaves open is up to `tie`. -/
def Earlier {ρ : Type} (time : ρ → Option Datetime) (tie : ρ → ℕ) (a b : ρ) : Prop :=
  instantOf (time a) < instantOf (time b) ∨
    instantOf (time a) = instantOf (time b) ∧ tie a ≤ tie b

instance {ρ : Type} (time : ρ → Option Datetime) (tie : ρ → ℕ) (a b : ρ) :
    Decidable (Earlier time tie a b) :=
  inferInstanceAs (Decidable (_ ∨ _))

instance {ρ : Type} (time : ρ → Option Datetime) (tie : ρ → ℕ) : Std.Total (Earlier time tie) where
  total a b := by
    unfold Earlier
    omega

instance {ρ : Type} (time : ρ → Option Datetime) (tie : ρ → ℕ) : IsTrans ρ (Earlier time tie) where
  trans a b c := by
    unfold Earlier
    omega

def earliest {ρ : Type} (time : ρ → Option Datetime) (tie : ρ → ℕ) (limit : ℤ) (rows : List ρ) :
    List ρ :=
  (rows.insertionSort (Earlier time tie)).take limit.toNat

section earliest

variable {ρ : Type} {time : ρ → Option Datetime} {tie : ρ → ℕ} {limit : ℤ} {rows : List ρ}

theorem mem_of_mem_earliest {row : ρ} (h : row ∈ earliest time tie limit rows) : row ∈ rows :=
  (List.mem_insertionSort _).mp (List.mem_of_mem_take h)

theorem nodup_earliest {κ : Type} {key : ρ → κ} (h : (rows.map key).Nodup) :
    ((earliest time tie limit rows).map key).Nodup :=
  ((List.take_sublist _ _).map key).nodup
    (((List.perm_insertionSort (Earlier time tie) rows).map key).nodup_iff.mpr h)

end earliest

def isPurgeable (tenantId : UUID) (deletedBefore : ℤ) (row : Conversation) : Bool :=
  row.tenantId = tenantId && isDue deletedBefore row.deletedAt

def isPurgeableAgent (tenantId : UUID) (purgeBefore : ℤ) (row : Agent) : Bool :=
  row.tenantId = tenantId && (row.status = .deleted && isDue purgeBefore row.purgeAfter)

def conversationKeys (s : DataLifecycleStore) (tenantId conversationId : UUID) : List String :=
  (s.attachments.rows.filter fun row ↦ row.tenantId = tenantId ∧
    row.conversationId = conversationId).map (·.objectKey)

def agentKeys (s : DataLifecycleStore) (tenantId agentId : UUID) : List String :=
  (s.attachments.rows.filter fun row ↦ row.tenantId = tenantId ∧
    (s.conversations.find? row.conversationId).any fun conversation ↦
      conversation.tenantId = tenantId && conversation.agentId = agentId).map (·.objectKey)

def listRetentionCandidates (s : DataLifecycleStore) (tenantId : UUID) (deletedBefore limit : ℤ)
    (tie : UUID → ℕ) : List RetentionCandidate :=
  (earliest Conversation.deletedAt (fun row ↦ tie row.id) limit
    (s.conversations.rows.filter (isPurgeable tenantId deletedBefore))).map fun row ↦
      ⟨row.id, conversationKeys s tenantId row.id⟩

def listAgentRetentionCandidates (s : DataLifecycleStore) (tenantId : UUID)
    (purgeBefore limit : ℤ) : List RetentionCandidate :=
  (earliest Agent.purgeAfter Agent.id limit
    (s.agents.rows.filter (isPurgeableAgent tenantId purgeBefore))).map fun row ↦
      ⟨row.id, agentKeys s tenantId row.id⟩

/-- `ON DELETE SET NULL` of the origin of a branch. -/
def branchCleared : Update Conversation.id where
  toFun row := { row with branchedFromConversationId := none, branchedFromMessageId := none }
  key_eq _ := rfl

def deleteConversations (s : DataLifecycleStore) (gone : Conversation → Bool) :
    DataLifecycleStore :=
  let isGone id := (s.conversations.find? id).any gone
  { s with
    conversations := (s.conversations.deleteWhere gone).updateWhere
      (fun row ↦ row.branchedFromConversationId.any isGone) branchCleared
    members := s.members.deleteWhere fun member ↦ isGone member.conversationId
    attachments := s.attachments.deleteWhere fun row ↦ isGone row.conversationId }

def purgeConversation (s : DataLifecycleStore) (conversationId tenantId : UUID)
    (deletedBefore : ℤ) : Bool × DataLifecycleStore :=
  match (s.conversations.find? conversationId).filter (isPurgeable tenantId deletedBefore) with
  | none => (false, s)
  | some row => (true, deleteConversations s fun item ↦ item.id = row.id)

def purgeAgent (s : DataLifecycleStore) (agentId tenantId : UUID) (purgeBefore : ℤ) :
    Bool × DataLifecycleStore :=
  match (s.agents.find? agentId).filter (isPurgeableAgent tenantId purgeBefore) with
  | none => (false, s)
  | some agent =>
    let s := deleteConversations s fun item ↦ item.tenantId = tenantId && item.agentId = agent.id
    (true, { s with agents := s.agents.deleteWhere fun row ↦ row.id = agent.id })

def purgeExpiredAttachmentMetadata (s : DataLifecycleStore) (tenantId : UUID)
    (deletedBefore limit : ℤ) (tie : UUID → ℕ) : ℕ × DataLifecycleStore :=
  let rows := earliest Attachment.deletedAt (fun row ↦ tie row.id) limit
    (s.attachments.rows.filter fun row ↦ row.tenantId = tenantId ∧
      row.status ∈ [AttachmentStatus.deleted, .rejected] ∧ isDue deletedBefore row.deletedAt)
  (rows.length, { s with attachments := s.attachments.deleteWhere fun row ↦ row ∈ rows })

end retention

section forgetting

/-- `forget_user_data` as far as it writes attachments. -/
def attachmentForgotten (now : Datetime) : Update Attachment.id where
  toFun row := { row with
    originalName := "已清除"
    sha256 := String.ofList (List.replicate 64 '0')
    status := .deleted
    validationError := some "用户数据遗忘"
    deletedAt := some now }
  key_eq _ := rfl

/-- `forget_user_data` as far as it writes conversations. -/
def conversationForgotten (now : Datetime) : Update Conversation.id where
  toFun row := { row with
    title := "已遗忘会话"
    status := .archived
    pinnedAt := none
    archivedAt := some now
    deletedAt := some now
    updatedAt := now }
  key_eq _ := rfl

def belongsTo (s : DataLifecycleStore) (tenantId userId : UUID) (row : Conversation) : Bool :=
  row.tenantId = tenantId &&
    (row.createdBy = userId || (s.members.find? (row.id, userId)).isSome)

def forgetConversations (s : DataLifecycleStore) (tenantId userId : UUID) (now : Datetime) :
    DataLifecycleStore :=
  { s with
    conversations := s.conversations.updateWhere (belongsTo s tenantId userId)
      (conversationForgotten now)
    attachments := s.attachments.updateWhere (fun row ↦ row.tenantId = tenantId &&
      (row.ownerId = userId ||
        (s.conversations.find? row.conversationId).any (belongsTo s tenantId userId)))
      (attachmentForgotten now) }

end forgetting

end SqlAlchemyDataLifecycleRepository

end CyberNetizen.Infrastructure
