import CyberNetizen.Application.DataLifecycleService
import CyberNetizen.Lib.Machine

namespace CyberNetizen.DataLifecycle

open Domain Infrastructure Infrastructure.SqlAlchemyDataLifecycleRepository Application
open Application.DataLifecycleService KeyedTable

/-- What the attachment service writes into a row after it was reserved. -/
structure AttachmentProgress where
  status : AttachmentStatus
  messageId : Option UUID
  validationError : Option String
  uploadedAt : Option Datetime
  attachedAt : Option Datetime
  deletedAt : Option Datetime
  deriving DecidableEq

def AttachmentProgress.update (progress : AttachmentProgress) : Update Attachment.id where
  toFun row := { row with
    status := progress.status
    messageId := progress.messageId
    validationError := progress.validationError
    uploadedAt := progress.uploadedAt
    attachedAt := progress.attachedAt
    deletedAt := progress.deletedAt }
  key_eq _ := rfl

/-- What users and administrators do that a cleanup can see. -/
inductive UserOperation
  | createConversation (row : Conversation)
  | softDeleteConversation (conversationId userId : UUID)
  | reserve (row : Attachment)
  | changeAttachment (attachmentId : UUID) (progress : AttachmentProgress)
  | putObject (item : StoredObject)
  | removeObject (objectKey : String)
  | createAgent (agentId tenantId : UUID)
  | updateAgentStatus (agentId : UUID) (active : Bool)
  | archiveAgent (agentId : UUID)
  | softDeleteAgent (agentId : UUID)
  | forgetUserData (tenantId userId : UUID)

section operations

variable (policy : DataLifecyclePolicy) (now : Datetime)

def agentStatusUpdated (active : Bool) : Update Agent.id where
  toFun row := { row with status := if active then .active else .disabled }
  key_eq _ := rfl

def agentArchived : Update Agent.id where
  toFun row := { row with status := .archived, archivedAt := some now }
  key_eq _ := rfl

def agentSoftDeleted : Update Agent.id where
  toFun row := { row with
    status := .deleted
    deletedAt := some now
    purgeAfter := some (now + (days policy.deletedAgentDays).toNat) }
  key_eq _ := rfl

def operate (s : DataLifecycleStore) : UserOperation → DataLifecycleStore
  | .createConversation row =>
    let row := { row with
      status := .active, pinnedAt := none, archivedAt := none, deletedAt := none }
    match s.conversations.insert? row, s.members.insert? ⟨row.id, row.createdBy⟩ with
    | some conversations, some members => { s with conversations, members }
    | _, _ => s
  | .softDeleteConversation conversationId userId =>
    if (s.members.find? (conversationId, userId)).isSome then
      { s with
        conversations := s.conversations.updateWhere
          (fun row ↦ row.id = conversationId && row.deletedAt.isNone)
          (ConversationRepository.softDeleted now) }
    else s
  | .reserve row =>
    if (s.conversations.find? row.conversationId).isSome ∧
        ∀ other ∈ s.attachments.rows, other.objectKey ≠ row.objectKey then
      match s.attachments.insert? row with
      | none => s
      | some attachments => { s with attachments }
    else s
  | .changeAttachment attachmentId progress =>
    { s with
      attachments := s.attachments.updateWhere (fun row ↦ row.id = attachmentId) progress.update }
  | .putObject item => { s with objects := s.objects.put item }
  | .removeObject objectKey => { s with objects := deleteObject s.objects objectKey }
  | .createAgent agentId tenantId =>
    match s.agents.insert? { id := agentId, tenantId, status := .active } with
    | none => s
    | some agents => { s with agents }
  | .updateAgentStatus agentId active =>
    { s with
      agents := s.agents.updateWhere (fun row ↦ row.id = agentId &&
        (row.status = .active || row.status = .disabled)) (agentStatusUpdated active) }
  | .archiveAgent agentId =>
    { s with
      agents := s.agents.updateWhere (fun row ↦ row.id = agentId &&
        (row.status = .active || row.status = .disabled)) (agentArchived now) }
  | .softDeleteAgent agentId =>
    { s with
      agents := s.agents.updateWhere (fun row ↦ row.id = agentId && row.status = .archived)
        (agentSoftDeleted policy now) }
  | .forgetUserData tenantId userId => forgetConversations s tenantId userId now

end operations

/-- An object that a cleanup has deleted for a conversation or an agent that is not purged yet. -/
structure Deletion where
  kind : RetentionKind
  ownerId : UUID
  objectKey : String
  cutoff : ℤ
  deriving DecidableEq

/-- The store and the clock, and at most one cleanup that is under way. -/
structure RetentionWorld where
  store : DataLifecycleStore
  now : Datetime
  cleanup : Option RetentionRun := none
  pending : List Deletion := []
  finished : ℕ := 0

inductive RetentionAction
  | tick (duration : ℕ)
  | user (operation : UserOperation)
  | start
  /-- The next call of the cleanup; `tie` is the order of rows that the database leaves open. -/
  | advance (tie : UUID → ℕ) (history : ObservabilityHistoryRetentionResult)
  /-- The cleanup ends with an exception, or its process does. -/
  | abort

section step

variable (identity : DevelopmentIdentity) (policy : DataLifecyclePolicy) (fails : String → Bool)

def isCandidate (s : DataLifecycleStore) (kind : RetentionKind) (ownerId : UUID) (cutoff : ℤ) :
    Bool :=
  match kind with
  | .conversation => (s.conversations.find? ownerId).any (isPurgeable identity.tenantId cutoff)
  | .agent => (s.agents.find? ownerId).any (isPurgeableAgent identity.tenantId cutoff)

def isThere (s : DataLifecycleStore) (kind : RetentionKind) (ownerId : UUID) : Bool :=
  match kind with
  | .conversation => (s.conversations.find? ownerId).isSome
  | .agent => (s.agents.find? ownerId).isSome

/-- One call of the cleanup, and what the run returns if it was the last one. -/
def advance (w : RetentionWorld) (run : RetentionRun) (tie : UUID → ℕ)
    (history : ObservabilityHistoryRetentionResult) : Option RunOutcome × RetentionWorld :=
  match run.next with
  | .listCandidates kind =>
    let candidates := listKind policy identity run.startedAt tie w.store kind
    (none, { w with cleanup := some { run with
      counters := run.counters.listed kind candidates.length
      next := nextCandidate kind candidates } })
  | .deleteObjects kind ownerId (objectKey :: objectKeys) candidateFailed todo =>
    if fails objectKey then
      (none, { w with cleanup := some { run with
        next := .deleteObjects kind ownerId objectKeys true todo } })
    else
      (none, { w with
        store := { w.store with objects := deleteObject w.store.objects objectKey }
        cleanup := some { run with
          counters := { run.counters with objectsDeleted := run.counters.objectsDeleted + 1 }
          next := .deleteObjects kind ownerId objectKeys candidateFailed todo }
        pending := ⟨kind, ownerId, objectKey, cutoff policy run.startedAt kind⟩ :: w.pending })
  | .deleteObjects kind _ [] true todo =>
    (none, { w with cleanup := some { run with
      counters := run.counters.failed kind
      next := nextCandidate kind todo } })
  | .deleteObjects kind ownerId [] false todo =>
    let result := purgeKind policy identity run.startedAt ownerId w.store kind
    (none, { w with
      store := result.2
      cleanup := some { run with
        counters := if result.1 then run.counters.purged kind else run.counters
        next := nextCandidate kind todo }
      pending := w.pending.filter fun deletion ↦ isThere result.2 deletion.kind deletion.ownerId })
  | .purgeMetadata =>
    let result := purgeExpiredAttachmentMetadata w.store identity.tenantId
      (attachmentCutoff policy run.startedAt) policy.batchSize tie
    (none, { w with
      store := result.2
      cleanup := some { run with
        counters := { run.counters with attachmentMetadataPurged := result.1 }
        next := .listCandidates .agent } })
  | .purgeHistory =>
    (some (retentionOutcome policy run history),
      { w with cleanup := none, finished := w.finished + 1 })

def step (w : RetentionWorld) : RetentionAction → Option RunOutcome × RetentionWorld
  | .tick duration => (none, { w with now := w.now + duration })
  | .user operation => (none, { w with store := operate policy w.now w.store operation })
  | .start => match w.cleanup with
    | none => (none, { w with cleanup := some { startedAt := w.now } })
    | some _ => (none, w)
  | .advance tie history => match w.cleanup with
    | none => (none, w)
    | some run => advance identity policy fails w run tie history
  | .abort => (none, { w with cleanup := none })

end step

end CyberNetizen.DataLifecycle
