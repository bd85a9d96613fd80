import CyberNetizen.Domain.Task
import CyberNetizen.Infrastructure.DataLifecycleRepository
import CyberNetizen.Lib.Checks
import CyberNetizen.Lib.WireText

namespace CyberNetizen.Application

open Domain Infrastructure KeyedTable

structure DataLifecyclePolicy where
  deletedAgentDays : ℤ
  deletedConversationDays : ℤ
  deletedAttachmentDays : ℤ
  observabilityDispositionEventDays : ℤ
  observabilityReplayReviewDays : ℤ
  observabilityRecommendationFeedbackDays : ℤ
  orphanGraceHours : ℤ
  batchSize : ℤ
  exportMaxRecords : ℤ
  exportMaxBytes : ℤ
  backupExpectedIntervalHours : ℤ
  deriving DecidableEq

namespace DataLifecycleService

open SqlAlchemyDataLifecycleRepository

def integer (values : JsonObject) (key : String) : Except DataLifecycleError ℤ :=
  match values.lookup key with
  | some (.int n) => .ok n
  | _ => .error (.validation ("生效生命周期配置类型无效：" ++ key))

/-- The bounds in the values of the effective configuration. -/
def policy (values : JsonObject) : Except DataLifecycleError DataLifecyclePolicy := do
  let deletedAgentDays ← integer values "data.retention.deleted_agent_days"
  let deletedConversationDays ← integer values "data.retention.deleted_conversation_days"
  let deletedAttachmentDays ← integer values "data.retention.deleted_attachment_days"
  let observabilityDispositionEventDays ←
    integer values "data.retention.observability_disposition_event_days"
  let observabilityReplayReviewDays ←
    integer values "data.retention.observability_replay_review_days"
  let observabilityRecommendationFeedbackDays ←
    integer values "data.retention.observability_recommendation_feedback_days"
  let orphanGraceHours ← integer values "data.retention.orphan_grace_hours"
  let batchSize ← integer values "data.retention.batch_size"
  let exportMaxRecords ← integer values "data.export.max_records"
  let exportMaxBytes ← integer values "data.export.max_bytes"
  let backupExpectedIntervalHours ← integer values "data.backup.expected_interval_hours"
  return {
    deletedAgentDays, deletedConversationDays, deletedAttachmentDays
    observabilityDispositionEventDays, observabilityReplayReviewDays
    observabilityRecommendationFeedbackDays, orphanGraceHours, batchSize
    exportMaxRecords, exportMaxBytes, backupExpectedIntervalHours }

/-- What a run meets: the new id, what the clock says, and what the object storage refuses. -/
structure Environment where
  runId : UUID
  startedAt : Datetime
  now : Datetime
  completedAt : Datetime
  deleteFails : String → Bool
  listFails : Bool

def hours (n : ℤ) : ℤ := n * 3600000000

def days (n : ℤ) : ℤ := n * 86400000000

def failRun (identity : DevelopmentIdentity) (env : Environment) (errorCode : String)
    (s : DataLifecycleStore) : DataLifecycleStore :=
  match finishRun s.runs env.runId identity.tenantId
      { status := .failed, counters := [], evidence := [], errorCode := some errorCode }
      env.completedAt with
  | .error _ => s
  | .ok (_, runs) => { s with runs }

def tenantPrefix (tenantId : UUID) : String :=
  "tenants/" ++ String.ofList (WireText.uuidText tenantId) ++ "/"

section orphans

/-- The loop over the listed objects. -/
structure OrphanProgress where
  objects : ObjectTable
  deleted : ℕ
  failed : ℕ

def isProtected (known : List String) (cutoff : ℤ) (item : StoredObjectEntry) : Bool :=
  item.objectKey ∈ known || cutoff < item.lastModified

def sweepObject (deleteFails : String → Bool) (known : List String) (cutoff : ℤ)
    (p : OrphanProgress) (item : StoredObjectEntry) : OrphanProgress :=
  if isProtected known cutoff item then p
  else if deleteFails item.objectKey then { p with failed := p.failed + 1 }
  else { p with
    objects := deleteObject p.objects item.objectKey
    deleted := p.deleted + 1 }

def orphanCounters (scanned : ℕ) (p : OrphanProgress) : List (String × ℕ) :=
  [("objects_scanned", scanned), ("objects_deleted", p.deleted), ("objects_failed", p.failed)]

def graceCutoff (policy : DataLifecyclePolicy) (now : Datetime) : ℤ :=
  now - hours policy.orphanGraceHours

def runOrphanCleanup (identity : DevelopmentIdentity) (values : JsonObject) (env : Environment)
    (confirmed : Bool) (s : DataLifecycleStore) :
    Except DataLifecycleError LifecycleRun × DataLifecycleStore :=
  if !confirmed then (.error (.validation "MinIO 孤儿清理必须显式确认"), s)
  else match policy values with
  | .error e => (.error e, s)
  | .ok policy =>
    let s := { s with runs := s.runs ++
      [startRun env.runId identity.tenantId identity.userId none .orphanCleanup env.startedAt] }
    let known := listKnownObjectKeys s.attachments identity.tenantId
    if env.listFails then
      (.error (.operation "MinIO 孤儿清理执行失败"), failRun identity env "orphan_cleanup_failed" s)
    else
      let objects := listObjects s.objects (tenantPrefix identity.tenantId) policy.batchSize
      let cutoff := graceCutoff policy env.now
      let p := objects.foldl (sweepObject env.deleteFails known cutoff) ⟨s.objects, 0, 0⟩
      let s := { s with objects := p.objects }
      match finishRun s.runs env.runId identity.tenantId
          { status := if p.failed ≠ 0 then .failed else .succeeded
            counters := orphanCounters objects.length p
            evidence := [("grace_cutoff", .instant cutoff)]
            errorCode := if p.failed ≠ 0 then some "object_cleanup_failed" else none }
          env.completedAt with
      | .error e => (.error e, failRun identity env "orphan_cleanup_rejected" s)
      | .ok (run, runs) => (.ok run, { s with runs })

end orphans

section retention

inductive RetentionKind
  | conversation | agent
  deriving DecidableEq

structure ObservabilityHistoryRetentionResult where
  dispositionEventsPurged : ℕ
  replayReviewsPurged : ℕ
  recommendationFeedbackPurged : ℕ

structure RetentionCounters where
  candidates : ℕ := 0
  conversationsPurged : ℕ := 0
  attachmentMetadataPurged : ℕ := 0
  agentCandidates : ℕ := 0
  agentsPurged : ℕ := 0
  objectsDeleted : ℕ := 0
  candidatesFailed : ℕ := 0
  agentCandidatesFailed : ℕ := 0
  deriving DecidableEq

/-- The next call of `run_retention_cleanup`, with the candidates that are still to come. -/
inductive RetentionCall
  | listCandidates (kind : RetentionKind)
  | deleteObjects (kind : RetentionKind) (ownerId : UUID) (objectKeys : List String)
      (candidateFailed : Bool) (todo : List RetentionCandidate)
  | purgeMetadata
  | purgeHistory
  deriving DecidableEq

structure RetentionRun where
  startedAt : Datetime
  counters : RetentionCounters := {}
  next : RetentionCall := .listCandidates .conversation
  deriving DecidableEq

variable (policy : DataLifecyclePolicy)

def conversationCutoff (startedAt : Datetime) : ℤ := startedAt - days policy.deletedConversationDays

def attachmentCutoff (startedAt : Datetime) : ℤ := startedAt - days policy.deletedAttachmentDays

def cutoff (startedAt : Datetime) : RetentionKind → ℤ
  | .conversation => conversationCutoff policy startedAt
  | .agent => startedAt

def nextCandidate (kind : RetentionKind) : List RetentionCandidate → RetentionCall
  | [] => match kind with
    | .conversation => .purgeMetadata
    | .agent => .purgeHistory
  | candidate :: todo => .deleteObjects kind candidate.ownerId candidate.objectKeys false todo

def RetentionCounters.listed (kind : RetentionKind) (n : ℕ) (c : RetentionCounters) :
    RetentionCounters :=
  match kind with
  | .conversation => { c with candidates := n }
  | .agent => { c with agentCandidates := n }

def RetentionCounters.failed (kind : RetentionKind) (c : RetentionCounters) : RetentionCounters :=
  match kind with
  | .conversation => { c with candidatesFailed := c.candidatesFailed + 1 }
  | .agent => { c with agentCandidatesFailed := c.agentCandidatesFailed + 1 }

def RetentionCounters.purged (kind : RetentionKind) (c : RetentionCounters) : RetentionCounters :=
  match kind with
  | .conversation => { c with conversationsPurged := c.conversationsPurged + 1 }
  | .agent => { c with agentsPurged := c.agentsPurged + 1 }

def listKind (identity : DevelopmentIdentity) (startedAt : Datetime) (tie : UUID → ℕ)
    (s : DataLifecycleStore) : RetentionKind → List RetentionCandidate
  | .conversation => listRetentionCandidates s identity.tenantId
      (conversationCutoff policy startedAt) policy.batchSize tie
  | .agent => listAgentRetentionCandidates s identity.tenantId startedAt policy.batchSize

def purgeKind (identity : DevelopmentIdentity) (startedAt : Datetime) (ownerId : UUID)
    (s : DataLifecycleStore) : RetentionKind → Bool × DataLifecycleStore
  | .conversation => purgeConversation s ownerId identity.tenantId
      (conversationCutoff policy startedAt)
  | .agent => purgeAgent s ownerId identity.tenantId startedAt

/-- What is written at the end of a run. -/
def retentionOutcome (run : RetentionRun) (history : ObservabilityHistoryRetentionResult) :
    RunOutcome :=
  let c := run.counters
  let anyFailed := c.candidatesFailed ≠ 0 ∨ c.agentCandidatesFailed ≠ 0
  { status := if anyFailed then .failed else .succeeded
    counters := [("candidates", c.candidates), ("conversations_purged", c.conversationsPurged),
      ("attachment_metadata_purged", c.attachmentMetadataPurged),
      ("agent_candidates", c.agentCandidates), ("agents_purged", c.agentsPurged),
      ("objects_deleted", c.objectsDeleted), ("candidates_failed", c.candidatesFailed),
      ("agent_candidates_failed", c.agentCandidatesFailed),
      ("observability_disposition_events_purged", history.dispositionEventsPurged),
      ("observability_replay_reviews_purged", history.replayReviewsPurged),
      ("observability_recommendation_feedback_purged", history.recommendationFeedbackPurged)]
    evidence := [("conversation_cutoff", .instant (conversationCutoff policy run.startedAt)),
      ("attachment_cutoff", .instant (attachmentCutoff policy run.startedAt)),
      ("agent_purge_before", .instant run.startedAt),
      ("observability_disposition_event_cutoff",
        .instant (run.startedAt - days policy.observabilityDispositionEventDays)),
      ("observability_replay_review_cutoff",
        .instant (run.startedAt - days policy.observabilityReplayReviewDays)),
      ("observability_recommendation_feedback_cutoff",
        .instant (run.startedAt - days policy.observabilityRecommendationFeedbackDays))]
    errorCode := if anyFailed then some "object_cleanup_failed" else none }

end retention

end DataLifecycleService

end CyberNetizen.Application
