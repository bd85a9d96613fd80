import Mathlib.Data.Rat.Defs

namespace CyberNetizen.Domain

abbrev UUID := ℕ

abbrev Datetime := ℕ

abbrev Date := ℕ

/-- `timedelta(seconds=n)`. -/
def seconds (n : ℕ) : Datetime := n * 1000000

inductive JsonValue
  | null
  | bool (b : Bool)
  | int (n : ℤ)
  | float (x : ℚ)
  | str (s : String)
  | list (xs : List JsonValue)
  | dict (entries : List (String × JsonValue))

abbrev JsonObject := List (String × JsonValue)

inductive BackgroundJobKind
  | reflection | episodeConsolidation | memoryExtraction | embeddingRebuild
  | relationshipUpdate | scheduledAction | inboundMessage | notificationDelivery
  | channelConnectionTest
  deriving DecidableEq

inductive BackgroundJobStatus
  | pending | running | retrying | succeeded | failed | deadLetter | canceled
  deriving DecidableEq

inductive InboxEventStatus
  | pending | processing | completed | deadLetter | canceled
  deriving DecidableEq

inductive OutboxEventStatus
  | pending | publishing | published | retrying | deadLetter | canceled
  deriving DecidableEq

inductive JobAttemptStatus
  | running | succeeded | failed | timedOut | canceled
  deriving DecidableEq

inductive ScheduledActionKind
  | followUp | proactiveMessage | reflection
  deriving DecidableEq

inductive ScheduledActionStatus
  | pending | dispatched | completed | suppressed | canceled | expired | failed
  deriving DecidableEq

structure InboxEvent where
  id : UUID
  tenantId : UUID
  eventKey : String
  eventType : String
  payload : JsonObject
  status : InboxEventStatus
  jobId : UUID
  receivedAt : Datetime
  processedAt : Option Datetime
  lastErrorCode : Option String
  agentId : Option UUID := none
  channelId : Option UUID := none
  schemaVersion : Option String := none
  platform : Option String := none
  externalEventDigest : Option String := none
  externalSubjectDigest : Option String := none
  externalConversationDigest : Option String := none
  externalThreadDigest : Option String := none
  externalMessageDigest : Option String := none
  userId : Option UUID := none
  conversationId : Option UUID := none
  contentKinds : List String := []
  contentBlockCount : ℕ := 0

structure BackgroundJob where
  id : UUID
  tenantId : UUID
  kind : BackgroundJobKind
  queue : String
  status : BackgroundJobStatus
  payload : JsonObject
  deduplicationKey : String
  sourceInboxId : Option UUID
  correlationId : Option String
  attemptCount : ℕ
  maxAttempts : ℕ
  leaseSeconds : ℕ
  retryBaseSeconds : ℕ
  availableAt : Datetime
  leaseOwner : Option String
  leaseExpiresAt : Option Datetime
  cancelRequestedAt : Option Datetime
  lastErrorCode : Option String
  lastErrorSummary : Option String
  resultSummary : JsonObject
  replayedFromId : Option UUID
  createdBy : Option UUID
  createdAt : Datetime
  startedAt : Option Datetime
  completedAt : Option Datetime
  updatedAt : Datetime
  agentId : Option UUID := none

structure OutboxEvent where
  id : UUID
  tenantId : UUID
  jobId : UUID
  eventType : String
  payload : JsonObject
  status : OutboxEventStatus
  attemptCount : ℕ
  maxAttempts : ℕ
  availableAt : Datetime
  leaseOwner : Option String
  leaseExpiresAt : Option Datetime
  lastErrorCode : Option String
  createdAt : Datetime
  publishedAt : Option Datetime
  updatedAt : Datetime

structure JobAttempt where
  id : UUID
  tenantId : UUID
  jobId : UUID
  attemptNumber : ℕ
  status : JobAttemptStatus
  workerId : String
  startedAt : Datetime
  completedAt : Option Datetime
  errorCode : Option String
  errorSummary : Option String

structure JobClaim where
  job : BackgroundJob
  attempt : JobAttempt

structure ScheduledAction where
  id : UUID
  tenantId : UUID
  agentId : UUID
  userId : UUID
  conversationId : Option UUID
  kind : ScheduledActionKind
  status : ScheduledActionStatus
  scheduledFor : Datetime
  expiresAt : Option Datetime
  idempotencyKey : String
  reason : String
  payload : JsonObject
  score : Option ℚ
  socialCost : ℕ
  decisionReasons : List String
  jobId : Option UUID
  createdBy : UUID
  createdAt : Datetime
  updatedAt : Datetime
  completedAt : Option Datetime

structure SocialBudgetUsage where
  id : UUID
  tenantId : UUID
  agentId : UUID
  userId : UUID
  budgetDate : Date
  scheduledActionId : UUID
  cost : ℕ
  createdAt : Datetime

/-- A job as every caller of the repository hands it over: waiting, unleased and unsettled. -/
structure BackgroundJob.Fresh (job : BackgroundJob) : Prop where
  status : job.status = .pending
  attemptCount : job.attemptCount = 0
  maxAttempts : 1 ≤ job.maxAttempts ∧ job.maxAttempts ≤ 20
  leaseOwner : job.leaseOwner = none
  leaseExpiresAt : job.leaseExpiresAt = none
  cancelRequestedAt : job.cancelRequestedAt = none
  resultSummary : job.resultSummary = []
  completedAt : job.completedAt = none

/-- An outbox event asking for the dispatch of a job, not yet claimed by a publisher. -/
structure OutboxEvent.Requests (event : OutboxEvent) (jobId : UUID) : Prop where
  jobId : event.jobId = jobId
  status : event.status = .pending
  attemptCount : event.attemptCount = 0
  leaseOwner : event.leaseOwner = none
  leaseExpiresAt : event.leaseExpiresAt = none

/-- A new job together with the outbox event that announces it. -/
structure NewTask where
  job : BackgroundJob
  outbox : OutboxEvent
  fresh : job.Fresh
  requests : outbox.Requests job.id
  due : job.availableAt ≤ outbox.availableAt

/-- The event that announces the next attempt of a job, not before `retryAt`. -/
structure RetryEvent (jobId : UUID) (retryAt : Datetime) where
  outbox : OutboxEvent
  requests : outbox.Requests jobId
  due : retryAt ≤ outbox.availableAt

/-- A new job and, for an accepted external event, its inbox row. -/
structure EnqueueRequest extends NewTask where
  inbox : Option InboxEvent
  sourceInbox : job.sourceInboxId = inbox.map InboxEvent.id
  inboxPending : ∀ event ∈ inbox,
    event.jobId = job.id ∧ event.status = .pending ∧ event.processedAt = none

structure ReplayRequest extends NewTask where
  noInbox : job.sourceInboxId = none

/-- A scheduled action with the job that will evaluate it. -/
structure ScheduleRequest extends NewTask where
  action : ScheduledAction
  noInbox : job.sourceInboxId = none
  actionPending : action.status = .pending
  actionJob : action.jobId = some job.id

end CyberNetizen.Domain
