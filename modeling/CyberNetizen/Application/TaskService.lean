import Mathlib.Data.List.TakeWhile
import Mathlib.Algebra.Order.Field.Rat
import CyberNetizen.Domain.Task

namespace CyberNetizen.Application

open Domain

inductive TaskError
  | validation (message : String)
  | notFound (message : String)
  | conflict (message : String)
  deriving DecidableEq

/-- The characters `str.strip` removes. -/
def isSpace (c : Char) : Bool :=
  let n := c.toNat
  (9 ≤ n && n ≤ 13) || (28 ≤ n && n ≤ 32) || n = 0x85 || n = 0xA0 || n = 0x1680
    || (0x2000 ≤ n && n ≤ 0x200A) || n = 0x2028 || n = 0x2029 || n = 0x202F || n = 0x205F
    || n = 0x3000

def strip (value : String) : String :=
  String.ofList ((value.toList.dropWhile isSpace).reverse.dropWhile isSpace).reverse

theorem strip_eq_self {value : String} (h : ∀ c ∈ value.toList, isSpace c = false) :
    strip value = value := by
  have hdrop : ∀ l : List Char, (∀ c ∈ l, isSpace c = false) → l.dropWhile isSpace = l := by
    intro l hl
    cases l with
    | nil => rfl
    | cons c l => exact List.dropWhile_cons_of_neg (by simp [hl c List.mem_cons_self])
  unfold strip
  rw [hdrop _ h, hdrop _ fun c hc ↦ h c (List.mem_reverse.mp hc), List.reverse_reverse,
    String.ofList_toList]

theorem strip_ne_empty {value : String} {c : Char} (hmem : c ∈ value.toList)
    (hc : isSpace c = false) : strip value ≠ "" := by
  intro h
  have hall : ∀ x ∈ value.toList, isSpace x = true := by
    unfold strip at h
    have hnil := String.ofList_eq_empty_iff.mp h
    rw [List.reverse_eq_nil_iff, List.dropWhile_eq_nil_iff] at hnil
    have hdrop : value.toList.dropWhile isSpace = [] := by
      by_contra hne
      have hhead := List.head_dropWhile_not isSpace hne
      rw [hnil _ (List.mem_reverse.mpr (List.head_mem hne))] at hhead
      cases hhead
    exact List.dropWhile_eq_nil_iff.mp hdrop
  rw [hall c hmem] at hc
  cases hc

theorem length_strip_le (value : String) : (strip value).length ≤ value.length := by
  have hdrop : ∀ l : List Char, (l.dropWhile isSpace).length ≤ l.length :=
    fun l ↦ (List.dropWhile_suffix isSpace).length_le
  unfold strip
  rw [String.length_ofList, List.length_reverse, ← String.length_toList]
  calc ((value.toList.dropWhile isSpace).reverse.dropWhile isSpace).length
      ≤ (value.toList.dropWhile isSpace).reverse.length := hdrop _
    _ = (value.toList.dropWhile isSpace).length := List.length_reverse
    _ ≤ value.toList.length := hdrop _

def queueByKind : BackgroundJobKind → String
  | .reflection => "reflection"
  | .episodeConsolidation | .memoryExtraction | .embeddingRebuild | .relationshipUpdate => "memory"
  | .scheduledAction => "proactive"
  | .inboundMessage => "inbound"
  | .notificationDelivery => "notification"
  | .channelConnectionTest => "channel"

def queues : List String :=
  ["reflection", "memory", "proactive", "inbound", "notification", "channel"]

theorem queueByKind_mem (kind : BackgroundJobKind) : queueByKind kind ∈ queues := by
  cases kind <;> simp [queueByKind, queues]

/-- `_TERMINAL_REPLAYABLE`. -/
def replayable : BackgroundJobStatus → Bool
  | .failed | .deadLetter | .canceled => true
  | .pending | .running | .retrying | .succeeded => false

/-- What the callers of the service choose about a new job; `payload` is already normalized. -/
structure JobSpec where
  id : UUID
  tenantId : UUID
  agentId : Option UUID
  kind : BackgroundJobKind
  queue : String
  payload : JsonObject
  deduplicationKey : String
  sourceInboxId : Option UUID
  correlationId : Option String
  maxAttempts : ℕ
  leaseSeconds : ℕ
  retryBaseSeconds : ℕ
  availableAt : Datetime
  replayedFromId : Option UUID
  createdBy : Option UUID
  attempts : 1 ≤ maxAttempts ∧ maxAttempts ≤ 20

/-- A job as `enqueue`, `replay` and `create` build it. -/
def newJob (spec : JobSpec) (now : Datetime) : BackgroundJob where
  id := spec.id
  tenantId := spec.tenantId
  agentId := spec.agentId
  kind := spec.kind
  queue := spec.queue
  status := .pending
  payload := spec.payload
  deduplicationKey := spec.deduplicationKey
  sourceInboxId := spec.sourceInboxId
  correlationId := spec.correlationId
  attemptCount := 0
  maxAttempts := spec.maxAttempts
  leaseSeconds := spec.leaseSeconds
  retryBaseSeconds := spec.retryBaseSeconds
  availableAt := spec.availableAt
  leaseOwner := none
  leaseExpiresAt := none
  cancelRequestedAt := none
  lastErrorCode := none
  lastErrorSummary := none
  resultSummary := []
  replayedFromId := spec.replayedFromId
  createdBy := spec.createdBy
  createdAt := now
  startedAt := none
  completedAt := none
  updatedAt := now

theorem newJob_fresh (spec : JobSpec) (now : Datetime) : (newJob spec now).Fresh where
  status := rfl
  attemptCount := rfl
  maxAttempts := spec.attempts
  leaseOwner := rfl
  leaseExpiresAt := rfl
  cancelRequestedAt := rfl
  resultSummary := rfl
  completedAt := rfl

/-- `_outbox`; `eventId` is the generated id. -/
def makeOutbox (eventId : UUID) (job : BackgroundJob) (now availableAt : Datetime) :
    OutboxEvent where
  id := eventId
  tenantId := job.tenantId
  jobId := job.id
  eventType := "background_job.dispatch_requested"
  payload := [("job_id", .str (toString job.id)), ("queue", .str job.queue)]
  status := .pending
  attemptCount := 0
  maxAttempts := max 5 job.maxAttempts
  availableAt
  leaseOwner := none
  leaseExpiresAt := none
  lastErrorCode := none
  createdAt := now
  publishedAt := none
  updatedAt := now

theorem makeOutbox_requests (eventId : UUID) (job : BackgroundJob) (now availableAt : Datetime) :
    (makeOutbox eventId job now availableAt).Requests job.id :=
  ⟨rfl, rfl, rfl, rfl, rfl⟩

/-- The job and its first outbox event, both due at the same time. -/
def newTask (spec : JobSpec) (eventId : UUID) (now : Datetime) : NewTask where
  job := newJob spec now
  outbox := makeOutbox eventId (newJob spec now) now spec.availableAt
  fresh := newJob_fresh spec now
  requests := makeOutbox_requests _ _ _ _
  due := le_rfl

/-- A reflection task with the given ids, due at once: the input of the worked runs. -/
def reflectionTask (jobId eventId : UUID) (maxAttempts : ℕ)
    (h : 1 ≤ maxAttempts ∧ maxAttempts ≤ 20) : NewTask :=
  newTask
    { id := jobId
      tenantId := 0
      agentId := none
      kind := .reflection
      queue := queueByKind .reflection
      payload := []
      deduplicationKey := s!"reflection:{jobId}"
      sourceInboxId := none
      correlationId := none
      maxAttempts
      leaseSeconds := 60
      retryBaseSeconds := 5
      availableAt := 0
      replayedFromId := none
      createdBy := none
      attempts := h } eventId 0

/-- The same task as a call of the repository. -/
def reflectionRequest (jobId eventId : UUID) (maxAttempts : ℕ)
    (h : 1 ≤ maxAttempts ∧ maxAttempts ≤ 20) : EnqueueRequest :=
  { reflectionTask jobId eventId maxAttempts h with
    inbox := none
    sourceInbox := rfl
    inboxPending := by simp }

/-- A proactive message of user 5, planned for the time 10 and evaluated by the task. -/
def messageRequest (actionId jobId eventId : UUID) (socialCost : ℕ) : ScheduleRequest :=
  { newTask
      { id := jobId
        tenantId := 0
        agentId := some 4
        kind := .scheduledAction
        queue := queueByKind .scheduledAction
        payload := [("scheduled_action_id", .str (toString actionId))]
        deduplicationKey := s!"scheduled-action:{actionId}"
        sourceInboxId := none
        correlationId := some (toString actionId)
        maxAttempts := 3
        leaseSeconds := 60
        retryBaseSeconds := 5
        availableAt := 10
        replayedFromId := none
        createdBy := some 6
        attempts := by decide } eventId 0 with
    action :=
      { id := actionId
        tenantId := 0
        agentId := 4
        userId := 5
        conversationId := none
        kind := .proactiveMessage
        status := .pending
        scheduledFor := 10
        expiresAt := none
        idempotencyKey := toString actionId
        reason := "follow up"
        payload := []
        score := none
        socialCost
        decisionReasons := []
        jobId := some jobId
        createdBy := 6
        createdAt := 0
        updatedAt := 0
        completedAt := none }
    noInbox := rfl
    actionPending := rfl
    actionJob := rfl }

namespace BackgroundTaskService

def requiredText (value label : String) (maximum : ℕ) : Except TaskError String :=
  let normalized := strip value
  if normalized.isEmpty then .error (.validation s!"{label}不能为空")
  else if maximum < normalized.length then
    .error (.validation s!"{label}不能超过 {maximum} 个字符")
  else .ok normalized

def optionalText (value : Option String) (maximum : ℕ) : Except TaskError (Option String) :=
  match value with
  | none => .ok none
  | some text =>
    if (strip text).isEmpty then .ok none else (requiredText text "文本" maximum).map some

def positive (value : ℕ) (label : String) : Except TaskError ℕ :=
  if 1 ≤ value ∧ value ≤ 86400 then .ok value
  else .error (.validation s!"{label}必须位于 1 到 86400 之间")

def limit (value : ℕ) : Except TaskError ℕ :=
  if 1 ≤ value ∧ value ≤ 500 then .ok value
  else .error (.validation "分页数量必须位于 1 到 500 之间")

/-- The arguments of `enqueue`. A source inbox row is handed over unprocessed and already names
the job. -/
structure EnqueueCommand where
  tenantId : UUID
  kind : BackgroundJobKind
  payload : JsonObject
  deduplicationKey : String
  createdBy : Option UUID
  agentId : Option UUID := none
  maxAttempts : ℕ := 5
  leaseSeconds : ℕ := 120
  retryBaseSeconds : ℕ := 5
  availableAt : Option Datetime := none
  correlationId : Option String := none
  sourceInbox : Option InboxEvent := none
  jobId : Option UUID := none
  accepted : ∀ event ∈ sourceInbox,
    jobId = some event.jobId ∧ event.status = .pending ∧ event.processedAt = none

/-- What `enqueue` stores; `newId` and `eventId` are the generated ids. -/
def enqueue (command : EnqueueCommand) (newId eventId : UUID) (now : Datetime) :
    Except TaskError EnqueueRequest := do
  let normalizedKey ← requiredText command.deduplicationKey "任务去重键" 255
  if h : 1 ≤ command.maxAttempts ∧ command.maxAttempts ≤ 20 then
    let leaseSeconds ← positive command.leaseSeconds "任务租约秒数"
    let retryBaseSeconds ← positive command.retryBaseSeconds "失败退避基数"
    let correlationId ← optionalText command.correlationId 255
    let spec : JobSpec :=
      { id := command.jobId.getD newId
        tenantId := command.tenantId
        agentId := command.agentId <|> command.sourceInbox.bind InboxEvent.agentId
        kind := command.kind
        queue := queueByKind command.kind
        payload := command.payload
        deduplicationKey := normalizedKey
        sourceInboxId := command.sourceInbox.map InboxEvent.id
        correlationId
        maxAttempts := command.maxAttempts
        leaseSeconds
        retryBaseSeconds
        availableAt := command.availableAt.getD now
        replayedFromId := none
        createdBy := command.createdBy
        attempts := h }
    return { newTask spec eventId now with
      inbox := command.sourceInbox
      sourceInbox := rfl
      inboxPending := fun event hevent ↦ by
        obtain ⟨hjob, hrest⟩ := command.accepted event hevent
        exact ⟨by simp [newTask, newJob, spec, hjob], hrest⟩ }
  else throw (.validation "任务最大尝试次数必须位于 1 到 20 之间")

/-- What `accept_inbox_event` stores: the inbox row, its job and the first outbox event. -/
def acceptInboxEvent (tenantId : UUID) (eventKey eventType : String) (payload : JsonObject)
    (jobKind : BackgroundJobKind) (createdBy : Option UUID)
    (maxAttempts leaseSeconds retryBaseSeconds : ℕ) (jobId inboxId eventId : UUID)
    (now : Datetime) : Except TaskError EnqueueRequest := do
  let normalizedKey ← requiredText eventKey "Inbox 事件键" 255
  let normalizedType ← requiredText eventType "Inbox 事件类型" 120
  let inbox : InboxEvent :=
    { id := inboxId
      tenantId
      eventKey := normalizedKey
      eventType := normalizedType
      payload
      status := .pending
      jobId
      receivedAt := now
      processedAt := none
      lastErrorCode := none }
  enqueue
    { tenantId
      kind := jobKind
      payload
      deduplicationKey := s!"inbox:{normalizedKey}"
      createdBy
      agentId := inbox.agentId
      maxAttempts
      leaseSeconds
      retryBaseSeconds
      correlationId := some normalizedKey
      sourceInbox := some inbox
      jobId := some jobId
      accepted := fun event he ↦ by
        obtain rfl := Option.some.inj he
        exact ⟨rfl, rfl, rfl⟩ } jobId eventId now

/-- What `replay` stores for a job that ended without success. -/
def replay (source : BackgroundJob) (hsource : 1 ≤ source.maxAttempts ∧ source.maxAttempts ≤ 20)
    (actorId replayId eventId : UUID) (confirmed : Bool) (reason : String) (now : Datetime) :
    Except TaskError ReplayRequest := do
  if !confirmed then throw (.validation "重放任务必须明确确认")
  let _ ← requiredText reason "重放原因" 500
  if !replayable source.status then throw (.conflict "只有失败、死信或已取消任务可以安全重放")
  let spec : JobSpec :=
    { id := replayId
      tenantId := source.tenantId
      agentId := source.agentId
      kind := source.kind
      queue := source.queue
      payload := source.payload
      deduplicationKey := s!"replay:{source.id}:{replayId}"
      sourceInboxId := none
      correlationId := source.correlationId
      maxAttempts := source.maxAttempts
      leaseSeconds := source.leaseSeconds
      retryBaseSeconds := source.retryBaseSeconds
      availableAt := now
      replayedFromId := some source.id
      createdBy := some actorId
      attempts := hsource }
  return { newTask spec eventId now with noInbox := rfl }

def publishDelay (baseSeconds attemptCount : ℕ) : ℕ := baseSeconds * 2 ^ min attemptCount 8

def executeDelay (job : BackgroundJob) : ℕ :=
  job.retryBaseSeconds * 2 ^ min (job.attemptCount - 1) 8

/-- The event handed to `fail_job`; the clock is read once for the retry time and once more for
the event. -/
def retryEvent (job : BackgroundJob) (eventId : UUID) (now later : Datetime) (h : now ≤ later) :
    RetryEvent job.id (now + seconds (executeDelay job)) where
  outbox := makeOutbox eventId job later (later + seconds (executeDelay job))
  requests := makeOutbox_requests _ _ _ _
  due := Nat.add_le_add_right h _

end BackgroundTaskService

end CyberNetizen.Application
