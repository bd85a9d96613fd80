import CyberNetizen.Infrastructure.TaskRepository

namespace CyberNetizen.Infrastructure

open Domain Cognition KeyedTable
open SqlAlchemyTaskRepository (inboxSet outboxCanceled claimCanceled claimed newAttempt renewed
  completed attemptCompleted failStatus failed attemptFailed outboxDue outboxLe publishing published
  released jobExpired eventExpired recoverStatus recovered attemptExpired retryOutbox
  getScheduledAction actionCanceled cancelWaiting usagesOf budgetExhausted decided)

namespace InMemoryTaskRepository

def putJob (s : TaskStore) (job : BackgroundJob) : TaskStore :=
  { s with jobs := s.jobs.put job }

def putOutbox (s : TaskStore) (event : OutboxEvent) : TaskStore :=
  { s with outboxEvents := s.outboxEvents.put event }

def putAttempt (s : TaskStore) (attempt : JobAttempt) : TaskStore :=
  { s with attempts := s.attempts.put attempt }

def setInboxStatus (s : TaskStore) (job : BackgroundJob) (status : InboxEventStatus)
    (now : Datetime) (errorCode : Option String := none) : TaskStore :=
  match job.sourceInboxId with
  | none => s
  | some inboxId =>
    match s.inboxEvents.find? inboxId with
    | none => s
    | some inbox =>
      { s with inboxEvents := s.inboxEvents.put (inboxSet status now errorCode inbox) }

def cancelOutbox (s : TaskStore) (jobId : UUID) (now : Datetime) : TaskStore :=
  { s with
    outboxEvents := s.outboxEvents.putEach
      (s.outboxEvents.rows.filter fun event ↦ event.jobId = jobId && outboxClaimable event.status)
      (outboxCanceled now) }

def enqueue (job : BackgroundJob) (outbox : OutboxEvent) (inbox : Option InboxEvent)
    (s : TaskStore) : Transaction (BackgroundJob × Bool) :=
  match s.jobByDeduplication job.tenantId job.deduplicationKey with
  | some existing => .ok ((existing, false), s)
  | none =>
    match inbox with
    | none => .ok ((job, true), putOutbox (putJob s job) outbox)
    | some event =>
      match s.inboxByEventKey event.tenantId event.eventKey with
      | some duplicate =>
        -- `self.jobs[duplicate.job_id]`
        match s.jobs.find? duplicate.jobId with
        | some existing => .ok ((existing, false), s)
        | none => .error .keyError
      | none =>
        let s := { s with inboxEvents := s.inboxEvents.put event }
        .ok ((job, true), putOutbox (putJob s job) outbox)

def requestCancel (tenantId jobId : UUID) (now : Datetime) (s : TaskStore) :
    Option BackgroundJob × TaskStore :=
  match s.jobs.find? jobId with
  | none => (none, s)
  | some item =>
    if item.tenantId ≠ tenantId then (none, s)
    else if jobTerminal item.status then (some item, s)
    else
      let status := if item.status = .running then .running else .canceled
      let updated := { item with
        status
        cancelRequestedAt := some now
        completedAt := if status = .canceled then some now else none
        updatedAt := now }
      let s := putJob s updated
      (some updated,
        if status = .canceled then setInboxStatus (cancelOutbox s jobId now) updated .canceled now
        else s)

def replay (tenantId sourceJobId : UUID) (job : BackgroundJob) (outbox : OutboxEvent)
    (s : TaskStore) : Option BackgroundJob × TaskStore :=
  match s.jobs.find? sourceJobId with
  | none => (none, s)
  | some source =>
    if source.tenantId ≠ tenantId then (none, s)
    else (some job, putOutbox (putJob s job) outbox)

def claimJob (jobId : UUID) (workerId : String) (now : Datetime) (attemptId : UUID)
    (s : TaskStore) : Option JobClaim × TaskStore :=
  match s.jobs.find? jobId with
  | none => (none, s)
  | some item =>
    if ¬jobWaiting item.status ∨ now < item.availableAt ∨ item.maxAttempts ≤ item.attemptCount then
      (none, s)
    else if item.cancelRequestedAt.isSome then
      let canceled := claimCanceled now item
      (none, setInboxStatus (putJob s canceled) canceled .canceled now)
    else
      let running := claimed workerId now item
      let attempt := newAttempt attemptId workerId now running
      (some ⟨running, attempt⟩,
        setInboxStatus (putAttempt (putJob s running) attempt) running .processing now)

def renewJobLease (jobId attemptId : UUID) (workerId : String) (now : Datetime) (s : TaskStore) :
    Bool × TaskStore :=
  match s.jobs.find? jobId, s.attempts.find? attemptId with
  | some job, some attempt =>
    if job.status ≠ .running ∨ job.leaseOwner ≠ some workerId ∨ attempt.status ≠ .running
        ∨ attempt.workerId ≠ workerId then (false, s)
    else (true, putJob s (renewed now job))
  | _, _ => (false, s)

/-- The check at the head of `complete_job` and `fail_job`: it does not ask whose attempt it is. -/
def execution (s : TaskStore) (jobId attemptId : UUID) (workerId : String) :
    Option (BackgroundJob × JobAttempt) :=
  match s.jobs.find? jobId, s.attempts.find? attemptId with
  | some item, some attempt =>
    if item.status ≠ .running ∨ item.leaseOwner ≠ some workerId ∨ attempt.status ≠ .running then
      none
    else some (item, attempt)
  | _, _ => none

def completeJob (jobId attemptId : UUID) (workerId : String) (resultSummary : JsonObject)
    (now : Datetime) (s : TaskStore) : Option BackgroundJob × TaskStore :=
  match execution s jobId attemptId workerId with
  | none => (none, s)
  | some (item, attempt) =>
    let canceled := item.cancelRequestedAt.isSome
    let updated := completed resultSummary now item
    let s := putAttempt (putJob s updated) (attemptCompleted canceled now attempt)
    (some updated, setInboxStatus s updated (if canceled then .canceled else .completed) now)

def failJob (jobId attemptId : UUID) (workerId errorCode errorSummary : String)
    (permanent timedOut : Bool) (retryAt : Datetime) (retryOutbox : OutboxEvent) (now : Datetime)
    (s : TaskStore) : Option BackgroundJob × TaskStore :=
  match execution s jobId attemptId workerId with
  | none => (none, s)
  | some (item, attempt) =>
    let status := failStatus permanent item
    let updated := failed errorCode errorSummary permanent retryAt now item
    let s := putAttempt (putJob s updated)
      (attemptFailed status timedOut errorCode errorSummary now attempt)
    (some updated,
      if status = .retrying then setInboxStatus (putOutbox s retryOutbox) updated .pending now
      else if status = .failed ∨ status = .deadLetter then
        setInboxStatus s updated .deadLetter now (some errorCode)
      else setInboxStatus s updated .canceled now)

/-- Ties are ordered by the identifier. -/
def claimOutbox (workerId : String) (now leaseExpiresAt : Datetime) (limit : ℕ) (s : TaskStore) :
    List OutboxEvent × TaskStore :=
  let due := s.outboxEvents.rows.filter (outboxDue now)
  let rows := (due.mergeSort (outboxLe id)).take limit
  (rows.map (publishing workerId now leaseExpiresAt),
    { s with
      outboxEvents := s.outboxEvents.putEach rows (publishing workerId now leaseExpiresAt) })

def markOutboxPublished (eventId : UUID) (workerId : String) (now : Datetime) (s : TaskStore) :
    TaskStore :=
  match s.outboxEvents.find? eventId with
  | none => s
  | some item =>
    if item.status = .publishing ∧ item.leaseOwner = some workerId then
      putOutbox s (published now item)
    else s

def markOutboxFailed (eventId : UUID) (workerId errorCode : String) (retryAt now : Datetime)
    (s : TaskStore) : TaskStore :=
  match s.outboxEvents.find? eventId with
  | none => s
  | some item =>
    if item.status = .publishing ∧ item.leaseOwner = some workerId then
      putOutbox s (released errorCode retryAt now item)
    else s

/-- One turn of the loop over the jobs, for a job whose lease has expired. -/
def recoverJob (now : Datetime) (freshId : UUID → UUID) (s : TaskStore) (item : BackgroundJob) :
    TaskStore :=
  let updated := recovered now item
  let s := putJob s updated
  let s := { s with
    attempts := s.attempts.putEach
      (s.attempts.rows.filter fun attempt ↦ attempt.jobId = item.id && attempt.status = .running)
      (attemptExpired now) }
  if recoverStatus item = .retrying then
    setInboxStatus (putOutbox s (retryOutbox (freshId item.id) updated now)) updated .pending now
  else setInboxStatus s updated .deadLetter now (some "LeaseExpired")

/-- Both loops run over the rows as they were before the loop. -/
def recoverExpiredLeases (now : Datetime) (freshId : UUID → UUID) (s : TaskStore) :
    ℕ × TaskStore :=
  let jobs := s.jobs.rows.filter (jobExpired now)
  let s := jobs.foldl (recoverJob now freshId) s
  let events := s.outboxEvents.rows.filter (eventExpired now)
  (jobs.length + events.length,
    { s with
      outboxEvents := s.outboxEvents.putEach events (released "LeaseExpired" now now) })

def createScheduledAction (action : ScheduledAction) (job : BackgroundJob) (outbox : OutboxEvent)
    (s : TaskStore) : (ScheduledAction × Bool) × TaskStore :=
  match s.actionByIdempotency action.tenantId action.idempotencyKey with
  | some existing => ((existing, false), s)
  | none =>
    let s := { s with scheduledActions := s.scheduledActions.put action }
    ((action, true), putOutbox (putJob s job) outbox)

/-- The job goes with the action whatever its status is. -/
def cancelScheduledAction (tenantId actionId : UUID) (now : Datetime) (s : TaskStore) :
    Option ScheduledAction × TaskStore :=
  match getScheduledAction tenantId actionId s with
  | none => (none, s)
  | some item =>
    if item.status ≠ .pending then (some item, s)
    else
      let updated := actionCanceled now item
      let s := { s with scheduledActions := s.scheduledActions.put updated }
      let s := match item.jobId.bind s.jobs.find? with
        | none => s
        | some job => cancelOutbox (putJob s (cancelWaiting now job)) job.id now
      (some updated, s)

/-- The usage of an action counts once, whatever day it was recorded for. -/
def chargeBudget (decision : ProactiveDecision) (budgetUsage : Option SocialBudgetUsage)
    (dailyBudget : ℕ) (s : TaskStore) : ProactiveDecision × TaskStore :=
  match budgetUsage with
  | none => (decision, s)
  | some usage =>
    let usages := usagesOf s usage.tenantId usage.agentId usage.userId usage.budgetDate
    if dailyBudget < (usages.map SocialBudgetUsage.cost).sum + usage.cost then
      (budgetExhausted decision.score, s)
    else if usage.scheduledActionId ∈
        s.budgetUsages.rows.map SocialBudgetUsage.scheduledActionId then (decision, s)
    else (decision, { s with budgetUsages := s.budgetUsages.put usage })

def decideScheduledAction (tenantId actionId : UUID) (decision : ProactiveDecision)
    (budgetUsage : Option SocialBudgetUsage) (dailyBudget : ℕ) (now : Datetime) (s : TaskStore) :
    Option ScheduledAction × TaskStore :=
  match getScheduledAction tenantId actionId s with
  | none => (none, s)
  | some item =>
    if item.status ≠ .pending then (some item, s)
    else
      let (effective, s) := chargeBudget decision budgetUsage dailyBudget s
      let updated := decided effective now item
      (some updated, { s with scheduledActions := s.scheduledActions.put updated })

/-- The repository over dictionaries, which keep their insertion order as the tables do. The
records it replaces change in the columns that the SQL statements set. -/
def step (s : TaskStore) : TaskCall → TaskReply × TaskStore
  | .enqueue request =>
    reply s (fun r ↦ .stored r.1 r.2) (enqueue request.job request.outbox request.inbox s)
  | .requestCancel tenantId jobId now =>
    let (job, s) := requestCancel tenantId jobId now s
    (.job job, s)
  | .replay tenantId sourceJobId request =>
    let (job, s) := replay tenantId sourceJobId request.job request.outbox s
    (.job job, s)
  | .claimJob jobId workerId now attemptId _ =>
    let (claim, s) := claimJob jobId workerId now attemptId s
    (.claim claim, s)
  | .renewJobLease jobId attemptId workerId now =>
    let (renewed, s) := renewJobLease jobId attemptId workerId now s
    (.renewed renewed, s)
  | .completeJob jobId attemptId workerId resultSummary now =>
    let (job, s) := completeJob jobId attemptId workerId resultSummary now s
    (.job job, s)
  | .failJob jobId attemptId workerId errorCode errorSummary permanent timedOut retryAt retry now =>
    let (job, s) := failJob jobId attemptId workerId errorCode errorSummary permanent timedOut
      retryAt retry.outbox now s
    (.job job, s)
  | .claimOutbox workerId now leaseExpiresAt limit _ _ =>
    let (events, s) := claimOutbox workerId now leaseExpiresAt limit s
    (.events events, s)
  | .markOutboxPublished eventId workerId now => (.none, markOutboxPublished eventId workerId now s)
  | .markOutboxFailed eventId workerId errorCode retryAt now =>
    (.none, markOutboxFailed eventId workerId errorCode retryAt now s)
  | .recoverExpiredLeases now freshId _ _ =>
    let (count, s) := recoverExpiredLeases now freshId s
    (.recovered count, s)
  | .createScheduledAction request =>
    let (r, s) := createScheduledAction request.action request.job request.outbox s
    (.scheduled r.1 r.2, s)
  | .cancelScheduledAction tenantId actionId now =>
    let (action, s) := cancelScheduledAction tenantId actionId now s
    (.action action, s)
  | .decideScheduledAction tenantId actionId decision budgetUsage dailyBudget now =>
    let (action, s) := decideScheduledAction tenantId actionId decision budgetUsage dailyBudget
      now s
    (.action action, s)

end InMemoryTaskRepository

end CyberNetizen.Infrastructure
