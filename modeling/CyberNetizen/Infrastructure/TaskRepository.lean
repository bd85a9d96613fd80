import Mathlib.Data.List.Sort
import CyberNetizen.Lib.Table
import CyberNetizen.Lib.UnitOfWork
import CyberNetizen.Domain.Task
import CyberNetizen.Cognition.Proactive

namespace CyberNetizen.Infrastructure

open Domain Cognition KeyedTable UnitOfWork

def jobTerminal : BackgroundJobStatus → Bool
  | .succeeded | .failed | .deadLetter | .canceled => true
  | .pending | .running | .retrying => false

def outboxClaimable : OutboxEventStatus → Bool
  | .pending | .retrying => true
  | .publishing | .published | .deadLetter | .canceled => false

/-- The statuses in which `claim_job` may take a job. -/
def jobWaiting : BackgroundJobStatus → Bool
  | .pending | .retrying => true
  | .running | .succeeded | .failed | .deadLetter | .canceled => false

def inboxProcessed : InboxEventStatus → Bool
  | .completed | .deadLetter | .canceled => true
  | .pending | .processing => false

/-- The mapped classes of the rows that one session adds together. -/
inductive TaskModel
  | backgroundJobModel
  | inboxEventModel
  | outboxEventModel
  | scheduledActionModel
  deriving DecidableEq

def TaskModel.className : TaskModel → String
  | .backgroundJobModel => "BackgroundJobModel"
  | .inboxEventModel => "InboxEventModel"
  | .outboxEventModel => "OutboxEventModel"
  | .scheduledActionModel => "ScheduledActionModel"

/-- No `relationship()` joins these classes, so a flush takes them by the name of the class. -/
def taskModels : List TaskModel :=
  [.backgroundJobModel, .inboxEventModel, .outboxEventModel, .scheduledActionModel]

example : (taskModels.map TaskModel.className).Pairwise (· < ·) := by decide

inductive RepositoryError
  | integrityError
  | keyError
  | valueError (message : String)
  deriving DecidableEq

structure TaskStore where
  inboxEvents : Table InboxEvent.id
  jobs : Table BackgroundJob.id
  outboxEvents : Table OutboxEvent.id
  attempts : Table JobAttempt.id
  scheduledActions : Table ScheduledAction.id
  budgetUsages : Table SocialBudgetUsage.id

/-- The calls of the `TaskRepository` protocol that write, with their arguments and the choices
left to the database: generated ids, rows that another transaction has locked, and the order of
tied rows. -/
inductive TaskCall
  | enqueue (request : EnqueueRequest)
  | requestCancel (tenantId jobId : UUID) (now : Datetime)
  | replay (tenantId sourceJobId : UUID) (request : ReplayRequest)
  | claimJob (jobId : UUID) (workerId : String) (now : Datetime) (attemptId : UUID) (locked : Bool)
  | renewJobLease (jobId attemptId : UUID) (workerId : String) (now : Datetime)
  | completeJob (jobId attemptId : UUID) (workerId : String) (resultSummary : JsonObject)
      (now : Datetime)
  | failJob (jobId attemptId : UUID) (workerId errorCode errorSummary : String)
      (permanent timedOut : Bool) (retryAt : Datetime) (retry : RetryEvent jobId retryAt)
      (now : Datetime)
  | claimOutbox (workerId : String) (now leaseExpiresAt : Datetime) (limit : ℕ) (rank : UUID → ℕ)
      (locked : UUID → Bool)
  | markOutboxPublished (eventId : UUID) (workerId : String) (now : Datetime)
  | markOutboxFailed (eventId : UUID) (workerId errorCode : String) (retryAt now : Datetime)
  | recoverExpiredLeases (now : Datetime) (freshId : UUID → UUID)
      (lockedJobs lockedEvents : UUID → Bool)
  | createScheduledAction (request : ScheduleRequest)
  | cancelScheduledAction (tenantId actionId : UUID) (now : Datetime)
  | decideScheduledAction (tenantId actionId : UUID) (decision : ProactiveDecision)
      (budgetUsage : Option SocialBudgetUsage) (dailyBudget : ℕ) (now : Datetime)

inductive TaskReply
  | stored (job : BackgroundJob) (created : Bool)
  | job (job : Option BackgroundJob)
  | claim (claim : Option JobClaim)
  | renewed (renewed : Bool)
  | events (events : List OutboxEvent)
  | none
  | recovered (count : ℕ)
  | scheduled (action : ScheduledAction) (created : Bool)
  | action (action : Option ScheduledAction)
  | raised (error : RepositoryError)

namespace TaskStore

def empty : TaskStore := ⟨.empty, .empty, .empty, .empty, .empty, .empty⟩

def jobByDeduplication (s : TaskStore) (tenantId : UUID) (key : String) : Option BackgroundJob :=
  s.jobs.rows.find? fun job ↦ job.tenantId = tenantId && job.deduplicationKey = key

def inboxByEventKey (s : TaskStore) (tenantId : UUID) (key : String) : Option InboxEvent :=
  s.inboxEvents.rows.find? fun event ↦ event.tenantId = tenantId && event.eventKey = key

def actionByIdempotency (s : TaskStore) (tenantId : UUID) (key : String) :
    Option ScheduledAction :=
  s.scheduledActions.rows.find? fun action ↦
    action.tenantId = tenantId && action.idempotencyKey = key

/-- The foreign keys on the inbox event and on the replayed job, `uq_background_jobs_deduplication`,
`uq_background_jobs_source_inbox` and the primary key. All are checked at once; the foreign key of
`inbox_events` on the job is deferred. -/
def insertJob (s : TaskStore) (job : BackgroundJob) : Option TaskStore :=
  if job.sourceInboxId.any (fun inboxId ↦ (s.inboxEvents.find? inboxId).isNone) then none
  else if job.replayedFromId.any (fun jobId ↦ (s.jobs.find? jobId).isNone) then none
  else if (s.jobByDeduplication job.tenantId job.deduplicationKey).isSome then none
  else if job.sourceInboxId.isSome
      && s.jobs.rows.any (fun row ↦ row.sourceInboxId = job.sourceInboxId) then none
  else (s.jobs.insert? job).map fun jobs ↦ { s with jobs }

/-- `uq_inbox_events_tenant_key`, `uq_inbox_events_job` and the primary key. -/
def insertInbox (s : TaskStore) (event : InboxEvent) : Option TaskStore :=
  if (s.inboxByEventKey event.tenantId event.eventKey).isSome then none
  else if s.inboxEvents.rows.any (fun row ↦ row.jobId = event.jobId) then none
  else (s.inboxEvents.insert? event).map fun inboxEvents ↦ { s with inboxEvents }

def insertOutbox (s : TaskStore) (event : OutboxEvent) : Option TaskStore :=
  if (s.jobs.find? event.jobId).isNone then none
  else (s.outboxEvents.insert? event).map fun outboxEvents ↦ { s with outboxEvents }

/-- `uq_job_attempts_number`, the foreign key on the job and the primary key. -/
def insertAttempt (s : TaskStore) (attempt : JobAttempt) : Option TaskStore :=
  if (s.jobs.find? attempt.jobId).isNone then none
  else if s.attempts.rows.any (fun row ↦
      row.jobId = attempt.jobId && row.attemptNumber = attempt.attemptNumber) then none
  else (s.attempts.insert? attempt).map fun attempts ↦ { s with attempts }

/-- The foreign key on the job, `uq_scheduled_actions_idempotency`, `uq_scheduled_actions_job` and the
primary key. -/
def insertAction (s : TaskStore) (action : ScheduledAction) : Option TaskStore :=
  if action.jobId.any (fun jobId ↦ (s.jobs.find? jobId).isNone) then none
  else if (s.actionByIdempotency action.tenantId action.idempotencyKey).isSome then none
  else if s.scheduledActions.rows.any (fun row ↦ row.jobId = action.jobId) then none
  else (s.scheduledActions.insert? action).map fun scheduledActions ↦ { s with scheduledActions }

/-- `uq_social_budget_usages_action`, the foreign key on the action and the primary key. -/
def insertUsage (s : TaskStore) (usage : SocialBudgetUsage) : Option TaskStore :=
  if (s.scheduledActions.find? usage.scheduledActionId).isNone then none
  else if s.budgetUsages.rows.any (fun row ↦ row.scheduledActionId = usage.scheduledActionId)
  then none
  else (s.budgetUsages.insert? usage).map fun budgetUsages ↦ { s with budgetUsages }

variable {s s' : TaskStore}

theorem insertJob_eq_some {job : BackgroundJob} (h : s.insertJob job = some s') :
    s.jobByDeduplication job.tenantId job.deduplicationKey = none ∧
    (∀ row ∈ s.jobs, job.sourceInboxId ≠ none → row.sourceInboxId ≠ job.sourceInboxId) ∧
    ∃ jobs, s.jobs.insert? job = some jobs ∧ s' = { s with jobs } := by
  unfold insertJob at h
  split at h
  · exact absurd h (by simp)
  split at h
  · exact absurd h (by simp)
  split at h
  · exact absurd h (by simp)
  rename_i hkey
  split at h
  · exact absurd h (by simp)
  rename_i hsource
  obtain ⟨jobs, hjobs, rfl⟩ := Option.map_eq_some_iff.mp h
  refine ⟨by simpa using hkey, fun row hrow hnone he ↦ hsource ?_, jobs, hjobs, rfl⟩
  simp only [Bool.and_eq_true, List.any_eq_true, decide_eq_true_eq]
  exact ⟨Option.isSome_iff_ne_none.mpr hnone, row, hrow, he⟩

theorem insertJob_source {job : BackgroundJob} {inboxId : UUID}
    (hsource : job.sourceInboxId = some inboxId) (habsent : s.inboxEvents.find? inboxId = none) :
    s.insertJob job = none := by
  unfold insertJob
  rw [if_pos (by simp [hsource, habsent])]

theorem insertInbox_eq_some {event : InboxEvent} (h : s.insertInbox event = some s') :
    s.inboxByEventKey event.tenantId event.eventKey = none ∧
    ∃ inboxEvents, s.inboxEvents.insert? event = some inboxEvents ∧
      s' = { s with inboxEvents } := by
  unfold insertInbox at h
  split at h
  · exact absurd h (by simp)
  rename_i hkey
  split at h
  · exact absurd h (by simp)
  obtain ⟨inboxEvents, hevents, rfl⟩ := Option.map_eq_some_iff.mp h
  exact ⟨by simpa using hkey, inboxEvents, hevents, rfl⟩

theorem insertInbox_stored {event stored : InboxEvent}
    (h : s.inboxEvents.find? event.id = some stored) : s.insertInbox event = none := by
  cases hinsert : s.insertInbox event with
  | none => rfl
  | some t =>
    obtain ⟨-, inboxEvents, hevents, -⟩ := insertInbox_eq_some hinsert
    obtain ⟨hmem, hid⟩ := Table.find?_eq_some.mp h
    exact absurd hid ((Table.insert?_eq_some hevents).1 stored hmem)

theorem insertOutbox_eq_some {event : OutboxEvent} (h : s.insertOutbox event = some s') :
    ∃ outboxEvents, s.outboxEvents.insert? event = some outboxEvents ∧
      s' = { s with outboxEvents } := by
  unfold insertOutbox at h
  split at h
  · exact absurd h (by simp)
  obtain ⟨outboxEvents, hevents, rfl⟩ := Option.map_eq_some_iff.mp h
  exact ⟨outboxEvents, hevents, rfl⟩

theorem insertAttempt_eq_some {attempt : JobAttempt} (h : s.insertAttempt attempt = some s') :
    ∃ attempts, s.attempts.insert? attempt = some attempts ∧ s' = { s with attempts } := by
  unfold insertAttempt at h
  split at h
  · exact absurd h (by simp)
  split at h
  · exact absurd h (by simp)
  obtain ⟨attempts, hattempts, rfl⟩ := Option.map_eq_some_iff.mp h
  exact ⟨attempts, hattempts, rfl⟩

theorem insertAction_eq_some {action : ScheduledAction} (h : s.insertAction action = some s') :
    s.actionByIdempotency action.tenantId action.idempotencyKey = none ∧
    ∃ scheduledActions, s.scheduledActions.insert? action = some scheduledActions ∧
      s' = { s with scheduledActions } := by
  unfold insertAction at h
  split at h
  · exact absurd h (by simp)
  split at h
  · exact absurd h (by simp)
  rename_i hkey
  split at h
  · exact absurd h (by simp)
  obtain ⟨scheduledActions, hactions, rfl⟩ := Option.map_eq_some_iff.mp h
  exact ⟨by simpa using hkey, scheduledActions, hactions, rfl⟩

theorem insertUsage_eq_some {usage : SocialBudgetUsage} (h : s.insertUsage usage = some s') :
    (∀ row ∈ s.budgetUsages, row.scheduledActionId ≠ usage.scheduledActionId) ∧
    ∃ budgetUsages, s.budgetUsages.insert? usage = some budgetUsages ∧
      s' = { s with budgetUsages } := by
  unfold insertUsage at h
  split at h
  · exact absurd h (by simp)
  split at h
  · exact absurd h (by simp)
  rename_i haction
  obtain ⟨budgetUsages, husages, rfl⟩ := Option.map_eq_some_iff.mp h
  refine ⟨fun row hrow he ↦ haction ?_, budgetUsages, husages, rfl⟩
  simp only [List.any_eq_true, decide_eq_true_eq]
  exact ⟨row, hrow, he⟩

end TaskStore

/-- A transaction: its result with the tables it leaves, or the exception that rolls it back. -/
abbrev Transaction (α : Type) := Except RepositoryError (α × TaskStore)

def reply {α : Type} (s : TaskStore) (f : α → TaskReply) : Transaction α → TaskReply × TaskStore
  | .ok (a, s') => (f a, s')
  | .error error => (.raised error, s)

theorem reply_state {α : Type} {s : TaskStore} {f : α → TaskReply} {x : Transaction α}
    {P : TaskStore → Prop} (hs : P s) (h : ∀ a s', x = .ok (a, s') → P s') : P (reply s f x).2 := by
  unfold reply
  split
  · rename_i a s'
    exact h a s' rfl
  · exact hs

namespace SqlAlchemyTaskRepository

def setJob (s : TaskStore) (jobId : UUID) (f : Update BackgroundJob.id) : TaskStore :=
  { s with jobs := s.jobs.updateWhere (fun row ↦ row.id = jobId) f }

def setAttempt (s : TaskStore) (attemptId : UUID) (f : Update JobAttempt.id) : TaskStore :=
  { s with attempts := s.attempts.updateWhere (fun row ↦ row.id = attemptId) f }

/-- The columns `_set_inbox_row` writes. -/
def inboxSet (status : InboxEventStatus) (now : Datetime) (errorCode : Option String) :
    Update InboxEvent.id where
  toFun event :=
    { event with
      status
      processedAt := if inboxProcessed status then some now else none
      lastErrorCode := errorCode }
  key_eq _ := rfl

def setInboxRow (s : TaskStore) (job : BackgroundJob) (status : InboxEventStatus)
    (now : Datetime) (errorCode : Option String := none) : TaskStore :=
  match job.sourceInboxId with
  | none => s
  | some inboxId =>
    { s with
      inboxEvents := s.inboxEvents.updateWhere (fun row ↦ row.id = inboxId)
        (inboxSet status now errorCode) }

section setInboxRow

variable (s : TaskStore) (job : BackgroundJob) (status : InboxEventStatus) (now : Datetime)
  (errorCode : Option String)

theorem setInboxRow_eq :
    setInboxRow s job status now errorCode =
      { s with
        inboxEvents := s.inboxEvents.updateWhere (fun row ↦ some row.id = job.sourceInboxId)
          (inboxSet status now errorCode) } := by
  unfold setInboxRow
  split
  · rename_i h
    rw [Table.updateWhere_eq_self]
    simp [h]
  · rename_i inboxId h
    simp [h]

@[simp] theorem setInboxRow_jobs : (setInboxRow s job status now errorCode).jobs = s.jobs := by
  rw [setInboxRow_eq]

@[simp] theorem setInboxRow_attempts :
    (setInboxRow s job status now errorCode).attempts = s.attempts := by
  rw [setInboxRow_eq]

@[simp] theorem setInboxRow_outboxEvents :
    (setInboxRow s job status now errorCode).outboxEvents = s.outboxEvents := by
  rw [setInboxRow_eq]

@[simp] theorem setInboxRow_scheduledActions :
    (setInboxRow s job status now errorCode).scheduledActions = s.scheduledActions := by
  rw [setInboxRow_eq]

@[simp] theorem setInboxRow_budgetUsages :
    (setInboxRow s job status now errorCode).budgetUsages = s.budgetUsages := by
  rw [setInboxRow_eq]

end setInboxRow

def outboxCanceled (now : Datetime) : Update OutboxEvent.id where
  toFun row :=
    { row with status := .canceled, leaseOwner := none, leaseExpiresAt := none, updatedAt := now }
  key_eq _ := rfl

def cancelOutboxRows (s : TaskStore) (jobId : UUID) (now : Datetime) : TaskStore :=
  { s with
    outboxEvents := s.outboxEvents.updateWhere
      (fun row ↦ row.jobId = jobId && outboxClaimable row.status) (outboxCanceled now) }

def inboxModel (event : InboxEvent) : Pending TaskModel TaskStore :=
  ⟨.inboxEventModel, (·.insertInbox event)⟩

def jobModel (job : BackgroundJob) : Pending TaskModel TaskStore :=
  ⟨.backgroundJobModel, (·.insertJob job)⟩

def outboxModel (event : OutboxEvent) : Pending TaskModel TaskStore :=
  ⟨.outboxEventModel, (·.insertOutbox event)⟩

def scheduledModel (action : ScheduledAction) : Pending TaskModel TaskStore :=
  ⟨.scheduledActionModel, (·.insertAction action)⟩

def enqueue (job : BackgroundJob) (outbox : OutboxEvent) (inbox : Option InboxEvent)
    (s : TaskStore) : Transaction (BackgroundJob × Bool) :=
  match flush taskModels ((inbox.map inboxModel).toList ++ [jobModel job, outboxModel outbox]) s with
  | some s' => .ok ((job, true), s')
  | none =>
    -- `except IntegrityError`: report the job that already carries the key
    match s.jobByDeduplication job.tenantId job.deduplicationKey with
    | some existing => .ok ((existing, false), s)
    | none =>
      let duplicate := do
        let event ← inbox
        let row ← s.inboxByEventKey event.tenantId event.eventKey
        s.jobs.find? row.jobId
      match duplicate with
      | some existing => .ok ((existing, false), s)
      | none => .error .integrityError

section flush

variable {s s' : TaskStore} {job : BackgroundJob} {outbox : OutboxEvent} {inbox : Option InboxEvent}

theorem flush_task (h : flush taskModels [jobModel job, outboxModel outbox] s = some s') :
    ∃ t, s.insertJob job = some t ∧ t.insertOutbox outbox = some s' := by
  obtain ⟨t, hjob, hrest⟩ := Option.bind_eq_some_iff.mp h
  obtain ⟨u, houtbox, hdone⟩ := Option.bind_eq_some_iff.mp hrest
  obtain rfl := Option.some.inj hdone
  exact ⟨t, hjob, houtbox⟩

theorem flush_scheduled {action : ScheduledAction}
    (h : flush taskModels [jobModel job, scheduledModel action, outboxModel outbox] s = some s') :
    ∃ t u, s.insertJob job = some t ∧ t.insertOutbox outbox = some u ∧
      u.insertAction action = some s' := by
  obtain ⟨t, hjob, hrest⟩ := Option.bind_eq_some_iff.mp h
  obtain ⟨u, houtbox, hrest⟩ := Option.bind_eq_some_iff.mp hrest
  obtain ⟨v, haction, hdone⟩ := Option.bind_eq_some_iff.mp hrest
  obtain rfl := Option.some.inj hdone
  exact ⟨t, u, hjob, houtbox, haction⟩

/-- A job is inserted before the inbox event it comes from, and refused. -/
theorem flush_inbox {event : InboxEvent} (hsource : job.sourceInboxId = some event.id) :
    flush taskModels [inboxModel event, jobModel job, outboxModel outbox] s = none := by
  cases hfind : s.inboxEvents.find? event.id with
  | none =>
    refine flush_refused [] _ (jobModel job) (fun t ↦ t.inboxEvents.find? event.id = none)
      (by simp) ?_
      (fun t ht ↦ TaskStore.insertJob_source hsource ht) hfind
    intro row hrow hmapper t t' ht hinsert
    simp only [List.mem_cons, List.not_mem_nil, or_false] at hrow
    rcases hrow with rfl | rfl | rfl
    · simp [inboxModel, jobModel] at hmapper
    · cases (TaskStore.insertJob_source hsource ht).symm.trans hinsert
    · simp [outboxModel, jobModel] at hmapper
  | some stored =>
    refine flush_refused [.backgroundJobModel] _ (inboxModel event)
      (fun t ↦ t.inboxEvents.find? event.id = some stored) List.mem_cons_self ?_ ?_ hfind
    · intro row hrow hmapper t t' ht hinsert
      simp only [List.mem_cons, List.not_mem_nil, or_false] at hrow
      rcases hrow with rfl | rfl | rfl
      · cases (TaskStore.insertInbox_stored ht).symm.trans hinsert
      · obtain ⟨-, -, jobs, -, rfl⟩ := TaskStore.insertJob_eq_some hinsert
        exact ht
      · simp [outboxModel, inboxModel] at hmapper
    · exact fun t ht ↦ TaskStore.insertInbox_stored ht

end flush

def cancelRequested (now : Datetime) : Update BackgroundJob.id where
  toFun row :=
    { row with cancelRequestedAt := some now, updatedAt := now }
  key_eq _ := rfl

def cancelWaiting (now : Datetime) : Update BackgroundJob.id where
  toFun row :=
    { row with
      cancelRequestedAt := some now, updatedAt := now, status := .canceled, completedAt := some now }
  key_eq _ := rfl

def requestCancel (tenantId jobId : UUID) (now : Datetime) (s : TaskStore) :
    Option BackgroundJob × TaskStore :=
  match s.jobs.find? jobId with
  | none => (none, s)
  | some row =>
    if row.tenantId ≠ tenantId then (none, s)
    else if jobTerminal row.status then (some row, s)
    else if row.status ≠ .running then
      let s := setJob s jobId (cancelWaiting now)
      let s := cancelOutboxRows s jobId now
      let s := setInboxRow s row .canceled now
      (some (cancelWaiting now row), s)
    else
      (some (cancelRequested now row), setJob s jobId (cancelRequested now))

def replay (tenantId sourceJobId : UUID) (job : BackgroundJob) (outbox : OutboxEvent)
    (s : TaskStore) : Transaction (Option BackgroundJob) :=
  match s.jobs.find? sourceJobId with
  | none => .ok (none, s)
  | some source =>
    if source.tenantId ≠ tenantId then .ok (none, s)
    else
      match flush taskModels [jobModel job, outboxModel outbox] s with
      | some s' => .ok (some job, s')
      | none => .error .integrityError

def claimCanceled (now : Datetime) : Update BackgroundJob.id where
  toFun row :=
    { row with status := .canceled, completedAt := some now, updatedAt := now }
  key_eq _ := rfl

def claimed (workerId : String) (now : Datetime) : Update BackgroundJob.id where
  toFun row :=
    { row with
      status := .running
      attemptCount := row.attemptCount + 1
      leaseOwner := some workerId
      leaseExpiresAt := some (now + seconds row.leaseSeconds)
      startedAt := some (row.startedAt.getD now)
      updatedAt := now }
  key_eq _ := rfl

/-- The attempt row of a claim; `row` is the job as claimed. -/
def newAttempt (attemptId : UUID) (workerId : String) (now : Datetime) (row : BackgroundJob) :
    JobAttempt where
  id := attemptId
  tenantId := row.tenantId
  jobId := row.id
  attemptNumber := row.attemptCount
  status := .running
  workerId := workerId
  startedAt := now
  completedAt := none
  errorCode := none
  errorSummary := none

/-- `locked` tells that another transaction holds the row: the query skips locked rows.
`attemptId` is the generated id. -/
def claimJob (jobId : UUID) (workerId : String) (now : Datetime) (attemptId : UUID)
    (locked : Bool) (s : TaskStore) : Transaction (Option JobClaim) :=
  match if locked then none else s.jobs.find? jobId with
  | none => .ok (none, s)
  | some row =>
    if ¬jobWaiting row.status ∨ now < row.availableAt ∨ row.maxAttempts ≤ row.attemptCount then
      .ok (none, s)
    else if row.cancelRequestedAt.isSome then
      .ok (none, setInboxRow (setJob s jobId (claimCanceled now)) row .canceled now)
    else
      let running := claimed workerId now row
      let attempt := newAttempt attemptId workerId now running
      match (setJob s jobId (claimed workerId now)).insertAttempt attempt with
      | none => .error .integrityError
      | some s' => .ok (some ⟨running, attempt⟩, setInboxRow s' row .processing now)

def renewed (now : Datetime) : Update BackgroundJob.id where
  toFun row :=
    { row with leaseExpiresAt := some (now + seconds row.leaseSeconds), updatedAt := now }
  key_eq _ := rfl

def renewJobLease (jobId attemptId : UUID) (workerId : String) (now : Datetime) (s : TaskStore) :
    Bool × TaskStore :=
  match s.jobs.find? jobId, s.attempts.find? attemptId with
  | some row, some attempt =>
    if row.status ≠ .running ∨ row.leaseOwner ≠ some workerId ∨ attempt.status ≠ .running
        ∨ attempt.workerId ≠ workerId then (false, s)
    else (true, setJob s jobId (renewed now))
  | _, _ => (false, s)

def lockedExecution (s : TaskStore) (jobId attemptId : UUID) (workerId : String) :
    Option BackgroundJob × Option JobAttempt :=
  ((s.jobs.find? jobId).filter fun row ↦ row.status = .running && row.leaseOwner = some workerId,
    (s.attempts.find? attemptId).filter fun attempt ↦
      attempt.jobId = jobId && attempt.status = .running)

def completed (resultSummary : JsonObject) (now : Datetime) : Update BackgroundJob.id where
  toFun row :=
    { row with
      status := if row.cancelRequestedAt.isSome then .canceled else .succeeded
      resultSummary := if row.cancelRequestedAt.isSome then [] else resultSummary
      leaseOwner := none
      leaseExpiresAt := none
      completedAt := some now
      updatedAt := now }
  key_eq _ := rfl

def attemptCompleted (canceled : Bool) (now : Datetime) : Update JobAttempt.id where
  toFun attempt :=
    { attempt with
      status := if canceled then .canceled else .succeeded
      completedAt := some now }
  key_eq _ := rfl

def completeJob (jobId attemptId : UUID) (workerId : String) (resultSummary : JsonObject)
    (now : Datetime) (s : TaskStore) : Option BackgroundJob × TaskStore :=
  match lockedExecution s jobId attemptId workerId with
  | (some row, some _) =>
    let canceled := row.cancelRequestedAt.isSome
    let s := setJob s jobId (completed resultSummary now)
    let s := setAttempt s attemptId (attemptCompleted canceled now)
    let s := setInboxRow s row (if canceled then .canceled else .completed) now
    (some (completed resultSummary now row), s)
  | _ => (none, s)

def failStatus (permanent : Bool) (row : BackgroundJob) : BackgroundJobStatus :=
  if row.cancelRequestedAt.isSome then .canceled
  else if permanent then .failed
  else if row.maxAttempts ≤ row.attemptCount then .deadLetter
  else .retrying

def failed (errorCode errorSummary : String) (permanent : Bool) (retryAt now : Datetime) :
    Update BackgroundJob.id where
  toFun row :=
    { row with
      status := failStatus permanent row
      availableAt := if failStatus permanent row = .retrying then retryAt else row.availableAt
      leaseOwner := none
      leaseExpiresAt := none
      lastErrorCode := some errorCode
      lastErrorSummary := some errorSummary
      completedAt := if jobTerminal (failStatus permanent row) then some now else none
      updatedAt := now }
  key_eq _ := rfl

def attemptFailed (status : BackgroundJobStatus) (timedOut : Bool)
    (errorCode errorSummary : String) (now : Datetime) : Update JobAttempt.id where
  toFun attempt :=
    { attempt with
      status := if status = .canceled then .canceled else if timedOut then .timedOut else .failed
      completedAt := some now
      errorCode := some errorCode
      errorSummary := some errorSummary }
  key_eq _ := rfl

def failJob (jobId attemptId : UUID) (workerId errorCode errorSummary : String)
    (permanent timedOut : Bool) (retryAt : Datetime) (retryOutbox : OutboxEvent) (now : Datetime)
    (s : TaskStore) : Transaction (Option BackgroundJob) :=
  match lockedExecution s jobId attemptId workerId with
  | (some row, some _) =>
    let status := failStatus permanent row
    let s := setJob s jobId (failed errorCode errorSummary permanent retryAt now)
    let s := setAttempt s attemptId (attemptFailed status timedOut errorCode errorSummary now)
    let settled := failed errorCode errorSummary permanent retryAt now row
    if status = .retrying then
      match s.insertOutbox retryOutbox with
      | none => .error .integrityError
      | some s => .ok (some settled, setInboxRow s row .pending now)
    else if status = .failed ∨ status = .deadLetter then
      .ok (some settled, setInboxRow s row .deadLetter now (some errorCode))
    else .ok (some settled, setInboxRow s row .canceled now)
  | _ => .ok (none, s)

/-- An outbox event a publisher may take at `now`. -/
def outboxDue (now : Datetime) (event : OutboxEvent) : Bool :=
  outboxClaimable event.status && event.availableAt ≤ now
    && event.attemptCount < event.maxAttempts

/-- `ORDER BY available_at, created_at`; among ties the order is the database's, given by `rank`. -/
def outboxLe (rank : UUID → ℕ) (a b : OutboxEvent) : Bool :=
  a.availableAt < b.availableAt || (a.availableAt = b.availableAt &&
    (a.createdAt < b.createdAt || (a.createdAt = b.createdAt && rank a.id ≤ rank b.id)))

def publishing (workerId : String) (now leaseExpiresAt : Datetime) : Update OutboxEvent.id where
  toFun row :=
    { row with
      status := .publishing
      attemptCount := row.attemptCount + 1
      leaseOwner := some workerId
      leaseExpiresAt := some leaseExpiresAt
      updatedAt := now }
  key_eq _ := rfl

def claimOutbox (workerId : String) (now leaseExpiresAt : Datetime) (limit : ℕ)
    (rank : UUID → ℕ) (locked : UUID → Bool) (s : TaskStore) : List OutboxEvent × TaskStore :=
  let due := s.outboxEvents.rows.filter fun row ↦ outboxDue now row && !locked row.id
  let rows := (due.mergeSort (outboxLe rank)).take limit
  (rows.map (publishing workerId now leaseExpiresAt),
    { s with
      outboxEvents := s.outboxEvents.updateWhere (fun row ↦ row.id ∈ rows.map OutboxEvent.id)
        (publishing workerId now leaseExpiresAt) })

def heldBy (eventId : UUID) (workerId : String) (row : OutboxEvent) : Bool :=
  row.id = eventId && row.status = .publishing && row.leaseOwner = some workerId

def published (now : Datetime) : Update OutboxEvent.id where
  toFun row :=
    { row with
      status := .published
      leaseOwner := none
      leaseExpiresAt := none
      publishedAt := some now
      updatedAt := now }
  key_eq _ := rfl

def markOutboxPublished (eventId : UUID) (workerId : String) (now : Datetime) (s : TaskStore) :
    TaskStore :=
  { s with
    outboxEvents := s.outboxEvents.updateWhere (heldBy eventId workerId) (published now) }

/-- Return an event to the queue, or give it up when its attempts are used up. -/
def released (errorCode : String) (retryAt now : Datetime) : Update OutboxEvent.id where
  toFun row :=
    { row with
      status := if row.maxAttempts ≤ row.attemptCount then .deadLetter else .retrying
      availableAt := retryAt
      leaseOwner := none
      leaseExpiresAt := none
      lastErrorCode := some errorCode
      updatedAt := now }
  key_eq _ := rfl

def markOutboxFailed (eventId : UUID) (workerId errorCode : String) (retryAt now : Datetime)
    (s : TaskStore) : TaskStore :=
  { s with
    outboxEvents := s.outboxEvents.updateWhere (heldBy eventId workerId)
      (released errorCode retryAt now) }

def leaseExpired (now : Datetime) (leaseExpiresAt : Option Datetime) : Bool :=
  leaseExpiresAt.any fun expiry ↦ expiry ≤ now

def jobExpired (now : Datetime) (row : BackgroundJob) : Bool :=
  row.status = .running && leaseExpired now row.leaseExpiresAt

def eventExpired (now : Datetime) (row : OutboxEvent) : Bool :=
  row.status = .publishing && leaseExpired now row.leaseExpiresAt

def recoverStatus (row : BackgroundJob) : BackgroundJobStatus :=
  if row.maxAttempts ≤ row.attemptCount then .deadLetter else .retrying

def recovered (now : Datetime) : Update BackgroundJob.id where
  toFun row :=
    { row with
      status := recoverStatus row
      availableAt := now
      leaseOwner := none
      leaseExpiresAt := none
      lastErrorCode := some "LeaseExpired"
      lastErrorSummary := some "Worker 租约过期，任务已由恢复器接管。"
      completedAt := if recoverStatus row = .deadLetter then some now else none
      updatedAt := now }
  key_eq _ := rfl

def attemptExpired (now : Datetime) : Update JobAttempt.id where
  toFun attempt :=
    { attempt with
      status := .timedOut
      completedAt := some now
      errorCode := some "LeaseExpired"
      errorSummary := some "Worker 租约过期。" }
  key_eq _ := rfl

/-- `_retry_outbox`; `eventId` is the generated id. -/
def retryOutbox (eventId : UUID) (job : BackgroundJob) (now : Datetime) : OutboxEvent where
  id := eventId
  tenantId := job.tenantId
  jobId := job.id
  eventType := "background_job.recovered"
  payload := [("job_id", .str (toString job.id)), ("queue", .str job.queue)]
  status := .pending
  attemptCount := 0
  maxAttempts := max 5 job.maxAttempts
  availableAt := now
  leaseOwner := none
  leaseExpiresAt := none
  lastErrorCode := none
  createdAt := now
  publishedAt := none
  updatedAt := now

/-- One turn of the loop over the expired jobs. -/
def recoverJob (now : Datetime) (freshId : UUID → UUID) (s : TaskStore) (jobId : UUID) :
    Option TaskStore :=
  match s.jobs.find? jobId with
  | none => some s
  | some row =>
    let s := setJob s jobId (recovered now)
    let s := { s with
      attempts := s.attempts.updateWhere
        (fun attempt ↦ attempt.jobId = jobId && attempt.status = .running) (attemptExpired now) }
    if recoverStatus row = .retrying then
      (s.insertOutbox (retryOutbox (freshId jobId) (recovered now row) now)).map
        fun s ↦ setInboxRow s row .pending now
    else some (setInboxRow s row .deadLetter now (some "LeaseExpired"))

/-- Both queries skip rows locked by another transaction. `freshId` gives the ids generated for
the new outbox events. -/
def recoverExpiredLeases (now : Datetime) (freshId : UUID → UUID)
    (lockedJobs lockedEvents : UUID → Bool) (s : TaskStore) : Transaction ℕ :=
  let jobs := s.jobs.rows.filter fun row ↦ jobExpired now row && !lockedJobs row.id
  match (jobs.map BackgroundJob.id).foldlM (recoverJob now freshId) s with
  | none => .error .integrityError
  | some s =>
    let expired := fun row : OutboxEvent ↦ eventExpired now row && !lockedEvents row.id
    .ok (jobs.length + (s.outboxEvents.rows.filter expired).length,
      { s with
        outboxEvents := s.outboxEvents.updateWhere expired (released "LeaseExpired" now now) })

def createScheduledAction (action : ScheduledAction) (job : BackgroundJob) (outbox : OutboxEvent)
    (s : TaskStore) : Transaction (ScheduledAction × Bool) :=
  if action.jobId.isNone then .error (.valueError "持久化定时行为必须绑定后台任务")
  else
    match flush taskModels [jobModel job, scheduledModel action, outboxModel outbox] s with
    | some s' => .ok ((action, true), s')
    | none =>
      match s.actionByIdempotency action.tenantId action.idempotencyKey with
      | some existing => .ok ((existing, false), s)
      | none => .error .integrityError

def getScheduledAction (tenantId actionId : UUID) (s : TaskStore) : Option ScheduledAction :=
  (s.scheduledActions.find? actionId).filter fun row ↦ row.tenantId = tenantId

def actionCanceled (now : Datetime) : Update ScheduledAction.id where
  toFun row :=
    { row with status := .canceled, updatedAt := now, completedAt := some now }
  key_eq _ := rfl

def setAction (s : TaskStore) (actionId : UUID) (f : Update ScheduledAction.id) :
    TaskStore :=
  { s with scheduledActions := s.scheduledActions.updateWhere (fun row ↦ row.id = actionId) f }

def cancelScheduledAction (tenantId actionId : UUID) (now : Datetime) (s : TaskStore) :
    Option ScheduledAction × TaskStore :=
  match getScheduledAction tenantId actionId s with
  | none => (none, s)
  | some row =>
    if row.status ≠ .pending then (some row, s)
    else
      let s := setAction s actionId (actionCanceled now)
      let s := match row.jobId.bind s.jobs.find? with
        | none => s
        | some job =>
          if jobTerminal job.status then s
          else cancelOutboxRows (setJob s job.id (cancelWaiting now)) job.id now
      (some (actionCanceled now row), s)

def usagesOf (s : TaskStore) (tenantId agentId userId : UUID) (budgetDate : Date) :
    List SocialBudgetUsage :=
  s.budgetUsages.rows.filter fun row ↦ row.tenantId = tenantId && row.agentId = agentId
    && row.userId = userId && row.budgetDate = budgetDate

def socialBudgetUsed (tenantId agentId userId : UUID) (budgetDate : Date) (s : TaskStore) : ℕ :=
  ((usagesOf s tenantId agentId userId budgetDate).map SocialBudgetUsage.cost).sum

def budgetExhausted (score : ℚ) : ProactiveDecision :=
  ⟨false, score, ["daily_social_budget_exhausted"]⟩

def decidedStatus (decision : ProactiveDecision) : ScheduledActionStatus :=
  if "action_expired" ∈ decision.reasons then .expired
  else if decision.approved then .dispatched
  else .suppressed

def decided (decision : ProactiveDecision) (now : Datetime) : Update ScheduledAction.id where
  toFun row :=
    { row with
      status := decidedStatus decision
      score := some decision.score
      decisionReasons := decision.reasons
      updatedAt := now
      completedAt := some now }
  key_eq _ := rfl

/-- The budget check made under the advisory lock: the decision that stands, and the tables with
the usage recorded. -/
def chargeBudget (decision : ProactiveDecision) (budgetUsage : Option SocialBudgetUsage)
    (dailyBudget : ℕ) (s : TaskStore) : Transaction ProactiveDecision :=
  match budgetUsage with
  | none => .ok (decision, s)
  | some usage =>
    let usages := usagesOf s usage.tenantId usage.agentId usage.userId usage.budgetDate
    if dailyBudget < (usages.map SocialBudgetUsage.cost).sum + usage.cost then
      .ok (budgetExhausted decision.score, s)
    else if usages.all (fun row ↦ row.scheduledActionId ≠ usage.scheduledActionId) then
      match s.insertUsage usage with
      | none => .error .integrityError
      | some s => .ok (decision, s)
    else .ok (decision, s)

def decideScheduledAction (tenantId actionId : UUID) (decision : ProactiveDecision)
    (budgetUsage : Option SocialBudgetUsage) (dailyBudget : ℕ) (now : Datetime) (s : TaskStore) :
    Transaction (Option ScheduledAction) :=
  match getScheduledAction tenantId actionId s with
  | none => .ok (none, s)
  | some row =>
    if row.status ≠ .pending then .ok (some row, s)
    else
      match chargeBudget decision budgetUsage dailyBudget s with
      | .error error => .error error
      | .ok (effective, s) =>
        .ok (some (decided effective now row), setAction s actionId (decided effective now))

def step (s : TaskStore) : TaskCall → TaskReply × TaskStore
  | .enqueue request =>
    reply s (fun r ↦ .stored r.1 r.2) (enqueue request.job request.outbox request.inbox s)
  | .requestCancel tenantId jobId now =>
    let (job, s) := requestCancel tenantId jobId now s
    (.job job, s)
  | .replay tenantId sourceJobId request =>
    reply s .job (replay tenantId sourceJobId request.job request.outbox s)
  | .claimJob jobId workerId now attemptId locked =>
    reply s .claim (claimJob jobId workerId now attemptId locked s)
  | .renewJobLease jobId attemptId workerId now =>
    let (renewed, s) := renewJobLease jobId attemptId workerId now s
    (.renewed renewed, s)
  | .completeJob jobId attemptId workerId resultSummary now =>
    let (job, s) := completeJob jobId attemptId workerId resultSummary now s
    (.job job, s)
  | .failJob jobId attemptId workerId errorCode errorSummary permanent timedOut retryAt retry now =>
    reply s .job (failJob jobId attemptId workerId errorCode errorSummary permanent timedOut
      retryAt retry.outbox now s)
  | .claimOutbox workerId now leaseExpiresAt limit rank locked =>
    let (events, s) := claimOutbox workerId now leaseExpiresAt limit rank locked s
    (.events events, s)
  | .markOutboxPublished eventId workerId now => (.none, markOutboxPublished eventId workerId now s)
  | .markOutboxFailed eventId workerId errorCode retryAt now =>
    (.none, markOutboxFailed eventId workerId errorCode retryAt now s)
  | .recoverExpiredLeases now freshId lockedJobs lockedEvents =>
    reply s .recovered (recoverExpiredLeases now freshId lockedJobs lockedEvents s)
  | .createScheduledAction request =>
    reply s (fun r ↦ .scheduled r.1 r.2)
      (createScheduledAction request.action request.job request.outbox s)
  | .cancelScheduledAction tenantId actionId now =>
    let (action, s) := cancelScheduledAction tenantId actionId now s
    (.action action, s)
  | .decideScheduledAction tenantId actionId decision budgetUsage dailyBudget now =>
    reply s .action
      (decideScheduledAction tenantId actionId decision budgetUsage dailyBudget now s)

end SqlAlchemyTaskRepository

end CyberNetizen.Infrastructure
