import CyberNetizen.Application.TaskService
import CyberNetizen.Infrastructure.TaskRepository

namespace CyberNetizen.Application.BackgroundTaskService

open Domain Infrastructure SqlAlchemyTaskRepository

structure Message where
  jobId : UUID
  queue : String
  time : Datetime

/-- `event.payload.get("queue")`, where it names a known queue. -/
def queueOf (event : OutboxEvent) : Option String :=
  match event.payload.lookup "queue" with
  | some (.str queue) => if queue ∈ queues then some queue else none
  | _ => none

/-- Where a call of `publish_due` stands: what it does next, with the events not yet looked at. -/
inductive PublishPhase
  | next (events : List OutboxEvent)
  | dispatched (event : OutboxEvent) (events : List OutboxEvent)
  | raised (event : OutboxEvent) (errorCode : String) (events : List OutboxEvent)
  | failing (event : OutboxEvent) (errorCode : String) (retryAt : Datetime)
      (events : List OutboxEvent)

/-- One call of `publish_due`. -/
structure Publishing where
  workerId : String
  retryBaseSeconds : ℕ
  now : Datetime
  published : ℕ
  phase : PublishPhase

/-- The call up to its first transaction. -/
def publishDue (workerId : String) (leaseSeconds retryBaseSeconds maximum : ℕ) (rank : UUID → ℕ)
    (locked : UUID → Bool) (now : Datetime) (s : TaskStore) :
    Except TaskError (Publishing × TaskStore) := do
  let owner ← requiredText workerId "发布器 ID" 160
  let leaseSeconds ← positive leaseSeconds "租约秒数"
  let maximum ← limit maximum
  let (events, s) := claimOutbox owner now (now + seconds leaseSeconds) maximum rank locked s
  return (⟨workerId, retryBaseSeconds, now, 0, .next events⟩, s)

/-- The next step of a call: `failure` is the name of the exception that `dispatch` raises. The
claim is made under the stripped identifier, the marks under the one given. -/
def publish (publishing : Publishing) (failure : Option String) (now : Datetime) (s : TaskStore) :
    Publishing × Option Message × TaskStore :=
  let goto := fun phase ↦ { publishing with phase }
  match publishing.phase with
  | .next [] => (publishing, none, s)
  | .next (event :: events) =>
    match queueOf event with
    | none =>
      (goto (.next events), none,
        markOutboxFailed event.id publishing.workerId "InvalidQueue" publishing.now now s)
    | some queue =>
      match failure with
      | none => (goto (.dispatched event events), some ⟨event.jobId, queue, now⟩, s)
      | some errorCode => (goto (.raised event errorCode events), none, s)
  | .dispatched event events =>
    ({ goto (.next events) with published := publishing.published + 1 }, none,
      markOutboxPublished event.id publishing.workerId now s)
  | .raised event errorCode events =>
    -- `get_job`, within the tenant of the event
    let job := (s.jobs.find? event.jobId).filter fun row ↦ row.tenantId = event.tenantId
    let baseSeconds := (job.map BackgroundJob.retryBaseSeconds).getD publishing.retryBaseSeconds
    let delay := publishDelay baseSeconds event.attemptCount
    (goto (.failing event errorCode (now + seconds delay) events), none, s)
  | .failing event errorCode retryAt events =>
    (goto (.next events), none,
      markOutboxFailed event.id publishing.workerId errorCode retryAt now s)

/-- The identifier of a worker process, which `execute` never refuses. -/
structure WorkerId where
  workerId : String
  owner : String
  accepted : requiredText workerId "Worker ID" 160 = .ok owner

/-- A call of `execute` that holds its claim. -/
structure Execution where
  workerId : String
  claim : JobClaim

inductive Outcome
  | result (summary : JsonObject)
  | raised (errorCode : String) (permanent timedOut : Bool)

/-- The call of `execute` up to its claim. -/
def execute (jobId : UUID) (worker : WorkerId) (attemptId : UUID) (locked : Bool)
    (now : Datetime) (s : TaskStore) : Option Execution × TaskStore :=
  match claimJob jobId worker.owner now attemptId locked s with
  | .error _ => (none, s)
  | .ok (claim, s) => (claim.map fun claim ↦ ⟨worker.workerId, claim⟩, s)

theorem execute_store {s : TaskStore} (jobId : UUID) (worker : WorkerId) (attemptId : UUID)
    (locked : Bool) (now : Datetime) :
    (execute jobId worker attemptId locked now s).2 =
      (step s (.claimJob jobId worker.owner now attemptId locked)).2 := by
  change _ = (reply s .claim (claimJob jobId worker.owner now attemptId locked s)).2
  unfold execute
  cases claimJob jobId worker.owner now attemptId locked s <;> rfl

def renewal (execution : Execution) (now : Datetime) : TaskCall :=
  .renewJobLease execution.claim.job.id execution.claim.attempt.id execution.workerId now

/-- The last call of `execute`, made with what the handler returns or raises; `later` is when the
clock is read for the retry event. -/
def settlement (execution : Execution) (outcome : Outcome) (eventId : UUID) (now later : Datetime)
    (h : now ≤ later) : TaskCall :=
  let job := execution.claim.job
  match outcome with
  | .result summary =>
    .completeJob job.id execution.claim.attempt.id execution.workerId summary later
  | .raised errorCode permanent timedOut =>
    .failJob job.id execution.claim.attempt.id execution.workerId errorCode
      "任务执行失败；详细异常仅保留在受控日志中。" permanent timedOut
      (now + seconds (executeDelay job)) (retryEvent job eventId now later h) later

end CyberNetizen.Application.BackgroundTaskService
