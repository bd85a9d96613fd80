import CyberNetizen.Application.TaskService
import CyberNetizen.Domain.Channel
import CyberNetizen.Infrastructure.TaskRepository
import CyberNetizen.Lib.Checks

namespace CyberNetizen.Application.ScheduledActionService

open Domain Cognition Infrastructure SqlAlchemyTaskRepository

/-- Where a call of `evaluate` stands: the repository call that comes next, with what the call
has read so far. -/
inductive Phase
  | getScheduledAction
  | socialBudgetUsed (action : ScheduledAction) (now : Datetime)
  | decideScheduledAction (decision : ProactiveDecision) (budgetUsage : Option SocialBudgetUsage)
      (now : Datetime)
  | returned

/-- One call of `evaluate`. -/
structure Evaluation where
  tenantId : UUID
  actionId : UUID
  policy : ProactivePolicy
  context : ProactiveContext
  budgetDate : Date
  phase : Phase

def actionExpired (action : ScheduledAction) (now : Datetime) : Bool :=
  action.expiresAt.any fun expiry ↦ expiry ≤ now

/-- The usage to record: only an approved action that costs something asks for one. -/
def usageOf (evaluation : Evaluation) (action : ScheduledAction) (decision : ProactiveDecision)
    (usageId : UUID) (now : Datetime) : Option SocialBudgetUsage :=
  if decision.approved ∧ action.socialCost ≠ 0 then
    some
      { id := usageId
        tenantId := evaluation.tenantId
        agentId := action.agentId
        userId := action.userId
        budgetDate := evaluation.budgetDate
        scheduledActionId := action.id
        cost := action.socialCost
        createdAt := now }
  else none

/-- The next repository call of an evaluation and what it makes of the answer. `clock` and
`usageId` are the time and the identifier it draws. -/
def evaluate (evaluation : Evaluation) (clock : Datetime) (usageId : UUID) (s : TaskStore) :
    Evaluation × TaskStore :=
  let goto := fun phase ↦ { evaluation with phase }
  match evaluation.phase with
  | .getScheduledAction =>
    match getScheduledAction evaluation.tenantId evaluation.actionId s with
    | none => (goto .returned, s)
    | some action =>
      if action.status ≠ .pending then (goto .returned, s)
      else if actionExpired action clock then
        (goto (.decideScheduledAction ⟨false, 0, ["action_expired"]⟩ none clock), s)
      else (goto (.socialBudgetUsed action clock), s)
  | .socialBudgetUsed action now =>
    let context := { evaluation.context with
      usedBudget :=
        socialBudgetUsed evaluation.tenantId action.agentId action.userId evaluation.budgetDate s
      socialCost := action.socialCost }
    match ProactivePolicyEvaluator.evaluate evaluation.policy context with
    | none => (goto .returned, s)
    | some decision =>
      (goto (.decideScheduledAction decision (usageOf evaluation action decision usageId now) now),
        s)
  | .decideScheduledAction decision budgetUsage now =>
    (goto .returned,
      (step s (.decideScheduledAction evaluation.tenantId evaluation.actionId decision budgetUsage
        evaluation.policy.dailyBudget now)).2)
  | .returned => (evaluation, s)

/-- The arguments of `create`; the payload is already normalized. -/
structure CreateCommand where
  tenantId : UUID
  agentId : UUID
  userId : UUID
  conversationId : Option UUID
  kind : ScheduledActionKind
  scheduledFor : Datetime
  expiresAt : Option Datetime
  idempotencyKey : String
  reason : String
  payload : JsonObject
  socialCost : ℕ
  createdBy : UUID
  maxAttempts : ℕ
  leaseSeconds : ℕ
  retryBaseSeconds : ℕ

def jobPayload (actionId : UUID) : JsonObject := [("scheduled_action_id", .str (uuidString actionId))]

/-- The action that `create` stores for its job. -/
def newAction (command : CreateCommand) (idempotencyKey reason : String) (actionId jobId : UUID)
    (now : Datetime) : ScheduledAction where
  id := actionId
  tenantId := command.tenantId
  agentId := command.agentId
  userId := command.userId
  conversationId := command.conversationId
  kind := command.kind
  status := .pending
  scheduledFor := command.scheduledFor
  expiresAt := command.expiresAt
  idempotencyKey
  reason
  payload := command.payload
  score := none
  socialCost := command.socialCost
  decisionReasons := []
  jobId := some jobId
  createdBy := command.createdBy
  createdAt := now
  updatedAt := now
  completedAt := none

/-- What `create` stores; the identifiers are the generated ones. -/
def create (command : CreateCommand) (actionId jobId eventId : UUID) (now : Datetime) :
    Except TaskError ScheduleRequest := do
  Checks.require (command.expiresAt.all fun expiry ↦ command.scheduledFor < expiry)
    (.validation "计划过期时间必须晚于执行时间")
  Checks.require (decide (command.socialCost ≤ 20)) (.validation "社交预算成本必须位于 0 到 20 之间")
  if h : 1 ≤ command.maxAttempts ∧ command.maxAttempts ≤ 20 then
    let leaseSeconds ← BackgroundTaskService.positive command.leaseSeconds "任务租约秒数"
    let retryBaseSeconds ← BackgroundTaskService.positive command.retryBaseSeconds "失败退避基数"
    let idempotencyKey ← BackgroundTaskService.requiredText command.idempotencyKey "定时行为幂等键" 255
    let reason ← BackgroundTaskService.requiredText command.reason "定时行为原因" 500
    let spec : JobSpec :=
      { id := jobId
        tenantId := command.tenantId
        agentId := some command.agentId
        kind := .scheduledAction
        queue := queueByKind .scheduledAction
        payload := jobPayload actionId
        deduplicationKey := s!"scheduled-action:{idempotencyKey}"
        sourceInboxId := none
        correlationId := some (uuidString actionId)
        maxAttempts := command.maxAttempts
        leaseSeconds
        retryBaseSeconds
        availableAt := command.scheduledFor
        replayedFromId := none
        createdBy := some command.createdBy
        attempts := h }
    .ok { newTask spec eventId now with
      action := newAction command idempotencyKey reason actionId jobId now
      noInbox := rfl
      actionPending := rfl
      actionJob := rfl }
  else .error (.validation "任务最大尝试次数必须位于 1 到 20 之间")

end CyberNetizen.Application.ScheduledActionService
