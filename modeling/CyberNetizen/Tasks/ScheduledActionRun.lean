import CyberNetizen.Application.ScheduledActionTaskHandler
import CyberNetizen.Lib.Calls
import CyberNetizen.Tasks.ActionChanges

namespace CyberNetizen.Tasks.ScheduledActions

open Domain Application Infrastructure KeyedTable SqlAlchemyTaskRepository ScheduledActionTaskHandler

structure Moment where
  store : TaskStore
  around : Surroundings

/-- An execution of a job of a scheduled action, with what there was to see at its start. -/
structure Run where
  execution : BackgroundTaskService.Execution
  start : Moment
  phase : Phase

def Run.job (run : Run) : BackgroundJob := run.execution.claim.job

structure World extends Moment where
  runs : List Run

def World.empty (around : Surroundings) : World := ⟨⟨.empty, around⟩, []⟩

/-- What the callers of the services, the workers and the surroundings do. -/
inductive Action
  | create (command : ScheduledActionService.CreateCommand) (actionId : { id : UUID // id < 2 ^ 128 })
      (jobId eventId : UUID)
  | replay (tenantId sourceJobId actorId replayId eventId : UUID) (confirmed : Bool)
      (reason : String)
  /-- A call of the repository that no step of another kind makes. -/
  | repository (call : TaskCall)
  | configure (values : UUID → UUID → UUID → JsonObject)
  | relate (memory : MemoryStore)
  | tick (clock : Datetime)
  | execute (jobId : UUID) (worker : BackgroundTaskService.WorkerId) (attemptId : UUID)
      (locked : Bool)
  | advance (i : ℕ) (usageId : UUID) (failure : Option HandlerError)
  /-- Something raises in an execution, wherever it stands. -/
  | interrupt (i : ℕ) (error : HandlerError)
  | settle (i : ℕ) (summary : JsonObject) (eventId : UUID) (delay : ℕ)

def foreign (s : TaskStore) : TaskCall → Bool
  | .enqueue request => request.job.kind ≠ .scheduledAction
  | .claimJob jobId .. | .completeJob jobId .. | .failJob jobId .. =>
    (s.jobs.find? jobId).all fun job ↦ job.kind ≠ .scheduledAction
  | .createScheduledAction _ | .decideScheduledAction .. | .replay .. => false
  | _ => true

/-- What the handler leaves to `BackgroundTaskService.execute`. -/
def outcome (summary : JsonObject) : Phase → Option BackgroundTaskService.Outcome
  | .returned => some (.result summary)
  | .raised error => some error.outcome
  | _ => none

def Run.settlement (run : Run) (summary : JsonObject) (eventId : UUID) (now delay : ℕ) :
    Option TaskCall :=
  (outcome summary run.phase).map fun outcome ↦
    BackgroundTaskService.settlement run.execution outcome eventId now (now + delay)
      (Nat.le_add_right now delay)

/-- The call of the repository that a step makes, unless the handler makes it. -/
def callOf (w : World) : Action → Option TaskCall
  | .create command actionId jobId eventId =>
    match ScheduledActionService.create command actionId jobId eventId w.around.clock with
    | .error _ => none
    | .ok request => some (.createScheduledAction request)
  | .replay tenantId sourceJobId actorId replayId eventId confirmed reason =>
    match (w.store.jobs.find? sourceJobId).filter fun job ↦ job.tenantId = tenantId with
    | none => none
    | some source =>
      if h : 1 ≤ source.maxAttempts ∧ source.maxAttempts ≤ 20 then
        match BackgroundTaskService.replay source h actorId replayId eventId confirmed reason
            w.around.clock with
        | .error _ => none
        | .ok request => some (.replay tenantId sourceJobId request)
      else none
  | .repository call => if foreign w.store call then some call else none
  | .execute jobId worker attemptId locked =>
    some (.claimJob jobId worker.owner w.around.clock attemptId locked)
  | .settle i summary eventId delay =>
    w.runs[i]?.bind fun run ↦ run.settlement summary eventId w.around.clock delay
  | _ => none

def perform (s : TaskStore) (call : Option TaskCall) : TaskStore :=
  call.elim s fun call ↦ (SqlAlchemyTaskRepository.step s call).2

def isOver : Phase → Bool
  | .returned | .raised _ | .settled => true
  | _ => false

def begin (w : World) (execution : BackgroundTaskService.Execution) : List Run :=
  if execution.claim.job.kind = .scheduledAction then [⟨execution, w.toMoment, .getScheduledAction⟩]
  else []

def step (ports : Ports) (w : World) (a : Action) : Unit × World :=
  ((), match a with
  | .create .. | .replay .. | .repository _ => { w with store := perform w.store (callOf w a) }
  | .configure values => { w with around.values := values }
  | .relate memory => { w with around.memory := memory }
  | .tick clock => { w with around.clock := max w.around.clock clock }
  | .execute jobId worker attemptId locked =>
    let (execution, store) :=
      BackgroundTaskService.execute jobId worker attemptId locked w.around.clock w.store
    { w with store, runs := w.runs ++ (execution.map (begin w)).getD [] }
  | .advance i usageId failure =>
    match w.runs[i]? with
    | none => w
    | some run =>
      let (phase, store) := handle ports run.job w.around usageId failure w.store run.phase
      { w with store, runs := w.runs.set i { run with phase } }
  | .interrupt i error =>
    match w.runs[i]? with
    | none => w
    | some run =>
      if isOver run.phase then w else { w with runs := w.runs.set i { run with phase := .raised error } }
  | .settle i .. =>
    match w.runs[i]?, callOf w a with
    | some run, some call =>
      { w with store := perform w.store (some call), runs := w.runs.set i { run with phase := .settled } }
    | _, _ => w)

def rereads (evaluation : ScheduledActionService.Evaluation) : Bool :=
  match evaluation.phase with
  | .getScheduledAction | .decideScheduledAction .. => true
  | .socialBudgetUsed .. | .returned => false

inductive Handles (ports : Ports) (job : BackgroundJob) (around : Surroundings) (s : TaskStore) :
    Phase → Phase → TaskStore → Prop
  | stays {phase} : Handles ports job around s phase phase s
  | raises {phase error} : Handles ports job around s phase (.raised error) s
  | reads {actionId action} (hid : uuid job.payload "scheduled_action_id" = .ok actionId)
      (hrow : getScheduledAction job.tenantId actionId s = some action)
      (hpending : action.status = .pending) :
      Handles ports job around s .getScheduledAction (.resolveEffective action) s
  | finds {actionId action} (hid : uuid job.payload "scheduled_action_id" = .ok actionId)
      (hrow : getScheduledAction job.tenantId actionId s = some action)
      (hsettled : action.status ≠ .pending) :
      Handles ports job around s .getScheduledAction (dispatch ports action) s
  | resolves {action settings}
      (h : settingsOf ports (around.values job.tenantId action.agentId action.userId)
        around.clock = .ok settings) :
      Handles ports job around s (.resolveEffective action) (.getRelationship action settings) s
  | relates {action settings evaluation}
      (h : evaluationOf ports job.tenantId action settings (relationOf around.memory action) =
        .ok evaluation) :
      Handles ports job around s (.getRelationship action settings) (.evaluate evaluation) s
  | expires {evaluation action} (hphase : evaluation.phase = .getScheduledAction)
      (hrow : getScheduledAction evaluation.tenantId evaluation.actionId s = some action)
      (hpending : action.status = .pending) :
      Handles ports job around s (.evaluate evaluation) (.evaluate { evaluation with
        phase := .decideScheduledAction ⟨false, 0, ["action_expired"]⟩ none around.clock }) s
  | opens {evaluation action} (hphase : evaluation.phase = .getScheduledAction)
      (hrow : getScheduledAction evaluation.tenantId evaluation.actionId s = some action)
      (hpending : action.status = .pending)
      (hopen : ScheduledActionService.actionExpired action around.clock = false) :
      Handles ports job around s (.evaluate evaluation) (.evaluate { evaluation with
        phase := .socialBudgetUsed action around.clock }) s
  | judges {evaluation action now usedBudget decision budgetUsage}
      (hphase : evaluation.phase = .socialBudgetUsed action now)
      (h : Cognition.ProactivePolicyEvaluator.evaluate evaluation.policy { evaluation.context with
        usedBudget, socialCost := action.socialCost } = some decision) :
      Handles ports job around s (.evaluate evaluation) (.evaluate { evaluation with
        phase := .decideScheduledAction decision budgetUsage now }) s
  | refinds {evaluation action} (hphase : rereads evaluation = true)
      (hrow : getScheduledAction evaluation.tenantId evaluation.actionId s = some action)
      (hsettled : action.status ≠ .pending) :
      Handles ports job around s (.evaluate evaluation) (dispatch ports action) s
  | decides {evaluation action now decision budgetUsage effective s'}
      (hphase : evaluation.phase = .decideScheduledAction decision budgetUsage now)
      (hrow : getScheduledAction evaluation.tenantId evaluation.actionId s = some action)
      (hpending : action.status = .pending)
      (heffective : effective = decision ∨
        effective = budgetExhausted decision.score)
      (hcall : s' = (SqlAlchemyTaskRepository.step s (.decideScheduledAction evaluation.tenantId
        evaluation.actionId decision budgetUsage evaluation.policy.dailyBudget now)).2)
      (hactions : s'.scheduledActions =
        (setAction s evaluation.actionId (decided effective now)).scheduledActions) :
      Handles ports job around s (.evaluate evaluation)
        (dispatch ports (decided effective now action)) s'
  | delivers {action delivery} :
      Handles ports job around s (.deliver action delivery) .returned s

section handler

variable {ports : Ports} {job : BackgroundJob} {around : Surroundings} {s : TaskStore}

theorem evaluate_handles (evaluation : ScheduledActionService.Evaluation) (usageId : UUID)
    (failure : Option HandlerError) :
    let (phase, s') := handle ports job around usageId failure s (.evaluate evaluation)
    Handles ports job around s (.evaluate evaluation) phase s' := by
  dsimp only [handle]
  unfold evaluateAnswer ScheduledActionService.evaluate
  cases hphase : evaluation.phase with
  | getScheduledAction =>
    dsimp only
    cases hrow : getScheduledAction evaluation.tenantId evaluation.actionId s with
    | none => exact .raises
    | some action =>
      dsimp only
      by_cases hpending : action.status = .pending
      · simp only [hpending, ne_eq, not_true_eq_false, if_false]
        cases hexpired : ScheduledActionService.actionExpired action around.clock with
        | true => exact .expires hphase hrow hpending
        | false => exact .opens hphase hrow hpending hexpired
      · simp only [ne_eq, hpending, not_false_eq_true, if_true]
        exact .refinds (by rw [rereads, hphase]) hrow hpending
  | socialBudgetUsed action now =>
    dsimp only
    cases hquiet : Cognition.ProactivePolicyEvaluator.inQuietHours evaluation.context.localHour
        evaluation.policy.quietHoursStart evaluation.policy.quietHoursEnd with
    | none =>
      have hnone : Cognition.ProactivePolicyEvaluator.evaluate evaluation.policy
          { evaluation.context with
            usedBudget := socialBudgetUsed evaluation.tenantId action.agentId action.userId
              evaluation.budgetDate s
            socialCost := action.socialCost } = none := congrArg (Option.map _) hquiet
      rw [hnone]
      exact .raises
    | some quiet =>
      have hsome : Cognition.ProactivePolicyEvaluator.evaluate evaluation.policy
          { evaluation.context with
            usedBudget := socialBudgetUsed evaluation.tenantId action.agentId action.userId
              evaluation.budgetDate s
            socialCost := action.socialCost } = some _ := congrArg (Option.map _) hquiet
      rw [hsome]
      exact .judges hphase hsome
  | decideScheduledAction decision budgetUsage now =>
    dsimp only
    cases hdecide : decideScheduledAction evaluation.tenantId evaluation.actionId decision
        budgetUsage evaluation.policy.dailyBudget now s with
    | error error =>
      have hstate : (SqlAlchemyTaskRepository.step s (.decideScheduledAction evaluation.tenantId
          evaluation.actionId decision budgetUsage evaluation.policy.dailyBudget now)).2 = s := by
        dsimp only [SqlAlchemyTaskRepository.step]
        rw [hdecide]
        rfl
      rw [hstate]
      exact .raises
    | ok answer =>
      obtain ⟨r, s'⟩ := answer
      have hstate : (SqlAlchemyTaskRepository.step s (.decideScheduledAction evaluation.tenantId
          evaluation.actionId decision budgetUsage evaluation.policy.dailyBudget now)).2 = s' := by
        dsimp only [SqlAlchemyTaskRepository.step]
        rw [hdecide]
        rfl
      rcases decideScheduledAction_cases hdecide with
        ⟨rfl, rfl⟩ | ⟨row, hrow, hsettled, rfl, rfl⟩ |
          ⟨row, effective, hrow, hpending, heffective, hactions, rfl⟩
      · rw [hstate]
        exact .raises
      · rw [hstate]
        exact .refinds (by rw [rereads, hphase]) hrow hsettled
      · rw [hstate]
        exact .decides hphase hrow hpending heffective hstate.symm hactions
  | returned => exact .stays

theorem handle_handles (usageId : UUID) (failure : Option HandlerError) (phase : Phase) :
    let (phase', s') := handle ports job around usageId failure s phase
    Handles ports job around s phase phase' s' := by
  cases phase with
  | getScheduledAction =>
    dsimp only [handle]
    cases hid : uuid job.payload "scheduled_action_id" with
    | error error => exact .raises
    | ok actionId =>
      dsimp only
      cases hrow : getScheduledAction job.tenantId actionId s with
      | none => exact .raises
      | some action =>
        dsimp only
        by_cases hpending : action.status = .pending
        · rw [if_neg (not_not.mpr hpending)]
          exact .reads hid hrow hpending
        · rw [if_pos hpending]
          exact .finds hid hrow hpending
  | resolveEffective action =>
    dsimp only [handle]
    cases h : settingsOf ports (around.values job.tenantId action.agentId action.userId)
        around.clock with
    | error error => exact .raises
    | ok settings => exact .resolves h
  | getRelationship action settings =>
    dsimp only [handle]
    cases h : evaluationOf ports job.tenantId action settings (relationOf around.memory action) with
    | error error => exact .raises
    | ok evaluation => exact .relates h
  | evaluate evaluation => exact evaluate_handles evaluation usageId failure
  | deliver action delivery =>
    cases failure with
    | none => exact .delivers
    | some error => exact .raises
  | returned | raised | settled => exact .stays

theorem Handles.store {phase phase' : Phase} {s' : TaskStore}
    (h : Handles ports job around s phase phase' s') :
    s' = s ∨ ∃ call, s' = (SqlAlchemyTaskRepository.step s call).2 ∧ ¬Undecided call := by
  cases h with
  | decides _ _ _ _ hcall _ => exact .inr ⟨_, hcall, id⟩
  | _ => exact .inl rfl

end handler

section step

/-- What one step of the world can do. -/
inductive Steps (ports : Ports) (w : World) : Action → World → Prop
  | idles {a} : Steps ports w a w
  | calls {a call} (hcall : callOf w a = some call) :
      Steps ports w a { w with store := (SqlAlchemyTaskRepository.step w.store call).2 }
  | changes {a around} (hclock : w.around.clock ≤ around.clock) :
      Steps ports w a { w with around }
  | claims {jobId worker attemptId locked execution}
      (hclaim : BackgroundTaskService.execute jobId worker attemptId locked w.around.clock w.store =
        (some execution, (BackgroundTaskService.execute jobId worker attemptId locked
          w.around.clock w.store).2)) :
      Steps ports w (.execute jobId worker attemptId locked) { w with
        store := (SqlAlchemyTaskRepository.step w.store
          (.claimJob jobId worker.owner w.around.clock attemptId locked)).2
        runs := w.runs ++ [⟨execution, w.toMoment, .getScheduledAction⟩] }
  | moves {i usageId failure run phase s'} (hrun : w.runs[i]? = some run)
      (h : Handles ports run.job w.around w.store run.phase phase s') :
      Steps ports w (.advance i usageId failure)
        { w with store := s', runs := w.runs.set i { run with phase } }
  | interrupts {i error run} (hrun : w.runs[i]? = some run) :
      Steps ports w (.interrupt i error)
        { w with runs := w.runs.set i { run with phase := .raised error } }
  | settles {i summary eventId delay run call} (hrun : w.runs[i]? = some run)
      (hcall : callOf w (.settle i summary eventId delay) = some call) :
      Steps ports w (.settle i summary eventId delay) { w with
        store := (SqlAlchemyTaskRepository.step w.store call).2
        runs := w.runs.set i { run with phase := .settled } }

theorem step_steps (ports : Ports) (w : World) (a : Action) :
    Steps ports w a (step ports w a).2 := by
  have hperform : Steps ports w a { w with store := perform w.store (callOf w a) } := by
    cases hcall : callOf w a with
    | none => exact .idles
    | some call => exact .calls hcall
  cases a with
  | create | replay | repository => exact hperform
  | configure | relate => exact .changes le_rfl
  | tick clock => exact .changes (le_max_left _ _)
  | execute jobId worker attemptId locked =>
    have hstore := BackgroundTaskService.execute_store jobId worker attemptId locked w.around.clock
      (s := w.store)
    have hcalls : Steps ports w (.execute jobId worker attemptId locked) { w with
        store := (SqlAlchemyTaskRepository.step w.store
          (.claimJob jobId worker.owner w.around.clock attemptId locked)).2 } := .calls rfl
    dsimp only [step]
    rw [hstore]
    cases hclaim : BackgroundTaskService.execute jobId worker attemptId locked w.around.clock
        w.store with
    | mk execution s' =>
    rw [hclaim] at hstore
    cases execution with
    | none => simpa using hcalls
    | some execution =>
      dsimp only [Option.map_some, Option.getD_some]
      unfold begin
      split
      · refine .claims ?_
        rw [hclaim]
      · simpa using hcalls
  | advance i usageId failure =>
    dsimp only [step]
    cases hrun : w.runs[i]? with
    | none => exact .idles
    | some run => exact .moves hrun (handle_handles usageId failure run.phase)
  | interrupt i error =>
    dsimp only [step]
    cases hrun : w.runs[i]? with
    | none => exact .idles
    | some run =>
      dsimp only
      split
      · exact .idles
      · exact .interrupts hrun
  | settle i summary eventId delay =>
    dsimp only [step]
    cases hrun : w.runs[i]? with
    | none => exact .idles
    | some run =>
      cases hcall : callOf w (.settle i summary eventId delay) with
      | none => exact .idles
      | some call => exact .settles hrun hcall

end step

/-- Surroundings for the worked runs: one zone, a service for the channels, noon. -/
def utcPorts : Ports where
  zoneInfo _ := some ⟨fun t ↦ t / seconds 3600 % 24, fun t ↦ t / seconds 86400⟩
  fromIsoFormat _ := none
  casefold text := text
  hasChannelService := true

def noon : Datetime := seconds (12 * 3600)

def openValues : JsonObject :=
  [("system.default_timezone", .str "UTC"), ("proactive.enabled", .bool true),
    ("proactive.minimum_score", .int 0), ("proactive.daily_message_budget", .int 3),
    ("proactive.quiet_hours_start", .int 22), ("proactive.quiet_hours_end", .int 7),
    ("proactive.require_recent_user_days", .int 30)]

def openDay : Surroundings := ⟨fun _ _ _ ↦ openValues, .empty, noon⟩

/-- A message for user 3, due at once. -/
def greeting : ScheduledActionService.CreateCommand where
  tenantId := 1
  agentId := 2
  userId := 3
  conversationId := none
  kind := .proactiveMessage
  scheduledFor := noon
  expiresAt := none
  idempotencyKey := "greeting"
  reason := "follow up"
  payload := [("channel_id", .str (uuidString 9)), ("recipient_id", .str "42"),
    ("message", .str "hello")]
  socialCost := 1
  createdBy := 4
  maxAttempts := 3
  leaseSeconds := 60
  retryBaseSeconds := 5

def createGreeting : Action := .create greeting ⟨10, by decide⟩ 11 12

def worker : BackgroundTaskService.WorkerId := ⟨"w", "w", by decide⟩

def executeGreeting (attemptId : UUID) : Action := .execute 11 worker attemptId false

end CyberNetizen.Tasks.ScheduledActions
