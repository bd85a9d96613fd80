import CyberNetizen.Tasks.ScheduledActionRun

namespace CyberNetizen.Tasks.ScheduledActions

open Domain Application Infrastructure KeyedTable SqlAlchemyTaskRepository ScheduledActionTaskHandler

section tasks

variable {s s' t : TaskStore} {job job' : BackgroundJob} {action : ScheduledAction}

def SameTask (job job' : BackgroundJob) : Prop :=
  job'.payload = job.payload ∧ job'.tenantId = job.tenantId ∧ job'.kind = job.kind

theorem jobStep_task {call : TaskCall} {v v' : JobView} (h : JobStep s call v v') :
    SameTask v.job v'.job := by
  cases h <;> exact ⟨rfl, rfl, rfl⟩

def JobsKept (s s' : TaskStore) : Prop :=
  ∀ jobId job, s.jobs.find? jobId = some job →
    ∃ job', s'.jobs.find? jobId = some job' ∧ SameTask job job'

theorem SameTask.trans {job'' : BackgroundJob} (h : SameTask job job') (h' : SameTask job' job'') :
    SameTask job job'' :=
  ⟨h'.1.trans h.1, h'.2.1.trans h.2.1, h'.2.2.trans h.2.2⟩

theorem step_jobsKept (hs : Linked s) (call : TaskCall) :
    JobsKept s (SqlAlchemyTaskRepository.step s call).2 := by
  intro jobId job hjob
  have hview := step_view hs call jobId
  rw [view_of_find? hjob] at hview
  generalize hnew : view (SqlAlchemyTaskRepository.step s call).2 jobId = new at hview
  cases hview with
  | same => exact ⟨job, (view_eq_some.mp hnew).1, rfl, rfl, rfl⟩
  | step hstep => exact ⟨_, (view_eq_some.mp hnew).1, jobStep_task hstep⟩

def Named (s : TaskStore) (action : ScheduledAction) : Prop :=
  ∃ jobId job, action.jobId = some jobId ∧ s.jobs.find? jobId = some job ∧
    job.kind = .scheduledAction ∧ job.tenantId = action.tenantId ∧
    uuid job.payload "scheduled_action_id" = .ok action.id

theorem Named.mono (h : Named s action) (hkept : JobsKept s s') : Named s' action := by
  obtain ⟨jobId, job, hid, hjob, hkind, htenant, hname⟩ := h
  obtain ⟨job', hjob', hpayload, htenant', hkind'⟩ := hkept jobId job hjob
  exact ⟨jobId, job', hid, hjob', hkind'.trans hkind, htenant'.trans htenant, hpayload ▸ hname⟩

def Read (s : TaskStore) (job : BackgroundJob) (action : ScheduledAction) : Prop :=
  uuid job.payload "scheduled_action_id" = .ok action.id ∧ action.tenantId = job.tenantId ∧
    ∃ row, s.scheduledActions.find? action.id = some row ∧ Settles action row

theorem Read.mono (h : Read s job action) (hgrows : ActionsGrow s s') : Read s' job action := by
  obtain ⟨hname, htenant, row, hrow, hsettles⟩ := h
  obtain ⟨row', hrow', hsettles'⟩ := hgrows action.id row hrow
  exact ⟨hname, htenant, row', hrow', hsettles.trans hsettles'⟩

theorem Read.of_row {actionId : UUID} (hname : uuid job.payload "scheduled_action_id" = .ok actionId)
    (hrow : getScheduledAction job.tenantId actionId s = some action) : Read s job action := by
  obtain ⟨hfound, htenant⟩ := getScheduledAction_eq_some.mp hrow
  obtain rfl := Table.key_of_find? hfound
  exact ⟨hname, htenant, action, hfound, .inl rfl⟩

theorem Read.settled (h : Read s job action) (hsettled : action.status ≠ .pending) :
    s.scheduledActions.find? action.id = some action := by
  obtain ⟨-, -, row, hrow, hsettles⟩ := h
  rw [hrow, hsettles.eq_of_settled hsettled]

def Sees (s : TaskStore) (job : BackgroundJob) : Phase → Prop
  | .resolveEffective action | .getRelationship action _ => Read s job action
  | .evaluate evaluation => ∃ action, Read s job action ∧
      evaluation.tenantId = job.tenantId ∧ evaluation.actionId = action.id
  | .deliver action _ => Read s job action ∧ action.status = .dispatched
  | .returned => ∃ action, Read s job action ∧ action.status ≠ .pending
  | .getScheduledAction | .raised _ | .settled => True

theorem Sees.mono {phase : Phase} (h : Sees s job phase) (hgrows : ActionsGrow s s') :
    Sees s' job phase := by
  cases phase with
  | resolveEffective | getRelationship => exact Read.mono h hgrows
  | evaluate evaluation =>
    obtain ⟨action, hread, hrest⟩ := h
    exact ⟨action, hread.mono hgrows, hrest⟩
  | deliver => exact ⟨h.1.mono hgrows, h.2⟩
  | returned =>
    obtain ⟨action, hread, hsettled⟩ := h
    exact ⟨action, hread.mono hgrows, hsettled⟩
  | getScheduledAction | raised | settled => trivial

variable {ports : Ports} {around : Surroundings}

theorem sees_dispatch (hread : Read s job action) (hsettled : action.status ≠ .pending) :
    Sees s job (dispatch ports action) := by
  unfold dispatch
  split
  · rename_i hdispatched
    cases dispatchProactive ports action with
    | error error => trivial
    | ok delivery => exact ⟨hread, hdispatched.1⟩
  · exact ⟨action, hread, hsettled⟩

theorem Handles.grows {phase phase' : Phase} (h : Handles ports job around s phase phase' s') :
    ActionsGrow s s' := by
  rcases h.store with rfl | ⟨call, rfl, -⟩
  · exact .refl
  · exact (step_actionChange s call).grows

theorem evaluationOf_eq_ok {tenantId : UUID} {settings : Settings} {relation : Option Relationship}
    {evaluation : ScheduledActionService.Evaluation}
    (h : evaluationOf ports tenantId action settings relation = .ok evaluation) :
    evaluation.tenantId = tenantId ∧ evaluation.actionId = action.id ∧
      evaluation.phase = .getScheduledAction ∧ policyOf settings.values = .ok evaluation.policy ∧
      evaluation.context.localHour = settings.zone.hour settings.now ∧
      evaluation.context.hasBoundaryBlock = boundaryBlock ports relation := by
  unfold evaluationOf at h
  obtain ⟨activity, -, h⟩ := Checks.bind_eq_ok.mp h
  obtain ⟨payload, -, h⟩ := Checks.bind_eq_ok.mp h
  obtain ⟨policy, hpolicy, h⟩ := Checks.bind_eq_ok.mp h
  obtain ⟨context, hcontext, h⟩ := Checks.bind_eq_ok.mp h
  obtain rfl := Except.ok.inj h
  unfold contextOf at hcontext
  obtain ⟨importance, -, hcontext⟩ := Checks.bind_eq_ok.mp hcontext
  obtain ⟨confidence, -, hcontext⟩ := Checks.bind_eq_ok.mp hcontext
  obtain rfl := Except.ok.inj hcontext
  exact ⟨rfl, rfl, rfl, hpolicy, rfl, rfl⟩

theorem Handles.sees {phase phase' : Phase} (h : Handles ports job around s phase phase' s')
    (hsees : Sees s job phase) : Sees s' job phase' := by
  cases h with
  | stays => exact hsees
  | raises => trivial
  | reads hid hrow hpending => exact Read.of_row hid hrow
  | finds hid hrow hsettled => exact sees_dispatch (.of_row hid hrow) hsettled
  | resolves h => exact hsees
  | relates h =>
    obtain ⟨htenant, hid, -⟩ := evaluationOf_eq_ok h
    exact ⟨_, hsees, htenant, hid⟩
  | expires | opens | judges => exact hsees
  | refinds _ hrow hsettled =>
    obtain ⟨action, hread, htenant, hid⟩ := hsees
    rw [htenant, hid] at hrow
    exact sees_dispatch (.of_row hread.1 hrow) hsettled
  | @decides evaluation row now _ _ effective _ hphase hrow hpending heffective hcall hactions =>
    obtain ⟨action, hread, htenant, hid⟩ := hsees
    rw [htenant, hid] at hrow
    obtain ⟨hfound, hrowTenant⟩ := getScheduledAction_eq_some.mp hrow
    refine sees_dispatch ⟨?_, hrowTenant, decided effective now row, ?_, .inl rfl⟩
      (decidedStatus_ne_pending effective)
    · obtain hkey := Table.key_of_find? hfound
      exact hread.1.trans (congrArg Except.ok hkey.symm)
    · rw [hactions, hid]
      have hkey : row.id = action.id := Table.key_of_find? hfound
      change (Table.updateWhere _ _ _).find? row.id = _
      rw [hkey]
      exact Table.find?_updateWhere_self hfound
  | delivers => exact ⟨_, hsees.1, by rw [hsees.2]; exact ScheduledActionStatus.noConfusion⟩

end tasks

section invariant

variable {ports : Ports} {w w' : World} {a : Action} {s s' : TaskStore}

structure Keeps (s s' : TaskStore) : Prop where
  linked : Linked s'
  jobs : JobsKept s s'
  grows : ActionsGrow s s'

theorem step_keeps (hs : Linked s) (call : TaskCall) :
    Keeps s (SqlAlchemyTaskRepository.step s call).2 :=
  ⟨step_linked hs call, step_jobsKept hs call, (step_actionChange s call).grows⟩

/-- What an execution keeps: its start is in the past, its job is there, and it knows no more than
the tables say. -/
structure RunInv (s : TaskStore) (run : Run) : Prop where
  grows : ActionsGrow run.start.store s
  job : ∃ job, s.jobs.find? run.job.id = some job ∧ SameTask run.job job
  sees : Sees s run.job run.phase

theorem RunInv.mono {run : Run} (h : RunInv s run) (hkeeps : Keeps s s') : RunInv s' run where
  grows := h.grows.trans hkeeps.grows
  job := by
    obtain ⟨job, hjob, hsame⟩ := h.job
    obtain ⟨job', hjob', hsame'⟩ := hkeeps.jobs _ job hjob
    exact ⟨job', hjob', hsame.trans hsame'⟩
  sees := h.sees.mono hkeeps.grows

theorem RunInv.goto {run : Run} {phase : Phase} (h : RunInv s run) (hsees : Sees s run.job phase) :
    RunInv s { run with phase } :=
  ⟨h.grows, h.job, hsees⟩

structure Inv (w : World) : Prop where
  linked : Linked w.store
  named : ∀ action ∈ w.store.scheduledActions, action.status = .pending → Named w.store action
  runs : ∀ run ∈ w.runs, RunInv w.store run

theorem inv_empty (around : Surroundings) : Inv (World.empty around) where
  linked := linked_empty
  named _ h := absurd h (Table.not_mem_empty _)
  runs _ h := absurd h List.not_mem_nil

/-- The job that `create` stores names the action that it stores. -/
theorem create_names {command : ScheduledActionService.CreateCommand}
    {actionId : { id : UUID // id < 2 ^ 128 }} {jobId eventId : UUID} {now : Datetime}
    {request : ScheduleRequest}
    (h : ScheduledActionService.create command actionId jobId eventId now = .ok request) :
    request.job.kind = .scheduledAction ∧ request.job.tenantId = request.action.tenantId ∧
      uuid request.job.payload "scheduled_action_id" = .ok request.action.id := by
  unfold ScheduledActionService.create at h
  obtain ⟨-, -, h⟩ := Checks.bind_eq_ok.mp h
  obtain ⟨-, -, h⟩ := Checks.bind_eq_ok.mp h
  split at h
  · obtain ⟨leaseSeconds, -, h⟩ := Checks.bind_eq_ok.mp h
    obtain ⟨retryBaseSeconds, -, h⟩ := Checks.bind_eq_ok.mp h
    obtain ⟨idempotencyKey, -, h⟩ := Checks.bind_eq_ok.mp h
    obtain ⟨reason, -, h⟩ := Checks.bind_eq_ok.mp h
    obtain rfl := Except.ok.inj h
    exact ⟨rfl, rfl, uuid_str actionId.property rfl⟩
  · cases h

/-- The calls that a step can make. -/
inductive CallOf (w : World) : TaskCall → Prop
  | create {command jobId eventId request} {actionId : { id : UUID // id < 2 ^ 128 }}
      (h : ScheduledActionService.create command actionId jobId eventId w.around.clock = .ok request) :
      CallOf w (.createScheduledAction request)
  | replay {tenantId sourceJobId request} : CallOf w (.replay tenantId sourceJobId request)
  | repository {call} (h : foreign w.store call = true) : CallOf w call
  | claim {jobId workerId now attemptId locked} :
      CallOf w (.claimJob jobId workerId now attemptId locked)
  | settle {run summary eventId delay call} (hrun : run ∈ w.runs)
      (h : run.settlement summary eventId w.around.clock delay = some call) : CallOf w call

theorem callOf_eq_some {call : TaskCall} (h : callOf w a = some call) : CallOf w call := by
  cases a with
  | create command actionId jobId eventId =>
    dsimp only [callOf] at h
    cases hcreate : ScheduledActionService.create command actionId jobId eventId w.around.clock with
    | error error =>
      rw [hcreate] at h
      cases h
    | ok request =>
      rw [hcreate] at h
      cases h
      exact .create hcreate
  | replay tenantId sourceJobId actorId replayId eventId confirmed reason =>
    dsimp only [callOf] at h
    split at h
    · cases h
    split at h
    · split at h
      · cases h
      · cases h
        exact .replay
    · cases h
  | repository call =>
    dsimp only [callOf] at h
    split at h
    · cases h
      exact .repository (by assumption)
    · cases h
  | execute =>
    cases h
    exact .claim
  | settle i summary eventId delay =>
    obtain ⟨run, hrun, h⟩ := Option.bind_eq_some_iff.mp h
    exact .settle (List.mem_of_getElem? hrun) h
  | configure | relate | tick | advance | interrupt => cases h

theorem settlement_eq_some {run : Run} {summary : JsonObject} {eventId : UUID} {now delay : ℕ}
    {call : TaskCall} (h : run.settlement summary eventId now delay = some call) :
    (run.phase = .returned ∧ ∃ later, call = .completeJob run.job.id run.execution.claim.attempt.id
      run.execution.workerId summary later) ∨
    ∃ errorCode errorSummary permanent timedOut retryAt retry later,
      call = .failJob run.job.id run.execution.claim.attempt.id run.execution.workerId errorCode
        errorSummary permanent timedOut retryAt retry later := by
  unfold Run.settlement at h
  cases hphase : run.phase with
  | returned =>
    rw [hphase] at h
    cases h
    exact .inl ⟨rfl, _, rfl⟩
  | raised error =>
    rw [hphase] at h
    obtain rfl := Option.some.inj h
    cases error <;> exact .inr ⟨_, _, _, _, _, _, _, rfl⟩
  | getScheduledAction | resolveEffective | getRelationship | evaluate | deliver | settled =>
    rw [hphase] at h
    cases h

theorem CallOf.created {request : ScheduleRequest} (h : CallOf w (.createScheduledAction request)) :
    ∃ command actionId jobId eventId, ScheduledActionService.create command
      (actionId : { id : UUID // id < 2 ^ 128 }) jobId eventId w.around.clock = .ok request := by
  cases h with
  | create h => exact ⟨_, _, _, _, h⟩
  | repository h => cases h
  | settle hrun h =>
    rcases settlement_eq_some h with ⟨-, _, heq⟩ | ⟨_, _, _, _, _, _, _, heq⟩ <;> cases heq

theorem pending_of_step {call : TaskCall} {action : ScheduledAction} (hcall : callOf w a = some call)
    (haction : action ∈ (SqlAlchemyTaskRepository.step w.store call).2.scheduledActions)
    (hpending : action.status = .pending) :
    action ∈ w.store.scheduledActions ∨ ∃ request : ScheduleRequest, action = request.action ∧
      (SqlAlchemyTaskRepository.step w.store call).2.jobs.find? request.job.id = some request.job ∧
      request.job.kind = .scheduledAction ∧ request.job.tenantId = request.action.tenantId ∧
      uuid request.job.payload "scheduled_action_id" = .ok request.action.id := by
  rcases (step_actionChange w.store call).pending haction hpending with
    hold | ⟨request, rfl, rfl, hjob⟩
  · exact .inl hold
  · obtain ⟨command, actionId, jobId, eventId, hcreate⟩ := (callOf_eq_some hcall).created
    exact .inr ⟨request, rfl, hjob, create_names hcreate⟩

theorem named_step {call : TaskCall} (h : Inv w) (hcall : callOf w a = some call) :
    ∀ action ∈ (SqlAlchemyTaskRepository.step w.store call).2.scheduledActions,
      action.status = .pending → Named (SqlAlchemyTaskRepository.step w.store call).2 action := by
  intro action haction hpending
  rcases pending_of_step hcall haction hpending with
    hold | ⟨request, rfl, hjob, hkind, htenant, hname⟩
  · exact (h.named action hold hpending).mono (step_jobsKept h.linked call)
  · exact ⟨_, _, request.actionJob, hjob, hkind, htenant, hname⟩

theorem runs_set {runs : List Run} {i : ℕ} {run : Run} {P : Run → Prop}
    (hruns : ∀ r ∈ runs, P r) (hrun : P run) : ∀ r ∈ runs.set i run, P r := by
  intro r hr
  rcases List.mem_or_eq_of_mem_set hr with hr | rfl
  · exact hruns r hr
  · exact hrun

theorem claim_job {jobId attemptId : UUID} {worker : BackgroundTaskService.WorkerId} {locked : Bool}
    {now : Datetime} {execution : BackgroundTaskService.Execution}
    (hclaim : BackgroundTaskService.execute jobId worker attemptId locked now s =
      (some execution, s')) :
    execution.claim.job.id = jobId ∧
      ∃ job, s.jobs.find? jobId = some job ∧ SameTask job execution.claim.job := by
  unfold BackgroundTaskService.execute at hclaim
  cases hjob : claimJob jobId worker.owner now attemptId locked s with
  | error error =>
    rw [hjob] at hclaim
    cases hclaim
  | ok answer =>
    obtain ⟨claim, t⟩ := answer
    rw [hjob] at hclaim
    obtain ⟨hexecution, -⟩ := Prod.mk.inj hclaim
    obtain ⟨made, rfl, rfl⟩ := Option.map_eq_some_iff.mp hexecution
    rcases claimJob_cases hjob with ⟨hnone, -⟩ | ⟨-, row, hrow, -, -, -, ⟨hnone, -⟩ | ⟨-, _, hmade, -⟩⟩
    · cases hnone
    · cases hnone
    · cases hmade
      have hid : row.id = jobId := Table.key_of_find? hrow
      exact ⟨hid, row, hrow, rfl, rfl, rfl⟩

theorem SameTask.symm {job job' : BackgroundJob} (h : SameTask job job') : SameTask job' job :=
  ⟨h.1.symm, h.2.1.symm, h.2.2.symm⟩

theorem Steps.inv (h : Steps ports w a w') (hinv : Inv w) : Inv w' := by
  cases h with
  | idles => exact hinv
  | calls hcall =>
    exact ⟨step_linked hinv.linked _, named_step hinv hcall,
      fun run hrun ↦ (hinv.runs run hrun).mono (step_keeps hinv.linked _)⟩
  | changes => exact ⟨hinv.linked, hinv.named, hinv.runs⟩
  | @claims jobId worker attemptId locked execution hclaim =>
    have hkeeps := step_keeps hinv.linked
      (.claimJob jobId worker.owner w.around.clock attemptId locked)
    refine ⟨hkeeps.linked, named_step (a := .execute jobId worker attemptId locked) hinv rfl,
      fun run hrun ↦ ?_⟩
    rcases List.mem_append.mp hrun with hrun | hrun
    · exact (hinv.runs run hrun).mono hkeeps
    · obtain rfl := List.mem_singleton.mp hrun
      obtain ⟨hid, job, hjob, hsame⟩ := claim_job hclaim
      obtain ⟨job', hjob', hsame'⟩ := hkeeps.jobs _ job hjob
      refine ⟨hkeeps.grows, ⟨job', ?_, hsame.symm.trans hsame'⟩, trivial⟩
      exact (congrArg _ hid).trans hjob'
  | moves hrun h =>
    have hmem := hinv.runs _ (List.mem_of_getElem? hrun)
    rcases h.store with rfl | ⟨call, rfl, hdecides⟩
    · exact ⟨hinv.linked, hinv.named, runs_set hinv.runs (hmem.goto (h.sees hmem.sees))⟩
    · have hkeeps := step_keeps hinv.linked call
      refine ⟨hkeeps.linked, fun action haction hpending ↦ ?_,
        runs_set (fun r hr ↦ (hinv.runs r hr).mono hkeeps) ((hmem.mono hkeeps).goto (h.sees hmem.sees))⟩
      rcases (step_actionChange w.store call).pending haction hpending with hold | ⟨_, rfl, -⟩
      · exact (hinv.named action hold hpending).mono hkeeps.jobs
      · exact absurd trivial hdecides
  | interrupts hrun =>
    have hmem := hinv.runs _ (List.mem_of_getElem? hrun)
    exact ⟨hinv.linked, hinv.named, runs_set hinv.runs (hmem.goto trivial)⟩
  | @settles _ _ _ _ _ call hrun hcall =>
    have hkeeps := step_keeps hinv.linked call
    have hmem := hinv.runs _ (List.mem_of_getElem? hrun)
    exact ⟨hkeeps.linked, named_step hinv hcall,
      runs_set (fun r hr ↦ (hinv.runs r hr).mono hkeeps) ((hmem.mono hkeeps).goto trivial)⟩

theorem run_inv (ports : Ports) (around : Surroundings) (as : List Action) :
    Inv (Machine.run (step ports) (World.empty around) as) :=
  Machine.run_invariant_all (fun w a hinv ↦ (step_steps ports w a).inv hinv) (inv_empty around) as

end invariant

end CyberNetizen.Tasks.ScheduledActions
