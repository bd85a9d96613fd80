import CyberNetizen.Tasks.ScheduledActionHistory

namespace CyberNetizen.Tasks.ScheduledActions

open Domain Application Infrastructure KeyedTable SqlAlchemyTaskRepository ScheduledActionTaskHandler

/-- The job itself, or a replay of it, or a replay of one of those. -/
inductive Serves (s : TaskStore) (jobId : UUID) : BackgroundJob → Prop
  | itself {job} : s.jobs.find? jobId = some job → Serves s jobId job
  | replay {source job} : Serves s jobId source → job ∈ s.jobs →
      job.replayedFromId = some source.id → Serves s jobId job

def PendingServed (s : TaskStore) : Prop :=
  ∀ action ∈ s.scheduledActions, action.status = .pending →
    ∃ jobId job, action.jobId = some jobId ∧ Serves s jobId job ∧ jobTerminal job.status = false

def CanceledStays (w : World) : Prop :=
  ∀ run ∈ w.runs, ∀ actionId row, run.start.store.scheduledActions.find? actionId = some row →
    row.status = .canceled → w.store.scheduledActions.find? actionId = some row ∧
      ∀ action delivery, run.phase = .deliver action delivery → action.id ≠ actionId

def Ends (s : TaskStore) (job : BackgroundJob) : TaskCall → Prop
  | .requestCancel tenantId jobId _ =>
    job.id = jobId ∧ job.tenantId = tenantId ∧ job.status ≠ .running
  | .claimJob jobId _ now _ locked =>
    job.id = jobId ∧ locked = false ∧ jobWaiting job.status = true ∧ job.availableAt ≤ now ∧
      job.attemptCount < job.maxAttempts ∧ job.cancelRequestedAt.isSome
  | .failJob jobId attemptId workerId _ _ permanent .. =>
    job.id = jobId ∧ (lockedExecution s jobId attemptId workerId).1.isSome ∧
      (lockedExecution s jobId attemptId workerId).2.isSome ∧ failStatus permanent job ≠ .retrying
  | .recoverExpiredLeases now _ lockedJobs _ =>
    jobExpired now job = true ∧ lockedJobs job.id = false ∧ recoverStatus job = .deadLetter
  | _ => False

instance (s : TaskStore) (job : BackgroundJob) : ∀ call, Decidable (Ends s job call)
  | .requestCancel .. | .claimJob .. | .failJob .. | .recoverExpiredLeases .. =>
    inferInstanceAs (Decidable (_ ∧ _))
  | .enqueue _ | .replay .. | .renewJobLease .. | .completeJob .. | .claimOutbox ..
  | .markOutboxPublished .. | .markOutboxFailed .. | .createScheduledAction _
  | .cancelScheduledAction .. | .decideScheduledAction .. => .isFalse id

def Spares (w : World) (a : Action) : Prop :=
  ∀ call ∈ callOf w a, ∀ action ∈ w.store.scheduledActions.rows, action.status = .pending →
    ∀ job ∈ action.jobId.bind w.store.jobs.find?, ¬Ends w.store job call

instance (w : World) (a : Action) : Decidable (Spares w a) :=
  inferInstanceAs (Decidable (∀ call ∈ callOf w a, ∀ action ∈ w.store.scheduledActions.rows, _))

section ends

variable {s : TaskStore} {call : TaskCall} {jobId : UUID} {job job' : BackgroundJob}

theorem requestCancel_elsewhere {tenantId : UUID} {now : Datetime}
    (hjob : s.jobs.find? jobId = some job) (htenant : job.tenantId ≠ tenantId) :
    (requestCancel tenantId jobId now s).2 = s := by
  unfold requestCancel
  rw [hjob]
  dsimp only
  rw [if_pos htenant]

theorem claimJob_refused {workerId : String} {now : Datetime} {attemptId : UUID} {locked : Bool}
    (hjob : s.jobs.find? jobId = some job)
    (h : ¬(locked = false ∧ jobWaiting job.status = true ∧ job.availableAt ≤ now ∧
      job.attemptCount < job.maxAttempts)) :
    (SqlAlchemyTaskRepository.step s (.claimJob jobId workerId now attemptId locked)).2 = s := by
  refine reply_state (P := fun t ↦ t = s) rfl fun r s' hclaim ↦ ?_
  rcases claimJob_cases hclaim with ⟨-, rfl⟩ | ⟨hlocked, row, hrow, hwaiting, hdue, hcount, -⟩
  · rfl
  · obtain rfl := Option.some.inj (hjob.symm.trans hrow)
    exact absurd ⟨hlocked, hwaiting, hdue, hcount⟩ h

theorem failJob_refused {attemptId : UUID} {workerId errorCode errorSummary : String}
    {permanent timedOut : Bool} {retryAt now : Datetime} {retry : RetryEvent jobId retryAt}
    (h : ¬((lockedExecution s jobId attemptId workerId).1.isSome ∧
      (lockedExecution s jobId attemptId workerId).2.isSome)) :
    (SqlAlchemyTaskRepository.step s (.failJob jobId attemptId workerId errorCode errorSummary
      permanent timedOut retryAt retry now)).2 = s := by
  refine reply_state (P := fun t ↦ t = s) rfl fun r s' hfail ↦ ?_
  rcases failJob_cases hfail with ⟨-, rfl⟩ | ⟨row, attempt, t, inboxStatus, error, hlocked, -⟩
  · rfl
  · rw [hlocked] at h
    exact absurd ⟨rfl, rfl⟩ h

/-- A job ends in one of the ways of `Ends`, or it is completed, or its action is canceled. -/
theorem ends_of_terminal (hs : Linked s) (hjob : s.jobs.find? jobId = some job)
    (hopen : jobTerminal job.status = false)
    (hjob' : (SqlAlchemyTaskRepository.step s call).2.jobs.find? jobId = some job')
    (hended : jobTerminal job'.status = true) :
    Ends s job call ∨
    (∃ attemptId workerId result now, call = .completeJob jobId attemptId workerId result now) ∨
    ∃ tenantId actionId now, call = .cancelScheduledAction tenantId actionId now ∧
      cancelTarget s tenantId actionId = some jobId := by
  have hsame : (SqlAlchemyTaskRepository.step s call).2 ≠ s := by
    intro hsame
    rw [hsame, hjob] at hjob'
    obtain rfl := Option.some.inj hjob'
    exact Bool.false_ne_true (hopen.symm.trans hended)
  have hview := step_view hs call jobId
  rw [view_of_find? hjob, view_of_find? hjob'] at hview
  obtain rfl := Table.key_of_find? hjob
  generalize hold : some (JobView.mk job (attemptsOf s job.id) (sourceInbox s job)) = old at hview
  generalize hnew : some (JobView.mk job' _ _) = new at hview
  cases hview with
  | same =>
    obtain rfl := congrArg JobView.job (Option.some.inj (hold.trans hnew.symm))
    exact absurd (hopen.symm.trans hended) Bool.false_ne_true
  | created => cases hold
  | @step v v' hstep =>
    obtain rfl : job = v.job := congrArg JobView.job (Option.some.inj hold)
    obtain rfl : job' = v'.job := congrArg JobView.job (Option.some.inj hnew)
    clear hold hnew
    cases hstep with
    | claim => cases hended
    | claimCanceled hwaiting hcancel =>
      refine .inl ⟨rfl, ?_⟩
      by_contra hnot
      refine hsame (claimJob_refused hjob fun h ↦ hnot ?_)
      exact ⟨rfl, hwaiting, h.2.2.1, h.2.2.2, hcancel⟩
    | renew => exact absurd (hopen.symm.trans hended) Bool.false_ne_true
    | complete => exact .inr (.inl ⟨_, _, _, _, rfl⟩)
    | fail hrunning hattempt =>
      refine .inl ⟨rfl, ?_⟩
      by_contra hnot
      refine hsame (failJob_refused fun h ↦ hnot ⟨h.1, h.2, fun hretry ↦ ?_⟩)
      have hstatus : jobTerminal (failStatus _ _) = true := hended
      rw [hretry] at hstatus
      cases hstatus
    | cancelWaiting _ hrunning =>
      refine .inl ⟨rfl, ?_, hrunning⟩
      by_contra htenant
      exact hsame (requestCancel_elsewhere hjob htenant)
    | cancelRunning => exact absurd (hopen.symm.trans hended) Bool.false_ne_true
    | recover hexpired hlocked =>
      refine .inl ⟨hexpired, hlocked, (recoverStatus_cases _).resolve_right fun hretry ↦ ?_⟩
      have hstatus : jobTerminal (recoverStatus _) = true := hended
      rw [hretry] at hstatus
      cases hstatus
    | cancelScheduled _ htarget => exact .inr (.inr ⟨_, _, _, rfl, htarget⟩)

end ends

section run

variable {ports : Ports} {w w' : World} {a : Action}

def Live (s : TaskStore) : Prop :=
  ∀ action ∈ s.scheduledActions, action.status = .pending → ∀ jobId, action.jobId = some jobId →
    ∀ job, s.jobs.find? jobId = some job → jobTerminal job.status = false

theorem Inv.served (hinv : Inv w) (h : Live w.store) : PendingServed w.store := by
  intro action haction hpending
  obtain ⟨jobId, job, hid, hjob, -⟩ := hinv.named action haction hpending
  exact ⟨jobId, job, hid, .itself hjob, h action haction hpending jobId hid job hjob⟩

/-- An execution completes its job when the action has been settled. -/
theorem complete_settled {jobId attemptId : UUID} {workerId : String} {result : JsonObject}
    {now : Datetime} {job : BackgroundJob} (hinv : Inv w)
    (h : CallOf w (.completeJob jobId attemptId workerId result now))
    (hjob : w.store.jobs.find? jobId = some job) (hkind : job.kind = .scheduledAction) :
    ∃ action, uuid job.payload "scheduled_action_id" = .ok action.id ∧
      action ∈ w.store.scheduledActions ∧ action.status ≠ .pending := by
  cases h with
  | repository h =>
    simp only [foreign, hjob, Option.all_some, decide_eq_true_eq] at h
    exact absurd hkind h
  | settle hrun h =>
    rcases settlement_eq_some h with ⟨hphase, _, heq⟩ | ⟨_, _, _, _, _, _, _, heq⟩
    · cases heq
      obtain ⟨-, ⟨row, hrow, hpayload, -⟩, hsees⟩ := hinv.runs _ hrun
      rw [hphase] at hsees
      obtain ⟨action, hread, hsettled⟩ := hsees
      obtain rfl := Option.some.inj (hjob.symm.trans hrow)
      exact ⟨action, hpayload ▸ hread.1, Table.mem_of_find? (hread.settled hsettled), hsettled⟩
    · cases heq

/-- A step that spares the jobs of pending actions leaves them open. -/
theorem live_step {call : TaskCall} (hinv : Inv w) (hlive : Live w.store)
    (hcall : callOf w a = some call) (hspares : Spares w a) :
    Live (SqlAlchemyTaskRepository.step w.store call).2 := by
  intro action haction hpending jobId hid job' hjob'
  by_contra hclosed
  have hended : jobTerminal job'.status = true := Bool.not_eq_false _ ▸ hclosed
  rcases pending_of_step hcall haction hpending with hold | ⟨request, rfl, hjob, -⟩
  · obtain ⟨_, job, hid', hjob, hkind, htenant, hname⟩ := hinv.named action hold hpending
    obtain rfl := Option.some.inj (hid.symm.trans hid')
    have hopen := hlive action hold hpending jobId hid job hjob
    rcases ends_of_terminal hinv.linked hjob hopen hjob' hended with
      hends | ⟨_, _, _, _, rfl⟩ | ⟨tenantId, actionId, now, rfl, htarget⟩
    · exact hspares call hcall action hold hpending job (by rw [hid]; exact hjob) hends
    · obtain ⟨settled, hsettledName, hmem, hsettled⟩ :=
        complete_settled hinv (callOf_eq_some hcall) hjob hkind
      have hsame : action.id = settled.id := Except.ok.inj (hname.symm.trans hsettledName)
      exact hsettled (Table.eq_of_key_eq hold hmem hsame ▸ hpending)
    · obtain ⟨canceled, hfound, hjobId⟩ := Option.bind_eq_some_iff.mp htarget
      split at hjobId
      · rename_i hcanceled
        -- the canceled action is the one that the job names
        obtain ⟨hrow, -⟩ := getScheduledAction_eq_some.mp hfound
        obtain ⟨_, _, hid', hjob', -, -, hname'⟩ :=
          hinv.named canceled (Table.mem_of_find? hrow) hcanceled
        obtain rfl := Option.some.inj (hjobId.symm.trans hid')
        obtain rfl := Option.some.inj (hjob.symm.trans hjob')
        have hsame : canceled.id = action.id := Except.ok.inj (hname'.symm.trans hname)
        obtain rfl := Table.eq_of_key_eq (Table.mem_of_find? hrow) hold hsame
        obtain rfl := Table.key_of_find? hrow
        have hnow := Table.find?_key haction
        dsimp only [SqlAlchemyTaskRepository.step] at hnow
        rw [cancelScheduledAction_actions hfound hcanceled now] at hnow
        have heq := Option.some.inj ((Table.find?_updateWhere_self hrow).symm.trans hnow)
        rw [← heq] at hpending
        cases hpending
      · cases hjobId
  · obtain rfl := Option.some.inj (hid.symm.trans request.actionJob)
    obtain rfl := Option.some.inj (hjob.symm.trans hjob')
    rw [request.fresh.status] at hended
    cases hended

theorem Steps.live (h : Steps ports w a w') (hinv : Inv w) (hlive : Live w.store)
    (hspares : Spares w a) : Live w'.store := by
  cases h with
  | idles | changes | interrupts => exact hlive
  | calls hcall | settles _ hcall => exact live_step hinv hlive hcall hspares
  | claims => exact live_step hinv hlive rfl hspares
  | moves hrun h =>
    rcases h.store with rfl | ⟨call, rfl, hdecides⟩
    · exact hlive
    intro action haction hpending jobId hid job hjob
    rcases (step_actionChange w.store call).pending haction hpending with hold | ⟨_, rfl, -⟩
    · obtain ⟨_, old, hid', hjob', -⟩ := hinv.named action hold hpending
      obtain rfl := Option.some.inj (hid.symm.trans hid')
      by_contra hclosed
      have hended : jobTerminal job.status = true := Bool.not_eq_false _ ▸ hclosed
      have hopen := hlive action hold hpending jobId hid old hjob'
      rcases ends_of_terminal hinv.linked hjob' hopen hjob hended with
        hends | ⟨_, _, _, _, rfl⟩ | ⟨_, _, _, rfl, -⟩
      · cases call with
        | decideScheduledAction => exact hends
        | _ => exact hdecides trivial
      · exact hdecides trivial
      · exact hdecides trivial
    · exact absurd trivial hdecides

theorem Inv.canceledStays (h : Inv w) : CanceledStays w := by
  intro run hrun actionId row hrow hcanceled
  obtain ⟨hgrows, -, hsees⟩ := h.runs run hrun
  have hnow : w.store.scheduledActions.find? actionId = some row :=
    hgrows.settled hrow (by rw [hcanceled]; exact ScheduledActionStatus.noConfusion)
  refine ⟨hnow, fun action delivery hphase hid ↦ ?_⟩
  rw [hphase] at hsees
  obtain ⟨hread, hdispatched⟩ := hsees
  have haction := hread.settled (by rw [hdispatched]; exact ScheduledActionStatus.noConfusion)
  rw [hid, hnow] at haction
  obtain rfl := Option.some.inj haction
  rw [hcanceled] at hdispatched
  cases hdispatched

/-- Where no step ends the job of a pending action, none is left to an ended job; a canceled
action is left alone in any case. -/
theorem scheduled_actions_served (ports : Ports) (around : Surroundings) (as : List Action) :
    (Machine.Along (step ports) Spares (World.empty around) as →
      PendingServed (Machine.run (step ports) (World.empty around) as).store) ∧
    CanceledStays (Machine.run (step ports) (World.empty around) as) := by
  refine ⟨fun h ↦ ?_, (run_inv ports around as).canceledStays⟩
  have hrun := Machine.run_invariant (I := fun w ↦ Inv w ∧ Live w.store)
    (fun w a hw hspares ↦
      ⟨(step_steps ports w a).inv hw.1, (step_steps ports w a).live hw.1 hw.2 hspares⟩)
    ⟨inv_empty around, fun action haction ↦ absurd haction (Table.not_mem_empty _)⟩ h
  exact hrun.1.served hrun.2

def retriedGreeting : List Action :=
  [createGreeting, executeGreeting 20, .interrupt 0 (.other "TimeoutError" false true),
    .settle 0 [] 21 0]

theorem scheduled_actions_served_retry :
    (∃ action ∈
        (Machine.run (step utcPorts) (World.empty openDay) retriedGreeting).store.scheduledActions,
      action.status = .pending) ∧
    PendingServed (Machine.run (step utcPorts) (World.empty openDay) retriedGreeting).store := by
  refine ⟨?_, (scheduled_actions_served utcPorts openDay retriedGreeting).1 (by decide +kernel)⟩
  exact ⟨_, List.mem_singleton_self _, rfl⟩

theorem Serves.mem {s : TaskStore} {jobId : UUID} {job : BackgroundJob} (h : Serves s jobId job) :
    job ∈ s.jobs := by
  cases h with
  | itself h => exact Table.mem_of_find? h
  | replay _ hmem => exact hmem

def canceledJob : List Action := [createGreeting, .repository (.requestCancel 1 11 noon)]

theorem canceled_job_strands_action :
    ¬∀ ports around as, PendingServed (Machine.run (step ports) (World.empty around) as).store := by
  intro h
  have hended : ∀ job ∈ (Machine.run (step utcPorts) (World.empty openDay) canceledJob).store.jobs.rows,
      jobTerminal job.status = true := by decide +kernel
  obtain ⟨_, job, -, hserves, hopen⟩ :=
    h utcPorts openDay canceledJob _ (List.mem_singleton_self _) rfl
  exact Bool.false_ne_true (hopen.symm.trans (hended job hserves.mem))

end run

end CyberNetizen.Tasks.ScheduledActions
