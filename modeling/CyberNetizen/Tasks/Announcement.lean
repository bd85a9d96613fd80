import CyberNetizen.Tasks.Lifecycle

namespace CyberNetizen.Tasks

open Domain Cognition Infrastructure KeyedTable SqlAlchemyTaskRepository

def Announced (s s' : TaskStore) (row : BackgroundJob) : Prop :=
  ∃ event ∈ s'.outboxEvents, (∀ old ∈ s.outboxEvents, old.id ≠ event.id) ∧
    event.jobId = row.id ∧ event.status = .pending ∧ row.availableAt ≤ event.availableAt

/-- Outbox events stay, and a job only comes to wait with a new one. -/
structure Announces (s s' : TaskStore) : Prop where
  waiting : ∀ row ∈ s'.jobs, jobWaiting row.status = true → row ∈ s.jobs ∨ Announced s s' row
  kept : ∀ event ∈ s.outboxEvents, event ∈ s'.outboxEvents
  publishing : ∀ event ∈ s'.outboxEvents, event.status = .publishing → event ∈ s.outboxEvents

/-- What the calls that do not publish do to waiting jobs: the events of a job that goes on
waiting stay. -/
structure Delivers (s s' : TaskStore) : Prop where
  waiting : ∀ row ∈ s'.jobs, jobWaiting row.status = true → row ∈ s.jobs ∨ Announced s s' row
  kept : ∀ event ∈ s.outboxEvents, ∃ event' ∈ s'.outboxEvents, event'.id = event.id ∧
    event'.jobId = event.jobId ∧
      (event' = event ∨ ∀ row ∈ s'.jobs, row.id = event.jobId → jobWaiting row.status = false)
  publishing : ∀ event ∈ s'.outboxEvents, event.status = .publishing → event ∈ s.outboxEvents

section announces

variable {s s' t : TaskStore} {jobId : UUID}

theorem Announces.refl : Announces s s :=
  ⟨fun _ h _ ↦ .inl h, fun _ h ↦ h, fun _ h _ ↦ h⟩

theorem Announces.trans (h : Announces s t) (h' : Announces t s') : Announces s s' where
  waiting row hrow hwaiting := by
    rcases h'.waiting row hrow hwaiting with hrow | ⟨event, he, hnew, hevent⟩
    · rcases h.waiting row hrow hwaiting with hrow | ⟨event, he, hevent⟩
      · exact .inl hrow
      · exact .inr ⟨event, h'.kept event he, hevent⟩
    · exact .inr ⟨event, he, fun old hold ↦ hnew old (h.kept old hold), hevent⟩
  kept event he := h'.kept event (h.kept event he)
  publishing event he hstatus := h.publishing event (h'.publishing event he hstatus) hstatus

theorem Announces.delivers (h : Announces s s') : Delivers s s' where
  waiting := h.waiting
  kept event he := ⟨event, h.kept event he, rfl, rfl, .inl rfl⟩
  publishing := h.publishing

theorem Announces.of_eq (hjobs : s'.jobs = s.jobs) (hevents : s'.outboxEvents = s.outboxEvents) :
    Announces s s' where
  waiting _ hrow _ := .inl (hjobs ▸ hrow)
  kept _ he := hevents ▸ he
  publishing _ he _ := hevents ▸ he

theorem mem_setJob {f : Update BackgroundJob.id} {row : BackgroundJob}
    (hjobs : s'.jobs = s.jobs.updateWhere (fun row ↦ row.id = jobId) f) (h : row ∈ s'.jobs) :
    (row ∈ s.jobs ∧ row.id ≠ jobId) ∨ ∃ old, s.jobs.find? jobId = some old ∧ row = f old := by
  rw [hjobs] at h
  obtain ⟨old, hold, rfl⟩ := Table.mem_updateWhere.mp h
  by_cases hid : old.id = jobId
  · rw [if_pos (by simpa using hid)]
    exact .inr ⟨old, Table.find?_eq_some.mpr ⟨hold, hid⟩, rfl⟩
  · rw [if_neg (by simpa using hid)]
    exact .inl ⟨hold, hid⟩

theorem Announces.of_settled {f : Update BackgroundJob.id}
    (hjobs : s'.jobs = s.jobs.updateWhere (fun row ↦ row.id = jobId) f)
    (hevents : s'.outboxEvents = s.outboxEvents)
    (hf : ∀ row, s.jobs.find? jobId = some row → jobWaiting (f row).status = false) :
    Announces s s' where
  waiting row hrow hwaiting := by
    rcases mem_setJob hjobs hrow with ⟨hrow, -⟩ | ⟨old, hold, rfl⟩
    · exact .inl hrow
    · rw [hf old hold] at hwaiting
      exact absurd hwaiting (by simp)
  kept event he := hevents ▸ he
  publishing event he _ := hevents ▸ he

theorem announced_insert {outbox : OutboxEvent} {row : BackgroundJob}
    (hevents : s.outboxEvents.insert? outbox = some s'.outboxEvents)
    (hrequests : outbox.Requests row.id) (hdue : row.availableAt ≤ outbox.availableAt) :
    Announced s s' row :=
  ⟨outbox, (Table.mem_insert? hevents).mpr (.inr rfl), (Table.insert?_eq_some hevents).1,
    hrequests.jobId, hrequests.status, hdue⟩

theorem publishing_insert {outbox : OutboxEvent} (hpending : outbox.status = .pending)
    (hevents : s.outboxEvents.insert? outbox = some s'.outboxEvents) :
    ∀ event ∈ s'.outboxEvents, event.status = .publishing → event ∈ s.outboxEvents := by
  intro event he hstatus
  rcases (Table.mem_insert? hevents).mp he with he | rfl
  · exact he
  · exact absurd (hpending.symm.trans hstatus) (by decide)

theorem Announces.of_retry {f : Update BackgroundJob.id} {outbox : OutboxEvent}
    (hjobs : s'.jobs = s.jobs.updateWhere (fun row ↦ row.id = jobId) f)
    (hevents : s.outboxEvents.insert? outbox = some s'.outboxEvents)
    (hrequests : outbox.Requests jobId)
    (hdue : ∀ row, s.jobs.find? jobId = some row → (f row).availableAt ≤ outbox.availableAt) :
    Announces s s' where
  waiting row hrow _ := by
    rcases mem_setJob hjobs hrow with ⟨hrow, -⟩ | ⟨old, hold, rfl⟩
    · exact .inl hrow
    · have hid : (f old).id = jobId := (f.key_eq old).trans (Table.key_of_find? hold)
      exact .inr (announced_insert hevents (hid ▸ hrequests) (hdue old hold))
  kept event he := (Table.mem_insert? hevents).mpr (.inl he)
  publishing := publishing_insert hrequests.status hevents

theorem Announces.of_task (task : NewTask) (hjobs : s.jobs.insert? task.job = some s'.jobs)
    (hevents : s.outboxEvents.insert? task.outbox = some s'.outboxEvents) : Announces s s' where
  waiting row hrow _ := by
    rcases (Table.mem_insert? hjobs).mp hrow with hrow | rfl
    · exact .inl hrow
    · exact .inr (announced_insert hevents task.requests task.due)
  kept event he := (Table.mem_insert? hevents).mpr (.inl he)
  publishing := publishing_insert task.requests.status hevents

theorem insertOutbox_table {outbox : OutboxEvent} (h : s.insertOutbox outbox = some s') :
    s'.jobs = s.jobs ∧ s.outboxEvents.insert? outbox = some s'.outboxEvents := by
  obtain ⟨outboxEvents, hinsert, rfl⟩ := TaskStore.insertOutbox_eq_some h
  exact ⟨rfl, hinsert⟩

theorem insertJob_table {job : BackgroundJob} (h : s.insertJob job = some s') :
    s.jobs.insert? job = some s'.jobs ∧ s'.outboxEvents = s.outboxEvents := by
  obtain ⟨-, -, jobs, hinsert, rfl⟩ := TaskStore.insertJob_eq_some h
  exact ⟨hinsert, rfl⟩

theorem insertTask_announces (task : NewTask) (hjob : s.insertJob task.job = some t)
    (houtbox : t.insertOutbox task.outbox = some s') : Announces s s' := by
  obtain ⟨hinsert, hkept⟩ := insertJob_table hjob
  obtain ⟨hsame, houtbox⟩ := insertOutbox_table houtbox
  refine .of_task task ?_ ?_
  · rw [hinsert, hsame]
  · rw [← hkept, houtbox]

theorem setInboxRow_announces {job : BackgroundJob} {status : InboxEventStatus} {now : Datetime}
    {errorCode : Option String} (h : Announces s t) :
    Announces s (setInboxRow t job status now errorCode) :=
  h.trans (.of_eq (setInboxRow_jobs ..) (setInboxRow_outboxEvents ..))

theorem enqueue_announces (request : EnqueueRequest) {r : BackgroundJob × Bool}
    (h : enqueue request.job request.outbox request.inbox s = .ok (r, s')) : Announces s s' := by
  unfold enqueue at h
  dsimp only at h
  split at h
  · rename_i hinserted
    obtain ⟨-, rfl⟩ := Prod.mk.inj (Except.ok.inj h)
    cases hin : request.inbox with
    | none =>
      rw [hin] at hinserted
      obtain ⟨s₁, hjob, houtbox⟩ := flush_task hinserted
      exact insertTask_announces request.toNewTask hjob houtbox
    | some event =>
      rw [hin] at hinserted
      have hsource : request.job.sourceInboxId = some event.id := by
        rw [request.sourceInbox, hin]
        rfl
      cases (flush_inbox hsource).symm.trans hinserted
  · split at h
    · obtain ⟨-, rfl⟩ := Prod.mk.inj (Except.ok.inj h)
      exact .refl
    · split at h
      · obtain ⟨-, rfl⟩ := Prod.mk.inj (Except.ok.inj h)
        exact .refl
      · exact absurd h (by simp)

theorem replay_announces {tenantId sourceJobId : UUID} (request : ReplayRequest)
    {r : Option BackgroundJob}
    (h : replay tenantId sourceJobId request.job request.outbox s = .ok (r, s')) :
    Announces s s' := by
  unfold replay at h
  split at h
  · obtain ⟨-, rfl⟩ := Prod.mk.inj (Except.ok.inj h)
    exact .refl
  split at h
  · obtain ⟨-, rfl⟩ := Prod.mk.inj (Except.ok.inj h)
    exact .refl
  split at h
  · rename_i hinserted
    obtain ⟨-, rfl⟩ := Prod.mk.inj (Except.ok.inj h)
    obtain ⟨s₁, hjob, houtbox⟩ := flush_task hinserted
    exact insertTask_announces request.toNewTask hjob houtbox
  · exact absurd h (by simp)

theorem createScheduledAction_announces (request : ScheduleRequest) {r : ScheduledAction × Bool}
    (h : createScheduledAction request.action request.job request.outbox s = .ok (r, s')) :
    Announces s s' := by
  unfold createScheduledAction at h
  split at h
  · exact absurd h (by simp)
  split at h
  · rename_i hinserted
    obtain ⟨-, rfl⟩ := Prod.mk.inj (Except.ok.inj h)
    obtain ⟨s₁, s₂, hjob, houtbox, haction⟩ := flush_scheduled hinserted
    obtain ⟨-, scheduledActions, -, rfl⟩ := TaskStore.insertAction_eq_some haction
    exact (insertTask_announces request.toNewTask hjob houtbox).trans (.of_eq rfl rfl)
  · split at h
    · obtain ⟨-, rfl⟩ := Prod.mk.inj (Except.ok.inj h)
      exact .refl
    · exact absurd h (by simp)

theorem claimJob_announces {workerId : String} {now : Datetime} {attemptId : UUID} {locked : Bool}
    {r : Option JobClaim} (h : claimJob jobId workerId now attemptId locked s = .ok (r, s')) :
    Announces s s' := by
  rcases claimJob_cases h with ⟨-, rfl⟩ | ⟨-, row, -, -, -, -, hcases⟩
  · exact .refl
  rcases hcases with ⟨-, -, rfl⟩ | ⟨-, t, -, hinsert, rfl⟩
  · exact setInboxRow_announces (.of_settled (f := claimCanceled now) rfl rfl fun _ _ ↦ rfl)
  · obtain ⟨attempts, -, rfl⟩ := TaskStore.insertAttempt_eq_some hinsert
    exact setInboxRow_announces (.of_settled (f := claimed workerId now) rfl rfl fun _ _ ↦ rfl)

theorem renewJobLease_announces {attemptId : UUID} {workerId : String} {now : Datetime} :
    Announces s (renewJobLease jobId attemptId workerId now s).2 := by
  unfold renewJobLease
  split
  · rename_i row attempt hrow _
    split
    · exact .refl
    · rename_i hheld
      simp only [not_or, not_not] at hheld
      refine .of_settled (f := renewed now) rfl rfl fun old hold ↦ ?_
      obtain rfl := Option.some.inj (hrow.symm.trans hold)
      exact hheld.1 ▸ rfl
  · exact .refl

theorem completeJob_announces {attemptId : UUID} {workerId : String} {result : JsonObject}
    {now : Datetime} : Announces s (completeJob jobId attemptId workerId result now s).2 := by
  unfold completeJob
  split
  · refine setInboxRow_announces (.of_settled (f := completed result now) rfl rfl fun row _ ↦ ?_)
    dsimp only [completed]
    split <;> rfl
  · exact .refl

theorem failJob_announces {attemptId : UUID} {workerId errorCode errorSummary : String}
    {permanent timedOut : Bool} {retryAt now : Datetime} (retry : RetryEvent jobId retryAt)
    {r : Option BackgroundJob}
    (h : failJob jobId attemptId workerId errorCode errorSummary permanent timedOut retryAt
      retry.outbox now s = .ok (r, s')) : Announces s s' := by
  unfold failJob at h
  split at h
  · rename_i row attempt hlocked
    obtain ⟨hrow, -⟩ := lockedExecution_eq_some hlocked
    have hfound : ∀ old, s.jobs.find? jobId = some old → old = row := fun old hold ↦
      Option.some.inj (hold.symm.trans hrow)
    have hsettled : failStatus permanent row ≠ .retrying →
        Announces s (setAttempt (setJob s jobId
          (failed errorCode errorSummary permanent retryAt now)) attemptId
            (attemptFailed (failStatus permanent row) timedOut errorCode errorSummary now)) := by
      refine fun hstatus ↦ .of_settled (f := failed errorCode errorSummary permanent retryAt now)
        rfl rfl fun old hold ↦ ?_
      rw [hfound old hold]
      rcases failStatus_cases permanent row with he | he | he | he
      · exact (congrArg jobWaiting he).trans rfl
      · exact (congrArg jobWaiting he).trans rfl
      · exact (congrArg jobWaiting he).trans rfl
      · exact absurd he hstatus
    dsimp only at h
    split at h
    · rename_i hretry
      split at h
      · exact absurd h (by simp)
      · rename_i t hinsert
        obtain ⟨-, rfl⟩ := Prod.mk.inj (Except.ok.inj h)
        obtain ⟨hjobs, hevents⟩ := insertOutbox_table hinsert
        refine setInboxRow_announces (.of_retry
          (f := failed errorCode errorSummary permanent retryAt now) hjobs hevents retry.requests
          fun old hold ↦ ?_)
        rw [hfound old hold]
        dsimp only [failed]
        rw [if_pos hretry]
        exact retry.due
    · rename_i hretry
      split at h <;> obtain ⟨-, rfl⟩ := Prod.mk.inj (Except.ok.inj h) <;>
        exact setInboxRow_announces (hsettled hretry)
  · obtain ⟨-, rfl⟩ := Prod.mk.inj (Except.ok.inj h)
    exact .refl

theorem retryOutbox_requests (eventId : UUID) (job : BackgroundJob) (now : Datetime) :
    (retryOutbox eventId job now).Requests job.id := ⟨rfl, rfl, rfl, rfl, rfl⟩

theorem recoverJob_announces {now : Datetime} {freshId : UUID → UUID}
    (h : recoverJob now freshId s jobId = some s') : Announces s s' := by
  unfold recoverJob at h
  split at h
  · obtain rfl := Option.some.inj h
    exact .refl
  rename_i row hrow
  dsimp only at h
  split at h
  · obtain ⟨t, hinsert, rfl⟩ := Option.map_eq_some_iff.mp h
    obtain ⟨hjobs, hevents⟩ := insertOutbox_table hinsert
    refine setInboxRow_announces (.of_retry (f := recovered now) hjobs hevents ?_
      fun _ _ ↦ le_refl now)
    exact Table.key_of_find? hrow ▸ retryOutbox_requests _ _ _
  · rename_i hretry
    obtain rfl := Option.some.inj h
    refine setInboxRow_announces (.of_settled (f := recovered now) rfl rfl fun old hold ↦ ?_)
    obtain rfl := Option.some.inj (hrow.symm.trans hold)
    exact (congrArg jobWaiting ((recoverStatus_cases row).resolve_right hretry)).trans rfl

theorem recoverJobs_announces {now : Datetime} {freshId : UUID → UUID} {ids : List UUID}
    (h : ids.foldlM (recoverJob now freshId) s = some s') : Announces s s' := by
  induction ids generalizing s with
  | nil =>
    obtain rfl := Option.some.inj h
    exact .refl
  | cons id ids ih =>
    rw [List.foldlM_cons] at h
    obtain ⟨t, hturn, hrest⟩ := Option.bind_eq_some_iff.mp h
    exact (recoverJob_announces hturn).trans (ih hrest)

theorem decideScheduledAction_announces {tenantId actionId : UUID} {decision : ProactiveDecision}
    {budgetUsage : Option SocialBudgetUsage} {dailyBudget : ℕ} {now : Datetime}
    {r : Option ScheduledAction}
    (h : decideScheduledAction tenantId actionId decision budgetUsage dailyBudget now s =
      .ok (r, s')) : Announces s s' := by
  unfold decideScheduledAction at h
  split at h
  · obtain ⟨-, rfl⟩ := Prod.mk.inj (Except.ok.inj h)
    exact .refl
  split at h
  · obtain ⟨-, rfl⟩ := Prod.mk.inj (Except.ok.inj h)
    exact .refl
  split at h
  · exact absurd h (by simp)
  · rename_i effective t hcharge
    obtain ⟨-, rfl⟩ := Prod.mk.inj (Except.ok.inj h)
    rcases chargeBudget_cases hcharge with rfl | ⟨usage, hinsert⟩
    · exact .of_eq rfl rfl
    · obtain ⟨-, budgetUsages, -, rfl⟩ := TaskStore.insertUsage_eq_some hinsert
      exact .of_eq rfl rfl

/-- A canceled job takes its undelivered events with it. -/
theorem Delivers.of_canceled {f : Update BackgroundJob.id} {now : Datetime}
    (hjobs : s'.jobs = s.jobs.updateWhere (fun row ↦ row.id = jobId) f)
    (hevents : s'.outboxEvents = s.outboxEvents.updateWhere
      (fun row ↦ row.jobId = jobId && outboxClaimable row.status) (outboxCanceled now))
    (hf : ∀ row, (f row).status = .canceled) : Delivers s s' where
  waiting row hrow hwaiting := by
    rcases mem_setJob hjobs hrow with ⟨hrow, -⟩ | ⟨old, -, rfl⟩
    · exact .inl hrow
    · rw [hf] at hwaiting
      exact absurd hwaiting (by decide)
  kept event he := by
    refine ⟨_, hevents ▸ Table.mem_updateWhere.mpr ⟨event, he, rfl⟩, ?_, ?_, ?_⟩
    · split <;> rfl
    · split <;> rfl
    · split
      · rename_i hcanceled
        simp only [Bool.and_eq_true, decide_eq_true_eq] at hcanceled
        refine .inr fun row hrow hid ↦ ?_
        rcases mem_setJob hjobs hrow with ⟨-, hne⟩ | ⟨old, -, rfl⟩
        · exact absurd (hid.trans hcanceled.1) hne
        · rw [hf]
          rfl
      · exact .inl rfl
  publishing event he hstatus := by
    rw [hevents] at he
    obtain ⟨old, hold, rfl⟩ := Table.mem_updateWhere.mp he
    split at hstatus
    · exact absurd hstatus (by simp [outboxCanceled])
    · rename_i hkept
      rw [if_neg hkept]
      exact hold

theorem requestCancel_delivers {tenantId : UUID} {now : Datetime} :
    Delivers s (requestCancel tenantId jobId now s).2 := by
  unfold requestCancel
  split
  · exact Announces.refl.delivers
  rename_i row hrow
  split
  · exact Announces.refl.delivers
  split
  · exact Announces.refl.delivers
  split
  · exact .of_canceled (f := cancelWaiting now) (setInboxRow_jobs ..)
      (setInboxRow_outboxEvents ..) fun _ ↦ rfl
  · rename_i hrunning
    refine Announces.delivers (.of_settled (f := cancelRequested now) rfl rfl fun old hold ↦ ?_)
    obtain rfl := Option.some.inj (hrow.symm.trans hold)
    exact (congrArg jobWaiting (not_not.mp hrunning)).trans rfl

theorem cancelScheduledAction_delivers {tenantId actionId : UUID} {now : Datetime} :
    Delivers s (cancelScheduledAction tenantId actionId now s).2 := by
  unfold cancelScheduledAction
  split
  · exact Announces.refl.delivers
  split
  · exact Announces.refl.delivers
  dsimp only
  split
  · exact Announces.delivers (.of_eq rfl rfl)
  split
  · exact Announces.delivers (.of_eq rfl rfl)
  · exact .of_canceled (f := cancelWaiting now) rfl rfl fun _ ↦ rfl

end announces

end CyberNetizen.Tasks
