import CyberNetizen.Application.TaskService
import CyberNetizen.Infrastructure.InMemoryTaskRepository
import CyberNetizen.Tasks.Attempts

namespace CyberNetizen.Tasks

open Domain Cognition Infrastructure Application KeyedTable

-- the operations of the two repositories carry the same names and are written in full

section writes

variable {s : TaskStore} {job row : BackgroundJob} {jobId : UUID} {now : Datetime}

theorem putJob_eq (f : Update BackgroundJob.id) (h : s.jobs.find? jobId = some row) :
    InMemoryTaskRepository.putJob s (f row) = SqlAlchemyTaskRepository.setJob s jobId f := by
  rw [InMemoryTaskRepository.putJob, SqlAlchemyTaskRepository.setJob, Table.put_eq_updateWhere f h]

theorem putJob_jobs (f : Update BackgroundJob.id) (h : s.jobs.find? jobId = some row) :
    (InMemoryTaskRepository.putJob s (f row)).jobs = s.jobs.updateWhere (fun r ↦ r.id = jobId) f :=
  Table.put_eq_updateWhere f h

theorem putAttempt_eq {attempt : JobAttempt} {attemptId : UUID} (f : Update JobAttempt.id)
    (h : s.attempts.find? attemptId = some attempt) :
    InMemoryTaskRepository.putAttempt s (f attempt) =
      SqlAlchemyTaskRepository.setAttempt s attemptId f := by
  rw [InMemoryTaskRepository.putAttempt, SqlAlchemyTaskRepository.setAttempt,
    Table.put_eq_updateWhere f h]

theorem setInboxStatus_eq (f : Update BackgroundJob.id) {status : InboxEventStatus}
    {errorCode : Option String} (h : (f row).sourceInboxId = row.sourceInboxId) :
    InMemoryTaskRepository.setInboxStatus s (f row) status now errorCode =
      SqlAlchemyTaskRepository.setInboxRow s row status now errorCode := by
  unfold InMemoryTaskRepository.setInboxStatus SqlAlchemyTaskRepository.setInboxRow
  rw [h]
  cases row.sourceInboxId with
  | none => rfl
  | some inboxId =>
    dsimp only
    rw [Table.updateWhere_key_eq]
    cases s.inboxEvents.find? inboxId <;> rfl

theorem cancelOutbox_eq :
    InMemoryTaskRepository.cancelOutbox s jobId now =
      SqlAlchemyTaskRepository.cancelOutboxRows s jobId now := by
  rw [InMemoryTaskRepository.cancelOutbox, SqlAlchemyTaskRepository.cancelOutboxRows,
    Table.putEach_filter]

theorem putOutbox_of_insert {t : TaskStore} {event : OutboxEvent}
    (h : s.insertOutbox event = some t) : InMemoryTaskRepository.putOutbox s event = t := by
  obtain ⟨outboxEvents, hinsert, rfl⟩ := TaskStore.insertOutbox_eq_some h
  rw [InMemoryTaskRepository.putOutbox, Table.put_eq_of_insert? hinsert]

theorem putJob_of_insert {t : TaskStore} (h : s.insertJob job = some t) :
    InMemoryTaskRepository.putJob s job = t := by
  obtain ⟨-, -, jobs, hinsert, rfl⟩ := TaskStore.insertJob_eq_some h
  rw [InMemoryTaskRepository.putJob, Table.put_eq_of_insert? hinsert]

end writes

section calls

variable {s s' : TaskStore} {jobId attemptId : UUID} {workerId : String} {now : Datetime}

theorem put_of_flush {job : BackgroundJob} {outbox : OutboxEvent}
    (h : UnitOfWork.flush taskModels [SqlAlchemyTaskRepository.jobModel job,
      SqlAlchemyTaskRepository.outboxModel outbox] s = some s') :
    InMemoryTaskRepository.putOutbox (InMemoryTaskRepository.putJob s job) outbox = s' := by
  obtain ⟨t, hjob, houtbox⟩ := SqlAlchemyTaskRepository.flush_task h
  rw [putJob_of_insert hjob, putOutbox_of_insert houtbox]

theorem enqueue_eq (request : EnqueueRequest) {r : BackgroundJob × Bool}
    (h : SqlAlchemyTaskRepository.enqueue request.job request.outbox request.inbox s =
      .ok (r, s')) :
    InMemoryTaskRepository.enqueue request.job request.outbox request.inbox s = .ok (r, s') := by
  have hsource := request.sourceInbox
  unfold SqlAlchemyTaskRepository.enqueue at h
  unfold InMemoryTaskRepository.enqueue
  split at h
  · rename_i t hflush
    obtain ⟨rfl, rfl⟩ := Prod.mk.inj (Except.ok.inj h)
    cases hinbox : request.inbox with
    | none =>
      rw [hinbox] at hflush
      obtain ⟨t, hjob, -⟩ := SqlAlchemyTaskRepository.flush_task hflush
      rw [(TaskStore.insertJob_eq_some hjob).1]
      dsimp only
      rw [put_of_flush hflush]
    | some event =>
      rw [hinbox] at hflush hsource
      cases (SqlAlchemyTaskRepository.flush_inbox hsource).symm.trans hflush
  · cases hkey : s.jobByDeduplication request.job.tenantId request.job.deduplicationKey with
    | some existing =>
      rw [hkey] at h
      exact h
    | none =>
      rw [hkey] at h
      dsimp only at h ⊢
      split at h
      · rename_i existing hduplicate
        obtain ⟨event, hinbox, hrest⟩ := Option.bind_eq_some_iff.mp hduplicate
        obtain ⟨row, hrow, hjob⟩ := Option.bind_eq_some_iff.mp hrest
        rw [hinbox]
        dsimp only
        rw [hrow]
        dsimp only
        rw [hjob]
        exact h
      · exact absurd h (by simp)

theorem requestCancel_eq {tenantId : UUID}
    (hs : ∀ row, s.jobs.find? jobId = some row → row.status = .running → row.completedAt = none) :
    InMemoryTaskRepository.requestCancel tenantId jobId now s =
      SqlAlchemyTaskRepository.requestCancel tenantId jobId now s := by
  unfold InMemoryTaskRepository.requestCancel SqlAlchemyTaskRepository.requestCancel
  cases hrow : s.jobs.find? jobId with
  | none => rfl
  | some row =>
    dsimp only
    split
    · rfl
    split
    · rfl
    by_cases hrunning : row.status = .running
    · have hupdated : { row with
          status := BackgroundJobStatus.running
          cancelRequestedAt := some now
          completedAt := none
          updatedAt := now } = SqlAlchemyTaskRepository.cancelRequested now row := by
        rw [SqlAlchemyTaskRepository.cancelRequested, ← hrunning, ← hs row hrow hrunning]
      simp only [hrunning, ne_eq, not_true_eq_false, if_true, if_false, reduceCtorEq]
      rw [hupdated, putJob_eq _ hrow]
    · have hupdated : { row with
          status := BackgroundJobStatus.canceled
          cancelRequestedAt := some now
          completedAt := some now
          updatedAt := now } = SqlAlchemyTaskRepository.cancelWaiting now row := rfl
      simp only [hrunning, ne_eq, not_false_eq_true, if_true, if_false]
      rw [hupdated, putJob_eq _ hrow, cancelOutbox_eq,
        setInboxStatus_eq (SqlAlchemyTaskRepository.cancelWaiting now) rfl]

theorem replay_eq {tenantId sourceJobId : UUID} {job : BackgroundJob} {outbox : OutboxEvent}
    {r : Option BackgroundJob}
    (h : SqlAlchemyTaskRepository.replay tenantId sourceJobId job outbox s = .ok (r, s')) :
    InMemoryTaskRepository.replay tenantId sourceJobId job outbox s = (r, s') := by
  unfold SqlAlchemyTaskRepository.replay at h
  unfold InMemoryTaskRepository.replay
  cases hrow : s.jobs.find? sourceJobId with
  | none =>
    rw [hrow] at h
    exact Except.ok.inj h
  | some source =>
    rw [hrow] at h
    dsimp only at h ⊢
    split at h
    · rename_i htenant
      rw [if_pos htenant]
      exact Except.ok.inj h
    · rename_i htenant
      rw [if_neg htenant]
      split at h
      · rename_i t hflush
        rw [put_of_flush hflush]
        exact Except.ok.inj h
      · exact absurd h (by simp)

theorem claimJob_eq {r : Option JobClaim}
    (h : SqlAlchemyTaskRepository.claimJob jobId workerId now attemptId false s = .ok (r, s')) :
    InMemoryTaskRepository.claimJob jobId workerId now attemptId s = (r, s') := by
  unfold SqlAlchemyTaskRepository.claimJob at h
  unfold InMemoryTaskRepository.claimJob
  simp only [Bool.false_eq_true, if_false] at h
  cases hrow : s.jobs.find? jobId with
  | none =>
    rw [hrow] at h
    exact Except.ok.inj h
  | some row =>
    rw [hrow] at h
    dsimp only at h ⊢
    split at h
    · rename_i hready
      rw [if_pos hready]
      exact Except.ok.inj h
    rename_i hready
    rw [if_neg hready]
    split at h
    · rename_i hcancel
      rw [if_pos hcancel, putJob_eq _ hrow,
        setInboxStatus_eq (SqlAlchemyTaskRepository.claimCanceled now) rfl]
      exact Except.ok.inj h
    rename_i hcancel
    rw [if_neg hcancel]
    split at h
    · exact absurd h (by simp)
    rename_i t hinsert
    obtain ⟨attempts, hattempts, rfl⟩ := TaskStore.insertAttempt_eq_some hinsert
    rw [putJob_eq _ hrow, setInboxStatus_eq (SqlAlchemyTaskRepository.claimed workerId now) rfl,
      InMemoryTaskRepository.putAttempt, Table.put_eq_of_insert? hattempts]
    exact Except.ok.inj h

theorem renewJobLease_eq :
    InMemoryTaskRepository.renewJobLease jobId attemptId workerId now s =
      SqlAlchemyTaskRepository.renewJobLease jobId attemptId workerId now s := by
  unfold InMemoryTaskRepository.renewJobLease SqlAlchemyTaskRepository.renewJobLease
  cases hrow : s.jobs.find? jobId with
  | none => rfl
  | some row =>
    cases s.attempts.find? attemptId with
    | none => rfl
    | some attempt =>
      dsimp only
      rw [putJob_eq _ hrow]

def Paired (s : TaskStore) (jobId attemptId : UUID) (workerId : String) : Prop :=
  ∀ row attempt, s.jobs.find? jobId = some row → s.attempts.find? attemptId = some attempt →
    row.status = .running → row.leaseOwner = some workerId → attempt.status = .running →
    attempt.jobId = jobId

theorem execution_eq (hs : Paired s jobId attemptId workerId) :
    (∃ row attempt, SqlAlchemyTaskRepository.lockedExecution s jobId attemptId workerId =
        (some row, some attempt) ∧
      s.jobs.find? jobId = some row ∧ s.attempts.find? attemptId = some attempt ∧
      InMemoryTaskRepository.execution s jobId attemptId workerId = some (row, attempt)) ∨
    (∀ row attempt, SqlAlchemyTaskRepository.lockedExecution s jobId attemptId workerId ≠
        (some row, some attempt)) ∧
      InMemoryTaskRepository.execution s jobId attemptId workerId = none := by
  cases he : InMemoryTaskRepository.execution s jobId attemptId workerId with
  | none =>
    refine .inr ⟨fun row attempt hlocked ↦ ?_, rfl⟩
    obtain ⟨hrow, hrunning, howner, hattempt, -, hstatus⟩ := lockedExecution_eq_some hlocked
    simp [InMemoryTaskRepository.execution, hrow, hattempt, hrunning, howner, hstatus] at he
  | some found =>
    obtain ⟨row, attempt⟩ := found
    unfold InMemoryTaskRepository.execution at he
    split at he
    · rename_i item attempt' hrow hattempt
      split at he
      · exact absurd he (by simp)
      rename_i hheld
      obtain ⟨rfl, rfl⟩ := Prod.mk.inj (Option.some.inj he)
      simp only [not_or, not_not] at hheld
      obtain ⟨hrunning, howner, hstatus⟩ := hheld
      refine .inl ⟨item, attempt', ?_, hrow, hattempt, rfl⟩
      have hjob := hs item attempt' hrow hattempt hrunning howner hstatus
      simp [SqlAlchemyTaskRepository.lockedExecution, hrow, hattempt, hrunning, howner, hstatus,
        hjob]
    · exact absurd he (by simp)

theorem completeJob_eq {result : JsonObject} (hs : Paired s jobId attemptId workerId) :
    InMemoryTaskRepository.completeJob jobId attemptId workerId result now s =
      SqlAlchemyTaskRepository.completeJob jobId attemptId workerId result now s := by
  unfold InMemoryTaskRepository.completeJob SqlAlchemyTaskRepository.completeJob
  rcases execution_eq hs with ⟨row, attempt, hlocked, hrow, hattempt, he⟩ | ⟨hlocked, he⟩
  · rw [hlocked, he]
    dsimp only
    rw [putJob_eq _ hrow, setInboxStatus_eq (SqlAlchemyTaskRepository.completed result now) rfl,
      putAttempt_eq (s := SqlAlchemyTaskRepository.setJob s jobId _) _ hattempt]
  · rw [he]
    dsimp only
    split
    · rename_i row attempt h
      exact absurd h (hlocked row attempt)
    · rfl

theorem failJob_eq {errorCode errorSummary : String} {permanent timedOut : Bool}
    {retryAt : Datetime} {retryOutbox : OutboxEvent} {r : Option BackgroundJob}
    (hs : Paired s jobId attemptId workerId)
    (h : SqlAlchemyTaskRepository.failJob jobId attemptId workerId errorCode errorSummary permanent
      timedOut retryAt retryOutbox now s = .ok (r, s')) :
    InMemoryTaskRepository.failJob jobId attemptId workerId errorCode errorSummary permanent
      timedOut retryAt retryOutbox now s = (r, s') := by
  unfold SqlAlchemyTaskRepository.failJob at h
  unfold InMemoryTaskRepository.failJob
  rcases execution_eq hs with ⟨row, attempt, hlocked, hrow, hattempt, he⟩ | ⟨hlocked, he⟩
  · rw [hlocked] at h
    rw [he]
    dsimp only at h ⊢
    rw [putJob_eq _ hrow, putAttempt_eq (s := SqlAlchemyTaskRepository.setJob s jobId _) _ hattempt]
    split at h
    · rename_i hretry
      rw [if_pos hretry]
      split at h
      · exact absurd h (by simp)
      · rename_i t hinsert
        rw [putOutbox_of_insert hinsert, setInboxStatus_eq (SqlAlchemyTaskRepository.failed ..) rfl]
        exact Except.ok.inj h
    rename_i hretry
    rw [if_neg hretry]
    split at h
    · rename_i hgiven
      rw [if_pos hgiven, setInboxStatus_eq (SqlAlchemyTaskRepository.failed ..) rfl]
      exact Except.ok.inj h
    · rename_i hgiven
      rw [if_neg hgiven, setInboxStatus_eq (SqlAlchemyTaskRepository.failed ..) rfl]
      exact Except.ok.inj h
  · rw [he]
    dsimp only
    split at h
    · rename_i row attempt hc
      exact absurd hc (hlocked row attempt)
    · exact Except.ok.inj h

def TiesById (s : TaskStore) (now : Datetime) (rank : UUID → ℕ) : Prop :=
  ∀ a ∈ s.outboxEvents, ∀ b ∈ s.outboxEvents,
    SqlAlchemyTaskRepository.outboxDue now a = true →
    SqlAlchemyTaskRepository.outboxDue now b = true →
    a.availableAt = b.availableAt → a.createdAt = b.createdAt →
    (rank a.id ≤ rank b.id ↔ a.id ≤ b.id)

theorem claimOutbox_eq {leaseExpiresAt : Datetime} {limit : ℕ} {rank : UUID → ℕ}
    (h : TiesById s now rank) :
    InMemoryTaskRepository.claimOutbox workerId now leaseExpiresAt limit s =
      SqlAlchemyTaskRepository.claimOutbox workerId now leaseExpiresAt limit rank
        (fun _ ↦ false) s := by
  unfold InMemoryTaskRepository.claimOutbox SqlAlchemyTaskRepository.claimOutbox
  simp only [Bool.not_false, Bool.and_true]
  let due := s.outboxEvents.rows.filter (SqlAlchemyTaskRepository.outboxDue now)
  have hsort : due.mergeSort (SqlAlchemyTaskRepository.outboxLe id) =
      due.mergeSort (SqlAlchemyTaskRepository.outboxLe rank) := by
    have hmap := List.map_mergeSort (l := due) (f := id)
      (r := SqlAlchemyTaskRepository.outboxLe id) (s := SqlAlchemyTaskRepository.outboxLe rank)
      fun a ha b hb ↦ by
        obtain ⟨hmema, hduea⟩ := List.mem_filter.mp ha
        obtain ⟨hmemb, hdueb⟩ := List.mem_filter.mp hb
        have hiff := h a hmema b hmemb hduea hdueb
        unfold SqlAlchemyTaskRepository.outboxLe
        simp only [id_eq]
        by_cases hat : a.availableAt = b.availableAt
        · by_cases hct : a.createdAt = b.createdAt
          · simp [hat, hct, hiff hat hct]
          · simp [hct]
        · simp [hat]
    simpa using hmap
  have hnodup : (((due.mergeSort (SqlAlchemyTaskRepository.outboxLe rank)).take limit).map
      OutboxEvent.id).Nodup := by
    have hdue : (due.map OutboxEvent.id).Nodup :=
      (List.filter_sublist.map _).nodup s.outboxEvents.nodup
    have hsorted := ((List.mergeSort_perm due (SqlAlchemyTaskRepository.outboxLe rank)).map
      OutboxEvent.id).nodup_iff.mpr hdue
    exact ((List.take_sublist limit _).map _).nodup hsorted
  have hput := Table.putEach_eq_updateWhere (t := s.outboxEvents)
    (f := SqlAlchemyTaskRepository.publishing workerId now leaseExpiresAt) hnodup fun r hr ↦ by
      have hmem := List.mem_mergeSort.mp (List.mem_of_mem_take hr)
      exact Table.find?_key (List.mem_filter.mp hmem).1
  rw [show s.outboxEvents.rows.filter (SqlAlchemyTaskRepository.outboxDue now) = due from rfl,
    hsort, hput]

theorem putHeld_eq {eventId : UUID} (f : Update OutboxEvent.id) :
    (match s.outboxEvents.find? eventId with
      | none => s
      | some item =>
        if item.status = .publishing ∧ item.leaseOwner = some workerId then
          InMemoryTaskRepository.putOutbox s (f item)
        else s) =
      { s with outboxEvents :=
          s.outboxEvents.updateWhere (SqlAlchemyTaskRepository.heldBy eventId workerId) f } := by
  have hheld : SqlAlchemyTaskRepository.heldBy eventId workerId = fun row ↦
      decide (row.id = eventId) && (decide (row.status = .publishing) &&
        decide (row.leaseOwner = some workerId)) := by
    funext row
    rw [SqlAlchemyTaskRepository.heldBy, Bool.and_assoc]
  rw [hheld, Table.updateWhere_and_eq]
  cases s.outboxEvents.find? eventId with
  | none => rfl
  | some item =>
    dsimp only
    by_cases hitem : item.status = .publishing ∧ item.leaseOwner = some workerId
    · simp [hitem, InMemoryTaskRepository.putOutbox]
    · simp only [hitem, if_false, Bool.and_eq_true, decide_eq_true_eq]

theorem markOutboxPublished_eq {eventId : UUID} :
    InMemoryTaskRepository.markOutboxPublished eventId workerId now s =
      SqlAlchemyTaskRepository.markOutboxPublished eventId workerId now s :=
  putHeld_eq (SqlAlchemyTaskRepository.published now)

theorem markOutboxFailed_eq {eventId : UUID} {errorCode : String} {retryAt : Datetime} :
    InMemoryTaskRepository.markOutboxFailed eventId workerId errorCode retryAt now s =
      SqlAlchemyTaskRepository.markOutboxFailed eventId workerId errorCode retryAt now s :=
  putHeld_eq (SqlAlchemyTaskRepository.released errorCode retryAt now)

theorem recoverJob_eq {freshId : UUID → UUID} {item : BackgroundJob}
    (hitem : s.jobs.find? item.id = some item)
    (h : SqlAlchemyTaskRepository.recoverJob now freshId s item.id = some s') :
    InMemoryTaskRepository.recoverJob now freshId s item = s' := by
  unfold SqlAlchemyTaskRepository.recoverJob at h
  unfold InMemoryTaskRepository.recoverJob
  rw [hitem] at h
  dsimp only at h ⊢
  rw [putJob_eq _ hitem, Table.putEach_filter]
  split at h
  · rename_i hretry
    obtain ⟨t, hinsert, rfl⟩ := Option.map_eq_some_iff.mp h
    rw [if_pos hretry, setInboxStatus_eq (SqlAlchemyTaskRepository.recovered now) rfl]
    exact congrArg (SqlAlchemyTaskRepository.setInboxRow · item .pending now)
      (putOutbox_of_insert hinsert)
  · rename_i hretry
    rw [if_neg hretry, setInboxStatus_eq (SqlAlchemyTaskRepository.recovered now) rfl]
    exact Option.some.inj h

theorem recoverJobs_eq {freshId : UUID → UUID} {items : List BackgroundJob}
    (hnodup : (items.map BackgroundJob.id).Nodup)
    (hitems : ∀ item ∈ items, s.jobs.find? item.id = some item)
    (h : (items.map BackgroundJob.id).foldlM (SqlAlchemyTaskRepository.recoverJob now freshId) s =
      some s') :
    items.foldl (InMemoryTaskRepository.recoverJob now freshId) s = s' := by
  induction items generalizing s with
  | nil => exact Option.some.inj h
  | cons item items ih =>
    rw [List.map_cons, List.foldlM_cons] at h
    obtain ⟨t, hturn, hrest⟩ := Option.bind_eq_some_iff.mp h
    obtain ⟨hid, hids⟩ := List.nodup_cons.mp hnodup
    have hitem := hitems item List.mem_cons_self
    rw [List.foldl_cons, recoverJob_eq hitem hturn]
    obtain ⟨g, hrewrites, -⟩ := recoverJob_rewrites hitem hturn
    refine ih hids (fun other hother ↦ ?_) hrest
    have hne : other.id ≠ item.id := fun he ↦ hid (he ▸ List.mem_map_of_mem hother)
    rw [hrewrites.find?_of_ne hne]
    exact hitems other (List.mem_cons_of_mem _ hother)

theorem recoverExpiredLeases_eq {freshId : UUID → UUID} {r : ℕ}
    (h : SqlAlchemyTaskRepository.recoverExpiredLeases now freshId (fun _ ↦ false)
      (fun _ ↦ false) s = .ok (r, s')) :
    InMemoryTaskRepository.recoverExpiredLeases now freshId s = (r, s') := by
  unfold SqlAlchemyTaskRepository.recoverExpiredLeases at h
  unfold InMemoryTaskRepository.recoverExpiredLeases
  simp only [Bool.not_false, Bool.and_true] at h
  dsimp only
  split at h
  · exact absurd h (by simp)
  rename_i t hturns
  rw [recoverJobs_eq ((List.filter_sublist.map _).nodup s.jobs.nodup)
    (fun item hitem ↦ Table.find?_key (List.mem_filter.mp hitem).1) hturns, Table.putEach_filter]
  exact Except.ok.inj h

theorem createScheduledAction_eq (request : ScheduleRequest) {r : ScheduledAction × Bool}
    (h : SqlAlchemyTaskRepository.createScheduledAction request.action request.job request.outbox
      s = .ok (r, s')) :
    InMemoryTaskRepository.createScheduledAction request.action request.job request.outbox s =
      (r, s') := by
  unfold SqlAlchemyTaskRepository.createScheduledAction at h
  unfold InMemoryTaskRepository.createScheduledAction
  rw [if_neg (by simp [request.actionJob])] at h
  split at h
  · rename_i t hflush
    obtain ⟨s₁, s₂, hjob, houtbox, haction⟩ := SqlAlchemyTaskRepository.flush_scheduled hflush
    obtain ⟨-, -, jobs, hjobs, rfl⟩ := TaskStore.insertJob_eq_some hjob
    obtain ⟨outboxEvents, hevents, rfl⟩ := TaskStore.insertOutbox_eq_some houtbox
    obtain ⟨hkey, scheduledActions, hactions, rfl⟩ := TaskStore.insertAction_eq_some haction
    have hkey' : s.actionByIdempotency request.action.tenantId request.action.idempotencyKey =
      none := hkey
    rw [hkey']
    dsimp only
    rw [Table.put_eq_of_insert? hactions, InMemoryTaskRepository.putJob,
      Table.put_eq_of_insert? hjobs, InMemoryTaskRepository.putOutbox,
      Table.put_eq_of_insert? hevents]
    exact Except.ok.inj h
  · cases hkey : s.actionByIdempotency request.action.tenantId request.action.idempotencyKey with
    | some existing =>
      rw [hkey] at h
      exact Except.ok.inj h
    | none =>
      rw [hkey] at h
      exact absurd h (by simp)

def SparesEnded (s : TaskStore) (tenantId actionId : UUID) : Prop :=
  ∀ jobId ∈ cancelTarget s tenantId actionId, ∀ job ∈ s.jobs.find? jobId,
    jobTerminal job.status = false

theorem cancelScheduledAction_eq {tenantId actionId : UUID}
    (hs : SparesEnded s tenantId actionId) :
    InMemoryTaskRepository.cancelScheduledAction tenantId actionId now s =
      SqlAlchemyTaskRepository.cancelScheduledAction tenantId actionId now s := by
  unfold InMemoryTaskRepository.cancelScheduledAction
    SqlAlchemyTaskRepository.cancelScheduledAction
  cases haction : SqlAlchemyTaskRepository.getScheduledAction tenantId actionId s with
  | none => rfl
  | some item =>
    dsimp only
    split
    · rfl
    rename_i hpending
    have hfound : s.scheduledActions.find? actionId = some item :=
      (Option.filter_eq_some_iff.mp haction).1
    rw [Table.put_eq_updateWhere _ hfound]
    dsimp only [SqlAlchemyTaskRepository.setAction]
    cases hjob : item.jobId.bind s.jobs.find? with
    | none => rfl
    | some job =>
      obtain ⟨jobId, hid, hrow⟩ := Option.bind_eq_some_iff.mp hjob
      obtain rfl := Table.key_of_find? hrow
      have hopen : jobTerminal job.status = false := by
        refine hs job.id ?_ job hrow
        rw [cancelTarget, haction, Option.bind_some, if_pos (not_not.mp hpending)]
        exact hid
      have hput := putJob_eq (s := { s with
          scheduledActions := s.scheduledActions.updateWhere (fun row ↦ row.id = actionId)
            (SqlAlchemyTaskRepository.actionCanceled now) })
        (SqlAlchemyTaskRepository.cancelWaiting now) hrow
      dsimp only
      rw [if_neg (by simp [hopen]), cancelOutbox_eq, hput]

theorem chargeBudget_eq {decision effective : ProactiveDecision}
    {budgetUsage : Option SocialBudgetUsage} {dailyBudget : ℕ}
    (h : SqlAlchemyTaskRepository.chargeBudget decision budgetUsage dailyBudget s =
      .ok (effective, s')) :
    InMemoryTaskRepository.chargeBudget decision budgetUsage dailyBudget s = (effective, s') := by
  unfold SqlAlchemyTaskRepository.chargeBudget at h
  unfold InMemoryTaskRepository.chargeBudget
  cases budgetUsage with
  | none => exact Except.ok.inj h
  | some usage =>
    dsimp only at h ⊢
    split at h
    · rename_i hspent
      rw [if_pos hspent]
      exact Except.ok.inj h
    rename_i hspent
    rw [if_neg hspent]
    split at h
    · split at h
      · exact absurd h (by simp)
      rename_i t hinsert
      obtain ⟨habsent, budgetUsages, husages, rfl⟩ := TaskStore.insertUsage_eq_some hinsert
      rw [if_neg fun hmem ↦ ?_, Table.put_eq_of_insert? husages]
      · exact Except.ok.inj h
      · obtain ⟨row, hrow, he⟩ := List.mem_map.mp hmem
        exact habsent row hrow he
    · rename_i hcharged
      rw [if_pos]
      · exact Except.ok.inj h
      · simp only [List.all_eq_true, decide_eq_true_eq, not_forall, not_not] at hcharged
        obtain ⟨row, hrow, he⟩ := hcharged
        exact List.mem_map.mpr ⟨row, (List.mem_filter.mp hrow).1, he⟩

theorem decideScheduledAction_eq {tenantId actionId : UUID} {decision : ProactiveDecision}
    {budgetUsage : Option SocialBudgetUsage} {dailyBudget : ℕ} {r : Option ScheduledAction}
    (h : SqlAlchemyTaskRepository.decideScheduledAction tenantId actionId decision budgetUsage
      dailyBudget now s = .ok (r, s')) :
    InMemoryTaskRepository.decideScheduledAction tenantId actionId decision budgetUsage
      dailyBudget now s = (r, s') := by
  unfold SqlAlchemyTaskRepository.decideScheduledAction at h
  unfold InMemoryTaskRepository.decideScheduledAction
  cases haction : SqlAlchemyTaskRepository.getScheduledAction tenantId actionId s with
  | none =>
    rw [haction] at h
    exact Except.ok.inj h
  | some item =>
    rw [haction] at h
    dsimp only at h ⊢
    split at h
    · rename_i hdone
      rw [if_pos hdone]
      exact Except.ok.inj h
    rename_i hpending
    rw [if_neg hpending]
    split at h
    · exact absurd h (by simp)
    · rename_i effective t hcharge
      have hfound : t.scheduledActions.find? actionId = some item := by
        rw [(chargeBudget_quiet hcharge).2]
        exact (Option.filter_eq_some_iff.mp haction).1
      rw [chargeBudget_eq hcharge]
      dsimp only
      rw [Table.put_eq_updateWhere _ hfound]
      exact Except.ok.inj h

end calls

/-- The call meets a lone caller of a database that breaks ties by identifier, and asks for
nothing on which the two repositories differ. -/
def Coincides (s : TaskStore) : TaskCall → Prop
  | .claimJob _ _ _ _ locked => locked = false
  | .completeJob jobId attemptId workerId _ _ => Paired s jobId attemptId workerId
  | .failJob jobId attemptId workerId _ _ _ _ _ _ _ => Paired s jobId attemptId workerId
  | .claimOutbox _ now _ _ rank locked => locked = (fun _ ↦ false) ∧ TiesById s now rank
  | .recoverExpiredLeases _ _ lockedJobs lockedEvents =>
    lockedJobs = (fun _ ↦ false) ∧ lockedEvents = fun _ ↦ false
  | .cancelScheduledAction tenantId actionId _ => SparesEnded s tenantId actionId
  | _ => True

def Accepted (s : TaskStore) (call : TaskCall) : Prop :=
  ∀ error, (SqlAlchemyTaskRepository.step s call).1 ≠ .raised error

/-- With an external event, what is accepted is a redelivery: the event is never stored. -/
theorem accepted_inbox_iff {s : TaskStore} {request : EnqueueRequest} {event : InboxEvent}
    (hinbox : request.inbox = some event) : Accepted s (.enqueue request) ↔
      (s.jobByDeduplication request.job.tenantId request.job.deduplicationKey).isSome = true ∨
        ((s.inboxByEventKey event.tenantId event.eventKey).bind fun row ↦
          s.jobs.find? row.jobId).isSome = true := by
  have hsource := request.sourceInbox
  rw [hinbox] at hsource
  unfold Accepted SqlAlchemyTaskRepository.step SqlAlchemyTaskRepository.enqueue
  dsimp only
  rw [hinbox]
  dsimp only [Option.map_some, Option.toList_some, List.singleton_append]
  rw [SqlAlchemyTaskRepository.flush_inbox hsource]
  cases s.jobByDeduplication request.job.tenantId request.job.deduplicationKey with
  | some existing => simp [reply]
  | none =>
    cases hduplicate : (s.inboxByEventKey event.tenantId event.eventKey).bind fun row ↦
        s.jobs.find? row.jobId with
    | some existing => simp [reply, hduplicate]
    | none => simp [reply, hduplicate]

def OpenUnfinished (v : JobView) : Prop :=
  jobTerminal v.job.status = false → v.job.completedAt = none

theorem jobStep_openUnfinished {s : TaskStore} {call : TaskCall} {v v' : JobView}
    (h : JobStep s call v v') (hI : OpenUnfinished v) : OpenUnfinished v' := by
  have hnone := hI h.open
  intro hopen
  cases h with
  | claim => exact hnone
  | renew => exact hnone
  | cancelRunning => exact hnone
  | fail =>
    dsimp only [SqlAlchemyTaskRepository.failed] at hopen ⊢
    rw [hopen]
    rfl
  | recover =>
    dsimp only [recoveredView, SqlAlchemyTaskRepository.recovered] at hopen ⊢
    rw [if_neg fun hdead ↦ by simp [hdead, jobTerminal] at hopen]
  | complete =>
    dsimp only [SqlAlchemyTaskRepository.completed] at hopen
    split at hopen <;> exact absurd hopen (by decide)
  | claimCanceled => exact absurd hopen.symm Bool.false_ne_true
  | cancelWaiting => exact absurd hopen.symm Bool.false_ne_true
  | cancelScheduled => exact absurd hopen.symm Bool.false_ne_true

theorem step_eq {s : TaskStore} {call : TaskCall}
    (hI : ∀ jobId v, view s jobId = some v → OpenUnfinished v) (hP : Coincides s call)
    (ha : Accepted s call) :
    InMemoryTaskRepository.step s call = SqlAlchemyTaskRepository.step s call := by
  have hreply : ∀ {α : Type} {f : α → TaskReply} {x : Transaction α},
      (∀ error, (reply s f x).1 ≠ .raised error) → ∃ r s', x = .ok (r, s') := by
    intro α f x h
    cases x with
    | ok r => exact ⟨r.1, r.2, rfl⟩
    | error error => exact absurd rfl (h error)
  cases call with
  | enqueue request =>
    obtain ⟨r, s', h⟩ := hreply ha
    dsimp only [InMemoryTaskRepository.step, SqlAlchemyTaskRepository.step]
    rw [enqueue_eq request h, h]
  | requestCancel tenantId jobId now =>
    dsimp only [InMemoryTaskRepository.step, SqlAlchemyTaskRepository.step]
    rw [requestCancel_eq fun row hrow hrunning ↦
      hI jobId _ (view_of_find? hrow) (by simp [hrunning, jobTerminal])]
  | replay tenantId sourceJobId request =>
    obtain ⟨r, s', h⟩ := hreply ha
    dsimp only [InMemoryTaskRepository.step, SqlAlchemyTaskRepository.step]
    rw [replay_eq h, h]
    rfl
  | claimJob jobId workerId now attemptId locked =>
    obtain ⟨r, s', h⟩ := hreply ha
    obtain rfl : locked = false := hP
    dsimp only [InMemoryTaskRepository.step, SqlAlchemyTaskRepository.step]
    rw [claimJob_eq h, h]
    rfl
  | renewJobLease jobId attemptId workerId now =>
    dsimp only [InMemoryTaskRepository.step, SqlAlchemyTaskRepository.step]
    rw [renewJobLease_eq]
  | completeJob jobId attemptId workerId result now =>
    dsimp only [InMemoryTaskRepository.step, SqlAlchemyTaskRepository.step]
    rw [completeJob_eq hP]
  | failJob jobId attemptId workerId errorCode errorSummary permanent timedOut retryAt retry now =>
    obtain ⟨r, s', h⟩ := hreply ha
    dsimp only [InMemoryTaskRepository.step, SqlAlchemyTaskRepository.step]
    rw [failJob_eq hP h, h]
    rfl
  | claimOutbox workerId now leaseExpiresAt limit rank locked =>
    obtain ⟨rfl, hties⟩ := hP
    dsimp only [InMemoryTaskRepository.step, SqlAlchemyTaskRepository.step]
    rw [claimOutbox_eq hties]
  | markOutboxPublished eventId workerId now =>
    dsimp only [InMemoryTaskRepository.step, SqlAlchemyTaskRepository.step]
    rw [markOutboxPublished_eq]
  | markOutboxFailed eventId workerId errorCode retryAt now =>
    dsimp only [InMemoryTaskRepository.step, SqlAlchemyTaskRepository.step]
    rw [markOutboxFailed_eq]
  | recoverExpiredLeases now freshId lockedJobs lockedEvents =>
    obtain ⟨r, s', h⟩ := hreply ha
    obtain ⟨rfl, rfl⟩ := hP
    dsimp only [InMemoryTaskRepository.step, SqlAlchemyTaskRepository.step]
    rw [recoverExpiredLeases_eq h, h]
    rfl
  | createScheduledAction request =>
    obtain ⟨r, s', h⟩ := hreply ha
    dsimp only [InMemoryTaskRepository.step, SqlAlchemyTaskRepository.step]
    rw [createScheduledAction_eq request h, h]
    rfl
  | cancelScheduledAction tenantId actionId now =>
    dsimp only [InMemoryTaskRepository.step, SqlAlchemyTaskRepository.step]
    rw [cancelScheduledAction_eq hP]
  | decideScheduledAction tenantId actionId decision budgetUsage dailyBudget now =>
    obtain ⟨r, s', h⟩ := hreply ha
    dsimp only [InMemoryTaskRepository.step, SqlAlchemyTaskRepository.step]
    rw [decideScheduledAction_eq h, h]
    rfl

/-- A lone caller that gets no database error, settles attempts through their own jobs, cancels
no action of an ended job and meets no ties in the outbox sees the same answers and the same
tables in memory and in the database. -/
theorem inMemory_refines {calls : List TaskCall}
    (h : Machine.Along SqlAlchemyTaskRepository.step (fun s call ↦ Coincides s call ∧ Accepted s call)
      TaskStore.empty calls) :
    Machine.outputs InMemoryTaskRepository.step TaskStore.empty calls =
      Machine.outputs SqlAlchemyTaskRepository.step TaskStore.empty calls ∧
    Machine.run InMemoryTaskRepository.step TaskStore.empty calls =
      Machine.run SqlAlchemyTaskRepository.step TaskStore.empty calls := by
  refine Machine.lockstep (I := fun s ↦ Linked s ∧ ∀ jobId v, view s jobId = some v →
    OpenUnfinished v) (fun s call hs _ ↦ ⟨step_linked hs.1 call, fun jobId v' hv' ↦ ?_⟩)
    (fun s call hs hP ↦ step_eq hs.2 hP.1 hP.2)
    ⟨linked_empty, fun _ _ hv ↦ absurd hv (by simp [view, TaskStore.empty])⟩ h
  have hview := step_view hs.1 call jobId
  rw [hv'] at hview
  generalize hold : view s jobId = old at hview
  cases hview with
  | same => exact hs.2 jobId v' hold
  | created hc => exact fun _ ↦ hc.fresh.completedAt
  | step hj => exact jobStep_openUnfinished hj (hs.2 jobId _ hold)

def evaluated : List TaskCall :=
  [.createScheduledAction (messageRequest 3 1 2 1), .claimJob 1 "worker-1" 10 7 false,
    .completeJob 1 7 "worker-1" [] 11]

theorem inMemory_refines_evaluated :
    (Machine.run InMemoryTaskRepository.step TaskStore.empty evaluated).jobs.rows.map
      BackgroundJob.status = [.succeeded] := by
  have h : Machine.Along SqlAlchemyTaskRepository.step
      (fun s call ↦ Coincides s call ∧ Accepted s call) TaskStore.empty evaluated := by
    refine ⟨⟨trivial, fun _ he ↦ nomatch he⟩, ⟨rfl, fun _ he ↦ nomatch he⟩,
      ⟨fun row attempt _ hattempt _ _ _ ↦ ?_, fun _ he ↦ nomatch he⟩, trivial⟩
    obtain rfl := Option.some.inj hattempt
    rfl
  rw [(inMemory_refines h).2]
  rfl

theorem three_attempts : 1 ≤ 3 ∧ 3 ≤ 20 := by decide

def foreignAttempt : List TaskCall :=
  [.enqueue (reflectionRequest 1 2 3 three_attempts), .claimJob 1 "worker-1" 0 7 false,
    .enqueue (reflectionRequest 11 12 3 three_attempts), .claimJob 11 "worker-1" 0 17 false,
    .completeJob 1 17 "worker-1" [] 5]

def acceptedEvent : Except TaskError EnqueueRequest :=
  BackgroundTaskService.acceptInboxEvent 0 "update-17" "telegram.update" [] .inboundMessage none 5
    120 5 1 4 2 0

/-- In memory, an external event is stored, cancelling an action overwrites its ended job, and an
attempt settles any job of its worker; the database does none of this. -/
theorem inMemory_diverges :
    (∃ request, acceptedEvent = .ok request ∧
      (SqlAlchemyTaskRepository.step TaskStore.empty (.enqueue request)).1 =
        .raised .integrityError ∧
      (InMemoryTaskRepository.step TaskStore.empty (.enqueue request)).1 =
        .stored request.job true) ∧
    (Machine.run SqlAlchemyTaskRepository.step TaskStore.empty
      (evaluated ++ [.cancelScheduledAction 0 3 12])).jobs.rows.map BackgroundJob.status =
        [.succeeded] ∧
    (Machine.run InMemoryTaskRepository.step TaskStore.empty
      (evaluated ++ [.cancelScheduledAction 0 3 12])).jobs.rows.map BackgroundJob.status =
        [.canceled] ∧
    (Machine.run SqlAlchemyTaskRepository.step TaskStore.empty foreignAttempt).jobs.rows.map
      BackgroundJob.status = [.running, .running] ∧
    (Machine.run InMemoryTaskRepository.step TaskStore.empty foreignAttempt).jobs.rows.map
      BackgroundJob.status = [.succeeded, .running] :=
  ⟨⟨_, rfl, rfl, rfl⟩, rfl, rfl, rfl, rfl⟩

end CyberNetizen.Tasks
