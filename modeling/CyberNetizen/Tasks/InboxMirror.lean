import Mathlib.Logic.Relation
import CyberNetizen.Tasks.InMemoryRefinement

namespace CyberNetizen.Tasks

open Domain Cognition Infrastructure Application KeyedTable
open SqlAlchemyTaskRepository (inboxSet failStatus recoverStatus cancelWaiting claimCanceled
  claimed renewed completed failed recovered attemptExpired jobExpired)

def mirror : BackgroundJobStatus → InboxEventStatus
  | .pending | .retrying => .pending
  | .running => .processing
  | .succeeded => .completed
  | .failed | .deadLetter => .deadLetter
  | .canceled => .canceled

structure Mirrored (status : BackgroundJobStatus) (event : InboxEvent) : Prop where
  status : event.status = mirror status
  processed : event.processedAt.isSome ↔ inboxProcessed event.status = true

theorem inboxSet_mirrored (status : BackgroundJobStatus) (now : Datetime)
    (errorCode : Option String) (event : InboxEvent) :
    Mirrored status (inboxSet (mirror status) now errorCode event) where
  status := rfl
  processed := by
    dsimp only [inboxSet]
    split <;> simp_all

theorem failInbox_mirrored {status : BackgroundJobStatus}
    (h : status = .canceled ∨ status = .failed ∨ status = .deadLetter ∨ status = .retrying)
    (now : Datetime) (errorCode : String) (event : InboxEvent) :
    Mirrored status (failInbox status now errorCode event) := by
  rcases h with rfl | rfl | rfl | rfl <;> exact inboxSet_mirrored _ now _ event

theorem jobStep_mirrored {s : TaskStore} {call : TaskCall} {v v' : JobView}
    (h : JobStep s call v v') (hI : ∀ event ∈ v.inbox, Mirrored v.job.status event) :
    ∀ event ∈ v'.inbox, Mirrored v'.job.status event := by
  have hset : ∀ {f : Update InboxEvent.id} {status}, (∀ event, Mirrored status (f event)) →
      ∀ event ∈ v.inbox.map f, Mirrored status event := by
    intro f status hf event he
    obtain ⟨old, -, rfl⟩ := Option.map_eq_some_iff.mp he
    exact hf old
  cases h with
  | claim => exact hset fun event ↦ inboxSet_mirrored .running _ _ event
  | claimCanceled => exact hset fun event ↦ inboxSet_mirrored .canceled _ _ event
  | renew => exact hI
  | complete =>
    refine hset fun event ↦ ?_
    dsimp only [completed]
    split
    · exact inboxSet_mirrored .canceled _ _ event
    · exact inboxSet_mirrored .succeeded _ _ event
  | fail => exact hset fun event ↦ failInbox_mirrored (failStatus_cases _ _) _ _ event
  | cancelWaiting => exact hset fun event ↦ inboxSet_mirrored .canceled _ _ event
  | cancelRunning => exact hI
  | recover =>
    refine hset fun event ↦ failInbox_mirrored ?_ _ _ event
    rcases recoverStatus_cases v.job with hstatus | hstatus <;> simp [recoveredView, recovered, hstatus]
  | cancelScheduled => exact fun event he ↦ absurd he (by simp)

def InboxesMirror (s : TaskStore) : Prop :=
  ∀ job ∈ s.jobs, ∀ inboxId, job.sourceInboxId = some inboxId →
    ∃ event, s.inboxEvents.find? inboxId = some event ∧ Mirrored job.status event

structure JobOrigin where
  id : UUID
  tenantId : UUID
  agentId : Option UUID
  kind : BackgroundJobKind
  payload : JsonObject
  deduplicationKey : String
  sourceInboxId : Option UUID
  createdBy : Option UUID

def jobOrigin (job : BackgroundJob) : JobOrigin where
  id := job.id
  tenantId := job.tenantId
  agentId := job.agentId
  kind := job.kind
  payload := job.payload
  deduplicationKey := job.deduplicationKey
  sourceInboxId := job.sourceInboxId
  createdBy := job.createdBy

def jobOrigins (s : TaskStore) : List JobOrigin := s.jobs.rows.map jobOrigin

structure JobRewrite (s s' : TaskStore) (row : BackgroundJob) (f : Update BackgroundJob.id) :
    Prop where
  found : s.jobs.find? row.id = some row
  origin : jobOrigin (f row) = jobOrigin row
  jobs : s'.jobs = s.jobs.updateWhere (fun r ↦ r.id = row.id) f
  inboxEvents :
    (row.sourceInboxId = none ∨ (f row).status = row.status) ∧ s'.inboxEvents = s.inboxEvents ∨
    ∃ now errorCode, s'.inboxEvents = s.inboxEvents.updateWhere
      (fun event ↦ some event.id = row.sourceInboxId)
      (inboxSet (mirror (f row).status) now errorCode)
  attempts : ∀ attempt' ∈ s'.attempts,
    attempt'.jobId = row.id ∨ ∃ attempt ∈ s.attempts, attempt.jobId = attempt'.jobId
  actions : ∀ action' ∈ s'.scheduledActions,
    ∃ action ∈ s.scheduledActions, action.jobId = action'.jobId

/-- The changes that a call of the in-memory repository is made of. -/
inductive JobChange (s s' : TaskStore) : Prop
  | quiet (h : Quiet s s')
  | creates {job : BackgroundJob} {inbox : Option InboxEvent} (h : Creates s s' job inbox)
      (fresh : job.Fresh)
      (pending : ∀ event ∈ inbox, event.status = .pending ∧ event.processedAt = none)
  | rewrites {row : BackgroundJob} {f : Update BackgroundJob.id} (h : JobRewrite s s' row f)

section change

variable {s s' : TaskStore} {row : BackgroundJob} {f : Update BackgroundJob.id}

theorem JobRewrite.sourceInboxId (h : JobRewrite s s' row f) :
    (f row).sourceInboxId = row.sourceInboxId :=
  congrArg JobOrigin.sourceInboxId h.origin

theorem JobRewrite.find?_self (h : JobRewrite s s' row f) :
    s'.jobs.find? row.id = some (f row) := by
  rw [h.jobs, Table.find?_updateWhere_self h.found]

theorem JobRewrite.find?_of_ne (h : JobRewrite s s' row f) {jobId : UUID} (hne : jobId ≠ row.id) :
    s'.jobs.find? jobId = s.jobs.find? jobId := by
  rw [h.jobs, Table.find?_updateWhere_of_ne hne]

theorem JobRewrite.mem_cases (h : JobRewrite s s' row f) {job : BackgroundJob}
    (hjob : job ∈ s'.jobs) : job = f row ∨ job ∈ s.jobs ∧ job.id ≠ row.id := by
  rw [h.jobs] at hjob
  obtain ⟨old, hold, rfl⟩ := Table.mem_updateWhere.mp hjob
  split
  · rename_i hid
    have hrow : old = row :=
      Table.eq_of_key_eq hold (Table.mem_of_find? h.found) (of_decide_eq_true hid)
    exact .inl (congrArg f hrow)
  · rename_i hid
    exact .inr ⟨hold, by simpa using hid⟩

theorem JobRewrite.find?_source (h : JobRewrite s s' row f) {jobId : UUID} {job : BackgroundJob}
    (hjob : s.jobs.find? jobId = some job) :
    ∃ job', s'.jobs.find? jobId = some job' ∧ job'.sourceInboxId = job.sourceInboxId := by
  by_cases hid : jobId = row.id
  · subst hid
    obtain rfl := Option.some.inj (h.found.symm.trans hjob)
    exact ⟨f row, h.find?_self, h.sourceInboxId⟩
  · exact ⟨job, (h.find?_of_ne hid).trans hjob, rfl⟩

theorem JobRewrite.find?_inbox (h : JobRewrite s s' row f) {inboxId : UUID} {event : InboxEvent}
    (hevent : s.inboxEvents.find? inboxId = some event) :
    ∃ event', s'.inboxEvents.find? inboxId = some event' := by
  rcases h.inboxEvents with ⟨-, he⟩ | ⟨now, errorCode, he⟩
  · exact ⟨event, he ▸ hevent⟩
  · rw [he, Table.find?_updateWhere, hevent]
    exact ⟨_, rfl⟩

theorem JobRewrite.linked (h : JobRewrite s s' row f) (hs : Linked s) : Linked s' where
  attempt attempt' ha := by
    rcases h.attempts attempt' ha with hid | ⟨attempt, hmem, hid⟩
    · exact ⟨f row, hid ▸ h.find?_self⟩
    · obtain ⟨job, hjob⟩ := hs.attempt attempt hmem
      obtain ⟨job', hjob', -⟩ := h.find?_source hjob
      exact ⟨job', hid ▸ hjob'⟩
  source job' hjob' inboxId hsource := by
    rcases h.mem_cases hjob' with rfl | ⟨hmem, -⟩
    · obtain ⟨event, hevent⟩ := hs.source row (Table.mem_of_find? h.found) inboxId
        (h.sourceInboxId.symm.trans hsource)
      exact h.find?_inbox hevent
    · obtain ⟨event, hevent⟩ := hs.source job' hmem inboxId hsource
      exact h.find?_inbox hevent
  sourceUnique a ha b hb hne he := by
    have hrow := Table.mem_of_find? h.found
    rcases h.mem_cases ha with rfl | ⟨ha, -⟩ <;> rcases h.mem_cases hb with rfl | ⟨hb, -⟩
    · rfl
    · rw [h.sourceInboxId] at hne he
      exact (f.key_eq row).trans (hs.sourceUnique row hrow b hb hne he)
    · rw [h.sourceInboxId] at he
      exact (hs.sourceUnique a ha row hrow hne he).trans (f.key_eq row).symm
    · exact hs.sourceUnique a ha b hb hne he
  action action' ha jobId hj := by
    obtain ⟨action, hmem, he⟩ := h.actions action' ha
    obtain ⟨job, hjob, hsource⟩ := hs.action action hmem jobId (he.trans hj)
    obtain ⟨job', hjob', hsource'⟩ := h.find?_source hjob
    exact ⟨job', hjob', hsource'.trans hsource⟩

/-- The event of the rewritten job follows it, and no other job has that event. -/
theorem JobRewrite.mirrors (h : JobRewrite s s' row f) (hs : Linked s) (hm : InboxesMirror s) :
    InboxesMirror s' := by
  have hrow := Table.mem_of_find? h.found
  intro job hjob inboxId hsource
  rcases h.mem_cases hjob with rfl | ⟨hmem, hid⟩
  · rw [h.sourceInboxId] at hsource
    obtain ⟨event, hevent, hmirror⟩ := hm row hrow inboxId hsource
    rcases h.inboxEvents with ⟨hnone | hstatus, he⟩ | ⟨now, errorCode, he⟩
    · cases hnone.symm.trans hsource
    · exact ⟨event, he ▸ hevent, hstatus ▸ hmirror⟩
    · have hkey : event.id = inboxId := Table.key_of_find? hevent
      refine ⟨inboxSet (mirror (f row).status) now errorCode event, ?_,
        inboxSet_mirrored _ now errorCode event⟩
      rw [he, Table.find?_updateWhere, hevent, Option.map_some,
        if_pos (by rw [hkey, hsource, decide_eq_true_eq])]
  · obtain ⟨event, hevent, hmirror⟩ := hm job hmem inboxId hsource
    refine ⟨event, ?_, hmirror⟩
    rcases h.inboxEvents with ⟨-, he⟩ | ⟨now, errorCode, he⟩
    · exact he ▸ hevent
    · rw [he, Table.find?_updateWhere, hevent, Option.map_some, if_neg]
      rw [decide_eq_true_eq, Table.key_of_find? hevent]
      intro hsame
      refine hid (hs.sourceUnique job hmem row hrow (by simp [hsource]) ?_)
      rw [hsource, hsame]

theorem JobChange.linked (h : JobChange s s') (hs : Linked s) : Linked s' := by
  cases h with
  | quiet h => exact h.linked hs
  | creates h => exact h.linked hs
  | rewrites h => exact h.linked hs

theorem JobChange.mirrors (h : JobChange s s') (hs : Linked s) (hm : InboxesMirror s) :
    InboxesMirror s' := by
  cases h with
  | quiet h =>
    intro job hjob inboxId hsource
    rw [h.inboxEvents]
    exact hm job (h.jobs ▸ hjob) inboxId hsource
  | @creates job inbox h fresh pending =>
    intro other hother inboxId hsource
    rcases (Table.mem_insert? h.jobs).mp hother with hother | rfl
    · rw [h.inbox_of_mem hs hother hsource]
      exact hm other hother inboxId hsource
    · rw [h.source] at hsource
      obtain ⟨event, rfl, -⟩ := Option.map_eq_some_iff.mp hsource
      obtain ⟨hstatus, hprocessed⟩ := pending event rfl
      refine ⟨event, by rw [h.inboxEvents, if_pos hsource], ?_, ?_⟩
      · rw [hstatus, fresh.status]
        rfl
      · simp [hstatus, hprocessed, inboxProcessed]
  | rewrites h => exact h.mirrors hs hm

/-- New jobs are stored behind the others, and none is taken for another. -/
theorem JobChange.origins (h : JobChange s s') : jobOrigins s <+: jobOrigins s' := by
  cases h with
  | quiet h =>
    have hsame : jobOrigins s' = jobOrigins s :=
      congrArg (fun jobs ↦ jobs.rows.map jobOrigin) h.jobs
    exact hsame ▸ List.prefix_rfl
  | creates h =>
    rw [jobOrigins, jobOrigins, (Table.insert?_eq_some h.jobs).2, List.map_append]
    exact List.prefix_append _ _
  | @rewrites row f h =>
    have hsame : jobOrigins s' = jobOrigins s := by
      unfold jobOrigins
      rw [h.jobs, Table.updateWhere, List.map_map]
      refine List.map_congr_left fun r hr ↦ ?_
      rw [Function.comp_apply]
      split
      · rename_i hid
        have hrow : r = row :=
          Table.eq_of_key_eq hr (Table.mem_of_find? h.found) (of_decide_eq_true hid)
        rw [hrow, h.origin]
      · rfl
    exact hsame ▸ List.prefix_rfl

end change

/-- What `uuid4` draws for a new job and its inbox event is not in use. -/
def DrawsNew (s : TaskStore) : TaskCall → Prop
  | .enqueue request => s.jobs.find? request.job.id = none ∧
      ∀ event ∈ request.inbox, s.inboxEvents.find? event.id = none
  | .replay _ _ request => s.jobs.find? request.job.id = none
  | .createScheduledAction request => s.jobs.find? request.job.id = none
  | _ => True

abbrev Changes : TaskStore → TaskStore → Prop := Relation.ReflTransGen JobChange

section memory

variable {s : TaskStore} {jobId : UUID} {row : BackgroundJob} {now : Datetime}

theorem insert?_of_absent {job : BackgroundJob} (h : s.jobs.find? job.id = none) :
    s.jobs.insert? job = some (s.jobs.put job) := by
  cases hinsert : s.jobs.insert? job with
  | none =>
    obtain ⟨row, hrow, hid⟩ := Table.insert?_eq_none.mp hinsert
    exact absurd hid (Table.find?_eq_none.mp h row hrow)
  | some jobs => rw [Table.put_eq_of_insert? hinsert]

theorem putTask_changes {job : BackgroundJob} {outbox : OutboxEvent}
    {scheduledActions : Table ScheduledAction.id} (hnew : s.jobs.find? job.id = none)
    (fresh : job.Fresh) (hsource : job.sourceInboxId = none)
    (hactions : ∀ action ∈ scheduledActions, action ∈ s.scheduledActions ∨
      action.jobId = some job.id) :
    Changes s (InMemoryTaskRepository.putOutbox
      (InMemoryTaskRepository.putJob { s with scheduledActions } job) outbox) :=
  .single (@JobChange.creates _ _ _ none
    ⟨insert?_of_absent hnew, rfl, fun _ ↦ by simp [InMemoryTaskRepository.putOutbox,
      InMemoryTaskRepository.putJob], by simp, hsource, fun _ _ hne ↦ absurd hsource hne,
      fun action ha ↦ (hactions action ha).imp_right fun h ↦ ⟨h, rfl⟩⟩ fresh (by simp))

theorem enqueue_changes (request : EnqueueRequest) (hs : Linked s)
    (hnew : DrawsNew s (.enqueue request)) {r : BackgroundJob × Bool} {s' : TaskStore}
    (h : InMemoryTaskRepository.enqueue request.job request.outbox request.inbox s =
      .ok (r, s')) : Changes s s' := by
  obtain ⟨hjob, hevents⟩ := hnew
  have hsource := request.sourceInbox
  unfold InMemoryTaskRepository.enqueue at h
  split at h
  · obtain ⟨-, rfl⟩ := Prod.mk.inj (Except.ok.inj h)
    exact .refl
  cases hinbox : request.inbox with
  | none =>
    rw [hinbox] at h hsource
    obtain ⟨-, rfl⟩ := Prod.mk.inj (Except.ok.inj h)
    exact putTask_changes hjob request.fresh hsource fun _ ha ↦ .inl ha
  | some event =>
    rw [hinbox] at h hsource
    dsimp only at h
    split at h
    · split at h
      · obtain ⟨-, rfl⟩ := Prod.mk.inj (Except.ok.inj h)
        exact .refl
      · cases h
    obtain ⟨-, rfl⟩ := Prod.mk.inj (Except.ok.inj h)
    have hevent : s.inboxEvents.find? event.id = none := hevents event hinbox
    refine .single (@JobChange.creates _ _ _ (some event) ⟨insert?_of_absent hjob, rfl,
      fun inboxId ↦ ?_, fun e he ↦ ?_, hsource, fun row hrow _ he ↦ ?_, fun _ ha ↦ .inl ha⟩ request.fresh
      fun e he ↦ (request.inboxPending e (hinbox ▸ he)).2)
    · refine (Table.find?_put s.inboxEvents event inboxId).trans ?_
      simp only [Option.map_some, Option.some.injEq, eq_comm]
    · obtain rfl := Option.mem_some_iff.mp he
      exact hevent
    · -- the event of a stored job is stored
      obtain ⟨stored, hstored⟩ := hs.source row hrow event.id (he.trans hsource)
      cases hevent.symm.trans hstored

/-- A job is rewritten and its inbox event set to the status that belongs to it. -/
theorem setInboxStatus_changes {t : TaskStore} {f : Update BackgroundJob.id}
    {status : InboxEventStatus} {errorCode : Option String} (hrow : s.jobs.find? jobId = some row)
    (horigin : jobOrigin (f row) = jobOrigin row)
    (hjobs : t.jobs = s.jobs.updateWhere (fun r ↦ r.id = jobId) f)
    (hinbox : t.inboxEvents = s.inboxEvents)
    (hattempts : ∀ attempt' ∈ t.attempts,
      attempt'.jobId = jobId ∨ ∃ attempt ∈ s.attempts, attempt.jobId = attempt'.jobId)
    (hactions : t.scheduledActions = s.scheduledActions) (hstatus : status = mirror (f row).status) :
    Changes s (InMemoryTaskRepository.setInboxStatus t (f row) status now errorCode) := by
  obtain rfl := Table.key_of_find? hrow
  rw [setInboxStatus_eq f (congrArg JobOrigin.sourceInboxId horigin)]
  refine .single (@JobChange.rewrites _ _ row f
    ⟨hrow, horigin, ?_, .inr ⟨now, errorCode, ?_⟩, ?_, ?_⟩)
  · rw [SqlAlchemyTaskRepository.setInboxRow_jobs, hjobs]
  · rw [SqlAlchemyTaskRepository.setInboxRow_eq, hinbox, hstatus]
  · rw [SqlAlchemyTaskRepository.setInboxRow_attempts]
    exact hattempts
  · rw [SqlAlchemyTaskRepository.setInboxRow_scheduledActions, hactions]
    exact fun action ha ↦ ⟨action, ha, rfl⟩

theorem putJob_changes {t : TaskStore} {f : Update BackgroundJob.id}
    (hrow : s.jobs.find? jobId = some row) (horigin : jobOrigin (f row) = jobOrigin row)
    (hstatus : row.sourceInboxId = none ∨ (f row).status = row.status)
    (hjobs : t.jobs = s.jobs.updateWhere (fun r ↦ r.id = jobId) f)
    (hinbox : t.inboxEvents = s.inboxEvents) (hattempts : t.attempts = s.attempts)
    (hactions : ∀ action' ∈ t.scheduledActions,
      ∃ action ∈ s.scheduledActions, action.jobId = action'.jobId) : Changes s t := by
  obtain rfl := Table.key_of_find? hrow
  refine .single (.rewrites ⟨hrow, horigin, hjobs, .inl ⟨hstatus, hinbox⟩, fun attempt ha ↦ ?_, hactions⟩)
  exact .inr ⟨attempt, hattempts ▸ ha, rfl⟩

/-- What `request_cancel` makes of a running job. -/
def cancelRunning (now : Datetime) : Update BackgroundJob.id where
  toFun item :=
    { item with
      status := .running, cancelRequestedAt := some now, completedAt := none, updatedAt := now }
  key_eq _ := rfl

theorem requestCancel_changes {tenantId : UUID} :
    Changes s (InMemoryTaskRepository.requestCancel tenantId jobId now s).2 := by
  unfold InMemoryTaskRepository.requestCancel
  split
  · exact .refl
  rename_i item hitem
  split
  · exact .refl
  split
  · exact .refl
  by_cases hrunning : item.status = .running
  · have hput := putJob_jobs (cancelRunning now) hitem
    simp only [hrunning, if_true, reduceCtorEq, if_false]
    exact putJob_changes (f := cancelRunning now) hitem rfl (.inr hrunning.symm)
      hput rfl rfl fun action ha ↦ ⟨action, ha, rfl⟩
  · have hput := putJob_jobs (cancelWaiting now) hitem
    simp only [hrunning, if_false, if_true]
    exact setInboxStatus_changes (f := cancelWaiting now) hitem rfl hput rfl
      (fun attempt ha ↦ .inr ⟨attempt, ha, rfl⟩) rfl rfl

theorem replay_changes {tenantId sourceJobId : UUID} (request : ReplayRequest)
    (hnew : s.jobs.find? request.job.id = none) :
    Changes s (InMemoryTaskRepository.replay tenantId sourceJobId request.job request.outbox s).2 := by
  unfold InMemoryTaskRepository.replay
  split
  · exact .refl
  split
  · exact .refl
  exact putTask_changes hnew request.fresh request.noInbox fun _ ha ↦ .inl ha

theorem claimJob_changes {attemptId : UUID} {workerId : String} :
    Changes s (InMemoryTaskRepository.claimJob jobId workerId now attemptId s).2 := by
  unfold InMemoryTaskRepository.claimJob
  split
  · exact .refl
  rename_i item hitem
  split
  · exact .refl
  split
  · have hput := putJob_jobs (claimCanceled now) hitem
    exact setInboxStatus_changes (f := claimCanceled now) hitem rfl hput rfl
      (fun attempt ha ↦ .inr ⟨attempt, ha, rfl⟩) rfl rfl
  · have hput := putJob_jobs (claimed workerId now) hitem
    refine setInboxStatus_changes (f := claimed workerId now) hitem rfl hput
      rfl (fun attempt ha ↦ ?_) rfl rfl
    rcases Table.mem_put.mp ha with rfl | ⟨ha, -⟩
    · exact .inl (show item.id = jobId from Table.key_of_find? hitem)
    · exact .inr ⟨attempt, ha, rfl⟩

theorem renewJobLease_changes {attemptId : UUID} {workerId : String} :
    Changes s (InMemoryTaskRepository.renewJobLease jobId attemptId workerId now s).2 := by
  unfold InMemoryTaskRepository.renewJobLease
  split
  · rename_i job attempt hjob _
    split
    · exact .refl
    · exact putJob_changes (f := renewed now) hjob rfl (.inr rfl)
        (putJob_jobs (renewed now) hjob) rfl rfl
        fun action ha ↦ ⟨action, ha, rfl⟩
  · exact .refl

theorem execution_found {attemptId : UUID} {workerId : String} {attempt : JobAttempt}
    (h : InMemoryTaskRepository.execution s jobId attemptId workerId = some (row, attempt)) :
    s.jobs.find? jobId = some row ∧ attempt ∈ s.attempts := by
  unfold InMemoryTaskRepository.execution at h
  split at h
  · rename_i item found hitem hfound
    split at h
    · cases h
    · obtain ⟨rfl, rfl⟩ := Prod.mk.inj (Option.some.inj h)
      exact ⟨hitem, Table.mem_of_find? hfound⟩
  · cases h

theorem putAttempt_jobs {t : TaskStore} {attempt : JobAttempt} (g : Update JobAttempt.id)
    (hattempt : attempt ∈ s.attempts) (hg : (g attempt).jobId = attempt.jobId)
    (ht : t.attempts = s.attempts) :
    ∀ attempt' ∈ (InMemoryTaskRepository.putAttempt t (g attempt)).attempts,
      attempt'.jobId = jobId ∨ ∃ old ∈ s.attempts, old.jobId = attempt'.jobId := by
  intro attempt' ha
  rcases Table.mem_put.mp ha with rfl | ⟨ha, -⟩
  · exact .inr ⟨attempt, hattempt, hg.symm⟩
  · exact .inr ⟨attempt', ht ▸ ha, rfl⟩

theorem completeJob_changes {attemptId : UUID} {workerId : String} {result : JsonObject} :
    Changes s (InMemoryTaskRepository.completeJob jobId attemptId workerId result now s).2 := by
  unfold InMemoryTaskRepository.completeJob
  split
  · exact .refl
  rename_i item attempt hexecution
  obtain ⟨hitem, hattempt⟩ := execution_found hexecution
  have hput := putJob_jobs (completed result now) hitem
  refine setInboxStatus_changes (f := completed result now) hitem rfl hput rfl
    (putAttempt_jobs (SqlAlchemyTaskRepository.attemptCompleted _ now) hattempt rfl rfl) rfl ?_
  dsimp only [completed]
  split <;> rfl

theorem failJob_changes {attemptId : UUID} {workerId errorCode errorSummary : String}
    {permanent timedOut : Bool} {retryAt : Datetime} {retryOutbox : OutboxEvent} :
    Changes s (InMemoryTaskRepository.failJob jobId attemptId workerId errorCode errorSummary
      permanent timedOut retryAt retryOutbox now s).2 := by
  unfold InMemoryTaskRepository.failJob
  split
  · exact .refl
  rename_i item attempt hexecution
  obtain ⟨hitem, hattempt⟩ := execution_found hexecution
  have hput := putJob_jobs (failed errorCode errorSummary permanent retryAt now) hitem
  have hchanges : ∀ {t : TaskStore} {status : InboxEventStatus} {error : Option String},
      t.jobs = (InMemoryTaskRepository.putJob s
        (failed errorCode errorSummary permanent retryAt now item)).jobs →
      t.inboxEvents = s.inboxEvents →
      t.attempts = (InMemoryTaskRepository.putAttempt s (SqlAlchemyTaskRepository.attemptFailed
        (failStatus permanent item) timedOut errorCode errorSummary now attempt)).attempts →
      t.scheduledActions = s.scheduledActions → status = mirror (failStatus permanent item) →
      Changes s (InMemoryTaskRepository.setInboxStatus t
        (failed errorCode errorSummary permanent retryAt now item) status now error) := by
    intro t status error hjobs hinbox hattempts hactions hstatus
    refine setInboxStatus_changes (f := failed errorCode errorSummary permanent retryAt now) hitem rfl
      (hjobs.trans hput) hinbox ?_ hactions hstatus
    rw [hattempts]
    exact putAttempt_jobs (SqlAlchemyTaskRepository.attemptFailed _ timedOut errorCode errorSummary now)
      hattempt rfl rfl
  dsimp only
  split
  · rename_i hretry
    exact hchanges rfl rfl rfl rfl (by rw [hretry]; rfl)
  · rename_i hretry
    split
    · rename_i hended
      refine hchanges rfl rfl rfl rfl ?_
      rcases hended with hended | hended <;> rw [hended] <;> rfl
    · rename_i hopen
      refine hchanges rfl rfl rfl rfl ?_
      rcases failStatus_cases permanent item with hstatus | hstatus | hstatus | hstatus
      · rw [hstatus]
        rfl
      · exact absurd (.inl hstatus) hopen
      · exact absurd (.inr hstatus) hopen
      · exact absurd hstatus hretry

theorem recoverJob_changes (now : Datetime) (freshId : UUID → UUID)
    (hrow : s.jobs.find? row.id = some row) :
    Changes s (InMemoryTaskRepository.recoverJob now freshId s row) ∧
      ∀ other ≠ row.id, (InMemoryTaskRepository.recoverJob now freshId s row).jobs.find? other =
        s.jobs.find? other := by
  have hjobs := putJob_jobs (recovered now) hrow
  have hattempts : ∀ attempt' ∈ s.attempts.putEach (s.attempts.rows.filter fun attempt ↦
      attempt.jobId = row.id && attempt.status = .running) (attemptExpired now),
      attempt'.jobId = row.id ∨ ∃ attempt ∈ s.attempts, attempt.jobId = attempt'.jobId := by
    rw [Table.putEach_filter]
    intro attempt' ha
    obtain ⟨attempt, hmem, rfl⟩ := Table.mem_updateWhere.mp ha
    exact .inr ⟨attempt, hmem, by split <;> rfl⟩
  have hset : ∀ {t : TaskStore} {status : InboxEventStatus} {error : Option String},
      t.jobs = s.jobs.updateWhere (fun r ↦ r.id = row.id) (recovered now) →
      (InMemoryTaskRepository.setInboxStatus t (recovered now row) status now error).jobs =
        s.jobs.updateWhere (fun r ↦ r.id = row.id) (recovered now) := by
    intro t status error ht
    rw [setInboxStatus_eq (recovered now) rfl, SqlAlchemyTaskRepository.setInboxRow_jobs, ht]
  have hother : ∀ {t : TaskStore},
      t.jobs = s.jobs.updateWhere (fun r ↦ r.id = row.id) (recovered now) →
      ∀ other ≠ row.id, t.jobs.find? other = s.jobs.find? other := by
    intro t ht other hne
    rw [ht, Table.find?_updateWhere_of_ne hne]
  unfold InMemoryTaskRepository.recoverJob
  dsimp only
  split
  · rename_i hretry
    exact ⟨setInboxStatus_changes (f := recovered now) hrow rfl hjobs rfl hattempts rfl
      (by rw [show (recovered now row).status = .retrying from hretry]; rfl), hother (hset hjobs)⟩
  · rename_i hretry
    have hdead := (recoverStatus_cases row).resolve_right hretry
    exact ⟨setInboxStatus_changes (f := recovered now) hrow rfl hjobs rfl hattempts rfl
      (by rw [show (recovered now row).status = .deadLetter from hdead]; rfl), hother (hset hjobs)⟩

theorem recoverJobs_changes (now : Datetime) (freshId : UUID → UUID) {items : List BackgroundJob}
    (hnodup : (items.map BackgroundJob.id).Nodup)
    (hfound : ∀ item ∈ items, s.jobs.find? item.id = some item) :
    Changes s (items.foldl (InMemoryTaskRepository.recoverJob now freshId) s) := by
  induction items generalizing s with
  | nil => exact .refl
  | cons item items ih =>
    obtain ⟨hitem, hrest⟩ := List.nodup_cons.mp hnodup
    obtain ⟨hfirst, hothers⟩ := recoverJob_changes now freshId
      (hfound item List.mem_cons_self)
    refine hfirst.trans (ih hrest fun other hother ↦ ?_)
    rw [hothers other.id fun he ↦ hitem (he ▸ List.mem_map_of_mem hother)]
    exact hfound other (List.mem_cons_of_mem _ hother)

theorem recoverExpiredLeases_changes {freshId : UUID → UUID} :
    Changes s (InMemoryTaskRepository.recoverExpiredLeases now freshId s).2 := by
  have hnodup : ((s.jobs.rows.filter (jobExpired now)).map BackgroundJob.id).Nodup :=
    (List.filter_sublist.map _).nodup s.jobs.nodup
  have hjobs := recoverJobs_changes now freshId hnodup fun item hitem ↦
    Table.find?_key (List.mem_filter.mp hitem).1
  exact hjobs.tail (.quiet ⟨rfl, rfl, rfl, fun action ha ↦ ⟨action, ha, rfl⟩⟩)

theorem createScheduledAction_changes (request : ScheduleRequest)
    (hnew : s.jobs.find? request.job.id = none) :
    Changes s (InMemoryTaskRepository.createScheduledAction request.action request.job
      request.outbox s).2 := by
  unfold InMemoryTaskRepository.createScheduledAction
  split
  · exact .refl
  refine putTask_changes hnew request.fresh request.noInbox fun action ha ↦ ?_
  rcases Table.mem_put.mp ha with rfl | ⟨ha, -⟩
  · exact .inr request.actionJob
  · exact .inl ha

theorem putAction_jobs {action : ScheduledAction} (g : Update ScheduledAction.id)
    (haction : action ∈ s.scheduledActions) (hg : (g action).jobId = action.jobId) :
    ∀ action' ∈ s.scheduledActions.put (g action),
      ∃ old ∈ s.scheduledActions, old.jobId = action'.jobId := by
  intro action' ha
  rcases Table.mem_put.mp ha with rfl | ⟨ha, -⟩
  · exact ⟨action, haction, hg.symm⟩
  · exact ⟨action', ha, rfl⟩

theorem cancelScheduledAction_changes {tenantId actionId : UUID} (hs : Linked s) :
    Changes s (InMemoryTaskRepository.cancelScheduledAction tenantId actionId now s).2 := by
  unfold InMemoryTaskRepository.cancelScheduledAction
  split
  · exact .refl
  rename_i item haction
  split
  · exact .refl
  have hmem : item ∈ s.scheduledActions :=
    Table.mem_of_find? (Option.filter_eq_some_iff.mp haction).1
  have hactions := putAction_jobs (SqlAlchemyTaskRepository.actionCanceled now) hmem rfl
  dsimp only
  split
  · exact .single (.quiet ⟨rfl, rfl, rfl, hactions⟩)
  · rename_i job hjob
    obtain ⟨jobId, hid, hfound⟩ := Option.bind_eq_some_iff.mp hjob
    obtain ⟨job', hjob', hsource⟩ := hs.action item hmem jobId hid
    obtain rfl : job' = job := Option.some.inj (hjob'.symm.trans hfound)
    have hput := putJob_jobs (cancelWaiting now) hfound
    exact putJob_changes (f := cancelWaiting now) hfound rfl (.inl hsource)
      hput rfl rfl hactions

theorem decideScheduledAction_changes {tenantId actionId : UUID} {decision : ProactiveDecision}
    {budgetUsage : Option SocialBudgetUsage} {dailyBudget : ℕ} :
    Changes s (InMemoryTaskRepository.decideScheduledAction tenantId actionId decision budgetUsage
      dailyBudget now s).2 := by
  unfold InMemoryTaskRepository.decideScheduledAction
  split
  · exact .refl
  rename_i item haction
  split
  · exact .refl
  have hmem : item ∈ s.scheduledActions :=
    Table.mem_of_find? (Option.filter_eq_some_iff.mp haction).1
  obtain ⟨effective, budgetUsages, hcharge⟩ : ∃ effective budgetUsages,
      InMemoryTaskRepository.chargeBudget decision budgetUsage dailyBudget s =
        (effective, { s with budgetUsages }) := by
    unfold InMemoryTaskRepository.chargeBudget
    split
    · exact ⟨_, _, rfl⟩
    · dsimp only
      split
      · exact ⟨_, _, rfl⟩
      · split <;> exact ⟨_, _, rfl⟩
  rw [hcharge]
  exact .single (.quiet ⟨rfl, rfl, rfl,
    putAction_jobs (SqlAlchemyTaskRepository.decided effective now) hmem rfl⟩)

theorem markOutbox_changes {p : Prop} [Decidable p] {event : OutboxEvent} :
    Changes s (if p then InMemoryTaskRepository.putOutbox s event else s) := by
  split
  · exact .single (.quiet ⟨rfl, rfl, rfl, fun action ha ↦ ⟨action, ha, rfl⟩⟩)
  · exact .refl

/-- A call that draws new identifiers is made of changes of the jobs. -/
theorem inMemory_changes (hs : Linked s) (call : TaskCall) (hnew : DrawsNew s call) :
    Changes s (InMemoryTaskRepository.step s call).2 := by
  cases call with
  | enqueue request =>
    exact reply_state (P := Changes s) .refl fun r s' h ↦ enqueue_changes request hs hnew h
  | requestCancel tenantId jobId now => exact requestCancel_changes
  | replay tenantId sourceJobId request => exact replay_changes request hnew
  | claimJob jobId workerId now attemptId locked => exact claimJob_changes
  | renewJobLease jobId attemptId workerId now => exact renewJobLease_changes
  | completeJob jobId attemptId workerId result now => exact completeJob_changes
  | failJob jobId attemptId workerId errorCode errorSummary permanent timedOut retryAt retry now =>
    exact failJob_changes
  | claimOutbox workerId now leaseExpiresAt limit rank locked =>
    exact .single (.quiet ⟨rfl, rfl, rfl, fun action ha ↦ ⟨action, ha, rfl⟩⟩)
  | markOutboxPublished eventId workerId now =>
    dsimp only [InMemoryTaskRepository.step, InMemoryTaskRepository.markOutboxPublished]
    split
    · exact .refl
    · exact markOutbox_changes
  | markOutboxFailed eventId workerId errorCode retryAt now =>
    dsimp only [InMemoryTaskRepository.step, InMemoryTaskRepository.markOutboxFailed]
    split
    · exact .refl
    · exact markOutbox_changes
  | recoverExpiredLeases now freshId lockedJobs lockedEvents => exact recoverExpiredLeases_changes
  | createScheduledAction request => exact createScheduledAction_changes request hnew
  | cancelScheduledAction tenantId actionId now => exact cancelScheduledAction_changes hs
  | decideScheduledAction tenantId actionId decision budgetUsage dailyBudget now =>
    exact decideScheduledAction_changes

theorem inMemory_invariant {I : TaskStore → Prop}
    (hchange : ∀ s s', Linked s → JobChange s s' → I s → I s') {calls : List TaskCall}
    (hs : Linked s) (hI : I s) (h : Machine.Along InMemoryTaskRepository.step DrawsNew s calls) :
    Linked (Machine.run InMemoryTaskRepository.step s calls) ∧
      I (Machine.run InMemoryTaskRepository.step s calls) := by
  refine Machine.run_invariant (I := fun s ↦ Linked s ∧ I s) (fun s call ht hnew ↦ ?_) ⟨hs, hI⟩ h
  have hchanges := inMemory_changes ht.1 call hnew
  generalize (InMemoryTaskRepository.step s call).2 = s' at hchanges ⊢
  induction hchanges with
  | refl => exact ht
  | tail _ hlast ih => exact ⟨hlast.linked ih.1, hchange _ _ ih.1 hlast ih.2⟩

theorem inMemory_linked {calls : List TaskCall} (hs : Linked s)
    (h : Machine.Along InMemoryTaskRepository.step DrawsNew s calls) :
    Linked (Machine.run InMemoryTaskRepository.step s calls) :=
  (inMemory_invariant (I := fun _ ↦ True) (fun _ _ _ _ h ↦ h) hs trivial h).1

end memory

theorem inboxesMirror_empty : InboxesMirror .empty :=
  fun _ h ↦ absurd h (Table.not_mem_empty _)

theorem sql_inboxesMirror {s : TaskStore} (hs : Linked s) (hm : InboxesMirror s)
    (calls : List TaskCall) :
    InboxesMirror (Machine.run SqlAlchemyTaskRepository.step s calls) := by
  intro job hjob inboxId hsource
  obtain ⟨event, hevent⟩ := (run_linked_from hs calls).source job hjob inboxId hsource
  have hmirror := view_invariant_from
    (I := fun v ↦ ∀ event ∈ v.inbox, Mirrored v.job.status event) (fun v hc event he ↦ ?_)
    (fun _ _ _ _ _ _ _ h hI ↦ jobStep_mirrored h hI) hs (fun jobId v hv event he ↦ ?_)
    Machine.along_true (view_of_find? (Table.find?_key hjob))
  · exact ⟨event, hevent, hmirror event (by rw [sourceInbox, hsource]; exact hevent)⟩
  · obtain ⟨hstatus, hprocessed⟩ := hc.inbox event he
    exact ⟨by rw [hstatus, hc.fresh.status]; rfl, by simp [hstatus, hprocessed, inboxProcessed]⟩
  · obtain ⟨hfound, -, hinbox⟩ := view_eq_some.mp hv
    obtain ⟨sourceId, hsourceId, hstored⟩ := Option.bind_eq_some_iff.mp (hinbox.symm.trans he)
    obtain ⟨event', hevent', hmirror⟩ := hm v.job (Table.mem_of_find? hfound) sourceId hsourceId
    obtain rfl := Option.some.inj (hstored.symm.trans hevent')
    exact hmirror

/-- In every reachable state of the database the inbox event of a job mirrors the job's status, and
it carries a processing time exactly in the ended statuses. No job with an inbox event is ever
stored from empty tables, since its insertion comes before that of the event, so the calls may also
start from any tables in which the events mirror their jobs; and they may be made in memory, where
such jobs are stored. -/
theorem inbox_mirrors_job (calls : List TaskCall) :
    InboxesMirror (Machine.run SqlAlchemyTaskRepository.step .empty calls) ∧
      (∀ s, Linked s → InboxesMirror s →
        InboxesMirror (Machine.run SqlAlchemyTaskRepository.step s calls)) ∧
      (Machine.Along InMemoryTaskRepository.step DrawsNew .empty calls →
        InboxesMirror (Machine.run InMemoryTaskRepository.step .empty calls)) :=
  ⟨sql_inboxesMirror linked_empty inboxesMirror_empty calls,
    fun _ hs hm ↦ sql_inboxesMirror hs hm calls,
    fun h ↦ (inMemory_invariant (fun _ _ hs hchange hm ↦ hchange.mirrors hs hm) linked_empty
      inboxesMirror_empty h).2⟩

theorem drawsNew_first (request : EnqueueRequest) : DrawsNew .empty (.enqueue request) :=
  ⟨rfl, fun _ _ ↦ rfl⟩

theorem first_mirrors (request : EnqueueRequest) :
    Linked (InMemoryTaskRepository.step .empty (.enqueue request)).2 ∧
      InboxesMirror (InMemoryTaskRepository.step .empty (.enqueue request)).2 :=
  have hdraws : Machine.Along InMemoryTaskRepository.step DrawsNew .empty [.enqueue request] :=
    ⟨drawsNew_first request, trivial⟩
  inMemory_invariant (fun _ _ hs hchange hm ↦ hchange.mirrors hs hm) linked_empty
    inboxesMirror_empty hdraws

def failsForGood (retry : RetryEvent 1 9) : List TaskCall :=
  [.claimJob 1 "worker-1" 0 7 false,
    .failJob 1 7 "worker-1" "PermanentTaskError" "failed" true false 9 retry 8]

/-- The event is stored in memory; the job fails there, and over the same tables in the database. -/
theorem inbox_mirrors_job_failed :
    ∃ request retry, acceptedEvent = .ok request ∧
      let stored := (InMemoryTaskRepository.step .empty (.enqueue request)).2
      ∀ s ∈ [Machine.run InMemoryTaskRepository.step .empty (.enqueue request :: failsForGood retry),
          Machine.run SqlAlchemyTaskRepository.step stored (failsForGood retry)],
        ∃ event, s.inboxEvents.find? 4 = some event ∧ event.status = .deadLetter ∧
          event.processedAt.isSome := by
  refine ⟨_, ⟨makeOutbox 3 (newJob ⟨1, 0, none, .inboundMessage, "inbound", [], "", none, none, 5,
    120, 5, 0, none, none, by decide⟩ 0) 8 9, makeOutbox_requests _ _ _ _, le_rfl⟩, rfl, ?_⟩
  intro stored
  have hdead : ∀ {s : TaskStore}, InboxesMirror s →
      (∃ job ∈ s.jobs.rows, job.sourceInboxId = some 4 ∧ job.status = .failed) →
      ∃ event, s.inboxEvents.find? 4 = some event ∧ event.status = .deadLetter ∧
        event.processedAt.isSome := by
    rintro s hm ⟨job, hjob, hsource, hstatus⟩
    obtain ⟨event, hevent, hmirror⟩ := hm job hjob 4 hsource
    have hdead : event.status = .deadLetter := by rw [hmirror.status, hstatus]; rfl
    exact ⟨event, hevent, hdead, hmirror.processed.mpr (by rw [hdead]; rfl)⟩
  intro s hs
  simp only [List.mem_cons, List.not_mem_nil, or_false] at hs
  rcases hs with rfl | rfl
  · exact hdead ((inbox_mirrors_job _).2.2 ⟨drawsNew_first _, trivial, trivial, trivial⟩)
      ⟨_, List.mem_cons_self, rfl, rfl⟩
  · exact hdead ((inbox_mirrors_job _).2.1 _ (first_mirrors _).1 (first_mirrors _).2)
      ⟨_, List.mem_cons_self, rfl, rfl⟩

end CyberNetizen.Tasks
