import CyberNetizen.Lib.Machine
import CyberNetizen.Infrastructure.TaskRepository

namespace CyberNetizen.Tasks

open Domain Cognition Infrastructure KeyedTable UnitOfWork SqlAlchemyTaskRepository

def attemptsOf (s : TaskStore) (jobId : UUID) : List JobAttempt :=
  s.attempts.rows.filter fun attempt ↦ attempt.jobId = jobId

def sourceInbox (s : TaskStore) (job : BackgroundJob) : Option InboxEvent :=
  job.sourceInboxId.bind s.inboxEvents.find?

structure JobView where
  job : BackgroundJob
  attempts : List JobAttempt
  inbox : Option InboxEvent

def view (s : TaskStore) (jobId : UUID) : Option JobView :=
  (s.jobs.find? jobId).map fun job ↦ ⟨job, attemptsOf s jobId, sourceInbox s job⟩

def cancelTarget (s : TaskStore) (tenantId actionId : UUID) : Option UUID :=
  (getScheduledAction tenantId actionId s).bind fun row ↦
    if row.status = .pending then row.jobId else none

/-- What the foreign keys and unique constraints say about the tables. -/
structure Linked (s : TaskStore) : Prop where
  attempt : ∀ attempt ∈ s.attempts, ∃ job, s.jobs.find? attempt.jobId = some job
  source : ∀ job ∈ s.jobs, ∀ inboxId, job.sourceInboxId = some inboxId →
    ∃ event, s.inboxEvents.find? inboxId = some event
  sourceUnique : ∀ job ∈ s.jobs, ∀ job' ∈ s.jobs, job.sourceInboxId ≠ none →
    job.sourceInboxId = job'.sourceInboxId → job.id = job'.id
  action : ∀ action ∈ s.scheduledActions, ∀ jobId, action.jobId = some jobId →
    ∃ job, s.jobs.find? jobId = some job ∧ job.sourceInboxId = none

theorem linked_empty : Linked .empty where
  attempt _ h := absurd h (Table.not_mem_empty _)
  source _ h := absurd h (Table.not_mem_empty _)
  sourceUnique _ h := absurd h (Table.not_mem_empty _)
  action _ h := absurd h (Table.not_mem_empty _)

section view

variable {s : TaskStore} {jobId : UUID} {v : JobView}

theorem view_eq_some :
    view s jobId = some v ↔ s.jobs.find? jobId = some v.job ∧ v.attempts = attemptsOf s jobId ∧
      v.inbox = sourceInbox s v.job := by
  unfold view
  rw [Option.map_eq_some_iff]
  constructor
  · rintro ⟨job, hjob, rfl⟩
    exact ⟨hjob, rfl, rfl⟩
  · rintro ⟨hjob, ha, hi⟩
    exact ⟨v.job, hjob, by rw [← ha, ← hi]⟩

theorem view_of_find? {job : BackgroundJob} (h : s.jobs.find? jobId = some job) :
    view s jobId = some ⟨job, attemptsOf s jobId, sourceInbox s job⟩ := by
  rw [view, h, Option.map_some]

theorem view_id (h : view s jobId = some v) : v.job.id = jobId :=
  Table.key_of_find? (view_eq_some.mp h).1

theorem mem_attemptsOf {attempt : JobAttempt} :
    attempt ∈ attemptsOf s jobId ↔ attempt ∈ s.attempts ∧ attempt.jobId = jobId := by
  rw [attemptsOf, List.mem_filter, Table.mem_rows, decide_eq_true_eq]

end view

/-- A job that nobody has claimed yet, with its inbox row. -/
structure Created (v : JobView) : Prop where
  fresh : v.job.Fresh
  attempts : v.attempts = []
  inbox : ∀ event ∈ v.inbox, event.status = .pending ∧ event.processedAt = none

def failInbox (status : BackgroundJobStatus) (now : Datetime) (errorCode : String) :
    Update InboxEvent.id :=
  if status = .retrying then inboxSet .pending now none
  else if status = .failed ∨ status = .deadLetter then inboxSet .deadLetter now (some errorCode)
  else inboxSet .canceled now none

theorem failStatus_cases (permanent : Bool) (row : BackgroundJob) :
    failStatus permanent row = .canceled ∨ failStatus permanent row = .failed ∨
      failStatus permanent row = .deadLetter ∨ failStatus permanent row = .retrying := by
  unfold failStatus
  split_ifs <;> simp

theorem recoverStatus_cases (row : BackgroundJob) :
    recoverStatus row = .deadLetter ∨ recoverStatus row = .retrying := by
  unfold recoverStatus
  split <;> simp

def recoveredView (now : Datetime) (v : JobView) : JobView where
  job := recovered now v.job
  attempts := v.attempts.map fun attempt ↦
    if attempt.status = .running then attemptExpired now attempt else attempt
  inbox := v.inbox.map (failInbox (recoverStatus v.job) now "LeaseExpired")

/-- The changes a call can make to one existing job. -/
inductive JobStep (s : TaskStore) : TaskCall → JobView → JobView → Prop
  | claim {job attempts inbox workerId now attemptId}
      (hwaiting : jobWaiting job.status = true) (hdue : job.availableAt ≤ now)
      (hcount : job.attemptCount < job.maxAttempts) (hcancel : job.cancelRequestedAt = none)
      (hreply : (step s (.claimJob job.id workerId now attemptId false)).1 = .claim (some
        ⟨claimed workerId now job, newAttempt attemptId workerId now (claimed workerId now job)⟩)) :
      JobStep s (.claimJob job.id workerId now attemptId false) ⟨job, attempts, inbox⟩
        ⟨claimed workerId now job,
          attempts ++ [newAttempt attemptId workerId now (claimed workerId now job)],
          inbox.map (inboxSet .processing now none)⟩
  | claimCanceled {job attempts inbox workerId now attemptId}
      (hwaiting : jobWaiting job.status = true) (hcancel : job.cancelRequestedAt.isSome) :
      JobStep s (.claimJob job.id workerId now attemptId false) ⟨job, attempts, inbox⟩
        ⟨claimCanceled now job, attempts, inbox.map (inboxSet .canceled now none)⟩
  | renew {job attempts inbox workerId now attemptId} (hrunning : job.status = .running) :
      JobStep s (.renewJobLease job.id attemptId workerId now) ⟨job, attempts, inbox⟩
        ⟨renewed now job, attempts, inbox⟩
  | complete {job attempts inbox workerId result now attemptId}
      (hrunning : job.status = .running)
      (hattempt : ∃ attempt ∈ attempts, attempt.id = attemptId ∧ attempt.status = .running) :
      JobStep s (.completeJob job.id attemptId workerId result now) ⟨job, attempts, inbox⟩
        ⟨completed result now job,
          attempts.map fun attempt ↦ if attempt.id = attemptId then
            attemptCompleted job.cancelRequestedAt.isSome now attempt else attempt,
          inbox.map (inboxSet
            (if job.cancelRequestedAt.isSome then .canceled else .completed) now none)⟩
  | fail {job attempts inbox workerId errorCode errorSummary permanent timedOut retryAt now
        attemptId} {retry : RetryEvent job.id retryAt}
      (hrunning : job.status = .running)
      (hattempt : ∃ attempt ∈ attempts, attempt.id = attemptId ∧ attempt.status = .running) :
      JobStep s (.failJob job.id attemptId workerId errorCode errorSummary permanent timedOut
          retryAt retry now) ⟨job, attempts, inbox⟩
        ⟨failed errorCode errorSummary permanent retryAt now job,
          attempts.map fun attempt ↦ if attempt.id = attemptId then
            attemptFailed (failStatus permanent job) timedOut errorCode errorSummary now attempt
            else attempt,
          inbox.map (failInbox (failStatus permanent job) now errorCode)⟩
  | cancelWaiting {job attempts inbox tenantId now} (hopen : jobTerminal job.status = false)
      (hrunning : job.status ≠ .running) :
      JobStep s (.requestCancel tenantId job.id now) ⟨job, attempts, inbox⟩
        ⟨cancelWaiting now job, attempts, inbox.map (inboxSet .canceled now none)⟩
  | cancelRunning {job attempts inbox tenantId now} (hrunning : job.status = .running) :
      JobStep s (.requestCancel tenantId job.id now) ⟨job, attempts, inbox⟩
        ⟨cancelRequested now job, attempts, inbox⟩
  | recover {v now freshId lockedJobs lockedEvents} (hexpired : jobExpired now v.job = true)
      (hlocked : lockedJobs v.job.id = false) :
      JobStep s (.recoverExpiredLeases now freshId lockedJobs lockedEvents) v
        (recoveredView now v)
  | cancelScheduled {job attempts tenantId actionId now} (hopen : jobTerminal job.status = false)
      (htarget : cancelTarget s tenantId actionId = some job.id)
      (hsource : job.sourceInboxId = none) :
      JobStep s (.cancelScheduledAction tenantId actionId now) ⟨job, attempts, none⟩
        ⟨cancelWaiting now job, attempts, none⟩

/-- How a call changes what the tables say about one job. -/
inductive ViewStep (s : TaskStore) (call : TaskCall) : Option JobView → Option JobView → Prop
  | same {o} : ViewStep s call o o
  | created {v} : Created v → ViewStep s call none (some v)
  | step {v v'} : JobStep s call v v' → ViewStep s call (some v) (some v')

/-- The calls that leave jobs, attempts and inbox rows alone. -/
structure Quiet (s s' : TaskStore) : Prop where
  jobs : s'.jobs = s.jobs
  attempts : s'.attempts = s.attempts
  inboxEvents : s'.inboxEvents = s.inboxEvents
  actions : ∀ action' ∈ s'.scheduledActions,
    ∃ action ∈ s.scheduledActions, action.jobId = action'.jobId

/-- The calls that store a new job, possibly with an inbox row. -/
structure Creates (s s' : TaskStore) (job : BackgroundJob) (inbox : Option InboxEvent) : Prop where
  jobs : s.jobs.insert? job = some s'.jobs
  attempts : s'.attempts = s.attempts
  inboxEvents : ∀ inboxId, s'.inboxEvents.find? inboxId =
    if inbox.map InboxEvent.id = some inboxId then inbox else s.inboxEvents.find? inboxId
  absent : ∀ event ∈ inbox, s.inboxEvents.find? event.id = none
  source : job.sourceInboxId = inbox.map InboxEvent.id
  sourceUnique : ∀ row ∈ s.jobs, job.sourceInboxId ≠ none →
    row.sourceInboxId ≠ job.sourceInboxId
  actions : ∀ action ∈ s'.scheduledActions,
    action ∈ s.scheduledActions ∨ action.jobId = some job.id ∧ inbox = none

/-- The calls that change one job, and with it its attempts and its inbox row. -/
structure Rewrites (s s' : TaskStore) (row : BackgroundJob) (f : Update BackgroundJob.id)
    (g : InboxEvent → InboxEvent) : Prop where
  found : s.jobs.find? row.id = some row
  source : (f row).sourceInboxId = row.sourceInboxId
  jobs : s'.jobs = s.jobs.updateWhere (fun r ↦ r.id = row.id) f
  inboxEvents : ∀ inboxId, s'.inboxEvents.find? inboxId =
    (s.inboxEvents.find? inboxId).map fun event ↦
      if row.sourceInboxId = some inboxId then g event else event
  attempts : ∀ other, other ≠ row.id → attemptsOf s' other = attemptsOf s other
  actions : ∀ action' ∈ s'.scheduledActions,
    ∃ action ∈ s.scheduledActions, action.jobId = action'.jobId

section frames

variable {s s' : TaskStore}

theorem Quiet.refl : Quiet s s := ⟨rfl, rfl, rfl, fun action h ↦ ⟨action, h, rfl⟩⟩

theorem Quiet.view (h : Quiet s s') (jobId : UUID) : view s' jobId = view s jobId := by
  simp only [Tasks.view, attemptsOf, sourceInbox, h.jobs, h.attempts, h.inboxEvents]

theorem Quiet.linked (h : Quiet s s') (hs : Linked s) : Linked s' where
  attempt := by rw [h.attempts, h.jobs]; exact hs.attempt
  source := by rw [h.inboxEvents, h.jobs]; exact hs.source
  sourceUnique := by rw [h.jobs]; exact hs.sourceUnique
  action action' ha jobId hj := by
    obtain ⟨action, hmem, he⟩ := h.actions action' ha
    rw [h.jobs]
    exact hs.action action hmem jobId (he.trans hj)

variable {job : BackgroundJob} {inbox : Option InboxEvent}

theorem Creates.inbox_of_mem (h : Creates s s' job inbox) (hs : Linked s) {row : BackgroundJob}
    (hrow : row ∈ s.jobs) {inboxId : UUID} (hsource : row.sourceInboxId = some inboxId) :
    s'.inboxEvents.find? inboxId = s.inboxEvents.find? inboxId := by
  rw [h.inboxEvents]
  split
  · rename_i hid
    obtain ⟨event, hevent, rfl⟩ := Option.map_eq_some_iff.mp hid
    obtain ⟨old, hold⟩ := hs.source row hrow _ hsource
    rw [h.absent event hevent] at hold
    exact absurd hold (by simp)
  · rfl

theorem Creates.view_of_ne (h : Creates s s' job inbox) (hs : Linked s) {jobId : UUID}
    (hne : jobId ≠ job.id) : view s' jobId = view s jobId := by
  have hjobs := Table.find?_insert? h.jobs jobId
  rw [if_neg hne] at hjobs
  unfold view
  rw [hjobs]
  cases hrow : s.jobs.find? jobId with
  | none => rfl
  | some row =>
    have hin : sourceInbox s' row = sourceInbox s row := by
      unfold sourceInbox
      cases hsource : row.sourceInboxId with
      | none => rfl
      | some inboxId => exact h.inbox_of_mem hs (Table.mem_of_find? hrow) hsource
    simp only [Option.map_some, attemptsOf, h.attempts, hin]

theorem Creates.view_none (h : Creates s s' job inbox) : view s job.id = none := by
  have hnone : s.jobs.find? job.id = none :=
    Table.find?_eq_none.mpr fun row hrow ↦ (Table.insert?_eq_some h.jobs).1 row hrow
  rw [view, hnone, Option.map_none]

theorem Creates.view_self (h : Creates s s' job inbox) (hs : Linked s) :
    view s' job.id = some ⟨job, [], inbox⟩ := by
  have hjob : s'.jobs.find? job.id = some job := by
    rw [Table.find?_insert? h.jobs, if_pos rfl]
  have hattempts : attemptsOf s' job.id = [] := by
    refine List.filter_eq_nil_iff.mpr fun attempt ha he ↦ ?_
    rw [h.attempts] at ha
    obtain ⟨row, hrow⟩ := hs.attempt attempt ha
    have hid : attempt.jobId = job.id := by simpa using he
    exact (Table.insert?_eq_some h.jobs).1 row (Table.mem_of_find? hrow)
      ((Table.key_of_find? hrow).trans hid)
  have hin : sourceInbox s' job = inbox := by
    rw [sourceInbox, h.source]
    cases inbox with
    | none => rfl
    | some event =>
      rw [Option.map_some, Option.bind_some, h.inboxEvents, Option.map_some, if_pos rfl]
  rw [view_of_find? hjob, hattempts, hin]

theorem Creates.linked (h : Creates s s' job inbox) (hs : Linked s) : Linked s' where
  attempt attempt ha := by
    rw [h.attempts] at ha
    obtain ⟨row, hrow⟩ := hs.attempt attempt ha
    rw [Table.find?_insert? h.jobs]
    split
    · exact ⟨job, rfl⟩
    · exact ⟨row, hrow⟩
  source row hrow inboxId hsource := by
    rcases (Table.mem_insert? h.jobs).mp hrow with hrow | rfl
    · rw [h.inbox_of_mem hs hrow hsource]
      exact hs.source row hrow inboxId hsource
    · rw [h.source] at hsource
      obtain ⟨event, hevent, -⟩ := Option.map_eq_some_iff.mp hsource
      exact ⟨event, by rw [h.inboxEvents, if_pos hsource, hevent]⟩
  sourceUnique a ha b hb hne he := by
    rcases (Table.mem_insert? h.jobs).mp ha with ha | rfl <;>
      rcases (Table.mem_insert? h.jobs).mp hb with hb | rfl
    · exact hs.sourceUnique a ha b hb hne he
    · exact absurd he (h.sourceUnique a ha (he ▸ hne))
    · exact absurd he.symm (h.sourceUnique b hb hne)
    · rfl
  action action ha jobId hj := by
    rw [Table.find?_insert? h.jobs]
    rcases h.actions action ha with ha | ⟨hjob, rfl⟩
    · obtain ⟨row, hrow, hsource⟩ := hs.action action ha jobId hj
      rw [if_neg fun he ↦ (Table.insert?_eq_some h.jobs).1 row (Table.mem_of_find? hrow)
        ((Table.key_of_find? hrow).trans he)]
      exact ⟨row, hrow, hsource⟩
    · obtain rfl := Option.some.inj (hj.symm.trans hjob)
      rw [if_pos rfl]
      exact ⟨job, rfl, h.source⟩

variable {row : BackgroundJob} {f : Update BackgroundJob.id} {g : InboxEvent → InboxEvent}

theorem Rewrites.find?_of_ne (h : Rewrites s s' row f g) {jobId : UUID} (hne : jobId ≠ row.id) :
    s'.jobs.find? jobId = s.jobs.find? jobId := by
  rw [h.jobs, Table.find?_updateWhere_of_ne hne]

theorem Rewrites.find?_self (h : Rewrites s s' row f g) :
    s'.jobs.find? row.id = some (f row) := by
  rw [h.jobs, Table.find?_updateWhere_self h.found]

theorem Rewrites.view_of_ne (h : Rewrites s s' row f g) (hs : Linked s) {jobId : UUID}
    (hne : jobId ≠ row.id) : view s' jobId = view s jobId := by
  unfold view
  rw [h.find?_of_ne hne, h.attempts jobId hne]
  cases hother : s.jobs.find? jobId with
  | none => rfl
  | some other =>
    have hin : sourceInbox s' other = sourceInbox s other := by
      unfold sourceInbox
      cases hsource : other.sourceInboxId with
      | none => rfl
      | some inboxId =>
        have hneq : row.sourceInboxId ≠ some inboxId := fun he ↦ by
          have hid := hs.sourceUnique other (Table.mem_of_find? hother) row
            (Table.mem_of_find? h.found) (by simp [hsource]) (hsource.trans he.symm)
          exact hne ((Table.key_of_find? hother).symm.trans hid)
        simp only [Option.bind_some, h.inboxEvents, hneq, if_false, Option.map_id']
    simp only [Option.map_some, hin]

theorem Rewrites.view_self (h : Rewrites s s' row f g) :
    view s' row.id = some ⟨f row, attemptsOf s' row.id, (sourceInbox s row).map g⟩ := by
  have hin : sourceInbox s' (f row) = (sourceInbox s row).map g := by
    unfold sourceInbox
    rw [h.source]
    cases hsource : row.sourceInboxId with
    | none => rfl
    | some inboxId =>
      simp only [Option.bind_some, h.inboxEvents, hsource, if_true]
  rw [view_of_find? h.find?_self, hin]

theorem Rewrites.find?_source (h : Rewrites s s' row f g) {jobId : UUID} {job : BackgroundJob}
    (hjob : s.jobs.find? jobId = some job) :
    ∃ job', s'.jobs.find? jobId = some job' ∧ job'.sourceInboxId = job.sourceInboxId := by
  by_cases hid : jobId = row.id
  · subst hid
    obtain rfl := Option.some.inj (h.found.symm.trans hjob)
    exact ⟨f row, h.find?_self, h.source⟩
  · exact ⟨job, (h.find?_of_ne hid).trans hjob, rfl⟩

theorem Rewrites.source_of_mem (h : Rewrites s s' row f g) {job' : BackgroundJob}
    (hjob : job' ∈ s'.jobs) :
    ∃ job ∈ s.jobs, job.id = job'.id ∧ job.sourceInboxId = job'.sourceInboxId := by
  rw [h.jobs] at hjob
  obtain ⟨job, hmem, rfl⟩ := Table.mem_updateWhere.mp hjob
  refine ⟨job, hmem, (Table.key_update (fun r ↦ decide (r.id = row.id)) f job).symm, ?_⟩
  split
  · rename_i hid
    have hrow : job = row := Table.eq_of_key_eq hmem (Table.mem_of_find? h.found) (by simpa using hid)
    rw [hrow, h.source]
  · rfl

theorem Rewrites.linked (h : Rewrites s s' row f g) (hs : Linked s) : Linked s' where
  attempt attempt ha := by
    by_cases hid : attempt.jobId = row.id
    · exact ⟨f row, hid ▸ h.find?_self⟩
    · have hmem := mem_attemptsOf.mpr ⟨ha, rfl⟩
      rw [h.attempts _ hid] at hmem
      obtain ⟨job, hjob⟩ := hs.attempt attempt (mem_attemptsOf.mp hmem).1
      exact ⟨job, (h.find?_of_ne hid).trans hjob⟩
  source job' hjob' inboxId hsource := by
    obtain ⟨job, hjob, -, he⟩ := h.source_of_mem hjob'
    obtain ⟨event, hevent⟩ := hs.source job hjob inboxId (he.trans hsource)
    rw [h.inboxEvents, hevent]
    exact ⟨_, rfl⟩
  sourceUnique a' ha' b' hb' hne he := by
    obtain ⟨a, ha, haid, hasource⟩ := h.source_of_mem ha'
    obtain ⟨b, hb, hbid, hbsource⟩ := h.source_of_mem hb'
    rw [← haid, ← hbid]
    exact hs.sourceUnique a ha b hb (hasource ▸ hne) (by rw [hasource, hbsource, he])
  action action' ha jobId hj := by
    obtain ⟨action, hmem, he⟩ := h.actions action' ha
    obtain ⟨job, hjob, hsource⟩ := hs.action action hmem jobId (he.trans hj)
    obtain ⟨job', hjob', hsource'⟩ := h.find?_source hjob
    exact ⟨job', hjob', hsource'.trans hsource⟩

end frames

section inserts

variable {s s' : TaskStore} {job : BackgroundJob} {outbox : OutboxEvent}

theorem insertOutbox_quiet (h : s.insertOutbox outbox = some s') : Quiet s s' := by
  obtain ⟨outboxEvents, -, rfl⟩ := TaskStore.insertOutbox_eq_some h
  exact ⟨rfl, rfl, rfl, fun action ha ↦ ⟨action, ha, rfl⟩⟩

theorem Creates.of_quiet {t : TaskStore} {inbox : Option InboxEvent}
    (h : Creates s t job inbox) (hq : Quiet t s')
    (ha : s'.scheduledActions = t.scheduledActions) : Creates s s' job inbox where
  jobs := by rw [hq.jobs]; exact h.jobs
  attempts := hq.attempts.trans h.attempts
  inboxEvents := by rw [hq.inboxEvents]; exact h.inboxEvents
  absent := h.absent
  source := h.source
  sourceUnique := h.sourceUnique
  actions := by rw [ha]; exact h.actions

theorem insertJob_creates (h : s.insertJob job = some s') (hsource : job.sourceInboxId = none) :
    Creates s s' job none := by
  obtain ⟨-, hunique, jobs, hjobs, rfl⟩ := TaskStore.insertJob_eq_some h
  exact ⟨hjobs, rfl, fun _ ↦ by simp, by simp, hsource, hunique, fun _ ha ↦ .inl ha⟩

theorem insertOutbox_actions (h : s.insertOutbox outbox = some s') :
    s'.scheduledActions = s.scheduledActions := by
  obtain ⟨outboxEvents, -, rfl⟩ := TaskStore.insertOutbox_eq_some h
  rfl

theorem flush_task_creates (hsource : job.sourceInboxId = none)
    (h : flush taskModels [jobModel job, outboxModel outbox] s = some s') :
    Creates s s' job none := by
  obtain ⟨t, hjob, houtbox⟩ := flush_task h
  exact (insertJob_creates hjob hsource).of_quiet (insertOutbox_quiet houtbox)
    (insertOutbox_actions houtbox)

/-- Only a request without an inbox event stores a new job. -/
theorem enqueue_creates (request : EnqueueRequest) {r : BackgroundJob × Bool}
    (h : enqueue request.job request.outbox request.inbox s = .ok (r, s')) :
    s' = s ∨ request.inbox = none ∧ Creates s s' request.job none := by
  have hsource := request.sourceInbox
  unfold enqueue at h
  split at h
  · rename_i t hflush
    obtain ⟨-, rfl⟩ := Prod.mk.inj (Except.ok.inj h)
    cases hinbox : request.inbox with
    | none =>
      rw [hinbox] at hflush hsource
      exact .inr ⟨rfl, flush_task_creates hsource hflush⟩
    | some event =>
      rw [hinbox] at hflush hsource
      cases (flush_inbox hsource).symm.trans hflush
  · split at h
    · obtain ⟨-, rfl⟩ := Prod.mk.inj (Except.ok.inj h)
      exact .inl rfl
    · dsimp only at h
      split at h
      · obtain ⟨-, rfl⟩ := Prod.mk.inj (Except.ok.inj h)
        exact .inl rfl
      · exact absurd h (by simp)

theorem replay_creates {tenantId sourceJobId : UUID} (request : ReplayRequest)
    {r : Option BackgroundJob}
    (h : replay tenantId sourceJobId request.job request.outbox s = .ok (r, s')) :
    s' = s ∨ Creates s s' request.job none := by
  unfold replay at h
  split at h
  · obtain ⟨-, rfl⟩ := Prod.mk.inj (Except.ok.inj h)
    exact .inl rfl
  · split at h
    · obtain ⟨-, rfl⟩ := Prod.mk.inj (Except.ok.inj h)
      exact .inl rfl
    · split at h
      · rename_i t hflush
        obtain ⟨-, rfl⟩ := Prod.mk.inj (Except.ok.inj h)
        exact .inr (flush_task_creates request.noInbox hflush)
      · exact absurd h (by simp)

theorem createScheduledAction_creates (request : ScheduleRequest) {r : ScheduledAction × Bool}
    (h : createScheduledAction request.action request.job request.outbox s = .ok (r, s')) :
    s' = s ∨ Creates s s' request.job none := by
  unfold createScheduledAction at h
  split at h
  · exact absurd h (by simp)
  split at h
  · rename_i t hflush
    obtain ⟨-, rfl⟩ := Prod.mk.inj (Except.ok.inj h)
    obtain ⟨s₁, s₂, hjob, houtbox, haction⟩ := flush_scheduled hflush
    have hcreated := (insertJob_creates hjob request.noInbox).of_quiet (insertOutbox_quiet houtbox)
      (insertOutbox_actions houtbox)
    obtain ⟨-, scheduledActions, hactions, rfl⟩ := TaskStore.insertAction_eq_some haction
    refine .inr ⟨hcreated.jobs, hcreated.attempts, hcreated.inboxEvents, hcreated.absent,
      hcreated.source, hcreated.sourceUnique, fun action ha ↦ ?_⟩
    rcases (Table.mem_insert? hactions).mp ha with ha | rfl
    · exact hcreated.actions action ha
    · exact .inr ⟨request.actionJob, rfl⟩
  · split at h
    · obtain ⟨-, rfl⟩ := Prod.mk.inj (Except.ok.inj h)
      exact .inl rfl
    · exact absurd h (by simp)

theorem claimOutbox_quiet (workerId : String) (now leaseExpiresAt : Datetime) (limit : ℕ)
    (rank : UUID → ℕ) (locked : UUID → Bool) :
    Quiet s (claimOutbox workerId now leaseExpiresAt limit rank locked s).2 :=
  ⟨rfl, rfl, rfl, fun action ha ↦ ⟨action, ha, rfl⟩⟩

theorem chargeBudget_cases {decision effective : ProactiveDecision}
    {budgetUsage : Option SocialBudgetUsage} {dailyBudget : ℕ}
    (h : chargeBudget decision budgetUsage dailyBudget s = .ok (effective, s')) :
    s' = s ∨ ∃ usage, s.insertUsage usage = some s' := by
  unfold chargeBudget at h
  split at h
  · exact .inl (Prod.mk.inj (Except.ok.inj h)).2.symm
  · rename_i usage
    dsimp only at h
    split at h
    · exact .inl (Prod.mk.inj (Except.ok.inj h)).2.symm
    split at h
    · split at h
      · exact absurd h (by simp)
      · rename_i t hinsert
        obtain ⟨-, rfl⟩ := Prod.mk.inj (Except.ok.inj h)
        exact .inr ⟨usage, hinsert⟩
    · exact .inl (Prod.mk.inj (Except.ok.inj h)).2.symm

theorem chargeBudget_quiet {decision effective : ProactiveDecision}
    {budgetUsage : Option SocialBudgetUsage} {dailyBudget : ℕ}
    (h : chargeBudget decision budgetUsage dailyBudget s = .ok (effective, s')) :
    Quiet s s' ∧ s'.scheduledActions = s.scheduledActions := by
  rcases chargeBudget_cases h with rfl | ⟨usage, hinsert⟩
  · exact ⟨.refl, rfl⟩
  · obtain ⟨-, budgetUsages, -, rfl⟩ := TaskStore.insertUsage_eq_some hinsert
    exact ⟨⟨rfl, rfl, rfl, fun action ha ↦ ⟨action, ha, rfl⟩⟩, rfl⟩

theorem decideScheduledAction_quiet {tenantId actionId : UUID} {decision : ProactiveDecision}
    {budgetUsage : Option SocialBudgetUsage} {dailyBudget : ℕ} {now : Datetime}
    {r : Option ScheduledAction}
    (h : decideScheduledAction tenantId actionId decision budgetUsage dailyBudget now s =
      .ok (r, s')) : Quiet s s' := by
  unfold decideScheduledAction at h
  split at h
  · obtain ⟨-, rfl⟩ := Prod.mk.inj (Except.ok.inj h)
    exact .refl
  split at h
  · obtain ⟨-, rfl⟩ := Prod.mk.inj (Except.ok.inj h)
    exact .refl
  split at h
  · exact absurd h (by simp)
  · rename_i effective t hcharge
    obtain ⟨-, rfl⟩ := Prod.mk.inj (Except.ok.inj h)
    obtain ⟨hq, hactions⟩ := chargeBudget_quiet hcharge
    refine ⟨hq.jobs, hq.attempts, hq.inboxEvents, fun action' ha ↦ ?_⟩
    obtain ⟨action, hmem, rfl⟩ := Table.mem_updateWhere.mp ha
    refine ⟨action, hactions ▸ hmem, ?_⟩
    split <;> rfl

end inserts

/-- Every call but the recovery does one of three things to the tables. -/
inductive Effect (s : TaskStore) (call : TaskCall) (s' : TaskStore) : Prop
  | quiet (h : Quiet s s')
  | creates {job inbox} (h : Creates s s' job inbox) (hfresh : job.Fresh)
      (hpending : ∀ event ∈ inbox, event.status = .pending ∧ event.processedAt = none)
  | rewrites {row f g} (h : Rewrites s s' row f g)
      (hstep : JobStep s call ⟨row, attemptsOf s row.id, sourceInbox s row⟩
        ⟨f row, attemptsOf s' row.id, (sourceInbox s row).map g⟩)

theorem Effect.linked {s s' : TaskStore} {call : TaskCall} (h : Effect s call s')
    (hs : Linked s) : Linked s' := by
  cases h with
  | quiet h => exact h.linked hs
  | creates h => exact h.linked hs
  | rewrites h => exact h.linked hs

theorem Effect.viewStep {s s' : TaskStore} {call : TaskCall} (h : Effect s call s')
    (hs : Linked s) (jobId : UUID) : ViewStep s call (view s jobId) (view s' jobId) := by
  cases h with
  | quiet h =>
    rw [h.view jobId]
    exact .same
  | creates h hfresh hpending =>
    rename_i job inbox
    by_cases hid : jobId = job.id
    · subst hid
      rw [h.view_none, h.view_self hs]
      exact .created ⟨hfresh, rfl, hpending⟩
    · rw [h.view_of_ne hs hid]
      exact .same
  | rewrites h hstep =>
    rename_i row f g
    by_cases hid : jobId = row.id
    · subst hid
      rw [view_of_find? h.found, h.view_self]
      exact .step hstep
    · rw [h.view_of_ne hs hid]
      exact .same

section rewrites

variable {s s' : TaskStore} {jobId : UUID} {row : BackgroundJob}

theorem setInboxRow_find? (s : TaskStore) (job : BackgroundJob) (status : InboxEventStatus)
    (now : Datetime) (errorCode : Option String) (inboxId : UUID) :
    (setInboxRow s job status now errorCode).inboxEvents.find? inboxId =
      (s.inboxEvents.find? inboxId).map fun event ↦
        if job.sourceInboxId = some inboxId then inboxSet status now errorCode event
        else event := by
  rw [setInboxRow_eq]
  dsimp only
  rw [Table.find?_updateWhere]
  cases hevent : s.inboxEvents.find? inboxId with
  | none => rfl
  | some event => simp [Table.key_of_find? hevent, eq_comm]

theorem attemptsOf_update {f : Update JobAttempt.id} {p : JobAttempt → Bool} (jobId : UUID)
    (hjob : ∀ attempt, (f attempt).jobId = attempt.jobId)
    (hs : s'.attempts = s.attempts.updateWhere p f) :
    attemptsOf s' jobId =
      (attemptsOf s jobId).map fun attempt ↦ if p attempt then f attempt else attempt := by
  unfold attemptsOf
  rw [hs]
  exact Table.filter_updateWhere _ fun attempt _ _ ↦ by simp [hjob]

theorem attemptsOf_update_of_ne {f : Update JobAttempt.id} {p : JobAttempt → Bool} {other : UUID}
    (hjob : ∀ attempt, (f attempt).jobId = attempt.jobId)
    (hp : ∀ attempt ∈ s.attempts, p attempt = true → attempt.jobId = jobId)
    (hs : s'.attempts = s.attempts.updateWhere p f) (hne : other ≠ jobId) :
    attemptsOf s' other = attemptsOf s other := by
  rw [attemptsOf_update other hjob hs]
  refine (List.map_congr_left fun attempt ha ↦ ?_).trans (List.map_id _)
  obtain ⟨hmem, hid⟩ := mem_attemptsOf.mp ha
  split
  · rename_i hattempt
    exact absurd (hid.symm.trans (hp attempt hmem hattempt)) hne
  · rfl

theorem attemptsOf_insert {attempt : JobAttempt} (h : s.insertAttempt attempt = some s')
    (jobId : UUID) :
    attemptsOf s' jobId =
      attemptsOf s jobId ++ if attempt.jobId = jobId then [attempt] else [] := by
  obtain ⟨attempts, hattempts, rfl⟩ := TaskStore.insertAttempt_eq_some h
  unfold attemptsOf
  rw [(Table.insert?_eq_some hattempts).2, List.filter_append]
  congr 1
  by_cases hid : attempt.jobId = jobId <;> simp [hid]

@[simp] theorem attemptsOf_setInboxRow (s : TaskStore) (job : BackgroundJob)
    (status : InboxEventStatus) (now : Datetime) (errorCode : Option String) :
    attemptsOf (setInboxRow s job status now errorCode) jobId = attemptsOf s jobId := by
  rw [attemptsOf, setInboxRow_attempts, attemptsOf]

theorem rewrites_setInboxRow {t : TaskStore} {f : Update BackgroundJob.id}
    {status : InboxEventStatus} {now : Datetime} {errorCode : Option String}
    (hrow : s.jobs.find? row.id = some row) (hsource : (f row).sourceInboxId = row.sourceInboxId)
    (hjobs : t.jobs = s.jobs.updateWhere (fun r ↦ r.id = row.id) f)
    (hinbox : t.inboxEvents = s.inboxEvents) (hactions : t.scheduledActions = s.scheduledActions)
    (hattempts : ∀ other, other ≠ row.id → attemptsOf t other = attemptsOf s other) :
    Rewrites s (setInboxRow t row status now errorCode) row f (inboxSet status now errorCode) where
  found := hrow
  source := hsource
  jobs := by rw [setInboxRow_jobs, hjobs]
  inboxEvents inboxId := by rw [setInboxRow_find?, hinbox]
  attempts other hother := by rw [attemptsOf_setInboxRow, hattempts other hother]
  actions action ha := by
    rw [setInboxRow_scheduledActions, hactions] at ha
    exact ⟨action, ha, rfl⟩

/-- A claim finds nothing to do, or gives up a canceled job, or starts an attempt. -/
theorem claimJob_cases {workerId : String} {now : Datetime} {attemptId : UUID} {locked : Bool}
    {r : Option JobClaim} (h : claimJob jobId workerId now attemptId locked s = .ok (r, s')) :
    r = none ∧ s' = s ∨ locked = false ∧ ∃ row, s.jobs.find? jobId = some row ∧
      jobWaiting row.status = true ∧ row.availableAt ≤ now ∧ row.attemptCount < row.maxAttempts ∧
      (r = none ∧ row.cancelRequestedAt.isSome ∧
        s' = setInboxRow (setJob s jobId (claimCanceled now)) row .canceled now ∨
      row.cancelRequestedAt = none ∧ ∃ t,
        r = some ⟨claimed workerId now row,
          newAttempt attemptId workerId now (claimed workerId now row)⟩ ∧
        (setJob s jobId (claimed workerId now)).insertAttempt
          (newAttempt attemptId workerId now (claimed workerId now row)) = some t ∧
        s' = setInboxRow t row .processing now) := by
  unfold claimJob at h
  split at h
  · obtain ⟨rfl, rfl⟩ := Prod.mk.inj (Except.ok.inj h)
    exact .inl ⟨rfl, rfl⟩
  rename_i row hfound
  cases locked with
  | true => exact absurd hfound (by simp)
  | false =>
  have hrow : s.jobs.find? jobId = some row := by simpa using hfound
  split at h
  · obtain ⟨rfl, rfl⟩ := Prod.mk.inj (Except.ok.inj h)
    exact .inl ⟨rfl, rfl⟩
  rename_i hready
  simp only [not_or, not_not, not_lt, not_le] at hready
  obtain ⟨hwaiting, hdue, hcount⟩ := hready
  refine .inr ⟨rfl, row, hrow, hwaiting, hdue, hcount, ?_⟩
  split at h
  · rename_i hcancel
    obtain ⟨rfl, rfl⟩ := Prod.mk.inj (Except.ok.inj h)
    exact .inl ⟨rfl, hcancel, rfl⟩
  rename_i hcancel
  dsimp only at h
  split at h
  · exact absurd h (by simp)
  rename_i t hinsert
  obtain ⟨rfl, rfl⟩ := Prod.mk.inj (Except.ok.inj h)
  exact .inr ⟨by simpa using hcancel, t, rfl, hinsert, rfl⟩

theorem claimJob_effect {workerId : String} {now : Datetime} {attemptId : UUID} {locked : Bool}
    {r : Option JobClaim} (h : claimJob jobId workerId now attemptId locked s = .ok (r, s')) :
    Effect s (.claimJob jobId workerId now attemptId locked) s' := by
  rcases claimJob_cases h with ⟨-, rfl⟩ | ⟨rfl, row, hrow, hwaiting, hdue, hcount, hcases⟩
  · exact .quiet .refl
  obtain rfl := Table.key_of_find? hrow
  rcases hcases with ⟨-, hcancel, rfl⟩ | ⟨hcancel, t, hr, hinsert, rfl⟩
  · refine .rewrites (rewrites_setInboxRow hrow rfl rfl rfl rfl fun other _ ↦ rfl) ?_
    rw [attemptsOf_setInboxRow]
    exact .claimCanceled hwaiting hcancel
  have hattempts := fun other ↦ attemptsOf_insert hinsert other
  have hreply : (step s (.claimJob row.id workerId now attemptId false)).1 = .claim r := by
    rw [step, h]
    rfl
  obtain ⟨attempts, -, rfl⟩ := TaskStore.insertAttempt_eq_some hinsert
  refine .rewrites (rewrites_setInboxRow hrow rfl rfl rfl rfl fun other hother ↦ ?_) ?_
  · have hne : (newAttempt attemptId workerId now (claimed workerId now row)).jobId ≠ other :=
      fun he ↦ hother he.symm
    rw [hattempts, if_neg hne, List.append_nil]
    rfl
  · have hself : (newAttempt attemptId workerId now (claimed workerId now row)).jobId = row.id :=
      rfl
    rw [attemptsOf_setInboxRow, hattempts, if_pos hself]
    exact .claim hwaiting hdue hcount hcancel (hr ▸ hreply)

theorem renewJobLease_effect {attemptId : UUID} {workerId : String} {now : Datetime} :
    Effect s (.renewJobLease jobId attemptId workerId now)
      (renewJobLease jobId attemptId workerId now s).2 := by
  unfold renewJobLease
  split
  · rename_i row attempt hrow hattempt
    split
    · exact .quiet .refl
    · rename_i hheld
      simp only [not_or, not_not] at hheld
      obtain rfl := Table.key_of_find? hrow
      refine .rewrites (f := renewed now) (g := id)
        ⟨hrow, rfl, rfl, fun inboxId ↦ by simp [setJob], fun other _ ↦ rfl,
          fun action ha ↦ ⟨action, ha, rfl⟩⟩ ?_
      simpa using .renew hheld.1
  · exact .quiet .refl

theorem lockedExecution_eq_some {attemptId : UUID} {workerId : String} {attempt : JobAttempt}
    (h : lockedExecution s jobId attemptId workerId = (some row, some attempt)) :
    s.jobs.find? jobId = some row ∧ row.status = .running ∧ row.leaseOwner = some workerId ∧
      s.attempts.find? attemptId = some attempt ∧ attempt.jobId = jobId ∧
      attempt.status = .running := by
  unfold lockedExecution at h
  simp only [Prod.mk.injEq, Option.filter_eq_some_iff, Bool.and_eq_true, decide_eq_true_eq] at h
  tauto

variable (s') in
theorem attemptsOf_setAttempt {attemptId : UUID} {attempt : JobAttempt}
    {f : Update JobAttempt.id} (hattempt : s.attempts.find? attemptId = some attempt)
    (hid : attempt.jobId = jobId) (hjob : ∀ attempt, (f attempt).jobId = attempt.jobId)
    (hs : s'.attempts = s.attempts.updateWhere (fun row ↦ row.id = attemptId) f) :
    (∀ other, other ≠ jobId → attemptsOf s' other = attemptsOf s other) ∧
      attemptsOf s' jobId =
        (attemptsOf s jobId).map fun row ↦ if row.id = attemptId then f row else row := by
  refine ⟨fun other hother ↦ attemptsOf_update_of_ne hjob (fun a ha hp ↦ ?_) hs hother, ?_⟩
  · have ha' : s.attempts.find? attemptId = some a :=
      Table.find?_eq_some.mpr ⟨ha, by simpa using hp⟩
    rw [Option.some.inj (ha'.symm.trans hattempt), hid]
  · simpa using attemptsOf_update jobId hjob hs

theorem completeJob_effect {attemptId : UUID} {workerId : String} {result : JsonObject}
    {now : Datetime} :
    Effect s (.completeJob jobId attemptId workerId result now)
      (completeJob jobId attemptId workerId result now s).2 := by
  unfold completeJob
  split
  · rename_i row attempt hlocked
    obtain ⟨hrow, hrunning, -, hattempt, hid, hstatus⟩ := lockedExecution_eq_some hlocked
    obtain rfl := Table.key_of_find? hrow
    obtain ⟨hother, hself⟩ := attemptsOf_setAttempt
      (setAttempt (setJob s row.id (completed result now)) attemptId
        (attemptCompleted row.cancelRequestedAt.isSome now)) hattempt hid (fun _ ↦ rfl) rfl
    refine .rewrites (rewrites_setInboxRow hrow rfl rfl rfl rfl hother) ?_
    rw [attemptsOf_setInboxRow, hself]
    exact .complete hrunning ⟨attempt, mem_attemptsOf.mpr ⟨Table.mem_of_find? hattempt, hid⟩,
      Table.key_of_find? hattempt, hstatus⟩
  · exact .quiet .refl

/-- The two branches of a failure that go on with the inbox row. -/
theorem failInbox_eq (s' : TaskStore) (row : BackgroundJob) (status : BackgroundJobStatus)
    (now : Datetime) (errorCode : String) (u : TaskStore)
    (h : (status = .retrying ∧ ∃ t outbox, u.insertOutbox outbox = some t ∧
        s' = setInboxRow t row .pending now) ∨
      (status ≠ .retrying ∧ s' = if status = .failed ∨ status = .deadLetter
        then setInboxRow u row .deadLetter now (some errorCode)
        else setInboxRow u row .canceled now)) :
    ∃ t inboxStatus error, Quiet u t ∧ t.scheduledActions = u.scheduledActions ∧
      s' = setInboxRow t row inboxStatus now error ∧
      failInbox status now errorCode = inboxSet inboxStatus now error := by
  unfold failInbox
  rcases h with ⟨hstatus, t, outbox, hinsert, rfl⟩ | ⟨hstatus, rfl⟩
  · exact ⟨t, _, _, insertOutbox_quiet hinsert, insertOutbox_actions hinsert, rfl, if_pos hstatus⟩
  · rw [if_neg hstatus]
    split
    · exact ⟨u, _, _, .refl, rfl, rfl, rfl⟩
    · exact ⟨u, _, _, .refl, rfl, rfl, rfl⟩

/-- A failure is refused, or it settles the attempt and goes on with the inbox row. -/
theorem failJob_cases {attemptId : UUID} {workerId errorCode errorSummary : String}
    {permanent timedOut : Bool} {retryAt now : Datetime} {retryOutbox : OutboxEvent}
    {r : Option BackgroundJob}
    (h : failJob jobId attemptId workerId errorCode errorSummary permanent timedOut retryAt
      retryOutbox now s = .ok (r, s')) :
    r = none ∧ s' = s ∨ ∃ row attempt t inboxStatus error,
      lockedExecution s jobId attemptId workerId = (some row, some attempt) ∧
      Quiet (setAttempt (setJob s jobId (failed errorCode errorSummary permanent retryAt now))
        attemptId (attemptFailed (failStatus permanent row) timedOut errorCode errorSummary now)) t ∧
      t.scheduledActions = s.scheduledActions ∧ s' = setInboxRow t row inboxStatus now error ∧
      failInbox (failStatus permanent row) now errorCode = inboxSet inboxStatus now error := by
  unfold failJob at h
  split at h
  · rename_i row attempt hlocked
    obtain ⟨t, inboxStatus, error, hq, hactions, hs', hin⟩ := failInbox_eq s' row
      (failStatus permanent row) now errorCode
      (setAttempt (setJob s jobId (failed errorCode errorSummary permanent retryAt now))
        attemptId (attemptFailed (failStatus permanent row) timedOut errorCode errorSummary now))
      (by
        dsimp only at h
        split at h
        · rename_i hretry
          split at h
          · exact absurd h (by simp)
          · rename_i t hinsert
            exact .inl ⟨hretry, t, _, hinsert, (Prod.mk.inj (Except.ok.inj h)).2.symm⟩
        · rename_i hretry
          refine .inr ⟨hretry, ?_⟩
          split at h
          · rename_i hgiven
            rw [if_pos hgiven]
            exact (Prod.mk.inj (Except.ok.inj h)).2.symm
          · rename_i hgiven
            rw [if_neg hgiven]
            exact (Prod.mk.inj (Except.ok.inj h)).2.symm)
    exact .inr ⟨row, attempt, t, inboxStatus, error, hlocked, hq, hactions, hs', hin⟩
  · obtain ⟨rfl, rfl⟩ := Prod.mk.inj (Except.ok.inj h)
    exact .inl ⟨rfl, rfl⟩

theorem failJob_effect {attemptId : UUID} {workerId errorCode errorSummary : String}
    {permanent timedOut : Bool} {retryAt now : Datetime} {retry : RetryEvent jobId retryAt}
    {r : Option BackgroundJob}
    (h : failJob jobId attemptId workerId errorCode errorSummary permanent timedOut retryAt
      retry.outbox now s = .ok (r, s')) :
    Effect s (.failJob jobId attemptId workerId errorCode errorSummary permanent timedOut retryAt
      retry now) s' := by
  rcases failJob_cases h with
    ⟨-, rfl⟩ | ⟨row, attempt, t, inboxStatus, error, hlocked, hq, hactions, rfl, hin⟩
  · exact .quiet .refl
  obtain ⟨hrow, hrunning, -, hattempt, hid, hstatus⟩ := lockedExecution_eq_some hlocked
  obtain rfl := Table.key_of_find? hrow
  obtain ⟨hother, hself⟩ := attemptsOf_setAttempt t hattempt hid (fun _ ↦ rfl) hq.attempts
  refine .rewrites (rewrites_setInboxRow (f := failed errorCode errorSummary permanent retryAt now)
    hrow rfl hq.jobs hq.inboxEvents hactions hother) ?_
  rw [attemptsOf_setInboxRow, hself, ← hin]
  exact .fail hrunning ⟨attempt, mem_attemptsOf.mpr ⟨Table.mem_of_find? hattempt, hid⟩,
    Table.key_of_find? hattempt, hstatus⟩

theorem requestCancel_effect {tenantId : UUID} {now : Datetime} :
    Effect s (.requestCancel tenantId jobId now) (requestCancel tenantId jobId now s).2 := by
  unfold requestCancel
  split
  · exact .quiet .refl
  rename_i row hrow
  obtain rfl := Table.key_of_find? hrow
  split
  · exact .quiet .refl
  split
  · exact .quiet .refl
  rename_i hopen
  split
  · rename_i hrunning
    refine .rewrites (rewrites_setInboxRow hrow rfl rfl rfl rfl fun other _ ↦ rfl) ?_
    rw [attemptsOf_setInboxRow]
    exact .cancelWaiting (by simpa using hopen) hrunning
  · rename_i hrunning
    refine .rewrites (f := cancelRequested now) (g := id)
      ⟨hrow, rfl, rfl, fun inboxId ↦ by simp [setJob], fun other _ ↦ rfl,
        fun action ha ↦ ⟨action, ha, rfl⟩⟩ ?_
    simpa using .cancelRunning (not_not.mp hrunning)

theorem cancelScheduledAction_effect {tenantId actionId : UUID} {now : Datetime}
    (hs : Linked s) :
    Effect s (.cancelScheduledAction tenantId actionId now)
      (cancelScheduledAction tenantId actionId now s).2 := by
  unfold cancelScheduledAction
  split
  · exact .quiet .refl
  rename_i action haction
  split
  · exact .quiet .refl
  rename_i hpending
  have hactions : ∀ action' ∈ (setAction s actionId (actionCanceled now)).scheduledActions,
      ∃ a ∈ s.scheduledActions, a.jobId = action'.jobId := fun action' ha ↦ by
    obtain ⟨a, hmem, rfl⟩ := Table.mem_updateWhere.mp ha
    refine ⟨a, hmem, ?_⟩
    split <;> rfl
  dsimp only
  split
  · exact .quiet ⟨rfl, rfl, rfl, hactions⟩
  rename_i job hjob
  split
  · exact .quiet ⟨rfl, rfl, rfl, hactions⟩
  rename_i hopen
  obtain ⟨jobId, hid, hfound⟩ := Option.bind_eq_some_iff.mp hjob
  have hmem : action ∈ s.scheduledActions :=
    Table.mem_of_find? (Option.filter_eq_some_iff.mp haction).1
  obtain ⟨job', hjob', hsource⟩ := hs.action action hmem jobId hid
  obtain rfl : job' = job := Option.some.inj (hjob'.symm.trans hfound)
  obtain rfl := Table.key_of_find? hjob'
  have hin : sourceInbox s job' = none := by rw [sourceInbox, hsource, Option.bind_none]
  refine .rewrites (f := cancelWaiting now) (g := id)
    ⟨hjob', rfl, rfl, fun inboxId ↦ ?_, fun other _ ↦ rfl, hactions⟩ ?_
  · simp [cancelOutboxRows, setJob, setAction]
  · rw [hin]
    refine .cancelScheduled (by simpa using hopen) ?_ hsource
    rw [cancelTarget, haction, Option.bind_some, if_pos (not_not.mp hpending), hid]

theorem recoverJob_rewrites {now : Datetime} {freshId : UUID → UUID}
    (hrow : s.jobs.find? row.id = some row) (h : recoverJob now freshId s row.id = some s') :
    ∃ g, Rewrites s s' row (recovered now) g ∧
      view s' row.id = some (recoveredView now ⟨row, attemptsOf s row.id, sourceInbox s row⟩) := by
  unfold recoverJob at h
  rw [hrow] at h
  obtain ⟨t, inboxStatus, error, hq, hactions, rfl, hin⟩ := failInbox_eq s' row
    (recoverStatus row) now "LeaseExpired"
    ({ setJob s row.id (recovered now) with
      attempts := s.attempts.updateWhere
        (fun attempt ↦ attempt.jobId = row.id && attempt.status = .running) (attemptExpired now) })
    (by
      dsimp only at h
      split at h
      · rename_i hretry
        obtain ⟨t, hinsert, rfl⟩ := Option.map_eq_some_iff.mp h
        exact .inl ⟨hretry, t, _, hinsert, rfl⟩
      · rename_i hretry
        have hdead := (recoverStatus_cases row).resolve_right hretry
        exact .inr ⟨hretry, by rw [if_pos (.inr hdead)]; exact (Option.some.inj h).symm⟩)
  have hlist : ∀ other, attemptsOf t other = (attemptsOf s other).map fun attempt ↦
      if (attempt.jobId = row.id && attempt.status = .running : Bool) then
        attemptExpired now attempt else attempt := fun other ↦
    attemptsOf_update other (fun _ ↦ rfl) hq.attempts
  have hrewrites : Rewrites s (setInboxRow t row inboxStatus now error) row (recovered now)
      (inboxSet inboxStatus now error) :=
    rewrites_setInboxRow hrow rfl hq.jobs hq.inboxEvents hactions fun other hne ↦
      attemptsOf_update_of_ne (fun _ ↦ rfl) (fun attempt _ hp ↦ by simp at hp; exact hp.1)
        hq.attempts hne
  refine ⟨_, hrewrites, ?_⟩
  rw [hrewrites.view_self, attemptsOf_setInboxRow, hlist]
  unfold recoveredView
  rw [hin]
  congr 2
  refine List.map_congr_left fun attempt ha ↦ ?_
  simp [(mem_attemptsOf.mp ha).2]

/-- The loop of the recovery treats every job on its list once and no other job. -/
theorem recoverJobs_view {now : Datetime} {freshId : UUID → UUID} {ids : List UUID}
    (hnodup : ids.Nodup) (hs : Linked s) (hfound : ∀ id ∈ ids, ∃ row, s.jobs.find? id = some row)
    (h : ids.foldlM (recoverJob now freshId) s = some s') :
    Linked s' ∧ ∀ jobId, view s' jobId =
      if jobId ∈ ids then (view s jobId).map (recoveredView now) else view s jobId := by
  induction ids generalizing s with
  | nil =>
    obtain rfl := Option.some.inj h
    exact ⟨hs, fun jobId ↦ by simp⟩
  | cons id ids ih =>
    rw [List.foldlM_cons] at h
    obtain ⟨t, hturn, hrest⟩ := Option.bind_eq_some_iff.mp h
    obtain ⟨hid, hids⟩ := List.nodup_cons.mp hnodup
    obtain ⟨row, hrow⟩ := hfound id List.mem_cons_self
    obtain rfl := Table.key_of_find? hrow
    obtain ⟨g, hrewrites, hview⟩ := recoverJob_rewrites hrow hturn
    obtain ⟨hlinked, hviews⟩ := ih hids (hrewrites.linked hs) (fun other hother ↦ by
      obtain ⟨job, hjob⟩ := hfound other (List.mem_cons_of_mem _ hother)
      exact ⟨_, (hrewrites.find?_source hjob).choose_spec.1⟩) hrest
    refine ⟨hlinked, fun jobId ↦ ?_⟩
    rw [hviews jobId]
    by_cases hjob : jobId = row.id
    · subst hjob
      rw [if_neg hid, if_pos List.mem_cons_self, hview, view_of_find? hrow, Option.map_some]
    · simp only [List.mem_cons, hjob, false_or, hrewrites.view_of_ne hs hjob]

theorem recoverExpiredLeases_view {now : Datetime} {freshId : UUID → UUID}
    {lockedJobs lockedEvents : UUID → Bool} {r : ℕ} (hs : Linked s)
    (h : recoverExpiredLeases now freshId lockedJobs lockedEvents s = .ok (r, s')) :
    Linked s' ∧ ∀ jobId, ViewStep s
      (.recoverExpiredLeases now freshId lockedJobs lockedEvents) (view s jobId) (view s' jobId) := by
  unfold recoverExpiredLeases at h
  dsimp only at h
  split at h
  · exact absurd h (by simp)
  rename_i t hturns
  obtain ⟨-, rfl⟩ := Prod.mk.inj (Except.ok.inj h)
  have hq : ∀ outboxEvents, Quiet t { t with outboxEvents } := fun _ ↦
    ⟨rfl, rfl, rfl, fun action ha ↦ ⟨action, ha, rfl⟩⟩
  have hmem : ∀ id, id ∈ (s.jobs.rows.filter fun row ↦ jobExpired now row && !lockedJobs row.id).map
      BackgroundJob.id ↔ ∃ row, s.jobs.find? id = some row ∧ jobExpired now row = true ∧
        lockedJobs row.id = false := fun id ↦ by
    simp only [List.mem_map, List.mem_filter, Table.mem_rows, Bool.and_eq_true, Bool.not_eq_true',
      Table.find?_eq_some]
    constructor
    · rintro ⟨row, ⟨hrow, hexpired⟩, rfl⟩
      exact ⟨row, ⟨hrow, rfl⟩, hexpired⟩
    · rintro ⟨row, ⟨hrow, rfl⟩, hexpired⟩
      exact ⟨row, ⟨hrow, hexpired⟩, rfl⟩
  obtain ⟨hlinked, hviews⟩ := recoverJobs_view
    ((List.filter_sublist.map _).nodup s.jobs.nodup) hs
    (fun id hid ↦ by obtain ⟨row, hrow, -⟩ := (hmem id).mp hid; exact ⟨row, hrow⟩) hturns
  refine ⟨(hq _).linked hlinked, fun jobId ↦ ?_⟩
  rw [(hq _).view, hviews jobId]
  split
  · rename_i hid
    obtain ⟨row, hrow, hexpired, hlocked⟩ := (hmem jobId).mp hid
    rw [view_of_find? hrow]
    exact .step (.recover hexpired hlocked)
  · exact .same

end rewrites

section step

variable {s : TaskStore}

theorem step_effect (hs : Linked s) (call : TaskCall) :
    Effect s call (step s call).2 ∨ ∃ now freshId lockedJobs lockedEvents,
      call = .recoverExpiredLeases now freshId lockedJobs lockedEvents := by
  cases call with
  | enqueue request =>
    refine .inl (reply_state (P := Effect s _) (.quiet .refl) fun r s' h ↦ ?_)
    rcases enqueue_creates request h with rfl | ⟨-, hc⟩
    · exact .quiet .refl
    · exact .creates hc request.fresh (by simp)
  | requestCancel tenantId jobId now => exact .inl requestCancel_effect
  | replay tenantId sourceJobId request =>
    refine .inl (reply_state (P := Effect s _) (.quiet .refl) fun r s' h ↦ ?_)
    rcases replay_creates request h with rfl | hc
    · exact .quiet .refl
    · exact .creates hc request.fresh (by simp)
  | claimJob jobId workerId now attemptId locked =>
    exact .inl (reply_state (P := Effect s _) (.quiet .refl) fun r s' h ↦ claimJob_effect h)
  | renewJobLease jobId attemptId workerId now => exact .inl renewJobLease_effect
  | completeJob jobId attemptId workerId result now => exact .inl completeJob_effect
  | failJob jobId attemptId workerId errorCode errorSummary permanent timedOut retryAt retry now =>
    exact .inl (reply_state (P := Effect s _) (.quiet .refl) fun r s' h ↦ failJob_effect h)
  | claimOutbox workerId now leaseExpiresAt limit rank locked =>
    exact .inl (.quiet (claimOutbox_quiet ..))
  | markOutboxPublished eventId workerId now =>
    exact .inl (.quiet ⟨rfl, rfl, rfl, fun action ha ↦ ⟨action, ha, rfl⟩⟩)
  | markOutboxFailed eventId workerId errorCode retryAt now =>
    exact .inl (.quiet ⟨rfl, rfl, rfl, fun action ha ↦ ⟨action, ha, rfl⟩⟩)
  | recoverExpiredLeases now freshId lockedJobs lockedEvents =>
    exact .inr ⟨now, freshId, lockedJobs, lockedEvents, rfl⟩
  | createScheduledAction request =>
    refine .inl (reply_state (P := Effect s _) (.quiet .refl) fun r s' h ↦ ?_)
    rcases createScheduledAction_creates request h with rfl | hc
    · exact .quiet .refl
    · exact .creates hc request.fresh (by simp)
  | cancelScheduledAction tenantId actionId now => exact .inl (cancelScheduledAction_effect hs)
  | decideScheduledAction tenantId actionId decision budgetUsage dailyBudget now =>
    exact .inl (reply_state (P := Effect s _) (.quiet .refl) fun r s' h ↦
      .quiet (decideScheduledAction_quiet h))

def Follows (s : TaskStore) (call : TaskCall) (s' : TaskStore) : Prop :=
  Linked s' ∧ ∀ jobId, ViewStep s call (view s jobId) (view s' jobId)

theorem step_follows (hs : Linked s) (call : TaskCall) : Follows s call (step s call).2 := by
  rcases step_effect hs call with heffect | ⟨now, freshId, lockedJobs, lockedEvents, rfl⟩
  · exact ⟨heffect.linked hs, heffect.viewStep hs⟩
  · exact reply_state (P := Follows s _) ⟨hs, fun _ ↦ .same⟩ fun r s' h ↦
      recoverExpiredLeases_view hs h

theorem step_linked (hs : Linked s) (call : TaskCall) : Linked (step s call).2 :=
  (step_follows hs call).1

theorem step_view (hs : Linked s) (call : TaskCall) (jobId : UUID) :
    ViewStep s call (view s jobId) (view (step s call).2 jobId) :=
  (step_follows hs call).2 jobId

theorem run_linked_from (hs : Linked s) (calls : List TaskCall) :
    Linked (Machine.run step s calls) :=
  Machine.run_invariant_all (I := Linked) (fun _ call hs ↦ step_linked hs call) hs calls

theorem run_linked (calls : List TaskCall) : Linked (Machine.run step TaskStore.empty calls) :=
  run_linked_from linked_empty calls

/-- What the jobs and the new jobs satisfy and every good step preserves holds of every job in every
good run. -/
theorem view_invariant_from {P : TaskStore → TaskCall → Prop} {I : JobView → Prop}
    (hcreated : ∀ v, Created v → I v)
    (hstep : ∀ s call v v', Linked s → P s call → view s v.job.id = some v →
      JobStep s call v v' → I v → I v')
    (hs : Linked s) (hI : ∀ jobId v, view s jobId = some v → I v) {calls : List TaskCall}
    (h : Machine.Along step P s calls) {jobId : UUID} {v : JobView}
    (hv : view (Machine.run step s calls) jobId = some v) : I v := by
  have hrun := Machine.run_invariant (I := fun s ↦ Linked s ∧ ∀ jobId v, view s jobId = some v → I v)
    (fun s call hs hP ↦ ⟨step_linked hs.1 call, fun jobId v' hv' ↦ ?_⟩) ⟨hs, hI⟩ h
  · exact hrun.2 jobId v hv
  · have hview := step_view hs.1 call jobId
    rw [hv'] at hview
    generalize hold : view s jobId = old at hview
    cases hview with
    | same => exact hs.2 jobId v' hold
    | created hc => exact hcreated v' hc
    | step hj =>
      rename_i v
      obtain rfl := view_id hold
      exact hstep s call v v' hs.1 hP hold hj (hs.2 _ v hold)

theorem view_invariant {P : TaskStore → TaskCall → Prop} {I : JobView → Prop}
    (hcreated : ∀ v, Created v → I v)
    (hstep : ∀ s call v v', Linked s → P s call → view s v.job.id = some v →
      JobStep s call v v' → I v → I v')
    {calls : List TaskCall} (h : Machine.Along step P TaskStore.empty calls) {jobId : UUID}
    {v : JobView} (hv : view (Machine.run step TaskStore.empty calls) jobId = some v) : I v :=
  view_invariant_from hcreated hstep linked_empty
    (fun _ _ h ↦ absurd h (by simp [view, TaskStore.empty])) h hv

/-- The later life of one job: it stays in the tables, and what every good step preserves of it
holds in every later state. -/
theorem view_tracked {P : TaskStore → TaskCall → Prop} {I : JobView → Prop} {jobId : UUID}
    (hstep : ∀ s call v v', Linked s → P s call → view s jobId = some v →
      JobStep s call v v' → I v → I v')
    {calls : List TaskCall} (hs : Linked s) (h : Machine.Along step P s calls) {v : JobView}
    (hv : view s jobId = some v) (hI : I v) :
    ∃ v', view (Machine.run step s calls) jobId = some v' ∧ I v' := by
  have hrun := Machine.run_invariant (I := fun s ↦ Linked s ∧ ∃ v, view s jobId = some v ∧ I v)
    (fun s call hs hP ↦ ⟨step_linked hs.1 call, ?_⟩) ⟨hs, v, hv, hI⟩ h
  · exact hrun.2
  · obtain ⟨hlinked, v, hv, hI⟩ := hs
    have hview := step_view hlinked call jobId
    rw [hv] at hview
    generalize hnew : view (step s call).2 jobId = new at hview
    cases hview with
    | same => exact ⟨v, rfl, hI⟩
    | step hj => exact ⟨_, rfl, hstep s call v _ hlinked hP hv hj hI⟩

end step

end CyberNetizen.Tasks
