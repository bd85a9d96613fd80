import CyberNetizen.Tasks.Delivery
import CyberNetizen.Tasks.Lease

namespace CyberNetizen.Tasks

open Domain Cognition Infrastructure Application BackgroundTaskService KeyedTable
  SqlAlchemyTaskRepository

/-- The job of a claim is leased to the owner, and the attempt of the claim runs under its name. -/
structure Leased (owner : String) (claim : JobClaim) (v : JobView) : Prop where
  status : v.job.status = .running
  leaseOwner : v.job.leaseOwner = some owner
  attempt : ∃ attempt ∈ v.attempts, attempt.id = claim.attempt.id ∧ attempt.status = .running ∧
    attempt.workerId = owner

def Holds (s : TaskStore) (owner : String) (claim : JobClaim) : Prop :=
  ∃ v, view s claim.job.id = some v ∧ Leased owner claim v

def Takes (s : TaskStore) (v : JobView) : TaskCall → Prop
  | .completeJob jobId .. | .failJob jobId .. => jobId = v.job.id
  | .recoverExpiredLeases now _ lockedJobs _ =>
    jobExpired now v.job = true ∧ lockedJobs v.job.id = false
  | .cancelScheduledAction tenantId actionId _ =>
    cancelTarget s tenantId actionId = some v.job.id
  | _ => False

section lease

variable {s s' : TaskStore} {call : TaskCall} {v v' : JobView} {owner workerId : String}
  {claim : JobClaim} {now : Datetime}

theorem JobStep.leased (h : JobStep s call v v') (hkeep : ¬Takes s v call)
    (hl : Leased owner claim v) : Leased owner claim v' := by
  obtain ⟨hstatus, howner, hattempt⟩ := hl
  cases h with
  | claim hwaiting => exact absurd hstatus (ne_running_of_waiting hwaiting)
  | claimCanceled hwaiting => exact absurd hstatus (ne_running_of_waiting hwaiting)
  | renew => exact ⟨hstatus, howner, hattempt⟩
  | complete => exact absurd rfl hkeep
  | fail => exact absurd rfl hkeep
  | cancelWaiting _ hidle => exact absurd hstatus hidle
  | cancelRunning => exact ⟨hstatus, howner, hattempt⟩
  | recover hexpired hlocked => exact absurd ⟨hexpired, hlocked⟩ hkeep
  | cancelScheduled _ htarget => exact absurd htarget hkeep

theorem step_holds (hs : Linked s) (h : Holds s owner claim)
    (hkeep : ∀ v, view s claim.job.id = some v → ¬Takes s v call) :
    Holds (step s call).2 owner claim := by
  obtain ⟨v, hv, hleased⟩ := h
  have hview := step_view hs call claim.job.id
  rw [hv] at hview
  generalize hnew : view (step s call).2 claim.job.id = new at hview
  cases hview with
  | same => exact ⟨v, hnew, hleased⟩
  | step hj => exact ⟨_, hnew, hj.leased (hkeep v hv) hleased⟩

theorem Holds.rows (h : Holds s owner claim) :
    ∃ row attempt, s.jobs.find? claim.job.id = some row ∧ row.status = .running ∧
      row.leaseOwner = some owner ∧ s.attempts.find? claim.attempt.id = some attempt ∧
      attempt.jobId = claim.job.id ∧ attempt.status = .running ∧ attempt.workerId = owner := by
  obtain ⟨v, hv, hstatus, howner, attempt, ha, hid, hrunning, hworker⟩ := h
  obtain ⟨hjob, hattempts, -⟩ := view_eq_some.mp hv
  rw [hattempts] at ha
  obtain ⟨hmem, hjobId⟩ := mem_attemptsOf.mp ha
  exact ⟨v.job, attempt, hjob, hstatus, howner, hid ▸ Table.find?_key hmem, hjobId, hrunning,
    hworker⟩

theorem renewJobLease_of_holds (h : Holds s owner claim) :
    renewJobLease claim.job.id claim.attempt.id owner now s =
      (true, setJob s claim.job.id (renewed now)) := by
  obtain ⟨row, attempt, hrow, hstatus, howner, hattempt, -, hrunning, hworker⟩ := h.rows
  unfold renewJobLease
  rw [hrow, hattempt]
  dsimp only
  rw [if_neg]
  simp [hstatus, howner, hrunning, hworker]

theorem renewJobLease_of_ne (h : Holds s owner claim) (hne : workerId ≠ owner) :
    renewJobLease claim.job.id claim.attempt.id workerId now s = (false, s) := by
  obtain ⟨row, attempt, hrow, -, howner, hattempt, -⟩ := h.rows
  unfold renewJobLease
  rw [hrow, hattempt]
  dsimp only
  rw [if_pos]
  refine .inr (.inl ?_)
  rw [howner]
  exact fun he ↦ hne (Option.some.inj he).symm

theorem lockedExecution_of_holds (h : Holds s owner claim) :
    ∃ row attempt, lockedExecution s claim.job.id claim.attempt.id owner =
      (some row, some attempt) ∧ s.jobs.find? claim.job.id = some row ∧
      s.attempts.find? claim.attempt.id = some attempt := by
  obtain ⟨row, attempt, hrow, hstatus, howner, hattempt, hjobId, hrunning, -⟩ := h.rows
  refine ⟨row, attempt, ?_, hrow, hattempt⟩
  unfold lockedExecution
  rw [hrow, hattempt]
  simp [Option.filter, hstatus, howner, hjobId, hrunning]

theorem lockedExecution_of_ne (h : Holds s owner claim) (hne : workerId ≠ owner)
    (attemptId : UUID) : (lockedExecution s claim.job.id attemptId workerId).1 = none := by
  obtain ⟨row, -, hrow, -, howner, -⟩ := h.rows
  unfold lockedExecution
  rw [hrow]
  have hother : owner ≠ workerId := hne.symm
  simp [Option.filter, howner, hother]

/-- A claim leaves the job leased to the owner it was made under. -/
theorem claimJob_holds {jobId attemptId : UUID} {locked : Bool}
    (h : claimJob jobId owner now attemptId locked s = .ok (some claim, s')) :
    claim.job.id = jobId ∧ Holds s' owner claim ∧
      ∃ row, s.jobs.find? jobId = some row ∧ row.status ≠ .running := by
  rcases claimJob_cases h with ⟨hnone, -⟩ | ⟨-, row, hrow, hwaiting, -, -, hcases⟩
  · exact nomatch hnone
  rcases hcases with ⟨hnone, -⟩ | ⟨-, t, hclaim, hinsert, rfl⟩
  · exact nomatch hnone
  obtain rfl := Option.some.inj hclaim
  obtain rfl := Table.key_of_find? hrow
  refine ⟨rfl, ?_, row, hrow, ne_running_of_waiting hwaiting⟩
  have hattempts := attemptsOf_insert hinsert row.id
  obtain ⟨attempts, -, rfl⟩ := TaskStore.insertAttempt_eq_some hinsert
  have hfound : (setInboxRow { setJob s row.id (claimed owner now) with attempts } row .processing
      now).jobs.find? row.id = some (claimed owner now row) := by
    rw [setInboxRow_jobs]
    exact Table.find?_updateWhere_self hrow
  have hself : (newAttempt attemptId owner now (claimed owner now row)).jobId = row.id := rfl
  have hstarted : newAttempt attemptId owner now (claimed owner now row) ∈ attemptsOf
      (setInboxRow { setJob s row.id (claimed owner now) with attempts } row .processing now)
      row.id := by
    rw [attemptsOf_setInboxRow, hattempts, if_pos hself]
    exact List.mem_append_right _ (List.mem_singleton_self _)
  exact ⟨_, view_of_find? hfound, rfl, rfl, _, hstarted, rfl, rfl, rfl⟩

end lease

/-- What `execute` accepts as its identifier it strips for the claim. -/
theorem owner_eq_strip (worker : WorkerId) : worker.owner = strip worker.workerId :=
  eq_strip_of_requiredText worker.accepted

theorem execute_holds {jobId attemptId : UUID} {worker : WorkerId} {locked : Bool} {now : Datetime}
    {s s' : TaskStore} {execution : Execution}
    (h : execute jobId worker attemptId locked now s = (some execution, s')) :
    execution.claim.job.id = jobId ∧ Holds s' (strip execution.workerId) execution.claim ∧
      ∃ row, s.jobs.find? jobId = some row ∧ row.status ≠ .running := by
  unfold execute at h
  cases hclaim : claimJob jobId worker.owner now attemptId locked s with
  | error error =>
    rw [hclaim] at h
    exact nomatch (Prod.mk.inj h).1
  | ok result =>
    obtain ⟨claim, t⟩ := result
    rw [hclaim] at h
    obtain ⟨hsome, rfl⟩ := Prod.mk.inj h
    obtain ⟨claim, rfl, rfl⟩ := Option.map_eq_some_iff.mp hsome
    obtain ⟨hid, hholds, hrow⟩ := claimJob_holds hclaim
    rw [owner_eq_strip worker] at hholds
    exact ⟨hid, hholds, hrow⟩

/-- The calls of an execution reach its job: the lease is renewed, what the handler returns ends the
job and what it raises is recorded. -/
structure SettlesAttempt (s : DeliveryState) (i : ℕ) (execution : Execution) : Prop where
  renewed : ∀ elapsed, ∃ row,
    (deliver s ⟨elapsed, .renew i⟩).2.store.jobs.find? execution.claim.job.id = some row ∧
      row.leaseExpiresAt = some (s.clock + elapsed + seconds row.leaseSeconds)
  returned : ∀ elapsed summary eventId gap,
    let s' := (deliver s ⟨elapsed, .settle i (.result summary) eventId gap⟩).2
    ∃ row row' attempt', s.store.jobs.find? execution.claim.job.id = some row ∧
      s'.store.jobs.find? execution.claim.job.id = some row' ∧
      s'.store.attempts.find? execution.claim.attempt.id = some attempt' ∧
      row'.status = (if row.cancelRequestedAt.isSome then .canceled else .succeeded) ∧
      attempt'.status = (if row.cancelRequestedAt.isSome then .canceled else .succeeded)
  raised : ∀ elapsed errorCode permanent timedOut eventId gap,
    s.store.outboxEvents.find? eventId = none →
    let s' := (deliver s
      ⟨elapsed, .settle i (.raised errorCode permanent timedOut) eventId gap⟩).2
    ∃ row row' attempt', s.store.jobs.find? execution.claim.job.id = some row ∧
      s'.store.jobs.find? execution.claim.job.id = some row' ∧
      s'.store.attempts.find? execution.claim.attempt.id = some attempt' ∧
      row'.status = failStatus permanent row ∧ attempt'.errorCode = some errorCode ∧
      attempt'.status = (if failStatus permanent row = .canceled then .canceled
        else if timedOut then .timedOut else .failed)

section settle

variable {s : TaskStore} {owner workerId errorCode errorSummary : String} {claim : JobClaim}
  {now retryAt : Datetime}

theorem completeJob_of_holds (h : Holds s owner claim) (summary : JsonObject) :
    ∃ row row' attempt', s.jobs.find? claim.job.id = some row ∧
      (completeJob claim.job.id claim.attempt.id owner summary now s).2.jobs.find? claim.job.id =
        some row' ∧
      (completeJob claim.job.id claim.attempt.id owner summary now s).2.attempts.find?
        claim.attempt.id = some attempt' ∧
      row'.status = (if row.cancelRequestedAt.isSome then .canceled else .succeeded) ∧
      attempt'.status = (if row.cancelRequestedAt.isSome then .canceled else .succeeded) := by
  obtain ⟨row, attempt, hlocked, hrow, hattempt⟩ := lockedExecution_of_holds h
  refine ⟨row, completed summary now row,
    attemptCompleted row.cancelRequestedAt.isSome now attempt, hrow, ?_, ?_, rfl, rfl⟩
  · unfold completeJob
    rw [hlocked]
    dsimp only
    rw [setInboxRow_jobs]
    exact Table.find?_updateWhere_self hrow
  · unfold completeJob
    rw [hlocked]
    dsimp only
    rw [setInboxRow_attempts]
    exact Table.find?_updateWhere_self hattempt

theorem completeJob_of_ne (h : Holds s owner claim) (hne : workerId ≠ owner)
    (summary : JsonObject) :
    (completeJob claim.job.id claim.attempt.id workerId summary now s).2 = s := by
  have hlocked := lockedExecution_of_ne h hne claim.attempt.id
  unfold completeJob
  split
  · rename_i he
    rw [he] at hlocked
    exact nomatch hlocked
  · rfl

/-- The retry event meets no constraint of the tables. -/
theorem failJob_of_holds (h : Holds s owner claim) (permanent timedOut : Bool)
    (retry : RetryEvent claim.job.id retryAt)
    (hfresh : s.outboxEvents.find? retry.outbox.id = none) :
    ∃ row row' attempt' t, s.jobs.find? claim.job.id = some row ∧
      (∃ settled, failJob claim.job.id claim.attempt.id owner errorCode errorSummary permanent
        timedOut retryAt retry.outbox now s = .ok (some settled, t)) ∧
      t.jobs.find? claim.job.id = some row' ∧
      t.attempts.find? claim.attempt.id = some attempt' ∧
      row'.status = failStatus permanent row ∧ attempt'.errorCode = some errorCode ∧
      attempt'.status = (if failStatus permanent row = .canceled then .canceled
        else if timedOut then .timedOut else .failed) := by
  obtain ⟨row, attempt, hlocked, hrow, hattempt⟩ := lockedExecution_of_holds h
  have hdone : ∃ settled t, failJob claim.job.id claim.attempt.id owner errorCode errorSummary
      permanent timedOut retryAt retry.outbox now s = .ok (some settled, t) := by
    unfold failJob
    rw [hlocked]
    dsimp only
    split
    · have hinsert : ∃ t, (setAttempt (setJob s claim.job.id
          (failed errorCode errorSummary permanent retryAt now)) claim.attempt.id
            (attemptFailed (failStatus permanent row) timedOut errorCode errorSummary
              now)).insertOutbox retry.outbox = some t := by
        have hjob : (setJob s claim.job.id
            (failed errorCode errorSummary permanent retryAt now)).jobs.find? retry.outbox.jobId =
              some (failed errorCode errorSummary permanent retryAt now row) := by
          rw [retry.requests.jobId]
          exact Table.find?_updateWhere_self hrow
        unfold TaskStore.insertOutbox
        change ∃ t, (if ((setJob s claim.job.id
          (failed errorCode errorSummary permanent retryAt now)).jobs.find?
            retry.outbox.jobId).isNone then none else _) = some t
        rw [hjob, Option.isNone_some, if_neg Bool.false_ne_true]
        cases hinsert : s.outboxEvents.insert? retry.outbox with
        | none =>
          obtain ⟨event, he, hid⟩ := Table.insert?_eq_none.mp hinsert
          exact absurd hid (Table.find?_eq_none.mp hfresh event he)
        | some outboxEvents => exact ⟨_, congrArg _ hinsert⟩
      obtain ⟨t, ht⟩ := hinsert
      rw [ht]
      exact ⟨_, _, rfl⟩
    · split <;> exact ⟨_, _, rfl⟩
  obtain ⟨settled, t, hfail⟩ := hdone
  rcases failJob_cases hfail with ⟨hnone, -⟩ | ⟨row', attempt', u, inboxStatus, error, hlocked', hq,
    -, rfl, -⟩
  · exact nomatch hnone
  · rw [hlocked] at hlocked'
    obtain ⟨hrow', hattempt'⟩ := Prod.mk.inj hlocked'
    obtain rfl := Option.some.inj hrow'
    refine ⟨row, failed errorCode errorSummary permanent retryAt now row,
      attemptFailed (failStatus permanent row) timedOut errorCode errorSummary now attempt, _, hrow,
      ⟨settled, hfail⟩, ?_, ?_, rfl, rfl, rfl⟩
    · rw [setInboxRow_jobs, hq.jobs]
      exact Table.find?_updateWhere_self hrow
    · rw [setInboxRow_attempts, hq.attempts]
      exact Table.find?_updateWhere_self hattempt

theorem failJob_of_ne (h : Holds s owner claim) (hne : workerId ≠ owner)
    (permanent timedOut : Bool) (retryOutbox : OutboxEvent) :
    failJob claim.job.id claim.attempt.id workerId errorCode errorSummary permanent timedOut retryAt
      retryOutbox now s = .ok (none, s) := by
  have hlocked := lockedExecution_of_ne h hne claim.attempt.id
  unfold failJob
  split
  · rename_i he
    rw [he] at hlocked
    exact nomatch hlocked
  · rfl

end settle

section execution

variable {s : DeliveryState} {i : ℕ} {execution : Execution}

theorem deliver_renew (hi : s.executions[i]? = some execution) (elapsed : ℕ) :
    (deliver s ⟨elapsed, .renew i⟩).2.store =
      (renewJobLease execution.claim.job.id execution.claim.attempt.id execution.workerId
        (s.clock + elapsed) s.store).2 := by
  unfold deliver
  dsimp only
  rw [hi]
  rfl

theorem deliver_settle (hi : s.executions[i]? = some execution) (elapsed : ℕ) (outcome : Outcome)
    (eventId : UUID) (gap : ℕ) :
    (deliver s ⟨elapsed, .settle i outcome eventId gap⟩).2.store =
      (step s.store (settlement execution outcome eventId (s.clock + elapsed)
        (s.clock + elapsed + gap) (Nat.le_add_right _ _))).2 := by
  unfold deliver
  dsimp only
  rw [hi]

/-- An execution whose identifier is the one its claim was made under reaches its job. -/
theorem settles_of_eq (hi : s.executions[i]? = some execution)
    (hholds : Holds s.store (strip execution.workerId) execution.claim)
    (heq : strip execution.workerId = execution.workerId) : SettlesAttempt s i execution := by
  rw [heq] at hholds
  refine ⟨fun elapsed ↦ ?_, fun elapsed summary eventId gap ↦ ?_,
    fun elapsed errorCode permanent timedOut eventId gap hfresh ↦ ?_⟩
  · obtain ⟨row, -, hrow, -⟩ := hholds.rows
    refine ⟨renewed (s.clock + elapsed) row, ?_, rfl⟩
    rw [deliver_renew hi, renewJobLease_of_holds hholds]
    exact Table.find?_updateWhere_self hrow
  · dsimp only
    rw [deliver_settle hi]
    exact completeJob_of_holds hholds summary
  · dsimp only
    rw [deliver_settle hi]
    obtain ⟨row, row', attempt', t, hrow, ⟨settled, hfail⟩, hrow', hattempt', hspec⟩ :=
      failJob_of_holds hholds permanent timedOut
        (retryEvent execution.claim.job eventId (s.clock + elapsed) (s.clock + elapsed + gap)
          (Nat.le_add_right _ _)) hfresh
    refine ⟨row, row', attempt', hrow, ?_, ?_, hspec⟩
    · dsimp only [settlement, step]
      rw [hfail]
      exact hrow'
    · dsimp only [settlement, step]
      rw [hfail]
      exact hattempt'

theorem refused_of_ne (hi : s.executions[i]? = some execution)
    (hholds : Holds s.store (strip execution.workerId) execution.claim)
    (hne : strip execution.workerId ≠ execution.workerId) :
    (∀ elapsed, (deliver s ⟨elapsed, .renew i⟩).2.store = s.store) ∧
      ∀ elapsed outcome eventId gap,
        (deliver s ⟨elapsed, .settle i outcome eventId gap⟩).2.store = s.store := by
  refine ⟨fun elapsed ↦ ?_, fun elapsed outcome eventId gap ↦ ?_⟩
  · rw [deliver_renew hi, renewJobLease_of_ne hholds hne.symm]
  · rw [deliver_settle hi]
    cases outcome with
    | result summary => exact completeJob_of_ne hholds hne.symm summary
    | raised errorCode permanent timedOut =>
      dsimp only [settlement, step]
      rw [failJob_of_ne hholds hne.symm]
      rfl

theorem settles_iff (hi : s.executions[i]? = some execution)
    (hholds : Holds s.store (strip execution.workerId) execution.claim) :
    SettlesAttempt s i execution ↔ strip execution.workerId = execution.workerId := by
  constructor
  · intro hsettles
    by_contra hne
    obtain ⟨-, hrefused⟩ := refused_of_ne hi hholds hne
    obtain ⟨row, row', -, hrow, hrow', -, hstatus, -⟩ := hsettles.returned 0 [] 0 0
    rw [hrefused] at hrow'
    obtain rfl := Option.some.inj (hrow.symm.trans hrow')
    -- the job still runs, which no settled job does
    obtain ⟨held, -, hheld, hrunning, -⟩ := hholds.rows
    obtain rfl := Option.some.inj (hrow.symm.trans hheld)
    rw [hrunning] at hstatus
    split at hstatus <;> exact nomatch hstatus
  · exact settles_of_eq hi hholds

end execution

/-- The events a call of `publish_due` has claimed and not yet marked, in its order. -/
def unmarked (publishing : Publishing) : List OutboxEvent :=
  match publishing.phase with
  | .next events => events
  | .dispatched event events | .raised event _ events | .failing event _ _ events =>
    event :: events

def marking (publishing : Publishing) : Option OutboxEvent :=
  (returning publishing).or (sent publishing)

def HoldsEvent (s : TaskStore) (owner : String) (event : OutboxEvent) : Prop :=
  ∃ row, s.outboxEvents.find? event.id = some row ∧ row.status = .publishing ∧
    row.leaseOwner = some owner

/-- What a call makes of an event: published after its dispatch, else returned or given up. -/
def markedAs (publishing : Publishing) (status : OutboxEventStatus) : Prop :=
  if (sent publishing).isSome then status = .published
  else status = .retrying ∨ status = .deadLetter

def Marks (s : DeliveryState) (i : ℕ) (publishing : Publishing) (event : OutboxEvent) : Prop :=
  ∀ elapsed failure, ∃ row,
    (deliver s ⟨elapsed, .publish i failure⟩).2.store.outboxEvents.find? event.id = some row ∧
      markedAs publishing row.status

section publishing

variable {p : Publishing} {event : OutboxEvent} {failure : Option String} {now : Datetime}
  {s : TaskStore}

theorem markedAs_released (h : sent p = none) (errorCode : String) (retryAt : Datetime)
    (row : OutboxEvent) : markedAs p (released errorCode retryAt now row).status := by
  unfold markedAs
  rw [if_neg (by simp [h])]
  dsimp only [released]
  split
  · exact .inr rfl
  · exact .inl rfl

/-- A step of a call marks the first of its events, which the call is then done with, or does no
marking and keeps them all. -/
theorem publish_marks (p : Publishing) (failure : Option String) (now : Datetime) (s : TaskStore) :
    (publish p failure now s).1.workerId = p.workerId ∧
      (marking p = none ∧ (publish p failure now s).2.2 = s ∧
        unmarked (publish p failure now s).1 = unmarked p ∨
      ∃ event f, marking p = some event ∧
        unmarked p = event :: unmarked (publish p failure now s).1 ∧
        (publish p failure now s).2.2 = { s with
          outboxEvents := s.outboxEvents.updateWhere (heldBy event.id p.workerId) f } ∧
        ∀ row, markedAs p (f row).status) := by
  obtain ⟨workerId, retryBaseSeconds, started, count, phase⟩ := p
  cases phase with
  | next events =>
    cases events with
    | nil => exact ⟨rfl, .inl ⟨rfl, rfl, rfl⟩⟩
    | cons event events =>
      unfold publish marking returning
      dsimp only
      cases hqueue : queueOf event with
      | none =>
        exact ⟨rfl, .inr ⟨event, released "InvalidQueue" started now, rfl, rfl, rfl,
          markedAs_released rfl _ _⟩⟩
      | some queue =>
        cases failure with
        | none => exact ⟨rfl, .inl ⟨rfl, rfl, rfl⟩⟩
        | some errorCode => exact ⟨rfl, .inl ⟨rfl, rfl, rfl⟩⟩
  | dispatched event events =>
    refine ⟨rfl, .inr ⟨event, published now, rfl, rfl, rfl, fun row ↦ ?_⟩⟩
    simp [markedAs, sent, published]
  | raised event errorCode events => exact ⟨rfl, .inl ⟨rfl, rfl, rfl⟩⟩
  | failing event errorCode retryAt events =>
    exact ⟨rfl, .inr ⟨event, released errorCode retryAt now, rfl, rfl, rfl,
      markedAs_released rfl _ _⟩⟩

theorem heldBy_iff {owner : String} {row : OutboxEvent} (hid : row.id = event.id)
    (hstatus : row.status = .publishing) (howner : row.leaseOwner = some owner) :
    heldBy event.id p.workerId row = true ↔ owner = p.workerId := by
  unfold heldBy
  simp [hid, hstatus, howner]

/-- Only an event leased under the identifier that the call gives is marked. -/
theorem marks_iff {s : DeliveryState} {i : ℕ} (hi : s.publishers[i]? = some p)
    (hmarking : marking p = some event)
    (hholds : HoldsEvent s.store (strip p.workerId) event) :
    Marks s i p event ↔ strip p.workerId = p.workerId := by
  obtain ⟨row, hrow, hstatus, howner⟩ := hholds
  have hheld := @heldBy_iff p event _ row (Table.key_of_find? hrow) hstatus howner
  have hstep : ∀ elapsed failure, ∃ f : Update OutboxEvent.id,
      (deliver s ⟨elapsed, .publish i failure⟩).2.store.outboxEvents.find? event.id =
        some (if heldBy event.id p.workerId row then f row else row) ∧
      markedAs p (f row).status := by
    intro elapsed failure
    have hdeliver : (deliver s ⟨elapsed, .publish i failure⟩).2.store =
        (publish p failure (s.clock + elapsed) s.store).2.2 := by
      unfold deliver
      dsimp only
      rw [hi]
    obtain ⟨-, ⟨hnone, -⟩ | ⟨event', f, hmarked, -, hstore, hf⟩⟩ :=
      publish_marks p failure (s.clock + elapsed) s.store
    · rw [hmarking] at hnone
      exact nomatch hnone
    · obtain rfl := Option.some.inj (hmarking.symm.trans hmarked)
      refine ⟨f, ?_, hf row⟩
      rw [hdeliver, hstore, Table.find?_updateWhere, hrow]
      rfl
  constructor
  · intro hmarks
    by_contra hne
    obtain ⟨f, hfound, -⟩ := hstep 0 none
    obtain ⟨row', hrow', hmarked⟩ := hmarks 0 none
    rw [if_neg fun he ↦ hne (hheld.mp he)] at hfound
    obtain rfl := Option.some.inj (hfound.symm.trans hrow')
    unfold markedAs at hmarked
    rw [hstatus] at hmarked
    split at hmarked
    · exact nomatch hmarked
    · rcases hmarked with h | h <;> exact nomatch h
  · intro heq elapsed failure
    obtain ⟨f, hfound, hmarked⟩ := hstep elapsed failure
    rw [if_pos (hheld.mpr heq)] at hfound
    exact ⟨f row, hfound, hmarked⟩

end publishing

/-- No action takes the lease of a call under way: the recovery finds none of them expired, and no
cancellation of a scheduled action ends a job under its execution. -/
def SparesLeases (s : DeliveryState) (input : DeliveryInput) : Prop :=
  let now := s.clock + input.elapsed
  match input.action with
  | .request (.recoverExpired _ lockedJobs lockedEvents) =>
    (∀ execution ∈ s.executions, ∀ row ∈ s.store.jobs.find? execution.claim.job.id,
      (jobExpired now row && !lockedJobs row.id) = false) ∧
    ∀ p ∈ s.publishers, ∀ event ∈ unmarked p, ∀ row ∈ s.store.outboxEvents.find? event.id,
      recoverable now lockedEvents row = false
  | .request (.cancelAction tenantId actionId) =>
    ∀ execution ∈ s.executions,
      cancelTarget s.store tenantId actionId ≠ some execution.claim.job.id
  | _ => True

instance (s : DeliveryState) : (input : DeliveryInput) → Decidable (SparesLeases s input)
  | ⟨_, .request (.recoverExpired _ _ _)⟩ => inferInstanceAs (Decidable (_ ∧ _))
  | ⟨_, .request (.cancelAction _ _)⟩ => inferInstanceAs (Decidable (∀ execution ∈ _, _))
  | ⟨_, .request (.enqueue _)⟩ | ⟨_, .request (.cancel _ _)⟩ | ⟨_, .request (.replay _ _ _)⟩
  | ⟨_, .request (.createAction _)⟩ | ⟨_, .request (.decideAction _ _ _ _ _)⟩
  | ⟨_, .publishDue _ _ _ _ _ _⟩ | ⟨_, .publish _ _⟩ | ⟨_, .execute _ _ _ _ _⟩ | ⟨_, .renew _⟩
  | ⟨_, .settle _ _ _ _⟩ => .isTrue trivial

/-- Every call under way holds what it has claimed, and no two have claimed the same. -/
structure Identified (s : DeliveryState) : Prop where
  linked : Linked s.store
  holds : ∀ execution ∈ s.executions,
    Holds s.store (strip execution.workerId) execution.claim
  jobs : (s.executions.map (·.claim.job.id)).Nodup
  held : ∀ p ∈ s.publishers, ∀ event ∈ unmarked p,
    HoldsEvent s.store (strip p.workerId) event
  events : ((s.publishers.flatMap unmarked).map OutboxEvent.id).Nodup

theorem identified_empty : Identified .empty where
  linked := linked_empty
  holds _ h := absurd h List.not_mem_nil
  jobs := List.nodup_nil
  held _ h := absurd h List.not_mem_nil
  events := List.nodup_nil

def KeepsPublishing (s s' : TaskStore) : Prop :=
  ∀ row ∈ s.outboxEvents, row.status = .publishing → row ∈ s'.outboxEvents

section invariant

variable {s : DeliveryState} {t : TaskStore} {i : ℕ} {p p' : Publishing} {call : TaskCall}

theorem Announces.keepsPublishing {s s' : TaskStore} (h : Announces s s') : KeepsPublishing s s' :=
  fun row hrow _ ↦ h.kept row hrow

theorem KeepsPublishing.of_canceled {s s' : TaskStore} {jobId : UUID} {now : Datetime}
    (h : s'.outboxEvents = s.outboxEvents.updateWhere
      (fun row ↦ row.jobId = jobId && outboxClaimable row.status) (outboxCanceled now)) :
    KeepsPublishing s s' := by
  intro row hrow hstatus
  rw [h]
  refine Table.mem_updateWhere.mpr ⟨row, hrow, if_neg ?_⟩
  simp [hstatus, outboxClaimable]

theorem requestCancel_keepsPublishing {s : TaskStore} {tenantId jobId : UUID} {now : Datetime} :
    KeepsPublishing s (requestCancel tenantId jobId now s).2 := by
  unfold requestCancel
  split
  · exact fun _ hrow _ ↦ hrow
  split
  · exact fun _ hrow _ ↦ hrow
  split
  · exact fun _ hrow _ ↦ hrow
  split
  · exact .of_canceled (setInboxRow_outboxEvents ..)
  · exact fun _ hrow _ ↦ hrow

theorem cancelScheduledAction_keepsPublishing {s : TaskStore} {tenantId actionId : UUID}
    {now : Datetime} : KeepsPublishing s (cancelScheduledAction tenantId actionId now s).2 := by
  unfold cancelScheduledAction
  split
  · exact fun _ hrow _ ↦ hrow
  split
  · exact fun _ hrow _ ↦ hrow
  dsimp only
  split
  · exact fun _ hrow _ ↦ hrow
  split
  · exact fun _ hrow _ ↦ hrow
  · exact .of_canceled rfl

theorem claimOutbox_keepsPublishing {s : TaskStore} {owner : String} {now expiry : Datetime}
    {count : ℕ} {rank : UUID → ℕ} {locked : UUID → Bool} :
    KeepsPublishing s (claimOutbox owner now expiry count rank locked s).2 := by
  intro row hrow hstatus
  obtain ⟨row', hrow', rfl | ⟨hdue, -⟩⟩ := claimOutbox_row owner now expiry count rank locked hrow
  · exact hrow'
  · simp [outboxDue, hstatus, outboxClaimable] at hdue

theorem KeepsPublishing.holdsEvent {s s' : TaskStore} (h : KeepsPublishing s s') {owner : String}
    {event : OutboxEvent} (hheld : HoldsEvent s owner event) : HoldsEvent s' owner event := by
  obtain ⟨row, hrow, hstatus, howner⟩ := hheld
  have hid := Table.key_of_find? hrow
  refine ⟨row, ?_, hstatus, howner⟩
  rw [← hid]
  exact Table.find?_key (h row (Table.mem_of_find? hrow) hstatus)

theorem Identified.step (h : Identified s) (call : TaskCall)
    (hheld : ∀ p ∈ s.publishers, ∀ event ∈ unmarked p,
      HoldsEvent (step s.store call).2 (strip p.workerId) event)
    (htakes : ∀ execution ∈ s.executions, ∀ v,
      view s.store execution.claim.job.id = some v → ¬Takes s.store v call) :
    Identified { s with store := (step s.store call).2 } where
  linked := step_linked h.linked call
  holds execution he := step_holds h.linked (h.holds execution he) (htakes execution he)
  jobs := h.jobs
  held := hheld
  events := h.events

theorem Identified.heldAfter (h : Identified s) (hkept : KeepsPublishing s.store t) :
    ∀ p ∈ s.publishers, ∀ event ∈ unmarked p, HoldsEvent t (strip p.workerId) event :=
  fun p hp event he ↦ hkept.holdsEvent (h.held p hp event he)

theorem Identified.later (h : Identified s) (clock : Datetime)
    (messages : List BackgroundTaskService.Message) :
    Identified { s with clock, messages } :=
  ⟨h.linked, h.holds, h.jobs, h.held, h.events⟩

theorem Identified.erase (h : Identified s) (i : ℕ) :
    Identified { s with executions := s.executions.eraseIdx i } where
  linked := h.linked
  holds execution he := h.holds execution (List.mem_of_mem_eraseIdx he)
  jobs := h.jobs.sublist ((List.eraseIdx_sublist ..).map _)
  held := h.held
  events := h.events

theorem flatMap_set_perm (marked : List OutboxEvent) {publishers : List Publishing}
    (hi : publishers[i]? = some p) (h : unmarked p = marked ++ unmarked p') :
    (publishers.flatMap unmarked).Perm (marked ++ (publishers.set i p').flatMap unmarked) := by
  induction publishers generalizing i with
  | nil => exact nomatch hi
  | cons q publishers ih =>
    cases i with
    | zero =>
      obtain rfl := Option.some.inj hi
      rw [List.set_cons_zero, List.flatMap_cons, List.flatMap_cons, h, List.append_assoc]
    | succ i =>
      rw [List.set_cons_succ, List.flatMap_cons, List.flatMap_cons]
      have hrest := (ih hi).append_left (unmarked q)
      refine hrest.trans ?_
      rw [← List.append_assoc, ← List.append_assoc]
      exact List.perm_append_comm.append_right _

/-- The calls of the services leave the events under publication that the recovery does not find
expired. -/
theorem serviceCall_keepsPublishing {s : TaskStore} {now : Datetime} (call : ServiceCall)
    (h : ∀ freshId lockedJobs lockedEvents, call ≠ .recoverExpired freshId lockedJobs lockedEvents) :
    KeepsPublishing s (SqlAlchemyTaskRepository.step s (call.call now)).2 := by
  have hreply : ∀ {α : Type} {f : α → TaskReply} {x : Transaction α},
      (∀ a t, x = .ok (a, t) → Announces s t) → KeepsPublishing s (reply s f x).2 := fun hx ↦
    (reply_state (P := Announces s) .refl hx).keepsPublishing
  cases call with
  | enqueue request => exact hreply fun _ _ ht ↦ enqueue_announces request ht
  | cancel tenantId jobId => exact requestCancel_keepsPublishing
  | replay tenantId sourceJobId request => exact hreply fun _ _ ht ↦ replay_announces request ht
  | recoverExpired freshId lockedJobs lockedEvents => exact absurd rfl (h _ _ _)
  | createAction request => exact hreply fun _ _ ht ↦ createScheduledAction_announces request ht
  | cancelAction tenantId actionId => exact cancelScheduledAction_keepsPublishing
  | decideAction tenantId actionId decision budgetUsage dailyBudget =>
    exact hreply fun _ _ ht ↦ decideScheduledAction_announces ht

theorem recoverExpiredLeases_holdsEvent {s : TaskStore} {now : Datetime} {freshId : UUID → UUID}
    {lockedJobs lockedEvents : UUID → Bool} {owner : String} {event : OutboxEvent}
    (hheld : HoldsEvent s owner event)
    (hspared : ∀ row ∈ s.outboxEvents.find? event.id, recoverable now lockedEvents row = false) :
    HoldsEvent (SqlAlchemyTaskRepository.step s
      (.recoverExpiredLeases now freshId lockedJobs lockedEvents)).2 owner event := by
  refine reply_state (P := fun t ↦ HoldsEvent t owner event) hheld fun count t ht ↦ ?_
  obtain ⟨u, hannounces, rfl⟩ := recoverExpiredLeases_announces ht
  obtain ⟨row, hrow, hstatus, howner⟩ := hannounces.keepsPublishing.holdsEvent hheld
  obtain ⟨old, hold, holdStatus, -⟩ := hheld
  have hsame : row = old := by
    have hkept := hannounces.kept old (Table.mem_of_find? hold)
    exact Table.eq_of_key_eq (Table.mem_of_find? hrow) hkept
      ((Table.key_of_find? hrow).trans (Table.key_of_find? hold).symm)
  refine ⟨row, ?_, hstatus, howner⟩
  rw [Table.find?_updateWhere, hrow, Option.map_some, hsame, hspared old hold]
  rfl

theorem Identified.request (h : Identified s) (call : ServiceCall) {elapsed : ℕ}
    (hspares : SparesLeases s ⟨elapsed, .request call⟩) :
    Identified { s with
      store := (SqlAlchemyTaskRepository.step s.store (call.call (s.clock + elapsed))).2 } := by
  refine h.step _ ?_ fun execution he v hv ↦ ?_
  · cases call with
    | recoverExpired freshId lockedJobs lockedEvents =>
      intro p hp event he
      exact recoverExpiredLeases_holdsEvent (h.held p hp event he) (hspares.2 p hp event he)
    | enqueue | cancel | replay | createAction | cancelAction | decideAction =>
      exact h.heldAfter (serviceCall_keepsPublishing _ nofun)
  · cases call with
    | recoverExpired freshId lockedJobs lockedEvents =>
      rintro ⟨hexpired, hlocked⟩
      have hspared := hspares.1 execution he v.job (view_eq_some.mp hv).1
      rw [hexpired, hlocked] at hspared
      exact nomatch hspared
    | cancelAction tenantId actionId =>
      intro htarget
      have hcanceled : cancelTarget s.store tenantId actionId = some v.job.id := htarget
      rw [view_id hv] at hcanceled
      exact hspares execution he hcanceled
    | enqueue | cancel | replay | createAction | decideAction => exact id

theorem claimOutbox_claimed {s : TaskStore} {owner : String} {now expiry : Datetime} {count : ℕ}
    {rank : UUID → ℕ} {locked : UUID → Bool} {event : OutboxEvent}
    (h : event ∈ (claimOutbox owner now expiry count rank locked s).1) :
    event ∈ (claimOutbox owner now expiry count rank locked s).2.outboxEvents := by
  obtain ⟨old, hold, rfl⟩ := List.mem_map.mp h
  refine Table.mem_updateWhere.mpr ⟨old, (outboxDue_of_mem hold).1, ?_⟩
  rw [if_pos]
  exact decide_eq_true (List.mem_map_of_mem hold)

theorem claimOutbox_nodup {s : TaskStore} {owner : String} {now expiry : Datetime} {count : ℕ}
    {rank : UUID → ℕ} {locked : UUID → Bool} :
    ((claimOutbox owner now expiry count rank locked s).1.map OutboxEvent.id).Nodup := by
  have hrows : (((s.outboxEvents.rows.filter fun row ↦ outboxDue now row &&
      !locked row.id).mergeSort (outboxLe rank)).map OutboxEvent.id).Nodup :=
    ((List.mergeSort_perm _ _).map _).nodup_iff.mpr
      (s.outboxEvents.nodup.sublist (List.filter_sublist.map _))
  have htaken := hrows.sublist ((List.take_sublist count _).map OutboxEvent.id)
  unfold claimOutbox
  rw [List.map_map]
  exact htaken

theorem Identified.publishDue (h : Identified s) {owner : String} {expiry : Datetime} {count : ℕ}
    {rank : UUID → ℕ} {locked : UUID → Bool} (howner : owner = strip p.workerId)
    (hp : p.phase = .next (claimOutbox owner s.clock expiry count rank locked s.store).1) :
    Identified { s with
      store := (claimOutbox owner s.clock expiry count rank locked s.store).2
      publishers := s.publishers ++ [p] } := by
  have hkept : KeepsPublishing s.store (claimOutbox owner s.clock expiry count rank locked s.store).2 :=
    claimOutbox_keepsPublishing
  have hclaim := h.step (.claimOutbox owner s.clock expiry count rank locked) (h.heldAfter hkept)
    fun _ _ _ _ htakes ↦ htakes
  have hunmarked : unmarked p = (claimOutbox owner s.clock expiry count rank locked s.store).1 := by
    rw [unmarked, hp]
  refine ⟨hclaim.linked, hclaim.holds, h.jobs, fun q hq event hevent ↦ ?_, ?_⟩
  · rcases List.mem_append.mp hq with hq | hq
    · exact hclaim.held q hq event hevent
    · obtain rfl := List.mem_singleton.mp hq
      rw [hunmarked] at hevent
      obtain ⟨old, -, -, heq⟩ := claimOutbox_mem hevent
      refine ⟨event, Table.find?_key (claimOutbox_claimed hevent), ?_, ?_⟩
      · rw [heq]
        rfl
      · rw [heq, ← howner]
        rfl
  · rw [List.flatMap_append, List.map_append, List.flatMap_singleton, hunmarked]
    refine List.nodup_append.mpr ⟨h.events, claimOutbox_nodup, fun id hid id' hid' heq ↦ ?_⟩
    subst heq
    -- an event of an older call is under publication, one that is claimed was not
    obtain ⟨event, hevent, rfl⟩ := List.mem_map.mp hid
    obtain ⟨q, hq, hmem⟩ := List.mem_flatMap.mp hevent
    obtain ⟨row, hrow, hstatus, -⟩ := h.held q hq event hmem
    obtain ⟨event', hevent', hsame⟩ := List.mem_map.mp hid'
    obtain ⟨old, hold, hdue, rfl⟩ := claimOutbox_mem hevent'
    have he : old = row := Table.eq_of_key_eq hold (Table.mem_of_find? hrow)
      (hsame.trans (Table.key_of_find? hrow).symm)
    rw [he] at hdue
    simp [outboxDue, hstatus, outboxClaimable] at hdue

/-- A step of a call of `publish_due`. -/
theorem Identified.publish (h : Identified s) (hi : s.publishers[i]? = some p)
    (failure : Option String) (now : Datetime) :
    Identified { s with
      store := (publish p failure now s.store).2.2
      publishers := s.publishers.set i (publish p failure now s.store).1 } := by
  obtain ⟨hworker, hcases⟩ := publish_marks p failure now s.store
  have hmem := List.mem_of_getElem? hi
  rcases hcases with ⟨-, hstore, hkept⟩ | ⟨event, f, -, hunmarked, hstore, -⟩
  · have hperm := flatMap_set_perm [] hi hkept.symm
    rw [hstore]
    refine ⟨h.linked, h.holds, h.jobs, fun q hq e he ↦ ?_, ?_⟩
    · rcases List.mem_or_eq_of_mem_set hq with hq | rfl
      · exact h.held q hq e he
      · rw [hworker]
        rw [hkept] at he
        exact h.held p hmem e he
    · exact (hperm.map OutboxEvent.id).nodup_iff.mp h.events
  · have hperm := flatMap_set_perm [event] hi hunmarked
    have hnodup := (hperm.map OutboxEvent.id).nodup_iff.mp h.events
    obtain ⟨hfirst, hrest⟩ := List.nodup_cons.mp hnodup
    -- the other events are under publication still, being other rows
    have hother : ∀ q ∈ s.publishers.set i (BackgroundTaskService.publish p failure now s.store).1,
        ∀ e ∈ unmarked q, ∀ owner, HoldsEvent s.store owner e →
          HoldsEvent (BackgroundTaskService.publish p failure now s.store).2.2 owner e := by
      rintro q hq e he owner ⟨row, hrow, hheld⟩
      refine ⟨row, ?_, hheld⟩
      have hne : row.id ≠ event.id := by
        rw [Table.key_of_find? hrow]
        rintro hsame
        exact hfirst (hsame ▸ List.mem_map_of_mem (List.mem_flatMap.mpr ⟨q, hq, he⟩))
      rw [hstore, Table.find?_updateWhere, hrow, Option.map_some, if_neg]
      simp [heldBy, hne]
    have hquiet : Quiet s.store (BackgroundTaskService.publish p failure now s.store).2.2 := by
      rw [hstore]
      exact ⟨rfl, rfl, rfl, fun action ha ↦ ⟨action, ha, rfl⟩⟩
    refine ⟨hquiet.linked h.linked, fun execution he ↦ ?_, h.jobs, fun q hq e he ↦ ?_, hrest⟩
    · obtain ⟨v, hv, hleased⟩ := h.holds execution he
      exact ⟨v, (hquiet.view _).trans hv, hleased⟩
    · refine hother q hq e he _ ?_
      rcases List.mem_or_eq_of_mem_set hq with hq | rfl
      · exact h.held q hq e he
      · rw [hworker]
        exact h.held p hmem e (hunmarked ▸ List.mem_cons_of_mem event he)

theorem Identified.execute (h : Identified s) {jobId attemptId : UUID} {worker : WorkerId}
    {locked : Bool} {now : Datetime} {execution : Option Execution}
    (hexecute : BackgroundTaskService.execute jobId worker attemptId locked now s.store =
      (execution, t)) :
    Identified { s with store := t, executions := s.executions ++ execution.toList } := by
  have hstore : t = (SqlAlchemyTaskRepository.step s.store
      (.claimJob jobId worker.owner now attemptId locked)).2 := by
    rw [← execute_store, hexecute]
  have hkept : KeepsPublishing s.store (SqlAlchemyTaskRepository.step s.store
      (.claimJob jobId worker.owner now attemptId locked)).2 :=
    (reply_state (P := Announces s.store) .refl fun _ _ ht ↦ claimJob_announces ht).keepsPublishing
  have hclaim := h.step (.claimJob jobId worker.owner now attemptId locked) (h.heldAfter hkept)
    fun _ _ _ _ htakes ↦ htakes
  rw [← hstore] at hclaim
  cases execution with
  | none =>
    rw [Option.toList_none, List.append_nil]
    exact hclaim
  | some execution =>
    obtain ⟨hid, hholds, row, hrow, hidle⟩ := execute_holds hexecute
    refine ⟨hclaim.linked, fun other hother ↦ ?_, ?_, hclaim.held, h.events⟩
    · rcases List.mem_append.mp hother with hother | hother
      · exact hclaim.holds other hother
      · obtain rfl := List.mem_singleton.mp hother
        exact hholds
    · rw [List.map_append]
      refine List.nodup_append.mpr ⟨h.jobs, List.nodup_singleton _, fun id hmem id' hid' heq ↦ ?_⟩
      obtain ⟨other, hother, rfl⟩ := List.mem_map.mp hmem
      obtain rfl := List.mem_singleton.mp hid'
      -- the job of an older execution runs, the one that is claimed did not
      obtain ⟨held, -, hheld, hrunning, -⟩ := (h.holds other hother).rows
      have hjob : other.claim.job.id = jobId := heq.trans hid
      rw [hjob, hrow] at hheld
      exact hidle (Option.some.inj hheld ▸ hrunning)

theorem settlement_takes {execution : Execution} {outcome : Outcome} {eventId : UUID}
    {now later : Datetime} {hlater : now ≤ later} {s : TaskStore} {v : JobView}
    (h : Takes s v (settlement execution outcome eventId now later hlater)) :
    execution.claim.job.id = v.job.id := by
  cases outcome with
  | result summary => exact h
  | raised errorCode permanent timedOut => exact h

/-- The last call of an execution, which is then over. -/
theorem Identified.settle (h : Identified s) {execution : Execution}
    (hi : s.executions[i]? = some execution) (outcome : Outcome) (eventId : UUID)
    {now later : Datetime} (hlater : now ≤ later) :
    Identified { s with
      store := (SqlAlchemyTaskRepository.step s.store
        (settlement execution outcome eventId now later hlater)).2
      executions := s.executions.eraseIdx i } := by
  have hkept : KeepsPublishing s.store (SqlAlchemyTaskRepository.step s.store
      (settlement execution outcome eventId now later hlater)).2 := by
    refine Announces.keepsPublishing ?_
    cases outcome with
    | result summary => exact completeJob_announces
    | raised errorCode permanent timedOut =>
      exact reply_state (P := Announces s.store) .refl fun _ _ ht ↦
        failJob_announces (retryEvent execution.claim.job eventId now later hlater) ht
  refine (h.erase i).step _ (h.heldAfter hkept) fun other hother v hv htakes ↦ ?_
  -- the executions have claimed different jobs
  obtain ⟨j, hji, hj⟩ := List.mem_eraseIdx_iff_getElem?.mp hother
  have hsame : other.claim.job.id = execution.claim.job.id :=
    (view_id hv).symm.trans (settlement_takes htakes).symm
  have hlength : j < (s.executions.map (·.claim.job.id)).length := by
    rw [List.length_map]
    exact (List.getElem?_eq_some_iff.mp hj).1
  refine hji ((List.getElem?_inj hlength h.jobs).mp ?_)
  rw [List.getElem?_map, List.getElem?_map, hj, hi, Option.map_some, Option.map_some, hsame]

theorem deliver_identified {input : DeliveryInput} (h : Identified s)
    (hspares : SparesLeases s input) : Identified (deliver s input).2 := by
  obtain ⟨elapsed, action⟩ := input
  have hnow : Identified { s with clock := s.clock + elapsed } :=
    h.later (s.clock + elapsed) s.messages
  cases action with
  | request call => exact (h.request call hspares).later _ s.messages
  | publishDue workerId leaseSeconds retryBaseSeconds maximum rank locked =>
    dsimp only [deliver]
    split
    · exact hnow
    · rename_i p t hpublish
      obtain ⟨owner, expiry, count, howner, rfl, rfl⟩ := publishDue_eq_ok hpublish
      exact hnow.publishDue howner rfl
  | publish i failure =>
    dsimp only [deliver]
    split
    · exact hnow
    · rename_i p hp
      exact (hnow.publish hp failure _).later _ _
  | execute i worker attemptId locked acknowledged =>
    dsimp only [deliver]
    split
    · exact hnow
    · split
      · exact hnow
      · exact (hnow.execute (Prod.mk.eta.symm)).later _ _
  | renew i =>
    dsimp only [deliver]
    split
    · exact hnow
    · exact hnow.step _ (hnow.heldAfter renewJobLease_announces.keepsPublishing)
        fun _ _ _ _ htakes ↦ htakes
  | settle i outcome eventId gap =>
    dsimp only [deliver]
    split
    · exact hnow
    · rename_i execution hexecution
      exact (hnow.settle hexecution outcome eventId (Nat.le_add_right ..)).later _ _

end invariant

/-- The identity of a worker is one string from the claim to the mark exactly if it has no space
around it. In a run that takes no lease of a call under way, each execution renews and settles its
job under this condition and never otherwise, each call of `publish_due` marks its events so, and
is done with an event only by marking it. -/
theorem worker_identity_iff (inputs : List DeliveryInput)
    (h : Machine.Along deliver SparesLeases .empty inputs) :
    let s := Machine.run deliver .empty inputs
    (∀ i execution, s.executions[i]? = some execution →
      (SettlesAttempt s i execution ↔ strip execution.workerId = execution.workerId)) ∧
    ∀ i p, s.publishers[i]? = some p →
      (∀ event, marking p = some event →
        (Marks s i p event ↔ strip p.workerId = p.workerId)) ∧
      ∀ failure now, ∀ event ∈ unmarked p,
        event ∈ unmarked (publish p failure now s.store).1 ∨ marking p = some event := by
  have hidentified : Identified (Machine.run deliver .empty inputs) :=
    Machine.run_invariant (fun _ _ hs hP ↦ deliver_identified hs hP) identified_empty h
  refine ⟨fun i execution hi ↦ ?_, fun i p hi ↦ ⟨fun event hmarking ↦ ?_,
    fun failure now event hevent ↦ ?_⟩⟩
  · exact settles_iff hi (hidentified.holds execution (List.mem_of_getElem? hi))
  · refine marks_iff hi hmarking
      (hidentified.held p (List.mem_of_getElem? hi) event ?_)
    obtain ⟨-, ⟨hnone, -⟩ | ⟨event', f, hmarked, hunmarked, -⟩⟩ := publish_marks p none 0
      (Machine.run deliver .empty inputs).store
    · rw [hmarking] at hnone
      exact nomatch hnone
    · rw [hunmarked, Option.some.inj (hmarking.symm.trans hmarked)]
      exact List.mem_cons_self
  · obtain ⟨-, ⟨-, -, hkept⟩ | ⟨event', f, hmarked, hunmarked, -⟩⟩ := publish_marks p failure now
      (Machine.run deliver .empty inputs).store
    · rw [hkept]
      exact .inl hevent
    · rw [hunmarked] at hevent
      rcases List.mem_cons.mp hevent with rfl | hrest
      · exact .inr hmarked
      · exact .inl hrest

def oneExecution (publisher : String) (worker : WorkerId) : List DeliveryInput :=
  [⟨0, .request (.enqueue (reflectionRequest 1 2 5 five_attempts))⟩,
    ⟨1, .publishDue publisher 30 5 100 (fun _ ↦ 0) (fun _ ↦ false)⟩, ⟨1, .publish 0 none⟩,
    ⟨1, .execute 0 worker 7 false true⟩]

/-- The worker without spaces around its identifier ends its job, and its publisher marks the event
that it has dispatched. -/
theorem worker_identity_iff_plain :
    let s := Machine.run deliver .empty
      (oneExecution "publisher" ⟨"worker-1", "worker-1", by decide +kernel⟩)
    (∃ execution, s.executions[0]? = some execution ∧ SettlesAttempt s 0 execution) ∧
      ∃ p event, s.publishers[0]? = some p ∧ marking p = some event ∧ Marks s 0 p event := by
  intro s
  obtain ⟨hsettles, hmarks⟩ := worker_identity_iff
    (oneExecution "publisher" ⟨"worker-1", "worker-1", by decide +kernel⟩) (by decide +kernel)
  constructor
  · have hexecution : s.executions[0]?.map Execution.workerId = some "worker-1" := by
      decide +kernel
    obtain ⟨execution, he, hid⟩ := Option.map_eq_some_iff.mp hexecution
    refine ⟨execution, he, (hsettles 0 execution he).mpr ?_⟩
    rw [hid]
    decide +kernel
  · have hpublisher : s.publishers[0]?.map (fun p ↦ (p.workerId, (marking p).isSome)) =
        some ("publisher", true) := by
      decide +kernel
    obtain ⟨p, hp, hid⟩ := Option.map_eq_some_iff.mp hpublisher
    obtain ⟨hworker, hsome⟩ := Prod.mk.inj hid
    obtain ⟨event, hevent⟩ := Option.isSome_iff_exists.mp hsome
    refine ⟨p, event, hp, hevent, ((hmarks 0 p hp).1 event hevent).mpr ?_⟩
    rw [hworker]
    decide +kernel

/-- The worker with a space before its identifier claims its job and then cannot end it: the handler
has returned, and the job runs on until its lease expires. -/
theorem padded_worker_left_to_expiry :
    ¬∀ inputs, Machine.Along deliver SparesLeases .empty inputs →
      ∀ i execution, (Machine.run deliver .empty inputs).executions[i]? = some execution →
        SettlesAttempt (Machine.run deliver .empty inputs) i execution := by
  intro h
  have hexecution : (Machine.run deliver .empty (oneExecution "publisher"
      ⟨" worker-1", "worker-1", by decide +kernel⟩)).executions[0]?.map (·.claim.job.id) =
        some 1 := by
    decide +kernel
  obtain ⟨execution, he, hjob⟩ := Option.map_eq_some_iff.mp hexecution
  obtain ⟨row, row', -, -, hrow', -, hstatus, -⟩ := (h _ (by decide +kernel) 0 execution he).returned
    1 [] 9 0
  have hrunning : ((deliver (Machine.run deliver .empty (oneExecution "publisher"
      ⟨" worker-1", "worker-1", by decide +kernel⟩)) ⟨1, .settle 0 (.result []) 9 0⟩).2.store.jobs.find?
        1).map BackgroundJob.status = some .running := by
    decide +kernel
  rw [hjob] at hrow'
  rw [hrow', Option.map_some, hstatus] at hrunning
  have hended := Option.some.inj hrunning
  split at hended <;> exact nomatch hended

end CyberNetizen.Tasks
