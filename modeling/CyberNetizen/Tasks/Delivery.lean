import CyberNetizen.Application.TaskDelivery
import CyberNetizen.Tasks.Announcement
import CyberNetizen.Tasks.Attempts

namespace CyberNetizen.Tasks

open Domain Cognition Infrastructure Application BackgroundTaskService KeyedTable
  SqlAlchemyTaskRepository

/-- The calls of the services that neither publish nor execute. -/
inductive ServiceCall
  | enqueue (request : EnqueueRequest)
  | cancel (tenantId jobId : UUID)
  | replay (tenantId sourceJobId : UUID) (request : ReplayRequest)
  | recoverExpired (freshId : UUID → UUID) (lockedJobs lockedEvents : UUID → Bool)
  | createAction (request : ScheduleRequest)
  | cancelAction (tenantId actionId : UUID)
  | decideAction (tenantId actionId : UUID) (decision : ProactiveDecision)
      (budgetUsage : Option SocialBudgetUsage) (dailyBudget : ℕ)

def ServiceCall.call (now : Datetime) : ServiceCall → TaskCall
  | .enqueue request => .enqueue request
  | .cancel tenantId jobId => .requestCancel tenantId jobId now
  | .replay tenantId sourceJobId request => .replay tenantId sourceJobId request
  | .recoverExpired freshId lockedJobs lockedEvents =>
    .recoverExpiredLeases now freshId lockedJobs lockedEvents
  | .createAction request => .createScheduledAction request
  | .cancelAction tenantId actionId => .cancelScheduledAction tenantId actionId now
  | .decideAction tenantId actionId decision budgetUsage dailyBudget =>
    .decideScheduledAction tenantId actionId decision budgetUsage dailyBudget now

/-- The tables, the clock, the messages not yet consumed, and the calls under way. -/
structure DeliveryState where
  store : TaskStore
  clock : Datetime
  messages : List BackgroundTaskService.Message
  publishers : List Publishing
  executions : List Execution

def DeliveryState.empty : DeliveryState := ⟨.empty, 0, [], [], []⟩

inductive DeliveryAction
  | request (call : ServiceCall)
  | publishDue (workerId : String) (leaseSeconds retryBaseSeconds maximum : ℕ) (rank : UUID → ℕ)
      (locked : UUID → Bool)
  | publish (i : ℕ) (failure : Option String)
  | execute (i : ℕ) (worker : WorkerId) (attemptId : UUID) (locked acknowledged : Bool)
  | renew (i : ℕ)
  | settle (i : ℕ) (outcome : Outcome) (eventId : UUID) (gap : ℕ)

structure DeliveryInput where
  elapsed : ℕ
  action : DeliveryAction

/-- Publishers, workers and services take their transactions in any order; one that takes no
further step has crashed. A message that is not acknowledged is handed out again. -/
def deliver (s : DeliveryState) (input : DeliveryInput) : Unit × DeliveryState :=
  let now := s.clock + input.elapsed
  let s := { s with clock := now }
  match input.action with
  | .request call => ((), { s with store := (step s.store (call.call now)).2 })
  | .publishDue workerId leaseSeconds retryBaseSeconds maximum rank locked =>
    match BackgroundTaskService.publishDue workerId leaseSeconds retryBaseSeconds maximum rank locked
      now s.store with
    | .error _ => ((), s)
    | .ok (publishing, store) => ((), { s with store, publishers := s.publishers ++ [publishing] })
  | .publish i failure =>
    match s.publishers[i]? with
    | none => ((), s)
    | some publishing =>
      let (publishing, message, store) := publish publishing failure now s.store
      ((), { s with
        store
        messages := s.messages ++ message.toList
        publishers := s.publishers.set i publishing })
  | .execute i worker attemptId locked acknowledged =>
    match s.messages[i]? with
    | none => ((), s)
    | some message =>
      -- `uuid4` draws no identifier twice
      if (s.store.attempts.find? attemptId).isSome then ((), s)
      else
        let (execution, store) := execute message.jobId worker attemptId locked now s.store
        ((), { s with
          store
          messages := if acknowledged then s.messages.eraseIdx i else s.messages
          executions := s.executions ++ execution.toList })
  | .renew i =>
    match s.executions[i]? with
    | none => ((), s)
    | some execution => ((), { s with store := (step s.store (renewal execution now)).2 })
  | .settle i outcome eventId gap =>
    match s.executions[i]? with
    | none => ((), s)
    | some execution =>
      let call := settlement execution outcome eventId now (now + gap) (Nat.le_add_right _ _)
      ((), { s with
        store := (step s.store call).2
        clock := now + gap
        executions := s.executions.eraseIdx i })

def outboxLive : OutboxEventStatus → Bool
  | .pending | .retrying | .publishing => true
  | .published | .deadLetter | .canceled => false

def returning (publishing : Publishing) : Option OutboxEvent :=
  match publishing.phase with
  | .next (event :: _) => if (queueOf event).isNone then some event else none
  | .failing event _ _ _ => some event
  | _ => none

def recoverable (now : Datetime) (lockedEvents : UUID → Bool) (event : OutboxEvent) : Bool :=
  eventExpired now event && !lockedEvents event.id

def releasing (s : DeliveryState) (input : DeliveryInput) (event : OutboxEvent) : Bool :=
  match input.action with
  | .request (.recoverExpired _ _ lockedEvents) =>
    recoverable (s.clock + input.elapsed) lockedEvents event
  | .publish i _ => (s.publishers[i]?).any fun publishing ↦
      (returning publishing).any fun returned ↦ heldBy returned.id publishing.workerId event
  | _ => false

def givesUp (s : DeliveryState) (input : DeliveryInput) (event : OutboxEvent) : Bool :=
  releasing s input event && event.maxAttempts ≤ event.attemptCount

/-- The message consumed by an execution that passes over its job because the row is locked. -/
def passedOver (input : DeliveryInput) : Option ℕ :=
  match input.action with
  | .execute i _ _ true true => some i
  | _ => none

def spared (s : DeliveryState) (input : DeliveryInput) : List BackgroundTaskService.Message :=
  match passedOver input with
  | none => s.messages
  | some i => s.messages.eraseIdx i

def drops (s : DeliveryState) (input : DeliveryInput) (jobId : UUID) : Bool :=
  (s.store.outboxEvents.rows.any fun event ↦ event.jobId = jobId && givesUp s input event)
    || (passedOver input).any fun i ↦ (s.messages[i]?).any fun message ↦ message.jobId = jobId

def remaining (publishing : Publishing) : List OutboxEvent :=
  match publishing.phase with
  | .next events | .dispatched _ events => events
  | .raised event _ events | .failing event _ _ events => event :: events

def sent (publishing : Publishing) : Option OutboxEvent :=
  match publishing.phase with
  | .dispatched event _ => some event
  | _ => none

/-- An event that will bring a message of the job, not before the job is due, whichever publisher
takes it. -/
structure Heralds (publishers : List Publishing) (row : BackgroundJob) (event : OutboxEvent) :
    Prop where
  jobId : event.jobId = row.id
  live : outboxLive event.status = true
  due : row.availableAt ≤ event.availableAt
  claimed : ∀ p ∈ publishers, ∀ e ∈ remaining p, e.id = event.id → row.availableAt ≤ p.now
  unsent : ∀ p ∈ publishers, ∀ e ∈ sent p, e.id ≠ event.id

instance (publishers : List Publishing) (row : BackgroundJob) (event : OutboxEvent) :
    Decidable (Heralds publishers row event) :=
  decidable_of_iff (event.jobId = row.id ∧ outboxLive event.status = true ∧
      row.availableAt ≤ event.availableAt ∧
      (∀ p ∈ publishers, ∀ e ∈ remaining p, e.id = event.id → row.availableAt ≤ p.now) ∧
      ∀ p ∈ publishers, ∀ e ∈ sent p, e.id ≠ event.id)
    ⟨fun ⟨h₁, h₂, h₃, h₄, h₅⟩ ↦ ⟨h₁, h₂, h₃, h₄, h₅⟩, fun ⟨h₁, h₂, h₃, h₄, h₅⟩ ↦ ⟨h₁, h₂, h₃, h₄, h₅⟩⟩

def Timely (row : BackgroundJob) (message : BackgroundTaskService.Message) : Prop :=
  message.jobId = row.id ∧ row.availableAt ≤ message.time

instance (row : BackgroundJob) (message : BackgroundTaskService.Message) :
    Decidable (Timely row message) :=
  inferInstanceAs (Decidable (_ ∧ _))

def Carried (s : DeliveryState) (input : DeliveryInput) (row : BackgroundJob) : Prop :=
  (∃ event ∈ s.store.outboxEvents.rows, givesUp s input event = false ∧
    Heralds s.publishers row event) ∨ ∃ message ∈ spared s input, Timely row message

def Persists (s : DeliveryState) (input : DeliveryInput) : Prop :=
  ∀ row ∈ s.store.jobs.rows, jobWaiting row.status = true → drops s input row.id = true →
    Carried s input row

instance (s : DeliveryState) (input : DeliveryInput) (row : BackgroundJob) :
    Decidable (Carried s input row) :=
  inferInstanceAs (Decidable (_ ∨ _))

instance (s : DeliveryState) (input : DeliveryInput) : Decidable (Persists s input) :=
  inferInstanceAs (Decidable (∀ row ∈ _, _))

def Due (s : DeliveryState) (row : BackgroundJob) : Prop :=
  (∃ event ∈ s.store.outboxEvents, Heralds s.publishers row event) ∨
    ∃ message ∈ s.messages, Timely row message

def RetriesLater (p : Publishing) : Prop :=
  ∀ event errorCode retryAt events, p.phase = .failing event errorCode retryAt events →
    p.now ≤ retryAt

structure Deliverable (s : DeliveryState) : Prop where
  waiting : ∀ row ∈ s.store.jobs, jobWaiting row.status = true → Due s row
  held : ∀ p ∈ s.publishers, ∀ e, e ∈ remaining p ∨ e ∈ sent p →
    ∃ event ∈ s.store.outboxEvents, event.id = e.id ∧ event.jobId = e.jobId
  started : ∀ p ∈ s.publishers, p.now ≤ s.clock
  failing : ∀ p ∈ s.publishers, RetriesLater p
  publishing : ∀ event ∈ s.store.outboxEvents, event.status = .publishing →
    event.availableAt ≤ s.clock
  messages : ∀ message ∈ s.messages, message.time ≤ s.clock
  reached : ∃ calls, Machine.run step TaskStore.empty calls = s.store

theorem deliverable_empty : Deliverable .empty where
  waiting _ h := absurd h (Table.not_mem_empty _)
  held _ h := absurd h List.not_mem_nil
  started _ h := absurd h List.not_mem_nil
  failing _ h := absurd h List.not_mem_nil
  publishing _ h := absurd h (Table.not_mem_empty _)
  messages _ h := absurd h List.not_mem_nil
  reached := ⟨[], rfl⟩

/-- Outbox events stay, with their jobs, and none comes to be published. -/
structure OutboxKept (s s' : TaskStore) : Prop where
  kept : ∀ event ∈ s.outboxEvents, ∃ event' ∈ s'.outboxEvents, event'.id = event.id ∧
    event'.jobId = event.jobId
  publishing : ∀ event ∈ s'.outboxEvents, event.status = .publishing → event ∈ s.outboxEvents

/-- A call of `publish_due` goes on with some of its events. -/
structure Advances (p p' : Publishing) : Prop where
  now : p'.now = p.now
  held : ∀ e, e ∈ remaining p' ∨ e ∈ sent p' → e ∈ remaining p
  failing : RetriesLater p'

section frames

variable {s s' t : TaskStore} {publishers : List Publishing} {p p' : Publishing} {i : ℕ}
  {row : BackgroundJob} {event event' : OutboxEvent}

theorem OutboxKept.refl : OutboxKept s s :=
  ⟨fun event he ↦ ⟨event, he, rfl, rfl⟩, fun _ he _ ↦ he⟩

theorem OutboxKept.trans (h : OutboxKept s t) (h' : OutboxKept t s') : OutboxKept s s' where
  kept event he := by
    obtain ⟨event₁, h₁, hid₁, hjob₁⟩ := h.kept event he
    obtain ⟨event₂, h₂, hid₂, hjob₂⟩ := h'.kept event₁ h₁
    exact ⟨event₂, h₂, hid₂.trans hid₁, hjob₂.trans hjob₁⟩
  publishing event he hstatus := h.publishing event (h'.publishing event he hstatus) hstatus

theorem Delivers.outboxKept (h : Delivers s s') : OutboxKept s s' where
  kept event he := by
    obtain ⟨event', he', hid, hjob, -⟩ := h.kept event he
    exact ⟨event', he', hid, hjob⟩
  publishing := h.publishing

theorem OutboxKept.of_update {q : OutboxEvent → Bool} {f : Update OutboxEvent.id}
    (hjob : ∀ e, (f e).jobId = e.jobId) (hf : ∀ e, (f e).status ≠ .publishing) :
    OutboxKept s { s with outboxEvents := s.outboxEvents.updateWhere q f } where
  kept event he := by
    refine ⟨_, Table.mem_updateWhere.mpr ⟨event, he, rfl⟩, Table.key_update q f event, ?_⟩
    split
    · exact hjob event
    · rfl
  publishing event he hstatus := by
    obtain ⟨old, hold, rfl⟩ := Table.mem_updateWhere.mp he
    split at hstatus
    · exact absurd hstatus (hf old)
    · rename_i hq
      rw [if_neg hq]
      exact hold

theorem released_ne_publishing (errorCode : String) (retryAt now : Datetime) (e : OutboxEvent) :
    (released errorCode retryAt now e).status ≠ .publishing := by
  dsimp only [released]
  split <;> simp

theorem live_released {errorCode : String} {retryAt now : Datetime}
    (h : event.attemptCount < event.maxAttempts) :
    outboxLive (released errorCode retryAt now event).status = true := by
  dsimp only [released]
  rw [if_neg (Nat.not_le.mpr h)]
  rfl

theorem Heralds.of_event (h : Heralds publishers row event) (hid : event'.id = event.id)
    (hjob : event'.jobId = event.jobId) (hlive : outboxLive event'.status = true)
    (hdue : row.availableAt ≤ event'.availableAt) : Heralds publishers row event' where
  jobId := hjob.trans h.jobId
  live := hlive
  due := hdue
  claimed p hp e he hsame := h.claimed p hp e he (hsame.trans hid)
  unsent p hp e he := hid ▸ h.unsent p hp e he

theorem Heralds.release (h : Heralds publishers row event) {q : OutboxEvent → Bool}
    {errorCode : String} {retryAt now : Datetime}
    (hq : q event = true → event.attemptCount < event.maxAttempts ∧ row.availableAt ≤ retryAt) :
    Heralds publishers row (if q event then released errorCode retryAt now event else event) := by
  split
  · rename_i hreleased
    obtain ⟨hcount, hdue⟩ := hq hreleased
    exact h.of_event rfl rfl (live_released hcount) hdue
  · exact h

theorem Heralds.advance (h : Heralds publishers row event) (hp : publishers[i]? = some p)
    (hadv : Advances p p') (hsent : ∀ e ∈ sent p', e.id ≠ event.id) :
    Heralds (publishers.set i p') row event where
  jobId := h.jobId
  live := h.live
  due := h.due
  claimed q hq e he hid := by
    rcases List.mem_or_eq_of_mem_set hq with hq | rfl
    · exact h.claimed q hq e he hid
    · rw [hadv.now]
      exact h.claimed p (List.mem_of_getElem? hp) e (hadv.held e (.inl he)) hid
  unsent q hq e he := by
    rcases List.mem_or_eq_of_mem_set hq with hq | rfl
    · exact h.unsent q hq e he
    · exact hsent e he

end frames

section invariant

variable {s : DeliveryState} {t : TaskStore} {input : DeliveryInput} {row : BackgroundJob}
  {i : ℕ} {p p' : Publishing} {messages : List BackgroundTaskService.Message}

theorem Deliverable.later (h : Deliverable s) {clock : Datetime} (hclock : s.clock ≤ clock)
    (executions : List Execution) : Deliverable { s with clock, executions } where
  waiting := h.waiting
  held := h.held
  started p hp := (h.started p hp).trans hclock
  failing := h.failing
  publishing event he hstatus := (h.publishing event he hstatus).trans hclock
  messages message hm := (h.messages message hm).trans hclock
  reached := h.reached

theorem reached_step (h : ∃ calls, Machine.run step TaskStore.empty calls = t) (call : TaskCall) :
    ∃ calls, Machine.run step TaskStore.empty calls = (step t call).2 := by
  obtain ⟨calls, rfl⟩ := h
  exact ⟨calls ++ [call], Machine.run_append⟩

/-- A waiting job is announced by something the action does not drop. -/
theorem Deliverable.carried (h : Deliverable s) (hP : Persists s input)
    (hrow : row ∈ s.store.jobs) (hwaiting : jobWaiting row.status = true) :
    Carried s input row := by
  by_cases hdrops : drops s input row.id = true
  · exact hP row hrow hwaiting hdrops
  simp only [drops, Bool.or_eq_true, List.any_eq_true, not_or, not_exists, not_and] at hdrops
  obtain ⟨hevents, hmessages⟩ := hdrops
  rcases h.waiting row hrow hwaiting with ⟨event, he, hheralds⟩ | ⟨message, hm, htimely⟩
  · refine .inl ⟨event, he, ?_, hheralds⟩
    simpa [hheralds.jobId] using hevents event he
  · refine .inr ⟨message, ?_, htimely⟩
    unfold spared
    split
    · exact hm
    · rename_i i hi
      rw [hi] at hmessages
      obtain ⟨j, hj⟩ := List.mem_iff_getElem?.mp hm
      refine List.mem_eraseIdx_iff_getElem?.mpr ⟨j, ?_, hj⟩
      rintro rfl
      exact hmessages (by simp [hj, htimely.1])

/-- A transaction that does not claim events for publication keeps the invariant as far as it keeps
the waiting jobs announced. -/
theorem Deliverable.kept (h : Deliverable s) (hkept : OutboxKept s.store t)
    (hreached : ∃ calls, Machine.run step TaskStore.empty calls = t)
    (hmessages : ∀ message ∈ messages, message.time ≤ s.clock)
    (hwaiting : ∀ row ∈ t.jobs, jobWaiting row.status = true →
      Due { s with store := t, messages } row) :
    Deliverable { s with store := t, messages } where
  waiting := hwaiting
  held p hp e hheld := by
    obtain ⟨event, he, hid, hjob⟩ := h.held p hp e hheld
    obtain ⟨event', he', hid', hjob'⟩ := hkept.kept event he
    exact ⟨event', he', hid'.trans hid, hjob'.trans hjob⟩
  started := h.started
  failing := h.failing
  publishing event he hstatus := h.publishing event (hkept.publishing event he hstatus) hstatus
  messages := hmessages
  reached := hreached

/-- The same where a publisher goes on. -/
theorem Deliverable.advance (h : Deliverable s) (hp : s.publishers[i]? = some p)
    (hadv : Advances p p') (hkept : OutboxKept s.store t)
    (hreached : ∃ calls, Machine.run step TaskStore.empty calls = t)
    (hmessages : ∀ message ∈ messages, message.time ≤ s.clock)
    (hwaiting : ∀ row ∈ t.jobs, jobWaiting row.status = true →
      Due { s with store := t, messages, publishers := s.publishers.set i p' } row) :
    Deliverable { s with store := t, messages, publishers := s.publishers.set i p' } where
  waiting := hwaiting
  held q hq e hheld := by
    have hold : ∃ q' ∈ s.publishers, e ∈ remaining q' ∨ e ∈ sent q' := by
      rcases List.mem_or_eq_of_mem_set hq with hq | rfl
      · exact ⟨q, hq, hheld⟩
      · exact ⟨p, List.mem_of_getElem? hp, .inl (hadv.held e hheld)⟩
    obtain ⟨q', hq', hheld'⟩ := hold
    obtain ⟨event, he, hid, hjob⟩ := h.held q' hq' e hheld'
    obtain ⟨event', he', hid', hjob'⟩ := hkept.kept event he
    exact ⟨event', he', hid'.trans hid, hjob'.trans hjob⟩
  started q hq := by
    rcases List.mem_or_eq_of_mem_set hq with hq | rfl
    · exact h.started q hq
    · exact hadv.now ▸ h.started p (List.mem_of_getElem? hp)
  failing q hq := by
    rcases List.mem_or_eq_of_mem_set hq with hq | rfl
    · exact h.failing q hq
    · exact hadv.failing
  publishing event he hstatus := h.publishing event (hkept.publishing event he hstatus) hstatus
  messages := hmessages
  reached := hreached

theorem Deliverable.announced (h : Deliverable s) (ha : Announced s.store t row) :
    ∃ event ∈ t.outboxEvents, event.status = .pending ∧ Heralds s.publishers row event := by
  obtain ⟨event, he, hnew, hjob, hpending, hdue⟩ := ha
  have hunheld : ∀ p ∈ s.publishers, ∀ e, e ∈ remaining p ∨ e ∈ sent p → e.id ≠ event.id := by
    intro p hp e hheld hid
    obtain ⟨old, hold, hsame, -⟩ := h.held p hp e hheld
    exact hnew old hold (hsame.trans hid)
  exact ⟨event, he, hpending, hjob, hpending ▸ rfl, hdue,
    fun p hp e hr hid ↦ absurd hid (hunheld p hp e (.inl hr)),
    fun p hp e hs ↦ hunheld p hp e (.inr hs)⟩

theorem Deliverable.delivers (h : Deliverable s) (hd : Delivers s.store t)
    (hreached : ∃ calls, Machine.run step TaskStore.empty calls = t) :
    Deliverable { s with store := t } := by
  refine h.kept hd.outboxKept hreached h.messages fun row hrow hwaiting ↦ ?_
  rcases hd.waiting row hrow hwaiting with hold | ha
  · rcases h.waiting row hold hwaiting with ⟨event, he, hheralds⟩ | hmessage
    · obtain ⟨event', he', -, -, rfl | hgone⟩ := hd.kept event he
      · exact .inl ⟨event', he', hheralds⟩
      · rw [hgone row hrow hheralds.jobId.symm] at hwaiting
        exact absurd hwaiting (by simp)
    · exact .inr hmessage
  · obtain ⟨event, he, -, hheralds⟩ := h.announced ha
    exact .inl ⟨event, he, hheralds⟩

/-- Every waiting job is announced by a message, or by an event that `q` leaves alone or that has
attempts left. -/
def Unexhausted (s : DeliveryState) (q : OutboxEvent → Bool) : Prop :=
  ∀ row ∈ s.store.jobs, jobWaiting row.status = true →
    (∃ event ∈ s.store.outboxEvents, (q event = true → event.attemptCount < event.maxAttempts) ∧
      Heralds s.publishers row event) ∨ ∃ message ∈ s.messages, Timely row message

theorem recoverExpiredLeases_announces {s s' : TaskStore} {now : Datetime} {freshId : UUID → UUID}
    {lockedJobs lockedEvents : UUID → Bool} {r : ℕ}
    (h : recoverExpiredLeases now freshId lockedJobs lockedEvents s = .ok (r, s')) :
    ∃ t, Announces s t ∧ s' = { t with
      outboxEvents := t.outboxEvents.updateWhere (recoverable now lockedEvents)
        (released "LeaseExpired" now now) } := by
  unfold recoverExpiredLeases at h
  dsimp only at h
  split at h
  · exact absurd h (by simp)
  · rename_i t hturns
    obtain ⟨-, rfl⟩ := Prod.mk.inj (Except.ok.inj h)
    exact ⟨t, recoverJobs_announces hturns, rfl⟩

theorem Deliverable.recover (h : Deliverable s) {freshId : UUID → UUID}
    {lockedJobs lockedEvents : UUID → Bool} {r : ℕ}
    (hq : Unexhausted s (recoverable s.clock lockedEvents))
    (hrecover : recoverExpiredLeases s.clock freshId lockedJobs lockedEvents s.store = .ok (r, t))
    (hreached : ∃ calls, Machine.run step TaskStore.empty calls = t) :
    Deliverable { s with store := t } := by
  obtain ⟨u, hu, rfl⟩ := recoverExpiredLeases_announces hrecover
  have hkept : OutboxKept s.store { u with
      outboxEvents := u.outboxEvents.updateWhere (recoverable s.clock lockedEvents)
        (released "LeaseExpired" s.clock s.clock) } :=
    hu.delivers.outboxKept.trans (.of_update (fun _ ↦ rfl) (released_ne_publishing _ _ _))
  refine h.kept hkept hreached h.messages fun row hrow hwaiting ↦ ?_
  rcases hu.waiting row hrow hwaiting with hold | ha
  · rcases hq row hold hwaiting with ⟨event, he, hcount, hheralds⟩ | hmessage
    · refine .inl ⟨_, Table.mem_updateWhere.mpr ⟨event, hu.kept event he, rfl⟩,
        hheralds.release fun hexpired ↦ ⟨hcount hexpired, ?_⟩⟩
      simp only [recoverable, eventExpired, Bool.and_eq_true, decide_eq_true_eq] at hexpired
      exact hheralds.due.trans (h.publishing event he hexpired.1.1)
    · exact .inr hmessage
  · obtain ⟨event, he, hpending, hheralds⟩ := h.announced ha
    refine .inl ⟨_, Table.mem_updateWhere.mpr ⟨event, he, rfl⟩, hheralds.release fun hexpired ↦ ?_⟩
    simp [recoverable, eventExpired, hpending] at hexpired

theorem Deliverable.markFailed (h : Deliverable s) (hp : s.publishers[i]? = some p)
    {e : OutboxEvent} (he : e ∈ remaining p) (hadv : Advances p p') (hsent : sent p' = none)
    (errorCode : String) {retryAt : Datetime} (hretry : p.now ≤ retryAt)
    (hq : Unexhausted s (heldBy e.id p.workerId)) :
    Deliverable { s with
      store := markOutboxFailed e.id p.workerId errorCode retryAt s.clock s.store
      publishers := s.publishers.set i p' } := by
  refine h.advance hp hadv (.of_update (fun _ ↦ rfl) (released_ne_publishing _ _ _))
    (reached_step h.reached (.markOutboxFailed e.id p.workerId errorCode retryAt s.clock))
    h.messages fun row hrow hwaiting ↦ ?_
  rcases hq row hrow hwaiting with ⟨event, hmem, hcount, hheralds⟩ | hmessage
  · refine .inl ⟨_, Table.mem_updateWhere.mpr ⟨event, hmem, rfl⟩,
      (hheralds.advance hp hadv (by simp [hsent])).release fun hheld ↦ ⟨hcount hheld, ?_⟩⟩
    simp only [heldBy, Bool.and_eq_true, decide_eq_true_eq] at hheld
    exact (hheralds.claimed p (List.mem_of_getElem? hp) e he hheld.1.1.symm).trans hretry
  · exact .inr hmessage

theorem Deliverable.markPublished (h : Deliverable s) (hp : s.publishers[i]? = some p)
    {e : OutboxEvent} (he : e ∈ sent p) (hadv : Advances p p') (hsent : sent p' = none) :
    Deliverable { s with
      store := markOutboxPublished e.id p.workerId s.clock s.store
      publishers := s.publishers.set i p' } := by
  refine h.advance hp hadv (.of_update (fun _ ↦ rfl) fun _ ↦ by simp [published])
    (reached_step h.reached (.markOutboxPublished e.id p.workerId s.clock))
    h.messages fun row hrow hwaiting ↦ ?_
  rcases h.waiting row hrow hwaiting with ⟨event, hmem, hheralds⟩ | hmessage
  · refine .inl ⟨event, Table.mem_updateWhere.mpr ⟨event, hmem, if_neg fun hheld ↦ ?_⟩,
      hheralds.advance hp hadv (by simp [hsent])⟩
    simp only [heldBy, Bool.and_eq_true, decide_eq_true_eq] at hheld
    exact hheralds.unsent p (List.mem_of_getElem? hp) e he hheld.1.1.symm
  · exact .inr hmessage

/-- A dispatched event hands its announcement over to the message. -/
theorem Deliverable.dispatch (h : Deliverable s) (hp : s.publishers[i]? = some p)
    {e : OutboxEvent} (he : e ∈ remaining p) (hadv : Advances p p') (hsent : sent p' = some e)
    (queue : String) :
    Deliverable { s with
      messages := s.messages ++ [⟨e.jobId, queue, s.clock⟩]
      publishers := s.publishers.set i p' } := by
  have hmem := List.mem_of_getElem? hp
  refine h.advance hp hadv .refl h.reached (fun message hm ↦ ?_) fun row hrow hwaiting ↦ ?_
  · rcases List.mem_append.mp hm with hm | hm
    · exact h.messages message hm
    · obtain rfl := List.mem_singleton.mp hm
      exact Nat.le_refl _
  · rcases h.waiting row hrow hwaiting with ⟨event, hevent, hheralds⟩ | ⟨message, hm, htimely⟩
    · by_cases hid : e.id = event.id
      · obtain ⟨stored, hstored, hsame, hjob⟩ := h.held p hmem e (.inl he)
        obtain rfl : stored = event := Table.eq_of_key_eq hstored hevent (hsame.trans hid)
        refine .inr ⟨_, List.mem_append_right _ (List.mem_singleton_self _), ?_, ?_⟩
        · exact hjob.symm.trans hheralds.jobId
        · exact (hheralds.claimed p hmem e he hid).trans (h.started p hmem)
      · refine .inl ⟨event, hevent, hheralds.advance hp hadv ?_⟩
        simpa [hsent] using hid
    · exact .inr ⟨message, List.mem_append_left _ hm, htimely⟩

theorem Deliverable.proceed (h : Deliverable s) (hp : s.publishers[i]? = some p)
    (hadv : Advances p p') (hsent : sent p' = none) :
    Deliverable { s with publishers := s.publishers.set i p' } := by
  refine h.advance hp hadv .refl h.reached h.messages fun row hrow hwaiting ↦ ?_
  rcases h.waiting row hrow hwaiting with ⟨event, hevent, hheralds⟩ | hmessage
  · exact .inl ⟨event, hevent, hheralds.advance hp hadv (by simp [hsent])⟩
  · exact .inr hmessage

/-- A step of a call of `publish_due`. -/
theorem Deliverable.turn (h : Deliverable s) (hp : s.publishers[i]? = some p)
    (failure : Option String)
    (hq : ∀ event ∈ returning p, Unexhausted s (heldBy event.id p.workerId)) :
    Deliverable { s with
      store := (publish p failure s.clock s.store).2.2
      messages := s.messages ++ (publish p failure s.clock s.store).2.1.toList
      publishers := s.publishers.set i (publish p failure s.clock s.store).1 } := by
  have hretries := h.failing p (List.mem_of_getElem? hp)
  obtain ⟨workerId, retryBaseSeconds, now, count, phase⟩ := p
  cases phase with
  | next events =>
    cases events with
    | nil =>
      have hadv : Advances ⟨workerId, retryBaseSeconds, now, count, .next []⟩
          ⟨workerId, retryBaseSeconds, now, count, .next []⟩ :=
        ⟨rfl, fun e he ↦ by simp [remaining, sent] at he, hretries⟩
      simpa [publish] using h.proceed hp hadv rfl
    | cons event events =>
      cases hqueue : queueOf event with
      | none =>
        have hadv : Advances ⟨workerId, retryBaseSeconds, now, count, .next (event :: events)⟩
            ⟨workerId, retryBaseSeconds, now, count, .next events⟩ :=
          ⟨rfl, fun e he ↦ by simp_all [remaining, sent], nofun⟩
        simpa [publish, hqueue] using h.markFailed hp List.mem_cons_self hadv rfl
          "InvalidQueue" (Nat.le_refl now) (hq event (by simp [returning, hqueue]))
      | some queue =>
        cases failure with
        | none =>
          have hadv : Advances ⟨workerId, retryBaseSeconds, now, count, .next (event :: events)⟩
              ⟨workerId, retryBaseSeconds, now, count, .dispatched event events⟩ :=
            ⟨rfl, fun e he ↦ by simp_all [remaining, sent]; tauto, nofun⟩
          simpa [publish, hqueue] using h.dispatch hp List.mem_cons_self hadv rfl queue
        | some errorCode =>
          have hadv : Advances ⟨workerId, retryBaseSeconds, now, count, .next (event :: events)⟩
              ⟨workerId, retryBaseSeconds, now, count, .raised event errorCode events⟩ :=
            ⟨rfl, fun e he ↦ by simpa [remaining, sent] using he, nofun⟩
          simpa [publish, hqueue] using h.proceed hp hadv rfl
  | dispatched event events =>
    have hadv : Advances ⟨workerId, retryBaseSeconds, now, count, .dispatched event events⟩
        ⟨workerId, retryBaseSeconds, now, count + 1, .next events⟩ :=
      ⟨rfl, fun e he ↦ by simpa [remaining, sent] using he, nofun⟩
    simpa [publish] using h.markPublished hp (e := event) rfl hadv rfl
  | raised event errorCode events =>
    have hstarted : now ≤ s.clock := h.started _ (List.mem_of_getElem? hp)
    have hadv : ∀ delay, Advances
        ⟨workerId, retryBaseSeconds, now, count, .raised event errorCode events⟩
        ⟨workerId, retryBaseSeconds, now, count,
          .failing event errorCode (s.clock + seconds delay) events⟩ := fun delay ↦ by
      refine ⟨rfl, fun e he ↦ by simpa [remaining, sent] using he, fun _ _ _ _ hphase ↦ ?_⟩
      obtain ⟨-, -, rfl, -⟩ := PublishPhase.failing.inj hphase
      exact hstarted.trans (Nat.le_add_right _ _)
    simpa [publish] using h.proceed hp (hadv _) rfl
  | failing event errorCode retryAt events =>
    have hadv : Advances
        ⟨workerId, retryBaseSeconds, now, count, .failing event errorCode retryAt events⟩
        ⟨workerId, retryBaseSeconds, now, count, .next events⟩ :=
      ⟨rfl, fun e he ↦ by simp_all [remaining, sent], nofun⟩
    simpa [publish] using h.markFailed hp List.mem_cons_self hadv rfl errorCode
      (hretries event errorCode retryAt events rfl) (hq event rfl)

theorem eq_strip_of_requiredText {value label text : String} {maximum : ℕ}
    (h : requiredText value label maximum = .ok text) : text = strip value := by
  unfold requiredText at h
  dsimp only at h
  split at h
  · exact nomatch h
  split at h
  · exact nomatch h
  · exact (Except.ok.inj h).symm

/-- A call claims its events under the stripped identifier. -/
theorem publishDue_eq_ok {workerId : String} {leaseSeconds retryBaseSeconds maximum : ℕ}
    {rank : UUID → ℕ} {locked : UUID → Bool} {now : Datetime} {s s' : TaskStore}
    (h : publishDue workerId leaseSeconds retryBaseSeconds maximum rank locked now s =
      .ok (p, s')) :
    ∃ owner expiry count, owner = strip workerId ∧
      p = ⟨workerId, retryBaseSeconds, now, 0,
        .next (claimOutbox owner now expiry count rank locked s).1⟩ ∧
      s' = (claimOutbox owner now expiry count rank locked s).2 := by
  unfold publishDue at h
  cases howner : requiredText workerId "发布器 ID" 160 with
  | error e => rw [howner] at h; exact nomatch h
  | ok owner =>
  cases hlease : positive leaseSeconds "租约秒数" with
  | error e => rw [howner, hlease] at h; exact nomatch h
  | ok lease =>
  cases hlimit : limit maximum with
  | error e => rw [howner, hlease, hlimit] at h; exact nomatch h
  | ok count =>
  rw [howner, hlease, hlimit] at h
  obtain ⟨rfl, rfl⟩ := Prod.mk.inj (Except.ok.inj h)
  exact ⟨owner, _, count, eq_strip_of_requiredText howner, rfl, rfl⟩

section claim

variable {s : TaskStore} {workerId : String} {now expiry : Datetime} {count : ℕ} {rank : UUID → ℕ}
  {locked : UUID → Bool} {event : OutboxEvent}

theorem outboxDue_of_mem (h : event ∈ ((s.outboxEvents.rows.filter fun row ↦
    outboxDue now row && !locked row.id).mergeSort (outboxLe rank)).take count) :
    event ∈ s.outboxEvents ∧ outboxDue now event = true := by
  obtain ⟨hmem, hdue⟩ := List.mem_filter.mp (List.mem_mergeSort.mp (List.mem_of_mem_take h))
  exact ⟨hmem, (Bool.and_eq_true _ _ ▸ hdue).1⟩

theorem claimOutbox_mem (h : event ∈ (claimOutbox workerId now expiry count rank locked s).1) :
    ∃ old ∈ s.outboxEvents, outboxDue now old = true ∧
      event = SqlAlchemyTaskRepository.publishing workerId now expiry old := by
  obtain ⟨old, hold, rfl⟩ := List.mem_map.mp h
  obtain ⟨hmem, hdue⟩ := outboxDue_of_mem hold
  exact ⟨old, hmem, hdue, rfl⟩

theorem claimOutbox_row (workerId : String) (now expiry : Datetime) (count : ℕ) (rank : UUID → ℕ)
    (locked : UUID → Bool) (h : event ∈ s.outboxEvents) :
    ∃ event' ∈ (claimOutbox workerId now expiry count rank locked s).2.outboxEvents,
      event' = event ∨ outboxDue now event = true ∧
        event' = SqlAlchemyTaskRepository.publishing workerId now expiry event := by
  refine ⟨_, Table.mem_updateWhere.mpr ⟨event, h, rfl⟩, ?_⟩
  split
  · rename_i hclaimed
    obtain ⟨row, hrow, hid⟩ := List.mem_map.mp (of_decide_eq_true hclaimed)
    obtain ⟨hmem, hdue⟩ := outboxDue_of_mem hrow
    obtain rfl : row = event := Table.eq_of_key_eq hmem h hid
    exact .inr ⟨hdue, rfl⟩
  · exact .inl rfl

theorem claimOutbox_publishing
    (h : event ∈ (claimOutbox workerId now expiry count rank locked s).2.outboxEvents) :
    event ∈ s.outboxEvents ∨ event.availableAt ≤ now := by
  obtain ⟨old, hold, rfl⟩ := Table.mem_updateWhere.mp h
  split
  · rename_i hclaimed
    obtain ⟨row, hrow, hid⟩ := List.mem_map.mp (of_decide_eq_true hclaimed)
    obtain ⟨hmem, hdue⟩ := outboxDue_of_mem hrow
    obtain rfl : row = old := Table.eq_of_key_eq hmem hold hid
    simp only [outboxDue, Bool.and_eq_true, decide_eq_true_eq] at hdue
    exact .inr hdue.1.2
  · exact .inl hold

end claim

/-- A claim takes only due events, so the jobs they announce are due as well. -/
theorem Deliverable.publishDue (h : Deliverable s) {owner : String} {expiry : Datetime} {count : ℕ}
    {rank : UUID → ℕ} {locked : UUID → Bool}
    (hp : p.phase = .next (claimOutbox owner s.clock expiry count rank locked s.store).1)
    (hnow : p.now = s.clock) :
    Deliverable { s with
      store := (claimOutbox owner s.clock expiry count rank locked s.store).2
      publishers := s.publishers ++ [p] } where
  waiting row hrow hwaiting := by
    rcases h.waiting row hrow hwaiting with ⟨event, he, hheralds⟩ | hmessage
    · obtain ⟨event', he', hcases⟩ := claimOutbox_row owner s.clock expiry count rank locked he
      have hkept : Heralds s.publishers row event' := by
        rcases hcases with rfl | ⟨-, rfl⟩
        · exact hheralds
        · exact hheralds.of_event rfl rfl rfl hheralds.due
      have hid : event'.id = event.id := by rcases hcases with rfl | ⟨-, rfl⟩ <;> rfl
      refine .inl ⟨event', he', { hkept with claimed := ?_, unsent := ?_ }⟩
      · intro q hq e hheld hsame
        rcases List.mem_append.mp hq with hq | hq
        · exact hkept.claimed q hq e hheld hsame
        · obtain rfl := List.mem_singleton.mp hq
          rw [remaining, hp] at hheld
          obtain ⟨claimed, hclaimed, hdue, rfl⟩ := claimOutbox_mem hheld
          obtain rfl : claimed = event := Table.eq_of_key_eq hclaimed he (hsame.trans hid)
          simp only [outboxDue, Bool.and_eq_true, decide_eq_true_eq] at hdue
          rw [hnow]
          exact hheralds.due.trans hdue.1.2
      · intro q hq e hsent
        rcases List.mem_append.mp hq with hq | hq
        · exact hkept.unsent q hq e hsent
        · obtain rfl := List.mem_singleton.mp hq
          simp [sent, hp] at hsent
    · exact .inr hmessage
  held q hq e hheld := by
    rcases List.mem_append.mp hq with hq | hq
    · obtain ⟨event, he, hid, hjob⟩ := h.held q hq e hheld
      obtain ⟨event', he', rfl | ⟨-, rfl⟩⟩ := claimOutbox_row owner s.clock expiry count rank locked he
      · exact ⟨event', he', hid, hjob⟩
      · exact ⟨_, he', hid, hjob⟩
    · obtain rfl := List.mem_singleton.mp hq
      simp only [remaining, sent, hp, Option.not_mem_none, or_false] at hheld
      obtain ⟨claimed, hclaimed, -, rfl⟩ := claimOutbox_mem hheld
      obtain ⟨event', he', rfl | ⟨-, rfl⟩⟩ :=
        claimOutbox_row owner s.clock expiry count rank locked hclaimed
      · exact ⟨event', he', rfl, rfl⟩
      · exact ⟨_, he', rfl, rfl⟩
  started q hq := by
    rcases List.mem_append.mp hq with hq | hq
    · exact h.started q hq
    · obtain rfl := List.mem_singleton.mp hq
      exact hnow.le
  failing q hq := by
    rcases List.mem_append.mp hq with hq | hq
    · exact h.failing q hq
    · obtain rfl := List.mem_singleton.mp hq
      intro _ _ _ _ hphase
      exact absurd (hp.symm.trans hphase) (by simp)
  publishing event he hstatus := by
    rcases claimOutbox_publishing he with hold | hdue
    · exact h.publishing event hold hstatus
    · exact hdue
  messages := h.messages
  reached := reached_step h.reached (.claimOutbox owner s.clock expiry count rank locked)

def Unspent (v : JobView) : Prop :=
  jobWaiting v.job.status = true → v.job.attemptCount < v.job.maxAttempts

theorem jobStep_unspent {s : TaskStore} {call : TaskCall} {v v' : JobView}
    (h : JobStep s call v v') : Unspent v' := by
  intro hwaiting
  cases h with
  | claim => exact absurd hwaiting (by simp [claimed, jobWaiting])
  | claimCanceled => exact absurd hwaiting (by simp [claimCanceled, jobWaiting])
  | renew hrunning => exact absurd hwaiting (by simp [renewed, jobWaiting, hrunning])
  | complete =>
    refine absurd hwaiting ?_
    dsimp only [completed]
    split <;> simp [jobWaiting]
  | fail =>
    rename_i job _ _ _ _ _ permanent _ _ _ _ _ _ _
    dsimp only [failed] at hwaiting ⊢
    unfold failStatus at hwaiting
    split at hwaiting
    · exact absurd hwaiting (by simp [jobWaiting])
    split at hwaiting
    · exact absurd hwaiting (by simp [jobWaiting])
    split at hwaiting
    · exact absurd hwaiting (by simp [jobWaiting])
    · rename_i hcount
      exact Nat.not_le.mp hcount
  | cancelWaiting => exact absurd hwaiting (by simp [cancelWaiting, jobWaiting])
  | cancelRunning hrunning => exact absurd hwaiting (by simp [cancelRequested, jobWaiting, hrunning])
  | recover =>
    dsimp only [recoveredView, recovered] at hwaiting ⊢
    unfold recoverStatus at hwaiting
    split at hwaiting
    · exact absurd hwaiting (by simp [jobWaiting])
    · rename_i hcount
      exact Nat.not_le.mp hcount
  | cancelScheduled => exact absurd hwaiting (by simp [cancelWaiting, jobWaiting])

theorem created_unspent (v : JobView) (h : Created v) : Unspent v := fun _ ↦ by
  rw [h.fresh.attemptCount]
  exact h.fresh.maxAttempts.1

/-- The attempt that a claim adds meets no unique constraint. -/
theorem insertAttempt_isSome {s : TaskStore} (hs : ∃ calls, Machine.run step TaskStore.empty calls = s)
    {jobId attemptId : UUID} (workerId : String) (now : Datetime)
    (hrow : s.jobs.find? jobId = some row) (hfresh : s.attempts.find? attemptId = none) :
    ∃ t, (setJob s jobId (claimed workerId now)).insertAttempt
      (newAttempt attemptId workerId now (claimed workerId now row)) = some t := by
  obtain ⟨calls, rfl⟩ := hs
  obtain rfl := Table.key_of_find? hrow
  have hnumbered : Numbered _ := view_invariant created_numbered
    (fun _ _ _ _ _ _ _ h hI ↦ jobStep_numbered h hI) Machine.along_true (view_of_find? hrow)
  unfold TaskStore.insertAttempt
  have hjob : (setJob (Machine.run step TaskStore.empty calls) row.id (claimed workerId now)).jobs.find?
      (newAttempt attemptId workerId now (claimed workerId now row)).jobId =
        some (claimed workerId now row) := Table.find?_updateWhere_self hrow
  rw [hjob, Option.isNone_some, if_neg Bool.false_ne_true, if_neg]
  · cases hinsert : (setJob (Machine.run step TaskStore.empty calls) row.id
        (claimed workerId now)).attempts.insert?
          (newAttempt attemptId workerId now (claimed workerId now row)) with
    | none =>
      obtain ⟨attempt, ha, hid⟩ := Table.insert?_eq_none.mp hinsert
      exact absurd hid (Table.find?_eq_none.mp hfresh attempt ha)
    | some attempts => exact ⟨_, rfl⟩
  · intro hany
    obtain ⟨attempt, ha, hsame⟩ := List.any_eq_true.mp hany
    simp only [Bool.and_eq_true, decide_eq_true_eq] at hsame
    have hmem : attempt.attemptNumber ∈
        (attemptsOf (Machine.run step TaskStore.empty calls) row.id).map JobAttempt.attemptNumber :=
      List.mem_map_of_mem (mem_attemptsOf.mpr ⟨ha, hsame.1⟩)
    rw [hnumbered.numbers, hsame.2, List.mem_range'_1] at hmem
    have hnext : ¬row.attemptCount + 1 < 1 + row.attemptCount := by omega
    exact hnext hmem.2

/-- An execution that finds its job unlocked and due leaves it waiting no longer. -/
theorem execute_takes {s : TaskStore} (hs : ∃ calls, Machine.run step TaskStore.empty calls = s)
    {jobId attemptId : UUID} {worker : WorkerId} {now : Datetime}
    (hrow : s.jobs.find? jobId = some row) (hwaiting : jobWaiting row.status = true)
    (hdue : row.availableAt ≤ now) (hfresh : s.attempts.find? attemptId = none) :
    row ∉ (execute jobId worker attemptId false now s).2.jobs := by
  have hunspent : row.attemptCount < row.maxAttempts := by
    obtain ⟨calls, rfl⟩ := hs
    have hv : Unspent ⟨row, attemptsOf _ jobId, sourceInbox _ row⟩ := view_invariant created_unspent
      (fun _ _ _ _ _ _ _ h _ ↦ jobStep_unspent h) Machine.along_true (view_of_find? hrow)
    exact hv hwaiting
  have hgone : ∀ {f : Update BackgroundJob.id} {t : TaskStore}, jobWaiting (f row).status = false →
      t.jobs = (setJob s jobId f).jobs → row ∉ t.jobs := by
    intro f t hf ht hmem
    have hfound : t.jobs.find? jobId = some (f row) := ht ▸ Table.find?_updateWhere_self hrow
    obtain rfl := Table.key_of_find? hrow
    rw [← Option.some.inj ((Table.find?_key hmem).symm.trans hfound), hwaiting] at hf
    exact absurd hf (by simp)
  rw [execute_store]
  change row ∉ (reply s .claim (claimJob jobId worker.owner now attemptId false s)).2.jobs
  unfold claimJob
  rw [if_neg Bool.false_ne_true, hrow]
  dsimp only
  rw [if_neg (by simp [hwaiting, hdue, hunspent])]
  split
  · exact hgone (f := claimCanceled now) rfl (setInboxRow_jobs ..)
  · obtain ⟨t, ht⟩ := insertAttempt_isSome hs worker.owner now hrow hfresh
    rw [ht]
    obtain ⟨attempts, -, rfl⟩ := TaskStore.insertAttempt_eq_some ht
    exact hgone (f := claimed worker.owner now) rfl (setInboxRow_jobs ..)

/-- The message that an execution consumes announces no job that goes on waiting. -/
theorem Deliverable.execute (h : Deliverable s) {message : BackgroundTaskService.Message}
    (hm : s.messages[i]? = some message) (worker : WorkerId) {attemptId : UUID} {locked : Bool}
    (hfresh : s.store.attempts.find? attemptId = none) {kept : List BackgroundTaskService.Message}
    (hkept : kept = s.messages ∨ kept = s.messages.eraseIdx i)
    (hcarried : ∀ row ∈ s.store.jobs, jobWaiting row.status = true →
      (∃ event ∈ s.store.outboxEvents, Heralds s.publishers row event) ∨
        (∃ message ∈ kept, Timely row message) ∨ locked = false ∧ Timely row message) :
    Deliverable { s with
      store := (execute message.jobId worker attemptId locked s.clock s.store).2
      messages := kept } := by
  have hannounces : Announces s.store
      (BackgroundTaskService.execute message.jobId worker attemptId locked s.clock s.store).2 := by
    unfold BackgroundTaskService.execute
    split
    · exact .refl
    · rename_i hclaim
      exact claimJob_announces hclaim
  have hreached : ∃ calls, Machine.run step TaskStore.empty calls =
      (BackgroundTaskService.execute message.jobId worker attemptId locked s.clock s.store).2 := by
    rw [execute_store]
    exact reached_step h.reached _
  refine h.kept hannounces.delivers.outboxKept hreached (fun message hmessage ↦ ?_)
    fun row hrow hwaiting ↦ ?_
  · rcases hkept with rfl | rfl
    · exact h.messages message hmessage
    · exact h.messages message (List.mem_of_mem_eraseIdx hmessage)
  · rcases hannounces.waiting row hrow hwaiting with hold | ha
    · rcases hcarried row hold hwaiting with ⟨event, he, hheralds⟩ | hmessage | ⟨rfl, htimely⟩
      · exact .inl ⟨event, hannounces.kept event he, hheralds⟩
      · exact .inr hmessage
      · have hdue := htimely.2.trans (h.messages message (List.mem_of_getElem? hm))
        have hfound : s.store.jobs.find? message.jobId = some row :=
          Table.find?_eq_some.mpr ⟨hold, htimely.1.symm⟩
        exact absurd hrow (execute_takes h.reached hfound hwaiting hdue hfresh)
    · obtain ⟨event, he, -, hheralds⟩ := h.announced ha
      exact .inl ⟨event, he, hheralds⟩

/-- A request to the services, the recovery included. -/
theorem Deliverable.request (h : Deliverable s) (call : ServiceCall)
    (hq : ∀ freshId lockedJobs lockedEvents,
      call = .recoverExpired freshId lockedJobs lockedEvents →
        Unexhausted s (recoverable s.clock lockedEvents)) :
    Deliverable { s with store := (step s.store (call.call s.clock)).2 } := by
  have hreached := reached_step h.reached (call.call s.clock)
  have hreply : ∀ {α : Type} {f : α → TaskReply} {x : Transaction α},
      (∀ a t, x = .ok (a, t) → Delivers s.store t) →
      (∃ calls, Machine.run step TaskStore.empty calls = (reply s.store f x).2) →
        Deliverable { s with store := (reply s.store f x).2 } := fun hx hreached ↦
    h.delivers (reply_state (P := Delivers s.store) Announces.refl.delivers hx) hreached
  cases call with
  | enqueue request => exact hreply (fun _ _ ht ↦ (enqueue_announces request ht).delivers) hreached
  | cancel tenantId jobId => exact h.delivers requestCancel_delivers hreached
  | replay tenantId sourceJobId request =>
    exact hreply (fun _ _ ht ↦ (replay_announces request ht).delivers) hreached
  | recoverExpired freshId lockedJobs lockedEvents =>
    have hrecover : ∀ a t, recoverExpiredLeases s.clock freshId lockedJobs lockedEvents s.store =
        .ok (a, t) → (∃ calls, Machine.run step TaskStore.empty calls = t) →
          Deliverable { s with store := t } := fun _ _ ht ↦ h.recover (hq _ _ _ rfl) ht
    exact reply_state (P := fun t ↦ (∃ calls, Machine.run step TaskStore.empty calls = t) →
      Deliverable { s with store := t }) (fun _ ↦ h) hrecover hreached
  | createAction request =>
    exact hreply (fun _ _ ht ↦ (createScheduledAction_announces request ht).delivers) hreached
  | cancelAction tenantId actionId => exact h.delivers cancelScheduledAction_delivers hreached
  | decideAction tenantId actionId decision budgetUsage dailyBudget =>
    exact hreply (fun _ _ ht ↦ (decideScheduledAction_announces ht).delivers) hreached

theorem Deliverable.settle (h : Deliverable s) (execution : Execution) (outcome : Outcome)
    (eventId : UUID) {now later : Datetime} (hlater : now ≤ later) :
    Deliverable { s with
      store := (step s.store (settlement execution outcome eventId now later hlater)).2 } := by
  have hreached := reached_step h.reached (settlement execution outcome eventId now later hlater)
  cases outcome with
  | result summary => exact h.delivers completeJob_announces.delivers hreached
  | raised errorCode permanent timedOut =>
    refine h.delivers (reply_state (P := Delivers s.store) Announces.refl.delivers
      fun _ _ ht ↦ ?_) hreached
    exact (failJob_announces (retryEvent execution.claim.job eventId now later hlater) ht).delivers

theorem Deliverable.unexhausted (h : Deliverable s) (hP : Persists s input)
    (hmessages : passedOver input = none) {q : OutboxEvent → Bool}
    (hq : ∀ event, q event = true → releasing s input event = true) : Unexhausted s q := by
  intro row hrow hwaiting
  rcases h.carried hP hrow hwaiting with ⟨event, he, hkept, hheralds⟩ | ⟨message, hm, htimely⟩
  · refine .inl ⟨event, he, fun hreleased ↦ ?_, hheralds⟩
    simpa [givesUp, hq event hreleased] using hkept
  · rw [spared, hmessages] at hm
    exact .inr ⟨message, hm, htimely⟩

/-- What an execution leaves of the messages, besides the one it takes up itself. -/
theorem Deliverable.carried_execute (h : Deliverable s) {elapsed : ℕ} {worker : WorkerId}
    {attemptId : UUID} {locked acknowledged : Bool}
    (hP : Persists s ⟨elapsed, .execute i worker attemptId locked acknowledged⟩)
    {message : BackgroundTaskService.Message} (hm : s.messages[i]? = some message)
    (hrow : row ∈ s.store.jobs) (hwaiting : jobWaiting row.status = true) :
    (∃ event ∈ s.store.outboxEvents, Heralds s.publishers row event) ∨
      (∃ message ∈ if acknowledged then s.messages.eraseIdx i else s.messages,
        Timely row message) ∨ locked = false ∧ Timely row message := by
  rcases h.carried hP hrow hwaiting with ⟨event, he, -, hheralds⟩ | ⟨other, hother, htimely⟩
  · exact .inl ⟨event, he, hheralds⟩
  cases acknowledged with
  | false =>
    rw [spared] at hother
    cases locked <;> exact .inr (.inl ⟨other, hother, htimely⟩)
  | true =>
    cases locked with
    | true => exact .inr (.inl ⟨other, hother, htimely⟩)
    | false =>
      obtain ⟨j, hj⟩ := List.mem_iff_getElem?.mp hother
      by_cases hsame : j = i
      · obtain rfl : other = message := Option.some.inj (hj.symm.trans (hsame ▸ hm))
        exact .inr (.inr ⟨rfl, htimely⟩)
      · exact .inr (.inl ⟨other, List.mem_eraseIdx_iff_getElem?.mpr ⟨j, hsame, hj⟩, htimely⟩)

theorem deliver_deliverable (h : Deliverable s) (hP : Persists s input) :
    Deliverable (deliver s input).2 := by
  obtain ⟨elapsed, action⟩ := input
  have hnow : Deliverable { s with clock := s.clock + elapsed } :=
    h.later (Nat.le_add_right ..) s.executions
  cases action with
  | request call =>
    refine hnow.request call fun freshId lockedJobs lockedEvents hcall ↦ ?_
    subst hcall
    exact h.unexhausted hP rfl fun _ hq ↦ hq
  | publishDue workerId leaseSeconds retryBaseSeconds maximum rank locked =>
    dsimp only [deliver]
    split
    · exact hnow
    · rename_i p t hpublish
      obtain ⟨owner, expiry, count, -, rfl, rfl⟩ := publishDue_eq_ok hpublish
      exact hnow.publishDue rfl rfl
  | publish i failure =>
    dsimp only [deliver]
    split
    · exact hnow
    · rename_i p hp
      refine hnow.turn hp failure fun event hevent ↦ h.unexhausted hP rfl fun row hq ↦ ?_
      have hfound : s.publishers[i]? = some p := hp
      simp only [releasing, hfound, Option.any_some, Option.mem_def.mp hevent]
      exact hq
  | execute i worker attemptId locked acknowledged =>
    dsimp only [deliver]
    split
    · exact hnow
    · rename_i message hm
      split
      · exact hnow
      · rename_i hfresh
        have hkept : (if acknowledged then s.messages.eraseIdx i else s.messages) = s.messages ∨
            (if acknowledged then s.messages.eraseIdx i else s.messages) =
              s.messages.eraseIdx i := by cases acknowledged <;> simp
        have hexecuted := hnow.execute hm worker (by simpa using hfresh) hkept
          fun row hrow hwaiting ↦ h.carried_execute hP hm hrow hwaiting
        exact hexecuted.later (Nat.le_refl _) _
  | renew i =>
    dsimp only [deliver]
    split
    · exact hnow
    · exact hnow.delivers renewJobLease_announces.delivers (reached_step hnow.reached _)
  | settle i outcome eventId gap =>
    dsimp only [deliver]
    split
    · exact hnow
    · rename_i execution hexecution
      exact (hnow.settle execution outcome eventId (Nat.le_add_right ..)).later
        (Nat.le_add_right ..) _

end invariant

def NoneStranded (s : DeliveryState) : Prop :=
  ∀ row ∈ s.store.jobs.rows, jobWaiting row.status = true →
    (∃ event ∈ s.store.outboxEvents.rows, event.jobId = row.id ∧
      outboxLive event.status = true) ∨ ∃ message ∈ s.messages, message.jobId = row.id

instance (s : DeliveryState) : Decidable (NoneStranded s) :=
  inferInstanceAs (Decidable (∀ row ∈ _, _))

theorem Deliverable.noneStranded {s : DeliveryState} (h : Deliverable s) : NoneStranded s := by
  intro row hrow hwaiting
  rcases h.waiting row hrow hwaiting with ⟨event, he, hheralds⟩ | ⟨message, hm, htimely⟩
  · exact .inl ⟨event, he, hheralds.jobId, hheralds.live⟩
  · exact .inr ⟨message, hm, htimely.1⟩

/-- No job is stranded in a run in which no action drops the last announcement of a waiting job. -/
theorem no_job_stranded (inputs : List DeliveryInput)
    (h : Machine.Along deliver Persists .empty inputs) :
    NoneStranded (Machine.run deliver .empty inputs) :=
  (Machine.run_invariant (fun _ _ hs hP ↦ deliver_deliverable hs hP) deliverable_empty h).noneStranded

theorem five_attempts : 1 ≤ 5 ∧ 5 ≤ 20 := by decide

/-- A call of `publish_due` whose dispatch raises. -/
def failedRound (i : ℕ) : List DeliveryInput :=
  [⟨seconds 1000, .publishDue "publisher" 30 5 100 (fun _ ↦ 0) (fun _ ↦ false)⟩,
    ⟨0, .publish i (some "ConnectionError")⟩, ⟨1, .publish i none⟩, ⟨1, .publish i none⟩]

def crashedPublisher : List DeliveryInput :=
  ⟨0, .request (.enqueue (reflectionRequest 1 2 5 five_attempts))⟩ :: failedRound 0 ++
    [⟨seconds 1000, .publishDue "publisher" 30 5 100 (fun _ ↦ 0) (fun _ ↦ false)⟩,
      ⟨1, .publish 1 none⟩,
      ⟨1, .execute 0 ⟨"worker", "worker", by decide +kernel⟩ 7 false true⟩,
      ⟨seconds 30, .request (.recoverExpired id (fun _ ↦ false) (fun _ ↦ false))⟩,
      ⟨1, .settle 0 (.raised "TimeoutError" false true) 3 1⟩]

theorem no_job_stranded_crashedPublisher :
    let s := Machine.run deliver .empty crashedPublisher
    s.store.jobs.rows.map BackgroundJob.status = [.retrying] ∧
      s.store.outboxEvents.rows.map OutboxEvent.status = [.retrying, .pending] ∧
      s.messages.length = 0 ∧ NoneStranded s :=
  ⟨by decide +kernel, by decide +kernel, by decide +kernel,
    no_job_stranded crashedPublisher (by decide +kernel)⟩

/-- Five dispatches in a row that raise use up the attempts of the event, while the job waits. -/
theorem outage_strands_job : ¬∀ inputs, NoneStranded (Machine.run deliver .empty inputs) := by
  have hstranded : ¬NoneStranded (Machine.run deliver .empty
      (⟨0, .request (.enqueue (reflectionRequest 1 2 5 five_attempts))⟩ ::
        (List.range 5).flatMap failedRound)) := by
    decide +kernel
  exact fun h ↦ hstranded (h _)

end CyberNetizen.Tasks
