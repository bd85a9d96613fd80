import CyberNetizen.Lib.Machine
import CyberNetizen.Lib.Reservation
import CyberNetizen.Application.ChannelService

namespace CyberNetizen.Channels

open Domain Adapters Infrastructure Infrastructure.ChannelRepository KeyedTable Reservation
open Application Application.ChannelService

abbrev DeliveryKey := UUID × String

/-- The tables, the calls of `deliver` made so far, and the messages the platforms have accepted. -/
structure DeliveryState where
  store : ChannelStore
  calls : List Call
  accepted : List DeliveryKey

namespace DeliveryState

def empty : DeliveryState := ⟨.empty, [], []⟩

end DeliveryState

inductive DeliveryAction
  | createInstance (row : ChannelInstance)
  | updateInstance (row : ChannelInstance)
  | request (delivery : Delivery)
  | advance (i : ℕ) (choice : Choice)
  | crash (i : ℕ)

def holderKey? : Phase → Option String
  | .reserveRateLimit prepared | .send prepared | .recordFailure prepared _ =>
    some prepared.idempotencyKey
  | _ => none

def confirmerKey? : Phase → Option String
  | .recordDelivered prepared _ => some prepared.idempotencyKey
  | _ => none

def isFinal : Phase → Bool
  | .returned _ | .raised _ | .crashed => true
  | _ => false

section

variable (markdownToText : Option String → String)
  (capabilities : ChannelPlatform → ChannelCapabilities) (backend : Backend)

def newlyAccepted (call : Call) (accepted : Bool) : List DeliveryKey :=
  if accepted then
    ((holderKey? call.phase).map fun idempotencyKey ↦
      (call.delivery.channelId, idempotencyKey)).toList
  else []

/-- Calls are made and advance in any order. A session that raises rolls back and ends the call; a
crash ends it wherever it stands. -/
def deliveryStep (s : DeliveryState) : DeliveryAction → Unit × DeliveryState
  | .createInstance row => ((), { s with store := createInstance row s.store })
  | .updateInstance row => ((), { s with store := updateInstance backend row s.store })
  | .request delivery => ((), { s with calls := s.calls ++ [⟨delivery, .getInstance⟩] })
  | .advance i choice =>
    match s.calls[i]? with
    | none => ((), s)
    | some call =>
      if choice.faulty ∧ isSession call.phase then
        ((), { s with calls := s.calls.set i { call with phase := .raised .unexpected } })
      else
        let (phase, store, accepted) := deliver markdownToText capabilities backend call choice
          s.store
        ((), ⟨store, s.calls.set i { call with phase }, newlyAccepted call accepted ++ s.accepted⟩)
  | .crash i =>
    match s.calls[i]? with
    | none => ((), s)
    | some call =>
      if isFinal call.phase then ((), s)
      else ((), { s with calls := s.calls.set i { call with phase := .crashed } })

end

def eventStatus (store : ChannelStore) (key : DeliveryKey) : Option ChannelEventStatus :=
  (store.events.find? (key.1, .outbound, key.2)).map (·.status)

def slotStatus : Option ChannelEventStatus → Status
  | none => .vacant
  | some .accepted => .reserved
  | some status => if status.isSuccess then .settled else .vacant

def isHolder (key : DeliveryKey) (call : Call) : Bool :=
  (holderKey? call.phase).any fun idempotencyKey ↦ (call.delivery.channelId, idempotencyKey) = key

def isConfirmer (key : DeliveryKey) (call : Call) : Bool :=
  (confirmerKey? call.phase).any fun idempotencyKey ↦
    (call.delivery.channelId, idempotencyKey) = key

def slot (s : DeliveryState) (key : DeliveryKey) : Slot where
  status := slotStatus (eventStatus s.store key)
  holders := s.calls.countP (isHolder key)
  confirming := s.calls.countP (isConfirmer key)
  accepted := s.accepted.count key

def target? : Phase → Option (ChannelInstance × String)
  | .getEvent channel idempotencyKey | .recordEarlyFailure channel idempotencyKey _ =>
    some (channel, idempotencyKey)
  | .resolveCredential prepared | .reserve prepared | .rereadEvent prepared
  | .reserveRateLimit prepared | .send prepared | .recordFailure prepared _
  | .recordDelivered prepared _ => some (prepared.channel, prepared.idempotencyKey)
  | _ => none

/-- What a call has found out is about its own delivery. -/
structure PhaseKept (delivery : Delivery) (phase : Phase) : Prop where
  target : ∀ channel idempotencyKey, target? phase = some (channel, idempotencyKey) →
    channel.id = delivery.channelId ∧ channel.tenantId = delivery.tenantId ∧
      idempotencyKey = strip delivery.idempotencyKey
  result : ∀ prepared result, phase = .recordDelivered prepared result →
    result.status.isSuccess = true

def Kept (s : DeliveryState) : Prop := ∀ call ∈ s.calls, PhaseKept call.delivery call.phase

section status

variable {backend : Backend} {raced : Bool} {event : ChannelDiagnosticEvent} {s : ChannelStore}

theorem eventKey_replaced {existing : ChannelDiagnosticEvent}
    (h : s.events.find? (eventKey event) = some existing) :
    eventKey (replaced backend existing event) = eventKey event := by
  have hkey : eventKey existing = eventKey event := Table.key_of_find? h
  cases backend with
  | sqlAlchemy => exact hkey
  | inMemory => rfl

theorem eventKey_reoccupied {existing : ChannelDiagnosticEvent}
    (h : s.events.find? (eventKey event) = some existing) :
    eventKey (reoccupied backend existing event) = eventKey event := by
  have hkey : eventKey existing = eventKey event := Table.key_of_find? h
  cases backend with
  | sqlAlchemy => exact hkey
  | inMemory => rfl

theorem eventStatus_put {row : ChannelDiagnosticEvent} {key : DeliveryKey}
    (h : eventKey row = (key.1, .outbound, key.2)) (key' : DeliveryKey) :
    eventStatus { s with events := s.events.put row } key' =
      if key' = key then some row.status else eventStatus s key' := by
  unfold eventStatus
  dsimp only
  rw [Table.find?_put, h]
  by_cases hk : key' = key
  · rw [if_pos hk, if_pos (by rw [hk])]
    rfl
  · have hne : ¬((key'.1, ChannelEventDirection.outbound, key'.2) =
        (key.1, ChannelEventDirection.outbound, key.2)) := by
      intro he
      simp only [Prod.mk.injEq, true_and] at he
      exact hk (Prod.ext he.1 he.2)
    rw [if_neg hk, if_neg hne]

/-- What `record_event` makes of the status found. -/
def recordedStatus (backend : Backend) (raced : Bool) (status : ChannelEventStatus) :
    Option ChannelEventStatus → ChannelEventStatus
  | none => status
  | some existing =>
    if backend = .sqlAlchemy ∧ raced then existing
    else if overwrites existing status then status else existing

theorem eventStatus_recordEvent {k : DeliveryKey}
    (h : eventKey event = (k.1, .outbound, k.2)) (key' : DeliveryKey) :
    eventStatus (recordEvent backend raced event s).2 key' =
      if key' = k then some (recordedStatus backend raced event.status (eventStatus s k))
      else eventStatus s key' := by
  have hstatus : ∀ {row}, s.events.find? (eventKey event) = row →
      eventStatus s k = row.map (·.status) := by
    intro row hrow
    rw [eventStatus, ← h, hrow]
  unfold recordEvent
  cases hf : s.events.find? (eventKey event) with
  | none =>
    rw [hstatus hf]
    exact eventStatus_put h key'
  | some existing =>
    have hsame : eventStatus s key' =
        if key' = k then some existing.status else eventStatus s key' := by
      by_cases hk : key' = k
      · rw [if_pos hk, hk, hstatus hf]
        rfl
      · rw [if_neg hk]
    rw [hstatus hf]
    dsimp only [Option.map_some, recordedStatus]
    by_cases hraced : backend = .sqlAlchemy ∧ raced = true
    · rw [if_pos hraced, if_pos hraced]
      exact hsame
    · rw [if_neg hraced, if_neg hraced]
      by_cases ho : overwrites existing.status event.status = true
      · rw [if_pos ho, if_pos ho]
        refine (eventStatus_put ((eventKey_replaced hf).trans h) key').trans ?_
        cases backend <;> rfl
      · rw [if_neg ho, if_neg ho]
        exact hsame

theorem slotStatus_failure {status : ChannelEventStatus} (h : status ≠ .accepted)
    (hs : status.isSuccess = false) : slotStatus (some status) = .vacant := by
  cases status with
  | accepted => exact absurd rfl h
  | delivered | degraded => cases hs
  | rejected | failed | rateLimited => rfl

theorem slotStatus_success {status : ChannelEventStatus} (hs : status.isSuccess = true) :
    slotStatus (some status) = .settled := by
  cases status with
  | delivered | degraded => rfl
  | accepted | rejected | failed | rateLimited => cases hs

theorem recordedStatus_some (status existing : ChannelEventStatus) :
    recordedStatus backend false status (some existing) =
      if overwrites existing status then status else existing := by
  simp [recordedStatus]

/-- A recorded failure gives a reservation back and leaves a sending alone. -/
theorem slotStatus_recorded_failure {status : ChannelEventStatus} (h : status ≠ .accepted)
    (hs : status.isSuccess = false) (existing : Option ChannelEventStatus) :
    slotStatus (some (recordedStatus backend false status existing)) =
      (slotStatus existing).released := by
  cases existing with
  | none => exact slotStatus_failure h hs
  | some existing =>
    rw [recordedStatus_some]
    have ho : overwrites existing status = decide (existing = .accepted) := by
      simp [overwrites, h, hs]
    rw [ho]
    by_cases he : existing = .accepted
    · rw [if_pos (decide_eq_true he), he]
      exact slotStatus_failure h hs
    · rw [if_neg (by simpa using he)]
      cases existing with
      | accepted => exact absurd rfl he
      | delivered | degraded | rejected | failed | rateLimited => rfl

theorem slotStatus_recorded_success {status : ChannelEventStatus} (hs : status.isSuccess = true)
    (existing : Option ChannelEventStatus) :
    slotStatus (some (recordedStatus backend false status existing)) = .settled := by
  cases existing with
  | none => exact slotStatus_success hs
  | some existing =>
    rw [recordedStatus_some]
    by_cases ho : overwrites existing status = true
    · rw [if_pos ho]
      exact slotStatus_success hs
    · rw [if_neg ho]
      have hkept : (existing = .accepted → status = .accepted) ∧ existing.isSuccess = true := by
        simpa [overwrites, hs] using ho
      exact slotStatus_success hkept.2

/-- A reservation succeeds only on a vacant message, and changes nothing when it fails. -/
theorem reserveDelivery_cases (backend : Backend) (raced : Bool) (s : ChannelStore)
    {e : ChannelDiagnosticEvent} {k : DeliveryKey}
    (h : eventKey e = (k.1, .outbound, k.2)) (haccepted : e.status = .accepted) :
    (∃ s', reserveDelivery backend raced e s = (true, s') ∧
      slotStatus (eventStatus s k) = .vacant ∧ s'.instances = s.instances ∧
      s'.rateWindows = s.rateWindows ∧
      ∀ key', eventStatus s' key' =
        if key' = k then some .accepted else eventStatus s key') ∨
    reserveDelivery backend raced e s = (false, s) := by
  unfold reserveDelivery
  cases hf : s.events.find? (eventKey e) with
  | none =>
    refine .inl ⟨_, rfl, ?_, rfl, rfl, fun key' ↦ ?_⟩
    · rw [eventStatus, ← h, hf]
      rfl
    · rw [eventStatus_put h key', haccepted]
  | some existing =>
    dsimp only
    by_cases hr : (backend = .sqlAlchemy ∧ raced = true) ∨ existing.status.isSuccess = true ∨
        existing.status = .accepted
    · rw [if_pos hr]
      exact .inr rfl
    · rw [if_neg hr]
      refine .inl ⟨_, rfl, ?_, rfl, rfl, fun key' ↦ ?_⟩
      · rw [not_or, not_or] at hr
        rw [eventStatus, ← h, hf, Option.map_some]
        cases hs : existing.status <;> first | rfl | simp [hs, ChannelEventStatus.isSuccess] at hr
      · rw [eventStatus_put ((eventKey_reoccupied hf).trans h) key']
        have hstatus : (reoccupied backend existing e).status = .accepted := by
          cases backend <;> exact haccepted
        rw [hstatus]

end status

def inFlight (phase : Phase) : Bool := (holderKey? phase).isSome || (confirmerKey? phase).isSome

/-- The step reports no accepted message as failed, and records no failure of a call that has
reserved nothing over the reservation of another. -/
def isHonest (s : DeliveryState) : DeliveryAction → Bool
  | .advance i choice => (s.calls[i]?).all fun call ↦
    match call.phase with
    | .send prepared =>
      !((choice.exchange prepared).accepted && (choice.exchange prepared).outcome.isError)
    | .recordEarlyFailure _ idempotencyKey _ => choice.faulty ||
      eventStatus s.store (call.delivery.channelId, idempotencyKey) ≠ some .accepted
    | _ => true
  | _ => true

/-- The step ends no call between its reservation and the record of its outcome: no crash, no
session that raises, no exception of the adapter but its own. -/
def isAttended (s : DeliveryState) : DeliveryAction → Bool
  | .crash i => (s.calls[i]?).all fun call ↦ !inFlight call.phase
  | .advance i choice => (s.calls[i]?).all fun call ↦
    match call.phase with
    | .send prepared => !(choice.exchange prepared).outcome.isUnexpected
    | phase => !(inFlight phase && choice.faulty)
  | _ => true

section step

variable {markdownToText : Option String → String}
  {capabilities : ChannelPlatform → ChannelCapabilities} {backend : Backend} {s : DeliveryState}
  {i : ℕ} {call : Call} {choice : Choice}

theorem deliveryStep_advance (hcall : s.calls[i]? = some call)
    (hf : ¬(choice.faulty = true ∧ isSession call.phase = true)) :
    (deliveryStep markdownToText capabilities backend s (.advance i choice)).2 =
      let r := deliver markdownToText capabilities backend call choice s.store
      ⟨r.2.1, s.calls.set i { call with phase := r.1 }, newlyAccepted call r.2.2 ++ s.accepted⟩ := by
  simp only [deliveryStep, hcall, if_neg hf]

theorem deliveryStep_faulty (hcall : s.calls[i]? = some call)
    (hf : choice.faulty = true ∧ isSession call.phase = true) :
    (deliveryStep markdownToText capabilities backend s (.advance i choice)).2 =
      { s with calls := s.calls.set i { call with phase := .raised .unexpected } } := by
  simp only [deliveryStep, hcall, if_pos hf]

theorem accepted_of_isHonest {prepared : Prepared} {error : ChannelAdapterError}
    (h : isHonest s (.advance i choice) = true) (hcall : s.calls[i]? = some call)
    (hp : call.phase = .send prepared) (ho : (choice.exchange prepared).outcome = .error error) :
    (choice.exchange prepared).accepted = false := by
  simpa [isHonest, hcall, hp, ho, AdapterOutcome.isError] using h

theorem eventStatus_of_isHonest {channel : ChannelInstance} {idempotencyKey : String}
    {error : ChannelAdapterError} (h : isHonest s (.advance i choice) = true)
    (hcall : s.calls[i]? = some call)
    (hp : call.phase = .recordEarlyFailure channel idempotencyKey error)
    (hf : choice.faulty = false) :
    eventStatus s.store (call.delivery.channelId, idempotencyKey) ≠ some .accepted := by
  simpa [isHonest, hcall, hp, hf] using h

theorem outcome_of_isAttended {prepared : Prepared}
    (h : isAttended s (.advance i choice) = true) (hcall : s.calls[i]? = some call)
    (hp : call.phase = .send prepared) : (choice.exchange prepared).outcome ≠ .unexpected := by
  intro ho
  simp [isAttended, hcall, hp, ho, AdapterOutcome.isUnexpected] at h

theorem inFlight_of_isAttended (h : isAttended s (.advance i choice) = true)
    (hcall : s.calls[i]? = some call) (hf : choice.faulty = true)
    (hs : isSession call.phase = true) : inFlight call.phase = false := by
  unfold isAttended at h
  dsimp only at h
  rw [hcall, Option.all_some] at h
  cases hp : call.phase with
  | send prepared => rw [hp] at hs; cases hs
  | _ =>
    rw [hp] at h
    simpa [hf] using h

theorem countP_split {α : Type} {l : List α} {i : ℕ} {a : α} (h : l[i]? = some a) (p : α → Bool) :
    ∃ n, l.countP p = n + (p a).toNat ∧ ∀ b, (l.set i b).countP p = n + (p b).toNat := by
  induction l generalizing i with
  | nil => cases h
  | cons x l ih =>
    cases i with
    | zero =>
      obtain rfl := Option.some.inj h
      refine ⟨l.countP p, ?_, fun b ↦ ?_⟩
      · rw [List.countP_cons]
        cases p x <;> rfl
      · rw [List.set_cons_zero, List.countP_cons]
        cases p b <;> rfl
    | succ i =>
      obtain ⟨n, hn, hset⟩ := ih h
      refine ⟨n + if p x then 1 else 0, ?_, fun b ↦ ?_⟩
      · rw [List.countP_cons, hn]
        omega
      · rw [List.set_cons_succ, List.countP_cons, hset b]
        omega

theorem slot_split (hcall : s.calls[i]? = some call) (key : DeliveryKey) :
    ∃ h c, slot s key = ⟨slotStatus (eventStatus s.store key), h + (isHolder key call).toNat,
        c + (isConfirmer key call).toNat, s.accepted.count key⟩ ∧
      ∀ store phase accepted,
        slot ⟨store, s.calls.set i { call with phase }, accepted⟩ key =
          ⟨slotStatus (eventStatus store key), h + (isHolder key { call with phase }).toNat,
            c + (isConfirmer key { call with phase }).toNat, accepted.count key⟩ := by
  obtain ⟨h, hh, hset⟩ := countP_split hcall (isHolder key)
  obtain ⟨c, hc, hset'⟩ := countP_split hcall (isConfirmer key)
  refine ⟨h, c, ?_, fun store phase accepted ↦ ?_⟩
  · rw [slot, hh, hc]
  · rw [slot, hset, hset']

/-- A call that is not between reservation and record before or after its step leaves the share of
every message at nothing. -/
theorem share_eq_zero (call : Call) (key : DeliveryKey) (h : inFlight call.phase = false) :
    isHolder key call = false ∧ isConfirmer key call = false := by
  unfold inFlight at h
  rw [Bool.or_eq_false_iff, Option.isSome_eq_false_iff, Option.isSome_eq_false_iff,
    Option.isNone_iff_eq_none, Option.isNone_iff_eq_none] at h
  exact ⟨by rw [isHolder, h.1]; rfl, by rw [isConfirmer, h.2]; rfl⟩

end step

end CyberNetizen.Channels
