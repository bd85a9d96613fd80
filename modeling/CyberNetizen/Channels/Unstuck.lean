import CyberNetizen.Adapters.Telegram
import CyberNetizen.Channels.SlotRefinement

namespace CyberNetizen.Channels

open Domain Adapters Infrastructure Infrastructure.ChannelRepository KeyedTable Reservation
open Application Application.ChannelService

section

variable (markdownToText : Option String → String)
  (capabilities : ChannelPlatform → ChannelCapabilities) (backend : Backend)

structure SentOnce (s : DeliveryState) : Prop where
  kept : Kept s
  slots : ∀ key, (slot s key).AtMostOnce

theorem sentOnce_empty : SentOnce .empty where
  kept := fun _ h ↦ absurd h List.not_mem_nil
  slots := fun _ ↦ ⟨Nat.zero_le 1, fun _ ↦ rfl⟩

theorem sentOnce_step {s : DeliveryState} (h : SentOnce s) {a : DeliveryAction}
    (ha : isHonest s a = true) :
    SentOnce (deliveryStep markdownToText capabilities backend s a).2 where
  kept := deliveryStep_kept h.kept a
  slots := by
    intro key
    obtain ⟨move, hmove⟩ := deliveryStep_answers h.kept a key
    exact hmove.moves.atMostOnce (hmove.honest ha) (h.slots key)

/-- No platform accepts two messages for one key in a run in which what an adapter reports as an
error has not been accepted, and in which a call that fails before it has reserved the key meets
no reservation. -/
theorem accepted_at_most_once (as : List DeliveryAction)
    (h : Machine.Along (deliveryStep markdownToText capabilities backend)
      (fun s a ↦ isHonest s a = true) .empty as) (key : DeliveryKey) :
    (Machine.run (deliveryStep markdownToText capabilities backend) .empty as).accepted.count key ≤
      1 := by
  have hrun := Machine.run_invariant (I := SentOnce)
    (fun s a hs ha ↦ sentOnce_step markdownToText capabilities backend hs ha) sentOnce_empty h
  have hbound := (hrun.slots key).bound
  exact Nat.le_trans (Nat.le_add_left _ _) hbound

end

section examples

def allTelegram : ChannelPlatform → ChannelCapabilities := fun _ ↦ Telegram.capabilities

/-- A stand-in that leaves the text as it is; the messages below have no markdown. -/
def keepText : Option String → String := fun text ↦ text.getD ""

def supportBot : ChannelInstance := ⟨1, 1, 1, .telegram, .enabled, 60⟩

def botToken : String := "123456:AAAAAAAAAAAAAAAAAAAA"

def answerDelivery : Delivery where
  tenantId := 1
  agentId := 1
  channelId := 1
  recipientId := "42"
  blocks := [{ kind := .text, text := some "hello" }]
  idempotencyKey := "reply-1"
  requestStreaming := false
  threadId := none
  editMessageId := none
  proactive := false

def meeting (api : Telegram.BotApi) : Choice where
  clock := 0
  eventId := 1
  credential := some botToken
  adapter := fun command negotiation ↦
    Telegram.exchange command negotiation (some botToken) api 0
  raced := false
  faulty := false

def attempt (i : ℕ) (choice : Choice) : List DeliveryAction :=
  .request answerDelivery :: List.replicate 7 (.advance i choice)

def BotApi.rejecting : Telegram.BotApi where
  accepts := fun _ ↦ false
  reply := fun _ ↦ .response 403 none
  honest := fun _ _ h ↦ nomatch h

def BotApi.accepting : Telegram.BotApi where
  accepts := fun _ ↦ true
  reply := fun _ ↦ .response 200 (some (.dict [("ok", .bool true),
    ("result", .dict [("message_id", .int 9)])]))
  honest := fun _ _ _ ↦ rfl

theorem accepted_at_most_once_retry :
    (Machine.run (deliveryStep keepText allTelegram .sqlAlchemy) .empty
      (.createInstance supportBot :: attempt 0 (meeting BotApi.rejecting) ++
        attempt 1 (meeting BotApi.accepting))).accepted.count (1, "reply-1") ≤ 1 :=
  accepted_at_most_once keepText allTelegram .sqlAlchemy _ (by decide +kernel) _

/-- Whatever the repository, a message whose reply is lost is sent again by a retry. -/
theorem replyLost_accepted_twice :
    let run := fun backend ↦ Machine.run (deliveryStep keepText allTelegram backend) .empty
      (.createInstance supportBot :: attempt 0 (meeting .replyLost) ++
        attempt 1 (meeting .replyLost))
    (run .sqlAlchemy).accepted.count (1, "reply-1") = 2 ∧
      (run .inMemory).accepted.count (1, "reply-1") = 2 := by
  decide +kernel

end examples

end CyberNetizen.Channels

namespace CyberNetizen.Channels

open Domain Adapters Infrastructure Infrastructure.ChannelRepository KeyedTable Reservation
open Application Application.ChannelService

def Delivery.key (delivery : Delivery) : DeliveryKey :=
  (delivery.channelId, strip delivery.idempotencyKey)

def Idle (s : DeliveryState) (key : DeliveryKey) : Prop :=
  ∀ call ∈ s.calls, Delivery.key call.delivery = key → isFinal call.phase = true

instance (s : DeliveryState) (key : DeliveryKey) : Decidable (Idle s key) :=
  inferInstanceAs (Decidable (∀ call ∈ s.calls, _ → _))

section

variable (markdownToText : Option String → String)
  (capabilities : ChannelPlatform → ChannelCapabilities) (backend : Backend)

structure Tended (s : DeliveryState) : Prop where
  kept : Kept s
  slots : ∀ key, (slot s key).Attended

theorem tended_empty : Tended .empty where
  kept := fun _ h ↦ absurd h List.not_mem_nil
  slots := fun _ ↦ ⟨fun h ↦ (nomatch h), fun h ↦ (nomatch h), fun h ↦ absurd h (Nat.lt_irrefl 0)⟩

theorem tended_step {s : DeliveryState} (h : Tended s) {a : DeliveryAction}
    (ha : isAttended s a = true) :
    Tended (deliveryStep markdownToText capabilities backend s a).2 where
  kept := deliveryStep_kept h.kept a
  slots := by
    intro key
    obtain ⟨move, hmove⟩ := deliveryStep_answers h.kept a key
    exact hmove.moves.attended (hmove.attended ha) (h.slots key)

theorem target_of_inFlight {phase : Phase} {idempotencyKey : String}
    (h : holderKey? phase = some idempotencyKey ∨ confirmerKey? phase = some idempotencyKey) :
    ∃ channel, target? phase = some (channel, idempotencyKey) := by
  cases phase with
  | reserveRateLimit prepared | send prepared | recordFailure prepared error =>
    rcases h with h | h
    · exact ⟨prepared.channel, by rw [← Option.some.inj h]; rfl⟩
    · cases h
  | recordDelivered prepared result =>
    rcases h with h | h
    · cases h
    · exact ⟨prepared.channel, by rw [← Option.some.inj h]; rfl⟩
  | _ => rcases h with h | h <;> cases h

theorem key_of_inFlight {call : Call} (hk : PhaseKept call.delivery call.phase)
    {idempotencyKey : String} {key : DeliveryKey}
    (h : holderKey? call.phase = some idempotencyKey ∨
      confirmerKey? call.phase = some idempotencyKey)
    (hkey : (call.delivery.channelId, idempotencyKey) = key) : Delivery.key call.delivery = key := by
  obtain ⟨channel, ht⟩ := target_of_inFlight h
  obtain ⟨-, -, hstrip⟩ := hk.target channel idempotencyKey ht
  rw [Delivery.key, ← hstrip, hkey]

theorem share_of_idle {s : DeliveryState} (hk : Kept s) {key : DeliveryKey} (h : Idle s key) :
    (slot s key).holders = 0 ∧ (slot s key).confirming = 0 := by
  constructor
  · refine List.countP_eq_zero.mpr fun call hcall hholder ↦ ?_
    obtain ⟨idempotencyKey, hp, hkey⟩ := (Option.any_eq_true ..).mp hholder
    have hmine := key_of_inFlight (hk call hcall) (.inl hp) (of_decide_eq_true hkey)
    have hnone := (share_eq_zero call key (inFlight_of_final (h call hcall hmine))).1
    rw [hholder] at hnone
    cases hnone
  · refine List.countP_eq_zero.mpr fun call hcall hconfirmer ↦ ?_
    obtain ⟨idempotencyKey, hp, hkey⟩ := (Option.any_eq_true ..).mp hconfirmer
    have hmine := key_of_inFlight (hk call hcall) (.inr hp) (of_decide_eq_true hkey)
    have hnone := (share_eq_zero call key (inFlight_of_final (h call hcall hmine))).2
    rw [hconfirmer] at hnone
    cases hnone

theorem vacant_of_idle {s : DeliveryState} (hs : Tended s) {key : DeliveryKey} (h : Idle s key)
    (hnot : key ∉ s.accepted) : slotStatus (eventStatus s.store key) = .vacant := by
  obtain ⟨hholders, hconfirming⟩ := share_of_idle hs.kept h
  exact (hs.slots key).vacant_of_idle hholders hconfirming (List.count_eq_zero_of_not_mem hnot)

/-- The tables let the delivery through to the adapter. -/
structure Sendable (s : ChannelStore) (delivery : Delivery) (prepared : Prepared) : Prop where
  found : getInstance delivery.tenantId delivery.agentId delivery.channelId s =
    some prepared.channel
  enabled : prepared.channel.status = .enabled
  key : text delivery.idempotencyKey "发送幂等键" 255 = .ok prepared.idempotencyKey
  command : deliveryCommand delivery prepared.idempotencyKey = .ok prepared.command
  negotiation : negotiateCapabilities markdownToText prepared.command
    (capabilities prepared.channel.platform) = .ok prepared.negotiation

/-- Nothing goes wrong at a step of the delivery: the sessions do not raise and meet no other
insertion, the credential of an external channel is there, the window has room, and the adapter is
healthy. -/
structure Healthy (s : ChannelStore) (delivery : Delivery) (prepared : Prepared)
    (choice : Choice) : Prop where
  sound : choice.faulty = false
  alone : choice.raced = false
  credential : prepared.channel.platform ≠ .web → choice.credential.isSome = true
  room : (reserveRateLimit backend delivery.channelId prepared.channel.rateLimitPerMinute
    choice.clock s).1 = true
  answer : ∃ result, (choice.exchange prepared).outcome = .result result

variable {markdownToText capabilities backend}

section attempt

variable {store : ChannelStore} {calls : List Call} {accepted : List DeliveryKey}
  {delivery : Delivery} {phase : Phase} {choice : Choice} {prepared : Prepared}

theorem advance_last (hf : choice.faulty = false) :
    (deliveryStep markdownToText capabilities backend ⟨store, calls ++ [⟨delivery, phase⟩], accepted⟩
      (.advance calls.length choice)).2 =
      let r := deliver markdownToText capabilities backend ⟨delivery, phase⟩ choice store
      ⟨r.2.1, calls ++ [⟨delivery, r.1⟩], newlyAccepted ⟨delivery, phase⟩ r.2.2 ++ accepted⟩ := by
  have hcall : (calls ++ [⟨delivery, phase⟩])[calls.length]? = some ⟨delivery, phase⟩ :=
    List.getElem?_concat_length
  rw [deliveryStep_advance hcall (by rw [hf]; exact fun h ↦ nomatch h.1)]
  dsimp only
  rw [List.set_append_right _ _ (Nat.le_refl _), Nat.sub_self, List.set_cons_zero]

theorem filter_of_vacant {row : Option ChannelDiagnosticEvent}
    (h : slotStatus (row.map (·.status)) = .vacant) :
    (row.filter fun event ↦ event.status.isSuccess) = none ∧
      (row.filter fun event ↦ event.status = .accepted) = none := by
  cases row with
  | none => exact ⟨rfl, rfl⟩
  | some event =>
    cases hs : event.status with
    | accepted | delivered | degraded =>
      rw [Option.map_some, hs] at h
      cases h
    | rejected | failed | rateLimited =>
      exact ⟨Option.filter_some_neg (by rw [hs]; decide),
        Option.filter_some_neg (by rw [hs]; decide)⟩

theorem getEvent_of_vacant {tenantId : UUID}
    (h : slotStatus (eventStatus store (delivery.channelId, prepared.idempotencyKey)) = .vacant) :
    slotStatus ((getEventByIdempotency tenantId delivery.channelId .outbound
      prepared.idempotencyKey store).map (·.status)) = .vacant := by
  unfold getEventByIdempotency
  cases hrow : store.events.find? (delivery.channelId, .outbound, prepared.idempotencyKey) with
  | none => rfl
  | some row =>
    rw [eventStatus, hrow] at h
    by_cases ht : row.tenantId = tenantId
    · rw [Option.filter_some_pos (by simpa using ht)]
      exact h
    · rw [Option.filter_some_neg (by simpa using ht)]
      rfl

theorem afterEvent_of_vacant {existing : Option ChannelDiagnosticEvent}
    (h : slotStatus (existing.map (·.status)) = .vacant)
    (hs : Sendable markdownToText capabilities store delivery prepared) :
    afterEvent markdownToText capabilities delivery prepared.channel prepared.idempotencyKey
      existing = .resolveCredential prepared := by
  obtain ⟨hsuccess, hrunning⟩ := filter_of_vacant h
  have henabled : prepared.channel.status ≠ .disabled := by
    rw [hs.enabled]
    decide
  simp only [afterEvent, hsuccess, hrunning, if_neg henabled, hs.command, hs.negotiation]

theorem reserveDelivery_of_vacant (backend : Backend) {event : ChannelDiagnosticEvent}
    {k : DeliveryKey} (hkey : eventKey event = (k.1, .outbound, k.2))
    (h : slotStatus (eventStatus store k) = .vacant) :
    (reserveDelivery backend false event store).1 = true := by
  unfold reserveDelivery
  cases hrow : store.events.find? (eventKey event) with
  | none => rfl
  | some row =>
    rw [eventStatus, ← hkey, hrow, Option.map_some] at h
    dsimp only
    rw [if_neg]
    rintro (⟨-, hraced⟩ | hsuccess | haccepted)
    · cases hraced
    · rw [slotStatus_success hsuccess] at h
      cases h
    · rw [haccepted] at h
      cases h

theorem isSuccess_of_settled {status : ChannelEventStatus}
    (h : slotStatus (some status) = .settled) : status.isSuccess = true := by
  cases status with
  | delivered | degraded => rfl
  | accepted | rejected | failed | rateLimited => cases h

theorem reserveRateLimit_congr {store' : ChannelStore} {channelId : UUID} {limit : ℕ}
    {now : Datetime} (h : store'.rateWindows = store.rateWindows) :
    (reserveRateLimit backend channelId limit now store').1 =
      (reserveRateLimit backend channelId limit now store).1 := by
  unfold reserveRateLimit
  rw [h]
  cases store.rateWindows.find? (channelId, rateWindow now) with
  | none => dsimp only; split <;> rfl
  | some window => dsimp only; split <;> rfl

theorem advance_quiet (hf : choice.faulty = false) {phase' : Phase} {store' : ChannelStore}
    (hd : deliver markdownToText capabilities backend ⟨delivery, phase⟩ choice store =
      (phase', store', false)) :
    (deliveryStep markdownToText capabilities backend ⟨store, calls ++ [⟨delivery, phase⟩], accepted⟩
      (.advance calls.length choice)).2 = ⟨store', calls ++ [⟨delivery, phase'⟩], accepted⟩ := by
  rw [advance_last hf, hd]
  rfl

variable (calls accepted) in
/-- With a vacant key, a call reaches its reservation. -/
theorem run_reserve (as : List DeliveryAction) {c₁ c₂ c₃ c₄ : Choice}
    (hvacant : slotStatus (eventStatus store (delivery.channelId, prepared.idempotencyKey)) =
      .vacant)
    (hs : Sendable markdownToText capabilities store delivery prepared)
    (h₁ : Healthy backend store delivery prepared c₁)
    (h₂ : Healthy backend store delivery prepared c₂)
    (h₃ : Healthy backend store delivery prepared c₃)
    (h₄ : Healthy backend store delivery prepared c₄) :
    ∃ store', store'.rateWindows = store.rateWindows ∧
      Machine.run (deliveryStep markdownToText capabilities backend) ⟨store, calls, accepted⟩
        (.request delivery :: .advance calls.length c₁ :: .advance calls.length c₂ ::
          .advance calls.length c₃ :: .advance calls.length c₄ :: as) =
        Machine.run (deliveryStep markdownToText capabilities backend)
          ⟨store', calls ++ [⟨delivery, .reserveRateLimit prepared⟩], accepted⟩ as := by
  have hid : prepared.channel.id = delivery.channelId := (getInstance_eq_some hs.found).1
  have hkey : eventKey (ChannelService.reservation prepared c₄.eventId c₄.clock) =
      (delivery.channelId, .outbound, prepared.idempotencyKey) := by
    rw [← hid]
    rfl
  have hd₁ : deliver markdownToText capabilities backend ⟨delivery, .getInstance⟩ c₁ store =
      (.getEvent prepared.channel prepared.idempotencyKey, store, false) := by
    simp only [deliver, hs.found, hs.key]
  have hd₂ : deliver markdownToText capabilities backend
      ⟨delivery, .getEvent prepared.channel prepared.idempotencyKey⟩ c₂ store =
      (.resolveCredential prepared, store, false) := by
    simp only [deliver, afterEvent_of_vacant (getEvent_of_vacant hvacant) hs]
  have hd₃ : deliver markdownToText capabilities backend ⟨delivery, .resolveCredential prepared⟩ c₃
      store = (.reserve prepared, store, false) := by
    have hcredential : ¬(prepared.channel.platform ≠ .web ∧ c₃.credential.isNone = true) := by
      rintro ⟨hplatform, hnone⟩
      have hsome := h₃.credential hplatform
      rw [Option.isNone_iff_eq_none] at hnone
      rw [hnone] at hsome
      cases hsome
    simp only [deliver, if_neg hcredential]
  have hallowed := reserveDelivery_of_vacant backend
    (k := (delivery.channelId, prepared.idempotencyKey)) hkey hvacant
  rcases reserveDelivery_cases backend false store
    (k := (delivery.channelId, prepared.idempotencyKey)) hkey rfl with
    ⟨store', hr, -, -, hwindows, -⟩ | hr
  · have hd₄ : deliver markdownToText capabilities backend ⟨delivery, .reserve prepared⟩ c₄ store =
        (.reserveRateLimit prepared, store', false) := by
      simp only [deliver, h₄.alone, hr]
    refine ⟨store', hwindows, ?_⟩
    simp only [Machine.run]
    rw [show (deliveryStep markdownToText capabilities backend ⟨store, calls, accepted⟩
      (.request delivery)).2 = ⟨store, calls ++ [⟨delivery, .getInstance⟩], accepted⟩ from rfl,
      advance_quiet h₁.sound hd₁, advance_quiet h₂.sound hd₂, advance_quiet h₃.sound hd₃,
      advance_quiet h₄.sound hd₄]
  · rw [hr] at hallowed
    cases hallowed

variable (calls accepted) in
/-- With a reservation, a call sends its message and records it. -/
theorem run_send {c₅ c₆ c₇ : Choice} {result : AdapterDeliveryResult}
    (hid : prepared.channel.id = delivery.channelId)
    (h₅ : Healthy backend store delivery prepared c₅) (h₆ : c₆.faulty = false)
    (ho : (c₆.exchange prepared).outcome = .result result) (h₇ : c₇.faulty = false) :
    ∃ receipt store', receipt.idempotentReplay = false ∧
      (∃ status, eventStatus store' (delivery.channelId, prepared.idempotencyKey) = some status ∧
        status.isSuccess = true) ∧
      Machine.run (deliveryStep markdownToText capabilities backend)
        ⟨store, calls ++ [⟨delivery, .reserveRateLimit prepared⟩], accepted⟩
        [.advance calls.length c₅, .advance calls.length c₆, .advance calls.length c₇] =
        ⟨store', calls ++ [⟨delivery, .returned receipt⟩],
          (delivery.channelId, prepared.idempotencyKey) :: accepted⟩ := by
  obtain ⟨haccepted, hsuccess⟩ := (c₆.exchange prepared).answered result ho
  have hroom := h₅.room
  cases hr : reserveRateLimit backend delivery.channelId prepared.channel.rateLimitPerMinute
      c₅.clock store with
  | mk allowed store₅ =>
  rw [hr] at hroom
  obtain rfl : allowed = true := hroom
  have hd₅ : deliver markdownToText capabilities backend ⟨delivery, .reserveRateLimit prepared⟩ c₅
      store = (.send prepared, store₅, false) := by
    simp only [deliver, hr]
  have hd₆ : deliver markdownToText capabilities backend ⟨delivery, .send prepared⟩ c₆ store₅ =
      (.recordDelivered prepared result, store₅, true) := by
    simp only [deliver, ho, haccepted]
  cases hrecord : recordEvent backend false (deliveredEvent prepared result c₇.eventId) store₅ with
  | mk event store₇ =>
  have hd₇ : deliver markdownToText capabilities backend
      ⟨delivery, .recordDelivered prepared result⟩ c₇ store₅ =
      (.returned (receipt result event), store₇, false) := by
    simp only [deliver, hrecord]
  refine ⟨receipt result event, store₇, rfl, ?_, ?_⟩
  · have hkey : eventKey (deliveredEvent prepared result c₇.eventId) =
        (delivery.channelId, .outbound, prepared.idempotencyKey) := by
      rw [← hid]
      rfl
    rw [← show (recordEvent backend false (deliveredEvent prepared result c₇.eventId) store₅).2 =
        store₇ from congrArg Prod.snd hrecord,
      eventStatus_recordEvent (k := (delivery.channelId, prepared.idempotencyKey)) hkey,
      if_pos rfl]
    exact ⟨_, rfl, isSuccess_of_settled (slotStatus_recorded_success hsuccess _)⟩
  · simp only [Machine.run]
    rw [advance_quiet h₅.sound hd₅, advance_last h₆, hd₆]
    exact advance_quiet h₇ hd₇

end attempt

variable (markdownToText capabilities backend)

/-- In a run in which no call ends between its reservation and its record, a key whose calls have
all ended without an acceptance is free: the next call that nothing hinders sends its message. -/
theorem idle_key_sends (as : List DeliveryAction)
    (h : Machine.Along (deliveryStep markdownToText capabilities backend)
      (fun s a ↦ isAttended s a = true) .empty as)
    (delivery : Delivery) (prepared : Prepared) (choices : List Choice) :
    let step := deliveryStep markdownToText capabilities backend
    let s := Machine.run step .empty as
    Idle s (Delivery.key delivery) → Delivery.key delivery ∉ s.accepted →
    Sendable markdownToText capabilities s.store delivery prepared →
    (∀ choice ∈ choices, Healthy backend s.store delivery prepared choice) →
    choices.length = 7 →
    ∃ receipt store, receipt.idempotentReplay = false ∧
      (∃ status, eventStatus store (Delivery.key delivery) = some status ∧
        status.isSuccess = true) ∧
      Machine.run step s (.request delivery :: choices.map (.advance s.calls.length)) =
        ⟨store, s.calls ++ [⟨delivery, .returned receipt⟩],
          Delivery.key delivery :: s.accepted⟩ := by
  intro step s hidle hnot hs hc hlength
  have hs' : Tended s := Machine.run_invariant (I := Tended)
    (fun s a h ha ↦ tended_step markdownToText capabilities backend h ha) tended_empty h
  have hvacant := vacant_of_idle hs' hidle hnot
  have hkey : Delivery.key delivery = (delivery.channelId, prepared.idempotencyKey) := by
    rw [Delivery.key, text_eq_ok hs.key]
  rw [hkey] at hvacant ⊢
  match choices, hlength with
  | [c₁, c₂, c₃, c₄, c₅, c₆, c₇], _ =>
    have hc' := fun c hmem ↦ hc c hmem
    simp only [List.mem_cons, List.not_mem_nil, or_false, forall_eq_or_imp, forall_eq] at hc'
    obtain ⟨h₁, h₂, h₃, h₄, h₅, h₆, h₇⟩ := hc'
    obtain ⟨store, hwindows, hrun⟩ := run_reserve s.calls s.accepted
      [.advance s.calls.length c₅, .advance s.calls.length c₆, .advance s.calls.length c₇]
      hvacant hs h₁ h₂ h₃ h₄
    obtain ⟨result, ho⟩ := h₆.answer
    have h₅' : Healthy backend store delivery prepared c₅ :=
      { h₅ with room := (reserveRateLimit_congr hwindows).trans h₅.room }
    obtain ⟨receipt, store', hreplay, hstatus, hsend⟩ := run_send s.calls s.accepted
      (getInstance_eq_some hs.found).1 h₅' h₆.sound ho h₇.sound
    exact ⟨receipt, store', hreplay, hstatus, hrun.trans hsend⟩

end

section examples

def replyPrepared : Prepared where
  channel := supportBot
  idempotencyKey := "reply-1"
  command := {
    channelId := 1
    recipientId := "42"
    blocks := answerDelivery.blocks
    idempotencyKey := "reply-1" }
  negotiation := ⟨answerDelivery.blocks, [], false, none, none⟩

def rejectedOnce : List DeliveryAction :=
  .createInstance supportBot :: attempt 0 (meeting BotApi.rejecting)

theorem idle_key_sends_after_rejection :
    let step := deliveryStep keepText allTelegram .sqlAlchemy
    let s := Machine.run step .empty rejectedOnce
    ∃ receipt store, receipt.idempotentReplay = false ∧
      (∃ status, eventStatus store (1, "reply-1") = some status ∧ status.isSuccess = true) ∧
      Machine.run step s (.request answerDelivery ::
        (List.replicate 7 (meeting BotApi.accepting)).map (.advance s.calls.length)) =
        ⟨store, s.calls ++ [⟨answerDelivery, .returned receipt⟩], (1, "reply-1") :: s.accepted⟩ := by
  refine idle_key_sends keepText allTelegram .sqlAlchemy rejectedOnce (by decide +kernel)
    answerDelivery replyPrepared (List.replicate 7 (meeting BotApi.accepting))
    (by decide +kernel) (by decide +kernel) ?_ ?_ rfl
  · exact ⟨by decide +kernel, rfl, rfl, rfl, rfl⟩
  · intro choice hchoice
    obtain rfl := List.eq_of_mem_replicate hchoice
    exact ⟨rfl, rfl, fun _ ↦ rfl, by decide +kernel, _, rfl⟩

def crashedAfterReserve : List DeliveryAction :=
  .createInstance supportBot :: .request answerDelivery ::
    List.replicate 4 (.advance 0 (meeting BotApi.accepting)) ++ [.crash 0]

def isConflict : Phase → Bool
  | .raised (.conflict _) => true
  | _ => false

/-- The message has never been sent, and every later call meets the reservation of the dead one. -/
theorem crash_leaves_key_stuck :
    let stuck := fun backend ↦
      let step := deliveryStep keepText allTelegram backend
      let s := Machine.run step .empty crashedAfterReserve
      let t := Machine.run step s (attempt 1 (meeting BotApi.accepting))
      s.calls.all (fun call ↦ isFinal call.phase) = true ∧ s.accepted = [] ∧
        t.calls.map (fun call ↦ isConflict call.phase) = [false, true] ∧ t.accepted = [] ∧
        eventStatus t.store (1, "reply-1") = some .accepted
    stuck .sqlAlchemy ∧ stuck .inMemory := by
  decide +kernel

end examples

end CyberNetizen.Channels
