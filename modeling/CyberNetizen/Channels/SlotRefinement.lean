import CyberNetizen.Channels.DeliveryRun

namespace CyberNetizen.Channels

open Domain Adapters Infrastructure Infrastructure.ChannelRepository KeyedTable Reservation
open Application Application.ChannelService

variable {markdownToText : Option String → String}
  {capabilities : ChannelPlatform → ChannelCapabilities} {backend : Backend}

section kept

variable {delivery : Delivery} {phase phase' : Phase}

theorem PhaseKept.of_final (h : isFinal phase = true) : PhaseKept delivery phase := by
  constructor
  · intro channel idempotencyKey ht
    cases phase with
    | returned receipt | raised error | crashed => cases ht
    | _ => cases h
  · rintro prepared result rfl
    cases h

theorem PhaseKept.of_target (h : PhaseKept delivery phase) (ht : target? phase' = target? phase)
    (hr : confirmerKey? phase' = none) : PhaseKept delivery phase' where
  target := fun channel idempotencyKey h' ↦ h.target channel idempotencyKey (ht ▸ h')
  result := by
    rintro prepared result rfl
    cases hr

theorem text_eq_ok {value label normalized : String} {maximum : ℕ}
    (h : text value label maximum = .ok normalized) : normalized = strip value := by
  unfold text at h
  by_cases he : (strip value).isEmpty = true
  · rw [if_pos he] at h
    cases h
  · rw [if_neg he] at h
    by_cases hm : maximum < (strip value).length
    · rw [if_pos hm] at h
      cases h
    · rw [if_neg hm] at h
      exact (Except.ok.inj h).symm

theorem getInstance_eq_some {tenantId agentId channelId : UUID} {s : ChannelStore}
    {channel : ChannelInstance} (h : getInstance tenantId agentId channelId s = some channel) :
    channel.id = channelId ∧ channel.tenantId = tenantId := by
  obtain ⟨hfind, hscope⟩ := Option.filter_eq_some_iff.mp h
  rw [Bool.and_eq_true, decide_eq_true_eq] at hscope
  exact ⟨Table.key_of_find? hfind, hscope.1⟩

variable (markdownToText capabilities) in
/-- After its event has been read, a call stops, records an early failure or goes on to reserve. -/
theorem afterEvent_cases (delivery : Delivery) (channel : ChannelInstance)
    (idempotencyKey : String) (existing : Option ChannelDiagnosticEvent) :
    let phase := afterEvent markdownToText capabilities delivery channel idempotencyKey existing
    isFinal phase = true ∨ target? phase = some (channel, idempotencyKey) ∧
      inFlight phase = false := by
  unfold afterEvent
  dsimp only
  cases existing.filter fun event ↦ event.status.isSuccess with
  | some event =>
    dsimp only
    cases event.externalMessageId <;> exact .inl rfl
  | none =>
    cases existing.filter fun event ↦ event.status = .accepted with
    | some event => exact .inl rfl
    | none =>
      dsimp only
      by_cases hd : channel.status = .disabled
      · rw [if_pos hd]
        exact .inl rfl
      · rw [if_neg hd]
        cases deliveryCommand delivery idempotencyKey with
        | error error => exact .inl rfl
        | ok command =>
          dsimp only
          cases negotiateCapabilities markdownToText command (capabilities channel.platform) with
          | error error =>
            cases error with
            | adapter error => exact .inr ⟨rfl, rfl⟩
            | zeroStep => exact .inl rfl
          | ok negotiation => exact .inr ⟨rfl, rfl⟩

theorem afterReread_final (existing : Option ChannelDiagnosticEvent) :
    isFinal (afterReread existing) = true := by
  unfold afterReread
  cases existing.filter fun event ↦ event.status.isSuccess with
  | none => rfl
  | some event => cases h : event.externalMessageId <;> simp only [h] <;> rfl

end kept

theorem deliver_kept {call : Call} {choice : Choice} {s : ChannelStore}
    (h : PhaseKept call.delivery call.phase) :
    PhaseKept call.delivery (deliver markdownToText capabilities backend call choice s).1 := by
  unfold deliver
  dsimp only
  cases hp : call.phase with
  | getInstance =>
    dsimp only
    cases hi : getInstance call.delivery.tenantId call.delivery.agentId call.delivery.channelId s with
    | none => exact .of_final rfl
    | some channel =>
      dsimp only
      cases ht : text call.delivery.idempotencyKey "发送幂等键" 255 with
      | error error => exact .of_final rfl
      | ok idempotencyKey =>
        obtain ⟨hid, htenant⟩ := getInstance_eq_some hi
        refine ⟨?_, fun _ _ h ↦ nomatch h⟩
        rintro _ _ ⟨⟩
        exact ⟨hid, htenant, text_eq_ok ht⟩
  | getEvent channel idempotencyKey =>
    rw [hp] at h
    rcases afterEvent_cases markdownToText capabilities call.delivery channel idempotencyKey
      (getEventByIdempotency call.delivery.tenantId call.delivery.channelId .outbound idempotencyKey s) with hf | ⟨ht, hq⟩
    · exact .of_final hf
    · refine h.of_target ht ?_
      rw [inFlight, Bool.or_eq_false_iff] at hq
      simpa using hq.2
  | resolveCredential prepared =>
    rw [hp] at h
    dsimp only
    split
    · exact h.of_target rfl rfl
    · exact h.of_target rfl rfl
  | recordEarlyFailure channel idempotencyKey error => exact .of_final rfl
  | reserve prepared =>
    rw [hp] at h
    dsimp only
    split
    · exact h.of_target rfl rfl
    · exact h.of_target rfl rfl
  | rereadEvent prepared => exact .of_final (afterReread_final _)
  | reserveRateLimit prepared =>
    rw [hp] at h
    dsimp only
    split
    · exact h.of_target rfl rfl
    · exact h.of_target rfl rfl
  | send prepared =>
    rw [hp] at h
    dsimp only
    cases ho : (choice.exchange prepared).outcome with
    | result result =>
      refine ⟨h.target, ?_⟩
      rintro _ _ ⟨⟩
      exact ((choice.exchange prepared).answered result ho).2
    | error error => exact h.of_target rfl rfl
    | unexpected => exact .of_final rfl
  | recordFailure prepared error => exact .of_final rfl
  | recordDelivered prepared result => exact .of_final rfl
  | returned receipt => exact .of_final rfl
  | raised error => exact .of_final rfl
  | crashed => exact .of_final rfl

theorem Kept.set {s : DeliveryState} (hk : Kept s) {call : Call} {phase : Phase} {i : ℕ}
    (h : PhaseKept call.delivery phase) {store : ChannelStore} {accepted : List DeliveryKey} :
    Kept ⟨store, s.calls.set i { call with phase }, accepted⟩ := by
  intro call' hcall'
  rcases List.mem_or_eq_of_mem_set hcall' with hmem | rfl
  · exact hk call' hmem
  · exact h

theorem deliveryStep_kept {s : DeliveryState} (hk : Kept s) (a : DeliveryAction) :
    Kept (deliveryStep markdownToText capabilities backend s a).2 := by
  cases a with
  | createInstance row => exact hk
  | updateInstance row => exact hk
  | request delivery =>
    intro call hcall
    rcases List.mem_append.mp hcall with hcall | hcall
    · exact hk call hcall
    · obtain rfl := List.mem_singleton.mp hcall
      exact ⟨fun _ _ h ↦ (nomatch h), fun _ _ h ↦ (nomatch h)⟩
  | advance i choice =>
    cases hcall : s.calls[i]? with
    | none =>
      simp only [deliveryStep, hcall]
      exact hk
    | some call =>
      by_cases hf : choice.faulty = true ∧ isSession call.phase = true
      · rw [deliveryStep_faulty hcall hf]
        exact hk.set (.of_final rfl)
      · rw [deliveryStep_advance hcall hf]
        exact hk.set (deliver_kept (hk call (List.mem_of_getElem? hcall)))
  | crash i =>
    cases hcall : s.calls[i]? with
    | none =>
      simp only [deliveryStep, hcall]
      exact hk
    | some call =>
      simp only [deliveryStep, hcall]
      split
      · exact hk
      · exact hk.set (.of_final rfl)

section refinement

variable {s : DeliveryState} {i : ℕ} {call : Call} {choice : Choice}

/-- What a move must satisfy to answer for a step. -/
structure Answers (s : DeliveryState) (a : DeliveryAction) (t : DeliveryState) (key : DeliveryKey)
    (move : Move) : Prop where
  moves : Slot.Moves move (slot s key) (slot t key)
  honest : isHonest s a = true → move.isHonest = true
  attended : isAttended s a = true → move.isAttended = true

theorem Answers.of_eq {a : DeliveryAction} {t : DeliveryState} {key : DeliveryKey}
    (h : slot t key = slot s key) : Answers s a t key .stay :=
  ⟨h ▸ .stay, fun _ ↦ rfl, fun _ ↦ rfl⟩

theorem eventStatus_congr {s s' : ChannelStore} (h : s'.events = s.events) (key : DeliveryKey) :
    eventStatus s' key = eventStatus s key := by
  rw [eventStatus, eventStatus, h]

theorem isHolder_eq (call : Call) {idempotencyKey : String}
    (h : holderKey? call.phase = some idempotencyKey) (key : DeliveryKey) :
    isHolder key call = decide ((call.delivery.channelId, idempotencyKey) = key) := by
  rw [isHolder, h]
  rfl

theorem isConfirmer_eq (call : Call) {idempotencyKey : String}
    (h : confirmerKey? call.phase = some idempotencyKey) (key : DeliveryKey) :
    isConfirmer key call = decide ((call.delivery.channelId, idempotencyKey) = key) := by
  rw [isConfirmer, h]
  rfl

theorem confirmerKey?_of_holderKey? {phase : Phase} {idempotencyKey : String}
    (h : holderKey? phase = some idempotencyKey) : confirmerKey? phase = none := by
  cases phase with
  | reserveRateLimit prepared | send prepared | recordFailure prepared error => rfl
  | _ => cases h

theorem isConfirmer_of_holderKey? {key : DeliveryKey} {idempotencyKey : String}
    (h : holderKey? call.phase = some idempotencyKey) : isConfirmer key call = false := by
  rw [isConfirmer, confirmerKey?_of_holderKey? h]
  rfl

theorem inFlight_of_final {phase : Phase} (h : isFinal phase = true) : inFlight phase = false := by
  cases phase with
  | returned receipt | raised error | crashed => rfl
  | _ => cases h

theorem count_newlyAccepted (accepted : Bool) (key : DeliveryKey) :
    (newlyAccepted call accepted ++ s.accepted).count key =
      s.accepted.count key + (accepted && isHolder key call).toNat := by
  unfold newlyAccepted
  cases accepted with
  | false => rfl
  | true =>
    rw [if_pos rfl, List.count_append, Nat.add_comm, Bool.true_and, isHolder]
    cases holderKey? call.phase with
    | none => rfl
    | some idempotencyKey =>
      rw [Option.map_some, Option.toList_some, List.count_singleton, Option.any_some]
      by_cases hk : (call.delivery.channelId, idempotencyKey) = key
      · simp [hk]
      · simp [hk]

theorem answers_quiet {a : DeliveryAction} (hcall : s.calls[i]? = some call) {phase : Phase}
    {store : ChannelStore} (hevents : store.events = s.store.events)
    (hq : inFlight call.phase = false) (hq' : inFlight phase = false) (key : DeliveryKey) :
    Answers s a ⟨store, s.calls.set i { call with phase }, s.accepted⟩ key .stay := by
  obtain ⟨h, c, hs, hset⟩ := slot_split hcall key
  obtain ⟨hh, hc⟩ := share_eq_zero call key hq
  obtain ⟨hh', hc'⟩ := share_eq_zero { call with phase } key hq'
  refine .of_eq ?_
  rw [hset, hs, eventStatus_congr hevents, hh, hc, hh', hc']

/-- A call that ends without a record lets go of what it held. -/
theorem answers_stop {a : DeliveryAction} (hcall : s.calls[i]? = some call) {phase : Phase}
    (hfinal : isFinal phase = true) (accepted : Bool)
    (hattended : isAttended s a = true → inFlight call.phase = false) (key : DeliveryKey) :
    ∃ move, Answers s a ⟨s.store, s.calls.set i { call with phase },
      newlyAccepted call accepted ++ s.accepted⟩ key move := by
  obtain ⟨h, c, hs, hset⟩ := slot_split hcall key
  obtain ⟨hh', hc'⟩ := share_eq_zero { call with phase } key (inFlight_of_final hfinal)
  have ht := hset s.store phase (newlyAccepted call accepted ++ s.accepted)
  rw [hh', hc', count_newlyAccepted] at ht
  by_cases hholder : isHolder key call = true
  · obtain ⟨idempotencyKey, hk, -⟩ := (Option.any_eq_true ..).mp hholder
    rw [hholder, isConfirmer_of_holderKey? hk] at hs
    rw [hholder, Bool.and_true] at ht
    refine ⟨.abandon accepted, ?_, fun _ ↦ rfl, fun ha ↦ ?_⟩
    · rw [hs, ht]
      exact .abandon accepted
    · rw [(share_eq_zero call key (hattended ha)).1] at hholder
      cases hholder
  · rw [Bool.not_eq_true] at hholder
    rw [hholder, Bool.and_false] at ht
    rw [hholder] at hs
    by_cases hconfirmer : isConfirmer key call = true
    · rw [hconfirmer] at hs
      refine ⟨.drop, ?_, fun _ ↦ rfl, fun ha ↦ ?_⟩
      · rw [hs, ht]
        exact .drop
      · rw [(share_eq_zero call key (hattended ha)).2] at hconfirmer
        cases hconfirmer
    · rw [Bool.not_eq_true] at hconfirmer
      rw [hconfirmer] at hs
      exact ⟨.stay, .of_eq (by rw [hs, ht]; rfl)⟩

/-- A call that keeps its reservation for another phase. -/
theorem answers_hold {a : DeliveryAction} (hcall : s.calls[i]? = some call) {phase : Phase}
    {store : ChannelStore} (hevents : store.events = s.store.events) {idempotencyKey : String}
    (hk : holderKey? call.phase = some idempotencyKey)
    (hk' : holderKey? phase = some idempotencyKey) {accepted : Bool}
    (hhonest : isHonest s a = true → accepted = false) (key : DeliveryKey) :
    ∃ move, Answers s a ⟨store, s.calls.set i { call with phase },
      newlyAccepted call accepted ++ s.accepted⟩ key move := by
  obtain ⟨h, c, hs, hset⟩ := slot_split hcall key
  have hh := isHolder_eq call hk key
  have hh' := isHolder_eq { call with phase } hk' key
  have hc : isConfirmer key call = false := isConfirmer_of_holderKey? hk
  have hc' : isConfirmer key { call with phase } = false := isConfirmer_of_holderKey? hk'
  have ht := hset store phase (newlyAccepted call accepted ++ s.accepted)
  rw [hh', hc', count_newlyAccepted, eventStatus_congr hevents, hh] at ht
  rw [hh, hc] at hs
  by_cases hb : (accepted && decide ((call.delivery.channelId, idempotencyKey) = key)) = true
  · obtain ⟨rfl, hmine⟩ := (Bool.and_eq_true ..).mp hb
    rw [hmine] at hs ht
    refine ⟨.misreport, ?_, fun ha ↦ (nomatch hhonest ha), fun _ ↦ rfl⟩
    rw [hs, ht]
    exact .misreport
  · rw [Bool.not_eq_true] at hb
    rw [hb] at ht
    exact ⟨.stay, .of_eq (by rw [hs, ht]; rfl)⟩

/-- The platform's answer turns the reservation into an acceptance to be recorded. -/
theorem answers_confirm {a : DeliveryAction} (hcall : s.calls[i]? = some call)
    {prepared : Prepared} {result : AdapterDeliveryResult} (hp : call.phase = .send prepared)
    (key : DeliveryKey) :
    ∃ move, Answers s a ⟨s.store, s.calls.set i { call with phase := .recordDelivered prepared result },
      newlyAccepted call true ++ s.accepted⟩ key move := by
  obtain ⟨h, c, hs, hset⟩ := slot_split hcall key
  have hh := isHolder_eq call (by rw [hp]; rfl) key
  have hc : isConfirmer key call = false := by rw [isConfirmer, hp]; rfl
  have ht := hset s.store (.recordDelivered prepared result) (newlyAccepted call true ++ s.accepted)
  have hc' := isConfirmer_eq { call with phase := .recordDelivered prepared result } rfl key
  have hh' : isHolder key { call with phase := .recordDelivered prepared result } = false := rfl
  rw [hh', hc', count_newlyAccepted, hh, Bool.true_and] at ht
  rw [hh, hc] at hs
  by_cases hk : (call.delivery.channelId, prepared.idempotencyKey) = key
  · rw [decide_eq_true hk] at hs ht
    refine ⟨.confirm, ?_, fun _ ↦ rfl, fun _ ↦ rfl⟩
    rw [hs, ht]
    exact .confirm
  · rw [decide_eq_false hk] at hs ht
    exact ⟨.stay, .of_eq (by rw [hs, ht]; rfl)⟩

/-- A holder records that its message was not sent. -/
theorem answers_release {a : DeliveryAction} (hcall : s.calls[i]? = some call)
    {prepared : Prepared} {error : ChannelAdapterError}
    (hp : call.phase = .recordFailure prepared error) {phase : Phase} (hfinal : isFinal phase = true)
    {store : ChannelStore}
    (hstatus : ∀ key, slotStatus (eventStatus store key) =
      if key = (call.delivery.channelId, prepared.idempotencyKey) then
        (slotStatus (eventStatus s.store key)).released
      else slotStatus (eventStatus s.store key)) (key : DeliveryKey) :
    ∃ move, Answers s a ⟨store, s.calls.set i { call with phase }, s.accepted⟩ key move := by
  obtain ⟨h, c, hs, hset⟩ := slot_split hcall key
  obtain ⟨hh', hc'⟩ := share_eq_zero { call with phase } key (inFlight_of_final hfinal)
  have hh := isHolder_eq call (by rw [hp]; rfl) key
  have hc : isConfirmer key call = false := by rw [isConfirmer, hp]; rfl
  have ht := hset store phase s.accepted
  rw [hh', hc', hstatus] at ht
  rw [hh, hc] at hs
  by_cases hk : key = (call.delivery.channelId, prepared.idempotencyKey)
  · rw [decide_eq_true hk.symm] at hs
    rw [if_pos hk] at ht
    refine ⟨.release, ?_, fun _ ↦ rfl, fun _ ↦ rfl⟩
    rw [hs, ht]
    exact .release
  · rw [decide_eq_false (Ne.symm hk)] at hs
    rw [if_neg hk] at ht
    exact ⟨.stay, .of_eq (by rw [hs, ht])⟩

theorem answers_settle {a : DeliveryAction} (hcall : s.calls[i]? = some call)
    {prepared : Prepared} {result : AdapterDeliveryResult}
    (hp : call.phase = .recordDelivered prepared result) {phase : Phase}
    (hfinal : isFinal phase = true) {store : ChannelStore}
    (hstatus : ∀ key, slotStatus (eventStatus store key) =
      if key = (call.delivery.channelId, prepared.idempotencyKey) then .settled
      else slotStatus (eventStatus s.store key)) (key : DeliveryKey) :
    ∃ move, Answers s a ⟨store, s.calls.set i { call with phase }, s.accepted⟩ key move := by
  obtain ⟨h, c, hs, hset⟩ := slot_split hcall key
  obtain ⟨hh', hc'⟩ := share_eq_zero { call with phase } key (inFlight_of_final hfinal)
  have hh : isHolder key call = false := by rw [isHolder, hp]; rfl
  have hc := isConfirmer_eq call (by rw [hp]; rfl) key
  have ht := hset store phase s.accepted
  rw [hh', hc', hstatus] at ht
  rw [hh, hc] at hs
  by_cases hk : key = (call.delivery.channelId, prepared.idempotencyKey)
  · rw [decide_eq_true hk.symm] at hs
    rw [if_pos hk] at ht
    refine ⟨.settle, ?_, fun _ ↦ rfl, fun _ ↦ rfl⟩
    rw [hs, ht]
    exact .settle
  · rw [decide_eq_false (Ne.symm hk)] at hs
    rw [if_neg hk] at ht
    exact ⟨.stay, .of_eq (by rw [hs, ht])⟩

/-- A call that has reserved nothing records a failure. -/
theorem answers_early {a : DeliveryAction} (hcall : s.calls[i]? = some call) {phase : Phase}
    (hq : inFlight call.phase = false) (hfinal : isFinal phase = true) {store : ChannelStore}
    (hstatus : ∀ key, slotStatus (eventStatus store key) = slotStatus (eventStatus s.store key) ∨
      eventStatus s.store key = some .accepted ∧ slotStatus (eventStatus store key) = .vacant ∧
        ¬isHonest s a = true) (key : DeliveryKey) :
    ∃ move, Answers s a ⟨store, s.calls.set i { call with phase }, s.accepted⟩ key move := by
  obtain ⟨h, c, hs, hset⟩ := slot_split hcall key
  obtain ⟨hh, hc⟩ := share_eq_zero call key hq
  obtain ⟨hh', hc'⟩ := share_eq_zero { call with phase } key (inFlight_of_final hfinal)
  have ht := hset store phase s.accepted
  rw [hh', hc'] at ht
  rw [hh, hc] at hs
  rcases hstatus key with hsame | ⟨haccepted, hvacant, hhonest⟩
  · exact ⟨.stay, .of_eq (by rw [hs, ht, hsame])⟩
  · refine ⟨.preempt, ?_, fun ha ↦ absurd ha hhonest, fun _ ↦ rfl⟩
    rw [hs, ht, haccepted, hvacant]
    exact .preempt

theorem answers_reserve {a : DeliveryAction} (hcall : s.calls[i]? = some call)
    {prepared : Prepared} (hp : call.phase = .reserve prepared) {store : ChannelStore}
    (hvacant : slotStatus (eventStatus s.store
      (call.delivery.channelId, prepared.idempotencyKey)) = .vacant)
    (hstatus : ∀ key, eventStatus store key =
      if key = (call.delivery.channelId, prepared.idempotencyKey) then some .accepted
      else eventStatus s.store key) (key : DeliveryKey) :
    ∃ move, Answers s a ⟨store, s.calls.set i { call with phase := .reserveRateLimit prepared },
      s.accepted⟩ key move := by
  obtain ⟨h, c, hs, hset⟩ := slot_split hcall key
  obtain ⟨hh, hc⟩ := share_eq_zero call key (by rw [hp]; rfl)
  have hh' := isHolder_eq { call with phase := .reserveRateLimit prepared } rfl key
  have hc' : isConfirmer key { call with phase := .reserveRateLimit prepared } = false := rfl
  have ht := hset store (.reserveRateLimit prepared) s.accepted
  rw [hh', hc', hstatus] at ht
  rw [hh, hc] at hs
  by_cases hk : key = (call.delivery.channelId, prepared.idempotencyKey)
  · rw [if_pos hk, decide_eq_true hk.symm] at ht
    rw [hk, hvacant, ← hk] at hs
    refine ⟨.reserve, ?_, fun _ ↦ rfl, fun _ ↦ rfl⟩
    rw [hs, ht]
    exact .reserve
  · rw [if_neg hk, decide_eq_false (Ne.symm hk)] at ht
    exact ⟨.stay, .of_eq (by rw [hs, ht])⟩

theorem slotStatus_eq_reserved {status : Option ChannelEventStatus}
    (h : slotStatus status = .reserved) : status = some .accepted := by
  cases status with
  | none => cases h
  | some status =>
    cases status with
    | accepted => rfl
    | delivered | degraded | rejected | failed | rateLimited => cases h

theorem failureStatus_isFailure (error : ChannelAdapterError) :
    failureStatus error ≠ .accepted ∧ (failureStatus error).isSuccess = false := by
  unfold failureStatus
  split
  · decide
  · split <;> decide

/-- What an early failure does to the status: nothing, unless it meets a reservation. -/
theorem slotStatus_recorded_early {raced : Bool} (error : ChannelAdapterError)
    (existing : Option ChannelEventStatus) :
    let status := slotStatus (some (recordedStatus backend raced (failureStatus error) existing))
    status = slotStatus existing ∨ existing = some .accepted ∧ status = .vacant := by
  obtain ⟨hne, hfail⟩ := failureStatus_isFailure error
  dsimp only
  cases existing with
  | none => exact .inl (slotStatus_failure hne hfail)
  | some existing =>
    by_cases hr : backend = .sqlAlchemy ∧ raced = true
    · rw [recordedStatus, if_pos hr]
      exact .inl rfl
    · have hraced : recordedStatus backend raced (failureStatus error) (some existing) =
          recordedStatus backend false (failureStatus error) (some existing) := by
        rw [recordedStatus_some, recordedStatus, if_neg hr]
      rw [hraced, slotStatus_recorded_failure hne hfail]
      cases hs : slotStatus (some existing) with
      | vacant | settled => exact .inl rfl
      | reserved => exact .inr ⟨slotStatus_eq_reserved hs, rfl⟩

theorem reserveRateLimit_events (backend : Backend) (channelId : UUID) (limit : ℕ) (now : Datetime)
    (s : ChannelStore) :
    (reserveRateLimit backend channelId limit now s).2.events = s.events := by
  unfold reserveRateLimit
  cases s.rateWindows.find? (channelId, rateWindow now) with
  | none =>
    dsimp only
    split <;> rfl
  | some window =>
    dsimp only
    split <;> rfl

/-- Every advance of a call is a move of every message. -/
theorem advance_answers (hcall : s.calls[i]? = some call)
    (hkept : PhaseKept call.delivery call.phase)
    (hf : ¬(choice.faulty = true ∧ isSession call.phase = true)) (key : DeliveryKey) :
    ∃ move, Answers s (.advance i choice)
      (deliveryStep markdownToText capabilities backend s (.advance i choice)).2 key move := by
  rw [deliveryStep_advance hcall hf]
  unfold deliver
  dsimp only
  cases hp : call.phase with
  | getInstance =>
    dsimp only
    cases getInstance call.delivery.tenantId call.delivery.agentId call.delivery.channelId
        s.store with
    | none => exact ⟨.stay, answers_quiet hcall rfl (by rw [hp]; rfl) rfl key⟩
    | some channel =>
      dsimp only
      cases text call.delivery.idempotencyKey "发送幂等键" 255 with
      | error error => exact ⟨.stay, answers_quiet hcall rfl (by rw [hp]; rfl) rfl key⟩
      | ok idempotencyKey => exact ⟨.stay, answers_quiet hcall rfl (by rw [hp]; rfl) rfl key⟩
  | getEvent channel idempotencyKey =>
    refine ⟨.stay, answers_quiet hcall rfl (by rw [hp]; rfl) ?_ key⟩
    rcases afterEvent_cases markdownToText capabilities call.delivery channel idempotencyKey
      (getEventByIdempotency call.delivery.tenantId call.delivery.channelId .outbound idempotencyKey s.store) with hfinal | ⟨-, hq⟩
    · exact inFlight_of_final hfinal
    · exact hq
  | resolveCredential prepared =>
    dsimp only
    split
    · exact ⟨.stay, answers_quiet hcall rfl (by rw [hp]; rfl) rfl key⟩
    · exact ⟨.stay, answers_quiet hcall rfl (by rw [hp]; rfl) rfl key⟩
  | recordEarlyFailure channel idempotencyKey error =>
    obtain ⟨hid, -, -⟩ := hkept.target channel idempotencyKey (by rw [hp]; rfl)
    refine answers_early hcall (by rw [hp]; rfl) rfl (fun key' ↦ ?_) key
    rw [eventStatus_recordEvent (k := (call.delivery.channelId, idempotencyKey))
      (by rw [← hid]; rfl)]
    by_cases hk : key' = (call.delivery.channelId, idempotencyKey)
    · rw [if_pos hk, hk]
      refine (slotStatus_recorded_early error _).imp_right fun ⟨ha, hv⟩ ↦ ⟨ha, hv, fun hh ↦ ?_⟩
      have hfaulty : choice.faulty = false := by
        rw [hp] at hf
        simpa [isSession] using hf
      exact eventStatus_of_isHonest hh hcall hp hfaulty ha
    · rw [if_neg hk]
      exact .inl rfl
  | reserve prepared =>
    obtain ⟨hid, -, -⟩ := hkept.target prepared.channel prepared.idempotencyKey (by rw [hp]; rfl)
    dsimp only
    rcases reserveDelivery_cases backend choice.raced s.store
      (e := ChannelService.reservation prepared choice.eventId choice.clock)
      (k := (call.delivery.channelId, prepared.idempotencyKey)) (by rw [← hid]; rfl) rfl with
      ⟨s', hr, hvacant, -, -, hstatus⟩ | hr
    · rw [hr]
      exact answers_reserve hcall hp hvacant hstatus key
    · rw [hr]
      exact ⟨.stay, answers_quiet hcall rfl (by rw [hp]; rfl) rfl key⟩
  | rereadEvent prepared =>
    exact ⟨.stay, answers_quiet hcall rfl (by rw [hp]; rfl)
      (inFlight_of_final (afterReread_final _)) key⟩
  | reserveRateLimit prepared =>
    have hevents := reserveRateLimit_events backend call.delivery.channelId
      prepared.channel.rateLimitPerMinute choice.clock s.store
    dsimp only
    cases hr : reserveRateLimit backend call.delivery.channelId
      prepared.channel.rateLimitPerMinute choice.clock s.store with
    | mk allowed store =>
      rw [hr] at hevents
      cases allowed with
      | true => exact answers_hold hcall hevents (by rw [hp]; rfl) rfl (fun _ ↦ rfl) key
      | false => exact answers_hold hcall hevents (by rw [hp]; rfl) rfl (fun _ ↦ rfl) key
  | send prepared =>
    dsimp only
    cases ho : (choice.exchange prepared).outcome with
    | result result =>
      rw [((choice.exchange prepared).answered result ho).1]
      exact answers_confirm hcall hp key
    | error error =>
      exact answers_hold hcall rfl (by rw [hp]; rfl) rfl
        (fun hh ↦ accepted_of_isHonest hh hcall hp ho) key
    | unexpected =>
      exact answers_stop hcall rfl _ (fun ha ↦ absurd ho (outcome_of_isAttended ha hcall hp)) key
  | recordFailure prepared error =>
    obtain ⟨hid, -, -⟩ := hkept.target prepared.channel prepared.idempotencyKey (by rw [hp]; rfl)
    refine answers_release hcall hp rfl (fun key' ↦ ?_) key
    rw [eventStatus_recordEvent (k := (call.delivery.channelId, prepared.idempotencyKey))
      (by rw [← hid]; rfl)]
    by_cases hk : key' = (call.delivery.channelId, prepared.idempotencyKey)
    · obtain ⟨hne, hfail⟩ := failureStatus_isFailure error
      rw [if_pos hk, if_pos hk, hk]
      exact slotStatus_recorded_failure hne hfail _
    · rw [if_neg hk, if_neg hk]
  | recordDelivered prepared result =>
    obtain ⟨hid, -, -⟩ := hkept.target prepared.channel prepared.idempotencyKey (by rw [hp]; rfl)
    refine answers_settle hcall hp rfl (fun key' ↦ ?_) key
    rw [eventStatus_recordEvent (k := (call.delivery.channelId, prepared.idempotencyKey))
      (by rw [← hid]; rfl)]
    by_cases hk : key' = (call.delivery.channelId, prepared.idempotencyKey)
    · rw [if_pos hk, if_pos hk]
      exact slotStatus_recorded_success (hkept.result prepared result hp) _
    · rw [if_neg hk, if_neg hk]
  | returned receipt => exact ⟨.stay, answers_quiet hcall rfl (by rw [hp]; rfl) rfl key⟩
  | raised error => exact ⟨.stay, answers_quiet hcall rfl (by rw [hp]; rfl) rfl key⟩
  | crashed => exact ⟨.stay, answers_quiet hcall rfl (by rw [hp]; rfl) rfl key⟩

/-- Every step of the calls is a move of every message. -/
theorem deliveryStep_answers (hk : Kept s) (a : DeliveryAction) (key : DeliveryKey) :
    ∃ move, Answers s a (deliveryStep markdownToText capabilities backend s a).2 key move := by
  cases a with
  | createInstance row =>
    refine ⟨.stay, .of_eq ?_⟩
    have hevents : (createInstance row s.store).events = s.store.events := by
      unfold createInstance
      cases s.store.instances.insert? row <;> rfl
    exact congrArg (Slot.mk · _ _ _) (congrArg slotStatus (eventStatus_congr hevents key))
  | updateInstance row =>
    refine ⟨.stay, .of_eq ?_⟩
    have hevents : (updateInstance backend row s.store).events = s.store.events := by
      unfold updateInstance
      cases getInstance row.tenantId row.agentId row.id s.store <;> rfl
    exact congrArg (Slot.mk · _ _ _) (congrArg slotStatus (eventStatus_congr hevents key))
  | request delivery =>
    refine ⟨.stay, .of_eq ?_⟩
    simp only [deliveryStep, slot, List.countP_append]
    rfl
  | advance i choice =>
    cases hcall : s.calls[i]? with
    | none => exact ⟨.stay, .of_eq (by simp only [deliveryStep, hcall])⟩
    | some call =>
      by_cases hf : choice.faulty = true ∧ isSession call.phase = true
      · rw [deliveryStep_faulty hcall hf]
        exact answers_stop hcall rfl false
          (fun ha ↦ inFlight_of_isAttended ha hcall hf.1 hf.2) key
      · exact advance_answers hcall (hk call (List.mem_of_getElem? hcall)) hf key
  | crash i =>
    cases hcall : s.calls[i]? with
    | none => exact ⟨.stay, .of_eq (by simp only [deliveryStep, hcall])⟩
    | some call =>
      simp only [deliveryStep, hcall]
      split
      · exact ⟨.stay, .of_eq rfl⟩
      · refine answers_stop (a := .crash i) hcall rfl false (fun ha ↦ ?_) key
        simpa [isAttended, hcall] using ha

end refinement

end CyberNetizen.Channels
