import CyberNetizen.Adapters.Channel
import CyberNetizen.Adapters.TelegramInbound
import CyberNetizen.Channels.SlotRefinement
import CyberNetizen.Inbound.RoundTrip
import CyberNetizen.Worker.ReplyDispatcher

namespace CyberNetizen.Channels

open Domain Adapters Application Checks

section identifiers

theorem isDigit_toDigits {n : ℕ} {c : Char} (h : c ∈ Nat.toDigits 10 n) :
    Telegram.isDigit c = true := by
  have hdigit := Nat.isDigit_of_mem_toDigits (by decide) (by decide) h
  simpa [Char.isDigit, Telegram.isDigit, Char.le_def] using hdigit

theorem decimal_toDigits (n : ℕ) : Telegram.decimal (Nat.toDigits 10 n) = n :=
  Nat.ofDigitChars_ten_toDigits

theorem head?_toDigits_ne {n : ℕ} (h : 0 < n) : (Nat.toDigits 10 n).head? ≠ some '0' := by
  induction n using Nat.strongRecOn with
  | _ n ih =>
    by_cases hn : n < 10
    · have hone : ∀ d < 10, 0 < d → [Nat.digitChar d].head? ≠ some '0' := by decide
      rw [Nat.toDigits_of_lt_base hn]
      exact hone n hn h
    · rw [Nat.toDigits_of_base_le (by decide) (by omega),
        List.head?_append_of_ne_nil _ Nat.toDigits_ne_nil]
      exact ih (n / 10) (by omega) (by omega)

theorem isSpace_of_isDigit {c : Char} (h : Telegram.isDigit c = true) : isSpace c = false := by
  simp only [Telegram.isDigit, Bool.and_eq_true, decide_eq_true_eq, Char.le_def] at h
  have hlo : 48 ≤ c.toNat := h.1
  have hhi : c.toNat ≤ 57 := h.2
  unfold isSpace
  simp only [Bool.or_eq_false_iff, Bool.and_eq_false_iff, decide_eq_false_iff_not]
  omega

variable {z : ℤ}

theorem toList_toString_of_pos (h : 0 < z) : (toString z).toList = Nat.toDigits 10 z.toNat := by
  rw [Int.toString_eq_repr, Int.repr_eq_if, if_pos h.le, Nat.toList_repr]

theorem toList_toString_of_neg (h : z < 0) :
    (toString z).toList = '-' :: Nat.toDigits 10 (-z).toNat := by
  rw [Int.toString_eq_repr, Int.repr_eq_if, if_neg (by omega), String.toList_append,
    Nat.toList_repr]
  rfl

def IsId (z : ℤ) : Prop :=
  z ≠ 0 ∧ -(Telegram.maxTelegramInteger : ℤ) ≤ z ∧ z ≤ Telegram.maxTelegramInteger

theorem isId_digits {n : ℕ} (hpos : 0 < n) (hle : n ≤ Telegram.maxTelegramInteger) :
    ((Nat.toDigits 10 n).all Telegram.isDigit && (Nat.toDigits 10 n).head? ≠ some '0' &&
      1 ≤ (Nat.toDigits 10 n).length && (Nat.toDigits 10 n).length ≤ 20) = true := by
  have hlen : (Nat.toDigits 10 n).length ≤ 20 := by
    rw [Nat.length_toDigits_le_iff (by decide) (by decide)]
    exact lt_of_le_of_lt hle (by decide)
  have hne : 1 ≤ (Nat.toDigits 10 n).length := Nat.length_toDigits_pos
  have hall : (Nat.toDigits 10 n).all Telegram.isDigit = true :=
    List.all_eq_true.mpr fun c hc ↦ isDigit_toDigits hc
  rw [hall, decide_eq_true (head?_toDigits_ne hpos), decide_eq_true hne, decide_eq_true hlen]
  rfl

theorem integerId?_toString (h : IsId z) : Telegram.integerId? (toString z) = some z := by
  obtain ⟨hz, hlo, hhi⟩ := h
  unfold Telegram.integerId?
  rcases lt_or_gt_of_ne hz with hneg | hpos
  · rw [toList_toString_of_neg hneg]
    have hdigits := isId_digits (n := (-z).toNat) (by omega) (by omega)
    split
    · rename_i l hl
      obtain rfl := (List.cons.inj hl).2
      rw [if_pos hdigits, decimal_toDigits]
      congr 1
      omega
    · rename_i hnot
      exact absurd rfl (hnot _)
  · rw [toList_toString_of_pos hpos]
    have hdigits := isId_digits (n := z.toNat) (by omega) (by omega)
    have hhead : ∀ l, Nat.toDigits 10 z.toNat ≠ '-' :: l := by
      intro l hl
      have hdash := isDigit_toDigits (n := z.toNat) (c := '-') (by rw [hl]; exact List.mem_cons_self)
      exact absurd hdash (by decide)
    split
    · rename_i l hl
      exact absurd hl (hhead l)
    · dsimp only
      rw [if_pos hdigits, decimal_toDigits]
      congr 1
      omega

theorem strip_toString (hz : z ≠ 0) : strip (toString z) = toString z := by
  refine strip_eq_self fun c hc ↦ ?_
  rcases lt_or_gt_of_ne hz with hneg | hpos
  · rw [toList_toString_of_neg hneg] at hc
    rcases List.mem_cons.mp hc with rfl | hc
    · decide
    · exact isSpace_of_isDigit (isDigit_toDigits hc)
  · rw [toList_toString_of_pos hpos] at hc
    exact isSpace_of_isDigit (isDigit_toDigits hc)

theorem isEmpty_toString (hz : z ≠ 0) : (toString z).isEmpty = false := by
  refine Bool.eq_false_of_not_eq_true fun hempty ↦ ?_
  have hnil : (toString z).toList = [] := String.toList_eq_nil_iff.mpr (String.isEmpty_iff.mp hempty)
  rcases lt_or_gt_of_ne hz with hneg | hpos
  · rw [toList_toString_of_neg hneg] at hnil
    cases hnil
  · rw [toList_toString_of_pos hpos] at hnil
    exact Nat.toDigits_ne_nil hnil

theorem length_toString_le (h : IsId z) : (toString z).length ≤ 21 := by
  obtain ⟨hz, hlo, hhi⟩ := h
  have hcount : ∀ n ≤ Telegram.maxTelegramInteger, (Nat.toDigits 10 n).length ≤ 20 := by
    intro n hn
    rw [Nat.length_toDigits_le_iff (by decide) (by decide)]
    exact lt_of_le_of_lt hn (by decide)
  rw [← String.length_toList]
  rcases lt_or_gt_of_ne hz with hneg | hpos
  · rw [toList_toString_of_neg hneg, List.length_cons]
    have h := hcount (-z).toNat (by omega)
    omega
  · rw [toList_toString_of_pos hpos]
    have h := hcount z.toNat (by omega)
    omega

theorem chatId_toString (h : IsId z) : Telegram.chatId (toString z) = .ok (.inl z) := by
  unfold Telegram.chatId
  dsimp only
  rw [strip_toString h.1, integerId?_toString h]

theorem positiveId_toString (h : IsId z) (hpos : 0 < z) (label : String) :
    Telegram.positiveId (toString z) label = .ok z.toNat := by
  have hall : (Nat.toDigits 10 z.toNat).all Telegram.isDigit = true :=
    List.all_eq_true.mpr fun c hc ↦ isDigit_toDigits hc
  have hne : (Nat.toDigits 10 z.toNat).isEmpty = false :=
    List.isEmpty_eq_false_iff.mpr Nat.toDigits_ne_nil
  unfold Telegram.positiveId
  rw [strip_toString h.1, toList_toString_of_pos hpos]
  dsimp only
  rw [hall, hne, if_neg (by decide), decimal_toDigits, if_pos]
  obtain ⟨-, -, hhi⟩ := h
  omega

end identifiers

section addresses

variable {envelope accepted : InboundEnvelope} {event : ChannelInboundEvent} {update : JsonObject}

structure EventAddresses (event : ChannelInboundEvent) (chat message : ℤ) (thread : Option ℤ) :
    Prop where
  chat_isId : IsId chat
  message_isId : IsId message
  thread_isId : ∀ t ∈ thread, IsId t ∧ 0 < t
  conversation : event.conversationExternalId = toString chat
  threadId : event.threadExternalId = thread.map toString
  messageId : event.messageExternalId = some s!"telegram:message:{chat}:{message}"

theorem requiredPositiveInteger_isId {values : JsonObject} {key label : String} {z : ℤ}
    (h : Telegram.requiredPositiveInteger values key label = .ok z) : IsId z ∧ 0 < z := by
  unfold Telegram.requiredPositiveInteger at h
  cases hv : values.lookup key with
  | none => rw [hv] at h; cases h
  | some value =>
    rw [hv] at h
    cases value with
    | int value =>
      dsimp only at h
      by_cases hrange : 1 ≤ value ∧ value ≤ Telegram.maxTelegramInteger
      · rw [if_pos hrange] at h
        cases h
        refine ⟨⟨?_, ?_, hrange.2⟩, ?_⟩ <;> omega
      · rw [if_neg hrange] at h
        cases h
    | null | bool | float | str | list | dict => cases h

theorem requiredNonzeroInteger_isId {values : JsonObject} {key label : String} {z : ℤ}
    (h : Telegram.requiredNonzeroInteger values key label = .ok z) : IsId z := by
  unfold Telegram.requiredNonzeroInteger at h
  cases hv : values.lookup key with
  | none => rw [hv] at h; cases h
  | some value =>
    rw [hv] at h
    cases value with
    | int value =>
      dsimp only at h
      by_cases hrange : value ≠ 0 ∧ -(Telegram.maxTelegramInteger : ℤ) ≤ value ∧
          value ≤ Telegram.maxTelegramInteger
      · rw [if_pos hrange] at h
        cases h
        exact hrange
      · rw [if_neg hrange] at h
        cases h
    | null | bool | float | str | list | dict => cases h

theorem threadId_isId {message : JsonObject} {chatType : String} {thread : Option ℤ}
    (h : Telegram.threadId message chatType = .ok thread) : ∀ t ∈ thread, IsId t ∧ 0 < t := by
  have hpositive : ∀ x : Except Telegram.NormalizeError ℤ,
      x = Telegram.requiredPositiveInteger message "message_thread_id" "Forum 线程 ID" →
      x.map some = .ok thread → ∀ t ∈ thread, IsId t ∧ 0 < t := by
    intro x hx hmap t ht
    cases x with
    | error e => cases hmap
    | ok z =>
      cases hmap
      cases ht
      exact requiredPositiveInteger_isId hx.symm
  have hguarded : (if chatType ≠ "supergroup" then
        Telegram.refused (α := Option ℤ) "Telegram Forum 线程必须属于超级群组"
      else if !Telegram.isHashable (message.lookup "is_topic_message") then .error .typeError
      else if !Telegram.isTrueOrMissing (message.lookup "is_topic_message") then
        Telegram.refused "Telegram Forum 消息标识无效"
      else (Telegram.requiredPositiveInteger message "message_thread_id" "Forum 线程 ID").map
        some) = .ok thread → ∀ t ∈ thread, IsId t ∧ 0 < t := by
    intro h
    split at h
    · cases h
    · split at h
      · cases h
      · split at h
        · cases h
        · exact hpositive _ rfl h
  unfold Telegram.threadId at h
  split at h
  case h_3 => exact hguarded h
  all_goals
    split at h
    · cases h
    · cases h
      exact fun t ht ↦ absurd ht (Option.not_mem_none t)

theorem normalizeInbound_addresses (h : Telegram.normalizeInbound update = .ok event) :
    ∃ chat message thread, EventAddresses event chat message thread := by
  unfold Telegram.normalizeInbound at h
  split at h
  · cases h
  obtain ⟨updateId, -, h⟩ := bind_eq_ok.mp h
  obtain ⟨message, -, h⟩ := bind_eq_ok.mp h
  obtain ⟨messageId, hmessageId, h⟩ := bind_eq_ok.mp h
  obtain ⟨occurredAt, -, h⟩ := bind_eq_ok.mp h
  obtain ⟨sender, -, h⟩ := bind_eq_ok.mp h
  split at h
  · obtain ⟨senderId, -, h⟩ := bind_eq_ok.mp h
    obtain ⟨chat, -, h⟩ := bind_eq_ok.mp h
    obtain ⟨chatId, hchatId, h⟩ := bind_eq_ok.mp h
    obtain ⟨chatType, -, h⟩ := bind_eq_ok.mp h
    obtain ⟨text, -, h⟩ := bind_eq_ok.mp h
    obtain ⟨thread, hthread, h⟩ := bind_eq_ok.mp h
    cases h
    exact ⟨chatId, messageId, thread, requiredNonzeroInteger_isId hchatId,
      (requiredPositiveInteger_isId hmessageId).1, threadId_isId hthread, rfl, rfl, rfl⟩
  · cases h

theorem externalId_eq {value label v : String}
    (h : InboundGatewayService.externalId value label = .ok v) : v = strip value := by
  unfold InboundGatewayService.externalId InboundGatewayService.text at h
  dsimp only at h
  split at h
  · cases h
  · split at h
    · cases h
    · split at h
      · cases h
      · exact (Except.ok.inj h).symm

structure Addresses (envelope : InboundEnvelope) (chat : ℤ) (thread : Option ℤ) : Prop where
  chat_isId : IsId chat
  thread_isId : ∀ t ∈ thread, IsId t ∧ 0 < t
  conversation : envelope.externalConversationId = toString chat
  threadId : envelope.externalThreadId = thread.map toString
  messageId : envelope.externalMessageId.length ≤ 60

theorem normalize_addresses {ports : InboundGatewayService.Ports} {tenantId agentId channelId : UUID}
    {verification : InboundVerification} {chat message : ℤ} {thread : Option ℤ}
    (h : InboundGatewayService.normalize ports tenantId agentId channelId event verification =
      .ok accepted) (hevent : EventAddresses event chat message thread) :
    Addresses accepted chat thread := by
  unfold InboundGatewayService.normalize at h
  obtain ⟨channel, -, h⟩ := bind_eq_ok.mp h
  obtain ⟨-, -, h⟩ := bind_eq_ok.mp h
  obtain ⟨-, -, h⟩ := bind_eq_ok.mp h
  obtain ⟨maximumBytes, -, h⟩ := bind_eq_ok.mp h
  obtain ⟨-, -, h⟩ := bind_eq_ok.mp h
  obtain ⟨maximumAge, -, h⟩ := bind_eq_ok.mp h
  obtain ⟨-, -, h⟩ := bind_eq_ok.mp h
  obtain ⟨subjectId, -, h⟩ := bind_eq_ok.mp h
  obtain ⟨externalConversationId, hconversation, h⟩ := bind_eq_ok.mp h
  obtain ⟨externalThreadId, hthread, h⟩ := bind_eq_ok.mp h
  obtain ⟨externalEventId, -, h⟩ := bind_eq_ok.mp h
  obtain ⟨externalMessageId, hmessage, h⟩ := bind_eq_ok.mp h
  obtain ⟨identity, -, h⟩ := bind_eq_ok.mp h
  obtain ⟨conversation, -, h⟩ := bind_eq_ok.mp h
  obtain ⟨-, -, h⟩ := bind_eq_ok.mp h
  obtain ⟨localConversation, -, h⟩ := bind_eq_ok.mp h
  obtain ⟨-, -, h⟩ := bind_eq_ok.mp h
  obtain ⟨-, -, h⟩ := bind_eq_ok.mp h
  obtain ⟨blocks, -, h⟩ := bind_eq_ok.mp h
  cases h
  refine ⟨hevent.chat_isId, hevent.thread_isId, ?_, ?_, ?_⟩
  · rw [externalId_eq hconversation, hevent.conversation, strip_toString hevent.chat_isId.1]
  · rw [hevent.threadId] at hthread
    cases thread with
    | none => cases hthread; rfl
    | some t =>
      obtain ⟨hid, -⟩ := hevent.thread_isId t rfl
      unfold InboundGatewayService.optionalExternalId at hthread
      dsimp only [Option.map_some] at hthread
      rw [strip_toString hid.1, isEmpty_toString hid.1, if_neg (by decide)] at hthread
      cases ht : InboundGatewayService.externalId (toString t) "外部线程 ID" with
      | error e => rw [ht] at hthread; cases hthread
      | ok v =>
        rw [ht] at hthread
        cases hthread
        rw [externalId_eq ht, strip_toString hid.1]
        rfl
  · rw [externalId_eq hmessage]
    refine (length_strip_le _).trans ?_
    have hlength : (s!"telegram:message:{chat}:{message}").length ≤ 60 := by
      have hchat := length_toString_le hevent.chat_isId
      have hid := length_toString_le hevent.message_isId
      have htag : (toString "telegram:message:").length = 17 := rfl
      have hcolon : (toString ":").length = 1 := rfl
      simp only [String.length_append, htag, hcolon]
      omega
    unfold InboundGatewayService.messageIdOf
    rw [hevent.messageId]
    dsimp only
    rw [if_neg]
    · exact hlength
    · intro hempty
      have h := congrArg String.length (String.isEmpty_iff.mp hempty)
      have htag : (toString "telegram:message:").length = 17 := rfl
      simp only [String.length_append, htag, String.length_empty] at h
      omega

/-- The handler reads the addresses back. -/
theorem envelope_addresses {job : BackgroundJob} {chat : ℤ} {thread : Option ℤ}
    (h : InboundMessageTaskHandler.envelope job = .ok envelope)
    (hpayload : job.payload = InboundGatewayService.envelopePayload accepted)
    (hclean : Inbound.Normalized event accepted) (haddress : Addresses accepted chat thread) :
    Addresses envelope chat thread := by
  unfold InboundMessageTaskHandler.envelope at h
  rw [hpayload] at h
  dsimp only at h
  obtain ⟨schemaVersion, -, h⟩ := bind_eq_ok.mp h
  obtain ⟨-, -, h⟩ := bind_eq_ok.mp h
  split at h
  · obtain ⟨occurredAt, -, h⟩ := bind_eq_ok.mp h
    obtain ⟨receivedAt, -, h⟩ := bind_eq_ok.mp h
    obtain ⟨agentId, -, h⟩ := bind_eq_ok.mp h
    obtain ⟨channelId, -, h⟩ := bind_eq_ok.mp h
    obtain ⟨platform, -, h⟩ := bind_eq_ok.mp h
    obtain ⟨externalEventId, -, h⟩ := bind_eq_ok.mp h
    obtain ⟨externalSubjectId, -, h⟩ := bind_eq_ok.mp h
    obtain ⟨userId, -, h⟩ := bind_eq_ok.mp h
    obtain ⟨conversationKind, -, h⟩ := bind_eq_ok.mp h
    obtain ⟨externalConversationId, hconversation, h⟩ := bind_eq_ok.mp h
    obtain ⟨externalThreadId, hthread, h⟩ := bind_eq_ok.mp h
    obtain ⟨conversationId, -, h⟩ := bind_eq_ok.mp h
    obtain ⟨externalMessageId, hmessage, h⟩ := bind_eq_ok.mp h
    obtain ⟨blocks, -, h⟩ := bind_eq_ok.mp h
    cases h
    rw [(Inbound.requiredText_str rfl).mpr hclean.externalConversationId] at hconversation
    rw [(Inbound.optionalText_json rfl).mpr hclean.externalThreadId] at hthread
    rw [(Inbound.requiredText_str rfl).mpr hclean.externalMessageId] at hmessage
    cases hconversation
    cases hthread
    cases hmessage
    exact ⟨haddress.chat_isId, haddress.thread_isId, haddress.conversation, haddress.threadId,
      haddress.messageId⟩
  · cases h

def FromTelegram (envelope : InboundEnvelope) : Prop :=
  envelope.platform = .telegram ∧
    ∃ update event ports tenantId agentId channelId verification createdBy jobId inboxId eventId now,
    ∃ accepted request, ∃ job : BackgroundJob,
      Telegram.normalizeInbound update = .ok event ∧
      InboundGatewayService.acceptNormalized ports tenantId agentId channelId event verification
        createdBy jobId inboxId eventId now = .ok (accepted, request) ∧
      job.tenantId = request.job.tenantId ∧ job.payload = request.job.payload ∧
      InboundMessageTaskHandler.envelope job = .ok envelope

theorem FromTelegram.addresses (h : FromTelegram envelope) :
    ∃ chat thread, Addresses envelope chat thread := by
  obtain ⟨-, update, event, ports, tenantId, agentId, channelId, verification, createdBy, jobId,
    inboxId, eventId, now, accepted, request, job, hupdate, haccept, -, hpayload, henvelope⟩ := h
  obtain ⟨chat, message, thread, hevent⟩ := normalizeInbound_addresses hupdate
  obtain ⟨hclean, hstored, -⟩ := Inbound.acceptNormalized_spec haccept
  refine ⟨chat, thread, envelope_addresses henvelope (hpayload.trans hstored) hclean ?_⟩
  unfold InboundGatewayService.acceptNormalized at haccept
  obtain ⟨normalized, hnormalized, haccept⟩ := bind_eq_ok.mp haccept
  obtain ⟨eventType, -, haccept⟩ := bind_eq_ok.mp haccept
  obtain ⟨maxAttempts, -, haccept⟩ := bind_eq_ok.mp haccept
  obtain ⟨leaseSeconds, -, haccept⟩ := bind_eq_ok.mp haccept
  obtain ⟨retryBaseSeconds, -, haccept⟩ := bind_eq_ok.mp haccept
  dsimp only at haccept
  split at haccept
  · cases haccept
  · obtain ⟨rfl, -⟩ := Prod.mk.inj (Except.ok.inj haccept)
    exact normalize_addresses hnormalized hevent

end addresses

section replies

open Application.ChannelService Application.InboundConversationProcessor
open Worker.TelegramInboundReplyDispatcher

variable (isDecimal : Char → Bool) {envelope : InboundEnvelope} {response : Message}
  {responseMessageId : UUID} {credential text : String} {command : ChannelDeliveryCommand}

def SentAs (delivery : ChannelService.Delivery) (credential text : String) : Prop :=
  ∃ key command negotiation request,
    ChannelService.text delivery.idempotencyKey "发送幂等键" 255 = .ok key ∧
    deliveryCommand delivery key = .ok command ∧
    negotiateCapabilities (markdownToText isDecimal) command Telegram.capabilities =
      .ok negotiation ∧
    Telegram.request command negotiation (some credential) = .ok request ∧ request.text = text

def RefusedForLength (delivery : ChannelService.Delivery) : Prop :=
  ∃ key command,
    ChannelService.text delivery.idempotencyKey "发送幂等键" 255 = .ok key ∧
    deliveryCommand delivery key = .ok command ∧
    negotiateCapabilities (markdownToText isDecimal) command Telegram.capabilities =
      .error (.adapter (capabilityError "文本内容超过目标渠道可安全拆分的上限"))

theorem channelText_eq {value label : String} {maximum : ℕ} (hne : (strip value).isEmpty = false)
    (hlen : value.length ≤ maximum) :
    ChannelService.text value label maximum = .ok (strip value) := by
  have hle := (length_strip_le value).trans hlen
  unfold ChannelService.text
  dsimp only
  rw [hne, if_neg (by decide), if_neg (by omega)]

section negotiation

variable (hblocks : command.blocks = [{ kind := .text, text := some text }])
  (hproactive : command.proactive = false) (hshown : (strip text).isEmpty = false)

include hblocks hproactive hshown

theorem negotiateCapabilities_short (hstreaming : command.requestStreaming = false)
    (hedit : command.editMessageId = none) (hlen : text.length ≤ 4096) :
    negotiateCapabilities (markdownToText isDecimal) command Telegram.capabilities = .ok {
      blocks := [{ kind := .text, text := some text }], degradations := [], buffered := false
      threadId := command.threadId, editMessageId := none } := by
  have hlist : text.toList ≠ [] := by
    intro hnil
    obtain rfl := String.toList_eq_nil_iff.mp hnil
    exact absurd hshown (by decide)
  have hchunks : Chunks.chunks 4096 text.toList = [text.toList] :=
    Chunks.chunks_of_length_le_size (by decide) hlist (by rwa [String.length_toList])
  have hnormal : normalizeBlock (markdownToText isDecimal) Telegram.capabilities
      { kind := .text, text := some text } = .ok ({ kind := .text, text := some text }, []) := by
    unfold normalizeBlock validateBlock
    rw [if_pos (.inl rfl)]
    dsimp only
    rw [hshown, if_neg (by decide), if_neg (by simp only [Telegram.capabilities]; omega)]
    rfl
  have hexpand : expandBlock Telegram.capabilities { kind := .text, text := some text } =
      .ok ([{ kind := .text, text := some text }], []) := by
    unfold expandBlock
    rw [if_pos (.inl rfl), if_neg (by decide)]
    simp only [Telegram.capabilities, Option.getD_some, hchunks, List.map_singleton,
      String.ofList_toList]
    rfl
  have hfirst : command.blocks.mapM (fun block ↦
      (normalizeBlock (markdownToText isDecimal) Telegram.capabilities block).mapError
        NegotiationError.adapter) = .ok [({ kind := .text, text := some text }, [])] := by
    rw [hblocks, List.mapM_cons, hnormal]
    rfl
  have hsecond : [(({ kind := .text, text := some text } : MultimodalContentBlock),
      ([] : List String))].mapM (fun p ↦ expandBlock Telegram.capabilities p.1) =
      .ok [([{ kind := .text, text := some text }], [])] := by
    rw [List.mapM_cons, hexpand]
    rfl
  unfold negotiateCapabilities
  rw [hproactive, if_neg (by decide)]
  dsimp only
  rw [bind_of_ok hfirst, bind_of_ok hsecond, hstreaming, hedit]
  have hthreads : (command.threadId.isSome && !Telegram.capabilities.threads) = false :=
    Bool.and_false _
  rw [hthreads]
  rfl

theorem negotiateCapabilities_long (hlen : 4096 < text.length) :
    negotiateCapabilities (markdownToText isDecimal) command Telegram.capabilities =
      .error (.adapter (capabilityError "文本内容超过目标渠道可安全拆分的上限")) := by
  have hnormal : normalizeBlock (markdownToText isDecimal) Telegram.capabilities
      { kind := .text, text := some text } =
        .error (capabilityError "文本内容超过目标渠道可安全拆分的上限") := by
    unfold normalizeBlock validateBlock
    rw [if_pos (.inl rfl)]
    dsimp only
    rw [hshown, if_neg (by decide), if_pos (by simp only [Telegram.capabilities]; omega)]
    rfl
  unfold negotiateCapabilities
  rw [hproactive, if_neg (by decide), hblocks]
  dsimp only
  rw [List.mapM_cons, hnormal]
  rfl

end negotiation

theorem deliverReply_eq (hplatform : envelope.platform = .telegram)
    (hid : response.id = responseMessageId) (hstatus : response.status = .completed)
    (hshown : (strip response.content).isEmpty = false) :
    deliverReply (some dispatch) envelope response .completed responseMessageId =
      .ok (some (replyDelivery envelope (strip response.content) (replyKey envelope))) := by
  unfold deliverReply dispatch
  dsimp only
  rw [if_neg (not_not.mpr hplatform), if_neg (by decide),
    if_neg (not_or.mpr ⟨not_not.mpr hid, not_not.mpr hstatus⟩), hshown, if_neg (by decide),
    if_neg (not_not.mpr hplatform), if_neg (by decide)]
  rfl

theorem replyKey_text (h : envelope.externalMessageId.length ≤ 60) :
    ∃ key, ChannelService.text (replyKey envelope) "发送幂等键" 255 = .ok key := by
  have huuid : ∀ id : UUID, (toString (uuidString id)).length = 36 := by
    intro id
    change (String.ofList (WireText.uuidText id)).length = 36
    rw [String.length_ofList, WireText.length_uuidText]
  have htag : (toString "inbound-reply:").length = 14 := rfl
  have hcolon : (toString ":").length = 1 := rfl
  refine ⟨_, channelText_eq (Bool.eq_false_of_not_eq_true fun hempty ↦ ?_) ?_⟩
  · refine strip_ne_empty (c := 'i') ?_ (by decide) (String.isEmpty_iff.mp hempty)
    unfold replyKey
    simp [toString]
  · unfold replyKey
    simp only [String.length_append, htag, hcolon, huuid]
    omega

theorem deliveryCommand_reply {chat : ℤ} {thread : Option ℤ}
    (haddress : Addresses envelope chat thread) (text given key : String) :
    deliveryCommand (replyDelivery envelope text given) key = .ok {
      channelId := envelope.channelId, recipientId := toString chat
      blocks := [{ kind := .text, text := some text }], idempotencyKey := key
      threadId := thread.map toString } := by
  have hid : ∀ z : ℤ, IsId z → ∀ label,
      ChannelService.text (toString z) label 255 = .ok (toString z) := by
    intro z hz label
    have hstrip := strip_toString hz.1
    have hok : ChannelService.text (toString z) label 255 = .ok (strip (toString z)) :=
      channelText_eq (by rw [hstrip]; exact isEmpty_toString hz.1)
        ((length_toString_le hz).trans (by decide))
    rwa [hstrip] at hok
  have hthread : optionalText (thread.map toString) 255 = .ok (thread.map toString) := by
    cases thread with
    | none => rfl
    | some t =>
      obtain ⟨ht, -⟩ := haddress.thread_isId t rfl
      unfold optionalText
      dsimp only [Option.map_some]
      rw [strip_toString ht.1, isEmpty_toString ht.1, if_neg (by decide), hid t ht]
      rfl
  unfold deliveryCommand replyDelivery
  dsimp only
  rw [haddress.conversation, haddress.threadId, bind_of_ok (hid chat haddress.chat_isId _),
    bind_of_ok hthread]
  rfl

section sending

variable {chat : ℤ} {thread : Option ℤ} (haddress : Addresses envelope chat thread)
  (hshown : (strip response.content).isEmpty = false)

include haddress hshown

theorem reply_sentAs (htoken : Telegram.isToken (strip credential) = true)
    (hlen : (strip response.content).length ≤ 4096) :
    SentAs isDecimal (replyDelivery envelope (strip response.content) (replyKey envelope))
      credential (strip response.content) := by
  have hstrip : (strip (strip response.content)).isEmpty = false := by
    rw [Inbound.strip_strip]
    exact hshown
  obtain ⟨key, hkey⟩ := replyKey_text haddress.messageId
  have hcommand := deliveryCommand_reply haddress (strip response.content) (replyKey envelope) key
  let command : ChannelDeliveryCommand := {
    channelId := envelope.channelId, recipientId := toString chat
    blocks := [{ kind := .text, text := some (strip response.content) }], idempotencyKey := key
    threadId := thread.map toString }
  have hblocks : command.blocks = [{ kind := .text, text := some (strip response.content) }] := rfl
  have hnegotiation := negotiateCapabilities_short isDecimal hblocks rfl hstrip rfl rfl hlen
  have hthread : (thread.map toString).mapM (fun value ↦
      Telegram.positiveId value "Telegram 话题 ID") = .ok (thread.map Int.toNat) := by
    cases thread with
    | none => rfl
    | some t =>
      obtain ⟨ht, hpos⟩ := haddress.thread_isId t rfl
      rw [Option.map_some, Option.mapM_some, positiveId_toString ht hpos]
      rfl
  have htoken' : Telegram.token (some credential) = .ok (strip credential) := if_pos htoken
  refine ⟨key, _, _, ⟨strip credential, "sendMessage", .inl chat, strip response.content,
    thread.map Int.toNat, none⟩, hkey, hcommand, hnegotiation, ?_, rfl⟩
  unfold Telegram.request
  rw [bind_of_ok htoken']
  dsimp only
  rw [bind_of_ok (chatId_toString haddress.chat_isId), bind_of_ok hthread]
  rfl

theorem reply_refused (hlen : 4096 < (strip response.content).length) :
    RefusedForLength isDecimal
      (replyDelivery envelope (strip response.content) (replyKey envelope)) := by
  have hstrip : (strip (strip response.content)).isEmpty = false := by
    rw [Inbound.strip_strip]
    exact hshown
  obtain ⟨key, hkey⟩ := replyKey_text haddress.messageId
  have hcommand := deliveryCommand_reply haddress (strip response.content) (replyKey envelope) key
  exact ⟨key, _, hkey, hcommand, negotiateCapabilities_long isDecimal rfl rfl hstrip hlen⟩

end sending

theorem RefusedForLength.not_sentAs {delivery : ChannelService.Delivery}
    (h : RefusedForLength isDecimal delivery) (text : String) : ¬SentAs isDecimal delivery credential text := by
  rintro ⟨key', command', negotiation, request, hkey', hcommand', hnegotiation, -⟩
  obtain ⟨key, command, hkey, hcommand, hrefused⟩ := h
  rw [hkey] at hkey'
  obtain rfl := Except.ok.inj hkey'
  rw [hcommand] at hcommand'
  obtain rfl := Except.ok.inj hcommand'
  rw [hrefused] at hnegotiation
  cases hnegotiation

/-- A complete reply of Telegram's length is sent as it is but for the spaces around it; a longer
one is refused for good. -/
theorem deliverReply_telegram (henvelope : FromTelegram envelope)
    (hid : response.id = responseMessageId) (hstatus : response.status = .completed)
    (hshown : (strip response.content).isEmpty = false)
    (htoken : Telegram.isToken (strip credential) = true) :
    ∃ delivery,
      deliverReply (some dispatch) envelope response .completed responseMessageId =
        .ok (some delivery) ∧
      ((strip response.content).length ≤ 4096 →
        SentAs isDecimal delivery credential (strip response.content)) ∧
      (4096 < (strip response.content).length →
        RefusedForLength isDecimal delivery ∧ ∀ text, ¬SentAs isDecimal delivery credential text) := by
  obtain ⟨chat, thread, haddress⟩ := henvelope.addresses
  refine ⟨_, deliverReply_eq henvelope.1 hid hstatus hshown,
    reply_sentAs isDecimal haddress hshown htoken, fun hlen ↦ ?_⟩
  have hrefused := reply_refused isDecimal haddress hshown hlen
  exact ⟨hrefused, hrefused.not_sentAs isDecimal⟩

section examples

theorem textEnvelope_fromTelegram : FromTelegram (Inbound.textEnvelope "hi") := by
  have hrun : (Inbound.textAccepted "hi").toOption.map
      (fun accepted ↦ (accepted.1, InboundMessageTaskHandler.envelope accepted.2.job)) =
      some (Inbound.textEnvelope "hi", .ok (Inbound.textEnvelope "hi")) := by
    decide +kernel
  obtain ⟨⟨envelope, request⟩, haccepted, hread⟩ := Inbound.of_toOption hrun
  obtain ⟨rfl, hread⟩ := Prod.mk.inj hread
  exact ⟨rfl, Inbound.textUpdate "hi", Inbound.textEvent "hi", _, _, _, _, _, _, _, _, _, _, _, request,
    request.job, rfl, haccepted, rfl, rfl, hread⟩

def replyMessage (content : String) : Message where
  id := 9
  tenantId := 0
  conversationId := 4
  senderType := .agent
  senderId := 1
  content
  status := .completed
  clientMessageId := none
  createdAt := 0
  updatedAt := 0
  parts := []

def replyBotToken : String := "123456:abcdefghijklmnopqrst"

theorem deliverReply_telegram_of_hello :
    ∃ delivery,
      deliverReply (some dispatch) (Inbound.textEnvelope "hi") (replyMessage "hello") .completed 9 =
        .ok (some delivery) ∧
      ((strip "hello").length ≤ 4096 →
        SentAs Char.isDigit delivery replyBotToken (strip "hello")) ∧
      (4096 < (strip "hello").length → RefusedForLength Char.isDigit delivery ∧
        ∀ text, ¬SentAs Char.isDigit delivery replyBotToken text) :=
  deliverReply_telegram Char.isDigit textEnvelope_fromTelegram rfl rfl (by decide +kernel)
    (by decide +kernel)

/-- A reply of 4097 letters is refused, and one with a line feed at its end is sent without it. -/
theorem deliverReply_refuses_long :
    (∃ envelope response delivery, FromTelegram envelope ∧ response.status = .completed ∧
      (strip response.content).isEmpty = false ∧
      deliverReply (some dispatch) envelope response .completed response.id =
        .ok (some delivery) ∧
      RefusedForLength Char.isDigit delivery ∧
      ∀ text, ¬SentAs Char.isDigit delivery replyBotToken text) ∧
    ∃ envelope response delivery, FromTelegram envelope ∧ response.status = .completed ∧
      deliverReply (some dispatch) envelope response .completed response.id =
        .ok (some delivery) ∧
      response.content = "hello\n" ∧ SentAs Char.isDigit delivery replyBotToken "hello" := by
  obtain ⟨chat, thread, haddress⟩ := textEnvelope_fromTelegram.addresses
  constructor
  · have hstrip : strip (String.ofList (List.replicate 4097 'a')) =
        String.ofList (List.replicate 4097 'a') := by
      refine strip_eq_self fun c hc ↦ ?_
      rw [String.toList_ofList] at hc
      rw [List.eq_of_mem_replicate hc]
      decide
    have hlen : 4096 < (strip (replyMessage
        (String.ofList (List.replicate 4097 'a'))).content).length := by
      change 4096 < (strip (String.ofList (List.replicate 4097 'a'))).length
      rw [hstrip, String.length_ofList, List.length_replicate]
      decide
    have hshown : (strip (replyMessage
        (String.ofList (List.replicate 4097 'a'))).content).isEmpty = false := by
      refine Bool.eq_false_of_not_eq_true fun hempty ↦ ?_
      rw [String.isEmpty_iff.mp hempty] at hlen
      exact absurd hlen (by decide)
    have hrefused := reply_refused Char.isDigit haddress hshown hlen
    exact ⟨_, _, _, textEnvelope_fromTelegram, rfl, hshown,
      deliverReply_eq textEnvelope_fromTelegram.1 rfl rfl hshown, hrefused,
      hrefused.not_sentAs Char.isDigit⟩
  · have hshown : (strip (replyMessage "hello\n").content).isEmpty = false := by decide +kernel
    have hbot : Telegram.isToken (strip replyBotToken) = true := by decide +kernel
    have hsent := reply_sentAs Char.isDigit haddress hshown hbot (by decide +kernel)
    have hstrip : strip (replyMessage "hello\n").content = "hello" := by decide +kernel
    refine ⟨_, _, _, textEnvelope_fromTelegram, rfl,
      deliverReply_eq textEnvelope_fromTelegram.1 rfl rfl hshown, rfl, ?_⟩
    rw [hstrip] at hsent ⊢
    exact hsent

end examples

end replies

end CyberNetizen.Channels
