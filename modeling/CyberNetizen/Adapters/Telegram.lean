import CyberNetizen.Application.ChannelService

namespace CyberNetizen.Adapters.Telegram

open Domain Application
open Application.ChannelService (AdapterOutcome Exchange)

/-- What comes back from the transport; a body that is no JSON is `none`. -/
inductive HttpReply
  | timeout
  | networkError
  | httpError
  | response (statusCode : ℕ) (body : Option JsonValue)

def capabilities : ChannelCapabilities where
  threads := true
  messageEdit := true
  proactiveMessages := true
  maxTextChars := 4096
  maxBlocks := 1
  maxAttachmentBytes := 50 * 1024 * 1024

def maxTelegramInteger : ℕ := 9223372036854775807

def isDigit (c : Char) : Bool := '0' ≤ c && c ≤ '9'

def isLetter (c : Char) : Bool := ('a' ≤ c && c ≤ 'z') || ('A' ≤ c && c ≤ 'Z')

/-- `int` of a run of digits. -/
def decimal (digits : List Char) : ℕ :=
  digits.foldl (fun n c ↦ 10 * n + (c.toNat - '0'.toNat)) 0

/-- The pattern `^[1-9][0-9]{5,15}:[A-Za-z0-9_-]{20,128}$`. -/
def isToken (value : String) : Bool :=
  let bot := value.toList.takeWhile isDigit
  match value.toList.dropWhile isDigit with
  | ':' :: secret =>
    bot.head? ≠ some '0' && 6 ≤ bot.length && bot.length ≤ 16
      && 20 ≤ secret.length && secret.length ≤ 128
      && secret.all fun c ↦ isLetter c || isDigit c || c = '_' || c = '-'
  | _ => false

/-- The pattern `^-?[1-9][0-9]{0,19}$` and the integer it stands for. -/
def integerId? (value : String) : Option ℤ :=
  let digits := fun (l : List Char) ↦
    l.all isDigit && l.head? ≠ some '0' && 1 ≤ l.length && l.length ≤ 20
  match value.toList with
  | '-' :: l => if digits l then some (-(decimal l : ℤ)) else none
  | l => if digits l then some (decimal l) else none

/-- The pattern `^@[A-Za-z][A-Za-z0-9_]{4,31}$`. -/
def isUsername (value : String) : Bool :=
  match value.toList with
  | '@' :: first :: rest =>
    isLetter first && 4 ≤ rest.length && rest.length ≤ 31
      && rest.all fun c ↦ isLetter c || isDigit c || c = '_'
  | _ => false

def token (credential : Option String) : Except ChannelAdapterError String :=
  match credential with
  | none => .error (notConfiguredError "Telegram Bot Token 尚未配置")
  | some credential =>
    if isToken (strip credential) then .ok (strip credential)
    else .error (notConfiguredError "Telegram Bot Token 格式无效")

def chatId (value : String) : Except ChannelAdapterError (ℤ ⊕ String) :=
  let normalized := strip value
  match integerId? normalized with
  | some identifier => .ok (.inl identifier)
  | none =>
    if isUsername normalized then .ok (.inr normalized)
    else .error (capabilityError "Telegram chat ID 必须是整数或合法的 @channel_username")

def positiveId (value label : String) : Except ChannelAdapterError ℕ :=
  let digits := (strip value).toList
  if digits.isEmpty ∨ ¬digits.all isDigit then
    .error (capabilityError s!"{label}必须是正整数")
  else
    let identifier := decimal digits
    if 1 ≤ identifier ∧ identifier ≤ maxTelegramInteger then .ok identifier
    else .error (capabilityError s!"{label}超出有效范围")

/-- One `POST` to the Bot API. -/
structure Request where
  token : String
  method : String
  chatId : ℤ ⊕ String
  text : String
  messageThreadId : Option ℕ
  messageId : Option ℕ

/-- What `deliver` checks before it calls the Bot API. -/
def request (command : ChannelDeliveryCommand) (negotiation : CapabilityNegotiation)
    (credential : Option String) : Except ChannelAdapterError Request := do
  let token ← token credential
  match negotiation.blocks with
  | [block] =>
    match block.kind, block.text with
    | .text, some text =>
      let chatId ← chatId command.recipientId
      let messageThreadId ← negotiation.threadId.mapM fun value ↦ positiveId value "Telegram 话题 ID"
      let messageId ← negotiation.editMessageId.mapM fun value ↦ positiveId value "Telegram 消息 ID"
      match messageId with
      | none => return ⟨token, "sendMessage", chatId, text, messageThreadId, none⟩
      | some messageId => return ⟨token, "editMessageText", chatId, text, none, some messageId⟩
    | _, _ => throw (capabilityError "Telegram 出站当前只支持纯文本")
  | _ => throw (capabilityError "Telegram 单次发送只接受一个文本内容块")

def unavailable (message : String) : ChannelAdapterError :=
  ⟨.adapter, "telegram_unavailable", message, true, none⟩

def rejected : ChannelAdapterError :=
  ⟨.adapter, "telegram_rejected", "Telegram 拒绝了请求", false, none⟩

def invalidResponse (message : String) : ChannelAdapterError :=
  ⟨.adapter, "telegram_invalid_response", message, false, none⟩

def retryAfter (body : Option JsonValue) : ℕ :=
  match body with
  | some (.dict payload) =>
    match payload.lookup "parameters" with
    | some (.dict parameters) =>
      match parameters.lookup "retry_after" with
      | some (.int seconds) => if 1 ≤ seconds ∧ seconds ≤ 86400 then seconds.toNat else 1
      | _ => 1
    | _ => 1
  | _ => 1

/-- How `_call` reads the reply. -/
def call (reply : HttpReply) : Except ChannelAdapterError JsonObject :=
  match reply with
  | .timeout | .networkError => .error (unavailable "Telegram 暂时无法连接")
  | .httpError =>
    .error ⟨.adapter, "telegram_transport_error", "Telegram 请求未能安全完成", true, none⟩
  | .response statusCode body =>
    if statusCode = 429 then
      .error ⟨.adapter, "telegram_rate_limited", "Telegram 已限制发送频率", true,
        some (retryAfter body)⟩
    else if 500 ≤ statusCode then .error (unavailable "Telegram 服务暂时不可用")
    else if 400 ≤ statusCode then .error rejected
    else
      match body with
      | some (.dict payload) =>
        match payload.lookup "ok" with
        | some (.bool true) => .ok payload
        | _ => .error rejected
      | _ => .error (invalidResponse "Telegram 返回了无效响应")

def messageId (payload : JsonObject) : Except ChannelAdapterError ℤ :=
  match payload.lookup "result" with
  | some (.dict result) =>
    match result.lookup "message_id" with
    | some (.int identifier) =>
      if 0 < identifier then .ok identifier
      else .error (invalidResponse "Telegram 返回了无效发送结果")
    | _ => .error (invalidResponse "Telegram 返回了无效发送结果")
  | _ => .error (invalidResponse "Telegram 返回了无效发送结果")

def deliver (command : ChannelDeliveryCommand) (negotiation : CapabilityNegotiation)
    (credential : Option String) (transport : Request → HttpReply) (now : Datetime) :
    Except ChannelAdapterError AdapterDeliveryResult := do
  let request ← request command negotiation credential
  let payload ← call (transport request)
  let messageId ← messageId payload
  return {
    status := if negotiation.degradations.isEmpty then .delivered else .degraded
    externalMessageId := toString messageId
    degradations := negotiation.degradations
    deliveredAt := now }

/-- The remote side of a request: whether it accepts the message, and the reply that arrives. A
reply that says so comes from a message that was accepted. -/
structure BotApi where
  accepts : Request → Bool
  reply : Request → HttpReply
  honest : ∀ request payload, call (reply request) = .ok payload → accepts request = true

def BotApi.replyLost : BotApi where
  accepts := fun _ ↦ true
  reply := fun _ ↦ .timeout
  honest := fun _ _ _ ↦ rfl

section

variable (command : ChannelDeliveryCommand) (negotiation : CapabilityNegotiation)
  (credential : Option String)

theorem request_accepted_of_deliver {api : BotApi} {now : Datetime}
    {result : AdapterDeliveryResult}
    (h : deliver command negotiation credential api.reply now = .ok result) :
    (∃ request', request command negotiation credential = .ok request' ∧
      api.accepts request' = true) ∧ result.status.isSuccess = true := by
  unfold deliver at h
  cases hr : request command negotiation credential with
  | error error => rw [hr] at h; cases h
  | ok request' =>
    cases hc : call (api.reply request') with
    | error error =>
      rw [hr] at h
      simp only [bind, Except.bind, hc] at h
      cases h
    | ok payload =>
      rw [hr] at h
      simp only [bind, Except.bind, hc] at h
      cases hm : messageId payload with
      | error error => rw [hm] at h; cases h
      | ok identifier =>
        rw [hm] at h
        obtain rfl := Except.ok.inj h
        refine ⟨⟨request', rfl, api.honest request' payload hc⟩, ?_⟩
        dsimp only
        split <;> rfl

/-- The delivery as the service sees it. -/
def exchange (api : BotApi) (now : Datetime) : Exchange where
  accepted :=
    match request command negotiation credential with
    | .error _ => false
    | .ok request => api.accepts request
  outcome :=
    match deliver command negotiation credential api.reply now with
    | .error error => .error error
    | .ok result => .result result
  answered := by
    intro result h
    cases hd : deliver command negotiation credential api.reply now with
    | error error => rw [hd] at h; cases h
    | ok delivered =>
      rw [hd] at h
      obtain rfl := AdapterOutcome.result.inj h
      obtain ⟨⟨request', hr, ha⟩, hs⟩ :=
        request_accepted_of_deliver command negotiation credential hd
      rw [hr]
      exact ⟨ha, hs⟩

theorem exchange_replyLost {request' : Request} (now : Datetime)
    (h : request command negotiation credential = .ok request') :
    (exchange command negotiation credential .replyLost now).accepted = true ∧
      (exchange command negotiation credential .replyLost now).outcome =
        .error (unavailable "Telegram 暂时无法连接") := by
  constructor
  · simp only [exchange, h, BotApi.replyLost]
  · simp only [exchange, deliver, h, bind, Except.bind, BotApi.replyLost, call]

end

end CyberNetizen.Adapters.Telegram
