import CyberNetizen.Adapters.Telegram
import CyberNetizen.Application.InboundService

namespace CyberNetizen.Adapters.Telegram

open Domain Application

def maxMessageTextChars : ℕ := 4096

def minMessageTimestamp : ℤ := 946684800

def maxMessageTimestamp : ℤ := 4102444800

/-- Why an update is not normalized; a value that cannot be hashed raises another exception. -/
inductive NormalizeError
  | adapter (error : ChannelAdapterError)
  | typeError

def refused {α : Type} (message : String) : Except NormalizeError α :=
  .error (.adapter (capabilityError message))

section fields

variable (values : JsonObject) (key label : String)

def requiredMapping : Except NormalizeError JsonObject :=
  match values.lookup key with
  | some (.dict entries) => .ok entries
  | _ => refused s!"Telegram 入站消息缺少有效{label}"

def requiredPositiveInteger : Except NormalizeError ℤ :=
  match values.lookup key with
  | some (.int value) =>
    if 1 ≤ value ∧ value ≤ maxTelegramInteger then .ok value else refused s!"Telegram {label}无效"
  | _ => refused s!"Telegram {label}无效"

def requiredNonzeroInteger : Except NormalizeError ℤ :=
  match values.lookup key with
  | some (.int value) =>
    if value ≠ 0 ∧ -(maxTelegramInteger : ℤ) ≤ value ∧ value ≤ maxTelegramInteger then .ok value
    else refused s!"Telegram {label}无效"
  | _ => refused s!"Telegram {label}无效"

end fields

def messageTime (message : JsonObject) : Except NormalizeError Datetime := do
  let timestamp ← requiredPositiveInteger message "date" "消息时间"
  if minMessageTimestamp ≤ timestamp ∧ timestamp ≤ maxMessageTimestamp then
    return timestamp.toNat * 1000000
  else refused "Telegram 消息时间超出允许范围"

def messageText (message : JsonObject) : Except NormalizeError String :=
  match message.lookup "text" with
  | some (.str value) =>
    let text := strip value
    if text.isEmpty then refused "Telegram 入站消息文本不能为空"
    else if maxMessageTextChars < text.length then refused "Telegram 入站消息文本超过长度上限"
    else if text.toList.any (· = '\x00') then refused "Telegram 入站消息文本包含无效字符"
    else .ok text
  | _ => refused "Telegram 入站当前只支持文本消息"

def isHashable : Option JsonValue → Bool
  | some (.list _) | some (.dict _) => false
  | _ => true

/-- A value that equals `True` or is missing. -/
def isTrueOrMissing : Option JsonValue → Bool
  | none | some .null | some (.bool true) => true
  | some (.int n) => n = 1
  | some (.float x) => x = 1
  | _ => false

def threadId (message : JsonObject) (chatType : String) : Except NormalizeError (Option ℤ) :=
  match message.lookup "message_thread_id" with
  | none | some .null =>
    match message.lookup "is_topic_message" with
    | some (.bool true) => refused "Telegram Forum 消息缺少线程 ID"
    | _ => .ok none
  | _ =>
    if chatType ≠ "supergroup" then refused "Telegram Forum 线程必须属于超级群组"
    else if !isHashable (message.lookup "is_topic_message") then .error .typeError
    else if !isTrueOrMissing (message.lookup "is_topic_message") then
      refused "Telegram Forum 消息标识无效"
    else (requiredPositiveInteger message "message_thread_id" "Forum 线程 ID").map some

def chatTypeOf (chat : JsonObject) : Except NormalizeError String :=
  match chat.lookup "type" with
  | some (.str value) =>
    if value ∈ ["private", "group", "supergroup"] then .ok value
    else refused "Telegram 入站消息会话类型不受支持"
  | value =>
    if isHashable value then refused "Telegram 入站消息会话类型不受支持" else .error .typeError

/-- A text message update in its normal form. -/
def normalizeInbound (payload : JsonObject) : Except NormalizeError ChannelInboundEvent := do
  if ¬(payload.map Prod.fst ⊆ ["update_id", "message"] ∧
      ["update_id", "message"] ⊆ payload.map Prod.fst) then
    refused "Telegram 入站事件类型不受支持"
  else
    let updateId ← requiredPositiveInteger payload "update_id" "Update ID"
    let message ← requiredMapping payload "message" "消息"
    let messageId ← requiredPositiveInteger message "message_id" "消息 ID"
    let occurredAt ← messageTime message
    let sender ← requiredMapping message "from" "发送者"
    match sender.lookup "is_bot" with
    | some (.bool false) =>
      let senderId ← requiredPositiveInteger sender "id" "发送者 ID"
      let chat ← requiredMapping message "chat" "会话"
      let chatId ← requiredNonzeroInteger chat "id" "会话 ID"
      let chatType ← chatTypeOf chat
      let text ← messageText message
      let threadId ← threadId message chatType
      return {
        externalEventId := s!"telegram:update:{updateId}"
        eventType := "message.created"
        senderExternalId := toString senderId
        conversationExternalId := toString chatId
        blocks := [{ kind := .text, text := some text }]
        occurredAt
        threadExternalId := threadId.map toString
        messageExternalId := some s!"telegram:message:{chatId}:{messageId}"
        conversationKind := if chatType = "private" then .direct else .group }
    | _ => refused "Telegram 入站消息发送者必须是普通用户"

end CyberNetizen.Adapters.Telegram
