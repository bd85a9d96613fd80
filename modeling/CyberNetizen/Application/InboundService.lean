import CyberNetizen.Domain.Conversation
import CyberNetizen.Adapters.Channel
import CyberNetizen.Lib.Checks

namespace CyberNetizen.Domain

def inboundEnvelopeSchemaVersion : String := "1"

inductive ExternalConversationKind
  | direct | group
  deriving DecidableEq

def ExternalConversationKind.value : ExternalConversationKind → String
  | .direct => "direct"
  | .group => "group"

def ChannelPlatform.value : ChannelPlatform → String
  | .web => "web"
  | .feishu => "feishu"
  | .discord => "discord"
  | .telegram => "telegram"

structure ExternalIdentityMapping where
  externalSubjectId : String
  userId : UUID

structure ExternalConversationMapping where
  kind : ExternalConversationKind
  conversationId : UUID

structure InboundEnvelope where
  schemaVersion : String
  tenantId : UUID
  agentId : UUID
  channelId : UUID
  platform : ChannelPlatform
  externalEventId : String
  externalSubjectId : String
  userId : UUID
  conversationKind : ExternalConversationKind
  externalConversationId : String
  externalThreadId : Option String
  conversationId : UUID
  externalMessageId : String
  blocks : List MultimodalContentBlock
  occurredAt : Datetime
  receivedAt : Datetime
  deriving DecidableEq

structure InboundVerification where
  signatureValid : Bool
  payloadSizeBytes : ℤ
  receivedAt : Datetime

end CyberNetizen.Domain

namespace CyberNetizen.Adapters

open Domain

structure ChannelInboundEvent where
  externalEventId : String
  eventType : String
  senderExternalId : String
  conversationExternalId : String
  blocks : List MultimodalContentBlock
  occurredAt : Datetime
  threadExternalId : Option String := none
  messageExternalId : Option String := none
  conversationKind : ExternalConversationKind := .direct

end CyberNetizen.Adapters

namespace CyberNetizen.Application

open Domain Adapters Checks

/-- `ord(character) < 32 or ord(character) == 127` for some character. -/
def hasControl (value : String) : Bool := value.toList.any fun c ↦ c.toNat < 32 || c.toNat = 127

def hasContentControl (value : String) : Bool :=
  value.toList.any fun c ↦
    (c.toNat < 32 && c ≠ '\t' && c ≠ '\n' && c ≠ '\r') || c.toNat = 127

def isTextKind (kind : ContentBlockKind) : Bool := kind = .text || kind = .markdown

namespace InboundGatewayService

inductive InboundError
  | validation (message : String)
  | notFound (message : String)
  | conflict (message : String)
  | task (error : TaskError)

/-- What the gateway reads while it accepts one event, and the digest of the standard library. -/
structure Ports where
  getInstance : UUID → UUID → UUID → Option ChannelInstance
  configuration : String → Option JsonValue
  findIdentityMapping : String → Option ExternalIdentityMapping
  findConversationMapping : String → Option String → Option ExternalConversationMapping
  getConversationForUser : UUID → UUID → UUID → Option Conversation
  sha256 : String → String

def text (value label : String) (maximum : ℕ) : Except InboundError String :=
  let normalized := strip value
  if normalized.isEmpty then .error (.validation s!"{label}不能为空")
  else if maximum < normalized.length then
    .error (.validation s!"{label}不能超过 {maximum} 个字符")
  else if hasControl normalized then .error (.validation s!"{label}不能包含控制字符")
  else .ok normalized

def externalId (value label : String) : Except InboundError String := text value label 255

def optionalExternalId (value : Option String) (label : String) :
    Except InboundError (Option String) :=
  match value with
  | none => .ok none
  | some value => if (strip value).isEmpty then .ok none else (externalId value label).map some

/-- The clean form of one content block. -/
def normalizedBlock (block : MultimodalContentBlock) : Except InboundError MultimodalContentBlock :=
  if isTextKind block.kind then
    let text := strip (block.text.getD "")
    if text.isEmpty then .error (.validation "文本内容块不能为空")
    else .ok { block with text := some text }
  else if block.attachmentId.isNone then
    .error (.validation "附件内容块必须引用已校验的本地附件")
  else .ok block

def blocks (blocks : List MultimodalContentBlock) :
    Except InboundError (List MultimodalContentBlock) :=
  blocks.mapM normalizedBlock

def optionalJson {α : Type} (f : α → JsonValue) : Option α → JsonValue
  | none => .null
  | some value => f value

def blockPayload (block : MultimodalContentBlock) : JsonObject :=
  [("kind", .str block.kind.value), ("text", optionalJson .str block.text),
    ("attachment_id", optionalJson (fun id ↦ .str (uuidString id)) block.attachmentId),
    ("content_type", optionalJson .str block.contentType),
    ("file_name", optionalJson .str block.fileName),
    ("size_bytes", optionalJson .int block.sizeBytes), ("sha256", optionalJson .str block.sha256),
    ("alt_text", optionalJson .str block.altText)]

def envelopePayload (envelope : InboundEnvelope) : JsonObject :=
  [("schema_version", .str envelope.schemaVersion), ("agent_id", .str (uuidString envelope.agentId)),
    ("channel_id", .str (uuidString envelope.channelId)), ("platform", .str envelope.platform.value),
    ("external_event_id", .str envelope.externalEventId),
    ("external_subject_id", .str envelope.externalSubjectId),
    ("user_id", .str (uuidString envelope.userId)),
    ("conversation_kind", .str envelope.conversationKind.value),
    ("external_conversation_id", .str envelope.externalConversationId),
    ("external_thread_id", optionalJson .str envelope.externalThreadId),
    ("conversation_id", .str (uuidString envelope.conversationId)),
    ("external_message_id", .str envelope.externalMessageId),
    ("blocks", .list (envelope.blocks.map fun block ↦ .dict (blockPayload block))),
    ("occurred_at", .str (isoformat envelope.occurredAt)),
    ("received_at", .str (isoformat envelope.receivedAt))]

def requiredChannel (ports : Ports) (tenantId agentId channelId : UUID) :
    Except InboundError ChannelInstance :=
  found (ports.getInstance tenantId agentId channelId) (.notFound "渠道实例不存在")

def integerSetting (values : String → Option JsonValue) (key : String) : Except InboundError ℤ :=
  match values key with
  | some (.int value) => .ok value
  | _ => .error (.conflict s!"生效配置中的整数参数无效：{key}")

def messageIdOf (event : ChannelInboundEvent) : String :=
  match event.messageExternalId with
  | none => event.externalEventId
  | some id => if id.isEmpty then event.externalEventId else id

/-- Check the trusted boundary, resolve the mappings and build the clean envelope. -/
def normalize (ports : Ports) (tenantId agentId channelId : UUID) (event : ChannelInboundEvent)
    (verification : InboundVerification) : Except InboundError InboundEnvelope := do
  let channel ← requiredChannel ports tenantId agentId channelId
  require (channel.status = .enabled) (.conflict "渠道实例已停用")
  require verification.signatureValid (.validation "平台签名验证失败")
  let maximumBytes ← integerSetting ports.configuration "inbox.max_payload_bytes"
  require (0 < verification.payloadSizeBytes && verification.payloadSizeBytes ≤ maximumBytes)
    (.validation "入站事件大小超出配置边界")
  let maximumAge ← integerSetting ports.configuration "inbox.max_event_age_seconds"
  require (|(verification.receivedAt : ℤ) - event.occurredAt| ≤ maximumAge * 1000000)
    (.validation "入站事件已过期或时间偏移过大")
  let subjectId ← externalId event.senderExternalId "外部主体 ID"
  let externalConversationId ← externalId event.conversationExternalId "外部会话 ID"
  let externalThreadId ← optionalExternalId event.threadExternalId "外部线程 ID"
  let externalEventId ← externalId event.externalEventId "外部事件 ID"
  let externalMessageId ← externalId (messageIdOf event) "外部消息 ID"
  let identity ← found (ports.findIdentityMapping subjectId) (.notFound "外部身份映射不存在")
  let conversation ← found (ports.findConversationMapping externalConversationId externalThreadId)
    (.notFound "外部会话或线程映射不存在")
  require (conversation.kind = event.conversationKind) (.conflict "入站会话类型与显式映射不一致")
  let localConversation ← found
    (ports.getConversationForUser conversation.conversationId identity.userId agentId)
    (.notFound "外部主体无权访问映射的内部会话")
  require (localConversation.tenantId = tenantId) (.notFound "外部主体无权访问映射的内部会话")
  require (!event.blocks.isEmpty) (.validation "标准化入站消息至少需要一个内容块")
  let blocks ← blocks event.blocks
  return {
    schemaVersion := inboundEnvelopeSchemaVersion
    tenantId, agentId, channelId
    platform := channel.platform
    externalEventId
    externalSubjectId := subjectId
    userId := identity.userId
    conversationKind := conversation.kind
    externalConversationId
    externalThreadId
    conversationId := conversation.conversationId
    externalMessageId
    blocks
    occurredAt := event.occurredAt
    receivedAt := verification.receivedAt }

/-- The inbox row that keeps an envelope for replays. -/
def inboxEvent (ports : Ports) (envelope : InboundEnvelope) (eventType : String)
    (jobId inboxId : UUID) : InboxEvent where
  id := inboxId
  tenantId := envelope.tenantId
  eventKey := s!"im:{uuidString envelope.channelId}:{ports.sha256 envelope.externalMessageId}"
  eventType := eventType
  payload := envelopePayload envelope
  status := .pending
  jobId := jobId
  receivedAt := envelope.receivedAt
  processedAt := none
  lastErrorCode := none
  agentId := some envelope.agentId
  channelId := some envelope.channelId
  schemaVersion := some envelope.schemaVersion
  platform := some envelope.platform.value
  externalEventDigest := some (ports.sha256 envelope.externalEventId)
  externalSubjectDigest := some (ports.sha256 envelope.externalSubjectId)
  externalConversationDigest := some (ports.sha256 envelope.externalConversationId)
  externalThreadDigest := envelope.externalThreadId.map ports.sha256
  externalMessageDigest := some (ports.sha256 envelope.externalMessageId)
  userId := some envelope.userId
  conversationId := some envelope.conversationId
  contentKinds := envelope.blocks.map (·.kind.value)
  contentBlockCount := envelope.blocks.length

/-- Accept an event: the envelope, and the rows that keep it and its job. -/
def acceptNormalized (ports : Ports) (tenantId agentId channelId : UUID)
    (event : ChannelInboundEvent) (verification : InboundVerification) (createdBy : Option UUID)
    (jobId inboxId eventId : UUID) (now : Datetime) :
    Except InboundError (InboundEnvelope × EnqueueRequest) := do
  let envelope ← normalize ports tenantId agentId channelId event verification
  let eventType ← text event.eventType "事件类型" 120
  let inbox := inboxEvent ports envelope eventType jobId inboxId
  let maxAttempts ← integerSetting ports.configuration "inbox.max_attempts"
  let leaseSeconds ← integerSetting ports.configuration "tasks.lease_seconds"
  let retryBaseSeconds ← integerSetting ports.configuration "tasks.retry_base_seconds"
  let command : BackgroundTaskService.EnqueueCommand :=
    { tenantId
      kind := .inboundMessage
      payload := inbox.payload
      deduplicationKey := inbox.eventKey
      createdBy
      maxAttempts := maxAttempts.toNat
      leaseSeconds := leaseSeconds.toNat
      retryBaseSeconds := retryBaseSeconds.toNat
      correlationId := inbox.externalEventDigest
      sourceInbox := some inbox
      jobId := some jobId
      accepted := fun event he ↦ by
        obtain rfl := Option.some.inj he
        exact ⟨rfl, rfl, rfl⟩ }
  match BackgroundTaskService.enqueue command jobId eventId now with
  | .error e => throw (.task e)
  | .ok request => return (envelope, request)

end InboundGatewayService

namespace InboundMessageTaskHandler

structure PermanentTaskError where
  message : String
  deriving DecidableEq

def permanent {α : Type} (message : String) : Except PermanentTaskError α := .error ⟨message⟩

def refuse (bad : Bool) (message : String) : Except PermanentTaskError Unit :=
  require (!bad) ⟨message⟩

section fields

variable (values : JsonObject) (key : String)

def requiredText (maximum : ℕ) : Except PermanentTaskError String :=
  match values.lookup key with
  | some (.str value) =>
    let normalized := strip value
    if normalized.isEmpty || maximum < normalized.length || hasControl normalized then
      permanent s!"Inbox Envelope 文本字段无效：{key}"
    else .ok normalized
  | _ => permanent s!"Inbox Envelope 缺少文本字段：{key}"

def optionalText (maximum : ℕ) : Except PermanentTaskError (Option String) :=
  match values.lookup key with
  | none | some .null => .ok none
  | _ => (requiredText values key maximum).map some

def optionalContent (maximum : ℕ) : Except PermanentTaskError (Option String) :=
  match values.lookup key with
  | none | some .null => .ok none
  | some (.str value) =>
    let normalized := strip value
    if normalized.isEmpty || maximum < normalized.length || hasContentControl normalized then
      permanent s!"Inbox Envelope 内容字段无效：{key}"
    else .ok (some normalized)
  | _ => permanent s!"Inbox Envelope 内容字段无效：{key}"

def uuid : Except PermanentTaskError UUID :=
  match values.lookup key with
  | some (.str value) =>
    match WireText.uuidOfText? value.toList with
    | none => permanent s!"Inbox Envelope 路由字段无效：{key}"
    | some id => .ok id
  | _ => permanent s!"Inbox Envelope 缺少路由字段：{key}"

def optionalUuid : Except PermanentTaskError (Option UUID) :=
  match values.lookup key with
  | none | some .null => .ok none
  | _ => (uuid values key).map some

def optionalInteger : Except PermanentTaskError (Option ℤ) :=
  match values.lookup key with
  | none | some .null => .ok none
  | some (.int value) => .ok (some value)
  | _ => permanent s!"Inbox Envelope 整数字段无效：{key}"

def datetime : Except PermanentTaskError Datetime :=
  match values.lookup key with
  | some (.str value) =>
    match WireText.ofIsoText? value.toList with
    | none => permanent s!"Inbox Envelope 时间字段无效：{key}"
    | some t => .ok t
  | _ => permanent s!"Inbox Envelope 缺少时间字段：{key}"

/-- The member of an enumeration with the stored value. -/
def enum {α : Type} (members : List α) (value : α → String) : Except PermanentTaskError α :=
  match values.lookup key with
  | some (.str stored) =>
    match members.find? (value · = stored) with
    | none => permanent s!"Inbox Envelope 枚举字段无效：{key}"
    | some member => .ok member
  | _ => permanent s!"Inbox Envelope 枚举字段缺失：{key}"

end fields

def platforms : List ChannelPlatform := [.web, .feishu, .discord, .telegram]

def conversationKinds : List ExternalConversationKind := [.direct, .group]

def contentBlockKinds : List ContentBlockKind := [.text, .markdown, .image, .file]

def refuseContent (kind : ContentBlockKind) (text : Option String) (attachmentId : Option UUID) :
    Except PermanentTaskError Unit :=
  if isTextKind kind then
    refuse (text.isNone || attachmentId.isSome) "Inbox Envelope 文本内容块无效"
  else refuse (attachmentId.isNone || text.isSome) "Inbox Envelope 附件内容块无效"

def block : JsonValue → Except PermanentTaskError MultimodalContentBlock
  | .dict block => do
    let kind ← enum block "kind" contentBlockKinds ContentBlockKind.value
    let text ← optionalContent block "text" 200000
    let attachmentId ← optionalUuid block "attachment_id"
    refuseContent kind text attachmentId
    let sizeBytes ← optionalInteger block "size_bytes"
    refuse (sizeBytes.any (· ≤ 0)) "Inbox Envelope 附件大小无效"
    let digest ← optionalText block "sha256" 64
    refuse (digest.any fun digest ↦ !isSha256 (lower digest)) "Inbox Envelope 附件摘要无效"
    let contentType ← optionalText block "content_type" 255
    let fileName ← optionalText block "file_name" 255
    let altText ← optionalText block "alt_text" 2000
    return { kind, text, attachmentId, contentType, fileName, sizeBytes, sha256 := digest.map lower
             altText }
  | _ => permanent "Inbox Envelope 内容块必须是对象"

def envelope (job : BackgroundJob) : Except PermanentTaskError InboundEnvelope := do
  let payload := job.payload
  let schemaVersion ← requiredText payload "schema_version" 20
  refuse (schemaVersion ≠ inboundEnvelopeSchemaVersion) "Inbox Envelope schema version 不受支持"
  match payload.lookup "blocks" with
  | some (.list (first :: rest)) =>
    let occurredAt ← datetime payload "occurred_at"
    let receivedAt ← datetime payload "received_at"
    let agentId ← uuid payload "agent_id"
    let channelId ← uuid payload "channel_id"
    let platform ← enum payload "platform" platforms ChannelPlatform.value
    let externalEventId ← requiredText payload "external_event_id" 255
    let externalSubjectId ← requiredText payload "external_subject_id" 255
    let userId ← uuid payload "user_id"
    let conversationKind ← enum payload "conversation_kind" conversationKinds
      ExternalConversationKind.value
    let externalConversationId ← requiredText payload "external_conversation_id" 255
    let externalThreadId ← optionalText payload "external_thread_id" 255
    let conversationId ← uuid payload "conversation_id"
    let externalMessageId ← requiredText payload "external_message_id" 255
    let blocks ← (first :: rest).mapM block
    return { schemaVersion, tenantId := job.tenantId, agentId, channelId, platform
             externalEventId, externalSubjectId, userId, conversationKind
             externalConversationId, externalThreadId, conversationId, externalMessageId, blocks
             occurredAt, receivedAt }
  | _ => permanent "Inbox Envelope 缺少内容块"

end InboundMessageTaskHandler

end CyberNetizen.Application
