import Mathlib.Data.Prod.Lex
import CyberNetizen.Lib.Keyset
import CyberNetizen.Lib.Table
import CyberNetizen.Domain.Conversation

namespace CyberNetizen.Infrastructure

open Domain KeyedTable

def memberKey (member : ConversationMember) : UUID × UUID := (member.conversationId, member.userId)

/-- `uq_message_feedback_user`. -/
def feedbackKey (feedback : MessageFeedback) : UUID × UUID := (feedback.messageId, feedback.userId)

/-- The tables; the rows of a table keep the order in which they were inserted. -/
structure ConversationStore where
  conversations : Table Conversation.id
  members : Table memberKey
  messages : Table Message.id
  runs : Table AgentRun.id
  feedback : Table feedbackKey
  events : List ConversationEvent

def ConversationStore.empty : ConversationStore := ⟨.empty, .empty, .empty, .empty, .empty, []⟩

namespace ConversationRepository

inductive ConversationError
  | conflict (message : String)
  | runNotFound (message : String)
  /-- A unique key or a primary key is taken; the transaction is rolled back. -/
  | integrity
  /-- A dictionary has no such key. -/
  | keyError
  deriving DecidableEq

section payloads

def orNull {α : Type} (f : α → JsonValue) : Option α → JsonValue
  | none => .null
  | some value => f value

def uuidJson (id : UUID) : JsonValue := .str (uuidString id)

def timeJson (t : Datetime) : JsonValue := .str (isoformat t)

def partPayload (part : MessagePart) : JsonObject :=
  [("id", uuidJson part.id), ("position", .int part.position), ("kind", .str part.kind.value),
    ("text", orNull .str part.text), ("attachment_id", orNull uuidJson part.attachmentId),
    ("content_type", orNull .str part.contentType), ("file_name", orNull .str part.fileName),
    ("size_bytes", orNull .int part.sizeBytes), ("sha256", orNull .str part.sha256),
    ("alt_text", orNull .str part.altText), ("created_at", timeJson part.createdAt),
    ("updated_at", timeJson part.updatedAt)]

def messagePayload (message : Message) : JsonObject :=
  [("id", uuidJson message.id), ("conversation_id", uuidJson message.conversationId),
    ("sender_type", .str message.senderType.value), ("sender_id", uuidJson message.senderId),
    ("content", .str message.content), ("status", .str message.status.value),
    ("client_message_id", orNull uuidJson message.clientMessageId),
    ("created_at", timeJson message.createdAt), ("updated_at", timeJson message.updatedAt),
    ("edited_from_id", orNull uuidJson message.editedFromId),
    ("parts", .list (message.parts.map fun part ↦ .dict (partPayload part)))]

def conversationPayload (conversation : Conversation) : JsonObject :=
  [("id", uuidJson conversation.id), ("title", .str conversation.title),
    ("status", .str conversation.status.value), ("pinned_at", orNull timeJson conversation.pinnedAt),
    ("archived_at", orNull timeJson conversation.archivedAt),
    ("deleted_at", orNull timeJson conversation.deletedAt),
    ("updated_at", timeJson conversation.updatedAt)]

def feedbackPayload (feedback : MessageFeedback) : JsonObject :=
  [("id", uuidJson feedback.id), ("conversation_id", uuidJson feedback.conversationId),
    ("message_id", uuidJson feedback.messageId), ("user_id", uuidJson feedback.userId),
    ("rating", .str feedback.rating.value), ("comment", orNull .str feedback.comment),
    ("created_at", timeJson feedback.createdAt), ("updated_at", timeJson feedback.updatedAt)]

def runPayload (run : AgentRun) : JsonObject :=
  [("id", uuidJson run.id), ("conversation_id", uuidJson run.conversationId),
    ("response_message_id", uuidJson run.responseMessageId), ("status", .str run.status.value),
    ("configuration_version", .int run.snapshot.configurationVersion),
    ("persona_version", .int run.snapshot.personaVersion),
    ("prompt_version", .int run.snapshot.promptVersion),
    ("policy_version", .int run.snapshot.policyVersion),
    ("model_route_version", .int run.snapshot.modelRouteVersion),
    ("model_profile", .str run.snapshot.modelProfile),
    ("input_tokens", orNull (fun n ↦ .int n) run.inputTokens),
    ("output_tokens", orNull (fun n ↦ .int n) run.outputTokens),
    ("error_code", orNull .str run.errorCode)]

end payloads

section parts

def isText (kind : ContentBlockKind) : Bool := kind = .text || kind = .markdown

def isImageType (contentType : String) : Bool := "image/".toList.isPrefixOf contentType.toList

/-- `IMAGE` or `FILE`, by the media type. -/
def canonicalKind (attachment : Attachment) : ContentBlockKind :=
  if isImageType attachment.contentType then .image else .file

def attachmentPart (tenantId messageId : UUID) (attachment : Attachment) (altText : Option String)
    (occurredAt : Datetime) (id : UUID) (position : ℕ) : MessagePart where
  id := id
  tenantId := tenantId
  messageId := messageId
  position := position
  kind := canonicalKind attachment
  attachmentId := some attachment.id
  contentType := some attachment.contentType
  fileName := some attachment.originalName
  sizeBytes := some attachment.sizeBytes
  sha256 := some attachment.sha256
  altText := altText
  createdAt := occurredAt
  updatedAt := occurredAt

def textPart (tenantId messageId : UUID) (kind : ContentBlockKind) (text : String)
    (occurredAt : Datetime) (id : UUID) (position : ℕ) : MessagePart where
  id := id
  tenantId := tenantId
  messageId := messageId
  position := position
  kind := kind
  text := some text
  createdAt := occurredAt
  updatedAt := occurredAt

variable (tenantId messageId : UUID) (attachments : List Attachment) (occurredAt : Datetime)
  (ids : ℕ → UUID)

def blockPart (block : MultimodalContentBlock) (position : ℕ) :
    Except ConversationError MessagePart :=
  let attachment := block.attachmentId.bind fun id ↦ attachments.reverse.find? (·.id = id)
  if isText block.kind then
    match attachment, block.text with
    | none, some text =>
      if text.isEmpty then .error (.conflict "文本内容块无效")
      else .ok (textPart tenantId messageId block.kind text occurredAt (ids position) position)
    | _, _ => .error (.conflict "文本内容块无效")
  else
    match attachment with
    | none => .error (.conflict "附件内容块缺少已校验附件")
    | some attachment =>
      if block.kind ≠ canonicalKind attachment then
        .error (.conflict "附件内容块类型与持久化媒体类型不一致")
      else
        .ok (attachmentPart tenantId messageId attachment
          (if block.kind = .image then block.altText else none) occurredAt (ids position) position)

/-- The parts of a message written without content blocks. -/
def draftParts (content : String) : List MessagePart :=
  textPart tenantId messageId .markdown content occurredAt (ids 0) 0 ::
    attachments.mapIdx fun i attachment ↦
      attachmentPart tenantId messageId attachment
        (if isImageType attachment.contentType then some attachment.originalName else none)
        occurredAt (ids (i + 1)) (i + 1)

def newMessageParts (content : String) (contentBlocks : List MultimodalContentBlock) :
    Except ConversationError (List MessagePart) :=
  if contentBlocks.isEmpty then .ok (draftParts tenantId messageId attachments occurredAt ids content)
  else
    let referenced := contentBlocks.filterMap (·.attachmentId)
    if ¬referenced.Nodup ∨ ¬(referenced ⊆ attachments.map (·.id)) ∨
        ¬(attachments.map (·.id) ⊆ referenced) then
      .error (.conflict "消息内容块与已校验附件不一致")
    else
      (contentBlocks.zipIdx).mapM fun p ↦
        blockPart tenantId messageId attachments occurredAt ids p.1 p.2

def copiedMessageParts (parts : List MessagePart) : List MessagePart :=
  parts.mapIdx fun i part ↦
    { part with id := ids i, messageId, createdAt := occurredAt, updatedAt := occurredAt }

end parts

section reads

def lockedConversation (conversationId userId : UUID) (s : ConversationStore) :
    Except ConversationError Conversation :=
  match s.conversations.find? conversationId with
  | none => .error (.conflict "当前用户无权访问该会话")
  | some row =>
    if row.deletedAt.isNone ∧ (s.members.find? (conversationId, userId)).isSome then .ok row
    else .error (.conflict "当前用户无权访问该会话")

def lockedConversationById (conversationId : UUID) (s : ConversationStore) :
    Except ConversationError Conversation :=
  match s.conversations.find? conversationId with
  | none => .error (.conflict "会话不存在")
  | some row => .ok row

/-- A message of a conversation that is not deleted and has the user among its members. -/
def accessibleMessage (messageId userId : UUID) (message : String) (s : ConversationStore) :
    Except ConversationError Message :=
  match s.messages.find? messageId with
  | none => .error (.conflict message)
  | some row =>
    match lockedConversation row.conversationId userId s with
    | .error _ => .error (.conflict message)
    | .ok _ => .ok row

def lockedRun (runId : UUID) (s : ConversationStore) : Except ConversationError AgentRun :=
  match s.runs.find? runId with
  | none => .error (.runNotFound s!"Agent Run 不存在：{uuidString runId}")
  | some run => .ok run

def lockedRunningRun (runId : UUID) (s : ConversationStore) : Except ConversationError AgentRun := do
  let run ← lockedRun runId s
  if run.status ≠ .running then throw (.conflict "Agent Run 已不处于运行状态")
  return run

def requiredMessage (messageId : UUID) (s : ConversationStore) : Except ConversationError Message :=
  match s.messages.find? messageId with
  | none => .error (.conflict "Agent Run 关联的消息不存在")
  | some message => .ok message

def clientMessage? (conversationId senderId clientMessageId : UUID) (s : ConversationStore) :
    Option Message :=
  s.messages.rows.find? fun message ↦ message.conversationId = conversationId &&
    message.senderId = senderId && message.clientMessageId = some clientMessageId

def nextPersistedMessageTime (conversationId : UUID) (now : Datetime) (s : ConversationStore) :
    Datetime :=
  let times := (s.messages.rows.filter (·.conversationId = conversationId)).map (·.createdAt)
  times.foldl (fun latest t ↦ max latest (t + 1)) now

/-- The order of `created_at, id`. -/
def messageOrder (message : Message) : Datetime ×ₗ UUID := toLex (message.createdAt, message.id)

def listMessages (conversationId userId : UUID) (limit : ℕ) (cursor : Option (Datetime × UUID))
    (s : ConversationStore) : List Message :=
  if (s.members.find? (conversationId, userId)).isNone then []
  else Keyset.fetch messageOrder s.messages.rows (·.conversationId = conversationId)
    (cursor.map toLex) limit

def listContextMessages (conversationId userId : UUID) (limit : ℕ) (s : ConversationStore) :
    List Message :=
  (listMessages conversationId userId limit none s).reverse

end reads

/-- The `uuid4` calls of one session; the parts of a message are numbered by their position. -/
structure NewIds where
  trigger : UUID
  response : UUID
  run : UUID
  branch : UUID
  copied : ℕ → UUID
  part : UUID → ℕ → UUID

section writes

def insertMessage (row : Message) (s : ConversationStore) :
    Except ConversationError ConversationStore :=
  if row.clientMessageId.isSome ∧ s.messages.rows.any fun message ↦
      message.conversationId = row.conversationId && message.senderId = row.senderId &&
        message.clientMessageId = row.clientMessageId then
    .error .integrity
  else
    match s.messages.insert? row with
    | none => .error .integrity
    | some messages => .ok { s with messages }

def insertRun (row : AgentRun) (s : ConversationStore) : Except ConversationError ConversationStore :=
  if s.runs.rows.any (·.responseMessageId = row.responseMessageId) then .error .integrity
  else
    match s.runs.insert? row with
    | none => .error .integrity
    | some runs => .ok { s with runs }

def insertConversation (row : Conversation) (userId : UUID) (s : ConversationStore) :
    Except ConversationError ConversationStore :=
  match s.conversations.insert? row, s.members.insert? ⟨row.id, userId⟩ with
  | some conversations, some members => .ok { s with conversations, members }
  | _, _ => .error .integrity

/-- What `_emit` is given. -/
structure Emission where
  eventType : String
  payload : JsonObject
  runId : Option UUID := none
  messageId : Option UUID := none

def advanced : Update Conversation.id where
  toFun row := { row with eventSequence := row.eventSequence + 1 }
  key_eq _ := rfl

def touched (now : Datetime) : Update Conversation.id where
  toFun row := { row with updatedAt := now }
  key_eq _ := rfl

def emit (conversationId : UUID) (s : ConversationStore) (e : Emission) : ConversationStore :=
  match s.conversations.find? conversationId with
  | none => s
  | some row =>
    { s with
      conversations := s.conversations.updateWhere (·.id = conversationId) advanced
      events := s.events ++ [⟨row.tenantId, conversationId, row.eventSequence + 1, e.eventType,
        e.payload, e.runId, e.messageId⟩] }

def emitAll (conversationId : UUID) (emissions : List Emission) (s : ConversationStore) :
    ConversationStore :=
  emissions.foldl (emit conversationId) s

def updateConversationRow (conversationId : UUID) (f : Update Conversation.id)
    (s : ConversationStore) : ConversationStore :=
  { s with conversations := s.conversations.updateWhere (·.id = conversationId) f }

def messageCreated (runId : Option UUID) (message : Message) : Emission :=
  ⟨"message.created", messagePayload message, runId, some message.id⟩

def runQueued (run : AgentRun) : Emission :=
  ⟨"run.queued", runPayload run, some run.id, some run.responseMessageId⟩

end writes

section conversations

def createConversation (identity : DevelopmentIdentity) (title : String) (id : UUID)
    (now : Datetime) (s : ConversationStore) : Except ConversationError ConversationStore := do
  let row : Conversation :=
    { id, tenantId := identity.tenantId, agentId := identity.agentId, title, status := .active
      createdBy := identity.userId, eventSequence := 0, createdAt := now, updatedAt := now }
  let s ← insertConversation row identity.userId s
  return emit id s
    { eventType := "conversation.created"
      payload := [("conversation_id", uuidJson id), ("title", .str title)] }

def updated (title : Option String) (status : Option ConversationStatus) (pinned : Option Bool)
    (now : Datetime) : Update Conversation.id where
  toFun row :=
    { row with
      title := title.getD row.title
      status := status.getD row.status
      archivedAt := match status with
        | none => row.archivedAt
        | some .archived => some now
        | some .active => none
      pinnedAt := match pinned with
        | none => row.pinnedAt
        | some true => some now
        | some false => none
      updatedAt := now }
  key_eq _ := rfl

def updateConversation (conversationId userId : UUID) (title : Option String)
    (status : Option ConversationStatus) (pinned : Option Bool) (now : Datetime)
    (s : ConversationStore) : Except ConversationError ConversationStore := do
  let row ← lockedConversation conversationId userId s
  let f := updated title status pinned now
  return emit row.id (updateConversationRow row.id f s)
    { eventType := "conversation.updated", payload := conversationPayload (f row) }

def softDeleted (now : Datetime) : Update Conversation.id where
  toFun row := { row with deletedAt := some now, pinnedAt := none, updatedAt := now }
  key_eq _ := rfl

def softDeleteConversation (conversationId userId : UUID) (now : Datetime)
    (s : ConversationStore) : Except ConversationError ConversationStore :=
  match s.conversations.find? conversationId with
  | none => .error (.conflict "当前用户无权访问该会话")
  | some row =>
    if (s.members.find? (conversationId, userId)).isNone then
      .error (.conflict "当前用户无权访问该会话")
    else if row.deletedAt.isSome then .ok s
    else .ok (emit row.id (updateConversationRow row.id (softDeleted now) s)
      { eventType := "conversation.deleted", payload := conversationPayload (softDeleted now row) })

def rated (rating : MessageFeedbackRating) (comment : Option String) (now : Datetime) :
    Update feedbackKey where
  toFun row := { row with rating, comment, updatedAt := now }
  key_eq _ := rfl

/-- `INSERT … ON CONFLICT DO UPDATE`, with the row it returns. -/
def upsertFeedback (row : MessageFeedback) (s : ConversationStore) :
    MessageFeedback × ConversationStore :=
  match s.feedback.find? (feedbackKey row) with
  | none => (row, { s with feedback := s.feedback.put row })
  | some stored =>
    let f := rated row.rating row.comment row.updatedAt
    (f stored, { s with feedback := s.feedback.updateWhere (feedbackKey · = feedbackKey row) f })

def setMessageFeedback (messageId userId : UUID) (rating : MessageFeedbackRating)
    (comment : Option String) (id : UUID) (now : Datetime) (s : ConversationStore) :
    Except ConversationError ConversationStore := do
  let message ← accessibleMessage messageId userId "要反馈的消息不存在" s
  if message.senderType ≠ .agent then throw (.conflict "只能对 Agent 回复提交反馈")
  let conversation ← lockedConversation message.conversationId userId s
  let stored := upsertFeedback
    { id, tenantId := message.tenantId, conversationId := message.conversationId, messageId
      userId, rating, comment, createdAt := now, updatedAt := now } s
  return emit conversation.id stored.2
    { eventType := "message.feedback.updated", payload := feedbackPayload stored.1
      messageId := some messageId }

/-- The feedback is read before the lock is taken: `seen` says whether that read met it. -/
def deleteMessageFeedback (messageId userId : UUID) (seen : Bool) (s : ConversationStore) :
    Except ConversationError ConversationStore := do
  let message ← accessibleMessage messageId userId "要反馈的消息不存在" s
  if !seen then return s
  let conversation ← lockedConversation message.conversationId userId s
  return emit conversation.id
    { s with feedback := s.feedback.deleteWhere (feedbackKey · = (messageId, userId)) }
    { eventType := "message.feedback.deleted"
      payload := [("message_id", uuidJson messageId), ("user_id", uuidJson userId)]
      messageId := some messageId }

end conversations

section begins

variable (identity : DevelopmentIdentity) (snapshot : RunSnapshot) (ids : NewIds) (now : Datetime)

def userMessage (conversationId clientMessageId : UUID) (content : String)
    (editedFromId : Option UUID) (parts : List MessagePart) : Message where
  id := ids.trigger
  tenantId := identity.tenantId
  conversationId := conversationId
  senderType := .user
  senderId := identity.userId
  content := content
  status := .received
  clientMessageId := some clientMessageId
  createdAt := now
  updatedAt := now
  editedFromId := editedFromId
  parts := parts

/-- The empty reply that a run fills in. -/
def agentResponse (conversationId : UUID) (clientMessageId : Option UUID) : Message where
  id := ids.response
  tenantId := identity.tenantId
  conversationId := conversationId
  senderType := .agent
  senderId := identity.agentId
  content := ""
  status := .processing
  clientMessageId := clientMessageId
  createdAt := now
  updatedAt := now
  parts := draftParts identity.tenantId ids.response [] now (ids.part ids.response) ""

def queuedRun (conversationId triggerMessageId : UUID) : AgentRun where
  id := ids.run
  tenantId := identity.tenantId
  conversationId := conversationId
  agentId := identity.agentId
  triggerMessageId := triggerMessageId
  responseMessageId := ids.response
  status := .queued
  snapshot := snapshot

/-- Insert the new messages and the run, then log them. -/
def openRun (messages : List Message) (run : AgentRun) (s : ConversationStore) :
    Except ConversationError ConversationStore := do
  let s ← messages.foldlM (fun s row ↦ insertMessage row s) s
  let s ← insertRun run s
  return emitAll run.conversationId
    (messages.map (messageCreated (some run.id)) ++ [runQueued run]) s

def refreshed (conversation : Conversation) (s : ConversationStore) : Conversation :=
  (s.conversations.find? conversation.id).getD conversation

def isOwnDraft (conversationId clientMessageId : UUID) (item : Attachment) : Bool :=
  item.tenantId = identity.tenantId && item.ownerId = identity.userId &&
    item.conversationId = conversationId && item.clientMessageId = clientMessageId &&
    (item.status = .ready || item.status = .attached)

def runsOf (triggerMessageId : UUID) (s : ConversationStore) : List AgentRun :=
  s.runs.rows.filter (·.triggerMessageId = triggerMessageId)

def runOfResponse? (responseMessageId : UUID) (s : ConversationStore) : Option AgentRun :=
  s.runs.rows.find? (·.responseMessageId = responseMessageId)

def beginAgentRun (conversationId clientMessageId : UUID) (content : String)
    (attachments : List Attachment) (contentBlocks : List MultimodalContentBlock)
    (updatedAt : Datetime) (s : ConversationStore) :
    Except ConversationError (PendingAgentRun × ConversationStore) := do
  let conversation ← lockedConversation conversationId identity.userId s
  match clientMessage? conversationId identity.userId clientMessageId s with
  | some trigger =>
    match (runsOf trigger.id s).head? with
    | none => throw (.conflict "幂等消息缺少关联的 Agent Run")
    | some run =>
      match s.messages.find? run.responseMessageId with
      | none => throw (.conflict "Agent Run 缺少回复消息")
      | some response => return (⟨conversation, trigger, response, run, false⟩, s)
  | none =>
    if !attachments.all (isOwnDraft identity conversationId clientMessageId) then
      throw (.conflict "消息内容块包含不属于当前消息草稿的附件")
    let time := nextPersistedMessageTime conversationId now s
    let parts ← newMessageParts identity.tenantId ids.trigger attachments time
      (ids.part ids.trigger) content contentBlocks
    let trigger := userMessage identity ids time conversationId clientMessageId content none parts
    let response := agentResponse identity ids (time + 1) conversationId none
    let run := queuedRun identity snapshot ids conversationId trigger.id
    let s ← openRun [trigger, response] run
      (updateConversationRow conversationId (touched updatedAt) s)
    return (⟨refreshed conversation s, trigger, response, run, true⟩, s)

/-- What `begin_regeneration` reads before it takes the lock. -/
def readOriginalResponse (responseMessageId : UUID) (s : ConversationStore) :
    Except ConversationError Message := do
  let original ← accessibleMessage responseMessageId identity.userId "要重新生成的回复不存在" s
  if original.senderType ≠ .agent then throw (.conflict "只能重新生成 Agent 回复")
  return original

def beginRegeneration (original : Message) (clientRequestId : UUID) (s : ConversationStore) :
    Except ConversationError (PendingAgentRun × ConversationStore) := do
  let conversation ← lockedConversation original.conversationId identity.userId s
  match clientMessage? conversation.id identity.agentId clientRequestId s with
  | some response =>
    match runOfResponse? response.id s with
    | none => throw (.conflict "幂等重新生成请求缺少 Agent Run")
    | some run =>
      let trigger ← requiredMessage run.triggerMessageId s
      return (⟨conversation, trigger, response, run, false⟩, s)
  | none =>
    match runOfResponse? original.id s with
    | none => throw (.conflict "要重新生成的回复缺少关联 Agent Run")
    | some originalRun =>
      let trigger ← requiredMessage originalRun.triggerMessageId s
      let time := nextPersistedMessageTime conversation.id now s
      let response := agentResponse identity ids time conversation.id (some clientRequestId)
      let run := queuedRun identity snapshot ids conversation.id trigger.id
      let s ← openRun [response] run (updateConversationRow conversation.id (touched time) s)
      return (⟨refreshed conversation s, trigger, response, run, true⟩, s)

end begins

section branches

variable (identity : DevelopmentIdentity) (snapshot : RunSnapshot) (ids : NewIds) (now : Datetime)

def anyRow {α : Type} (pick : ℕ) (rows : List α) : Option α := rows[pick % rows.length]?

def branchedFrom (sourceMessageId conversationId : UUID) (s : ConversationStore) : Bool :=
  match s.conversations.find? conversationId with
  | none => false
  | some row => row.branchedFromMessageId = some sourceMessageId

def editedTriggers (sourceMessageId userId clientMessageId : UUID) (s : ConversationStore) :
    List Message :=
  s.messages.rows.filter fun message ↦ message.editedFromId = some sourceMessageId &&
    message.senderId = userId && message.clientMessageId = some clientMessageId &&
    branchedFrom sourceMessageId message.conversationId s

/-- What `begin_edited_branch` does before it takes the lock: it ends with an earlier branch of
the same request or goes on with the source. -/
def readEditSource (sourceMessageId clientMessageId : UUID) (pickTrigger pickRun : ℕ)
    (s : ConversationStore) : Except ConversationError (PendingAgentRun ⊕ Message) := do
  let source ← accessibleMessage sourceMessageId identity.userId "要编辑的消息不存在" s
  if source.senderType ≠ .user then throw (.conflict "只能编辑用户消息并创建分支")
  match anyRow pickTrigger (editedTriggers source.id identity.userId clientMessageId s) with
  | none => return .inr source
  | some trigger =>
    match anyRow pickRun (runsOf trigger.id s), s.conversations.find? trigger.conversationId with
    | some run, some branch =>
      match s.messages.find? run.responseMessageId with
      | none => throw (.conflict "幂等编辑分支缺少关联资源")
      | some response => return .inl ⟨branch, trigger, response, run, false⟩
    | _, _ => throw (.conflict "幂等编辑分支缺少关联资源")

def branchTitle (title : String) : String := String.ofList ((title ++ "（分支）").toList.take 200)

def branchConversation (original : Conversation) (source : Message) : Conversation where
  id := ids.branch
  tenantId := original.tenantId
  agentId := original.agentId
  title := branchTitle original.title
  status := .active
  createdBy := identity.userId
  eventSequence := 0
  createdAt := now
  updatedAt := now
  branchedFromConversationId := some original.id
  branchedFromMessageId := some source.id

/-- The order of `created_at, id`. -/
def isBefore (a b : Message) : Bool :=
  a.createdAt < b.createdAt || (a.createdAt = b.createdAt && a.id < b.id)

def sourceRows (source : Message) (s : ConversationStore) : List Message :=
  (s.messages.rows.filter fun item ↦ item.conversationId = source.conversationId &&
    isBefore item source).insertionSort fun a b ↦ isBefore b a = false

def copiedMessage (branchId : UUID) (item : Message) (index : ℕ) : Message where
  id := ids.copied index
  tenantId := item.tenantId
  conversationId := branchId
  senderType := item.senderType
  senderId := item.senderId
  content := item.content
  status := item.status
  clientMessageId := none
  createdAt := now + index
  updatedAt := now + index
  parts := copiedMessageParts (ids.copied index) (now + index) (ids.part (ids.copied index))
    item.parts

def copyMessages (branchId : UUID) :
    ℕ → List Message → ConversationStore → Except ConversationError ConversationStore
  | _, [], s => .ok s
  | index, item :: rest, s => do
    let copied := copiedMessage ids now branchId item index
    let s ← insertMessage copied s
    copyMessages branchId (index + 1) rest (emit branchId s (messageCreated none copied))

def beginEditedBranch (source : Message) (clientMessageId : UUID) (content : String)
    (s : ConversationStore) : Except ConversationError (PendingAgentRun × ConversationStore) := do
  let original ← lockedConversation source.conversationId identity.userId s
  let branch := branchConversation identity ids now original source
  let rows := sourceRows source s
  let s ← insertConversation branch identity.userId s
  let s ← copyMessages ids now branch.id 1 rows (emit branch.id s
    { eventType := "conversation.created", payload := conversationPayload branch })
  let time := now + (rows.length + 1)
  let trigger := userMessage identity ids time branch.id clientMessageId content (some source.id)
    (draftParts identity.tenantId ids.trigger [] time (ids.part ids.trigger) content)
  let response := agentResponse identity ids (time + 1) branch.id none
  let run := queuedRun identity snapshot ids branch.id trigger.id
  let s ← openRun [trigger, response] run s
  return (⟨refreshed branch s, trigger, response, run, true⟩, s)

end branches

section runs

inductive RunWrite
  | started
  | delta (text : String)
  | completed (usage : Option ModelUsage) (suppressResponse : Bool)
  | failed (errorCode : String)
  | cancelled
  deriving DecidableEq

def RunWrite.run (now : Datetime) (w : RunWrite) : Update AgentRun.id where
  toFun run := match w with
    | .started => { run with status := .running, startedAt := some now }
    | .delta _ => run
    | .completed usage _ =>
      { run with
        status := .completed
        inputTokens := usage.map (·.inputTokens)
        outputTokens := usage.map (·.outputTokens)
        completedAt := some now }
    | .failed errorCode =>
      { run with status := .failed, errorCode := some errorCode, completedAt := some now }
    | .cancelled => { run with status := .cancelled, completedAt := some now }
  key_eq run := by cases w <;> rfl

def isStreamable (part : MessagePart) : Bool := part.position = 0 && isText part.kind

/-- Extend the first streamable part. -/
def appendToParts (delta : String) (now : Datetime) : List MessagePart → List MessagePart
  | [] => []
  | part :: rest =>
    if isStreamable part then
      { part with text := some (part.text.getD "" ++ delta), updatedAt := now } :: rest
    else part :: appendToParts delta now rest

def RunWrite.response (now : Datetime) (w : RunWrite) : Update Message.id where
  toFun message := match w with
    | .started => { message with status := .streaming, updatedAt := now }
    | .delta text =>
      { message with
        content := message.content ++ text
        status := .streaming
        parts := appendToParts text now message.parts
        updatedAt := now }
    | .completed _ suppressResponse =>
      { message with
        status := if suppressResponse then .suppressed else .completed
        updatedAt := now }
    | .failed _ => { message with status := .failed, updatedAt := now }
    | .cancelled => { message with status := .cancelled, updatedAt := now }
  key_eq message := by cases w <;> rfl

def deltaPayload (message : Message) (delta : String) : JsonObject :=
  [("message_id", uuidJson message.id), ("delta", .str delta),
    ("status", .str message.status.value)]

/-- The events of a write, given the run and the response after it. -/
def RunWrite.emissions (run : AgentRun) (response : Message) (w : RunWrite) : List Emission :=
  let event (eventType : String) (payload : JsonObject) : Emission :=
    ⟨eventType, payload, some run.id, some response.id⟩
  match w with
  | .started => [event "run.started" (runPayload run)]
  | .delta text => [event "message.delta" (deltaPayload response text)]
  | .completed _ suppressResponse =>
    [event (if suppressResponse then "message.suppressed" else "message.completed")
        (messagePayload response),
      event "run.completed" (runPayload run)]
  | .failed _ => [event "run.failed" (runPayload run)]
  | .cancelled => [event "run.cancelled" (runPayload run)]

def writeRun (w : RunWrite) (now : Datetime) (run : AgentRun) (response : Message)
    (s : ConversationStore) : ConversationStore :=
  emitAll run.conversationId (w.emissions (w.run now run) (w.response now response))
    { s with
      runs := s.runs.updateWhere (·.id = run.id) (w.run now)
      messages := s.messages.updateWhere (·.id = response.id) (w.response now) }

variable (runId : UUID) (now : Datetime) (s : ConversationStore)

def markRunStarted : Except ConversationError (AgentRun × ConversationStore) := do
  let run ← lockedRun runId s
  if run.status ≠ .queued then throw (.conflict "只有排队中的 Agent Run 可以启动")
  let _ ← lockedConversationById run.conversationId s
  let response ← requiredMessage run.responseMessageId s
  return (RunWrite.started.run now run, writeRun .started now run response s)

def appendRunDelta (delta : String) : Except ConversationError (Message × ConversationStore) := do
  let run ← lockedRunningRun runId s
  let _ ← lockedConversationById run.conversationId s
  let response ← requiredMessage run.responseMessageId s
  if !response.parts.any isStreamable then
    throw (.conflict "Agent 回复缺少可流式更新的文本内容块")
  return ((RunWrite.delta delta).response now response, writeRun (.delta delta) now run response s)

def completeRun (usage : Option ModelUsage) (suppressResponse : Bool) :
    Except ConversationError (AgentRun × ConversationStore) := do
  let run ← lockedRunningRun runId s
  let _ ← lockedConversationById run.conversationId s
  let response ← requiredMessage run.responseMessageId s
  let w := RunWrite.completed usage suppressResponse
  return (w.run now run, writeRun w now run response s)

/-- A run that was cancelled stays as it is; every other one is failed. -/
def failRun (errorCode : String) : Except ConversationError (AgentRun × ConversationStore) := do
  let run ← lockedRun runId s
  if run.status = .cancelled then return (run, s)
  let _ ← lockedConversationById run.conversationId s
  let response ← requiredMessage run.responseMessageId s
  let w := RunWrite.failed errorCode
  return (w.run now run, writeRun w now run response s)

def cancelRun (userId : UUID) : Except ConversationError (AgentRun × ConversationStore) := do
  let run ← lockedRun runId s
  let _ ← lockedConversation run.conversationId userId s
  if run.status.isTerminal then return (run, s)
  let response ← requiredMessage run.responseMessageId s
  return (RunWrite.cancelled.run now run, writeRun .cancelled now run response s)

end runs

/-- A page of the log of one conversation. -/
def listEvents (conversationId userId : UUID) (afterSequence limit : ℕ) (s : ConversationStore) :
    Except ConversationError (List ConversationEvent) :=
  if (s.members.find? (conversationId, userId)).isNone then
    .error (.conflict "当前用户无权访问该会话")
  else .ok (((s.events.filter fun event ↦ event.conversationId = conversationId &&
      afterSequence < event.sequence).insertionSort fun a b ↦ a.sequence ≤ b.sequence).take limit)

end ConversationRepository

end CyberNetizen.Infrastructure
