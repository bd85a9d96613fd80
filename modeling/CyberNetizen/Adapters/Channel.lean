import CyberNetizen.Application.TaskService
import CyberNetizen.Lib.Regex
import CyberNetizen.Application.ReflectionTaskHandler
import CyberNetizen.Domain.Channel
import CyberNetizen.Lib.Chunks

namespace CyberNetizen.Adapters

open Application Regex

namespace Markdown

def backtick : Char := Char.ofNat 0x60

def fence : Pattern := exactly 3 (· = backtick)

def fencedCode : Pattern :=
  seqs [fence, many (· ≠ '\n'), maybe (.char (· = '\n')),
    .group 1 (.repeat false 0 none (.char fun _ ↦ true)), fence]

def inlineCode : Pattern :=
  seqs [.char (· = backtick), .group 1 (many1 (· ≠ backtick)), .char (· = backtick)]

def image : Pattern :=
  seqs [chars "![", .group 1 (many (· ≠ ']')), chars "](", many1 (· ≠ ')'), chars ")"]

def link : Pattern :=
  seqs [chars "[", .group 1 (many1 (· ≠ ']')), chars "](", many1 (· ≠ ')'), chars ")"]

def heading : Pattern :=
  seqs [lineStart, upTo 3 isSpace, .repeat true 1 (some 6) (.char (· = '#')), many1 isSpace]

def quote : Pattern :=
  seqs [lineStart, upTo 3 isSpace, chars ">", maybe (.char isSpace)]

def listMarker (isDecimal : Char → Bool) : Pattern :=
  seqs [lineStart, many isSpace,
    .alt (.char fun c ↦ c = '-' || c = '+' || c = '*')
      (.seq (many1 isDecimal) (.char fun c ↦ c = '.' || c = ')')),
    many1 isSpace]

def emphasis : Pattern :=
  seqs [.group 1 (alts [chars "**", chars "__", chars "~~"]),
    .group 2 (.repeat false 1 none (.char fun _ ↦ true)), .back 1]

def marked (mark : Char) : Pattern :=
  seqs [notAfter (· = mark), .char (· = mark), .group 1 (many1 fun c ↦ c ≠ mark && c ≠ '\n'),
    .char (· = mark), notBefore (· = mark)]

end Markdown

open Markdown

/-- `isDecimal` is what `\d` matches: the decimal digits of every script. -/
def markdownToText (isDecimal : Char → Bool) (value : Option String) : String :=
  let text := (value.getD "").toList
  let text := sub fencedCode (taken 1) text
  let text := sub inlineCode (taken 1) text
  let text := sub image (taken 1) text
  let text := sub link (taken 1) text
  let text := sub heading (fun _ ↦ []) text
  let text := sub quote (fun _ ↦ []) text
  let text := sub (listMarker isDecimal) (fun _ ↦ []) text
  let text := sub emphasis (taken 2) text
  let text := sub (marked '*') (taken 1) text
  let text := sub (marked '_') (taken 1) text
  strip (String.ofList text)

end CyberNetizen.Adapters

namespace CyberNetizen.Adapters

open Domain Application

/-- `ChannelAdapterError` or one of its subclasses. -/
inductive ChannelAdapterErrorKind
  | adapter | notConfigured | capability | rateLimit
  deriving DecidableEq

structure ChannelAdapterError where
  kind : ChannelAdapterErrorKind
  code : String
  safeMessage : String
  retryable : Bool
  retryAfterSeconds : Option ℕ

def notConfiguredError (message : String) : ChannelAdapterError :=
  ⟨.notConfigured, "not_configured", message, false, none⟩

def capabilityError (message : String) : ChannelAdapterError :=
  ⟨.capability, "unsupported_capability", message, false, none⟩

def rateLimitError : ChannelAdapterError :=
  ⟨.rateLimit, "rate_limited", "渠道已达到每分钟发送上限", true, some 60⟩

inductive NegotiationError
  | adapter (error : ChannelAdapterError)
  /-- The `ValueError` of a `range` whose step is zero. -/
  | zeroStep

structure ChannelDeliveryCommand where
  channelId : UUID
  recipientId : String
  blocks : List MultimodalContentBlock
  idempotencyKey : String
  threadId : Option String := none
  proactive : Bool := false
  requestStreaming : Bool := false
  editMessageId : Option String := none

structure CapabilityNegotiation where
  blocks : List MultimodalContentBlock
  degradations : List String
  buffered : Bool
  threadId : Option String
  editMessageId : Option String

structure AdapterDeliveryResult where
  status : ChannelEventStatus
  externalMessageId : String
  degradations : List String
  deliveredAt : Datetime

def safeImageContentTypes : List String :=
  ["image/png", "image/jpeg", "image/webp", "image/gif"]

def safeDocumentContentTypes : List String :=
  ["text/plain", "text/markdown", "text/csv", "application/json", "application/pdf",
    "application/vnd.openxmlformats-officedocument.wordprocessingml.document"]

def safeAttachmentContentTypes : List String := safeImageContentTypes ++ safeDocumentContentTypes

/-- `str.lower` as far as its result is ASCII: besides the capital letters, the Kelvin sign is
lowered to a letter of that range. -/
def lower (value : String) : String :=
  value.map fun c ↦ if c.toNat = 0x212A then 'k' else c.toLower

/-- The pattern `^[0-9a-f]{64}$`. -/
def isSha256 (value : String) : Bool :=
  value.length = 64 && value.toList.all fun c ↦
    ('0' ≤ c && c ≤ '9') || ('a' ≤ c && c ≤ 'f')

def summarizeBlocks (blocks : List MultimodalContentBlock) : JsonObject :=
  [("block_count", .int blocks.length),
    ("block_kinds", .list (blocks.map fun block ↦ .str block.kind.value)),
    ("attachment_ids", .list (blocks.filterMap fun block ↦
      block.attachmentId.map fun attachmentId ↦ .str (uuidString attachmentId))),
    ("total_attachment_bytes", .int (blocks.map fun block ↦ block.sizeBytes.getD 0).sum)]

def validateBlock (block : MultimodalContentBlock) (capabilities : ChannelCapabilities) :
    Except ChannelAdapterError Unit :=
  if block.kind = .text ∨ block.kind = .markdown then
    match block.text with
    | none => .error (capabilityError "文本内容块不能为空")
    | some text =>
      if (strip text).isEmpty then .error (capabilityError "文本内容块不能为空")
      else if capabilities.maxTextChars * capabilities.maxBlocks < text.length then
        .error (capabilityError "文本内容超过目标渠道可安全拆分的上限")
      else .ok ()
  else
    match block.attachmentId, block.contentType, block.fileName, block.sizeBytes,
      block.sha256 with
    | some _, some contentType, some fileName, some sizeBytes, some sha256 =>
      let contentType := lower (strip contentType)
      if ¬contentType ∈ safeAttachmentContentTypes then
        .error (capabilityError s!"不支持的安全媒体类型：{contentType}")
      else if block.kind = .image ∧ ¬contentType ∈ safeImageContentTypes then
        .error (capabilityError "图片内容块必须使用安全图片媒体类型")
      else if ¬capabilities.acceptedContentTypes.isEmpty ∧
          ¬contentType ∈ capabilities.acceptedContentTypes then
        .error (capabilityError s!"目标渠道不接受媒体类型：{contentType}")
      else if sizeBytes ≤ 0 ∨ capabilities.maxAttachmentBytes < sizeBytes then
        .error (capabilityError "附件大小超过目标渠道上限")
      else if ¬isSha256 (lower sha256) then
        .error (capabilityError "附件必须携带有效 SHA-256")
      else if (strip fileName).isEmpty ∨
          fileName.toList.any fun c ↦ c = '/' || c = '\\' || c.toNat < 32 then
        .error (capabilityError "附件文件名无效")
      else .ok ()
    | _, _, _, _, _ => .error (capabilityError "图片和文件必须引用已校验附件元数据")

def attachmentFallback (block : MultimodalContentBlock) (label : String) :
    MultimodalContentBlock :=
  let stripped := strip (block.altText.getD "")
  let description := if stripped.isEmpty then "已附加" else stripped
  { kind := .text, text := some s!"[{label}：{description}]" }

section

variable (markdownToText : Option String → String)

/-- One block as the platform can carry it, with the reasons for what was lost. -/
def normalizeBlock (capabilities : ChannelCapabilities) (block : MultimodalContentBlock) :
    Except ChannelAdapterError (MultimodalContentBlock × List String) := do
  validateBlock block capabilities
  match block.kind with
  | .markdown =>
    if capabilities.markdown then return (block, [])
    else return ({ kind := .text, text := some (markdownToText block.text) }, ["markdown_to_text"])
  | .image =>
    if capabilities.images then return (block, [])
    else if capabilities.files then return ({ block with kind := .file }, ["image_to_file"])
    else if capabilities.text then
      return (attachmentFallback block "图片", ["image_to_text_reference"])
    else throw (capabilityError "目标渠道无法承载图片内容")
  | .file =>
    if capabilities.files then return (block, [])
    else if capabilities.text then
      return (attachmentFallback block "附件", ["file_to_text_reference"])
    else throw (capabilityError "目标渠道无法承载文件内容")
  | .text =>
    if capabilities.text then return (block, [])
    else throw (capabilityError "目标渠道不支持文本内容")

/-- A text in pieces of the length the platform takes. -/
def expandBlock (capabilities : ChannelCapabilities) (block : MultimodalContentBlock) :
    Except NegotiationError (List MultimodalContentBlock × List String) :=
  if block.kind = .text ∨ block.kind = .markdown then
    if capabilities.maxTextChars = 0 then .error .zeroStep
    else
      let chunks := Chunks.chunks capabilities.maxTextChars (block.text.getD "").toList
      .ok (chunks.map fun chunk ↦ { block with text := some (String.ofList chunk) },
        if 1 < chunks.length then ["long_text_split"] else [])
  else .ok ([block], [])

def negotiateCapabilities (command : ChannelDeliveryCommand)
    (capabilities : ChannelCapabilities) : Except NegotiationError CapabilityNegotiation := do
  if command.proactive ∧ ¬capabilities.proactiveMessages then
    throw (.adapter (capabilityError "目标渠道不支持主动消息"))
  let buffered := command.requestStreaming && !capabilities.streaming
  let lostThread := command.threadId.isSome && !capabilities.threads
  let lostEdit := command.editMessageId.isSome && !capabilities.messageEdit
  let normalized ← command.blocks.mapM fun block ↦
    (normalizeBlock markdownToText capabilities block).mapError .adapter
  let expanded ← normalized.mapM fun p ↦ expandBlock capabilities p.1
  let blocks := expanded.flatMap Prod.fst
  if blocks.isEmpty then throw (.adapter (capabilityError "消息至少需要一个可发送内容块"))
  if capabilities.maxBlocks < blocks.length then
    throw (.adapter (capabilityError
      s!"能力协商后内容块数量超过目标渠道上限 {capabilities.maxBlocks}"))
  return {
    blocks
    degradations := ReflectionTaskHandler.fromKeys
      ((if buffered then ["streaming_to_buffered"] else []) ++
        (if lostThread then ["thread_to_root_message"] else []) ++
        (if lostEdit then ["edit_to_new_message"] else []) ++
        normalized.flatMap Prod.snd ++ expanded.flatMap Prod.snd)
    buffered
    threadId := if lostThread then none else command.threadId
    editMessageId := if lostEdit then none else command.editMessageId }

end

end CyberNetizen.Adapters
