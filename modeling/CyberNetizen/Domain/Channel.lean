import CyberNetizen.Domain.Task
import CyberNetizen.Lib.WireText

namespace CyberNetizen.Domain

/-- `str` of an identifier. -/
def uuidString (id : UUID) : String := String.ofList (WireText.uuidText id)

/-- `isoformat` of an instant in UTC. -/
def isoformat (t : Datetime) : String := String.ofList (WireText.isoText t)

inductive ChannelPlatform
  | web | feishu | discord | telegram
  deriving DecidableEq

inductive ChannelInstanceStatus
  | enabled | disabled
  deriving DecidableEq

inductive ContentBlockKind
  | text | markdown | image | file
  deriving DecidableEq

def ContentBlockKind.value : ContentBlockKind → String
  | .text => "text"
  | .markdown => "markdown"
  | .image => "image"
  | .file => "file"

inductive ChannelEventDirection
  | inbound | outbound | system
  deriving DecidableEq

inductive ChannelEventStatus
  | accepted | delivered | degraded | rejected | failed | rateLimited
  deriving DecidableEq

/-- `DELIVERED` or `DEGRADED`. -/
def ChannelEventStatus.isSuccess : ChannelEventStatus → Bool
  | .delivered | .degraded => true
  | _ => false

structure ChannelCapabilities where
  text : Bool := true
  markdown : Bool := false
  images : Bool := false
  files : Bool := false
  streaming : Bool := false
  reactions : Bool := false
  threads : Bool := false
  messageEdit : Bool := false
  proactiveMessages : Bool := false
  maxTextChars : ℕ := 4000
  maxBlocks : ℕ := 20
  maxAttachmentBytes : ℕ := 25 * 1024 * 1024
  acceptedContentTypes : List String := []

structure MultimodalContentBlock where
  kind : ContentBlockKind
  text : Option String := none
  attachmentId : Option UUID := none
  contentType : Option String := none
  fileName : Option String := none
  sizeBytes : Option ℤ := none
  sha256 : Option String := none
  altText : Option String := none
  deriving DecidableEq

structure ChannelInstance where
  id : UUID
  tenantId : UUID
  agentId : UUID
  platform : ChannelPlatform
  status : ChannelInstanceStatus
  rateLimitPerMinute : ℕ
  deriving DecidableEq

structure ChannelDiagnosticEvent where
  id : UUID
  tenantId : UUID
  channelId : UUID
  direction : ChannelEventDirection
  eventType : String
  status : ChannelEventStatus
  externalEventId : Option String
  idempotencyKey : String
  externalMessageId : Option String
  payloadSummary : JsonObject
  errorCode : Option String
  degradations : List String
  occurredAt : Datetime

end CyberNetizen.Domain
