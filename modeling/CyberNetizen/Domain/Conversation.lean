import CyberNetizen.Domain.Channel

namespace CyberNetizen.Domain

inductive ConversationStatus
  | active | archived
  deriving DecidableEq

def ConversationStatus.value : ConversationStatus → String
  | .active => "active"
  | .archived => "archived"

inductive MessageSenderType
  | user | agent | system
  deriving DecidableEq

def MessageSenderType.value : MessageSenderType → String
  | .user => "user"
  | .agent => "agent"
  | .system => "system"

inductive MessageStatus
  | received | processing | streaming | completed | suppressed | cancelled | failed
  deriving DecidableEq

def MessageStatus.value : MessageStatus → String
  | .received => "received"
  | .processing => "processing"
  | .streaming => "streaming"
  | .completed => "completed"
  | .suppressed => "suppressed"
  | .cancelled => "cancelled"
  | .failed => "failed"

inductive AgentRunStatus
  | queued | running | completed | cancelled | failed
  deriving DecidableEq

def AgentRunStatus.value : AgentRunStatus → String
  | .queued => "queued"
  | .running => "running"
  | .completed => "completed"
  | .cancelled => "cancelled"
  | .failed => "failed"

def AgentRunStatus.isTerminal : AgentRunStatus → Bool
  | .completed | .cancelled | .failed => true
  | .queued | .running => false

inductive MessageFeedbackRating
  | positive | negative
  deriving DecidableEq

def MessageFeedbackRating.value : MessageFeedbackRating → String
  | .positive => "positive"
  | .negative => "negative"

inductive AttachmentStatus
  | pending | ready | attached | rejected | deleted
  deriving DecidableEq

structure DevelopmentIdentity where
  tenantId : UUID
  userId : UUID
  agentId : UUID
  deriving DecidableEq

structure Conversation where
  id : UUID
  tenantId : UUID
  agentId : UUID
  title : String
  status : ConversationStatus
  createdBy : UUID
  eventSequence : ℕ
  createdAt : Datetime
  updatedAt : Datetime
  pinnedAt : Option Datetime := none
  archivedAt : Option Datetime := none
  deletedAt : Option Datetime := none
  branchedFromConversationId : Option UUID := none
  branchedFromMessageId : Option UUID := none
  deriving DecidableEq

structure ConversationMember where
  conversationId : UUID
  userId : UUID
  deriving DecidableEq

structure MessagePart where
  id : UUID
  tenantId : UUID
  messageId : UUID
  position : ℕ
  kind : ContentBlockKind
  text : Option String := none
  attachmentId : Option UUID := none
  contentType : Option String := none
  fileName : Option String := none
  sizeBytes : Option ℤ := none
  sha256 : Option String := none
  altText : Option String := none
  createdAt : Datetime
  updatedAt : Datetime
  deriving DecidableEq

structure Message where
  id : UUID
  tenantId : UUID
  conversationId : UUID
  senderType : MessageSenderType
  senderId : UUID
  content : String
  status : MessageStatus
  clientMessageId : Option UUID
  createdAt : Datetime
  updatedAt : Datetime
  editedFromId : Option UUID := none
  parts : List MessagePart
  deriving DecidableEq

structure RunSnapshot where
  configurationVersion : ℕ
  personaVersion : ℕ
  promptVersion : ℕ
  policyVersion : ℕ
  modelRouteVersion : ℕ
  modelProfile : String
  deriving DecidableEq

structure ModelUsage where
  inputTokens : ℕ
  outputTokens : ℕ
  deriving DecidableEq

structure AgentRun where
  id : UUID
  tenantId : UUID
  conversationId : UUID
  agentId : UUID
  triggerMessageId : UUID
  responseMessageId : UUID
  status : AgentRunStatus
  snapshot : RunSnapshot
  inputTokens : Option ℕ := none
  outputTokens : Option ℕ := none
  errorCode : Option String := none
  startedAt : Option Datetime := none
  completedAt : Option Datetime := none
  deriving DecidableEq

structure ConversationEvent where
  tenantId : UUID
  conversationId : UUID
  sequence : ℕ
  eventType : String
  payload : JsonObject
  runId : Option UUID
  messageId : Option UUID

structure MessageFeedback where
  id : UUID
  tenantId : UUID
  conversationId : UUID
  messageId : UUID
  userId : UUID
  rating : MessageFeedbackRating
  comment : Option String
  createdAt : Datetime
  updatedAt : Datetime
  deriving DecidableEq

structure Attachment where
  id : UUID
  tenantId : UUID
  ownerId : UUID
  conversationId : UUID
  clientMessageId : UUID
  originalName : String
  contentType : String
  sizeBytes : ℤ
  sha256 : String
  status : AttachmentStatus
  createdAt : Datetime
  expiresAt : Datetime
  objectKey : String
  messageId : Option UUID := none
  validationError : Option String := none
  uploadedAt : Option Datetime := none
  attachedAt : Option Datetime := none
  deletedAt : Option Datetime := none
  deriving DecidableEq

structure PendingAgentRun where
  conversation : Conversation
  triggerMessage : Message
  responseMessage : Message
  run : AgentRun
  created : Bool
  deriving DecidableEq

end CyberNetizen.Domain
