import CyberNetizen.Application.ChannelService
import CyberNetizen.Application.InboundService

namespace CyberNetizen.Application.InboundConversationProcessor

open Domain ChannelService

/-- The `ValueError` of a dispatcher that is given a reply it cannot send. -/
structure DispatchError where
  message : String
  deriving DecidableEq

/-- How a reply becomes a delivery of the channel service: its envelope, its message and its key. -/
abbrev InboundReplyDispatcher :=
  InboundEnvelope → Message → String → Except DispatchError Delivery

def replyKey (envelope : InboundEnvelope) : String :=
  s!"inbound-reply:{uuidString envelope.tenantId}:{uuidString envelope.channelId}:" ++
    envelope.externalMessageId

/-- Only a reply that is complete and has a text is sent, and only to Telegram. -/
def deliverReply (replyDispatcher : Option InboundReplyDispatcher) (envelope : InboundEnvelope)
    (response : Message) (runStatus : AgentRunStatus) (responseMessageId : UUID) :
    Except DispatchError (Option Delivery) :=
  match replyDispatcher with
  | none => .ok none
  | some dispatch =>
    if envelope.platform ≠ .telegram then .ok none
    else if runStatus ≠ .completed then .ok none
    else if response.id ≠ responseMessageId ∨ response.status ≠ .completed then .ok none
    else if (strip response.content).isEmpty then .ok none
    else (dispatch envelope response (replyKey envelope)).map some

end CyberNetizen.Application.InboundConversationProcessor

namespace CyberNetizen.Worker.TelegramInboundReplyDispatcher

open Domain Application
open Application.ChannelService Application.InboundConversationProcessor

/-- The arguments of the one call of `deliver`. -/
def replyDelivery (envelope : InboundEnvelope) (text idempotencyKey : String) : Delivery where
  tenantId := envelope.tenantId
  agentId := envelope.agentId
  channelId := envelope.channelId
  recipientId := envelope.externalConversationId
  blocks := [{ kind := .text, text := some text }]
  idempotencyKey
  requestStreaming := false
  threadId := envelope.externalThreadId
  editMessageId := none
  proactive := false

def dispatch : InboundReplyDispatcher := fun envelope response idempotencyKey ↦
  if envelope.platform ≠ .telegram then .error ⟨"Telegram 回复分发器收到不匹配的平台"⟩
  else
    let text := strip response.content
    if text.isEmpty then .error ⟨"Telegram 回复正文不能为空"⟩
    else .ok (replyDelivery envelope text idempotencyKey)

end CyberNetizen.Worker.TelegramInboundReplyDispatcher
