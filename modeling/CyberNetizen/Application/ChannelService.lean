import CyberNetizen.Adapters.Channel
import CyberNetizen.Infrastructure.ChannelRepository

namespace CyberNetizen.Application.ChannelService

open Domain Adapters Infrastructure ChannelRepository

inductive ChannelError
  | validation (message : String)
  | notFound (message : String)
  | conflict (message : String)
  | adapter (error : ChannelAdapterError)
  /-- An exception of another kind, raised by a session, the secret store or the adapter. -/
  | unexpected

structure ChannelDeliveryReceipt where
  status : ChannelEventStatus
  externalMessageId : String
  degradations : List String
  deliveredAt : Datetime
  idempotentReplay : Bool

/-- The arguments of `deliver`. -/
structure Delivery where
  tenantId : UUID
  agentId : UUID
  channelId : UUID
  recipientId : String
  blocks : List MultimodalContentBlock
  idempotencyKey : String
  requestStreaming : Bool
  threadId : Option String
  editMessageId : Option String
  proactive : Bool

def text (value label : String) (maximum : ℕ) : Except ChannelError String :=
  let normalized := strip value
  if normalized.isEmpty then .error (.validation s!"{label}不能为空")
  else if maximum < normalized.length then
    .error (.validation s!"{label}不能超过 {maximum} 个字符")
  else .ok normalized

def optionalText (value : Option String) (maximum : ℕ) : Except ChannelError (Option String) :=
  match value with
  | none => .ok none
  | some value =>
    if (strip value).isEmpty then .ok none else (text value "标识" maximum).map some

/-- The events of a delivery all have this shape. -/
def outboundEvent (channel : ChannelInstance) (idempotencyKey eventType : String)
    (status : ChannelEventStatus) (payloadSummary : JsonObject) (errorCode : Option String)
    (degradations : List String) (externalMessageId : Option String) (eventId : UUID)
    (occurredAt : Datetime) : ChannelDiagnosticEvent where
  id := eventId
  tenantId := channel.tenantId
  channelId := channel.id
  direction := .outbound
  eventType
  status
  externalEventId := none
  idempotencyKey
  externalMessageId
  payloadSummary
  errorCode
  degradations
  occurredAt

def failureStatus (error : ChannelAdapterError) : ChannelEventStatus :=
  if error.code = "rate_limited" ∨ error.code = "telegram_rate_limited" then .rateLimited
  else if error.kind = .capability then .rejected
  else .failed

/-- What the call has worked out by the time it reserves the key. -/
structure Prepared where
  channel : ChannelInstance
  idempotencyKey : String
  command : ChannelDeliveryCommand
  negotiation : CapabilityNegotiation

/-- The event that `_record_failed_delivery` records. -/
def failedEvent (channel : ChannelInstance) (idempotencyKey : String)
    (blocks : List MultimodalContentBlock) (error : ChannelAdapterError) (eventId : UUID)
    (now : Datetime) : ChannelDiagnosticEvent :=
  outboundEvent channel idempotencyKey "message.delivery_failed" (failureStatus error)
    (summarizeBlocks blocks) (some error.code) [] none eventId now

def reservation (prepared : Prepared) (eventId : UUID) (now : Datetime) :
    ChannelDiagnosticEvent :=
  outboundEvent prepared.channel prepared.idempotencyKey "message.delivery_started" .accepted
    (summarizeBlocks prepared.negotiation.blocks) none prepared.negotiation.degradations none
    eventId now

def deliveredEvent (prepared : Prepared) (result : AdapterDeliveryResult) (eventId : UUID) :
    ChannelDiagnosticEvent :=
  outboundEvent prepared.channel prepared.idempotencyKey "message.delivered" result.status
    (summarizeBlocks prepared.negotiation.blocks) none result.degradations
    (some result.externalMessageId) eventId result.deliveredAt

/-- What an adapter's `deliver` comes to. -/
inductive AdapterOutcome
  | result (result : AdapterDeliveryResult)
  | error (error : ChannelAdapterError)
  | unexpected

def AdapterOutcome.isError : AdapterOutcome → Bool
  | .error _ => true
  | _ => false

def AdapterOutcome.isUnexpected : AdapterOutcome → Bool
  | .unexpected => true
  | _ => false

/-- One request to the remote platform: whether the platform accepted the message, and what the
adapter made of the reply or of its absence. A result has been accepted. -/
structure Exchange where
  accepted : Bool
  outcome : AdapterOutcome
  answered : ∀ result, outcome = .result result → accepted = true ∧ result.status.isSuccess = true

/-- Where a call of `deliver` stands: the session or request that comes next. -/
inductive Phase
  | getInstance
  | getEvent (channel : ChannelInstance) (idempotencyKey : String)
  | resolveCredential (prepared : Prepared)
  | recordEarlyFailure (channel : ChannelInstance) (idempotencyKey : String)
      (error : ChannelAdapterError)
  | reserve (prepared : Prepared)
  | rereadEvent (prepared : Prepared)
  | reserveRateLimit (prepared : Prepared)
  | send (prepared : Prepared)
  | recordFailure (prepared : Prepared) (error : ChannelAdapterError)
  | recordDelivered (prepared : Prepared) (result : AdapterDeliveryResult)
  | returned (receipt : ChannelDeliveryReceipt)
  | raised (error : ChannelError)
  | crashed

structure Call where
  delivery : Delivery
  phase : Phase

/-- What the next step of a call meets; the adapter answers with an exchange. -/
structure Choice where
  clock : Datetime
  eventId : UUID
  credential : Option String
  adapter : ChannelDeliveryCommand → CapabilityNegotiation → Exchange
  raced : Bool
  faulty : Bool

def Choice.exchange (choice : Choice) (prepared : Prepared) : Exchange :=
  choice.adapter prepared.command prepared.negotiation

def replay (event : ChannelDiagnosticEvent) (externalMessageId : String) :
    ChannelDeliveryReceipt where
  status := event.status
  externalMessageId
  degradations := event.degradations
  deliveredAt := event.occurredAt
  idempotentReplay := true

def inProgress : ChannelError := .conflict "相同幂等键的渠道发送正在处理中"

def credentialMissing : ChannelAdapterError := notConfiguredError "渠道凭证尚未配置，未发送任何外部消息"

section

variable (markdownToText : Option String → String)
  (capabilities : ChannelPlatform → ChannelCapabilities)

/-- The command handed to the adapter. -/
def deliveryCommand (delivery : Delivery) (idempotencyKey : String) :
    Except ChannelError ChannelDeliveryCommand := do
  let recipientId ← text delivery.recipientId "收件人标识" 255
  let threadId ← optionalText delivery.threadId 255
  let editMessageId ← optionalText delivery.editMessageId 255
  return {
    channelId := delivery.channelId
    recipientId
    blocks := delivery.blocks
    idempotencyKey
    requestStreaming := delivery.requestStreaming
    threadId
    editMessageId
    proactive := delivery.proactive }

/-- From the stored event up to the credential. -/
def afterEvent (delivery : Delivery) (channel : ChannelInstance) (idempotencyKey : String)
    (existing : Option ChannelDiagnosticEvent) : Phase :=
  let finished := existing.filter fun event ↦ event.status.isSuccess
  let running := existing.filter fun event ↦ event.status = .accepted
  match finished, running with
  | some event, _ =>
    match event.externalMessageId with
    | none => .raised (.conflict "已完成渠道事件缺少消息标识")
    | some externalMessageId => .returned (replay event externalMessageId)
  | none, some _ => .raised inProgress
  | none, none =>
    if channel.status = .disabled then .raised (.conflict "渠道实例已停用")
    else
      match deliveryCommand delivery idempotencyKey with
      | .error error => .raised error
      | .ok command =>
        match negotiateCapabilities markdownToText command (capabilities channel.platform) with
        | .error (.adapter error) => .recordEarlyFailure channel idempotencyKey error
        | .error .zeroStep => .raised .unexpected
        | .ok negotiation => .resolveCredential ⟨channel, idempotencyKey, command, negotiation⟩

/-- What a caller that lost the race for the key answers. -/
def afterReread (existing : Option ChannelDiagnosticEvent) : Phase :=
  match existing.filter fun event ↦ event.status.isSuccess with
  | none => .raised inProgress
  | some event =>
    match event.externalMessageId with
    | none => .raised inProgress
    | some externalMessageId => .returned (replay event externalMessageId)

def receipt (result : AdapterDeliveryResult) (event : ChannelDiagnosticEvent) :
    ChannelDeliveryReceipt where
  status := result.status
  externalMessageId := result.externalMessageId
  degradations := event.degradations
  deliveredAt := result.deliveredAt
  idempotentReplay := false

/-- The next step of a call: its phase afterwards, the tables, and whether the platform has
accepted its message in the step. -/
def deliver (backend : Backend) (call : Call) (choice : Choice) (s : ChannelStore) :
    Phase × ChannelStore × Bool :=
  let delivery := call.delivery
  match call.phase with
  | .getInstance =>
    match getInstance delivery.tenantId delivery.agentId delivery.channelId s with
    | none => (.raised (.notFound s!"渠道实例不存在：{delivery.channelId}"), s, false)
    | some channel =>
      match text delivery.idempotencyKey "发送幂等键" 255 with
      | .error error => (.raised error, s, false)
      | .ok idempotencyKey => (.getEvent channel idempotencyKey, s, false)
  | .getEvent channel idempotencyKey =>
    let existing := getEventByIdempotency delivery.tenantId delivery.channelId .outbound
      idempotencyKey s
    (afterEvent markdownToText capabilities delivery channel idempotencyKey existing, s, false)
  | .resolveCredential prepared =>
    if prepared.channel.platform ≠ .web ∧ choice.credential.isNone then
      (.recordEarlyFailure prepared.channel prepared.idempotencyKey credentialMissing, s, false)
    else (.reserve prepared, s, false)
  | .recordEarlyFailure channel idempotencyKey error =>
    let event := failedEvent channel idempotencyKey delivery.blocks error choice.eventId
      choice.clock
    (.raised (.adapter error), (recordEvent backend choice.raced event s).2, false)
  | .reserve prepared =>
    match reserveDelivery backend choice.raced
      (reservation prepared choice.eventId choice.clock) s with
    | (true, s) => (.reserveRateLimit prepared, s, false)
    | (false, s) => (.rereadEvent prepared, s, false)
  | .rereadEvent prepared =>
    (afterReread (getEventByIdempotency delivery.tenantId delivery.channelId .outbound
      prepared.idempotencyKey s), s, false)
  | .reserveRateLimit prepared =>
    match reserveRateLimit backend delivery.channelId prepared.channel.rateLimitPerMinute
      choice.clock s with
    | (true, s) => (.send prepared, s, false)
    | (false, s) => (.recordFailure prepared rateLimitError, s, false)
  | .send prepared =>
    let exchange := choice.exchange prepared
    let phase :=
      match exchange.outcome with
      | .result result => .recordDelivered prepared result
      | .error error => .recordFailure prepared error
      | .unexpected => .raised .unexpected
    (phase, s, exchange.accepted)
  | .recordFailure prepared error =>
    let event := failedEvent prepared.channel prepared.idempotencyKey delivery.blocks error
      choice.eventId choice.clock
    (.raised (.adapter error), (recordEvent backend false event s).2, false)
  | .recordDelivered prepared result =>
    let (event, s) := recordEvent backend false
      (deliveredEvent prepared result choice.eventId) s
    (.returned (receipt result event), s, false)
  | .returned _ | .raised _ | .crashed => (call.phase, s, false)

end

/-- A session that raises is rolled back; a request that raises is an outcome of its exchange. -/
def isSession : Phase → Bool
  | .send _ | .returned _ | .raised _ | .crashed => false
  | _ => true

end CyberNetizen.Application.ChannelService
