import CyberNetizen.Application.InboundService
import CyberNetizen.Infrastructure.ChannelRepository
import CyberNetizen.Infrastructure.DataLifecycleRepository

namespace CyberNetizen.Domain

inductive ExternalMappingStatus
  | enabled | disabled
  deriving DecidableEq

/-- The columns that both kinds of mapping share, around what is mapped. -/
structure StoredMapping (α : Type) where
  id : UUID
  tenantId : UUID
  agentId : UUID
  channelId : UUID
  platform : ChannelPlatform
  mapping : α
  status : ExternalMappingStatus
  createdBy : UUID
  createdAt : Datetime
  updatedAt : Datetime

/-- An external conversation with its local one. The thread is optional for the domain and a text
for the table. -/
structure ExternalRoute (τ : Type) extends ExternalConversationMapping where
  externalConversationId : String
  externalThreadId : τ

end CyberNetizen.Domain

namespace CyberNetizen.Infrastructure

open Domain KeyedTable

/-- `external_identity_mappings` -/
abbrev IdentityTable := Table (StoredMapping.id : StoredMapping ExternalIdentityMapping → UUID)

/-- `external_conversation_mappings` -/
abbrev RouteTable := Table (StoredMapping.id : StoredMapping (ExternalRoute String) → UUID)

/-- The tables of others that the gateway reads. A user is listed with its tenant. -/
structure GatewaySurroundings where
  channels : ChannelStore
  agents : Table Agent.id
  users : List (UUID × UUID)
  conversations : Table Conversation.id
  members : Table memberKey

structure GatewayStore where
  surroundings : GatewaySurroundings
  identities : IdentityTable
  routes : RouteTable

namespace SqlAlchemyInboundGatewayRepository

structure ValueError where
  message : String
  deriving DecidableEq

section mappings

variable {α : Type}

/-- What the two tables are asked for: a row by its id in the scope of an agent. -/
def getMapping (t : Table (StoredMapping.id : StoredMapping α → UUID))
    (tenantId agentId mappingId : UUID) : Option (StoredMapping α) :=
  t.rows.find? fun row ↦ row.tenantId = tenantId ∧ row.agentId = agentId ∧ row.id = mappingId

/-- `ORDER BY updated_at DESC, id DESC` -/
def Newer (a b : StoredMapping α) : Prop :=
  b.updatedAt < a.updatedAt ∨ b.updatedAt = a.updatedAt ∧ b.id ≤ a.id

instance (a b : StoredMapping α) : Decidable (Newer a b) := inferInstanceAs (Decidable (_ ∨ _))

def withStatus (status : ExternalMappingStatus) (updatedAt : Datetime) :
    Update (StoredMapping.id : StoredMapping α → UUID) where
  toFun row := { row with status, updatedAt }
  key_eq _ := rfl

def updateMappingStatus (tenantId agentId mappingId : UUID) (status : ExternalMappingStatus)
    (updatedAt : Datetime) (t : Table (StoredMapping.id : StoredMapping α → UUID)) :
    Option (StoredMapping α) × Table (StoredMapping.id : StoredMapping α → UUID) :=
  match getMapping t tenantId agentId mappingId with
  | none => (none, t)
  | some row => (some (withStatus status updatedAt row),
      t.updateWhere (fun r ↦ r.id = mappingId) (withStatus status updatedAt))

def validateChannel (s : GatewaySurroundings) (mapping : StoredMapping α) : Bool :=
  ((ChannelRepository.getInstance mapping.tenantId mapping.agentId mapping.channelId
      s.channels).any fun channel ↦ channel.platform = mapping.platform) &&
    (s.agents.find? mapping.agentId).any fun agent ↦
      agent.tenantId = mapping.tenantId && (agent.status = .active || agent.status = .disabled)

end mappings

/-- `uq_external_identity_mappings_subject` -/
def subjectKey (row : StoredMapping ExternalIdentityMapping) :
    UUID × ChannelPlatform × UUID × String :=
  (row.tenantId, row.platform, row.channelId, row.mapping.externalSubjectId)

/-- `uq_external_conversation_mappings_route` -/
def routeKey (row : StoredMapping (ExternalRoute String)) :
    UUID × ChannelPlatform × UUID × String × String :=
  (row.tenantId, row.platform, row.channelId, row.mapping.externalConversationId,
    row.mapping.externalThreadId)

/-- `uq_external_conversation_mappings_local` -/
def localKey (row : StoredMapping (ExternalRoute String)) : UUID × UUID :=
  (row.channelId, row.mapping.conversationId)

def userExists (s : GatewaySurroundings) (tenantId userId : UUID) : Bool :=
  s.users.contains (tenantId, userId)

/-- `created_by` refers to a user of any tenant. -/
def creatorExists {α : Type} (s : GatewaySurroundings) (mapping : StoredMapping α) : Bool :=
  s.users.any fun user ↦ user.2 = mapping.createdBy

def identityConflict : ValueError := ⟨"该渠道已存在相同外部主体 ID 的身份映射"⟩

def createIdentityMapping (mapping : StoredMapping ExternalIdentityMapping) (s : GatewayStore) :
    Except ValueError (StoredMapping ExternalIdentityMapping × GatewayStore) :=
  if !validateChannel s.surroundings mapping then .error ⟨"渠道实例或智能体不存在"⟩
  else if !userExists s.surroundings mapping.tenantId mapping.mapping.userId then
    .error ⟨"本地用户不存在"⟩
  else if !creatorExists s.surroundings mapping ||
      (s.identities.rows.any fun row ↦ subjectKey row = subjectKey mapping) then
    .error identityConflict
  else match s.identities.insert? mapping with
    | none => .error identityConflict
    | some identities => .ok (mapping, { s with identities })

def conversationModel (item : StoredMapping (ExternalRoute (Option String))) :
    StoredMapping (ExternalRoute String) :=
  { item with
    mapping := { item.mapping with externalThreadId := item.mapping.externalThreadId.getD "" } }

def conversation (row : StoredMapping (ExternalRoute String)) :
    StoredMapping (ExternalRoute (Option String)) :=
  { row with
    mapping := { row.mapping with
      externalThreadId :=
        if row.mapping.externalThreadId.isEmpty then none else some row.mapping.externalThreadId } }

def routeConflict : ValueError := ⟨"外部路由或内部会话已存在冲突映射"⟩

def createConversationMapping (mapping : StoredMapping (ExternalRoute (Option String)))
    (s : GatewayStore) :
    Except ValueError (StoredMapping (ExternalRoute (Option String)) × GatewayStore) :=
  let row := conversationModel mapping
  if !validateChannel s.surroundings mapping then .error ⟨"渠道实例或智能体不存在"⟩
  else if !((s.surroundings.conversations.find? mapping.mapping.conversationId).any fun item ↦
      item.tenantId = mapping.tenantId && item.agentId = mapping.agentId &&
        item.deletedAt.isNone) then
    .error ⟨"内部会话不存在"⟩
  else if !creatorExists s.surroundings mapping ||
      (s.routes.rows.any fun r ↦ routeKey r = routeKey row || localKey r = localKey row) then
    .error routeConflict
  else match s.routes.insert? row with
    | none => .error routeConflict
    | some routes => .ok (mapping, { s with routes })

def isUsable {α : Type} (enabledOnly : Bool) (row : StoredMapping α) : Bool :=
  !enabledOnly || row.status = .enabled

def findIdentityMapping (tenantId agentId channelId : UUID) (enabledOnly : Bool) (s : GatewayStore)
    (externalSubjectId : String) : Option (StoredMapping ExternalIdentityMapping) :=
  s.identities.rows.find? fun row ↦ row.tenantId = tenantId ∧ row.agentId = agentId ∧
    row.channelId = channelId ∧ row.mapping.externalSubjectId = externalSubjectId ∧
    isUsable enabledOnly row = true

def findConversationMapping (tenantId agentId channelId : UUID) (enabledOnly : Bool)
    (s : GatewayStore) (externalConversationId : String) (externalThreadId : Option String) :
    Option (StoredMapping (ExternalRoute (Option String))) :=
  (s.routes.rows.find? fun row ↦ row.tenantId = tenantId ∧ row.agentId = agentId ∧
    row.channelId = channelId ∧ row.mapping.externalConversationId = externalConversationId ∧
    row.mapping.externalThreadId = externalThreadId.getD "" ∧
    isUsable enabledOnly row = true).map conversation

/-- `get_conversation_for_user` of the conversation repository. -/
def getConversationForUser (s : GatewaySurroundings) (conversationId userId agentId : UUID) :
    Option Conversation :=
  if (s.members.find? (conversationId, userId)).isSome then
    (s.conversations.find? conversationId).filter fun row ↦
      row.agentId = agentId && row.deletedAt.isNone
  else none

end SqlAlchemyInboundGatewayRepository

end CyberNetizen.Infrastructure
