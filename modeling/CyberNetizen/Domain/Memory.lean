import CyberNetizen.Domain.Task

namespace CyberNetizen.Domain

inductive RelationshipStage
  | stranger | acquaintance | familiar | trusted
  deriving DecidableEq

/-- The agent and the user a relationship is between. -/
structure Scope where
  tenantId : UUID
  agentId : UUID
  userId : UUID
  deriving DecidableEq

structure Relationship where
  id : UUID
  tenantId : UUID
  agentId : UUID
  userId : UUID
  stage : RelationshipStage
  affinity : ℚ
  trust : ℚ
  familiarity : ℚ
  interactionCount : ℕ
  summary : String
  boundaries : List String
  version : ℕ
  createdAt : Datetime
  updatedAt : Datetime
  deriving DecidableEq

def Relationship.scope (relationship : Relationship) : Scope :=
  ⟨relationship.tenantId, relationship.agentId, relationship.userId⟩

/-- The append-only ground of a change to a relationship. -/
structure RelationshipEvent where
  id : UUID
  tenantId : UUID
  relationshipId : UUID
  eventType : String
  affinityDelta : ℚ
  trustDelta : ℚ
  familiarityDelta : ℚ
  evidenceMemoryId : Option UUID
  summary : String
  createdBy : UUID
  createdAt : Datetime

structure RelationshipDetail where
  relationship : Relationship
  events : List RelationshipEvent

inductive MemoryKind
  | working | episodic | semantic | relational | autobiographical | procedural
  deriving DecidableEq

inductive MemoryVisibility
  | user | agent | tenant
  deriving DecidableEq

inductive MemorySensitivity
  | normal | personal | sensitive | restricted
  deriving DecidableEq

inductive MemoryConfirmation
  | unconfirmed | confirmed | disputed
  deriving DecidableEq

inductive MemoryStatus
  | active | superseded | forgotten
  deriving DecidableEq

inductive MemorySourceKind
  | message | episode | userStatement | adminCorrection | reflection | fromImport
  deriving DecidableEq

inductive MemoryLinkKind
  | relatedTo | conflictsWith | supersedes | derivedFrom
  deriving DecidableEq

inductive MemoryIndexJobStatus
  | pending | running | completed | failed
  deriving DecidableEq

/-- A long-term memory. A lineage is a memory with the versions that replaced it. -/
structure Memory where
  id : UUID
  lineageId : UUID
  tenantId : UUID
  agentId : UUID
  userId : Option UUID
  conversationId : Option UUID
  episodeId : Option UUID
  kind : MemoryKind
  visibility : MemoryVisibility
  content : Option String
  eventAt : Datetime
  confidence : ℚ
  importance : ℚ
  emotionalWeight : ℚ
  sensitivity : MemorySensitivity
  confirmation : MemoryConfirmation
  status : MemoryStatus
  version : ℕ
  embeddingVersion : Option String
  createdBy : UUID
  createdAt : Datetime
  updatedAt : Datetime
  deriving DecidableEq

structure MemorySource where
  id : UUID
  tenantId : UUID
  memoryId : UUID
  kind : MemorySourceKind
  sourceId : String
  excerpt : Option String
  isVerbatim : Bool
  occurredAt : Datetime
  createdAt : Datetime
  deriving DecidableEq

structure MemoryLink where
  id : UUID
  tenantId : UUID
  sourceMemoryId : UUID
  targetMemoryId : UUID
  kind : MemoryLinkKind
  note : Option String
  createdBy : UUID
  createdAt : Datetime
  deriving DecidableEq

structure MemoryEmbedding where
  id : UUID
  tenantId : UUID
  memoryId : UUID
  embeddingVersion : String
  dimensions : ℕ
  vector : List ℚ
  active : Bool
  createdAt : Datetime
  deriving DecidableEq

structure MemoryIndexJob where
  id : UUID
  tenantId : UUID
  agentId : UUID
  userId : Option UUID
  targetEmbeddingVersion : String
  status : MemoryIndexJobStatus
  totalItems : ℕ
  processedItems : ℕ
  errorCode : Option String
  createdBy : UUID
  createdAt : Datetime
  startedAt : Option Datetime
  completedAt : Option Datetime
  deriving DecidableEq

structure RawMemoryCandidate where
  memory : Memory
  fullTextScore : ℚ
  semanticScore : ℚ
  relationshipScore : ℚ
  deriving DecidableEq

structure RecallComponents where
  fullText : ℚ
  semantic : ℚ
  recency : ℚ
  importance : ℚ
  relationship : ℚ
  confidence : ℚ
  rankerVersion : String
  deriving DecidableEq

/-- A memory that enters the context, with the reasons for its score. -/
structure MemoryRecall where
  memory : Memory
  score : ℚ
  components : RecallComponents
  deriving DecidableEq

structure MemoryDetail where
  memory : Memory
  sources : List MemorySource
  links : List MemoryLink

end CyberNetizen.Domain
