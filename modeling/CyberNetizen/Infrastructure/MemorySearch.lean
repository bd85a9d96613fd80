import CyberNetizen.Cognition.MemoryRanker
import CyberNetizen.Infrastructure.LongTermMemory
import CyberNetizen.Infrastructure.MemoryRepository

namespace CyberNetizen.Infrastructure

open Domain KeyedTable Cognition Ranking

def sensitivityOrder : MemorySensitivity → ℕ
  | .normal => 0
  | .personal => 1
  | .sensitive => 2
  | .restricted => 3

/-- The arguments of `search_candidates`. -/
structure SearchRequest where
  tenantId : UUID
  agentId : UUID
  userId : UUID
  query : String
  queryEmbedding : List ℚ
  embeddingVersion : String
  maximumSensitivity : MemorySensitivity
  limit : ℕ

def SearchRequest.scope (request : SearchRequest) : Scope :=
  ⟨request.tenantId, request.agentId, request.userId⟩

namespace InMemorySearch

def visible (memory : Memory) (request : SearchRequest) : Bool :=
  if memory.tenantId ≠ request.tenantId then false
  else if memory.visibility = .tenant then true
  else if memory.agentId ≠ request.agentId then false
  else if memory.visibility = .agent then true
  else memory.userId = some request.userId

variable (casefold : String → String) (math : FloatMath)

def grams (value : String) : List String :=
  let normalized := (casefold value).toList.filter fun c ↦ !Application.isSpace c
  ((normalized.map fun c ↦ String.ofList [c])
    ++ (normalized.zip normalized.tail).map fun pair ↦ String.ofList [pair.1, pair.2]).dedup

def textScore (query content : String) : ℚ :=
  let queryGrams := grams casefold query
  if queryGrams.isEmpty then 0
  else ((queryGrams.filter fun gram ↦ gram ∈ grams casefold content).length : ℚ)
    / queryGrams.length

def sumProduct (left right : List ℚ) : ℚ := (left.zipWith (· * ·) right).sum

def cosine (left right : List ℚ) : ℚ :=
  if left.length ≠ right.length then 0
  else
    let denominator := math.sqrt (sumProduct left left) * math.sqrt (sumProduct right right)
    if denominator = 0 then 0 else sumProduct left right / denominator

def candidateOf (embeddings : UUID → List MemoryEmbedding) (relationship : Option Relationship)
    (request : SearchRequest) (memory : Memory) (content : String) : RawMemoryCandidate :=
  let embedding := (embeddings memory.id).find? fun item ↦
    item.active && item.embeddingVersion = request.embeddingVersion
  let semantic := match embedding with
    | some item => cosine math request.queryEmbedding item.vector
    | none => 0
  { memory
    fullTextScore := textScore casefold request.query content
    semanticScore := max 0 semantic
    relationshipScore := match relationship with
      | some relationship =>
        if memory.userId = some request.userId then relationship.familiarity else 0
      | none => 0 }

/-- The body of the loop over the memories. -/
def candidate? (embeddings : UUID → List MemoryEmbedding) (relationship : Option Relationship)
    (request : SearchRequest) (memory : Memory) : Option RawMemoryCandidate :=
  if !visible memory request then none
  else
    match memory.status, memory.content with
    | .active, some content =>
      if sensitivityOrder request.maximumSensitivity < sensitivityOrder memory.sensitivity then none
      else some (candidateOf casefold math embeddings relationship request memory content)
    | _, _ => none

/-- `key=(max(full_text, semantic), importance, event_at), reverse=True`; the sort is stable. -/
def candidateLe : RawMemoryCandidate → RawMemoryCandidate → Bool :=
  byDesc (fun item ↦ max item.fullTextScore item.semanticScore)
    (byDesc (fun item ↦ item.memory.importance)
      (byDesc (fun item ↦ item.memory.eventAt) fun _ _ ↦ true))

def searchCandidates (s : MemoryDictionaries) (relationships : Table Relationship.scope)
    (request : SearchRequest) : List RawMemoryCandidate :=
  let relationship := relationships.find? request.scope
  let candidates := s.memories.rows.filterMap
    (candidate? casefold math s.embeddings relationship request)
  (candidates.mergeSort candidateLe).take request.limit

end InMemorySearch

namespace SqlAlchemySearch

/-- The functions of PostgreSQL, pg_trgm and pgvector that the query uses. -/
structure SqlScores where
  tsRankCd : String → String → ℚ
  similarity : String → String → ℚ
  cosineDistance : List ℚ → List ℚ → ℚ

abbrev Row := Memory × Option MemoryEmbedding

def rowKey (row : Row) : UUID × Option UUID := (row.1.id, row.2.map MemoryEmbedding.id)

variable (scores : SqlScores) (tie : Row → Row → Bool)

def visibility (memory : Memory) (request : SearchRequest) : Bool :=
  memory.visibility = .tenant ∨ (memory.agentId = request.agentId ∧ memory.visibility = .agent) ∨
    (memory.agentId = request.agentId ∧ memory.visibility = .user ∧
      memory.userId = some request.userId)

def allowedSensitivity (request : SearchRequest) : List MemorySensitivity :=
  [.normal, .personal, .sensitive, .restricted].filter fun item ↦
    sensitivityOrder item ≤ sensitivityOrder request.maximumSensitivity

def whereClause (request : SearchRequest) (memory : Memory) : Bool :=
  memory.tenantId = request.tenantId ∧ memory.status = .active ∧ memory.content ≠ none ∧
    memory.sensitivity ∈ allowedSensitivity request ∧ visibility memory request = true

/-- `LEFT OUTER JOIN memory_embeddings`. -/
def joined (embeddings : List MemoryEmbedding) (request : SearchRequest) (memory : Memory) :
    List Row :=
  let matching := embeddings.filter fun row ↦ row.memoryId = memory.id &&
    row.tenantId = request.tenantId && row.active && row.embeddingVersion = request.embeddingVersion
  if matching.isEmpty then [(memory, none)] else matching.map fun row ↦ (memory, some row)

def fullText (request : SearchRequest) (row : Row) : ℚ :=
  let content := row.1.content.getD ""
  max (scores.tsRankCd content request.query) (scores.similarity content request.query)

/-- `GREATEST` passes over the null of a memory without an embedding. -/
def semantic (request : SearchRequest) (row : Row) : ℚ :=
  match row.2 with
  | some embedding => max 0 (1 - scores.cosineDistance embedding.vector request.queryEmbedding)
  | none => 0

/-- `ORDER BY`; `tie` is the order in which equal rows happen to come. -/
def rowLe (request : SearchRequest) : Row → Row → Bool :=
  byDesc (fun row ↦ max (fullText scores request row) (semantic scores request row))
    (byDesc (fun row ↦ row.1.importance) (byDesc (fun row ↦ row.1.eventAt) tie))

def searchCandidates (s : LongTermStore) (relationships : Table Relationship.scope)
    (request : SearchRequest) : List RawMemoryCandidate :=
  let familiarity := ((relationships.find? request.scope).map Relationship.familiarity).getD 0
  let rows := (s.memories.rows.filter (whereClause request)).flatMap
    (joined s.embeddings.rows request)
  ((rows.mergeSort (rowLe scores tie request)).take request.limit).map fun row ↦
    { memory := row.1
      fullTextScore := fullText scores request row
      semanticScore := semantic scores request row
      relationshipScore := if row.1.userId = some request.userId then familiarity else 0 }

end SqlAlchemySearch

end CyberNetizen.Infrastructure
