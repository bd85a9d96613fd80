import Mathlib.Data.List.Sort
import CyberNetizen.Lib.Table
import CyberNetizen.Lib.UnitOfWork
import CyberNetizen.Application.LongTermMemory

namespace CyberNetizen.Infrastructure

open Domain KeyedTable UnitOfWork Application.LongTermMemory

inductive LongTermMapper
  | memoryEmbeddingModel
  | memoryLinkModel
  | memoryModel
  | memorySourceModel
  deriving DecidableEq

def LongTermMapper.className : LongTermMapper → String
  | .memoryEmbeddingModel => "MemoryEmbeddingModel"
  | .memoryLinkModel => "MemoryLinkModel"
  | .memoryModel => "MemoryModel"
  | .memorySourceModel => "MemorySourceModel"

/-- No `relationship()` joins these classes, so a flush takes them by the name of the class, the
embedding and the link before the memory that they belong to. -/
def longTermMappers : List LongTermMapper :=
  [.memoryEmbeddingModel, .memoryLinkModel, .memoryModel, .memorySourceModel]

example : (longTermMappers.map LongTermMapper.className).Pairwise (· < ·) := by decide

structure LongTermStore where
  memories : Table Memory.id
  sources : Table MemorySource.id
  links : Table MemoryLink.id
  embeddings : Table MemoryEmbedding.id
  indexJobs : Table MemoryIndexJob.id

namespace LongTermStore

def empty : LongTermStore := ⟨.empty, .empty, .empty, .empty, .empty⟩

variable (s : LongTermStore)

def hasMemory (memoryId : UUID) : Bool := (s.memories.find? memoryId).isSome

def insertMemory (memory : Memory) : Option LongTermStore :=
  (s.memories.insert? memory).map fun memories ↦ { s with memories }

def insertSource (source : MemorySource) : Option LongTermStore :=
  if s.hasMemory source.memoryId then
    (s.sources.insert? source).map fun sources ↦ { s with sources }
  else none

/-- The foreign key, the primary key, `uq_memory_embeddings_version` and
`uq_memory_embeddings_active`. -/
def insertEmbedding (embedding : MemoryEmbedding) : Option LongTermStore :=
  if s.hasMemory embedding.memoryId &&
    s.embeddings.rows.all (fun row ↦ row.memoryId ≠ embedding.memoryId ||
      (row.embeddingVersion ≠ embedding.embeddingVersion && !(row.active && embedding.active)))
  then (s.embeddings.insert? embedding).map fun embeddings ↦ { s with embeddings }
  else none

/-- The foreign keys, `ck_memory_links_distinct`, `uq_memory_links_direction` and the primary
key. -/
def insertLink (link : MemoryLink) : Option LongTermStore :=
  if s.hasMemory link.sourceMemoryId && s.hasMemory link.targetMemoryId &&
    link.sourceMemoryId ≠ link.targetMemoryId &&
    s.links.rows.all (fun row ↦ !(row.sourceMemoryId = link.sourceMemoryId &&
      row.targetMemoryId = link.targetMemoryId && row.kind = link.kind))
  then (s.links.insert? link).map fun links ↦ { s with links }
  else none

def updateMemory (memoryId : UUID) (f : Update Memory.id) : LongTermStore :=
  { s with memories := s.memories.updateWhere (fun row ↦ row.id = memoryId) f }

end LongTermStore

/-- `ORDER BY created_at, id`. -/
def createdLe (a b : Datetime × UUID) : Bool := a.1 < b.1 || (a.1 = b.1 && a.2 ≤ b.2)

def confirmed (confirmation : MemoryConfirmation) (confidence : ℚ) (updatedAt : Datetime) :
    Update Memory.id where
  toFun row := { row with confirmation, confidence, updatedAt }
  key_eq _ := rfl

def superseded (updatedAt : Datetime) : Update Memory.id where
  toFun row := { row with status := .superseded, updatedAt }
  key_eq _ := rfl

def forgotten (updatedAt : Datetime) : Update Memory.id where
  toFun row :=
    { row with content := none, status := .forgotten, embeddingVersion := none, updatedAt }
  key_eq _ := rfl

def reembedded (embeddingVersion : String) (updatedAt : Datetime) : Update Memory.id where
  toFun row := { row with embeddingVersion := some embeddingVersion, updatedAt }
  key_eq _ := rfl

def withoutExcerpt : Update MemorySource.id where
  toFun row := { row with excerpt := none, isVerbatim := false }
  key_eq _ := rfl

def deactivated : Update MemoryEmbedding.id where
  toFun row := { row with active := false }
  key_eq _ := rfl

def reencoded (embedding : MemoryEmbedding) : Update MemoryEmbedding.id where
  toFun row :=
    { row with
      vector := embedding.vector
      dimensions := embedding.dimensions
      active := true
      createdAt := embedding.createdAt }
  key_eq _ := rfl

/-- The columns `update_index_job` writes. -/
def jobUpdated (job : MemoryIndexJob) : Update MemoryIndexJob.id where
  toFun row :=
    { row with
      status := job.status
      totalItems := job.totalItems
      processedItems := job.processedItems
      errorCode := job.errorCode
      startedAt := job.startedAt
      completedAt := job.completedAt }
  key_eq _ := rfl

namespace SqlAlchemyLongTermMemory

def lockedMemory (memoryId tenantId agentId : UUID) (s : LongTermStore) : Option Memory :=
  (s.memories.find? memoryId).filter fun row ↦ row.tenantId = tenantId && row.agentId = agentId

def sourcesOf (memoryId : UUID) (s : LongTermStore) : List MemorySource :=
  s.sources.rows.filter fun row ↦ row.memoryId = memoryId

def getMemoryDetail (memoryId tenantId agentId : UUID) (s : LongTermStore) :
    Option MemoryDetail :=
  (lockedMemory memoryId tenantId agentId s).map fun memory ↦
    { memory
      sources := ((sourcesOf memoryId s).filter fun row ↦ row.tenantId = tenantId).mergeSort
        fun a b ↦ createdLe (a.createdAt, a.id) (b.createdAt, b.id)
      links := (s.links.rows.filter fun row ↦ row.tenantId = tenantId &&
        (row.sourceMemoryId = memoryId || row.targetMemoryId = memoryId)).mergeSort
          fun a b ↦ createdLe (a.createdAt, a.id) (b.createdAt, b.id) }

def listMemoriesForEmbedding (tenantId agentId : UUID) (userId : Option UUID)
    (s : LongTermStore) : List Memory :=
  (s.memories.rows.filter fun row ↦ row.tenantId = tenantId && row.agentId = agentId &&
    row.status = .active && row.content.isSome &&
    (userId.isNone || row.userId = userId)).mergeSort fun a b ↦ a.id ≤ b.id

def getIndexJob (tenantId agentId jobId : UUID) (s : LongTermStore) : Option MemoryIndexJob :=
  (s.indexJobs.find? jobId).filter fun row ↦ row.tenantId = tenantId && row.agentId = agentId

def commit (answer : Answer) : Option LongTermStore → Session LongTermStore Answer
  | none => .error .integrityError
  | some s => .ok (answer, s)

def memoryModel (memory : Memory) : Pending LongTermMapper LongTermStore :=
  ⟨.memoryModel, (·.insertMemory memory)⟩

def changedMemory (memoryId : UUID) (f : Update Memory.id) :
    Pending LongTermMapper LongTermStore :=
  ⟨.memoryModel, fun s ↦ some (s.updateMemory memoryId f)⟩

def sourceModel (source : MemorySource) : Pending LongTermMapper LongTermStore :=
  ⟨.memorySourceModel, (·.insertSource source)⟩

def embeddingModel (embedding : MemoryEmbedding) : Pending LongTermMapper LongTermStore :=
  ⟨.memoryEmbeddingModel, (·.insertEmbedding embedding)⟩

def linkModel (link : MemoryLink) : Pending LongTermMapper LongTermStore :=
  ⟨.memoryLinkModel, (·.insertLink link)⟩

def createMemory (memory : Memory) (sources : List MemorySource) (embedding : MemoryEmbedding)
    (s : LongTermStore) : Session LongTermStore Answer :=
  match s.memories.find? memory.id with
  | some existing =>
    if existing.tenantId ≠ memory.tenantId ∨ existing.agentId ≠ memory.agentId then
      .error (.valueError "记忆幂等 ID 已被其他作用域占用")
    else .ok (.detail ⟨existing, sourcesOf memory.id s, []⟩, s)
  | none =>
    commit (.detail ⟨memory, sources, []⟩) <|
      flush longTermMappers
        (memoryModel memory :: (sources.map sourceModel ++ [embeddingModel embedding])) s

def setConfirmation (memoryId tenantId agentId : UUID) (confirmation : MemoryConfirmation)
    (confidence : ℚ) (updatedAt : Datetime) (s : LongTermStore) : Session LongTermStore Answer :=
  match lockedMemory memoryId tenantId agentId s with
  | none => .ok (.none, s)
  | some row =>
    if row.status ≠ .active then .ok (.none, s)
    else
      let f := confirmed confirmation confidence updatedAt
      .ok (.memory (f row), s.updateMemory memoryId f)

def correctMemory (sourceMemoryId : UUID) (replacement : Memory)
    (correctionSource : MemorySource) (replacementEmbedding : MemoryEmbedding)
    (link : MemoryLink) (s : LongTermStore) : Session LongTermStore Answer :=
  match lockedMemory sourceMemoryId replacement.tenantId replacement.agentId s with
  | none => .ok (.none, s)
  | some row =>
    if row.status ≠ .active then .ok (.none, s)
    else
      commit (.detail ⟨replacement, [correctionSource], [link]⟩) <|
        flush longTermMappers
          [changedMemory sourceMemoryId (superseded replacement.updatedAt),
            memoryModel replacement, sourceModel correctionSource,
            embeddingModel replacementEmbedding, linkModel link] s

def forgetMemory (memoryId tenantId agentId : UUID) (updatedAt : Datetime) (s : LongTermStore) :
    Session LongTermStore Answer :=
  match lockedMemory memoryId tenantId agentId s with
  | none => .ok (.none, s)
  | some row =>
    .ok (.memory (forgotten updatedAt row),
      { s.updateMemory memoryId (forgotten updatedAt) with
        sources := s.sources.updateWhere
          (fun row ↦ row.memoryId = memoryId && row.tenantId = tenantId) withoutExcerpt
        embeddings := s.embeddings.deleteWhere
          fun row ↦ row.memoryId = memoryId && row.tenantId = tenantId })

def createIndexJob (job : MemoryIndexJob) (s : LongTermStore) : Session LongTermStore Answer :=
  commit (.job job) ((s.indexJobs.insert? job).map fun indexJobs ↦ { s with indexJobs })

def updateIndexJob (job : MemoryIndexJob) (s : LongTermStore) : Session LongTermStore Answer :=
  match (s.indexJobs.find? job.id).filter fun row ↦ row.tenantId = job.tenantId with
  | none => .error (.valueError "记忆索引任务不存在")
  | some _ =>
    .ok (.job job,
      { s with
        indexJobs := s.indexJobs.updateWhere (fun row ↦ row.id = job.id) (jobUpdated job) })

def replaceEmbedding (memoryId tenantId : UUID) (embedding : MemoryEmbedding)
    (updatedAt : Datetime) (s : LongTermStore) : Session LongTermStore Answer :=
  match (s.memories.find? memoryId).filter fun row ↦
    row.tenantId = tenantId && row.status = .active with
  | none => .ok (.none, s)
  | some _ =>
    let inactive := { s with
      embeddings := s.embeddings.updateWhere
        (fun row ↦ row.memoryId = memoryId && row.active) deactivated }
    let current := inactive.embeddings.rows.find? fun row ↦
      row.memoryId = memoryId && row.embeddingVersion = embedding.embeddingVersion
    let written :=
      match current with
      | none => inactive.insertEmbedding embedding
      | some current => some { inactive with
        embeddings := inactive.embeddings.updateWhere (fun row ↦ row.id = current.id)
          (reencoded embedding) }
    commit .none <|
      written.map (·.updateMemory memoryId (reembedded embedding.embeddingVersion updatedAt))

def write : Write → LongTermStore → Session LongTermStore Answer
  | .createMemory memory sources embedding => createMemory memory sources embedding
  | .setConfirmation memoryId tenantId agentId confirmation confidence updatedAt =>
    setConfirmation memoryId tenantId agentId confirmation confidence updatedAt
  | .correctMemory sourceMemoryId replacement correctionSource replacementEmbedding link =>
    correctMemory sourceMemoryId replacement correctionSource replacementEmbedding link
  | .forgetMemory memoryId tenantId agentId updatedAt =>
    forgetMemory memoryId tenantId agentId updatedAt
  | .createIndexJob job => createIndexJob job
  | .updateIndexJob job => updateIndexJob job
  | .replaceEmbedding memoryId tenantId embedding updatedAt =>
    replaceEmbedding memoryId tenantId embedding updatedAt

def repository : MemoryRepository LongTermStore where
  getMemoryDetail := getMemoryDetail
  listMemoriesForEmbedding := listMemoriesForEmbedding
  getIndexJob := getIndexJob
  write := write

end SqlAlchemyLongTermMemory

/-- The dictionaries of `InMemoryMemoryRepository`. The lists under a memory's id are empty where
the key is absent. -/
structure MemoryDictionaries where
  memories : Table Memory.id
  sources : UUID → List MemorySource
  links : Table MemoryLink.id
  embeddings : UUID → List MemoryEmbedding
  indexJobs : Table MemoryIndexJob.id

namespace InMemoryLongTermMemory

def empty : MemoryDictionaries := ⟨.empty, fun _ ↦ [], .empty, fun _ ↦ [], .empty⟩

def scopedMemory (memoryId tenantId agentId : UUID) (s : MemoryDictionaries) : Option Memory :=
  (s.memories.find? memoryId).filter fun row ↦ row.tenantId = tenantId && row.agentId = agentId

def getMemoryDetail (memoryId tenantId agentId : UUID) (s : MemoryDictionaries) :
    Option MemoryDetail :=
  (scopedMemory memoryId tenantId agentId s).map fun memory ↦
    { memory
      sources := s.sources memoryId
      links := s.links.rows.filter fun row ↦ row.tenantId = tenantId &&
        (row.sourceMemoryId = memoryId || row.targetMemoryId = memoryId) }

def listMemoriesForEmbedding (tenantId agentId : UUID) (userId : Option UUID)
    (s : MemoryDictionaries) : List Memory :=
  s.memories.rows.filter fun row ↦ row.tenantId = tenantId && row.agentId = agentId &&
    row.status = .active && row.content.isSome && (userId.isNone || row.userId = userId)

def getIndexJob (tenantId agentId jobId : UUID) (s : MemoryDictionaries) :
    Option MemoryIndexJob :=
  (s.indexJobs.find? jobId).filter fun row ↦ row.tenantId = tenantId && row.agentId = agentId

def createMemory (memory : Memory) (sources : List MemorySource) (embedding : MemoryEmbedding)
    (s : MemoryDictionaries) : Answer × MemoryDictionaries :=
  (.detail ⟨memory, sources, []⟩,
    { s with
      memories := s.memories.put memory
      sources := Function.update s.sources memory.id sources
      embeddings := Function.update s.embeddings memory.id [embedding] })

def setConfirmation (memoryId tenantId agentId : UUID) (confirmation : MemoryConfirmation)
    (confidence : ℚ) (updatedAt : Datetime) (s : MemoryDictionaries) :
    Answer × MemoryDictionaries :=
  match scopedMemory memoryId tenantId agentId s with
  | none => (.none, s)
  | some memory =>
    if memory.status ≠ .active then (.none, s)
    else
      let updated := confirmed confirmation confidence updatedAt memory
      (.memory updated, { s with memories := s.memories.put updated })

def correctMemory (sourceMemoryId : UUID) (replacement : Memory)
    (correctionSource : MemorySource) (replacementEmbedding : MemoryEmbedding)
    (link : MemoryLink) (s : MemoryDictionaries) : Answer × MemoryDictionaries :=
  match s.memories.find? sourceMemoryId with
  | none => (.none, s)
  | some source =>
    if source.status ≠ .active then (.none, s)
    else
      (.detail ⟨replacement, [correctionSource], [link]⟩,
        { s with
          memories := (s.memories.put (superseded replacement.updatedAt source)).put replacement
          sources := Function.update s.sources replacement.id [correctionSource]
          embeddings := Function.update s.embeddings replacement.id [replacementEmbedding]
          links := s.links.put link })

def forgetMemory (memoryId tenantId agentId : UUID) (updatedAt : Datetime)
    (s : MemoryDictionaries) : Answer × MemoryDictionaries :=
  match scopedMemory memoryId tenantId agentId s with
  | none => (.none, s)
  | some memory =>
    let row := forgotten updatedAt memory
    (.memory row,
      { s with
        memories := s.memories.put row
        sources := Function.update s.sources memoryId ((s.sources memoryId).map withoutExcerpt)
        embeddings := Function.update s.embeddings memoryId [] })

def replaceEmbedding (memoryId tenantId : UUID) (embedding : MemoryEmbedding)
    (updatedAt : Datetime) (s : MemoryDictionaries) : Answer × MemoryDictionaries :=
  match (s.memories.find? memoryId).filter fun row ↦ row.tenantId = tenantId with
  | none => (.none, s)
  | some memory =>
    let previous := ((s.embeddings memoryId).map deactivated).filter
      fun item ↦ item.embeddingVersion ≠ embedding.embeddingVersion
    (.none,
      { s with
        embeddings := Function.update s.embeddings memoryId (previous ++ [embedding])
        memories := s.memories.put (reembedded embedding.embeddingVersion updatedAt memory) })

def putIndexJob (job : MemoryIndexJob) (s : MemoryDictionaries) : Answer × MemoryDictionaries :=
  (.job job, { s with indexJobs := s.indexJobs.put job })

def write : Write → MemoryDictionaries → Answer × MemoryDictionaries
  | .createMemory memory sources embedding => createMemory memory sources embedding
  | .setConfirmation memoryId tenantId agentId confirmation confidence updatedAt =>
    setConfirmation memoryId tenantId agentId confirmation confidence updatedAt
  | .correctMemory sourceMemoryId replacement correctionSource replacementEmbedding link =>
    correctMemory sourceMemoryId replacement correctionSource replacementEmbedding link
  | .forgetMemory memoryId tenantId agentId updatedAt =>
    forgetMemory memoryId tenantId agentId updatedAt
  | .createIndexJob job | .updateIndexJob job => putIndexJob job
  | .replaceEmbedding memoryId tenantId embedding updatedAt =>
    replaceEmbedding memoryId tenantId embedding updatedAt

def repository : MemoryRepository MemoryDictionaries where
  getMemoryDetail := getMemoryDetail
  listMemoriesForEmbedding := listMemoriesForEmbedding
  getIndexJob := getIndexJob
  write := fun w s ↦ .ok (write w s)

end InMemoryLongTermMemory

end CyberNetizen.Infrastructure
