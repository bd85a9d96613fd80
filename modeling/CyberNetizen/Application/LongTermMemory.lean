import CyberNetizen.Application.MemoryService

namespace CyberNetizen.Application.LongTermMemory

open Domain MemoryService

inductive RepositoryFailure
  | valueError (message : String)
  | integrityError
  | fault

abbrev Session (σ α : Type) := Except RepositoryFailure (α × σ)

/-- The writes of the long-term part of `MemoryRepository`, with their arguments. -/
inductive Write
  | createMemory (memory : Memory) (sources : List MemorySource) (embedding : MemoryEmbedding)
  | setConfirmation (memoryId tenantId agentId : UUID) (confirmation : MemoryConfirmation)
      (confidence : ℚ) (updatedAt : Datetime)
  | correctMemory (sourceMemoryId : UUID) (replacement : Memory)
      (correctionSource : MemorySource) (replacementEmbedding : MemoryEmbedding)
      (link : MemoryLink)
  | forgetMemory (memoryId tenantId agentId : UUID) (updatedAt : Datetime)
  | createIndexJob (job : MemoryIndexJob)
  | updateIndexJob (job : MemoryIndexJob)
  | replaceEmbedding (memoryId tenantId : UUID) (embedding : MemoryEmbedding)
      (updatedAt : Datetime)

/-- What a write answers; `none` stands for the `None` of a row that is not there or not in the
state the write asks for. -/
inductive Answer
  | detail (detail : MemoryDetail)
  | memory (memory : Memory)
  | job (job : MemoryIndexJob)
  | none

structure MemoryRepository (σ : Type) where
  getMemoryDetail (memoryId tenantId agentId : UUID) : σ → Option MemoryDetail
  listMemoriesForEmbedding (tenantId agentId : UUID) (userId : Option UUID) : σ → List Memory
  getIndexJob (tenantId agentId jobId : UUID) : σ → Option MemoryIndexJob
  write : Write → σ → Session σ Answer

structure EmbeddingEncoder where
  version : String
  dimensions : ℕ
  encode : String → List ℚ

structure MemorySourceDraft where
  kind : MemorySourceKind
  sourceId : String
  excerpt : Option String
  isVerbatim : Bool
  occurredAt : Datetime

/-- The arguments of `create_memory`; `entityId` or else `generatedId` is the id. -/
structure CreateMemory where
  tenantId : UUID
  agentId : UUID
  userId : Option UUID
  conversationId : Option UUID
  episodeId : Option UUID
  kind : MemoryKind
  visibility : MemoryVisibility
  content : String
  eventAt : Datetime
  confidence : ℚ
  importance : ℚ
  emotionalWeight : ℚ
  sensitivity : MemorySensitivity
  confirmation : MemoryConfirmation
  sources : List MemorySourceDraft
  actorId : UUID
  entityId : Option UUID
  generatedId : UUID

/-- The arguments of `correct_memory` and the three ids that `uuid4()` draws for it. -/
structure CorrectMemory where
  memoryId : UUID
  tenantId : UUID
  agentId : UUID
  content : String
  eventAt : Datetime
  actorId : UUID
  note : Option String
  replacementId : UUID
  correctionSourceId : UUID
  linkId : UUID

inductive Failure
  | memoryError (error : MemoryError)
  | conflict (message : String)
  | repository (failure : RepositoryFailure)

def optionalText (value : Option String) (maximum : ℕ) : Except MemoryError (Option String) :=
  match value with
  | none => .ok none
  | some value =>
    let normalized := strip value
    if normalized.isEmpty then .ok none
    else if maximum < normalized.length then
      .error (.validation s!"文本不能超过 {maximum} 个字符")
    else .ok (some normalized)

def unitInterval (value : ℚ) (name : String) : Except MemoryError Unit :=
  if 0 ≤ value ∧ value ≤ 1 then .ok ()
  else .error (.validation s!"{name}必须位于 0 到 1 之间")

def validateMemoryValues (command : CreateMemory) : Except MemoryError Unit := do
  if command.visibility = .user ∧ command.userId.isNone then
    throw (.validation "用户私有记忆必须绑定用户")
  unitInterval command.confidence "置信度"
  unitInterval command.importance "重要性"
  if ¬(-1 ≤ command.emotionalWeight ∧ command.emotionalWeight ≤ 1) then
    throw (.validation "情绪权重必须位于 -1 到 1 之间")
  if command.sources.isEmpty then
    throw (.validation "每条长期记忆至少需要一个可追溯来源")

def sourceRecord (draft : MemorySourceDraft) (tenantId memoryId : UUID) (createdAt : Datetime)
    (recordId : UUID) : Except MemoryError MemorySource := do
  let sourceId ← requiredText draft.sourceId "来源 ID" 255
  let excerpt ← optionalText draft.excerpt 2000
  if draft.isVerbatim ∧ excerpt.isNone then
    throw (.validation "逐字来源必须提供来源摘录")
  return {
    id := recordId
    tenantId
    memoryId
    kind := draft.kind
    sourceId
    excerpt
    isVerbatim := draft.isVerbatim
    occurredAt := draft.occurredAt
    createdAt }

section

variable (uuid5 : UUID → String → UUID) (encoder : EmbeddingEncoder)

def embedding (memory : Memory) (content : String) (now : Datetime) : MemoryEmbedding where
  id := uuid5 memory.id s!"embedding:{encoder.version}"
  tenantId := memory.tenantId
  memoryId := memory.id
  embeddingVersion := encoder.version
  dimensions := encoder.dimensions
  vector := encoder.encode content
  active := true
  createdAt := now

def sourceRecords (drafts : List MemorySourceDraft) (tenantId memoryId : UUID) (now : Datetime) :
    Except MemoryError (List MemorySource) :=
  drafts.zipIdx.mapM fun (draft, index) ↦
    sourceRecord draft tenantId memoryId now (uuid5 memoryId s!"source:{index}")

def CreateMemory.memoryId (command : CreateMemory) : UUID :=
  command.entityId.getD command.generatedId

/-- The memory that `create_memory` asks the repository to store. -/
def created (command : CreateMemory) (normalized : String) (now : Datetime) : Memory where
  id := command.memoryId
  lineageId := command.memoryId
  tenantId := command.tenantId
  agentId := command.agentId
  userId := command.userId
  conversationId := command.conversationId
  episodeId := command.episodeId
  kind := command.kind
  visibility := command.visibility
  content := some normalized
  eventAt := command.eventAt
  confidence := command.confidence
  importance := command.importance
  emotionalWeight := command.emotionalWeight
  sensitivity := command.sensitivity
  confirmation := command.confirmation
  status := .active
  version := 1
  embeddingVersion := some encoder.version
  createdBy := command.actorId
  createdAt := now
  updatedAt := now

def prepareCreate (command : CreateMemory) (now : Datetime) : Except MemoryError Write := do
  let normalized ← requiredText command.content "记忆内容" 8000
  validateMemoryValues command
  let memory := created encoder command normalized now
  let sources ← sourceRecords uuid5 command.sources command.tenantId command.memoryId now
  return .createMemory memory sources (embedding uuid5 encoder memory normalized now)

/-- The version that replaces the memory that was read. -/
def replacement (source : Memory) (command : CorrectMemory) (normalized : String)
    (now : Datetime) : Memory :=
  { source with
    id := command.replacementId
    content := some normalized
    eventAt := command.eventAt
    confirmation := .confirmed
    status := .active
    version := source.version + 1
    embeddingVersion := some encoder.version
    createdBy := command.actorId
    createdAt := now
    updatedAt := now }

def correctionSource (command : CorrectMemory) (now : Datetime) : MemorySource where
  id := command.correctionSourceId
  tenantId := command.tenantId
  memoryId := command.replacementId
  kind := .adminCorrection
  sourceId := toString command.memoryId
  excerpt := none
  isVerbatim := false
  occurredAt := now
  createdAt := now

def supersedesLink (command : CorrectMemory) (note : Option String) (now : Datetime) :
    MemoryLink where
  id := command.linkId
  tenantId := command.tenantId
  sourceMemoryId := command.replacementId
  targetMemoryId := command.memoryId
  kind := .supersedes
  note
  createdBy := command.actorId
  createdAt := now

def notFound (memoryId : UUID) : Failure :=
  .memoryError (.notFound s!"记忆不存在：{memoryId}")

/-- `correct_memory` between its read and its write. -/
def prepareCorrect (command : CorrectMemory) (now : Datetime) (detail : Option MemoryDetail) :
    Except Failure Write :=
  match detail with
  | none => .error (notFound command.memoryId)
  | some source =>
    if source.memory.status ≠ .active then .error (.conflict "只有生效记忆可以创建纠正版本")
    else
      match requiredText command.content "纠正后的记忆内容" 8000, optionalText command.note 1000 with
      | .error error, _ => .error (.memoryError error)
      | .ok _, .error error => .error (.memoryError error)
      | .ok normalized, .ok note =>
        let updated := replacement encoder source.memory command normalized now
        .ok (.correctMemory command.memoryId updated (correctionSource command now)
          (embedding uuid5 encoder updated normalized now) (supersedesLink command note now))

end

def adjusted (confirmation : MemoryConfirmation) (confidence : ℚ) : ℚ :=
  match confirmation with
  | .confirmed => max (85 / 100) confidence
  | .disputed => min (35 / 100) confidence
  | .unconfirmed => confidence

/-- `set_confirmation` between its read and its write. -/
def prepareConfirmation (memoryId tenantId agentId : UUID) (confirmation : MemoryConfirmation)
    (now : Datetime) (detail : Option MemoryDetail) : Except Failure Write :=
  match detail with
  | none => .error (notFound memoryId)
  | some detail =>
    if detail.memory.status ≠ .active then
      .error (.conflict "只有生效记忆可以确认或标记争议")
    else
      .ok (.setConfirmation memoryId tenantId agentId confirmation
        (adjusted confirmation detail.memory.confidence) now)

/-- What a caller asks of the service; the last id of `requestRebuild` is drawn by `uuid4()`. -/
inductive Request
  | createMemory (command : CreateMemory)
  | setConfirmation (memoryId tenantId agentId : UUID) (confirmation : MemoryConfirmation)
  | correctMemory (command : CorrectMemory)
  | forgetMemory (memoryId tenantId agentId : UUID)
  | requestEmbeddingRebuild (tenantId agentId : UUID) (userId : Option UUID) (actorId : UUID)
      (jobId : UUID)
  | runEmbeddingRebuild (tenantId agentId jobId : UUID)

/-- Where a call stands: the session that comes next, with its arguments. -/
inductive Phase
  | start
  /-- The only write of a call, and its last session. -/
  | write (write : Write)
  | listMemories (job : MemoryIndexJob)
  | startJob (running : MemoryIndexJob) (memories : List Memory)
  | replaceEmbedding (running : MemoryIndexJob) (memory : Memory) (content : String)
      (rest : List Memory)
  | recordProgress (running : MemoryIndexJob) (rest : List Memory)
  | completeJob (completed : MemoryIndexJob)
  | failJob (failed : MemoryIndexJob) (error : RepositoryFailure)
  | returned (answer : Answer)
  | raised (failure : Failure)

structure Call where
  request : Request
  phase : Phase

/-- The time of a session, and whether it raises without effect. A lost connection, a foreign key
on a table outside the store and a row that another session inserted since this one looked for it
are such. -/
structure Choice where
  clock : Datetime
  faulty : Bool := false

def indexJob (encoder : EmbeddingEncoder) (tenantId agentId : UUID) (userId : Option UUID)
    (actorId jobId : UUID) (totalItems : ℕ) (now : Datetime) : MemoryIndexJob where
  id := jobId
  tenantId
  agentId
  userId
  targetEmbeddingVersion := encoder.version
  status := .pending
  totalItems
  processedItems := 0
  errorCode := none
  createdBy := actorId
  createdAt := now
  startedAt := none
  completedAt := none

def jobRunning (job : MemoryIndexJob) (totalItems : ℕ) (now : Datetime) : MemoryIndexJob :=
  { job with
    status := .running
    totalItems
    processedItems := 0
    errorCode := none
    startedAt := some now
    completedAt := none }

def jobFailed (running : MemoryIndexJob) (errorCode : String) (now : Datetime) : MemoryIndexJob :=
  { running with status := .failed, errorCode := some errorCode, completedAt := some now }

def jobCompleted (running : MemoryIndexJob) (now : Datetime) : MemoryIndexJob :=
  { running with status := .completed, completedAt := some now }

/-- `type(error).__name__`. -/
def RepositoryFailure.name : RepositoryFailure → String
  | .valueError _ => "ValueError"
  | .integrityError => "IntegrityError"
  | .fault => "OperationalError"

/-- The loop of `run_embedding_rebuild` up to its next session. -/
def nextMemory (running : MemoryIndexJob) (now : Datetime) : List Memory → Phase
  | [] => .completeJob (jobCompleted running now)
  | memory :: rest =>
    match memory.content with
    | none => nextMemory running now rest
    | some content => .replaceEmbedding running memory content rest

/-- What `set_confirmation`, `correct_memory` and `forget_memory` make of the answer. -/
def conclude (request : Request) (answer : Answer) : Phase :=
  match answer, request with
  | .none, .correctMemory _ => .raised (.conflict "记忆已被其他操作修改，请刷新后重试")
  | .none, .setConfirmation memoryId .. => .raised (notFound memoryId)
  | .none, .forgetMemory memoryId .. => .raised (notFound memoryId)
  | answer, _ => .returned answer

def proceed (prepared : Except Failure Write) : Phase :=
  match prepared with
  | .error failure => .raised failure
  | .ok write => .write write

section

variable {σ : Type} (uuid5 : UUID → String → UUID) (encoder : EmbeddingEncoder)
  (repository : MemoryRepository σ)

/-- A call up to its first session, with that session where it reads. -/
def begin (request : Request) (choice : Choice) (s : σ) : Phase :=
  match request with
  | .createMemory command =>
    proceed ((prepareCreate uuid5 encoder command choice.clock).mapError .memoryError)
  | .setConfirmation memoryId tenantId agentId confirmation =>
    proceed (prepareConfirmation memoryId tenantId agentId confirmation choice.clock
      (repository.getMemoryDetail memoryId tenantId agentId s))
  | .correctMemory command =>
    proceed (prepareCorrect uuid5 encoder command choice.clock
      (repository.getMemoryDetail command.memoryId command.tenantId command.agentId s))
  | .forgetMemory memoryId tenantId agentId =>
    .write (.forgetMemory memoryId tenantId agentId choice.clock)
  | .requestEmbeddingRebuild tenantId agentId userId actorId jobId =>
    let memories := repository.listMemoriesForEmbedding tenantId agentId userId s
    .write (.createIndexJob
      (indexJob encoder tenantId agentId userId actorId jobId memories.length choice.clock))
  | .runEmbeddingRebuild tenantId agentId jobId =>
    match repository.getIndexJob tenantId agentId jobId s with
    | none => .raised (.memoryError (.notFound s!"记忆索引任务不存在：{jobId}"))
    | some job => if job.status = .completed then .returned (.job job) else .listMemories job

/-- The write that the next session of a call is. -/
def issued (phase : Phase) (choice : Choice) : Option Write :=
  match phase with
  | .write write => some write
  | .startJob running _ | .recordProgress running _ => some (.updateIndexJob running)
  | .replaceEmbedding running memory content _ =>
    some (.replaceEmbedding memory.id running.tenantId
      (embedding uuid5 encoder memory content choice.clock) choice.clock)
  | .completeJob job | .failJob job _ => some (.updateIndexJob job)
  | .start | .listMemories _ | .returned _ | .raised _ => none

/-- What a call makes of the outcome of its write. -/
def resume (call : Call) (choice : Choice) (outcome : Except RepositoryFailure Answer) : Phase :=
  match call.phase, outcome with
  | .write _, .ok answer => conclude call.request answer
  | .startJob running memories, .ok _ => nextMemory running choice.clock memories
  | .replaceEmbedding running _ _ rest, .ok _ =>
    .recordProgress { running with processedItems := running.processedItems + 1 } rest
  | .recordProgress running rest, .ok _ => nextMemory running choice.clock rest
  | .completeJob _, .ok answer => .returned answer
  | .failJob _ error, .ok _ => .raised (.repository error)
  | .replaceEmbedding running .., .error error | .recordProgress running _, .error error =>
    .failJob (jobFailed running error.name choice.clock) error
  | _, .error error => .raised (.repository error)
  | phase, .ok _ => phase

/-- The next session of a call and what the call makes of it. -/
def advance (call : Call) (choice : Choice) (s : σ) : Call × σ :=
  match call.phase, issued uuid5 encoder call.phase choice with
  | _, some write =>
    match if choice.faulty then .error .fault else repository.write write s with
    | .error error => ({ call with phase := resume call choice (.error error) }, s)
    | .ok (answer, s') => ({ call with phase := resume call choice (.ok answer) }, s')
  | .start, none => ({ call with phase := begin uuid5 encoder repository call.request choice s }, s)
  | .listMemories job, none =>
    let memories := repository.listMemoriesForEmbedding job.tenantId job.agentId job.userId s
    let running := jobRunning job memories.length choice.clock
    ({ call with phase := .startJob running memories }, s)
  | _, none => (call, s)

end

end CyberNetizen.Application.LongTermMemory
