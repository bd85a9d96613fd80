import Mathlib.Data.Prod.Lex
import Mathlib.Order.WithBot
import Mathlib.Tactic.NormNum
import CyberNetizen.Application.LongTermMemory
import CyberNetizen.Infrastructure.MemorySearch

namespace CyberNetizen.Application.MemoryService

open Domain Infrastructure Cognition LongTermMemory

inductive RecallError
  | memoryError (error : MemoryError)
  | valueError (message : String)

/-- The arguments of `recall`. -/
structure RecallRequest where
  tenantId : UUID
  agentId : UUID
  userId : UUID
  query : String
  limit : ℤ
  candidatePool : ℤ
  maximumSensitivity : MemorySensitivity
  recencyHalfLifeDays : ℚ
  weights : HybridRecallWeights
  now : Option Datetime

/-- `_limit`. -/
def limitOf (value : ℤ) : Except MemoryError ℤ :=
  if 1 ≤ value ∧ value ≤ 200 then .ok value
  else .error (.validation "分页数量必须位于 1 到 200 之间")

variable (encoder : EmbeddingEncoder) (math : FloatMath)

def searchRequest (request : RecallRequest) (normalized : String) : SearchRequest where
  tenantId := request.tenantId
  agentId := request.agentId
  userId := request.userId
  query := normalized
  queryEmbedding := encoder.encode normalized
  embeddingVersion := encoder.version
  maximumSensitivity := request.maximumSensitivity
  limit := request.candidatePool.toNat

/-- `recall`, with the `search_candidates` of the repository; `clock` is read if no time is given. -/
def «recall» (searchCandidates : SearchRequest → List RawMemoryCandidate) (request : RecallRequest)
    (clock : Datetime) : Except RecallError (List MemoryRecall) :=
  match requiredText request.query "召回查询" 8000 with
  | .error error => .error (.memoryError error)
  | .ok normalized =>
    match limitOf request.limit with
    | .error error => .error (.memoryError error)
    | .ok maximum =>
      if request.candidatePool < maximum ∨ 500 < request.candidatePool then
        .error (.memoryError (.validation "候选池必须不小于召回数量且不能超过 500"))
      else
        match HybridMemoryRanker.rank math (searchCandidates (searchRequest encoder request normalized))
            (request.now.getD clock) maximum request.recencyHalfLifeDays request.weights with
        | .error message => .error (.valueError message)
        | .ok recalled => .ok recalled

theorem recall_congr {search search' : SearchRequest → List RawMemoryCandidate}
    (request : RecallRequest) (clock : Datetime)
    (h : ∀ normalized, search (searchRequest encoder request normalized) =
      search' (searchRequest encoder request normalized)) :
    «recall» encoder math search request clock = «recall» encoder math search' request clock := by
  unfold «recall»
  cases requiredText request.query "召回查询" 8000 with
  | error error => rfl
  | ok normalized =>
    simp only [h]

end CyberNetizen.Application.MemoryService

namespace CyberNetizen.Memory

open Domain Infrastructure KeyedTable Cognition Ranking
open Application.MemoryService Application.LongTermMemory

structure Viewer where
  scope : Scope
  maximumSensitivity : MemorySensitivity

/-- A memory that the recall may show: a memory of the tenant that is active, has its content and is
no more sensitive than was asked for, and that is the tenant's, this agent's, or this agent's about
this user. -/
def Visible (viewer : Viewer) (memory : Domain.Memory) : Prop :=
  memory.tenantId = viewer.scope.tenantId ∧ memory.status = .active ∧ memory.content ≠ none ∧
    sensitivityOrder memory.sensitivity ≤ sensitivityOrder viewer.maximumSensitivity ∧
    (memory.visibility = .tenant ∨
      (memory.visibility = .agent ∧ memory.agentId = viewer.scope.agentId) ∨
      (memory.visibility = .user ∧ memory.agentId = viewer.scope.agentId ∧
        memory.userId = some viewer.scope.userId))

instance (viewer : Viewer) : DecidablePred (Visible viewer) :=
  fun _ ↦ inferInstanceAs (Decidable (_ ∧ _ ∧ _ ∧ _ ∧ _))

def viewerOf (request : SearchRequest) : Viewer := ⟨request.scope, request.maximumSensitivity⟩

def recallViewer (request : RecallRequest) : Viewer :=
  ⟨⟨request.tenantId, request.agentId, request.userId⟩, request.maximumSensitivity⟩

section inMemory

open InMemorySearch

/-- Two dictionaries hold the same visible memories, in the same order of insertion, with the same
embeddings, and the same relationship of this user. -/
structure AgreeInMemory (viewer : Viewer) (s t : MemoryDictionaries)
    (relationships relationships' : Table Relationship.scope) : Prop where
  memories : s.memories.rows.filter (Visible viewer) = t.memories.rows.filter (Visible viewer)
  embeddings : ∀ memory ∈ s.memories, Visible viewer memory →
    s.embeddings memory.id = t.embeddings memory.id
  relationship : relationships.find? viewer.scope = relationships'.find? viewer.scope

variable {casefold : String → String} {math : FloatMath} {request : SearchRequest}
  {memory : Domain.Memory} {embeddings embeddings' : UUID → List MemoryEmbedding}
  {relationship : Option Relationship}

theorem visible_iff : visible memory request = true ↔ memory.tenantId = request.tenantId ∧
    (memory.visibility = .tenant ∨ (memory.visibility = .agent ∧ memory.agentId = request.agentId) ∨
      (memory.visibility = .user ∧ memory.agentId = request.agentId ∧
        memory.userId = some request.userId)) := by
  unfold visible
  cases memory.visibility <;> simp

/-- The loop takes visible memories only. -/
theorem visible_of_candidate {item : RawMemoryCandidate}
    (h : candidate? casefold math embeddings relationship request memory = some item) :
    Visible (viewerOf request) memory := by
  unfold candidate? at h
  cases hvisible : visible memory request with
  | false =>
    rw [hvisible, Bool.not_false, if_pos rfl] at h
    cases h
  | true =>
    rw [hvisible, Bool.not_true, if_neg Bool.false_ne_true] at h
    obtain ⟨htenant, howner⟩ := visible_iff.mp hvisible
    cases hstatus : memory.status with
    | superseded | forgotten =>
      rw [hstatus] at h
      cases h
    | active =>
      cases hcontent : memory.content with
      | none =>
        rw [hstatus, hcontent] at h
        cases h
      | some content =>
        rw [hstatus, hcontent] at h
        dsimp only at h
        by_cases hsensitive :
            sensitivityOrder request.maximumSensitivity < sensitivityOrder memory.sensitivity
        · rw [if_pos hsensitive] at h
          cases h
        · refine ⟨htenant, hstatus, ?_, Nat.le_of_not_lt hsensitive, howner⟩
          rw [hcontent]
          exact Option.some_ne_none content

theorem candidate_congr (h : embeddings memory.id = embeddings' memory.id) :
    candidate? casefold math embeddings relationship request memory =
      candidate? casefold math embeddings' relationship request memory := by
  unfold candidate? candidateOf
  rw [h]

theorem filterMap_visible (l : List Domain.Memory) :
    l.filterMap (candidate? casefold math embeddings relationship request) =
      (l.filter (Visible (viewerOf request))).filterMap
        (candidate? casefold math embeddings relationship request) := by
  rw [List.filterMap_filter]
  refine List.filterMap_congr fun memory _ ↦ ?_
  by_cases hvisible : Visible (viewerOf request) memory
  · rw [if_pos (decide_eq_true hvisible)]
  · rw [if_neg (by simpa using hvisible)]
    cases hcandidate : candidate? casefold math embeddings relationship request memory with
    | none => rfl
    | some item => exact absurd (visible_of_candidate hcandidate) hvisible

/-- The pool is the same before and so after it is cut: nothing that is not visible takes a place. -/
theorem AgreeInMemory.searchCandidates {s t : MemoryDictionaries}
    {relationships relationships' : Table Relationship.scope}
    (h : AgreeInMemory (viewerOf request) s t relationships relationships') :
    searchCandidates casefold math s relationships request =
      searchCandidates casefold math t relationships' request := by
  have hcandidates : s.memories.rows.filterMap
        (candidate? casefold math s.embeddings (relationships.find? request.scope) request) =
      t.memories.rows.filterMap
        (candidate? casefold math t.embeddings (relationships'.find? request.scope) request) := by
    have hrelationship : relationships.find? request.scope = relationships'.find? request.scope :=
      h.relationship
    rw [filterMap_visible s.memories.rows, filterMap_visible t.memories.rows, ← h.memories,
      ← hrelationship]
    refine List.filterMap_congr fun memory hmemory ↦ ?_
    obtain ⟨hmemory, hvisible⟩ := List.mem_filter.mp hmemory
    exact candidate_congr (h.embeddings memory hmemory (of_decide_eq_true hvisible))
  unfold InMemorySearch.searchCandidates
  simp only [hcandidates]

end inMemory

section sql

open SqlAlchemySearch

/-- Two databases hold the same visible memories, with the same embeddings, and the same
relationship of this user. -/
structure AgreeSql (viewer : Viewer) (s t : LongTermStore)
    (relationships relationships' : Table Relationship.scope) : Prop where
  memories : ∀ memory, Visible viewer memory → (memory ∈ s.memories ↔ memory ∈ t.memories)
  embeddings : ∀ memory ∈ s.memories, Visible viewer memory → ∀ embedding,
    embedding.memoryId = memory.id → (embedding ∈ s.embeddings ↔ embedding ∈ t.embeddings)
  relationship : relationships.find? viewer.scope = relationships'.find? viewer.scope

variable {scores : SqlScores} {tie : Row → Row → Bool} {request : SearchRequest}
  {memory : Domain.Memory} {s t : LongTermStore}
  {relationships relationships' : Table Relationship.scope}

theorem mem_allowedSensitivity {sensitivity : MemorySensitivity} :
    sensitivity ∈ allowedSensitivity request ↔
      sensitivityOrder sensitivity ≤ sensitivityOrder request.maximumSensitivity := by
  unfold allowedSensitivity
  rw [List.mem_filter, decide_eq_true_eq]
  refine and_iff_right ?_
  cases sensitivity <;> simp

theorem whereClause_iff : whereClause request memory = true ↔ Visible (viewerOf request) memory := by
  unfold whereClause visibility Visible
  simp only [decide_eq_true_eq, mem_allowedSensitivity]
  tauto

theorem joined_perm (h : ∀ embedding, embedding.memoryId = memory.id →
    (embedding ∈ s.embeddings ↔ embedding ∈ t.embeddings)) :
    (joined s.embeddings.rows request memory).Perm (joined t.embeddings.rows request memory) := by
  unfold SqlAlchemySearch.joined
  generalize hp : (fun row : MemoryEmbedding ↦ row.memoryId = memory.id &&
    row.tenantId = request.tenantId && row.active &&
    row.embeddingVersion = request.embeddingVersion) = p
  have hid : ∀ row, p row = true → row.memoryId = memory.id := by
    intro row hrow
    subst hp
    simp only [Bool.and_eq_true, decide_eq_true_eq] at hrow
    exact hrow.1.1.1
  have hmatching : (s.embeddings.rows.filter p).Perm (t.embeddings.rows.filter p) := by
    refine (List.perm_ext_iff_of_nodup (s.embeddings.nodup.of_map.filter _)
      (t.embeddings.nodup.of_map.filter _)).mpr fun row ↦ ?_
    rw [List.mem_filter, List.mem_filter]
    exact and_congr_left fun hrow ↦ h row (hid row hrow)
  dsimp only
  rw [hmatching.isEmpty_eq]
  by_cases hempty : (t.embeddings.rows.filter p).isEmpty = true
  · rw [if_pos hempty, if_pos hempty]
  · rw [if_neg hempty, if_neg hempty]
    exact hmatching.map _

theorem AgreeSql.rows (h : AgreeSql (viewerOf request) s t relationships relationships') :
    ((s.memories.rows.filter (whereClause request)).flatMap (joined s.embeddings.rows request)).Perm
      ((t.memories.rows.filter (whereClause request)).flatMap
        (joined t.embeddings.rows request)) := by
  have hmemories : (s.memories.rows.filter (whereClause request)).Perm
      (t.memories.rows.filter (whereClause request)) := by
    refine (List.perm_ext_iff_of_nodup (s.memories.nodup.of_map.filter _)
      (t.memories.nodup.of_map.filter _)).mpr fun memory ↦ ?_
    rw [List.mem_filter, List.mem_filter]
    exact and_congr_left fun hwhere ↦ h.memories memory (whereClause_iff.mp hwhere)
  refine hmemories.flatMap fun memory hmemory ↦ joined_perm ?_
  obtain ⟨hmemory, hwhere⟩ := List.mem_filter.mp hmemory
  exact h.embeddings memory hmemory (whereClause_iff.mp hwhere)

/-- A row of the join is known by its primary keys. -/
theorem row_eq_of_key {row row' : Row}
    (h : row ∈ (s.memories.rows.filter (whereClause request)).flatMap
      (joined s.embeddings.rows request))
    (h' : row' ∈ (s.memories.rows.filter (whereClause request)).flatMap
      (joined s.embeddings.rows request)) (hkey : rowKey row = rowKey row') : row = row' := by
  have hparts : ∀ {row : Row}, row ∈ (s.memories.rows.filter (whereClause request)).flatMap
      (joined s.embeddings.rows request) →
      row.1 ∈ s.memories ∧ ∀ embedding ∈ row.2, embedding ∈ s.embeddings := by
    intro row hrow
    obtain ⟨memory, hmemory, hjoined⟩ := List.mem_flatMap.mp hrow
    have hmem := (List.mem_filter.mp hmemory).1
    unfold SqlAlchemySearch.joined at hjoined
    dsimp only at hjoined
    split at hjoined
    · rw [List.mem_singleton.mp hjoined]
      exact ⟨hmem, fun _ h ↦ absurd h (Option.not_mem_none _)⟩
    · obtain ⟨embedding, hembedding, rfl⟩ := List.mem_map.mp hjoined
      refine ⟨hmem, fun e he ↦ ?_⟩
      obtain rfl := Option.some.inj he
      exact (List.mem_filter.mp hembedding).1
  obtain ⟨memory, embedding⟩ := row
  obtain ⟨memory', embedding'⟩ := row'
  obtain ⟨hmemory, hembedding⟩ := hparts h
  obtain ⟨hmemory', hembedding'⟩ := hparts h'
  obtain ⟨hid, hid'⟩ := Prod.mk.inj hkey
  obtain rfl := Table.eq_of_key_eq hmemory hmemory' hid
  cases embedding with
  | none =>
    cases embedding' with
    | none => rfl
    | some e => cases hid'
  | some e =>
    cases embedding' with
    | none => cases hid'
    | some e' =>
      have hsame := Table.eq_of_key_eq (hembedding e rfl) (hembedding' e' rfl)
        (Option.some.inj hid')
      rw [hsame]

theorem AgreeSql.searchCandidates (h : AgreeSql (viewerOf request) s t relationships relationships')
    (htie : Fixed SqlAlchemySearch.rowKey tie) : searchCandidates scores tie s relationships request =
      searchCandidates scores tie t relationships' request := by
  have horder : Fixed rowKey (rowLe scores tie request) := ((htie.byDesc _).byDesc _).byDesc _
  unfold SqlAlchemySearch.searchCandidates
  have hrelationship : relationships.find? request.scope = relationships'.find? request.scope :=
    h.relationship
  simp only [horder.mergeSort_eq h.rows fun _ ha _ hb ↦ row_eq_of_key ha hb, hrelationship]

end sql

section recalls

variable (casefold : String → String) (math : FloatMath) (encoder : EmbeddingEncoder)
  (scores : SqlAlchemySearch.SqlScores)

/-- A recall answers the same from two stores that agree on what it may show, whatever else they
hold. -/
theorem recall_isolated (tie : SqlAlchemySearch.Row → SqlAlchemySearch.Row → Bool)
    (htie : Fixed SqlAlchemySearch.rowKey tie) (request : RecallRequest) (clock : Datetime) :
    (∀ (s t : MemoryDictionaries) (relationships relationships' : Table Relationship.scope),
      AgreeInMemory (recallViewer request) s t relationships relationships' →
      «recall» encoder math (InMemorySearch.searchCandidates casefold math s relationships) request
          clock =
        «recall» encoder math (InMemorySearch.searchCandidates casefold math t relationships') request
          clock) ∧
    ∀ (s t : LongTermStore) (relationships relationships' : Table Relationship.scope),
      AgreeSql (recallViewer request) s t relationships relationships' →
      «recall» encoder math (SqlAlchemySearch.searchCandidates scores tie s relationships) request
          clock =
        «recall» encoder math (SqlAlchemySearch.searchCandidates scores tie t relationships') request
          clock := by
  constructor
  · intro s t relationships relationships' h
    refine recall_congr encoder math request clock fun normalized ↦ ?_
    have hagree : AgreeInMemory (viewerOf (searchRequest encoder request normalized)) s t relationships
        relationships' := h
    exact hagree.searchCandidates
  · intro s t relationships relationships' h
    refine recall_congr encoder math request clock fun normalized ↦ ?_
    have hagree : AgreeSql (viewerOf (searchRequest encoder request normalized)) s t relationships
        relationships' := h
    exact hagree.searchCandidates htie

/-- Memory 1 is the user's own, memory 2 a more important one of somebody else. -/
def memoryOf (id userId : UUID) (importance : ℚ) : Domain.Memory where
  id
  lineageId := id
  tenantId := 1
  agentId := 2
  userId := some userId
  conversationId := none
  episodeId := none
  kind := .semantic
  visibility := .user
  content := some "tea"
  eventAt := 0
  confidence := 1
  importance
  emotionalWeight := 0
  sensitivity := .personal
  confirmation := .confirmed
  status := .active
  version := 1
  embeddingVersion := none
  createdBy := userId
  createdAt := 0
  updatedAt := 0

def ownMemory : LongTermStore :=
  { LongTermStore.empty with
    memories := ⟨[memoryOf 1 3 0], by decide⟩ }

def bothMemories : LongTermStore :=
  { LongTermStore.empty with
    memories := ⟨[memoryOf 2 4 1, memoryOf 1 3 0], by decide⟩ }

def teaRecall : RecallRequest where
  tenantId := 1
  agentId := 2
  userId := 3
  query := "tea"
  limit := 1
  candidatePool := 1
  maximumSensitivity := .personal
  recencyHalfLifeDays := 30
  weights := ⟨1, 0, 0, 0, 0, by norm_num, by norm_num⟩
  now := none

def plainMath : FloatMath := ⟨id, fun _ ↦ 1, fun _ ↦ 1, id⟩

def plainScores : SqlAlchemySearch.SqlScores :=
  ⟨fun content query ↦ if content = query then 1 else 0, fun _ _ ↦ 0, fun _ _ ↦ 1⟩

def plainEncoder : EmbeddingEncoder := ⟨"local-hash-v1", 256, fun _ ↦ []⟩

def keysOf (row : SqlAlchemySearch.Row) : Lex (ℕ × WithBot ℕ) :=
  toLex (row.1.id, row.2.map MemoryEmbedding.id)

def byKeys (a b : SqlAlchemySearch.Row) : Bool := keysOf a ≤ keysOf b

theorem fixed_byKeys : Fixed SqlAlchemySearch.rowKey byKeys :=
  (fixed_key keysOf).of_key fun _ _ h ↦ toLex.injective h

def dictionaries (memories : List Domain.Memory)
    (h : (memories.map Domain.Memory.id).Nodup) : MemoryDictionaries :=
  { Infrastructure.InMemoryLongTermMemory.empty with memories := ⟨memories, h⟩ }

theorem recall_isolated_tea :
    «recall» plainEncoder plainMath (InMemorySearch.searchCandidates id plainMath
          (dictionaries [memoryOf 1 3 0] (by decide)) .empty) teaRecall 0 =
        «recall» plainEncoder plainMath (InMemorySearch.searchCandidates id plainMath
          (dictionaries [memoryOf 2 4 1, memoryOf 1 3 0] (by decide)) .empty) teaRecall 0 ∧
      «recall» plainEncoder plainMath
          (SqlAlchemySearch.searchCandidates plainScores byKeys ownMemory .empty) teaRecall 0 =
        «recall» plainEncoder plainMath
          (SqlAlchemySearch.searchCandidates plainScores byKeys bothMemories .empty) teaRecall 0 := by
  have h := recall_isolated id plainMath plainEncoder plainScores byKeys fixed_byKeys teaRecall 0
  refine ⟨h.1 _ _ _ _ ⟨by decide, fun _ _ _ ↦ rfl, rfl⟩, h.2 _ _ _ _ ⟨?_, ?_, rfl⟩⟩
  · intro memory hvisible
    have hother : memory ≠ memoryOf 2 4 1 := by
      rintro rfl
      exact absurd hvisible (by decide)
    exact ⟨fun h ↦ List.mem_cons_of_mem _ h, fun h ↦ (List.mem_cons.mp h).resolve_left hother⟩
  · exact fun _ _ _ _ _ ↦ Iff.rfl

end recalls

end CyberNetizen.Memory
