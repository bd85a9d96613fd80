import CyberNetizen.Memory.LongTermRun

namespace CyberNetizen.Memory

open Domain Infrastructure Application.LongTermMemory KeyedTable SqlAlchemyLongTermMemory

variable {s s' : LongTermStore}

theorem insertMemory_stored {memory : Memory} (h : s.hasMemory memory.id = true) :
    s.insertMemory memory = none := by
  obtain ⟨row, hrow⟩ := Option.isSome_iff_exists.mp h
  unfold LongTermStore.insertMemory
  rw [Table.insert?_eq_none.mpr ⟨row, Table.mem_of_find? hrow, Table.key_of_find? hrow⟩]
  rfl

theorem insertEmbedding_eq_some {embedding : MemoryEmbedding}
    (h : s.insertEmbedding embedding = some s') :
    s.hasMemory embedding.memoryId = true ∧
      ∃ embeddings, s.embeddings.insert? embedding = some embeddings ∧
        s' = { s with embeddings } := by
  unfold LongTermStore.insertEmbedding at h
  split at h
  · rename_i hkeys
    obtain ⟨embeddings, hinsert, rfl⟩ := Option.map_eq_some_iff.mp h
    exact ⟨((Bool.and_eq_true_iff).mp hkeys).1, embeddings, hinsert, rfl⟩
  · cases h

def KeepsMemories (row : UnitOfWork.Pending LongTermMapper LongTermStore) : Prop :=
  ∀ t t', row.write t = some t' → ∀ id, t.hasMemory id = true → t'.hasMemory id = true

theorem keeps_memoryModel (memory : Memory) : KeepsMemories (memoryModel memory) := by
  intro t t' hwrite id hid
  obtain ⟨memories, hinsert, rfl⟩ := Option.map_eq_some_iff.mp hwrite
  unfold LongTermStore.hasMemory
  dsimp only
  rw [Table.find?_insert? hinsert]
  split
  · rfl
  · exact hid

theorem keeps_changedMemory (memoryId : UUID) (f : Update Memory.id) :
    KeepsMemories (changedMemory memoryId f) := by
  intro t t' hwrite id hid
  obtain rfl := Option.some.inj hwrite
  unfold LongTermStore.hasMemory LongTermStore.updateMemory
  rw [Table.find?_updateWhere, Option.isSome_map]
  exact hid

theorem keeps_sourceModel (source : MemorySource) : KeepsMemories (sourceModel source) := by
  intro t t' hwrite id hid
  replace hwrite : t.insertSource source = some t' := hwrite
  unfold LongTermStore.insertSource at hwrite
  split at hwrite
  · obtain ⟨sources, -, rfl⟩ := Option.map_eq_some_iff.mp hwrite
    exact hid
  · cases hwrite

theorem keeps_embeddingModel (embedding : MemoryEmbedding) :
    KeepsMemories (embeddingModel embedding) := by
  intro t t' hwrite id hid
  obtain ⟨-, embeddings, -, rfl⟩ := insertEmbedding_eq_some hwrite
  exact hid

theorem keeps_linkModel (link : MemoryLink) : KeepsMemories (linkModel link) := by
  intro t t' hwrite id hid
  replace hwrite : t.insertLink link = some t' := hwrite
  unfold LongTermStore.insertLink at hwrite
  split at hwrite
  · obtain ⟨links, -, rfl⟩ := Option.map_eq_some_iff.mp hwrite
    exact hid
  · cases hwrite

/-- A memory and its embedding are never stored together: the embedding comes first and has no
memory to refer to, unless the id is taken, and then the memory is refused. -/
theorem flush_embedded {rows : List (UnitOfWork.Pending LongTermMapper LongTermStore)}
    {memory : Memory} {embedding : MemoryEmbedding} (hid : embedding.memoryId = memory.id)
    (hembedding : embeddingModel embedding ∈ rows) (hmemory : memoryModel memory ∈ rows)
    (honly : ∀ row ∈ rows, row.mapper = .memoryEmbeddingModel → row = embeddingModel embedding)
    (hkeep : ∀ row ∈ rows, KeepsMemories row) :
    UnitOfWork.flush longTermMappers rows s = none := by
  cases hstored : s.hasMemory memory.id with
  | false =>
    have hrefused : ∀ t : LongTermStore, t.hasMemory memory.id = false →
        t.insertEmbedding embedding = none := by
      intro t ht
      refine Option.eq_none_iff_forall_ne_some.mpr fun t' ht' ↦ ?_
      rw [← hid] at ht
      cases ht.symm.trans (insertEmbedding_eq_some ht').1
    refine UnitOfWork.flush_refused [] _ (embeddingModel embedding)
      (fun t ↦ t.hasMemory memory.id = false) hembedding ?_ hrefused hstored
    intro row hrow hmapper t t' ht hwrite
    obtain rfl := honly row hrow (List.mem_singleton.mp hmapper)
    cases (hrefused t ht).symm.trans hwrite
  | true =>
    refine UnitOfWork.flush_refused [.memoryEmbeddingModel, .memoryLinkModel] _ (memoryModel memory)
      (fun t ↦ t.hasMemory memory.id = true) hmemory ?_ (fun t ht ↦ insertMemory_stored ht) hstored
    exact fun row hrow _ t t' ht hwrite ↦ hkeep row hrow t t' hwrite memory.id ht

theorem commit_eq_ok {answer result : Answer} {o : Option LongTermStore}
    (h : commit answer o = .ok (result, s')) : result = answer ∧ o = some s' := by
  cases o with
  | none => cases h
  | some t =>
    obtain ⟨rfl, rfl⟩ := Prod.mk.inj (Except.ok.inj h)
    exact ⟨rfl, rfl⟩

theorem lockedMemory_eq_some {memoryId tenantId agentId : UUID} {row : Memory}
    (h : lockedMemory memoryId tenantId agentId s = some row) :
    s.memories.find? memoryId = some row ∧ row.tenantId = tenantId ∧ row.agentId = agentId := by
  obtain ⟨hfind, hscope⟩ := Option.filter_eq_some_iff.mp h
  simp only [Bool.and_eq_true, decide_eq_true_eq] at hscope
  exact ⟨hfind, hscope⟩

/-- A memory whose id is new is refused with its embedding. -/
theorem createMemory_cases {memory : Memory} {sources : List MemorySource}
    {embedding : MemoryEmbedding} {answer : Answer} (hid : embedding.memoryId = memory.id)
    (h : createMemory memory sources embedding s = .ok (answer, s')) : s' = s := by
  unfold createMemory at h
  split at h
  · split at h
    · cases h
    · exact (Prod.mk.inj (Except.ok.inj h)).2.symm
  · rw [flush_embedded hid (by simp) (by simp)] at h
    · cases h
    · intro row hrow hmapper
      simp only [List.mem_cons, List.mem_append, List.mem_map, List.not_mem_nil, or_false] at hrow
      rcases hrow with rfl | ⟨source, -, rfl⟩ | rfl
      · cases hmapper
      · cases hmapper
      · rfl
    · intro row hrow
      simp only [List.mem_cons, List.mem_append, List.mem_map, List.not_mem_nil, or_false] at hrow
      rcases hrow with rfl | ⟨source, -, rfl⟩ | rfl
      · exact keeps_memoryModel memory
      · exact keeps_sourceModel source
      · exact keeps_embeddingModel embedding

theorem setConfirmation_cases {memoryId tenantId agentId : UUID}
    {confirmation : MemoryConfirmation} {confidence : ℚ} {updatedAt : Datetime} {answer : Answer}
    (h : setConfirmation memoryId tenantId agentId confirmation confidence updatedAt s =
      .ok (answer, s')) :
    s' = s ∨ (∃ row, s.memories.find? memoryId = some row ∧ row.status = .active) ∧
      s' = s.updateMemory memoryId (confirmed confirmation confidence updatedAt) := by
  unfold setConfirmation at h
  split at h
  · exact .inl (Prod.mk.inj (Except.ok.inj h)).2.symm
  · rename_i row hrow
    split at h
    · exact .inl (Prod.mk.inj (Except.ok.inj h)).2.symm
    · rename_i hactive
      exact .inr ⟨⟨row, (lockedMemory_eq_some hrow).1, not_not.mp hactive⟩,
        (Prod.mk.inj (Except.ok.inj h)).2.symm⟩

/-- A replacement is refused with its embedding. -/
theorem correctMemory_cases {sourceMemoryId : UUID} {replacement : Memory}
    {source : MemorySource} {embedding : MemoryEmbedding} {link : MemoryLink} {answer : Answer}
    (hid : embedding.memoryId = replacement.id)
    (h : correctMemory sourceMemoryId replacement source embedding link s = .ok (answer, s')) :
    answer = .none ∧ s' = s := by
  unfold correctMemory at h
  split at h
  · obtain ⟨rfl, rfl⟩ := Prod.mk.inj (Except.ok.inj h)
    exact ⟨rfl, rfl⟩
  · split at h
    · obtain ⟨rfl, rfl⟩ := Prod.mk.inj (Except.ok.inj h)
      exact ⟨rfl, rfl⟩
    · rw [flush_embedded hid (by simp) (by simp)] at h
      · cases h
      · intro row hrow hmapper
        simp only [List.mem_cons, List.not_mem_nil, or_false] at hrow
        rcases hrow with rfl | rfl | rfl | rfl | rfl
        · cases hmapper
        · cases hmapper
        · cases hmapper
        · rfl
        · cases hmapper
      · intro row hrow
        simp only [List.mem_cons, List.not_mem_nil, or_false] at hrow
        rcases hrow with rfl | rfl | rfl | rfl | rfl
        · exact keeps_changedMemory _ _
        · exact keeps_memoryModel replacement
        · exact keeps_sourceModel source
        · exact keeps_embeddingModel embedding
        · exact keeps_linkModel link

theorem forgetMemory_cases {memoryId tenantId agentId : UUID} {updatedAt : Datetime}
    {answer : Answer}
    (h : forgetMemory memoryId tenantId agentId updatedAt s = .ok (answer, s')) :
    s' = s ∨ (∃ row, s.memories.find? memoryId = some row ∧ row.tenantId = tenantId) ∧
      s' = { s.updateMemory memoryId (forgotten updatedAt) with
        sources := s.sources.updateWhere
          (fun row ↦ row.memoryId = memoryId && row.tenantId = tenantId) withoutExcerpt
        embeddings := s.embeddings.deleteWhere
          fun row ↦ row.memoryId = memoryId && row.tenantId = tenantId } := by
  unfold forgetMemory at h
  split at h
  · exact .inl (Prod.mk.inj (Except.ok.inj h)).2.symm
  · rename_i row hrow
    obtain ⟨hfind, htenant, -⟩ := lockedMemory_eq_some hrow
    exact .inr ⟨⟨row, hfind, htenant⟩, (Prod.mk.inj (Except.ok.inj h)).2.symm⟩

/-- The embeddings after a rebuild: those there were, perhaps changed in place, and the new one. -/
theorem replaceEmbedding_cases {memoryId tenantId : UUID} {embedding : MemoryEmbedding}
    {updatedAt : Datetime} {answer : Answer}
    (h : replaceEmbedding memoryId tenantId embedding updatedAt s = .ok (answer, s')) :
    s' = s ∨
      (∃ row, s.memories.find? memoryId = some row ∧ row.tenantId = tenantId ∧
        row.status = .active) ∧
      (∃ embeddings : Table MemoryEmbedding.id,
        s' = { s.updateMemory memoryId (reembedded embedding.embeddingVersion updatedAt) with
          embeddings }) ∧
      ∀ x ∈ s'.embeddings, x = embedding ∨
        ∃ y ∈ s.embeddings, y.memoryId = x.memoryId ∧ y.tenantId = x.tenantId := by
  unfold replaceEmbedding at h
  split at h
  · exact .inl (Prod.mk.inj (Except.ok.inj h)).2.symm
  · rename_i row hrow
    obtain ⟨hfind, hscope⟩ := Option.filter_eq_some_iff.mp hrow
    simp only [Bool.and_eq_true, decide_eq_true_eq] at hscope
    obtain ⟨-, hsome⟩ := commit_eq_ok h
    obtain ⟨t, hwritten, rfl⟩ := Option.map_eq_some_iff.mp hsome
    have hold : ∀ x ∈ s.embeddings.updateWhere
        (fun row ↦ row.memoryId = memoryId && row.active) deactivated,
        ∃ y ∈ s.embeddings, y.memoryId = x.memoryId ∧ y.tenantId = x.tenantId := by
      intro x hx
      obtain ⟨y, hy, rfl⟩ := Table.mem_updateWhere.mp hx
      exact ⟨y, hy, by split <;> rfl, by split <;> rfl⟩
    refine .inr ⟨⟨row, hfind, hscope⟩, ?_⟩
    split at hwritten
    · obtain ⟨-, embeddings, hinsert, rfl⟩ := insertEmbedding_eq_some hwritten
      refine ⟨⟨embeddings, rfl⟩, fun x hx ↦ ?_⟩
      rcases (Table.mem_insert? hinsert).mp hx with hx | rfl
      · exact .inr (hold x hx)
      · exact .inl rfl
    · obtain rfl := Option.some.inj hwritten
      refine ⟨⟨_, rfl⟩, fun x hx ↦ .inr ?_⟩
      obtain ⟨y, hy, rfl⟩ := Table.mem_updateWhere.mp hx
      obtain ⟨z, hz, hmemory, htenant⟩ := hold y hy
      refine ⟨z, hz, ?_, ?_⟩
      · rw [hmemory]
        split <;> rfl
      · rw [htenant]
        split <;> rfl

theorem createIndexJob_tables {job : MemoryIndexJob} {answer : Answer}
    (h : createIndexJob job s = .ok (answer, s')) :
    ∃ indexJobs : Table MemoryIndexJob.id, s' = { s with indexJobs } := by
  obtain ⟨-, hsome⟩ := commit_eq_ok h
  obtain ⟨indexJobs, -, rfl⟩ := Option.map_eq_some_iff.mp hsome
  exact ⟨indexJobs, rfl⟩

theorem updateIndexJob_tables {job : MemoryIndexJob} {answer : Answer}
    (h : updateIndexJob job s = .ok (answer, s')) :
    ∃ indexJobs : Table MemoryIndexJob.id, s' = { s with indexJobs } := by
  unfold updateIndexJob at h
  split at h
  · cases h
  · exact ⟨_, (Prod.mk.inj (Except.ok.inj h)).2.symm⟩

end CyberNetizen.Memory
