import CyberNetizen.Memory.LongTermTables

namespace CyberNetizen.Memory

open Domain Infrastructure Application.LongTermMemory KeyedTable

/-- What a repository holds under the id of a memory. -/
structure LongTermView (σ : Type) where
  memory : σ → UUID → Option Memory
  sources : σ → UUID → List MemorySource
  embeddings : σ → UUID → List MemoryEmbedding

section view

variable {σ : Type} (view : LongTermView σ)

def Forgotten (s : σ) (memoryId : UUID) : Prop :=
  ∃ memory, view.memory s memoryId = some memory ∧ memory.status = .forgotten

/-- Nothing of a forgotten memory is left but the row itself. -/
structure Erased (s : σ) (memoryId : UUID) : Prop where
  row : ∃ memory, view.memory s memoryId = some memory ∧ memory.status = .forgotten ∧
    memory.content = none ∧ memory.embeddingVersion = none
  embeddings : view.embeddings s memoryId = []
  sources : ∀ source ∈ view.sources s memoryId, source.excerpt = none

def Spared (s s' : σ) (memoryId : UUID) : Prop :=
  (Forgotten view s' memoryId → Forgotten view s memoryId) ∧
    (Erased view s memoryId → Erased view s' memoryId)

def ForgottenErased (s : σ) : Prop := ∀ memoryId, Forgotten view s memoryId → Erased view s memoryId

variable {view} {s s' : σ} {memoryId : UUID}

theorem Erased.forgotten (h : Erased view s memoryId) : Forgotten view s memoryId := by
  obtain ⟨memory, hmemory, hstatus, -⟩ := h.row
  exact ⟨memory, hmemory, hstatus⟩

theorem Spared.refl (s : σ) (memoryId : UUID) : Spared view s s memoryId := ⟨id, id⟩

theorem Spared.trans {s s' s'' : σ} (h : Spared view s s' memoryId)
    (h' : Spared view s' s'' memoryId) : Spared view s s'' memoryId :=
  ⟨h.1 ∘ h'.1, h'.2 ∘ h.2⟩

theorem spared_of_not_forgotten (h : ¬Forgotten view s memoryId) (h' : ¬Forgotten view s' memoryId) :
    Spared view s s' memoryId :=
  ⟨fun hf ↦ absurd hf h', fun he ↦ absurd he.forgotten h⟩

theorem spared_of_memory_eq (hmemory : view.memory s' memoryId = view.memory s memoryId)
    (hsources : ∀ source ∈ view.sources s' memoryId, source ∈ view.sources s memoryId)
    (hembeddings : view.embeddings s memoryId = [] → view.embeddings s' memoryId = []) :
    Spared view s s' memoryId := by
  constructor
  · intro hf
    unfold Forgotten at hf
    rw [hmemory] at hf
    exact hf
  · intro he
    refine ⟨?_, hembeddings he.embeddings, fun source hs ↦ he.sources source (hsources source hs)⟩
    rw [hmemory]
    exact he.row

theorem not_forgotten_of_status {m : Memory} (h : view.memory s memoryId = some m)
    (hstatus : m.status ≠ .forgotten) : ¬Forgotten view s memoryId := by
  rintro ⟨memory', hmemory, hforgotten⟩
  rw [h] at hmemory
  exact hstatus (Option.some.inj hmemory ▸ hforgotten)

theorem ForgottenErased.step (h : ForgottenErased view s)
    (hstep : ∀ memoryId, Spared view s s' memoryId ∨ Erased view s' memoryId) :
    ForgottenErased view s' := by
  intro memoryId hf
  rcases hstep memoryId with hspared | herased
  · exact hspared.2 (h memoryId (hspared.1 hf))
  · exact herased

theorem Forgotten.step (h : ForgottenErased view s)
    (hstep : ∀ memoryId, Spared view s s' memoryId ∨ Erased view s' memoryId)
    (hf : Forgotten view s memoryId) : Forgotten view s' memoryId := by
  rcases hstep memoryId with hspared | herased
  · exact (hspared.2 (h memoryId hf)).forgotten
  · exact herased.forgotten

end view

def ForgettingFinal {σ : Type} (view : LongTermView σ) (uuid5 : UUID → String → UUID)
    (encoder : EmbeddingEncoder) (repository : MemoryRepository σ) (s : LongTermState σ)
    (as bs : List LongTermAction) : Prop :=
  ∀ memoryId,
    Forgotten view (Machine.run (longTermStep uuid5 encoder repository) s as).store memoryId →
      Erased view (Machine.run (longTermStep uuid5 encoder repository) s (as ++ bs)).store memoryId

theorem forgettingFinal_of_write {σ : Type} {view : LongTermView σ}
    {uuid5 : UUID → String → UUID} {encoder : EmbeddingEncoder} {repository : MemoryRepository σ}
    {memories : σ → Table Memory.id} {I : σ → Prop}
    {P : LongTermState σ → LongTermAction → Prop} (hr : Reads repository memories)
    (hI : ∀ write answer s s', I s → WellFormed write → repository.write write s = .ok (answer, s') →
      I s')
    (hwrite : ∀ s a write answer store, I s.store → P s a →
      s.writing uuid5 encoder a = some write → WellFormed write →
      repository.write write s.store = .ok (answer, store) →
      ∀ memoryId, Spared view s.store store memoryId ∨ Erased view store memoryId)
    {s : LongTermState σ} (hcalls : CallsKept s) (hs : I s.store)
    (herased : ForgottenErased view s.store) {as bs : List LongTermAction}
    (h : Machine.Along (longTermStep uuid5 encoder repository) P s (as ++ bs)) :
    ForgettingFinal view uuid5 encoder repository s as bs := by
  intro memoryId hf
  obtain ⟨has, hbs⟩ := Machine.along_append.mp h
  have hmid := run_store (I := fun t ↦ I t ∧ ForgottenErased view t) hr
    (fun s a write answer store hP hw hformed ⟨hI', he⟩ hok ↦
      ⟨hI write answer _ _ hI' hformed hok,
        he.step (hwrite s a write answer store hI' hP hw hformed hok)⟩)
    hcalls ⟨hs, herased⟩ has
  have hend := run_store
    (I := fun t ↦ (I t ∧ ForgottenErased view t) ∧ Forgotten view t memoryId) hr
    (fun s a write answer store hP hw hformed ⟨⟨hI', he⟩, hf⟩ hok ↦
      have hstep := hwrite s a write answer store hI' hP hw hformed hok
      ⟨⟨hI write answer _ _ hI' hformed hok, he.step hstep⟩, hf.step he hstep⟩)
    hmid.1 ⟨hmid.2, hf⟩ hbs
  rw [Machine.run_append]
  exact hend.2.1.2 memoryId hend.2.2

section sql

open SqlAlchemyLongTermMemory

def sqlView : LongTermView LongTermStore where
  memory s memoryId := s.memories.find? memoryId
  sources s memoryId := sourcesOf memoryId s
  embeddings s memoryId := s.embeddings.rows.filter fun row ↦ row.memoryId = memoryId

/-- Sources and embeddings are of the tenant of their memory. -/
structure Owned (s : LongTermStore) : Prop where
  sources : ∀ source ∈ s.sources, ∃ memory,
    s.memories.find? source.memoryId = some memory ∧ memory.tenantId = source.tenantId
  embeddings : ∀ embedding ∈ s.embeddings, ∃ memory,
    s.memories.find? embedding.memoryId = some memory ∧ memory.tenantId = embedding.tenantId

variable {s s' : LongTermStore} {memoryId : UUID}

theorem mem_sqlSources {source : MemorySource} :
    source ∈ sqlView.sources s memoryId ↔ source ∈ s.sources ∧ source.memoryId = memoryId := by
  show source ∈ List.filter _ _ ↔ _
  rw [List.mem_filter, decide_eq_true_eq]
  exact Iff.rfl

theorem sqlEmbeddings_eq_nil :
    sqlView.embeddings s memoryId = [] ↔
      ∀ embedding ∈ s.embeddings, embedding.memoryId ≠ memoryId := by
  show List.filter _ _ = [] ↔ _
  rw [List.filter_eq_nil_iff]
  simp only [decide_eq_true_eq]
  exact Iff.rfl

theorem find?_updateMemory (s : LongTermStore) (memoryId : UUID) (f : Update Memory.id) (id : UUID) :
    (s.updateMemory memoryId f).memories.find? id =
      if id = memoryId then (s.memories.find? id).map f else s.memories.find? id := by
  show (s.memories.updateWhere _ f).find? id = _
  by_cases hid : id = memoryId
  · rw [if_pos hid, hid, Table.find?_updateWhere]
    cases hrow : s.memories.find? memoryId with
    | none => rfl
    | some row => simp [Table.key_of_find? hrow]
  · rw [if_neg hid, Table.find?_updateWhere_of_ne hid]

theorem Owned.updateMemory (h : Owned s) (memoryId : UUID) {f : Update Memory.id}
    (hf : ∀ row, (f row).tenantId = row.tenantId) : Owned (s.updateMemory memoryId f) := by
  have hkeep : ∀ id tenantId,
      (∃ memory, s.memories.find? id = some memory ∧ memory.tenantId = tenantId) →
      ∃ memory, (s.updateMemory memoryId f).memories.find? id = some memory ∧
        memory.tenantId = tenantId := by
    rintro id tenantId ⟨memory, hmemory, htenant⟩
    rw [find?_updateMemory, hmemory]
    split
    · exact ⟨f memory, rfl, (hf memory).trans htenant⟩
    · exact ⟨memory, rfl, htenant⟩
  exact ⟨fun source hs ↦ hkeep _ _ (h.sources source hs),
    fun embedding he ↦ hkeep _ _ (h.embeddings embedding he)⟩

theorem spared_of_updateMemory {row : Memory} {f : Update Memory.id}
    (hrow : s.memories.find? memoryId = some row) (hactive : row.status = .active)
    (hf : (f row).status ≠ .forgotten) (id : UUID) :
    Spared sqlView s (s.updateMemory memoryId f) id := by
  by_cases hid : id = memoryId
  · have hafter : sqlView.memory (s.updateMemory memoryId f) id = some (f row) := by
      show (s.updateMemory memoryId f).memories.find? id = _
      rw [find?_updateMemory, if_pos hid, hid, hrow]
      rfl
    have hbefore : sqlView.memory s id = some row := hid ▸ hrow
    exact spared_of_not_forgotten
      (not_forgotten_of_status hbefore (by rw [hactive]; decide))
      (not_forgotten_of_status hafter hf)
  · refine spared_of_memory_eq ?_ (fun _ h ↦ h) (fun h ↦ h)
    show (s.updateMemory memoryId f).memories.find? id = _
    rw [find?_updateMemory, if_neg hid]
    rfl

theorem owned_write {write : Write} {answer : Answer} (h : Owned s) (hformed : WellFormed write)
    (hok : SqlAlchemyLongTermMemory.write write s = .ok (answer, s')) : Owned s' := by
  cases write with
  | createMemory memory sources embedding =>
    obtain ⟨-, -, -, -, hid, -⟩ := hformed
    obtain rfl := createMemory_cases hid hok
    exact h
  | setConfirmation memoryId tenantId agentId confirmation confidence updatedAt =>
    rcases setConfirmation_cases hok with rfl | ⟨-, rfl⟩
    · exact h
    · exact h.updateMemory _ fun _ ↦ rfl
  | correctMemory sourceMemoryId replacement source embedding link =>
    obtain ⟨-, -, ⟨hid, -⟩, -⟩ := hformed
    obtain ⟨-, rfl⟩ := correctMemory_cases hid hok
    exact h
  | forgetMemory memoryId tenantId agentId updatedAt =>
    rcases forgetMemory_cases hok with rfl | ⟨-, rfl⟩
    · exact h
    · have hupdated := h.updateMemory memoryId (f := forgotten updatedAt) fun _ ↦ rfl
      constructor
      · intro source hs
        obtain ⟨row, hrow, rfl⟩ := Table.mem_updateWhere.mp hs
        have hmemory := hupdated.sources row hrow
        split <;> exact hmemory
      · intro embedding he
        exact hupdated.embeddings embedding (Table.mem_deleteWhere.mp he).1
  | createIndexJob job =>
    obtain ⟨indexJobs, rfl⟩ := createIndexJob_tables hok
    exact ⟨h.sources, h.embeddings⟩
  | updateIndexJob job =>
    obtain ⟨indexJobs, rfl⟩ := updateIndexJob_tables hok
    exact ⟨h.sources, h.embeddings⟩
  | replaceEmbedding memoryId tenantId embedding updatedAt =>
    rcases replaceEmbedding_cases hok with rfl | ⟨⟨row, hrow, htenant, -⟩, ⟨embeddings, rfl⟩, hmem⟩
    · exact h
    · have hupdated := h.updateMemory memoryId
        (f := reembedded embedding.embeddingVersion updatedAt) fun _ ↦ rfl
      refine ⟨hupdated.sources, fun x hx ↦ ?_⟩
      rcases hmem x hx with rfl | ⟨y, hy, hmemory, hytenant⟩
      · refine ⟨reembedded x.embeddingVersion updatedAt row, ?_, htenant.trans hformed.2.symm⟩
        have hfind := find?_updateMemory s memoryId
          (reembedded x.embeddingVersion updatedAt) x.memoryId
        rw [if_pos hformed.1, hformed.1, hrow] at hfind
        exact hformed.1 ▸ hfind
      · rw [← hmemory, ← hytenant]
        exact hupdated.embeddings y hy

/-- What `forget_memory` leaves of the memory it finds. -/
theorem erased_of_forget {row : Memory} {tenantId : UUID} {updatedAt : Datetime} (h : Owned s)
    (hrow : s.memories.find? memoryId = some row) (htenant : row.tenantId = tenantId) :
    Erased sqlView
      { s.updateMemory memoryId (forgotten updatedAt) with
        sources := s.sources.updateWhere
          (fun row ↦ row.memoryId = memoryId && row.tenantId = tenantId) withoutExcerpt
        embeddings := s.embeddings.deleteWhere
          fun row ↦ row.memoryId = memoryId && row.tenantId = tenantId } memoryId := by
  have howner : ∀ id tenantId', (∃ memory, s.memories.find? id = some memory ∧
      memory.tenantId = tenantId') → id = memoryId → tenantId' = tenantId := by
    rintro id tenantId' ⟨memory, hmemory, rfl⟩ rfl
    rw [hrow] at hmemory
    exact Option.some.inj hmemory ▸ htenant
  refine ⟨⟨forgotten updatedAt row, ?_, rfl, rfl, rfl⟩, ?_, ?_⟩
  · have hfind := find?_updateMemory s memoryId (forgotten updatedAt) memoryId
    rw [if_pos rfl, hrow] at hfind
    exact hfind
  · rw [sqlEmbeddings_eq_nil]
    intro embedding he hmemory
    obtain ⟨he, hkept⟩ := Table.mem_deleteWhere.mp he
    have hof := howner _ _ (h.embeddings embedding he) hmemory
    simp [hmemory, hof] at hkept
  · intro source hs
    obtain ⟨hs, hmemory⟩ := mem_sqlSources.mp hs
    obtain ⟨old, hold, rfl⟩ := Table.mem_updateWhere.mp hs
    have hid : old.memoryId = memoryId := by
      split at hmemory <;> exact hmemory
    have hof := howner _ _ (h.sources old hold) hid
    rw [if_pos (by simp [hid, hof])]
    rfl

theorem sql_spared_or_erased {write : Write} {answer : Answer} (h : Owned s)
    (hformed : WellFormed write)
    (hok : SqlAlchemyLongTermMemory.write write s = .ok (answer, s')) (id : UUID) :
    Spared sqlView s s' id ∨ Erased sqlView s' id := by
  cases write with
  | createMemory memory sources embedding =>
    obtain ⟨-, -, -, -, hid, -⟩ := hformed
    obtain rfl := createMemory_cases hid hok
    exact .inl (Spared.refl s' id)
  | setConfirmation memoryId tenantId agentId confirmation confidence updatedAt =>
    rcases setConfirmation_cases hok with rfl | ⟨⟨row, hrow, hactive⟩, rfl⟩
    · exact .inl (Spared.refl s' id)
    · refine .inl (spared_of_updateMemory hrow hactive ?_ id)
      show row.status ≠ .forgotten
      rw [hactive]
      decide
  | correctMemory sourceMemoryId replacement source embedding link =>
    obtain ⟨-, -, ⟨hid, -⟩, -⟩ := hformed
    obtain ⟨-, rfl⟩ := correctMemory_cases hid hok
    exact .inl (Spared.refl s' id)
  | forgetMemory memoryId tenantId agentId updatedAt =>
    rcases forgetMemory_cases hok with rfl | ⟨⟨row, hrow, htenant⟩, rfl⟩
    · exact .inl (Spared.refl s' id)
    · by_cases hid : id = memoryId
      · rw [hid]
        exact .inr (erased_of_forget h hrow htenant)
      · refine .inl (spared_of_memory_eq ?_ ?_ ?_)
        · have hfind := find?_updateMemory s memoryId
            (forgotten updatedAt) id
          rw [if_neg hid] at hfind
          exact hfind
        · intro source hs
          obtain ⟨hs, hmemory⟩ := mem_sqlSources.mp hs
          obtain ⟨old, hold, rfl⟩ := Table.mem_updateWhere.mp hs
          have hne : old.memoryId ≠ memoryId := by
            intro he
            refine hid (hmemory.symm.trans ?_)
            split <;> exact he
          rw [if_neg (by simp [hne])] at hmemory ⊢
          exact mem_sqlSources.mpr ⟨hold, hmemory⟩
        · rw [sqlEmbeddings_eq_nil, sqlEmbeddings_eq_nil]
          exact fun hnone e he ↦ hnone e (Table.mem_deleteWhere.mp he).1
  | createIndexJob job =>
    obtain ⟨indexJobs, rfl⟩ := createIndexJob_tables hok
    exact .inl (spared_of_memory_eq rfl (fun _ h ↦ h) fun h ↦ h)
  | updateIndexJob job =>
    obtain ⟨indexJobs, rfl⟩ := updateIndexJob_tables hok
    exact .inl (spared_of_memory_eq rfl (fun _ h ↦ h) fun h ↦ h)
  | replaceEmbedding memoryId tenantId embedding updatedAt =>
    rcases replaceEmbedding_cases hok with
      rfl | ⟨⟨row, hrow, -, hactive⟩, ⟨embeddings, rfl⟩, hmem⟩
    · exact .inl (Spared.refl s' id)
    · have hupdated := spared_of_updateMemory
        (f := reembedded embedding.embeddingVersion updatedAt) hrow hactive
        (by show row.status ≠ .forgotten; rw [hactive]; decide) id
      refine .inl (hupdated.trans ?_)
      by_cases hid : id = memoryId
      · have hafter := find?_updateMemory s memoryId
          (reembedded embedding.embeddingVersion updatedAt) id
        rw [if_pos hid, hid, hrow] at hafter
        have hstatus : (reembedded embedding.embeddingVersion updatedAt row).status ≠
            .forgotten := by
          show row.status ≠ .forgotten
          rw [hactive]
          decide
        rw [hid]
        exact spared_of_not_forgotten (not_forgotten_of_status hafter hstatus)
          (not_forgotten_of_status hafter hstatus)
      · refine spared_of_memory_eq rfl (fun _ h ↦ h) ?_
        rw [sqlEmbeddings_eq_nil, sqlEmbeddings_eq_nil]
        intro hnone x hx hmemory
        rcases hmem x hx with rfl | ⟨y, hy, hy', -⟩
        · exact hid (hmemory.symm.trans hformed.1)
        · exact hnone y hy (hy'.trans hmemory)

end sql

section inMemory

open InMemoryLongTermMemory

def inMemoryView : LongTermView MemoryDictionaries where
  memory s memoryId := s.memories.find? memoryId
  sources s memoryId := s.sources memoryId
  embeddings s memoryId := s.embeddings memoryId

def isForgotten (s : MemoryDictionaries) (memoryId : UUID) : Bool :=
  (s.memories.find? memoryId).any fun memory ↦ memory.status = .forgotten

def revives (s : MemoryDictionaries) : Write → Bool
  | .createMemory memory _ _ => isForgotten s memory.id
  | .correctMemory sourceMemoryId replacement _ _ _ =>
    (s.memories.find? sourceMemoryId).any (fun source ↦ source.status = .active) &&
      isForgotten s replacement.id
  | .replaceEmbedding memoryId tenantId _ _ =>
    (s.memories.find? memoryId).any fun memory ↦
      memory.tenantId = tenantId && memory.status = .forgotten
  | _ => false

variable {s : MemoryDictionaries}

theorem isForgotten_iff {memoryId : UUID} :
    isForgotten s memoryId = true ↔ Forgotten inMemoryView s memoryId := by
  unfold isForgotten
  rw [Option.any_eq_true]
  simp only [decide_eq_true_eq]
  exact Iff.rfl

theorem not_forgotten_of_false {memoryId : UUID} (h : isForgotten s memoryId = false) :
    ¬Forgotten inMemoryView s memoryId := by
  intro hf
  rw [isForgotten_iff.mpr hf] at h
  cases h

/-- Storing an unforgotten row in place of one spares every memory. -/
theorem spared_of_put (row : Memory) (hrow : row.status ≠ .forgotten)
    (hbefore : ¬Forgotten inMemoryView s row.id) {sources : UUID → List MemorySource}
    {embeddings : UUID → List MemoryEmbedding}
    (hsources : ∀ id, id ≠ row.id → sources id = s.sources id)
    (hembeddings : ∀ id, id ≠ row.id → embeddings id = s.embeddings id)
    {l : Table MemoryLink.id} (id : UUID) :
    Spared inMemoryView s
      { s with memories := s.memories.put row, sources, embeddings, links := l } id := by
  by_cases hid : id = row.id
  · have hafter : inMemoryView.memory
        { s with memories := s.memories.put row, sources, embeddings, links := l } id = some row := by
      show (s.memories.put row).find? id = some row
      rw [Table.find?_put, if_pos hid]
    exact spared_of_not_forgotten (hid ▸ hbefore) (not_forgotten_of_status hafter hrow)
  · refine spared_of_memory_eq ?_ ?_ ?_
    · show (s.memories.put row).find? id = s.memories.find? id
      rw [Table.find?_put, if_neg hid]
    · intro source hs
      rw [show inMemoryView.sources _ id = sources id from rfl, hsources id hid] at hs
      exact hs
    · intro hnone
      rw [show inMemoryView.embeddings _ id = embeddings id from rfl, hembeddings id hid]
      exact hnone

theorem not_forgotten_of_active {memoryId : UUID} {memory : Memory}
    (h : s.memories.find? memoryId = some memory) (hactive : memory.status = .active) :
    ¬Forgotten inMemoryView s memory.id := by
  have hid : memory.id = memoryId := Table.key_of_find? h
  have hmemory : inMemoryView.memory s memory.id = some memory := by
    rw [hid]
    exact h
  exact not_forgotten_of_status hmemory (by rw [hactive]; decide)

theorem inMemory_spared_or_erased {write : Write} (hformed : WellFormed write)
    (hrevives : revives s write = false) (id : UUID) :
    Spared inMemoryView s (InMemoryLongTermMemory.write write s).2 id ∨
      Erased inMemoryView (InMemoryLongTermMemory.write write s).2 id := by
  cases write with
  | createMemory memory sources embedding =>
    have hactive : memory.status ≠ .forgotten := by
      rw [hformed.1]
      decide
    exact .inl (spared_of_put _ hactive (not_forgotten_of_false hrevives)
      (fun _ h ↦ Function.update_of_ne h ..) (fun _ h ↦ Function.update_of_ne h ..) id)
  | setConfirmation memoryId tenantId agentId confirmation confidence updatedAt =>
    show Spared _ _ (setConfirmation ..).2 id ∨ Erased _ (setConfirmation ..).2 id
    unfold setConfirmation
    split
    · exact .inl (Spared.refl s id)
    · rename_i memory hmemory
      split
      · exact .inl (Spared.refl s id)
      · rename_i hactive
        have hactive := not_not.mp hactive
        have hbefore :=
          not_forgotten_of_active (Option.filter_eq_some_iff.mp hmemory).1 hactive
        refine .inl (spared_of_put (confirmed confirmation confidence updatedAt memory) ?_
          hbefore (fun _ _ ↦ rfl) (fun _ _ ↦ rfl) id)
        show memory.status ≠ .forgotten
        rw [hactive]
        decide
  | correctMemory sourceMemoryId replacement source embedding link =>
    show Spared _ _ (correctMemory ..).2 id ∨ Erased _ (correctMemory ..).2 id
    unfold correctMemory
    split
    · exact .inl (Spared.refl s id)
    · rename_i memory hmemory
      split
      · exact .inl (Spared.refl s id)
      · rename_i hactive
        have hactive := not_not.mp hactive
        have hbefore : isForgotten s replacement.id = false := by
          unfold revives at hrevives
          simpa [hmemory, hactive] using hrevives
        have hsource := not_forgotten_of_active hmemory hactive
        have hsuperseded := spared_of_put
          (superseded replacement.updatedAt memory) (l := s.links)
          (by show MemoryStatus.superseded ≠ .forgotten; decide) hsource
          (fun _ _ ↦ rfl) (fun _ _ ↦ rfl)
        have hmiddle : ¬Forgotten inMemoryView
            { s with memories := s.memories.put (superseded replacement.updatedAt memory) }
            replacement.id :=
          fun hf ↦ not_forgotten_of_false hbefore ((hsuperseded replacement.id).1 hf)
        have hnew : replacement.status ≠ .forgotten := by
          rw [hformed.1]
          decide
        exact .inl ((hsuperseded id).trans (spared_of_put _ hnew hmiddle
          (fun _ h ↦ Function.update_of_ne h ..) (fun _ h ↦ Function.update_of_ne h ..) id))
  | forgetMemory memoryId tenantId agentId updatedAt =>
    show Spared _ _ (forgetMemory ..).2 id ∨ Erased _ (forgetMemory ..).2 id
    unfold forgetMemory
    split
    · exact .inl (Spared.refl s id)
    · rename_i memory hmemory
      have hkey : memory.id = memoryId :=
        Table.key_of_find? (Option.filter_eq_some_iff.mp hmemory).1
      have hfind := Table.find?_put s.memories (forgotten updatedAt memory) id
      rw [show (forgotten updatedAt memory).id = memoryId from hkey] at hfind
      by_cases hid : id = memoryId
      · rw [if_pos hid] at hfind
        refine .inr ⟨⟨_, hfind, rfl, rfl, rfl⟩, ?_, ?_⟩
        · show Function.update s.embeddings memoryId [] id = []
          rw [hid, Function.update_self]
        · intro source hs
          rw [show inMemoryView.sources _ id = Function.update s.sources memoryId
            ((s.sources memoryId).map withoutExcerpt) id from rfl, hid, Function.update_self] at hs
          obtain ⟨old, -, rfl⟩ := List.mem_map.mp hs
          rfl
      · rw [if_neg hid] at hfind
        refine .inl (spared_of_memory_eq hfind ?_ ?_)
        · intro source hs
          rw [show inMemoryView.sources _ id = Function.update s.sources memoryId
            ((s.sources memoryId).map withoutExcerpt) id from rfl,
            Function.update_of_ne hid] at hs
          exact hs
        · intro hnone
          rw [show inMemoryView.embeddings _ id = Function.update s.embeddings memoryId [] id
            from rfl, Function.update_of_ne hid]
          exact hnone
  | createIndexJob job | updateIndexJob job =>
    exact .inl (spared_of_memory_eq rfl (fun _ h ↦ h) fun h ↦ h)
  | replaceEmbedding memoryId tenantId embedding updatedAt =>
    show Spared _ _ (replaceEmbedding ..).2 id ∨ Erased _ (replaceEmbedding ..).2 id
    unfold replaceEmbedding
    split
    · exact .inl (Spared.refl s id)
    · rename_i memory hmemory
      obtain ⟨hfind, htenant⟩ := Option.filter_eq_some_iff.mp hmemory
      have hkey : memory.id = memoryId := Table.key_of_find? hfind
      have hstatus : memory.status ≠ .forgotten := by
        intro hf
        unfold revives at hrevives
        simp only [hfind, Option.any_some, htenant, hf, decide_true, Bool.and_self] at hrevives
        cases hrevives
      have hbefore : ¬Forgotten inMemoryView s memory.id := by
        refine not_forgotten_of_status (m := memory) ?_ hstatus
        rw [hkey]
        exact hfind
      exact .inl (spared_of_put
        (reembedded embedding.embeddingVersion updatedAt memory) hstatus hbefore
        (fun _ _ ↦ rfl) (fun _ h ↦ Function.update_of_ne (hkey ▸ h) ..) id)

end inMemory

def sparesForgotten (uuid5 : UUID → String → UUID) (encoder : EmbeddingEncoder)
    (s : LongTermState MemoryDictionaries) (a : LongTermAction) : Bool :=
  (s.writing uuid5 encoder a).all fun write ↦ !revives s.store write

theorem sql_forgettingFinal (uuid5 : UUID → String → UUID) (encoder : EmbeddingEncoder)
    {store : LongTermStore} (howned : Owned store) (herased : ForgottenErased sqlView store)
    (as bs : List LongTermAction) :
    ForgettingFinal sqlView uuid5 encoder SqlAlchemyLongTermMemory.repository ⟨store, []⟩ as bs := by
  refine forgettingFinal_of_write (I := Owned) (P := fun _ _ ↦ True) sql_reads ?_ ?_
    (fun _ h ↦ absurd h List.not_mem_nil) howned herased Machine.along_true
  · exact fun write answer s s' h hformed hok ↦ owned_write h hformed hok
  · exact fun s a write answer store h _ _ hformed hok id ↦ sql_spared_or_erased h hformed hok id

theorem inMemory_forgettingFinal (uuid5 : UUID → String → UUID) (encoder : EmbeddingEncoder)
    {as bs : List LongTermAction}
    (h : Machine.Along (longTermStep uuid5 encoder InMemoryLongTermMemory.repository)
      (fun s a ↦ sparesForgotten uuid5 encoder s a = true) ⟨InMemoryLongTermMemory.empty, []⟩
      (as ++ bs)) :
    ForgettingFinal inMemoryView uuid5 encoder InMemoryLongTermMemory.repository
      ⟨InMemoryLongTermMemory.empty, []⟩ as bs := by
  refine forgettingFinal_of_write (I := fun _ ↦ True) inMemory_reads ?_ ?_
    (fun _ h ↦ absurd h List.not_mem_nil) trivial ?_ h
  · exact fun _ _ _ _ _ _ _ ↦ trivial
  · intro s a write answer store _ hspares hw hformed hok id
    have hrevives : revives s.store write = false := by
      unfold sparesForgotten at hspares
      rw [hw] at hspares
      simpa using hspares
    have hstore : (InMemoryLongTermMemory.write write s.store).2 = store :=
      congrArg Prod.snd (Except.ok.inj hok)
    rw [← hstore]
    exact inMemory_spared_or_erased hformed hrevives id
  · rintro memoryId ⟨memory, hmemory, -⟩
    cases hmemory

/-- Forgetting is final in the database, whatever is stored there at first; in memory it is final in
the runs in which nothing is stored under the id of a forgotten memory. -/
theorem forgetting_final (uuid5 : UUID → String → UUID) (encoder : EmbeddingEncoder)
    (as bs : List LongTermAction) :
    (∀ store, Owned store → ForgottenErased sqlView store →
        ForgettingFinal sqlView uuid5 encoder SqlAlchemyLongTermMemory.repository
          ⟨store, []⟩ as bs) ∧
      (Machine.Along (longTermStep uuid5 encoder InMemoryLongTermMemory.repository)
          (fun s a ↦ sparesForgotten uuid5 encoder s a = true)
          ⟨InMemoryLongTermMemory.empty, []⟩ (as ++ bs) →
        ForgettingFinal inMemoryView uuid5 encoder InMemoryLongTermMemory.repository
          ⟨InMemoryLongTermMemory.empty, []⟩ as bs) :=
  ⟨fun _ howned herased ↦ sql_forgettingFinal uuid5 encoder howned herased as bs,
    inMemory_forgettingFinal uuid5 encoder⟩

section examples

def createdAndForgotten : List LongTermAction :=
  runCall 0 (.createMemory (likesTea 7)) 2 10 ++ runCall 1 (.forgetMemory 7 1 2) 2 20

theorem remembered_owned : Owned remembered :=
  ⟨fun _ h ↦ absurd h List.not_mem_nil, fun _ h ↦ absurd h List.not_mem_nil⟩

theorem remembered_erased : ForgottenErased sqlView remembered := by
  rintro memoryId ⟨memory, hmemory, hstatus⟩
  rw [List.mem_singleton.mp (Table.mem_of_find? hmemory)] at hstatus
  cases hstatus

theorem forgetting_final_second_memory :
    ForgettingFinal sqlView sumUuid5 localEncoder SqlAlchemyLongTermMemory.repository
        ⟨remembered, []⟩ createdAndForgotten (runCall 2 (.createMemory (likesTea 7)) 2 30) ∧
      ForgettingFinal inMemoryView sumUuid5 localEncoder InMemoryLongTermMemory.repository
        ⟨InMemoryLongTermMemory.empty, []⟩ createdAndForgotten
        (runCall 2 (.createMemory (likesTea 8)) 2 30) :=
  ⟨(forgetting_final sumUuid5 localEncoder createdAndForgotten
      (runCall 2 (.createMemory (likesTea 7)) 2 30)).1 remembered remembered_owned remembered_erased,
    (forgetting_final sumUuid5 localEncoder createdAndForgotten
      (runCall 2 (.createMemory (likesTea 8)) 2 30)).2 (by decide +kernel)⟩

def forgottenDuringRebuild : List LongTermAction :=
  runCall 0 (.createMemory (likesTea 7)) 2 10 ++
    runCall 1 (.requestEmbeddingRebuild 1 2 none 3 5) 2 11 ++
    runCall 2 (.runEmbeddingRebuild 1 2 5) 3 12 ++ runCall 3 (.forgetMemory 7 1 2) 2 20

/-- In memory, a redelivered creation brings the memory back, and a rebuild its embedding. -/
theorem inMemory_revives :
    ¬ForgettingFinal inMemoryView sumUuid5 localEncoder InMemoryLongTermMemory.repository
        ⟨InMemoryLongTermMemory.empty, []⟩ createdAndForgotten
        (runCall 2 (.createMemory (likesTea 7)) 2 30) ∧
      ¬ForgettingFinal inMemoryView sumUuid5 localEncoder InMemoryLongTermMemory.repository
        ⟨InMemoryLongTermMemory.empty, []⟩ forgottenDuringRebuild
        [.advance 2 ⟨21, false⟩] := by
  constructor
  · intro h
    have hback := (h 7 (isForgotten_iff.mp (by decide +kernel))).forgotten
    exact absurd (isForgotten_iff.mpr hback) (by decide +kernel)
  · intro h
    have hnone := (h 7 (isForgotten_iff.mp (by decide +kernel))).embeddings
    exact absurd (congrArg List.length hnone) (by decide +kernel)

end examples

end CyberNetizen.Memory
