import CyberNetizen.Lib.Machine
import CyberNetizen.Infrastructure.LongTermMemory

namespace CyberNetizen.Memory

open Domain Infrastructure Application.LongTermMemory KeyedTable
open Application.MemoryService (MemoryError requiredText)

structure LongTermState (σ : Type) where
  store : σ
  calls : List Call

inductive LongTermAction
  | request (request : Request)
  | advance (i : ℕ) (choice : Choice)

section

variable {σ : Type} (uuid5 : UUID → String → UUID) (encoder : EmbeddingEncoder)
  (repository : MemoryRepository σ)

/-- Calls are made and take their sessions in any order; one that takes no further session has
crashed, and a redelivered call is one more with the same arguments. -/
def longTermStep (s : LongTermState σ) : LongTermAction → Unit × LongTermState σ
  | .request request => ((), { s with calls := s.calls ++ [⟨request, .start⟩] })
  | .advance i choice =>
    match s.calls[i]? with
    | none => ((), s)
    | some call =>
      let (call, store) := advance uuid5 encoder repository call choice s.store
      ((), ⟨store, s.calls.set i call⟩)

def LongTermState.writing (s : LongTermState σ) : LongTermAction → Option Write
  | .request _ => none
  | .advance i choice =>
    if choice.faulty then none
    else (s.calls[i]?).bind fun call ↦ issued uuid5 encoder call.phase choice

/-- The store after a write, if any; a write that raises is rolled back. -/
def written (store : σ) : Option Write → σ
  | none => store
  | some write =>
    match repository.write write store with
    | .error _ => store
    | .ok (_, store) => store

end

/-- The arguments of a write belong together. -/
def WellFormed : Write → Prop
  | .createMemory memory sources embedding =>
    memory.status = .active ∧ memory.version = 1 ∧ memory.lineageId = memory.id ∧
      (∀ source ∈ sources, source.memoryId = memory.id ∧ source.tenantId = memory.tenantId) ∧
      embedding.memoryId = memory.id ∧ embedding.tenantId = memory.tenantId
  | .correctMemory sourceMemoryId replacement source embedding link =>
    replacement.status = .active ∧
      (source.memoryId = replacement.id ∧ source.tenantId = replacement.tenantId) ∧
      (embedding.memoryId = replacement.id ∧ embedding.tenantId = replacement.tenantId) ∧
      link.kind = .supersedes ∧ link.sourceMemoryId = replacement.id ∧
      link.targetMemoryId = sourceMemoryId
  | .replaceEmbedding memoryId tenantId embedding _ =>
    embedding.memoryId = memoryId ∧ embedding.tenantId = tenantId
  | _ => True

structure Reads {σ : Type} (repository : MemoryRepository σ) (memories : σ → Table Memory.id) :
    Prop where
  detail : ∀ {memoryId tenantId agentId s detail},
    repository.getMemoryDetail memoryId tenantId agentId s = some detail →
      (memories s).find? memoryId = some detail.memory ∧ detail.memory.tenantId = tenantId ∧
        detail.memory.agentId = agentId
  listed : ∀ {tenantId agentId userId s memory},
    memory ∈ repository.listMemoriesForEmbedding tenantId agentId userId s →
      memory.tenantId = tenantId

def PhaseKept : Phase → Prop
  | .write write => WellFormed write
  | .startJob running memories | .recordProgress running memories =>
    ∀ memory ∈ memories, memory.tenantId = running.tenantId
  | .replaceEmbedding running memory _ rest =>
    ∀ m ∈ memory :: rest, m.tenantId = running.tenantId
  | _ => True

section

variable {σ : Type} {uuid5 : UUID → String → UUID} {encoder : EmbeddingEncoder}
  {repository : MemoryRepository σ} {memories : σ → Table Memory.id}

theorem sourceRecord_eq_ok {draft : MemorySourceDraft} {tenantId memoryId recordId : UUID}
    {createdAt : Datetime} {source : MemorySource}
    (h : sourceRecord draft tenantId memoryId createdAt recordId = .ok source) :
    source.memoryId = memoryId ∧ source.tenantId = tenantId := by
  unfold sourceRecord at h
  cases hid : requiredText draft.sourceId "来源 ID" 255 with
  | error error => rw [hid] at h; cases h
  | ok sourceId =>
    cases hexcerpt : optionalText draft.excerpt 2000 with
    | error error => rw [hid, hexcerpt] at h; cases h
    | ok excerpt =>
      rw [hid, hexcerpt] at h
      by_cases hv : draft.isVerbatim ∧ excerpt.isNone
      · simp only [bind, Except.bind, hv, and_self, if_true] at h
        cases h
      · simp only [bind, Except.bind, if_neg hv, pure, Except.pure] at h
        obtain rfl := Except.ok.inj h
        exact ⟨rfl, rfl⟩

theorem sourceRecords_eq_ok {drafts : List MemorySourceDraft} {tenantId memoryId : UUID}
    {now : Datetime} {sources : List MemorySource}
    (h : sourceRecords uuid5 drafts tenantId memoryId now = .ok sources) :
    ∀ source ∈ sources, source.memoryId = memoryId ∧ source.tenantId = tenantId := by
  have hmap : ∀ (l : List (MemorySourceDraft × ℕ)) (out : List MemorySource),
      (l.mapM fun p ↦ sourceRecord p.1 tenantId memoryId now
        (uuid5 memoryId s!"source:{p.2}")) = .ok out →
      ∀ source ∈ out, source.memoryId = memoryId ∧ source.tenantId = tenantId := by
    intro l
    induction l with
    | nil =>
      intro out hout source hs
      obtain rfl := Except.ok.inj hout
      exact absurd hs List.not_mem_nil
    | cons p l ih =>
      intro out hout source hs
      rw [List.mapM_cons] at hout
      cases hp : sourceRecord p.1 tenantId memoryId now (uuid5 memoryId s!"source:{p.2}") with
      | error error => rw [hp] at hout; cases hout
      | ok first =>
        cases hl : (l.mapM fun p ↦ sourceRecord p.1 tenantId memoryId now
            (uuid5 memoryId s!"source:{p.2}")) with
        | error error => rw [hp, hl] at hout; cases hout
        | ok rest =>
          rw [hp, hl] at hout
          obtain rfl := Except.ok.inj hout
          rcases List.mem_cons.mp hs with rfl | hs
          · exact sourceRecord_eq_ok hp
          · exact ih rest hl source hs
  exact hmap _ _ h

theorem prepareCreate_eq_ok {command : CreateMemory} {now : Datetime} {write : Write}
    (h : prepareCreate uuid5 encoder command now = .ok write) :
    ∃ normalized sources,
      write = .createMemory (created encoder command normalized now) sources
        (embedding uuid5 encoder (created encoder command normalized now) normalized now) ∧
      ∀ source ∈ sources,
        source.memoryId = command.memoryId ∧ source.tenantId = command.tenantId := by
  unfold prepareCreate at h
  cases hcontent : requiredText command.content "记忆内容" 8000 with
  | error error => rw [hcontent] at h; cases h
  | ok normalized =>
    cases hvalid : validateMemoryValues command with
    | error error => rw [hcontent, hvalid] at h; cases h
    | ok _ =>
      cases hsources : sourceRecords uuid5 command.sources command.tenantId command.memoryId now with
      | error error => rw [hcontent, hvalid] at h; simp [bind, Except.bind, hsources] at h
      | ok sources =>
        rw [hcontent, hvalid] at h
        simp only [bind, Except.bind, hsources, pure, Except.pure] at h
        exact ⟨normalized, sources, (Except.ok.inj h).symm, sourceRecords_eq_ok hsources⟩

/-- The correction that a call has prepared from the memory it read. -/
theorem prepareCorrect_eq_ok {command : CorrectMemory} {now : Datetime}
    {detail : Option MemoryDetail} {write : Write}
    (h : prepareCorrect uuid5 encoder command now detail = .ok write) :
    ∃ source normalized note, detail = some source ∧ source.memory.status = .active ∧
      write = .correctMemory command.memoryId
        (replacement encoder source.memory command normalized now) (correctionSource command now)
        (embedding uuid5 encoder (replacement encoder source.memory command normalized now)
          normalized now)
        (supersedesLink command note now) := by
  unfold prepareCorrect at h
  cases detail with
  | none => cases h
  | some source =>
    dsimp only at h
    by_cases hstatus : source.memory.status = .active
    · rw [if_neg (not_not_intro hstatus)] at h
      cases hcontent : requiredText command.content "纠正后的记忆内容" 8000 with
      | error error => rw [hcontent] at h; cases h
      | ok normalized =>
        cases hnote : optionalText command.note 1000 with
        | error error => rw [hcontent, hnote] at h; cases h
        | ok note =>
          rw [hcontent, hnote] at h
          exact ⟨source, normalized, note, rfl, hstatus, (Except.ok.inj h).symm⟩
    · rw [if_pos hstatus] at h
      cases h

theorem prepareConfirmation_eq_ok {memoryId tenantId agentId : UUID}
    {confirmation : MemoryConfirmation} {now : Datetime} {detail : Option MemoryDetail}
    {write : Write}
    (h : prepareConfirmation memoryId tenantId agentId confirmation now detail = .ok write) :
    ∃ confidence, write =
      .setConfirmation memoryId tenantId agentId confirmation confidence now := by
  unfold prepareConfirmation at h
  cases detail with
  | none => cases h
  | some source =>
    dsimp only at h
    split at h
    · cases h
    · exact ⟨_, (Except.ok.inj h).symm⟩

theorem conclude_kept (request : Request) (answer : Answer) : PhaseKept (conclude request answer) := by
  unfold conclude
  split <;> trivial

theorem nextMemory_kept {running : MemoryIndexJob} {now : Datetime} {l : List Memory}
    (h : ∀ memory ∈ l, memory.tenantId = running.tenantId) :
    PhaseKept (nextMemory running now l) := by
  induction l with
  | nil => trivial
  | cons memory l ih =>
    unfold nextMemory
    cases memory.content with
    | none => exact ih fun m hm ↦ h m (List.mem_cons_of_mem _ hm)
    | some content => exact h

theorem begin_kept (hr : Reads repository memories) (request : Request) (choice : Choice) (s : σ) :
    PhaseKept (begin uuid5 encoder repository request choice s) := by
  unfold begin
  cases request with
  | createMemory command =>
    dsimp only
    cases h : prepareCreate uuid5 encoder command choice.clock with
    | error error => trivial
    | ok write =>
      obtain ⟨normalized, sources, rfl, hsources⟩ := prepareCreate_eq_ok h
      exact ⟨rfl, rfl, rfl, hsources, rfl, rfl⟩
  | setConfirmation memoryId tenantId agentId confirmation =>
    dsimp only
    cases h : prepareConfirmation memoryId tenantId agentId confirmation choice.clock
      (repository.getMemoryDetail memoryId tenantId agentId s) with
    | error error => trivial
    | ok write =>
      obtain ⟨confidence, rfl⟩ := prepareConfirmation_eq_ok h
      trivial
  | correctMemory command =>
    dsimp only
    cases h : prepareCorrect uuid5 encoder command choice.clock
      (repository.getMemoryDetail command.memoryId command.tenantId command.agentId s) with
    | error error => trivial
    | ok write =>
      obtain ⟨source, normalized, note, hdetail, -, rfl⟩ := prepareCorrect_eq_ok h
      obtain ⟨-, htenant, -⟩ := hr.detail hdetail
      exact ⟨rfl, ⟨rfl, htenant.symm⟩, ⟨rfl, rfl⟩, rfl, rfl, rfl⟩
  | forgetMemory | requestEmbeddingRebuild => trivial
  | runEmbeddingRebuild tenantId agentId jobId =>
    dsimp only
    cases repository.getIndexJob tenantId agentId jobId s with
    | none => trivial
    | some job =>
      dsimp only
      split <;> trivial

theorem resume_kept {call : Call} {choice : Choice} {outcome : Except RepositoryFailure Answer}
    (h : PhaseKept call.phase) : PhaseKept (resume call choice outcome) := by
  unfold resume
  cases hphase : call.phase with
  | start | returned | raised | listMemories => cases outcome <;> trivial
  | write write =>
    cases outcome with
    | error error => trivial
    | ok answer => exact conclude_kept call.request answer
  | startJob running l | recordProgress running l =>
    rw [hphase] at h
    cases outcome with
    | error error => trivial
    | ok answer => exact nextMemory_kept h
  | replaceEmbedding running memory content rest =>
    rw [hphase] at h
    cases outcome with
    | error error => trivial
    | ok answer => exact fun m hm ↦ h m (List.mem_cons_of_mem _ hm)
  | completeJob | failJob => cases outcome <;> trivial

/-- A session of a call writes what it has issued and keeps its arguments together. -/
theorem advance_spec (hr : Reads repository memories) (call : Call) (choice : Choice) (s : σ)
    (h : PhaseKept call.phase) :
    PhaseKept (advance uuid5 encoder repository call choice s).1.phase ∧
      (advance uuid5 encoder repository call choice s).2 = written repository s
        (if choice.faulty then none else issued uuid5 encoder call.phase choice) := by
  unfold advance
  cases hissued : issued uuid5 encoder call.phase choice with
  | some write =>
    dsimp only
    by_cases hfaulty : choice.faulty = true
    · simp only [hfaulty, if_true]
      exact ⟨resume_kept h, rfl⟩
    · simp only [hfaulty, Bool.false_eq_true, if_false, written]
      cases repository.write write s with
      | error error => exact ⟨resume_kept h, rfl⟩
      | ok result => exact ⟨resume_kept h, rfl⟩
  | none =>
    have hwritten : written repository s (if choice.faulty then none else none) = s := by
      rw [ite_self]
      rfl
    rw [hwritten]
    cases hphase : call.phase with
    | start => exact ⟨begin_kept hr call.request choice s, rfl⟩
    | listMemories job => exact ⟨fun memory hm ↦ hr.listed hm, rfl⟩
    | returned | raised =>
      refine ⟨?_, rfl⟩
      dsimp only
      rw [hphase]
      trivial
    | write | startJob | replaceEmbedding | recordProgress | completeJob | failJob =>
      rw [hphase] at hissued
      cases hissued

theorem wellFormed_of_issued {phase : Phase} {choice : Choice} {write : Write}
    (h : PhaseKept phase) (hissued : issued uuid5 encoder phase choice = some write) :
    WellFormed write := by
  cases phase with
  | write write' =>
    obtain rfl := Option.some.inj hissued
    exact h
  | replaceEmbedding running memory content rest =>
    obtain rfl := Option.some.inj hissued
    exact ⟨rfl, h memory List.mem_cons_self⟩
  | startJob | recordProgress | completeJob | failJob =>
    obtain rfl := Option.some.inj hissued
    trivial
  | start | listMemories | returned | raised => cases hissued

def CallsKept (s : LongTermState σ) : Prop := ∀ call ∈ s.calls, PhaseKept call.phase

theorem longTermStep_store (hr : Reads repository memories) (s : LongTermState σ)
    (a : LongTermAction) (h : CallsKept s) :
    (longTermStep uuid5 encoder repository s a).2.store =
      written repository s.store (s.writing uuid5 encoder a) := by
  cases a with
  | request request => rfl
  | advance i choice =>
    unfold longTermStep LongTermState.writing
    dsimp only
    cases hcall : s.calls[i]? with
    | none =>
      rw [Option.bind_none, ite_self]
      rfl
    | some call =>
      exact (advance_spec hr call choice s.store (h call (List.mem_of_getElem? hcall))).2

theorem callsKept_step (hr : Reads repository memories) (s : LongTermState σ) (a : LongTermAction)
    (h : CallsKept s) : CallsKept (longTermStep uuid5 encoder repository s a).2 := by
  intro call hcall
  cases a with
  | request request =>
    rcases List.mem_append.mp hcall with hcall | hcall
    · exact h call hcall
    · rw [List.mem_singleton.mp hcall]
      trivial
  | advance i choice =>
    unfold longTermStep at hcall
    dsimp only at hcall
    cases hold : s.calls[i]? with
    | none =>
      rw [hold] at hcall
      exact h call hcall
    | some old =>
      rw [hold] at hcall
      rcases List.mem_or_eq_of_mem_set hcall with hcall | rfl
      · exact h call hcall
      · exact (advance_spec hr old choice s.store (h old (List.mem_of_getElem? hold))).1

theorem wellFormed_of_writing {s : LongTermState σ} {a : LongTermAction} {write : Write}
    (h : CallsKept s) (hw : s.writing uuid5 encoder a = some write) : WellFormed write := by
  cases a with
  | request request => cases hw
  | advance i choice =>
    unfold LongTermState.writing at hw
    dsimp only at hw
    split at hw
    · cases hw
    · obtain ⟨call, hcall, hissued⟩ := Option.bind_eq_some_iff.mp hw
      exact wellFormed_of_issued (h call (List.mem_of_getElem? hcall)) hissued

/-- A store predicate that well-formed writes preserve holds throughout every run. -/
theorem run_store {I : σ → Prop} {P : LongTermState σ → LongTermAction → Prop}
    (hr : Reads repository memories)
    (hwrite : ∀ s a write answer store, P s a → s.writing uuid5 encoder a = some write →
      WellFormed write → I s.store → repository.write write s.store = .ok (answer, store) → I store)
    {s : LongTermState σ} (hcalls : CallsKept s) (hs : I s.store) {as : List LongTermAction}
    (h : Machine.Along (longTermStep uuid5 encoder repository) P s as) :
    CallsKept (Machine.run (longTermStep uuid5 encoder repository) s as) ∧
      I (Machine.run (longTermStep uuid5 encoder repository) s as).store := by
  refine Machine.run_invariant (I := fun s ↦ CallsKept s ∧ I s.store) (P := P) ?_ ⟨hcalls, hs⟩ h
  rintro s a ⟨hcalls, hs⟩ hP
  refine ⟨callsKept_step hr s a hcalls, ?_⟩
  rw [longTermStep_store hr s a hcalls]
  cases hw : s.writing uuid5 encoder a with
  | none => exact hs
  | some write =>
    unfold written
    dsimp only
    cases hresult : repository.write write s.store with
    | error error => exact hs
    | ok result =>
      exact hwrite s a write result.1 result.2 hP hw (wellFormed_of_writing hcalls hw) hs hresult

end

theorem sql_reads : Reads SqlAlchemyLongTermMemory.repository LongTermStore.memories where
  detail h := by
    obtain ⟨memory, hmemory, rfl⟩ := Option.map_eq_some_iff.mp h
    obtain ⟨hfind, hscope⟩ := Option.filter_eq_some_iff.mp hmemory
    simp only [Bool.and_eq_true, decide_eq_true_eq] at hscope
    exact ⟨hfind, hscope⟩
  listed h := by
    have hrow := (List.mem_filter.mp (List.mem_mergeSort.mp h)).2
    simp only [Bool.and_eq_true, decide_eq_true_eq] at hrow
    exact hrow.1.1.1.1

theorem inMemory_reads : Reads InMemoryLongTermMemory.repository MemoryDictionaries.memories where
  detail h := by
    obtain ⟨memory, hmemory, rfl⟩ := Option.map_eq_some_iff.mp h
    obtain ⟨hfind, hscope⟩ := Option.filter_eq_some_iff.mp hmemory
    simp only [Bool.and_eq_true, decide_eq_true_eq] at hscope
    exact ⟨hfind, hscope⟩
  listed h := by
    have hrow := (List.mem_filter.mp h).2
    simp only [Bool.and_eq_true, decide_eq_true_eq] at hrow
    exact hrow.1.1.1.1

def localEncoder : EmbeddingEncoder := ⟨"local-hash-v1", 1, fun _ ↦ [1]⟩

def sumUuid5 : UUID → String → UUID := fun namespaceId name ↦ 100 * namespaceId + name.length

/-- A statement of user 3 to agent 2. -/
def likesTea (entityId : UUID) : CreateMemory where
  tenantId := 1
  agentId := 2
  userId := some 3
  conversationId := none
  episodeId := none
  kind := .semantic
  visibility := .user
  content := "likes tea"
  eventAt := 0
  confidence := 1 / 2
  importance := 1 / 2
  emotionalWeight := 0
  sensitivity := .normal
  confirmation := .unconfirmed
  sources := [⟨.userStatement, "message-9", some "I like tea", true, 0⟩]
  actorId := 3
  entityId := some entityId
  generatedId := 0

def runCall (i : ℕ) (request : Request) (sessions : ℕ) (clock : Datetime) : List LongTermAction :=
  .request request :: List.replicate sessions (.advance i ⟨clock, false⟩)

def remembered : LongTermStore :=
  { LongTermStore.empty with
    memories := ⟨[created localEncoder (likesTea 7) "likes tea" 5], List.nodup_singleton _⟩ }

end CyberNetizen.Memory
