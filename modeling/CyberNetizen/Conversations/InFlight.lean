import CyberNetizen.Conversations.ConversationRun

namespace CyberNetizen.Conversations

open Domain Infrastructure Infrastructure.ConversationRepository KeyedTable

def isInFlight (status : MessageStatus) : Bool := status = .processing || status = .streaming

/-- The reply of a run is `PROCESSING` exactly while the run is queued and `STREAMING` exactly
while it runs. -/
def Matches (status : AgentRunStatus) (reply : MessageStatus) : Prop :=
  (reply = .processing ↔ status = .queued) ∧ (reply = .streaming ↔ status = .running)

theorem matches_write {w : RunWrite} {now : Datetime} {run : AgentRun} {response : Message}
    (hg : Guard w run.status) :
    Matches (w.run now run).status (w.response now response).status := by
  cases w with
  | started => simp [Matches, RunWrite.run, RunWrite.response]
  | delta text =>
    have hrun : run.status = .running := hg
    simp [Matches, RunWrite.run, RunWrite.response, hrun]
  | completed usage suppressResponse =>
    cases suppressResponse <;> simp [Matches, RunWrite.run, RunWrite.response]
  | failed code => simp [Matches, RunWrite.run, RunWrite.response]
  | cancelled => simp [Matches, RunWrite.run, RunWrite.response]

/-- Every run has a reply of its own, in its conversation and in its phase. -/
structure Linked (s : ConversationStore) : Prop where
  unique : ∀ r ∈ s.runs, ∀ r' ∈ s.runs, r.responseMessageId = r'.responseMessageId → r = r'
  reply : ∀ run ∈ s.runs, ∃ m ∈ s.messages, m.id = run.responseMessageId ∧
    m.conversationId = run.conversationId ∧ Matches run.status m.status

namespace Opened

variable {s t : ConversationStore} {messages : List Message} {run : AgentRun}

theorem mem_runs (h : Opened messages run s t) {r : AgentRun} : r ∈ t.runs ↔ r ∈ s.runs ∨ r = run := by
  rw [← Table.mem_rows, h.runRows, List.mem_append, List.mem_singleton, Table.mem_rows]

theorem mem_messages (h : Opened messages run s t) {m : Message} :
    m ∈ t.messages ↔ m ∈ s.messages ∨ m ∈ messages := by
  rw [← Table.mem_rows, h.messageRows, List.mem_append, Table.mem_rows]

end Opened

section writeRun

variable {s : ConversationStore} {w : RunWrite} {now : Datetime} {run : AgentRun}
  {response : Message}

theorem write_responseMessageId (r : AgentRun) :
    (w.run now r).responseMessageId = r.responseMessageId := by
  cases w <;> rfl

theorem write_conversationId (m : Message) :
    (w.response now m).conversationId = m.conversationId := by
  cases w <;> rfl

theorem mem_writeRun_runs {r' : AgentRun} :
    r' ∈ (writeRun w now run response s).runs ↔
      ∃ r ∈ s.runs, (if r.id = run.id then w.run now r else r) = r' := by
  unfold writeRun
  simp [Table.mem_updateWhere]

theorem mem_writeRun_messages {m' : Message} :
    m' ∈ (writeRun w now run response s).messages ↔
      ∃ m ∈ s.messages, (if m.id = response.id then w.response now m else m) = m' := by
  unfold writeRun
  simp [Table.mem_updateWhere]

end writeRun

namespace Linked

variable {p : Allowed} {s t : ConversationStore}

theorem empty : Linked .empty where
  unique _ h := absurd h (Table.not_mem_empty _)
  reply _ h := absurd h (Table.not_mem_empty _)

theorem mono (h : Linked s) (hruns : t.runs = s.runs)
    (hmessages : ∀ m ∈ s.messages, m ∈ t.messages) : Linked t := by
  constructor
  · rw [hruns]
    exact h.unique
  · intro run hrun
    rw [hruns] at hrun
    obtain ⟨m, hm, hrest⟩ := h.reply run hrun
    exact ⟨m, hmessages m hm, hrest⟩

theorem opened (h : Linked s) {messages : List Message} {response : Message} {run : AgentRun}
    (hopening : IsOpening messages response run) (ho : Opened messages run s t) : Linked t := by
  constructor
  · intro r hr r' hr' he
    rcases ho.mem_runs.mp hr with hr | rfl
    · rcases ho.mem_runs.mp hr' with hr' | rfl
      · exact h.unique r hr r' hr' he
      · exact absurd he (ho.freshResponse r hr)
    · rcases ho.mem_runs.mp hr' with hr' | rfl
      · exact absurd he.symm (ho.freshResponse r' hr')
      · rfl
  · intro r hr
    rcases ho.mem_runs.mp hr with hr | rfl
    · obtain ⟨m, hm, hrest⟩ := h.reply r hr
      exact ⟨m, ho.mem_messages.mpr (.inl hm), hrest⟩
    · refine ⟨response, ho.mem_messages.mpr (.inr hopening.mem), hopening.id_eq,
        hopening.isLocal _ hopening.mem, ?_⟩
      rw [hopening.processing, hopening.queued]
      exact ⟨by simp, by simp⟩

theorem same_pair (h : Linked s) {run r : AgentRun} {response m : Message} (hrun : run ∈ s.runs)
    (hid : response.id = run.responseMessageId) (hr : r ∈ s.runs)
    (hmr : m.id = r.responseMessageId) : m.id = response.id ↔ r.id = run.id := by
  constructor
  · intro he
    rw [h.unique r hr run hrun (by rw [← hmr, he, hid])]
  · intro he
    rw [hmr, hid, Table.eq_of_key_eq hr hrun he]

theorem wrote (h : Linked s) {w : RunWrite} {now : Datetime} {run : AgentRun} {response : Message}
    (hrun : run ∈ s.runs) (hid : response.id = run.responseMessageId) (hg : Guard w run.status) :
    Linked (writeRun w now run response s) := by
  have hreply : ∀ r : AgentRun, (if r.id = run.id then w.run now r else r).responseMessageId =
      r.responseMessageId := fun r ↦ by
    split
    · exact write_responseMessageId r
    · rfl
  constructor
  · intro a ha b hb he
    obtain ⟨r, hr, rfl⟩ := mem_writeRun_runs.mp ha
    obtain ⟨r', hr', rfl⟩ := mem_writeRun_runs.mp hb
    rw [hreply, hreply] at he
    rw [h.unique r hr r' hr' he]
  · intro a ha
    obtain ⟨r, hr, rfl⟩ := mem_writeRun_runs.mp ha
    obtain ⟨m, hm, hmr, hconv, hmatch⟩ := h.reply r hr
    refine ⟨_, mem_writeRun_messages.mpr ⟨m, hm, rfl⟩, ?_⟩
    simp only [h.same_pair hrun hid hr hmr]
    by_cases hk : r.id = run.id
    · obtain rfl : r = run := Table.eq_of_key_eq hr hrun hk
      rw [if_pos hk, if_pos hk]
      refine ⟨?_, ?_, matches_write hg⟩
      · rw [(w.response now).key_eq m, hmr, write_responseMessageId]
      · rw [write_conversationId, hconv]
        cases w <;> rfl
    · rw [if_neg hk, if_neg hk]
      exact ⟨hmr, hconv, hmatch⟩

theorem change (h : Linked s) (hc : Change p s t) : Linked t := by
  cases hc with
  | row => exact h.mono rfl fun _ hm ↦ hm
  | feedback => exact h.mono rfl fun _ hm ↦ hm
  | note => exact h.mono (by simp) (by simp)
  | founded row userId t hseq hi =>
    obtain ⟨conversations, members, -, -, rfl⟩ := insertConversation_eq_ok hi
    exact h.mono rfl fun _ hm ↦ hm
  | copied item copy t hopens hitem hcopy hc hi =>
    obtain ⟨-, messages, hm, rfl⟩ := insertMessage_eq_ok hi
    refine h.mono (by simp) fun m hmem ↦ ?_
    rw [emit_messages]
    exact (Table.mem_insert? hm).mpr (.inl hmem)
  | opened messages response run t hopens hc hopening ho => exact h.opened hopening ho
  | wrote w now run response hrun hresponse hid hc hg hfails => exact h.wrote hrun hid hg

end Linked

def Claimed (s : ConversationStore) : Prop :=
  ∀ m ∈ s.messages, isInFlight m.status = true → ∃ run ∈ s.runs, run.responseMessageId = m.id

/-- Every elementary change keeps the replies claimed, as long as what is copied is not in flight. -/
theorem Claimed.change {s t : ConversationStore} (h : Claimed s)
    (hc : Change { copies := fun item ↦ isInFlight item.status = false } s t) : Claimed t := by
  cases hc with
  | row => exact h
  | feedback => exact h
  | note c e =>
    intro m hm hflight
    rw [emit_messages] at hm
    rw [emit_runs]
    exact h m hm hflight
  | founded row userId t hseq hi =>
    obtain ⟨conversations, members, -, -, rfl⟩ := insertConversation_eq_ok hi
    exact h
  | copied item copy t hopens hitem hcopy hc hi =>
    obtain ⟨-, messages, hinsert, rfl⟩ := insertMessage_eq_ok hi
    intro m hm hflight
    rw [emit_messages] at hm
    rw [emit_runs]
    rcases (Table.mem_insert? hinsert).mp hm with hm | rfl
    · exact h m hm hflight
    · rw [hcopy, hitem] at hflight
      cases hflight
  | opened messages response run t hopens hc hopening ho =>
    intro m hm hflight
    rcases ho.mem_messages.mp hm with hm | hm
    · obtain ⟨r, hr, he⟩ := h m hm hflight
      exact ⟨r, ho.mem_runs.mpr (.inl hr), he⟩
    · rcases hopening.received m hm with rfl | hreceived
      · exact ⟨run, ho.mem_runs.mpr (.inr rfl), hopening.id_eq.symm⟩
      · rw [hreceived] at hflight
        cases hflight
  | wrote w now run response hrun hresponse hid hc hg hfails =>
    intro m' hm' hflight
    obtain ⟨m, hm, rfl⟩ := mem_writeRun_messages.mp hm'
    have hclaimed : ∃ r ∈ s.runs, r.responseMessageId = m.id := by
      by_cases hk : m.id = response.id
      · exact ⟨run, hrun, by rw [hk, hid]⟩
      · rw [if_neg hk] at hflight
        exact h m hm hflight
    obtain ⟨r, hr, he⟩ := hclaimed
    refine ⟨_, mem_writeRun_runs.mpr ⟨r, hr, rfl⟩, ?_⟩
    have hr' : (if r.id = run.id then w.run now r else r).responseMessageId =
        r.responseMessageId := by
      split
      · exact write_responseMessageId r
      · rfl
    have hk' : (if m.id = response.id then w.response now m else m).id = m.id := by
      split
      · exact (w.response now).key_eq m
      · rfl
    rw [hr', hk', he]

def CopiesSettled (w : World) (a : Action) : Prop :=
  ∀ item ∈ copiedBy w a, isInFlight item.status = false

instance (w : World) (a : Action) : Decidable (CopiesSettled w a) :=
  inferInstanceAs (Decidable (∀ item ∈ copiedBy w a, isInFlight item.status = false))

/-- Every message in flight is the reply of exactly one run, which is in its conversation and in the
same phase, and every run that has not ended has its reply in flight. -/
def EveryReplyHasRun (s : ConversationStore) : Prop :=
  (∀ m ∈ s.messages, m.status = .processing ∨ m.status = .streaming →
    ∃ run ∈ s.runs, run.responseMessageId = m.id ∧ run.conversationId = m.conversationId ∧
      (m.status = .processing → run.status = .queued) ∧
      (m.status = .streaming → run.status = .running) ∧
      ∀ r ∈ s.runs, r.responseMessageId = m.id → r = run) ∧
  ∀ run ∈ s.runs, run.status = .queued ∨ run.status = .running →
    ∃ m ∈ s.messages, m.id = run.responseMessageId ∧
      (run.status = .queued → m.status = .processing) ∧
      (run.status = .running → m.status = .streaming)

theorem Linked.everyReplyHasRun {s : ConversationStore} (h : Linked s) (hclaimed : Claimed s) :
    EveryReplyHasRun s := by
  constructor
  · intro m hm hflight
    obtain ⟨run, hrun, hid⟩ := hclaimed m hm (by rcases hflight with h | h <;> rw [h] <;> rfl)
    obtain ⟨m', hm', hid', hconv, hmatch⟩ := h.reply run hrun
    obtain rfl := Table.eq_of_key_eq hm hm' (hid.symm.trans hid'.symm)
    refine ⟨run, hrun, hid, hconv.symm, hmatch.1.mp, hmatch.2.mp, fun r hr he ↦ ?_⟩
    exact h.unique r hr run hrun (he.trans hid.symm)
  · intro run hrun _
    obtain ⟨m, hm, hid, -, hmatch⟩ := h.reply run hrun
    exact ⟨m, hm, hid, hmatch.1.mpr, hmatch.2.mpr⟩

/-- As long as no edited branch copies a reply in flight, every reply in flight has its run. -/
theorem every_reply_has_run (as : List Action)
    (h : Machine.Along step CopiesSettled World.empty as) :
    EveryReplyHasRun (run World.empty as).store := by
  let I := fun s ↦ Linked s ∧ Claimed s
  have hchange : ∀ s t, I s → Change { copies := fun item ↦ isInFlight item.status = false } s t →
      I t := fun s t hs hc ↦ ⟨hs.1.change hc, hs.2.change hc⟩
  have hstep : ∀ w a, I w.store → CopiesSettled w a → I (step w a).2.store := fun w a hw ha ↦
    step_keeps hchange ⟨ha, fun _ _ _ ↦ trivial, fun _ ↦ trivial⟩ hw
  have hempty : I World.empty.store :=
    ⟨Linked.empty, fun _ hm ↦ absurd hm (Table.not_mem_empty _)⟩
  obtain ⟨hlinked, hclaimed⟩ := Machine.run_invariant (I := fun w : World ↦ I w.store) hstep hempty h
  exact hlinked.everyReplyHasRun hclaimed

section examples

def alice : DevelopmentIdentity := ⟨1, 2, 3⟩

def firstVersions : RunSnapshot := ⟨1, 1, 1, 0, 0, "default"⟩

/-- The identifiers of the `n`-th session. -/
def sessionIds (n : ℕ) : NewIds where
  trigger := 1000 * n + 1
  response := 1000 * n + 2
  run := 1000 * n + 3
  branch := 1000 * n + 4
  copied i := 1000 * n + 100 + i
  part message i := message * 1000 + i

/-- `send_message` in conversation 10. -/
def sendMessage (n : ℕ) (content : String) : Action :=
  .call (.agentRun alice 10 (n + 50) content [] [] firstVersions) (sessionIds n) (n * 100) (n * 100)
    0 0

def twoMessages : List Action :=
  [.createConversation alice "chat" 10 0, sendMessage 1 "hello", .markRunStarted 1003 110,
    .appendRunDelta 1003 "hi" 120, sendMessage 2 "and now?"]

def editSecond : List Action :=
  [.call (.editedBranch alice 2001 77 "and then?" firstVersions) (sessionIds 3) 300 300 0 0,
    .lock 0 (sessionIds 3) 310]

theorem every_reply_has_run_completed :
    EveryReplyHasRun (run World.empty
      (twoMessages ++ .completeRun 1003 none false 200 :: editSecond)).store :=
  every_reply_has_run _ (by decide +kernel)

/-- The branch is made while the first reply is streaming: its copy streams on for ever. -/
theorem branch_copies_streaming_reply :
    ¬EveryReplyHasRun (run World.empty (twoMessages ++ editSecond)).store := by
  intro h
  have hcopy : ((run World.empty (twoMessages ++ editSecond)).store.messages.rows.any fun m ↦
      m.id = 3102 && m.status = .streaming) = true := by decide +kernel
  obtain ⟨m, hm, hp⟩ := List.any_eq_true.mp hcopy
  simp only [Bool.and_eq_true, decide_eq_true_eq] at hp
  obtain ⟨r, hr, hid, -⟩ := h.1 m hm (.inr hp.2)
  have hnone : ((run World.empty (twoMessages ++ editSecond)).store.runs.rows.all fun r ↦
      r.responseMessageId ≠ 3102) = true := by decide +kernel
  have := List.all_eq_true.mp hnone r hr
  simp only [decide_eq_true_eq] at this
  exact this (hid.trans hp.1)

end examples

end CyberNetizen.Conversations
