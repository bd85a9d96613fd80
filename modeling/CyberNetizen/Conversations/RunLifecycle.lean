import CyberNetizen.Application.ConversationService
import CyberNetizen.Conversations.ConversationRun
import CyberNetizen.Conversations.InFlight

namespace CyberNetizen.Conversations

open Domain Infrastructure Infrastructure.ConversationRepository KeyedTable
open Application Application.ConversationService

/-- The repository, and the calls on runs in the order in which they were made. A call that is
never scheduled again has died with its process. -/
structure ServiceState where
  world : World
  calls : List Call

def ServiceState.empty : ServiceState := ⟨.empty, []⟩

def ServiceState.store (s : ServiceState) : ConversationStore := s.world.store

inductive ServiceAction
  /-- Other callers of the repository, which write no run. -/
  | traffic (a : Action)
  | executeRun (identity : DevelopmentIdentity) (pending : PendingAgentRun) (resumeQueued : Bool)
  | failInterruptedRun (identity : DevelopmentIdentity) (pending : PendingAgentRun)
  | cancelRun (identity : DevelopmentIdentity) (runId : UUID)
  /-- `process` sends its message. -/
  | process (identity : DevelopmentIdentity) (conversationId clientMessageId : UUID)
      (content : String) (attachments : List Attachment)
      (contentBlocks : List MultimodalContentBlock) (snapshot : RunSnapshot) (ids : NewIds)
      (now updatedAt : Datetime)
  | advance (i : ℕ) (choice : Choice) (now : Datetime)

def writesRun : Action → Bool
  | .markRunStarted .. | .appendRunDelta .. | .completeRun .. | .failRun .. | .cancelRun .. => true
  | _ => false

def ServiceState.withStore (s : ServiceState) (store : ConversationStore) (calls : List Call) :
    ServiceState :=
  ⟨{ s.world with store }, calls⟩

section step

variable (s : ServiceState)

def serviceStep : ServiceAction → Unit × ServiceState
  | .traffic a => ((), if writesRun a then s else { s with world := (step s.world a).2 })
  | .executeRun identity pending resumeQueued =>
    ((), { s with calls := s.calls ++ [ConversationService.executeRun identity pending resumeQueued] })
  | .failInterruptedRun identity pending =>
    ((), { s with
      calls := s.calls ++ [ConversationService.failInterruptedRun identity pending false] })
  | .cancelRun identity runId =>
    ((), { s with calls := s.calls ++ [ConversationService.cancelRun identity runId] })
  | .process identity conversationId clientMessageId content attachments contentBlocks snapshot ids
      now updatedAt =>
    ((),
      if (getConversation identity conversationId s.store).isNone then s
      else
        match beginAgentRun identity snapshot ids now conversationId clientMessageId content
          attachments contentBlocks updatedAt s.store with
        | .error _ => s
        | .ok (pending, t) => s.withStore t (s.calls ++ [processPending identity pending]))
  | .advance i choice now =>
    ((),
      match s.calls[i]? with
      | none => s
      | some c =>
        let r := advance now s.store c choice
        s.withStore r.2 (s.calls.set i r.1))

def failedByCall (c : Call) (choice : Choice) (t : ConversationStore) : Option AgentRunStatus :=
  match c.phase, choice with
  | .failing _, .proceed => (t.runs.find? c.runId).map (·.status)
  | .interrupting, .proceed => (t.runs.find? c.runId).map (·.status)
  | _, _ => none

def failedByStep : ServiceAction → Option AgentRunStatus
  | .advance i choice _ => (s.calls[i]?).bind fun c ↦ failedByCall c choice s.store
  | _ => none

end step

section changes

variable {p : Allowed} {now : Datetime}
  {t : ConversationStore}

theorem advance_changes {c : Call} {choice : Choice}
    (hfails : ∀ status, failedByCall c choice t = some status → status ≠ .cancelled →
      p.fails status) : Changes p t (advance now t c choice).2 := by
  unfold advance
  split
  · split
    · rename_i h
      exact markRunStarted_changes h
    · exact .refl
    · exact .refl
  · split
    · rename_i h
      exact appendRunDelta_changes h
    · exact .refl
  · split
    · rename_i h
      exact completeRun_changes h
    · exact .refl
  any_goals exact .refl
  · rename_i hphase
    split
    · rename_i h
      refine failRun_changes (fun status hs ↦ hfails status ?_) h
      simpa only [failedByCall, hphase] using hs
    · exact .refl
  · split
    · rename_i h
      exact cancelRun_changes h
    · exact .refl
  · split <;> exact .refl
  · rename_i hphase
    split
    · rename_i h
      refine failRun_changes (fun status hs ↦ hfails status ?_) h
      simpa only [failedByCall, hphase] using hs
    · exact .refl
  · split <;> exact .refl
  · split
    · rename_i h
      exact cancelRun_changes h
    · exact .refl

theorem traffic_not_failing {w : World} {a : Action} (h : writesRun a = false) :
    failedBy w a = none := by
  cases a <;> first | rfl | cases h

theorem serviceStep_changes {fails : AgentRunStatus → Prop} {s : ServiceState} {a : ServiceAction}
    (hfails : ∀ status, failedByStep s a = some status → status ≠ .cancelled → fails status) :
    Changes { fails } s.store (serviceStep s a).2.store := by
  cases a with
  | traffic a =>
    simp only [serviceStep]
    split
    · exact .refl
    · rename_i h
      refine step_changes ⟨fun _ _ ↦ trivial, fun status hs ↦ ?_, fun _ ↦ trivial⟩
      rw [traffic_not_failing (Bool.eq_false_of_not_eq_true h)] at hs
      cases hs
  | executeRun => exact .refl
  | failInterruptedRun => exact .refl
  | cancelRun => exact .refl
  | process identity conversationId clientMessageId content attachments contentBlocks snapshot ids
      now updatedAt =>
    simp only [serviceStep]
    split
    · exact .refl
    · split
      · exact .refl
      · rename_i h
        exact (beginAgentRun_eq_ok h).changes trivial
  | advance i choice now =>
    simp only [serviceStep]
    cases hc : s.calls[i]? with
    | none => exact .refl
    | some c =>
      refine advance_changes fun status hs ↦ hfails status ?_
      simpa only [failedByStep, hc, Option.bind_some] using hs

end changes

def FailsOpen (s : ServiceState) (a : ServiceAction) : Prop :=
  ∀ status ∈ failedByStep s a, status ≠ .cancelled → status.isTerminal = false

instance (s : ServiceState) (a : ServiceAction) : Decidable (FailsOpen s a) :=
  inferInstanceAs (Decidable (∀ status ∈ failedByStep s a, status ≠ .cancelled →
    status.isTerminal = false))

end CyberNetizen.Conversations

namespace CyberNetizen.Conversations

open Domain Infrastructure Infrastructure.ConversationRepository KeyedTable
open Application Application.ConversationService

inductive Moves : AgentRunStatus → AgentRunStatus → Prop
  | start : Moves .queued .running
  | complete : Moves .running .completed
  | failRunning : Moves .running .failed
  | cancelRunning : Moves .running .cancelled
  | failQueued : Moves .queued .failed
  | cancelQueued : Moves .queued .cancelled

theorem moves_write {w : RunWrite} {now : Datetime} {run : AgentRun} (hg : Guard w run.status)
    (hfails : ∀ code, w = .failed code → run.status.isTerminal = false) :
    Relation.ReflTransGen Moves run.status (w.run now run).status := by
  cases w with
  | started =>
    rw [show run.status = .queued from hg]
    exact .single .start
  | delta text => exact .refl
  | completed usage suppressResponse =>
    rw [show run.status = .running from hg]
    exact .single .complete
  | failed code =>
    have hopen := hfails code rfl
    cases hs : run.status with
    | queued => exact .single .failQueued
    | running => exact .single .failRunning
    | completed | cancelled | failed => rw [hs] at hopen; cases hopen
  | cancelled =>
    have hopen : run.status.isTerminal = false := hg
    cases hs : run.status with
    | queued => exact .single .cancelQueued
    | running => exact .single .cancelRunning
    | completed | cancelled | failed => rw [hs] at hopen; cases hopen

theorem guard_open {w : RunWrite} {status : AgentRunStatus} (hg : Guard w status)
    (hfails : ∀ code, w = .failed code → status.isTerminal = false) :
    status.isTerminal = false := by
  cases w with
  | started => rw [show status = .queued from hg]; rfl
  | delta text => rw [show status = .running from hg]; rfl
  | completed usage suppressResponse => rw [show status = .running from hg]; rfl
  | failed code => exact hfails code rfl
  | cancelled => exact hg

def runEvents (runId : UUID) (s : ConversationStore) : List ConversationEvent :=
  s.events.filter (·.runId = some runId)

/-- Nothing of an ended run changes: not its row, not its reply and not its events. -/
structure Frozen (run : AgentRun) (s t : ConversationStore) : Prop where
  row : run ∈ t.runs
  reply : ∀ m ∈ s.messages, m.id = run.responseMessageId → m ∈ t.messages
  events : runEvents run.id t = runEvents run.id s

/-- Every run of the first store has only made moves, and if it had ended there it is frozen. -/
structure Lifecycle (s t : ConversationStore) : Prop where
  moves : ∀ run ∈ s.runs, ∃ run' ∈ t.runs, run'.id = run.id ∧
    Relation.ReflTransGen Moves run.status run'.status
  frozen : ∀ run ∈ s.runs, run.status.isTerminal = true → Frozen run s t

namespace Lifecycle

variable {s t u : ConversationStore}

theorem refl (s : ConversationStore) : Lifecycle s s where
  moves run hrun := ⟨run, hrun, rfl, .refl⟩
  frozen _ hrun _ := ⟨hrun, fun _ hm _ ↦ hm, rfl⟩

theorem trans (h : Lifecycle s t) (h' : Lifecycle t u) : Lifecycle s u where
  moves run hrun := by
    obtain ⟨run', hrun', hid, hmoves⟩ := h.moves run hrun
    obtain ⟨run'', hrun'', hid', hmoves'⟩ := h'.moves run' hrun'
    exact ⟨run'', hrun'', hid'.trans hid, hmoves.trans hmoves'⟩
  frozen run hrun hend := by
    have hst := h.frozen run hrun hend
    have htu := h'.frozen run hst.row hend
    exact ⟨htu.row, fun m hm hid ↦ htu.reply m (hst.reply m hm hid) hid,
      htu.events.trans hst.events⟩

theorem mono (hruns : t.runs = s.runs) (hmessages : ∀ m ∈ s.messages, m ∈ t.messages)
    (hevents : ∀ k, runEvents k t = runEvents k s) : Lifecycle s t where
  moves run hrun := ⟨run, by rw [hruns]; exact hrun, rfl, .refl⟩
  frozen run hrun _ := ⟨by rw [hruns]; exact hrun, fun m hm _ ↦ hmessages m hm, hevents run.id⟩

end Lifecycle

theorem runEvents_emit {c k : UUID} {e : Emission} {s : ConversationStore}
    (h : e.runId ≠ some k) : runEvents k (emit c s e) = runEvents k s := by
  unfold emit runEvents
  split
  · rfl
  · rw [List.filter_append]
    simp [h]

theorem runEvents_emitAll {c k : UUID} {es : List Emission} {s : ConversationStore}
    (h : ∀ e ∈ es, e.runId ≠ some k) : runEvents k (emitAll c es s) = runEvents k s := by
  induction es generalizing s with
  | nil => rfl
  | cons e es ih =>
    rw [emitAll_cons, ih fun e' he' ↦ h e' (List.mem_cons_of_mem _ he'),
      runEvents_emit (h e List.mem_cons_self)]

theorem emissions_runId {w : RunWrite} {run : AgentRun} {response : Message} {e : Emission}
    (h : e ∈ w.emissions run response) : e.runId = some run.id := by
  cases w <;> simp only [RunWrite.emissions, List.mem_cons, List.not_mem_nil, or_false] at h <;>
    first | rw [h] | rcases h with rfl | rfl <;> rfl

namespace Lifecycle

variable {s t : ConversationStore}

theorem opened {messages : List Message} {run : AgentRun} (ho : Opened messages run s t) :
    Lifecycle s t where
  moves r hr := ⟨r, ho.mem_runs.mpr (.inl hr), rfl, .refl⟩
  frozen r hr _ := by
    refine ⟨ho.mem_runs.mpr (.inl hr), fun m hm _ ↦ ho.mem_messages.mpr (.inl hm), ?_⟩
    obtain ⟨v, -, hv, rfl⟩ := ho.logged
    have hne : some run.id ≠ some r.id := fun he ↦ ho.freshRun r hr (Option.some.inj he).symm
    rw [runEvents_emitAll, runEvents, runEvents, hv]
    intro e he
    rcases List.mem_append.mp he with he | he
    · obtain ⟨m, -, rfl⟩ := List.mem_map.mp he
      exact hne
    · rw [List.mem_singleton.mp he]
      exact hne

theorem wrote (h : Linked s) {w : RunWrite} {now : Datetime} {run : AgentRun} {response : Message}
    (hrun : run ∈ s.runs) (hid : response.id = run.responseMessageId) (hg : Guard w run.status)
    (hfails : ∀ code, w = .failed code → run.status.isTerminal = false) :
    Lifecycle s (writeRun w now run response s) where
  moves r hr := by
    refine ⟨_, mem_writeRun_runs.mpr ⟨r, hr, rfl⟩, ?_⟩
    by_cases hk : r.id = run.id
    · obtain rfl : r = run := Table.eq_of_key_eq hr hrun hk
      rw [if_pos hk]
      exact ⟨(w.run now).key_eq r, moves_write hg hfails⟩
    · rw [if_neg hk]
      exact ⟨rfl, .refl⟩
  frozen r hr hend := by
    -- The write is about another run, since this one has ended.
    have hk : r.id ≠ run.id := fun he ↦ by
      rw [Table.eq_of_key_eq hr hrun he, guard_open hg hfails] at hend
      cases hend
    refine ⟨mem_writeRun_runs.mpr ⟨r, hr, if_neg hk⟩, fun m hm hmr ↦ ?_, ?_⟩
    · exact mem_writeRun_messages.mpr
        ⟨m, hm, if_neg fun he ↦ hk ((h.same_pair hrun hid hr hmr).mp he)⟩
    · unfold writeRun
      rw [runEvents_emitAll]
      · rfl
      · intro e he
        rw [emissions_runId he, (w.run now).key_eq run]
        exact fun he ↦ hk (Option.some.inj he).symm

theorem change (h : Linked s) (hc : Change { fails := fun status ↦ status.isTerminal = false } s t) :
    Lifecycle s t := by
  cases hc with
  | row => exact mono rfl (fun _ hm ↦ hm) fun _ ↦ rfl
  | feedback => exact mono rfl (fun _ hm ↦ hm) fun _ ↦ rfl
  | note c e he =>
    refine mono (by simp) (by simp) fun k ↦ runEvents_emit ?_
    rw [he.noRun]
    exact fun he ↦ (nomatch he)
  | founded row userId t hseq hi =>
    obtain ⟨conversations, members, -, -, rfl⟩ := insertConversation_eq_ok hi
    exact mono rfl (fun _ hm ↦ hm) fun _ ↦ rfl
  | copied item copy t hopens hitem hcopy hc hi =>
    obtain ⟨-, messages, hinsert, rfl⟩ := insertMessage_eq_ok hi
    refine mono (by simp) (fun m hm ↦ ?_) fun k ↦ runEvents_emit fun he ↦ (nomatch he)
    rw [emit_messages]
    exact (Table.mem_insert? hinsert).mpr (.inl hm)
  | opened messages response run t hopens hc hopening ho => exact opened ho
  | wrote w now run response hrun hresponse hid hc hg hfails => exact wrote h hrun hid hg hfails

theorem of_changes (h : Linked s)
    (hc : Changes { fails := fun status ↦ status.isTerminal = false } s t) :
    Linked t ∧ Lifecycle s t := by
  induction hc with
  | refl => exact ⟨h, refl s⟩
  | tail _ hstep ih => exact ⟨ih.1.change hstep, ih.2.trans (change ih.1 hstep)⟩

end Lifecycle

theorem serviceStep_lifecycle {s : ServiceState} (h : Linked s.store) {a : ServiceAction}
    (ha : FailsOpen s a) :
    Linked (serviceStep s a).2.store ∧ Lifecycle s.store (serviceStep s a).2.store :=
  Lifecycle.of_changes h (serviceStep_changes ha)

abbrev serviceRun (as : List ServiceAction) : ServiceState :=
  Machine.run serviceStep .empty as

/-- In every interleaving in which no run is failed that has ended, every run only makes the moves of
its lifecycle, and once it has ended nothing of it changes. -/
theorem run_lifecycle (as bs : List ServiceAction)
    (h : Machine.Along serviceStep FailsOpen .empty (as ++ bs)) :
    Lifecycle (serviceRun as).store (serviceRun (as ++ bs)).store := by
  obtain ⟨has, hbs⟩ := Machine.along_append.mp h
  have hlinked : Linked (serviceRun as).store :=
    Machine.run_invariant (I := fun s : ServiceState ↦ Linked s.store)
      (fun s a hs ha ↦ (serviceStep_lifecycle hs ha).1) Linked.empty has
  unfold serviceRun
  rw [Machine.run_append]
  exact Machine.run_relates (I := fun s : ServiceState ↦ Linked s.store)
    (R := fun s t ↦ Lifecycle s.store t.store)
    (fun s a hs ha ↦ (serviceStep_lifecycle hs ha).1) (fun s ↦ .refl s.store)
    (fun _ _ _ ↦ .trans) (fun s a hs ha ↦ (serviceStep_lifecycle hs ha).2) hlinked hbs

section examples

/-- `process` for the message with client id 51, in the `n`-th session. -/
def processHello (n : ℕ) : ServiceAction :=
  .process alice 10 51 "hello" [] [] firstVersions (sessionIds n) (n * 100) (n * 100)

def helloStreaming : List ServiceAction :=
  [.traffic (.createConversation alice "chat" 10 0), processHello 1, .advance 0 .proceed 110,
    .advance 0 (.delta "hi") 120]

def helloAnswered : List ServiceAction :=
  helloStreaming ++ [.advance 0 (.finish none false) 130, .advance 0 .proceed 131]

theorem run_lifecycle_redelivered :
    Lifecycle (serviceRun helloAnswered).store
      (serviceRun (helloAnswered ++ [processHello 2, .cancelRun alice 1003, .advance 2 .proceed 140,
        .advance 2 .proceed 141])).store :=
  run_lifecycle _ _ (by decide +kernel)

/-- A redelivery reads the run while it streams, and reports it as interrupted after it is
complete. -/
def helloInterrupted : List ServiceAction :=
  helloStreaming ++ [processHello 2, .advance 0 (.finish none false) 130]

def lateReport : List ServiceAction := [.advance 1 .proceed 140, .advance 1 .proceed 141]

theorem late_report_fails_completed_run :
    ¬Lifecycle (serviceRun helloInterrupted).store
      (serviceRun (helloInterrupted ++ lateReport)).store := by
  intro h
  have hbefore : ((serviceRun helloInterrupted).store.runs.rows.any fun run ↦
      run.status = .completed) = true := by decide +kernel
  have hafter : ((serviceRun (helloInterrupted ++ lateReport)).store.runs.rows.all fun run ↦
      run.status = .failed) = true := by decide +kernel
  obtain ⟨run, hrun, hstatus⟩ := List.any_eq_true.mp hbefore
  have hcompleted : run.status = .completed := of_decide_eq_true hstatus
  have hrow := (h.frozen run hrun (by rw [hcompleted]; rfl)).row
  have hfailed : run.status = .failed := of_decide_eq_true (List.all_eq_true.mp hafter run hrow)
  rw [hcompleted] at hfailed
  cases hfailed

end examples

end CyberNetizen.Conversations
