import CyberNetizen.Conversations.Changes

namespace CyberNetizen.Conversations

open Domain Infrastructure Infrastructure.ConversationRepository KeyedTable Checks

variable {p : Allowed} {s t : ConversationStore}
  {c u k : UUID} {now : Datetime}

section runs

structure RunWritten (w : RunWrite) (now : Datetime) (runId : UUID) (s : ConversationStore)
    (run : AgentRun) (response : Message) (t : ConversationStore) : Prop where
  foundRun : s.runs.find? runId = some run
  foundResponse : s.messages.find? run.responseMessageId = some response
  foundConversation : (s.conversations.find? run.conversationId).isSome
  guard : Guard w run.status
  eq : t = writeRun w now run response s

theorem RunWritten.changes {w : RunWrite} {runId : UUID} {run : AgentRun} {response : Message}
    (h : RunWritten w now runId s run response t)
    (hfails : ∀ code, w = .failed code → p.fails run.status) : Changes p s t := by
  obtain ⟨hrun, hresponse, hc, hguard, rfl⟩ := h
  exact .single (.wrote w now run response (Table.mem_of_find? hrun)
    (Table.mem_of_find? hresponse) (Table.key_of_find? hresponse) hc hguard hfails)

variable {runId : UUID} {run : AgentRun} {message : Message}

theorem markRunStarted_eq_ok (h : markRunStarted runId now s = .ok (run, t)) :
    ∃ before response, RunWritten .started now runId s before response t ∧
      run = RunWrite.started.run now before := by
  unfold markRunStarted at h
  rw [bind_eq_ok] at h
  obtain ⟨before, hrun, h⟩ := h
  split at h
  · cases h
  · rename_i hstatus
    rw [bind_eq_ok] at h
    obtain ⟨row, hrow, h⟩ := h
    rw [bind_eq_ok] at h
    obtain ⟨response, hresponse, h⟩ := h
    cases h
    exact ⟨before, response, ⟨lockedRun_eq_ok.mp hrun, requiredMessage_eq_ok.mp hresponse,
      lockedConversationById_isSome hrow, not_not.mp hstatus, rfl⟩, rfl⟩

theorem appendRunDelta_eq_ok {delta : String}
    (h : appendRunDelta runId now s delta = .ok (message, t)) :
    ∃ before response, RunWritten (.delta delta) now runId s before response t ∧
      message = (RunWrite.delta delta).response now response := by
  unfold appendRunDelta at h
  rw [bind_eq_ok] at h
  obtain ⟨before, hrun, h⟩ := h
  obtain ⟨hfind, hstatus⟩ := lockedRunningRun_eq_ok.mp hrun
  rw [bind_eq_ok] at h
  obtain ⟨row, hrow, h⟩ := h
  rw [bind_eq_ok] at h
  obtain ⟨response, hresponse, h⟩ := h
  split at h
  · cases h
  · cases h
    exact ⟨before, response, ⟨hfind, requiredMessage_eq_ok.mp hresponse,
      lockedConversationById_isSome hrow, hstatus, rfl⟩, rfl⟩

theorem completeRun_eq_ok {usage : Option ModelUsage} {suppressResponse : Bool}
    (h : completeRun runId now s usage suppressResponse = .ok (run, t)) :
    ∃ before response, RunWritten (.completed usage suppressResponse) now runId s before response t ∧
      run = (RunWrite.completed usage suppressResponse).run now before := by
  unfold completeRun at h
  rw [bind_eq_ok] at h
  obtain ⟨before, hrun, h⟩ := h
  obtain ⟨hfind, hstatus⟩ := lockedRunningRun_eq_ok.mp hrun
  rw [bind_eq_ok] at h
  obtain ⟨row, hrow, h⟩ := h
  rw [bind_eq_ok] at h
  obtain ⟨response, hresponse, h⟩ := h
  cases h
  exact ⟨before, response, ⟨hfind, requiredMessage_eq_ok.mp hresponse,
    lockedConversationById_isSome hrow, hstatus, rfl⟩, rfl⟩

theorem failRun_eq_ok {errorCode : String} (h : failRun runId now s errorCode = .ok (run, t)) :
    (s.runs.find? runId = some run ∧ run.status = .cancelled ∧ t = s) ∨
      ∃ before response, RunWritten (.failed errorCode) now runId s before response t ∧
        run = (RunWrite.failed errorCode).run now before := by
  unfold failRun at h
  rw [bind_eq_ok] at h
  obtain ⟨before, hrun, h⟩ := h
  split at h
  · rename_i hstatus
    cases h
    exact .inl ⟨lockedRun_eq_ok.mp hrun, hstatus, rfl⟩
  · rename_i hstatus
    rw [bind_eq_ok] at h
    obtain ⟨row, hrow, h⟩ := h
    rw [bind_eq_ok] at h
    obtain ⟨response, hresponse, h⟩ := h
    cases h
    exact .inr ⟨before, response, ⟨lockedRun_eq_ok.mp hrun, requiredMessage_eq_ok.mp hresponse,
      lockedConversationById_isSome hrow, hstatus, rfl⟩, rfl⟩

theorem cancelRun_eq_ok (h : cancelRun runId now s u = .ok (run, t)) :
    (s.runs.find? runId = some run ∧ run.status.isTerminal = true ∧ t = s) ∨
      ∃ before response, RunWritten .cancelled now runId s before response t ∧
        run = RunWrite.cancelled.run now before := by
  unfold cancelRun at h
  rw [bind_eq_ok] at h
  obtain ⟨before, hrun, h⟩ := h
  rw [bind_eq_ok] at h
  obtain ⟨row, hrow, h⟩ := h
  split at h
  · rename_i hstatus
    cases h
    exact .inl ⟨lockedRun_eq_ok.mp hrun, hstatus, rfl⟩
  · rename_i hstatus
    rw [bind_eq_ok] at h
    obtain ⟨response, hresponse, h⟩ := h
    cases h
    exact .inr ⟨before, response, ⟨lockedRun_eq_ok.mp hrun, requiredMessage_eq_ok.mp hresponse,
      by rw [(lockedConversation_eq_ok.mp hrow).1]; rfl, Bool.eq_false_of_not_eq_true hstatus, rfl⟩, rfl⟩

theorem markRunStarted_changes (h : markRunStarted runId now s = .ok (run, t)) :
    Changes p s t := by
  obtain ⟨before, response, hw, -⟩ := markRunStarted_eq_ok h
  exact hw.changes fun _ h ↦ (nomatch h)

theorem appendRunDelta_changes {delta : String}
    (h : appendRunDelta runId now s delta = .ok (message, t)) : Changes p s t := by
  obtain ⟨before, response, hw, -⟩ := appendRunDelta_eq_ok h
  exact hw.changes fun _ h ↦ (nomatch h)

theorem completeRun_changes {usage : Option ModelUsage} {suppressResponse : Bool}
    (h : completeRun runId now s usage suppressResponse = .ok (run, t)) :
    Changes p s t := by
  obtain ⟨before, response, hw, -⟩ := completeRun_eq_ok h
  exact hw.changes fun _ h ↦ (nomatch h)

theorem failRun_changes {errorCode : String}
    (hfails : ∀ status, (s.runs.find? runId).map (·.status) = some status → status ≠ .cancelled →
      p.fails status) (h : failRun runId now s errorCode = .ok (run, t)) : Changes p s t := by
  rcases failRun_eq_ok h with ⟨-, -, rfl⟩ | ⟨before, response, hw, -⟩
  · exact .refl
  · refine hw.changes fun _ _ ↦ hfails _ ?_ hw.guard
    rw [hw.foundRun]
    rfl

theorem cancelRun_changes (h : cancelRun runId now s u = .ok (run, t)) :
    Changes p s t := by
  rcases cancelRun_eq_ok h with ⟨-, -, rfl⟩ | ⟨before, response, hw, -⟩
  · exact .refl
  · exact hw.changes fun _ h ↦ (nomatch h)

end runs

end CyberNetizen.Conversations
