import CyberNetizen.Conversations.RepeatedCalls

namespace CyberNetizen.Conversations

open Domain Infrastructure Infrastructure.ConversationRepository KeyedTable

section runs

variable {l : Ledger} {a : Action} {as : List Action} {q : Request}

/-- A call that creates nothing changes nothing, and a call whose request has its run is answered
with that run as long as its user has access. -/
def Harmless (l : Ledger) (a : Action) : Prop :=
  ∀ call r, (ledgerStep l a).1 = some (call, r) →
    ((∃ p, r = .ok p ∧ p.created = true) ∨ (ledgerStep l a).2.store = l.store) ∧
    ∀ e ∈ l.made, e.1 = call.request → Accessible l.store call → ∃ p, r = .ok p ∧ SameRun e.2 p

theorem Kept.harmless (h : Kept l) (ha : isAdmissible l a = true) : Harmless l a := by
  intro call r ho
  have hout := h.outcome_of_step ha
  rw [show (Conversations.step l.world a).1 = some (call, r) from ho] at hout
  cases hout with
  | refused _ e hstore _ hmade =>
    exact ⟨.inr hstore, fun x hx hq hacc ↦ absurd hacc (hmade x hx hq)⟩
  | found _ p x hstore _ hx hq _ hsame =>
    refine ⟨.inr hstore, fun y hy hy' _ ↦ ⟨p, rfl, ?_⟩⟩
    rw [h.unique hy hx (hy'.trans hq.symm)]
    exact hsame
  | created _ p new hcreated hfirst =>
    exact ⟨.inl ⟨p, rfl, hcreated⟩, fun x hx hq _ ↦ absurd hq (hfirst.fresh x hx)⟩

def answerTo (q : Request) : Output → Option PendingAgentRun
  | some (call, .ok p) => if call.request = q then some p else none
  | _ => none

abbrev answersTo (q : Request) (os : List Output) : List PendingAgentRun := os.filterMap (answerTo q)

/-- What one answer says to a request: nothing, the run that it has, or its first run. -/
theorem Kept.answer (h : Kept l) (ha : isAdmissible l a = true) (q : Request) :
    (answerTo q (ledgerStep l a).1 = none ∧
      ∀ e ∈ (ledgerStep l a).2.made, e.1 = q → e ∈ l.made) ∨
    (∃ p, ∃ e ∈ l.made, answerTo q (ledgerStep l a).1 = some p ∧ e.1 = q ∧ p.created = false ∧
      SameRun e.2 p) ∨
    ∃ p, answerTo q (ledgerStep l a).1 = some p ∧ p.created = true ∧ (∀ e ∈ l.made, e.1 ≠ q) ∧
      (q, p) ∈ (ledgerStep l a).2.made := by
  have hout := h.outcome_of_step ha
  have hmade : (ledgerStep l a).2.made = l.made ++ record (Conversations.step l.world a).1 := rfl
  have hfst : (ledgerStep l a).1 = (Conversations.step l.world a).1 := rfl
  rw [hmade, hfst]
  generalize (Conversations.step l.world a).1 = o at hout
  cases hout with
  | silent => exact .inl ⟨rfl, fun e he _ ↦ by rwa [record_none, List.append_nil] at he⟩
  | refused call e => exact .inl ⟨rfl, fun e he _ ↦ by rwa [record_error, List.append_nil] at he⟩
  | found call p x hstore hwaiting hx hrequest hcreated hsame =>
    by_cases hq : call.request = q
    · exact .inr (.inl ⟨p, x, hx, if_pos hq, hrequest.trans hq, hcreated, hsame⟩)
    · refine .inl ⟨if_neg hq, fun e he _ ↦ ?_⟩
      rwa [record_found call hcreated, List.append_nil] at he
  | created call p new hcreated hfirst =>
    rw [record_created call hcreated]
    by_cases hq : call.request = q
    · refine .inr (.inr ⟨p, if_pos hq, hcreated, fun e he ↦ hq ▸ hfirst.fresh e he, ?_⟩)
      rw [hq]
      exact List.mem_append_right _ (List.mem_singleton_self _)
    · refine .inl ⟨if_neg hq, fun e he heq ↦ ?_⟩
      rcases List.mem_append.mp he with he | he
      · exact he
      · rw [List.mem_singleton.mp he] at heq
        exact absurd heq hq

abbrev Admissible (l : Ledger) (as : List Action) : Prop :=
  Machine.Along ledgerStep (fun l a ↦ isAdmissible l a = true) l as

/-- Once a request has its run, every answer is that run. -/
theorem Kept.repeated (h : Kept l) (hadm : Admissible l as) {e : Request × PendingAgentRun}
    (he : e ∈ l.made) :
    ∀ p ∈ answersTo e.1 (Machine.outputs ledgerStep l as), p.created = false ∧ SameRun e.2 p := by
  induction as generalizing l with
  | nil => exact fun p hp ↦ absurd hp List.not_mem_nil
  | cons a as ih =>
    have hrest := ih (h.step hadm.1) hadm.2 (List.mem_append_left _ he)
    unfold answersTo
    rw [Machine.outputs, List.filterMap_cons]
    rcases h.answer hadm.1 e.1 with
      ⟨hnone, -⟩ | ⟨p, x, hx, hp, hq, hcreated, hsame⟩ | ⟨p, -, -, hfresh, -⟩
    · rw [hnone]
      exact hrest
    · rw [hp]
      intro p' hp'
      rcases List.mem_cons.mp hp' with rfl | hp'
      · rw [h.unique he hx hq.symm]
        exact ⟨hcreated, hsame⟩
      · exact hrest p' hp'
    · exact absurd rfl (hfresh e he)

def OneRun (rs : List PendingAgentRun) : Prop :=
  rs = [] ∨ ∃ p ps, rs = p :: ps ∧ p.created = true ∧ ∀ p' ∈ ps, p'.created = false ∧ SameRun p p'

theorem Kept.oneRun (h : Kept l) (hadm : Admissible l as) (hfresh : ∀ e ∈ l.made, e.1 ≠ q) :
    OneRun (answersTo q (Machine.outputs ledgerStep l as)) := by
  induction as generalizing l with
  | nil => exact .inl rfl
  | cons a as ih =>
    unfold answersTo
    rw [Machine.outputs, List.filterMap_cons]
    rcases h.answer hadm.1 q with ⟨hnone, hmade⟩ | ⟨p, x, hx, -, hq, -⟩ | ⟨p, hp, hcreated, -, hmem⟩
    · rw [hnone]
      exact ih (h.step hadm.1) hadm.2 fun e he hq ↦ hfresh e (hmade e he hq) hq
    · exact absurd hq (hfresh x hx)
    · rw [hp]
      exact .inr ⟨p, _, rfl, hcreated, (h.step hadm.1).repeated hadm.2 hmem⟩

theorem made_eq_record (l : Ledger) (as : List Action) :
    (Machine.run ledgerStep l as).made = l.made ++ (Machine.outputs ledgerStep l as).flatMap record := by
  induction as generalizing l with
  | nil => exact (List.append_nil _).symm
  | cons a as ih =>
    rw [Machine.run, ih, Machine.outputs, List.flatMap_cons, ← List.append_assoc]
    rfl

def OnlyMessage (s : ConversationStore) (p : PendingAgentRun) : Request → Prop
  | .agentRun userId conversationId clientMessageId =>
    (messageKeys s).filter (isClientKey conversationId userId clientMessageId) =
      [messageKey p.triggerMessage]
  | .regeneration agentId _ clientRequestId =>
    (messageKeys s).filter (isClientKey p.conversation.id agentId clientRequestId) =
      [messageKey p.responseMessage]
  | .editedBranch userId sourceMessageId clientMessageId =>
    (messageKeys s).filter (fun key ↦ key.editedFromId = some sourceMessageId &&
      key.senderId = userId && key.clientMessageId = some clientMessageId) =
      [messageKey p.triggerMessage]

theorem filter_messageKeys {s : ConversationStore} {b : MessageKey → Bool} {key : MessageKey}
    (hmem : key ∈ messageKeys s) (hb : b key = true)
    (hunique : ∀ key' ∈ messageKeys s, b key' = true → key' = key) :
    (messageKeys s).filter b = [key] := by
  have hnodup : (messageKeys s).Nodup := by
    refine List.Nodup.of_map MessageKey.id ?_
    unfold messageKeys
    rw [List.map_map]
    exact s.messages.nodup
  have hfilter : (messageKeys s).filter b = (messageKeys s).filter (· == key) := by
    refine List.filter_congr fun key' hkey' ↦ ?_
    rw [Bool.eq_iff_iff, beq_iff_eq]
    exact ⟨hunique key' hkey', fun he ↦ he ▸ hb⟩
  rw [hfilter, List.filter_beq, List.count_eq_one_of_mem hnodup hmem]
  rfl

theorem Kept.onlyMessage (h : Kept l) {e : Request × PendingAgentRun} (he : e ∈ l.made) :
    OnlyMessage l.store e.2 e.1 := by
  have hclient : ∀ {c u k : UUID} {key : MessageKey},
      (messageKeys l.store).find? (isClientKey c u k) = some key →
        (messageKeys l.store).filter (isClientKey c u k) = [key] := by
    intro c u k key hfind
    refine filter_messageKeys (List.mem_of_find?_eq_some hfind) (List.find?_some hfind) ?_
    intro key' hkey' hb
    have hkey := List.find?_some hfind
    simp only [isClientKey, Bool.and_eq_true, decide_eq_true_eq] at hb hkey
    refine h.clients key' hkey' key (List.mem_of_find?_eq_some hfind) ?_ ⟨?_, ?_, ?_⟩
    · rw [hb.2]
      simp
    · rw [hb.1.1, hkey.1.1]
    · rw [hb.1.2, hkey.1.2]
    · rw [hb.2, hkey.2]
  have hmade := h.made e he
  have hfound := hmade.found
  cases hq : e.1 with
  | agentRun u c k =>
    rw [hq] at hfound
    exact hclient hfound.2.1
  | regeneration u c k =>
    rw [hq] at hfound
    obtain ⟨source, -, -, hc, hkey, -⟩ := hfound
    rw [← hc] at hkey
    exact hclient hkey
  | editedBranch u c k =>
    rw [hq] at hfound
    obtain ⟨-, hedit, hsender, hk, -⟩ := hfound
    refine filter_messageKeys hmade.trigger ?_ fun key hkey hb ↦ ?_
    · simp [messageKey, hedit, hsender, hk]
    · simp only [Bool.and_eq_true, decide_eq_true_eq] at hb
      have hnotNone : key.editedFromId ≠ none := by
        rw [hb.1.1]
        simp
      obtain ⟨x, hx, hxq, hxkey⟩ :=
        h.written key hkey (fun hnone ↦ absurd hnone hnotNone) k hb.2
      have hxe : x.1 = e.1 := by
        rw [hxq, hq, ← hb.1.2]
        simp [MessageKey.request, hb.1.1]
      rw [← hxkey, h.unique hx he hxe]

/-- Calls that repeat the same request create one run, one message with its client id and, for an
edit, one branch: the first answer reports them as created, and the others return them without
changing anything. -/
theorem begins_are_idempotent (as : List Action) (h : Admissible .empty as) :
    let l := Machine.run ledgerStep .empty as
    let os := Machine.outputs ledgerStep .empty as
    (∀ q, OneRun (answersTo q os)) ∧ Machine.Along ledgerStep Harmless .empty as ∧
    l.made = os.flatMap record ∧ (l.made.map Prod.fst).Nodup ∧
    runKeys l.store = l.made.map (fun e ↦ runKey e.2.run) ∧
    editedBranches l.store = l.made.filterMap branchOf ∧
    ∀ e ∈ l.made, OnlyMessage l.store e.2 e.1 := by
  have hkept : Kept (Machine.run ledgerStep .empty as) :=
    Machine.run_invariant (fun l a hl ha ↦ Kept.step hl ha) .empty h
  refine ⟨fun q ↦ Kept.empty.oneRun h fun e he ↦ absurd he List.not_mem_nil, ?_,
    made_eq_record .empty as, hkept.once, hkept.runs, hkept.branches, fun e he ↦ hkept.onlyMessage he⟩
  exact Machine.along_of_invariant (fun l a hl ha ↦ Kept.step hl ha)
    (fun l a hl ha ↦ hl.harmless ha) .empty h

end runs

section examples

def editFirst (n : ℕ) : Action :=
  .call (.editedBranch alice 1001 77 "and then?" firstVersions) (sessionIds n) 300 300 0 0

def editsInTurn : List Action :=
  [.createConversation alice "chat" 10 0, sendMessage 1 "hello", editFirst 3,
    .lock 0 (sessionIds 3) 310, sendMessage 1 "hello", editFirst 4, editFirst 5]

def racingEdits : List Action :=
  [.createConversation alice "chat" 10 0, sendMessage 1 "hello", editFirst 3, editFirst 4,
    .lock 0 (sessionIds 3) 310, .lock 0 (sessionIds 4) 320]

theorem begins_are_idempotent_edits_in_turn :
    OneRun (answersTo (.editedBranch alice.userId 1001 77)
        (Machine.outputs ledgerStep .empty editsInTurn)) ∧
      (answersTo (.editedBranch alice.userId 1001 77)
        (Machine.outputs ledgerStep .empty editsInTurn)).map (fun p ↦ (p.created, p.run.id)) =
        [(true, 3003), (false, 3003), (false, 3003)] :=
  ⟨(begins_are_idempotent editsInTurn (by decide +kernel)).1 _, by decide +kernel⟩

/-- Each of the two attempts makes a branch and a run of its own. -/
theorem racing_edits_make_two_branches :
    (answersTo (.editedBranch alice.userId 1001 77)
        (Machine.outputs ledgerStep .empty racingEdits)).map
          (fun p ↦ (p.created, p.conversation.id, p.run.id)) =
        [(true, 3004, 3003), (true, 4004, 4003)] ∧
      ¬OneRun (answersTo (.editedBranch alice.userId 1001 77)
        (Machine.outputs ledgerStep .empty racingEdits)) := by
  have hflags : (answersTo (.editedBranch alice.userId 1001 77)
      (Machine.outputs ledgerStep .empty racingEdits)).map (·.created) = [true, true] := by
    decide +kernel
  refine ⟨by decide +kernel, ?_⟩
  rintro (hnil | ⟨p, ps, hcons, -, hps⟩)
  · rw [hnil] at hflags
    cases hflags
  · rw [hcons, List.map_cons] at hflags
    obtain ⟨-, htail⟩ := List.cons.inj hflags
    obtain ⟨p', hp', hcreated⟩ : ∃ p' ∈ ps, p'.created = true :=
      List.mem_map.mp (htail ▸ List.mem_singleton_self true)
    rw [(hps p' hp').1] at hcreated
    cases hcreated

end examples

end CyberNetizen.Conversations
