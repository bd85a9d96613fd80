import CyberNetizen.Conversations.InFlight

namespace CyberNetizen.Conversations

open Domain Infrastructure Infrastructure.ConversationRepository KeyedTable

structure MessageKey where
  id : UUID
  conversationId : UUID
  senderType : MessageSenderType
  senderId : UUID
  clientMessageId : Option UUID
  editedFromId : Option UUID
  deriving DecidableEq

def messageKey (m : Message) : MessageKey :=
  ⟨m.id, m.conversationId, m.senderType, m.senderId, m.clientMessageId, m.editedFromId⟩

structure RunKey where
  id : UUID
  conversationId : UUID
  triggerMessageId : UUID
  responseMessageId : UUID
  deriving DecidableEq

def runKey (run : AgentRun) : RunKey :=
  ⟨run.id, run.conversationId, run.triggerMessageId, run.responseMessageId⟩

def messageKeys (s : ConversationStore) : List MessageKey := s.messages.rows.map messageKey

def runKeys (s : ConversationStore) : List RunKey := s.runs.rows.map runKey

/-- Rows join the tables, and the keys of the rows that are there stay in their order. -/
structure Grows (s t : ConversationStore) : Prop where
  messages : messageKeys s <+: messageKeys t
  runs : runKeys s <+: runKeys t
  branches : branchKeys s <+: branchKeys t
  members : ∀ key, (s.members.find? key).isSome → (t.members.find? key).isSome

namespace Grows

variable {p : Allowed} {s t u : ConversationStore}

theorem refl (s : ConversationStore) : Grows s s :=
  ⟨List.prefix_rfl, List.prefix_rfl, List.prefix_rfl, fun _ h ↦ h⟩

theorem trans (h : Grows s t) (h' : Grows t u) : Grows s u :=
  ⟨h.messages.trans h'.messages, h.runs.trans h'.runs, h.branches.trans h'.branches,
    fun key hk ↦ h'.members key (h.members key hk)⟩

theorem of_eq (hm : messageKeys t = messageKeys s) (hr : runKeys t = runKeys s)
    (hb : branchKeys t = branchKeys s) (hu : t.members = s.members) : Grows s t :=
  ⟨hm ▸ List.prefix_rfl, hr ▸ List.prefix_rfl, hb ▸ List.prefix_rfl, fun _ h ↦ hu ▸ h⟩

theorem emitted (c : UUID) (e : Emission) (s : ConversationStore) : Grows s (emit c s e) :=
  of_eq (congrArg (·.rows.map messageKey) emit_messages) (congrArg (·.rows.map runKey) emit_runs)
    branchKeys_emit emit_members

theorem emittedAll (c : UUID) (es : List Emission) (s : ConversationStore) :
    Grows s (emitAll c es s) :=
  of_eq (congrArg (·.rows.map messageKey) emitAll_messages)
    (congrArg (·.rows.map runKey) emitAll_runs) branchKeys_emitAll emitAll_members

theorem founded {row : Conversation} {userId : UUID} (h : insertConversation row userId s = .ok t) :
    Grows s t := by
  obtain ⟨conversations, members, hc, hm, rfl⟩ := insertConversation_eq_ok h
  refine ⟨List.prefix_rfl, List.prefix_rfl, ?_, fun key hk ↦ ?_⟩
  · unfold branchKeys
    rw [(Table.insert?_eq_some hc).2, List.map_append]
    exact List.prefix_append _ _
  · rw [Table.find?_insert? hm]
    split
    · rfl
    · exact hk

theorem inserted {row : Message} (h : insertMessage row s = .ok t) : Grows s t := by
  obtain ⟨-, messages, hm, rfl⟩ := insertMessage_eq_ok h
  refine ⟨?_, List.prefix_rfl, List.prefix_rfl, fun _ hk ↦ hk⟩
  unfold messageKeys
  rw [(Table.insert?_eq_some hm).2, List.map_append]
  exact List.prefix_append _ _

theorem opened {messages : List Message} {run : AgentRun} (h : Opened messages run s t) :
    Grows s t := by
  obtain ⟨v, hv, -, ht⟩ := h.logged
  refine ⟨?_, ?_, ?_, fun key hk ↦ by rw [h.memberRows]; exact hk⟩
  · unfold messageKeys
    rw [h.messageRows, List.map_append]
    exact List.prefix_append _ _
  · unfold runKeys
    rw [h.runRows, List.map_append]
    exact List.prefix_append _ _
  · have hkeys : branchKeys v = branchKeys s := by rw [branchKeys, branchKeys, hv]
    rw [ht, branchKeys_emitAll]
    exact hkeys ▸ List.prefix_rfl

theorem wrote (w : RunWrite) (now : Datetime) (run : AgentRun) (response : Message)
    (s : ConversationStore) : Grows s (writeRun w now run response s) := by
  have hrows : Grows s { s with
      runs := s.runs.updateWhere (·.id = run.id) (w.run now)
      messages := s.messages.updateWhere (·.id = response.id) (w.response now) } :=
    of_eq (Table.map_updateWhere fun m ↦ by cases w <;> rfl)
      (Table.map_updateWhere fun r ↦ by cases w <;> rfl)
      rfl rfl
  exact hrows.trans (emittedAll _ _ _)

theorem branchKeys_updateConversationRow {c : UUID} {f : Update Conversation.id}
    (hf : ∀ row, (f row).branchedFromMessageId = row.branchedFromMessageId) :
    branchKeys (updateConversationRow c f s) = branchKeys s := by
  refine Table.map_updateWhere fun row ↦ ?_
  unfold branchKey
  rw [f.key_eq, hf]

theorem row (c : UUID) {f : Update Conversation.id}
    (hf : ∀ row, (f row).branchedFromMessageId = row.branchedFromMessageId)
    (s : ConversationStore) : Grows s (updateConversationRow c f s) :=
  of_eq rfl rfl (branchKeys_updateConversationRow hf) rfl

theorem change (hc : Change p s t) : Grows s t := by
  cases hc with
  | row c f hkeep => exact row c (fun r ↦ (hkeep r).2) s
  | feedback => exact of_eq rfl rfl rfl rfl
  | note c e => exact emitted c e s
  | founded row userId t hseq hi => exact founded hi
  | copied item copy t hopens hitem hcopy hc hi => exact (inserted hi).trans (emitted _ _ _)
  | opened messages response run t hopens hc hopening ho => exact opened ho
  | wrote w now run response => exact wrote w now run response s

theorem step (w : World) (a : Action) : Grows w.store (Conversations.step w a).2.store :=
  step_keeps_all (fun _ _ h hc ↦ h.trans (change hc)) w a (refl _)

theorem find?_messages (h : Grows s t) {q : MessageKey → Bool} {key : MessageKey}
    (hk : (messageKeys s).find? q = some key) : (messageKeys t).find? q = some key :=
  h.messages.find?_eq_some hk

theorem find?_runs (h : Grows s t) {q : RunKey → Bool} {key : RunKey}
    (hk : (runKeys s).find? q = some key) : (runKeys t).find? q = some key :=
  h.runs.find?_eq_some hk

end Grows

def editedBranches (s : ConversationStore) : List (UUID × Option UUID) :=
  (branchKeys s).filter (·.2.isSome)

theorem editedBranches_eq {s t : ConversationStore} (h : branchKeys t = branchKeys s) :
    editedBranches t = editedBranches s :=
  congrArg (List.filter _) h

/-- Only the begin calls add messages, runs and branches. -/
theorem keys_of_not_begin {w : World} {a : Action} (ha : isBegin a = false) :
    messageKeys (step w a).2.store = messageKeys w.store ∧
      runKeys (step w a).2.store = runKeys w.store ∧
      editedBranches (step w a).2.store = editedBranches w.store := by
  refine step_keeps (p := { opens := False })
    (I := fun t ↦ messageKeys t = messageKeys w.store ∧ runKeys t = runKeys w.store ∧
      editedBranches t = editedBranches w.store) ?_
    ⟨fun _ _ ↦ trivial, fun _ _ _ ↦ trivial, fun h ↦ by rw [ha] at h; cases h⟩ ⟨rfl, rfl, rfl⟩
  intro s t h hc
  cases hc with
  | row c f hkeep =>
    refine ⟨h.1, h.2.1, (editedBranches_eq ?_).trans h.2.2⟩
    exact Grows.branchKeys_updateConversationRow fun row ↦ (hkeep row).2
  | feedback => exact h
  | note =>
    refine ⟨?_, ?_, (editedBranches_eq branchKeys_emit).trans h.2.2⟩
    · unfold messageKeys
      rw [emit_messages]
      exact h.1
    · unfold runKeys
      rw [emit_runs]
      exact h.2.1
  | founded row userId t hseq hi hbranch =>
    obtain ⟨conversations, members, hc, -, rfl⟩ := insertConversation_eq_ok hi
    refine ⟨h.1, h.2.1, ?_⟩
    rw [← h.2.2]
    unfold editedBranches branchKeys
    dsimp only
    rw [(Table.insert?_eq_some hc).2, List.map_append, List.filter_append, List.map_singleton]
    have hnone : (branchKey row).2 = none := hbranch.resolve_left not_false
    rw [List.filter_singleton, hnone]
    exact List.append_nil _
  | copied item copy t hopens => exact hopens.elim
  | opened messages response run t hopens => exact hopens.elim
  | wrote w now run response =>
    refine ⟨?_, ?_, (editedBranches_eq branchKeys_emitAll).trans h.2.2⟩
    · unfold messageKeys writeRun
      rw [emitAll_messages]
      dsimp only
      rw [Table.map_updateWhere fun m ↦ by cases w <;> rfl]
      exact h.1
    · unfold runKeys writeRun
      rw [emitAll_runs]
      dsimp only
      rw [Table.map_updateWhere fun r ↦ by cases w <;> rfl]
      exact h.2.1

section lookups

variable {s : ConversationStore} {c u k : UUID}

theorem find?_messageKeys :
    (messageKeys s).find? (·.id = k) = (s.messages.find? k).map messageKey := by
  unfold messageKeys Table.find?
  rw [List.find?_map]
  rfl

def isClientKey (c u k : UUID) (key : MessageKey) : Bool :=
  key.conversationId = c && key.senderId = u && key.clientMessageId = some k

theorem find?_clientKey :
    (messageKeys s).find? (isClientKey c u k) = (clientMessage? c u k s).map messageKey := by
  unfold messageKeys clientMessage?
  rw [List.find?_map]
  rfl

theorem find?_runKeys_trigger :
    (runKeys s).find? (·.triggerMessageId = k) = (runsOf k s).head?.map runKey := by
  unfold runKeys runsOf
  rw [List.find?_map, List.head?_filter]
  rfl

theorem find?_runKeys_response :
    (runKeys s).find? (·.responseMessageId = k) = (runOfResponse? k s).map runKey := by
  unfold runKeys runOfResponse?
  rw [List.find?_map]
  rfl

theorem branchedFrom_iff : branchedFrom k c s = true ↔ (c, some k) ∈ branchKeys s := by
  unfold branchedFrom branchKeys
  constructor
  · intro h
    cases hc : s.conversations.find? c with
    | none => rw [hc] at h; cases h
    | some row =>
      rw [hc] at h
      obtain ⟨hmem, hid⟩ := Table.find?_eq_some.mp hc
      exact List.mem_map.mpr ⟨row, hmem, Prod.ext hid (of_decide_eq_true h)⟩
  · intro h
    obtain ⟨row, hmem, hkey⟩ := List.mem_map.mp h
    obtain ⟨rfl, hbranch⟩ := Prod.mk.inj hkey
    rw [Table.find?_key hmem]
    exact decide_eq_true hbranch

theorem mem_editedTriggers {m : Message} :
    m ∈ editedTriggers c u k s ↔ m ∈ s.messages ∧ m.editedFromId = some c ∧ m.senderId = u ∧
      m.clientMessageId = some k ∧ (m.conversationId, some c) ∈ branchKeys s := by
  unfold editedTriggers
  rw [List.mem_filter, ← branchedFrom_iff, Table.mem_rows]
  simp only [Bool.and_eq_true, decide_eq_true_eq, and_assoc]

end lookups

end CyberNetizen.Conversations
