import Mathlib.Logic.Relation
import CyberNetizen.Lib.Checks
import CyberNetizen.Infrastructure.ConversationRepository

namespace CyberNetizen.Conversations

open Domain Infrastructure Infrastructure.ConversationRepository KeyedTable Checks

section tables

variable {c : UUID} {e : Emission} {es : List Emission} {s t : ConversationStore}

@[simp] theorem emit_members : (emit c s e).members = s.members := by
  unfold emit; split <;> rfl

@[simp] theorem emit_messages : (emit c s e).messages = s.messages := by
  unfold emit; split <;> rfl

@[simp] theorem emit_runs : (emit c s e).runs = s.runs := by
  unfold emit; split <;> rfl

theorem emitAll_cons : emitAll c (e :: es) s = emitAll c es (emit c s e) := rfl

@[simp] theorem emitAll_members : (emitAll c es s).members = s.members := by
  induction es generalizing s with
  | nil => rfl
  | cons e es ih => rw [emitAll_cons, ih, emit_members]

@[simp] theorem emitAll_messages : (emitAll c es s).messages = s.messages := by
  induction es generalizing s with
  | nil => rfl
  | cons e es ih => rw [emitAll_cons, ih, emit_messages]

@[simp] theorem emitAll_runs : (emitAll c es s).runs = s.runs := by
  induction es generalizing s with
  | nil => rfl
  | cons e es ih => rw [emitAll_cons, ih, emit_runs]

theorem find?_emit (k : UUID) :
    (emit c s e).conversations.find? k =
      (s.conversations.find? k).map fun row ↦ if row.id = c then advanced row else row := by
  unfold emit
  cases hc : s.conversations.find? c with
  | none =>
    dsimp only
    cases hk : s.conversations.find? k with
    | none => rfl
    | some row =>
      have hne : row.id ≠ c := fun he ↦ by
        rw [← he, Table.find?_key (Table.mem_of_find? hk)] at hc
        cases hc
      rw [Option.map_some, if_neg hne]
  | some row => simp [Table.find?_updateWhere]

def core (k : UUID) (s : ConversationStore) : Option Conversation :=
  (s.conversations.find? k).map fun row ↦ { row with eventSequence := 0 }

@[simp] theorem core_emit (k : UUID) : core k (emit c s e) = core k s := by
  unfold core
  rw [find?_emit, Option.map_map]
  refine Option.map_congr fun row _ ↦ ?_
  by_cases h : row.id = c
  · simp [h, advanced]
  · simp [h]

@[simp] theorem core_emitAll (k : UUID) : core k (emitAll c es s) = core k s := by
  induction es generalizing s with
  | nil => rfl
  | cons e es ih => rw [emitAll_cons, ih, core_emit]

def branchKey (row : Conversation) : UUID × Option UUID := (row.id, row.branchedFromMessageId)

def branchKeys (s : ConversationStore) : List (UUID × Option UUID) :=
  s.conversations.rows.map branchKey

@[simp] theorem branchKeys_emit : branchKeys (emit c s e) = branchKeys s := by
  unfold emit
  split
  · rfl
  · exact Table.map_updateWhere fun _ ↦ rfl

@[simp] theorem branchKeys_emitAll : branchKeys (emitAll c es s) = branchKeys s := by
  induction es generalizing s with
  | nil => rfl
  | cons e es ih => rw [emitAll_cons, ih, branchKeys_emit]

end tables

section reads

variable {c u k : UUID} {s : ConversationStore}

theorem lockedConversation_eq_ok {row : Conversation} :
    lockedConversation c u s = .ok row ↔
      s.conversations.find? c = some row ∧ row.deletedAt = none ∧
        (s.members.find? (c, u)).isSome := by
  unfold lockedConversation
  cases hc : s.conversations.find? c with
  | none => simp
  | some found =>
    dsimp only
    split
    · rename_i h
      rw [Option.isNone_iff_eq_none] at h
      constructor
      · rintro ⟨⟩
        exact ⟨rfl, h⟩
      · rintro ⟨⟨⟩, -⟩
        rfl
    · rename_i h
      rw [Option.isNone_iff_eq_none] at h
      constructor
      · intro h'
        cases h'
      · rintro ⟨⟨⟩, h'⟩
        exact absurd h' h

theorem lockedConversationById_eq_ok {row : Conversation} :
    lockedConversationById c s = .ok row ↔ s.conversations.find? c = some row := by
  unfold lockedConversationById
  cases s.conversations.find? c <;> simp

theorem lockedConversationById_isSome {row : Conversation}
    (h : lockedConversationById c s = .ok row) : (s.conversations.find? c).isSome := by
  rw [lockedConversationById_eq_ok.mp h]
  rfl

theorem lockedRun_eq_ok {run : AgentRun} : lockedRun k s = .ok run ↔ s.runs.find? k = some run := by
  unfold lockedRun
  cases s.runs.find? k <;> simp

theorem requiredMessage_eq_ok {message : Message} :
    requiredMessage k s = .ok message ↔ s.messages.find? k = some message := by
  unfold requiredMessage
  cases s.messages.find? k <;> simp

theorem accessibleMessage_eq_ok {text : String} {message : Message} :
    accessibleMessage k u text s = .ok message ↔ s.messages.find? k = some message ∧
      ∃ row, lockedConversation message.conversationId u s = .ok row := by
  unfold accessibleMessage
  cases hk : s.messages.find? k with
  | none => simp
  | some found =>
    dsimp only
    cases hc : lockedConversation found.conversationId u s with
    | error e =>
      constructor
      · intro h
        cases h
      · rintro ⟨⟨⟩, row, h⟩
        rw [hc] at h
        cases h
    | ok row =>
      constructor
      · rintro ⟨⟩
        exact ⟨rfl, row, hc⟩
      · rintro ⟨⟨⟩, -⟩
        rfl

theorem lockedRunningRun_eq_ok {run : AgentRun} :
    lockedRunningRun k s = .ok run ↔ s.runs.find? k = some run ∧ run.status = .running := by
  unfold lockedRunningRun
  rw [bind_eq_ok]
  constructor
  · rintro ⟨found, hfound, h⟩
    split at h
    · cases h
    · rename_i hs
      cases h
      exact ⟨lockedRun_eq_ok.mp hfound, not_not.mp hs⟩
  · rintro ⟨hfound, hs⟩
    refine ⟨run, lockedRun_eq_ok.mpr hfound, ?_⟩
    rw [if_neg (not_not.mpr hs)]
    rfl

end reads

section inserts

variable {s t : ConversationStore}

def ClientFree (row : Message) (s : ConversationStore) : Prop :=
  row.clientMessageId = none ∨ ∀ m ∈ s.messages, m.conversationId = row.conversationId →
    m.senderId = row.senderId → m.clientMessageId ≠ row.clientMessageId

theorem insertMessage_eq_ok {row : Message} (h : insertMessage row s = .ok t) :
    ClientFree row s ∧ ∃ messages, s.messages.insert? row = some messages ∧
      t = { s with messages } := by
  unfold insertMessage at h
  split at h
  · cases h
  · rename_i hfree
    cases hi : s.messages.insert? row with
    | none => rw [hi] at h; cases h
    | some messages =>
      rw [hi] at h
      refine ⟨?_, messages, rfl, (Except.ok.inj h).symm⟩
      rw [not_and_or] at hfree
      refine hfree.imp (fun hn ↦ by simpa using hn) fun hn m hm hc hs he ↦ hn ?_
      exact List.any_eq_true.mpr ⟨m, hm, by simp [hc, hs, he]⟩

theorem insertRun_eq_ok {row : AgentRun} (h : insertRun row s = .ok t) :
    (∀ run ∈ s.runs, run.responseMessageId ≠ row.responseMessageId) ∧
      ∃ runs, s.runs.insert? row = some runs ∧ t = { s with runs } := by
  unfold insertRun at h
  split at h
  · cases h
  · rename_i hfree
    cases hi : s.runs.insert? row with
    | none => rw [hi] at h; cases h
    | some runs =>
      rw [hi] at h
      refine ⟨fun run hrun he ↦ hfree ?_, runs, rfl, (Except.ok.inj h).symm⟩
      exact List.any_eq_true.mpr ⟨run, hrun, by simp [he]⟩

theorem insertConversation_eq_ok {row : Conversation} {userId : UUID}
    (h : insertConversation row userId s = .ok t) :
    ∃ conversations members, s.conversations.insert? row = some conversations ∧
      s.members.insert? ⟨row.id, userId⟩ = some members ∧
      t = { s with conversations, members } := by
  unfold insertConversation at h
  cases hc : s.conversations.insert? row with
  | none => rw [hc] at h; cases h
  | some conversations =>
    cases hm : s.members.insert? ⟨row.id, userId⟩ with
    | none => rw [hc, hm] at h; cases h
    | some members =>
      rw [hc, hm] at h
      exact ⟨conversations, members, rfl, rfl, (Except.ok.inj h).symm⟩

/-- Several messages are inserted one after the other. -/
theorem insertMessages_eq_ok {rows : List Message}
    (h : rows.foldlM (fun s row ↦ insertMessage row s) s = .ok t) :
    (∀ m ∈ rows, ∀ x ∈ s.messages, x.id ≠ m.id) ∧
      ∃ messages : Table Message.id, messages.rows = s.messages.rows ++ rows ∧
        t = { s with messages } := by
  induction rows generalizing s with
  | nil =>
    cases h
    exact ⟨fun m hm ↦ absurd hm List.not_mem_nil, t.messages, (List.append_nil _).symm, rfl⟩
  | cons row rows ih =>
    rw [List.foldlM_cons, bind_eq_ok] at h
    obtain ⟨u, hu, h⟩ := h
    obtain ⟨-, messages, hi, rfl⟩ := insertMessage_eq_ok hu
    obtain ⟨hfresh, hrows⟩ := Table.insert?_eq_some hi
    obtain ⟨hrest, messages', hrows', rfl⟩ := ih h
    refine ⟨?_, messages', ?_, rfl⟩
    · intro m hm x hx
      rcases List.mem_cons.mp hm with rfl | hm
      · exact hfresh x hx
      · exact hrest m hm x ((Table.mem_insert? hi).mpr (.inl hx))
    · rw [hrows']
      simp only [hrows, List.append_assoc, List.singleton_append]

/-- What `openRun` leaves behind. -/
structure Opened (messages : List Message) (run : AgentRun) (s t : ConversationStore) :
    Prop where
  messageRows : t.messages.rows = s.messages.rows ++ messages
  runRows : t.runs.rows = s.runs.rows ++ [run]
  memberRows : t.members = s.members
  freshMessages : ∀ m ∈ messages, ∀ x ∈ s.messages, x.id ≠ m.id
  freshRun : ∀ x ∈ s.runs, x.id ≠ run.id
  freshResponse : ∀ x ∈ s.runs, x.responseMessageId ≠ run.responseMessageId
  logged : ∃ u : ConversationStore, u.conversations = s.conversations ∧ u.events = s.events ∧
    t = emitAll run.conversationId
      (messages.map (messageCreated (some run.id)) ++ [runQueued run]) u

theorem openRun_eq_ok {messages : List Message} {run : AgentRun}
    (h : openRun messages run s = .ok t) : Opened messages run s t := by
  unfold openRun at h
  rw [bind_eq_ok] at h
  obtain ⟨u, hu, h⟩ := h
  rw [bind_eq_ok] at h
  obtain ⟨v, hv, h⟩ := h
  cases h
  obtain ⟨hfresh, table, hrows, rfl⟩ := insertMessages_eq_ok hu
  obtain ⟨hresponse, runs, hi, rfl⟩ := insertRun_eq_ok hv
  obtain ⟨hrun, hruns⟩ := Table.insert?_eq_some hi
  exact ⟨by simpa using hrows, by simpa using hruns, by simp, hfresh, hrun, hresponse,
    ⟨{ s with messages := table, runs }, rfl, rfl, rfl⟩⟩

end inserts

section changes

def Guard : RunWrite → AgentRunStatus → Prop
  | .started, status => status = .queued
  | .delta _, status | .completed _ _, status => status = .running
  | .failed _, status => status ≠ .cancelled
  | .cancelled, status => status.isTerminal = false

/-- An event that is neither about a run nor part of the text of a message. -/
structure IsNote (e : Emission) : Prop where
  noRun : e.runId = none
  notCreated : e.eventType ≠ "message.created"
  notDelta : e.eventType ≠ "message.delta"

theorem isNote {eventType : String} {payload : JsonObject} {messageId : Option UUID}
    (hc : eventType ≠ "message.created") (hd : eventType ≠ "message.delta") :
    IsNote ⟨eventType, payload, none, messageId⟩ := ⟨rfl, hc, hd⟩

def IsPlain (m : Message) : Prop :=
  ∃ part rest, m.parts = part :: rest ∧ isStreamable part ∧ part.text = some m.content

/-- The messages of a new run are of its conversation, and one of them is its empty reply. -/
structure IsOpening (messages : List Message) (response : Message) (run : AgentRun) : Prop where
  isLocal : ∀ m ∈ messages, m.conversationId = run.conversationId
  mem : response ∈ messages
  id_eq : response.id = run.responseMessageId
  processing : response.status = .processing
  plain : IsPlain response
  empty : response.content = ""
  queued : run.status = .queued
  received : ∀ m ∈ messages, m = response ∨ m.status = .received

/-- What may happen: which messages an edited branch copies, which runs are failed, and whether runs
are created at all. -/
structure Allowed where
  copies : Message → Prop := fun _ ↦ True
  fails : AgentRunStatus → Prop := fun _ ↦ True
  opens : Prop := True

inductive Change (p : Allowed) (s : ConversationStore) : ConversationStore → Prop
  | row (c : UUID) (f : Update Conversation.id)
      (hkeep : ∀ row, (f row).eventSequence = row.eventSequence ∧
        (f row).branchedFromMessageId = row.branchedFromMessageId) :
      Change p s (updateConversationRow c f s)
  | feedback (feedback : Table feedbackKey) : Change p s { s with feedback }
  | note (c : UUID) (e : Emission) (he : IsNote e) : Change p s (emit c s e)
  | founded (row : Conversation) (userId : UUID) (t : ConversationStore)
      (hseq : row.eventSequence = 0) (h : insertConversation row userId s = .ok t)
      (hbranch : p.opens ∨ row.branchedFromMessageId = none) : Change p s t
  | copied (item copy : Message) (t : ConversationStore) (hopens : p.opens) (hitem : p.copies item)
      (hcopy : copy.status = item.status) (hc : (s.conversations.find? copy.conversationId).isSome)
      (h : insertMessage copy s = .ok t) :
      Change p s (emit copy.conversationId t (messageCreated none copy))
  | opened (messages : List Message) (response : Message) (run : AgentRun) (t : ConversationStore)
      (hopens : p.opens) (hc : (s.conversations.find? run.conversationId).isSome)
      (hopening : IsOpening messages response run) (h : Opened messages run s t) : Change p s t
  | wrote (w : RunWrite) (now : Datetime) (run : AgentRun) (response : Message)
      (hrun : run ∈ s.runs) (hresponse : response ∈ s.messages)
      (hid : response.id = run.responseMessageId)
      (hc : (s.conversations.find? run.conversationId).isSome) (hguard : Guard w run.status)
      (hfails : ∀ code, w = .failed code → p.fails run.status) :
      Change p s (writeRun w now run response s)

abbrev Changes (p : Allowed) : ConversationStore → ConversationStore → Prop :=
  Relation.ReflTransGen (Change p)

end changes

section operations

variable {p : Allowed} {s t : ConversationStore}
  {c u k : UUID} {now : Datetime}

theorem createConversation_changes {identity : DevelopmentIdentity} {title : String}
    (h : createConversation identity title k now s = .ok t) : Changes p s t := by
  unfold createConversation at h
  rw [bind_eq_ok] at h
  obtain ⟨r, hr, h⟩ := h
  cases h
  exact .tail (.single (.founded _ _ _ rfl hr (.inr rfl))) (.note k _ (isNote (by decide) (by decide)))

theorem updateConversation_changes {title : Option String} {status : Option ConversationStatus}
    {pinned : Option Bool} (h : updateConversation c u title status pinned now s = .ok t) :
    Changes p s t := by
  unfold updateConversation at h
  rw [bind_eq_ok] at h
  obtain ⟨row, -, h⟩ := h
  cases h
  exact .tail (.single (.row _ _ fun _ ↦ ⟨rfl, rfl⟩)) (.note _ _ (isNote (by decide) (by decide)))

theorem softDeleteConversation_changes (h : softDeleteConversation c u now s = .ok t) :
    Changes p s t := by
  unfold softDeleteConversation at h
  cases hc : s.conversations.find? c with
  | none => rw [hc] at h; cases h
  | some row =>
    rw [hc] at h
    dsimp only at h
    split at h
    · cases h
    · split at h
      · cases h
        exact .refl
      · cases h
        exact .tail (.single (.row _ _ fun _ ↦ ⟨rfl, rfl⟩)) (.note _ _ (isNote (by decide) (by decide)))

theorem upsertFeedback_eq (row : MessageFeedback) :
    ∃ feedback, (upsertFeedback row s).2 = { s with feedback } := by
  unfold upsertFeedback
  split
  · exact ⟨_, rfl⟩
  · exact ⟨_, rfl⟩

theorem setMessageFeedback_changes {messageId : UUID} {rating : MessageFeedbackRating}
    {comment : Option String} (h : setMessageFeedback messageId u rating comment k now s = .ok t) :
    Changes p s t := by
  unfold setMessageFeedback at h
  rw [bind_eq_ok] at h
  obtain ⟨message, -, h⟩ := h
  split at h
  · cases h
  · rw [bind_eq_ok] at h
    obtain ⟨row, -, h⟩ := h
    cases h
    obtain ⟨feedback, hf⟩ := upsertFeedback_eq (s := s) _
    rw [hf]
    exact .tail (.single (.feedback feedback)) (.note _ _ (isNote (by decide) (by decide)))

theorem deleteMessageFeedback_changes {messageId : UUID} {seen : Bool}
    (h : deleteMessageFeedback messageId u seen s = .ok t) : Changes p s t := by
  unfold deleteMessageFeedback at h
  rw [bind_eq_ok] at h
  obtain ⟨message, -, h⟩ := h
  split at h
  · cases h
    exact .refl
  · rw [bind_eq_ok] at h
    obtain ⟨row, -, h⟩ := h
    cases h
    exact .tail (.single (.feedback _)) (.note _ _ (isNote (by decide) (by decide)))

end operations

end CyberNetizen.Conversations
