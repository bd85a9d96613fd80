import CyberNetizen.Lib.EventLog
import CyberNetizen.Conversations.InFlight

namespace CyberNetizen.Conversations

open Domain Infrastructure Infrastructure.ConversationRepository KeyedTable EventLog

def log (c : UUID) (s : ConversationStore) : List ConversationEvent :=
  s.events.filter (·.conversationId = c)

def stringField (key : String) (payload : JsonObject) : Option String :=
  match payload.lookup key with
  | some (.str text) => some text
  | _ => none

/-- `message.created` installs a message and `message.delta` extends it. -/
def replayStep (view : UUID → Option String) (eventType : String) (payload : JsonObject)
    (messageId : Option UUID) : UUID → Option String :=
  match messageId with
  | none => view
  | some id =>
    if eventType = "message.created" then Function.update view id (stringField "content" payload)
    else if eventType = "message.delta" then
      Function.update view id ((view id).bind fun content ↦
        (stringField "delta" payload).map (content ++ ·))
    else view

def replay (events : List ConversationEvent) : UUID → Option String :=
  events.foldl (fun view e ↦ replayStep view e.eventType e.payload e.messageId) fun _ ↦ none

def replayEmission (view : UUID → Option String) (e : Emission) : UUID → Option String :=
  replayStep view e.eventType e.payload e.messageId

section emit

variable {c k : UUID} {e : Emission} {es : List Emission} {s t : ConversationStore}

theorem emit_eq {row : Conversation} (h : s.conversations.find? c = some row) :
    (emit c s e).conversations = s.conversations.updateWhere (·.id = c) advanced ∧
      (emit c s e).events = s.events ++ [⟨row.tenantId, c, row.eventSequence + 1, e.eventType,
        e.payload, e.runId, e.messageId⟩] := by
  unfold emit
  rw [h]
  exact ⟨rfl, rfl⟩

theorem emit_eq_self (h : s.conversations.find? c = none) : emit c s e = s := by
  unfold emit
  rw [h]

theorem log_emit_of_ne (h : k ≠ c) : log k (emit c s e) = log k s := by
  cases hc : s.conversations.find? c with
  | none => rw [emit_eq_self hc]
  | some row =>
    unfold log
    rw [(emit_eq hc).2, List.filter_append]
    simp [Ne.symm h]

theorem log_emit {row : Conversation} (h : s.conversations.find? c = some row) :
    log c (emit c s e) = log c s ++ [⟨row.tenantId, c, row.eventSequence + 1, e.eventType,
      e.payload, e.runId, e.messageId⟩] := by
  unfold log
  rw [(emit_eq h).2, List.filter_append]
  simp

theorem replay_emit (h : (s.conversations.find? c).isSome) :
    replay (log c (emit c s e)) = replayEmission (replay (log c s)) e := by
  obtain ⟨row, hrow⟩ := Option.isSome_iff_exists.mp h
  unfold replay
  rw [log_emit hrow, List.foldl_append]
  rfl

theorem isSome_emit (h : (s.conversations.find? k).isSome) :
    ((emit c s e).conversations.find? k).isSome := by
  rw [find?_emit, Option.isSome_map]
  exact h

theorem log_emitAll_of_ne (h : k ≠ c) : log k (emitAll c es s) = log k s := by
  induction es generalizing s with
  | nil => rfl
  | cons e es ih => rw [emitAll_cons, ih, log_emit_of_ne h]

theorem replay_emitAll (h : (s.conversations.find? c).isSome) :
    replay (log c (emitAll c es s)) = es.foldl replayEmission (replay (log c s)) := by
  induction es generalizing s with
  | nil => rfl
  | cons e es ih => rw [emitAll_cons, ih (isSome_emit h), replay_emit h, List.foldl_cons]

end emit

/-- Every conversation counts its events, and every event is of a conversation. -/
structure Counted (s : ConversationStore) : Prop where
  numbered : ∀ row ∈ s.conversations, Numbered ConversationEvent.sequence (log row.id s) ∧
    (log row.id s).length = row.eventSequence
  known : ∀ e ∈ s.events, (s.conversations.find? e.conversationId).isSome

namespace Counted

variable {p : Allowed} {s t : ConversationStore}

theorem empty : Counted .empty where
  numbered _ h := absurd h (Table.not_mem_empty _)
  known _ h := absurd h List.not_mem_nil

theorem congr (h : Counted s) (hc : t.conversations = s.conversations)
    (he : t.events = s.events) : Counted t := by
  constructor
  · unfold log
    rw [hc, he]
    exact h.numbered
  · rw [hc, he]
    exact h.known

theorem row (h : Counted s) (c : UUID) {f : Update Conversation.id}
    (hseq : ∀ row, (f row).eventSequence = row.eventSequence) :
    Counted (updateConversationRow c f s) := by
  constructor
  · intro row' hrow'
    obtain ⟨row, hrow, rfl⟩ := Table.mem_updateWhere.mp hrow'
    obtain ⟨hn, hlen⟩ := h.numbered row hrow
    split
    · rw [f.key_eq, hseq]
      exact ⟨hn, hlen⟩
    · exact ⟨hn, hlen⟩
  · intro e he
    exact find?_updateConversationRow (h.known e he)

theorem emit (h : Counted s) (c : UUID) (e : Emission) :
    Counted (ConversationRepository.emit c s e) := by
  cases hc : s.conversations.find? c with
  | none =>
    rw [emit_eq_self hc]
    exact h
  | some found =>
    obtain ⟨hmem, hid⟩ := Table.find?_eq_some.mp hc
    constructor
    · intro row' hrow'
      rw [(emit_eq hc).1] at hrow'
      obtain ⟨row, hrow, rfl⟩ := Table.mem_updateWhere.mp hrow'
      obtain ⟨hn, hlen⟩ := h.numbered row hrow
      by_cases hk : row.id = c
      · obtain rfl : row = found := Table.eq_of_key_eq hrow hmem (hk.trans hid.symm)
        rw [hk] at hn hlen
        simp only [hk, decide_true, if_true, advanced, log_emit hc]
        refine ⟨numbered_snoc.mpr ⟨hn, ?_⟩, ?_⟩
        · rw [hlen]
        · rw [List.length_append, hlen]
          rfl
      · simp only [hk, decide_false, Bool.false_eq_true, if_false, log_emit_of_ne hk]
        exact ⟨hn, hlen⟩
    · intro e' he'
      rw [(emit_eq hc).2] at he'
      apply isSome_emit
      rcases List.mem_append.mp he' with he' | he'
      · exact h.known e' he'
      · rw [List.mem_singleton.mp he', hc]
        rfl

theorem emitAll (h : Counted s) (c : UUID) (es : List Emission) :
    Counted (ConversationRepository.emitAll c es s) := by
  induction es generalizing s with
  | nil => exact h
  | cons e es ih => exact ih (h.emit c e)

/-- A new conversation has no events yet. -/
theorem founded (h : Counted s) {row : Conversation} {u : UUID} (hseq : row.eventSequence = 0)
    (hi : insertConversation row u s = .ok t) : Counted t := by
  obtain ⟨conversations, members, hc, -, rfl⟩ := insertConversation_eq_ok hi
  obtain ⟨hfresh, -⟩ := Table.insert?_eq_some hc
  have hnone : s.conversations.find? row.id = none := Table.find?_eq_none.mpr hfresh
  constructor
  · intro row' hrow'
    rcases (Table.mem_insert? hc).mp hrow' with hrow' | rfl
    · exact h.numbered row' hrow'
    · have hempty : log row'.id s = [] := by
        refine List.filter_eq_nil_iff.mpr fun e he hk ↦ ?_
        have hknown := h.known e he
        rw [of_decide_eq_true hk, hnone] at hknown
        cases hknown
      exact ⟨by unfold log at *; rw [hempty]; exact .nil, by unfold log at *; rw [hempty, hseq]; rfl⟩
  · intro e he
    dsimp only
    rw [Table.find?_insert? hc]
    split
    · rfl
    · exact h.known e he

theorem change (h : Counted s) (hc : Change p s t) : Counted t := by
  cases hc with
  | row c f hkeep => exact h.row c fun row ↦ (hkeep row).1
  | feedback => exact h.congr rfl rfl
  | note c e => exact h.emit c e
  | founded row userId t hseq hi => exact h.founded hseq hi
  | copied item copy t hopens hitem hcopy hc hi =>
    obtain ⟨-, messages, -, rfl⟩ := insertMessage_eq_ok hi
    apply Counted.emit
    exact h.congr rfl rfl
  | opened messages response run t hopens hc hopening ho =>
    obtain ⟨v, hv, hev, rfl⟩ := ho.logged
    exact (h.congr hv hev).emitAll _ _
  | wrote w now run response =>
    apply Counted.emitAll
    exact h.congr rfl rfl

end Counted

section views

variable {w : RunWrite} {run : AgentRun} {response m : Message} {ms : List Message}
  {view : UUID → Option String} {k : UUID} {runId : Option UUID}

theorem replay_created (m : Message) :
    replayEmission view (messageCreated runId m) = Function.update view m.id (some m.content) := rfl

theorem replay_queued : replayEmission view (runQueued run) = view := rfl

theorem replay_note {e : Emission} (he : IsNote e) : replayEmission view e = view := by
  unfold replayEmission replayStep
  cases e.messageId with
  | none => rfl
  | some id =>
    dsimp only
    rw [if_neg he.notCreated, if_neg he.notDelta]

theorem replay_messages_of_notMem (h : ∀ m ∈ ms, m.id ≠ k) :
    (ms.map (messageCreated runId)).foldl replayEmission view k = view k := by
  induction ms generalizing view with
  | nil => rfl
  | cons m ms ih =>
    rw [List.map_cons, List.foldl_cons, ih fun x hx ↦ h x (List.mem_cons_of_mem _ hx),
      replay_created]
    exact Function.update_of_ne (Ne.symm (h m List.mem_cons_self)) _ _

theorem replay_messages (hnodup : (ms.map Message.id).Nodup) (hm : m ∈ ms) :
    (ms.map (messageCreated runId)).foldl replayEmission view m.id = some m.content := by
  induction ms generalizing view with
  | nil => cases hm
  | cons x ms ih =>
    obtain ⟨hx, hnodup⟩ := List.nodup_cons.mp hnodup
    rw [List.map_cons, List.foldl_cons]
    rcases List.mem_cons.mp hm with rfl | hm
    · have hrest : ∀ y ∈ ms, y.id ≠ m.id := fun y hy he ↦ hx (he ▸ List.mem_map_of_mem hy)
      rw [replay_messages_of_notMem hrest, replay_created]
      exact Function.update_self _ _ _
    · exact ih hnodup hm

/-- The events of a write change the view as the write changes the reply. -/
theorem replay_write {now : Datetime} (h : view response.id = some response.content) :
    (w.emissions (w.run now run) (w.response now response)).foldl replayEmission view =
      Function.update view response.id (some (w.response now response).content) := by
  have hsame : view = Function.update view response.id (some response.content) := by
    rw [← h, Function.update_eq_self]
  cases w with
  | delta text =>
    have hfield : stringField "delta" (deltaPayload ((RunWrite.delta text).response now response)
        text) = some text := rfl
    simp only [RunWrite.emissions, List.foldl_cons, List.foldl_nil]
    unfold replayEmission replayStep
    dsimp only
    rw [if_neg (by decide), if_pos rfl, hfield]
    change Function.update view response.id ((view response.id).bind _) = _
    rw [h]
    rfl
  | completed usage suppressResponse => cases suppressResponse <;> exact hsame
  | started => exact hsame
  | failed code => exact hsame
  | cancelled => exact hsame

end views

def Replayed (s : ConversationStore) : Prop :=
  ∀ m ∈ s.messages, (s.conversations.find? m.conversationId).isSome ∧
    replay (log m.conversationId s) m.id = some m.content

namespace Replayed

variable {p : Allowed} {s t : ConversationStore}

theorem congr (h : Replayed s) (hm : t.messages = s.messages)
    (hc : ∀ k, (s.conversations.find? k).isSome → (t.conversations.find? k).isSome)
    (hlog : ∀ k, replay (log k t) = replay (log k s)) : Replayed t := by
  intro m hmem
  rw [hm] at hmem
  obtain ⟨hconv, hview⟩ := h m hmem
  exact ⟨hc _ hconv, by rw [hlog]; exact hview⟩

theorem note (h : Replayed s) (c : UUID) {e : Emission} (he : IsNote e) : Replayed (emit c s e) := by
  refine h.congr emit_messages (fun k hk ↦ isSome_emit hk) fun k ↦ ?_
  by_cases hk : k = c
  · subst hk
    cases hc : s.conversations.find? k with
    | none => rw [emit_eq_self hc]
    | some row => rw [replay_emit (by rw [hc]; rfl), replay_note he]
  · rw [log_emit_of_ne hk]

theorem founded (h : Replayed s) {row : Conversation} {u : UUID}
    (hi : insertConversation row u s = .ok t) : Replayed t := by
  obtain ⟨conversations, members, hc, -, rfl⟩ := insertConversation_eq_ok hi
  refine h.congr rfl (fun k hk ↦ ?_) fun k ↦ rfl
  dsimp only
  rw [Table.find?_insert? hc]
  split
  · rfl
  · exact hk

theorem copied (h : Replayed s) {copy : Message} (hi : insertMessage copy s = .ok t)
    (hc : (s.conversations.find? copy.conversationId).isSome) :
    Replayed (emit copy.conversationId t (messageCreated none copy)) := by
  obtain ⟨-, messages, hinsert, rfl⟩ := insertMessage_eq_ok hi
  obtain ⟨hfresh, -⟩ := Table.insert?_eq_some hinsert
  have hview' : replay (log copy.conversationId (emit copy.conversationId { s with messages }
      (messageCreated none copy))) =
      Function.update (replay (log copy.conversationId s)) copy.id (some copy.content) :=
    replay_emit hc
  intro m hm
  rw [emit_messages] at hm
  rcases (Table.mem_insert? hinsert).mp hm with hm | rfl
  · obtain ⟨hconv, hview⟩ := h m hm
    refine ⟨isSome_emit hconv, ?_⟩
    by_cases hk : m.conversationId = copy.conversationId
    · rw [hk, hview', Function.update_of_ne (hfresh m hm), ← hk]
      exact hview
    · rw [log_emit_of_ne hk]
      exact hview
  · refine ⟨isSome_emit hc, ?_⟩
    rw [hview', Function.update_self]

theorem opened (h : Replayed s) {messages : List Message} {response : Message} {run : AgentRun}
    (hc : (s.conversations.find? run.conversationId).isSome)
    (hopening : IsOpening messages response run) (ho : Opened messages run s t) : Replayed t := by
  have hnodup : (messages.map Message.id).Nodup := by
    have hall := t.messages.nodup
    rw [ho.messageRows, List.map_append] at hall
    exact (List.nodup_append.mp hall).2.1
  obtain ⟨v, hv, hev, ht⟩ := ho.logged
  have hlog : ∀ k, log k v = log k s := fun k ↦ by
    unfold log
    rw [hev]
  have hfound : ∀ k, (s.conversations.find? k).isSome → (t.conversations.find? k).isSome := by
    intro k hk
    rw [← isSome_core] at hk ⊢
    rw [ho.core_eq]
    exact hk
  have hview : replay (log run.conversationId t) =
      (messages.map (messageCreated (some run.id))).foldl replayEmission
        (replay (log run.conversationId s)) := by
    rw [ht, replay_emitAll (by rw [hv]; exact hc), List.foldl_append, List.foldl_cons,
      List.foldl_nil, replay_queued, hlog]
  intro m hm
  rcases ho.mem_messages.mp hm with hm | hm
  · obtain ⟨hconv, hold⟩ := h m hm
    refine ⟨hfound _ hconv, ?_⟩
    by_cases hk : m.conversationId = run.conversationId
    · rw [hk, hview, replay_messages_of_notMem fun x hx he ↦ ho.freshMessages x hx m hm he.symm,
        ← hk]
      exact hold
    · rw [ht, log_emitAll_of_ne hk, hlog]
      exact hold
  · rw [hopening.isLocal m hm]
    exact ⟨hfound _ hc, by rw [hview]; exact replay_messages hnodup hm⟩

theorem wrote (h : Replayed s) (hlinked : Linked s) {w : RunWrite} {now : Datetime}
    {run : AgentRun} {response : Message} (hrun : run ∈ s.runs) (hresponse : response ∈ s.messages)
    (hid : response.id = run.responseMessageId)
    (hc : (s.conversations.find? run.conversationId).isSome) :
    Replayed (writeRun w now run response s) := by
  have hconv : response.conversationId = run.conversationId := by
    obtain ⟨m, hm, hmr, hconv, -⟩ := hlinked.reply run hrun
    obtain rfl : m = response := Table.eq_of_key_eq hm hresponse (hmr.trans hid.symm)
    exact hconv
  obtain ⟨-, hreply⟩ := h response hresponse
  rw [hconv] at hreply
  have hview : replay (log run.conversationId (writeRun w now run response s)) =
      Function.update (replay (log run.conversationId s)) response.id
        (some (w.response now response).content) := by
    unfold writeRun
    refine Eq.trans (replay_emitAll ?_) ?_
    · exact hc
    · exact replay_write hreply
  have hfound : ∀ k, (s.conversations.find? k).isSome →
      ((writeRun w now run response s).conversations.find? k).isSome := by
    intro k hk
    rw [← isSome_core] at hk ⊢
    unfold writeRun
    rw [core_emitAll]
    exact hk
  intro m' hm'
  obtain ⟨m, hm, rfl⟩ := mem_writeRun_messages.mp hm'
  by_cases hk : m.id = response.id
  · obtain rfl : m = response := Table.eq_of_key_eq hm hresponse hk
    rw [if_pos hk, write_conversationId, hconv, (w.response now).key_eq m, hview]
    exact ⟨hfound _ hc, Function.update_self _ _ _⟩
  · rw [if_neg hk]
    obtain ⟨hcm, hold⟩ := h m hm
    refine ⟨hfound _ hcm, ?_⟩
    by_cases hkc : m.conversationId = run.conversationId
    · rw [hkc, hview, Function.update_of_ne hk, ← hkc]
      exact hold
    · unfold writeRun
      rw [log_emitAll_of_ne hkc]
      exact hold

theorem change (h : Replayed s) (hlinked : Linked s) (hc : Change p s t) :
    Replayed t := by
  cases hc with
  | row c f hseq =>
    exact h.congr rfl (fun k hk ↦ find?_updateConversationRow hk) fun k ↦ rfl
  | feedback => exact h.congr rfl (fun _ hk ↦ hk) fun k ↦ rfl
  | note c e he => exact h.note c he
  | founded row userId t hseq hi => exact h.founded hi
  | copied item copy t hopens hitem hcopy hc hi => exact h.copied hi hc
  | opened messages response run t hopens hc hopening ho => exact h.opened hc hopening ho
  | wrote w now run response hrun hresponse hid hc => exact h.wrote hlinked hrun hresponse hid hc

end Replayed

def PlainAt (k : UUID) (s : ConversationStore) : Prop :=
  ∃ m ∈ s.messages, m.id = k ∧ IsPlain m

section plain

variable {p : Allowed} {s t : ConversationStore}
  {k : UUID}

theorem IsPlain.write {m : Message} (h : IsPlain m) (w : RunWrite) (now : Datetime) :
    IsPlain (w.response now m) := by
  obtain ⟨part, rest, hparts, hstream, htext⟩ := h
  cases w with
  | delta text =>
    refine ⟨{ part with text := some (part.text.getD "" ++ text), updatedAt := now }, rest, ?_,
      hstream, ?_⟩
    · change appendToParts text now m.parts = _
      rw [hparts, appendToParts, if_pos hstream]
    · rw [htext]
      rfl
  | started => exact ⟨part, rest, hparts, hstream, htext⟩
  | completed => exact ⟨part, rest, hparts, hstream, htext⟩
  | failed => exact ⟨part, rest, hparts, hstream, htext⟩
  | cancelled => exact ⟨part, rest, hparts, hstream, htext⟩

theorem PlainAt.mono (h : PlainAt k s) (hm : ∀ m ∈ s.messages, m ∈ t.messages) : PlainAt k t := by
  obtain ⟨m, hmem, hrest⟩ := h
  exact ⟨m, hm m hmem, hrest⟩

theorem PlainAt.change (h : PlainAt k s) (hc : Change p s t) : PlainAt k t := by
  cases hc with
  | row => exact h
  | feedback => exact h
  | note => exact h.mono (by simp)
  | founded row userId t hseq hi =>
    obtain ⟨conversations, members, -, -, rfl⟩ := insertConversation_eq_ok hi
    exact h
  | copied item copy t hopens hitem hcopy hc hi =>
    obtain ⟨-, messages, hinsert, rfl⟩ := insertMessage_eq_ok hi
    refine h.mono fun m hm ↦ ?_
    rw [emit_messages]
    exact (Table.mem_insert? hinsert).mpr (.inl hm)
  | opened messages response run t hopens hc hopening ho =>
    exact h.mono fun m hm ↦ ho.mem_messages.mpr (.inl hm)
  | wrote w now run response =>
    obtain ⟨m, hm, hid, hplain⟩ := h
    refine ⟨_, mem_writeRun_messages.mpr ⟨m, hm, rfl⟩, ?_⟩
    split
    · exact ⟨((w.response now).key_eq m).trans hid, hplain.write w now⟩
    · exact ⟨hid, hplain⟩

def RepliesPlain (s : ConversationStore) : Prop := ∀ run ∈ s.runs, PlainAt run.responseMessageId s

theorem RepliesPlain.change (h : RepliesPlain s) (hc : Change p s t) :
    RepliesPlain t := by
  intro r hr
  have hold : ∀ r₀ ∈ s.runs, r₀.responseMessageId = r.responseMessageId →
      PlainAt r.responseMessageId t := fun r₀ hr₀ he ↦ he ▸ (h r₀ hr₀).change hc
  cases hc with
  | row => exact hold r hr rfl
  | feedback => exact hold r hr rfl
  | note => exact hold r (by simpa using hr) rfl
  | founded row userId t hseq hi =>
    obtain ⟨conversations, members, -, -, rfl⟩ := insertConversation_eq_ok hi
    exact hold r hr rfl
  | copied item copy t hopens hitem hcopy hc hi =>
    obtain ⟨-, messages, -, rfl⟩ := insertMessage_eq_ok hi
    exact hold r (by simpa using hr) rfl
  | opened messages response run t hopens hc hopening ho =>
    rcases ho.mem_runs.mp hr with hr | rfl
    · exact hold r hr rfl
    · exact ⟨response, ho.mem_messages.mpr (.inr hopening.mem), hopening.id_eq, hopening.plain⟩
  | wrote w now run response =>
    obtain ⟨r₀, hr₀, rfl⟩ := mem_writeRun_runs.mp hr
    refine hold r₀ hr₀ ?_
    split
    · exact (write_responseMessageId r₀).symm
    · rfl

end plain

end CyberNetizen.Conversations
