import CyberNetizen.Conversations.Changes

namespace CyberNetizen.Conversations

open Domain Infrastructure Infrastructure.ConversationRepository KeyedTable Checks

variable {p : Allowed} {s t : ConversationStore}
  {c u k : UUID} {now : Datetime}

theorem agentResponse_isOpening {identity : DevelopmentIdentity} {ids : NewIds}
    {snapshot : RunSnapshot} {clientMessageId : Option UUID} {triggerId : UUID}
    (before : List Message) (hlocal : ∀ m ∈ before, m.conversationId = c)
    (hreceived : ∀ m ∈ before, m.status = .received) :
    IsOpening (before ++ [agentResponse identity ids now c clientMessageId])
      (agentResponse identity ids now c clientMessageId)
      (queuedRun identity snapshot ids c triggerId) where
  isLocal m hm := by
    rcases List.mem_append.mp hm with hm | hm
    · exact hlocal m hm
    · rw [List.mem_singleton.mp hm]
      rfl
  mem := List.mem_append_right _ (List.mem_singleton_self _)
  id_eq := rfl
  processing := rfl
  plain := ⟨_, _, rfl, rfl, rfl⟩
  empty := rfl
  queued := rfl
  received m hm := by
    rcases List.mem_append.mp hm with hm | hm
    · exact .inr (hreceived m hm)
    · exact .inl (List.mem_singleton.mp hm)

theorem userMessage_isOpening {identity : DevelopmentIdentity} {ids : NewIds}
    {snapshot : RunSnapshot} {clientMessageId triggerId : UUID} {content : String}
    {editedFromId : Option UUID} {parts : List MessagePart} {time time' : Datetime} :
    IsOpening [userMessage identity ids time c clientMessageId content editedFromId parts,
        agentResponse identity ids time' c none]
      (agentResponse identity ids time' c none) (queuedRun identity snapshot ids c triggerId) := by
  apply agentResponse_isOpening [userMessage ..]
  · intro m hm
    rw [List.mem_singleton.mp hm]
    rfl
  · intro m hm
    rw [List.mem_singleton.mp hm]
    rfl

theorem find?_updateConversationRow {f : Update Conversation.id}
    (h : (s.conversations.find? k).isSome) :
    ((updateConversationRow c f s).conversations.find? k).isSome := by
  unfold updateConversationRow
  rw [Table.find?_updateWhere, Option.isSome_map]
  exact h

/-- A begin call that creates a run opens it in the conversation that it locked. -/
structure Creates (row : Conversation) (messages : List Message) (response : Message)
    (run : AgentRun) (s t : ConversationStore) : Prop where
  found : s.conversations.find? row.id = some row
  conversation : run.conversationId = row.id
  opening : IsOpening messages response run
  opened : ∃ now, Opened messages run (updateConversationRow row.id (touched now) s) t

theorem Creates.changes {row : Conversation} {messages : List Message} {response : Message}
    {run : AgentRun} (hopens : p.opens) (h : Creates row messages response run s t) :
    Changes p s t := by
  obtain ⟨now, ho⟩ := h.opened
  refine .tail (.single (.row row.id (touched now) fun _ ↦ ⟨rfl, rfl⟩))
    (.opened _ _ _ _ hopens ?_ h.opening ho)
  apply find?_updateConversationRow
  rw [h.conversation, h.found]
  rfl

theorem newMessageParts_plain {tenantId messageId : UUID} {attachments : List Attachment}
    {ids : ℕ → UUID} {content : String} {parts : List MessagePart}
    (h : newMessageParts tenantId messageId attachments now ids content [] = .ok parts) :
    parts = draftParts tenantId messageId attachments now ids content :=
  (Except.ok.inj h).symm

theorem refreshed_id {row : Conversation} : (refreshed row s).id = row.id := by
  unfold refreshed
  cases h : s.conversations.find? row.id with
  | none => rfl
  | some found => exact Table.key_of_find? h

section begins

variable {identity : DevelopmentIdentity} {snapshot : RunSnapshot} {ids : NewIds}
  {pending : PendingAgentRun}

/-- How `begin_agent_run` ends: with the run of an earlier call or with a new one. -/
inductive BeganRun (identity : DevelopmentIdentity) (snapshot : RunSnapshot) (ids : NewIds)
    (c clientMessageId : UUID) (contentBlocks : List MultimodalContentBlock)
    (s : ConversationStore) : PendingAgentRun → ConversationStore → Prop
  | found (row : Conversation) (trigger response : Message) (run : AgentRun)
      (hrow : lockedConversation c identity.userId s = .ok row)
      (htrigger : clientMessage? c identity.userId clientMessageId s = some trigger)
      (hrun : (runsOf trigger.id s).head? = some run)
      (hresponse : s.messages.find? run.responseMessageId = some response) :
      BeganRun identity snapshot ids c clientMessageId contentBlocks s
        ⟨row, trigger, response, run, false⟩ s
  | created (row refreshed : Conversation) (time : Datetime) (content : String)
      (parts : List MessagePart) (t : ConversationStore)
      (hrow : lockedConversation c identity.userId s = .ok row)
      (hnone : clientMessage? c identity.userId clientMessageId s = none)
      (hplain : contentBlocks = [] →
        IsPlain (userMessage identity ids time c clientMessageId content none parts))
      (hcreates : Creates row
        [userMessage identity ids time c clientMessageId content none parts,
          agentResponse identity ids (time + 1) c none]
        (agentResponse identity ids (time + 1) c none)
        (queuedRun identity snapshot ids c ids.trigger) s t)
      (hrefreshed : refreshed.id = row.id) :
      BeganRun identity snapshot ids c clientMessageId contentBlocks s
        ⟨refreshed, userMessage identity ids time c clientMessageId content none parts,
          agentResponse identity ids (time + 1) c none,
          queuedRun identity snapshot ids c ids.trigger, true⟩ t

theorem beginAgentRun_eq_ok {clientMessageId : UUID} {content : String}
    {attachments : List Attachment} {contentBlocks : List MultimodalContentBlock}
    {updatedAt : Datetime}
    (h : beginAgentRun identity snapshot ids now c clientMessageId content attachments contentBlocks
      updatedAt s = .ok (pending, t)) :
    BeganRun identity snapshot ids c clientMessageId contentBlocks s pending t := by
  unfold beginAgentRun at h
  rw [bind_eq_ok] at h
  obtain ⟨row, hrow, h⟩ := h
  obtain ⟨hfind, -, -⟩ := lockedConversation_eq_ok.mp hrow
  have hid : row.id = c := Table.key_of_find? hfind
  cases htrigger : clientMessage? c identity.userId clientMessageId s with
  | some trigger =>
    rw [htrigger] at h
    dsimp only at h
    cases hrun : (runsOf trigger.id s).head? with
    | none => rw [hrun] at h; cases h
    | some run =>
      rw [hrun] at h
      dsimp only at h
      cases hresponse : s.messages.find? run.responseMessageId with
      | none => rw [hresponse] at h; cases h
      | some response =>
        rw [hresponse] at h
        cases h
        exact .found row trigger response run hrow htrigger hrun hresponse
  | none =>
    rw [htrigger] at h
    dsimp only at h
    split at h
    · cases h
    · rw [bind_eq_ok] at h
      obtain ⟨parts, hparts, h⟩ := h
      rw [bind_eq_ok] at h
      obtain ⟨t', ht, h⟩ := h
      cases h
      refine .created row _ _ content parts t hrow htrigger ?_ ?_ refreshed_id
      · rintro rfl
        rw [newMessageParts_plain hparts]
        exact ⟨_, _, rfl, rfl, rfl⟩
      · refine ⟨hid ▸ hfind, hid.symm, userMessage_isOpening, updatedAt, ?_⟩
        rw [hid]
        exact openRun_eq_ok ht

theorem BeganRun.changes {clientMessageId : UUID} {contentBlocks : List MultimodalContentBlock}
    (hopens : p.opens) (h : BeganRun identity snapshot ids c clientMessageId contentBlocks s pending t) :
    Changes p s t := by
  cases h with
  | found => exact .refl
  | created row _ _ _ _ _ _ _ _ hcreates => exact hcreates.changes hopens

/-- How the locked section of `begin_regeneration` ends. -/
inductive BeganRegeneration (identity : DevelopmentIdentity) (snapshot : RunSnapshot)
    (ids : NewIds) (original : Message) (clientRequestId : UUID) (s : ConversationStore) :
    PendingAgentRun → ConversationStore → Prop
  | found (row : Conversation) (trigger response : Message) (run : AgentRun)
      (hrow : lockedConversation original.conversationId identity.userId s = .ok row)
      (hresponse : clientMessage? row.id identity.agentId clientRequestId s = some response)
      (hrun : runOfResponse? response.id s = some run)
      (htrigger : s.messages.find? run.triggerMessageId = some trigger) :
      BeganRegeneration identity snapshot ids original clientRequestId s
        ⟨row, trigger, response, run, false⟩ s
  | created (row refreshed : Conversation) (trigger : Message) (originalRun : AgentRun)
      (time : Datetime) (t : ConversationStore)
      (hrow : lockedConversation original.conversationId identity.userId s = .ok row)
      (hnone : clientMessage? row.id identity.agentId clientRequestId s = none)
      (hrun : runOfResponse? original.id s = some originalRun)
      (htrigger : s.messages.find? originalRun.triggerMessageId = some trigger)
      (hcreates : Creates row [agentResponse identity ids time row.id (some clientRequestId)]
        (agentResponse identity ids time row.id (some clientRequestId))
        (queuedRun identity snapshot ids row.id trigger.id) s t)
      (hrefreshed : refreshed.id = row.id) :
      BeganRegeneration identity snapshot ids original clientRequestId s
        ⟨refreshed, trigger, agentResponse identity ids time row.id (some clientRequestId),
          queuedRun identity snapshot ids row.id trigger.id, true⟩ t

theorem beginRegeneration_eq_ok {original : Message} {clientRequestId : UUID}
    (h : beginRegeneration identity snapshot ids now original clientRequestId s =
      .ok (pending, t)) :
    BeganRegeneration identity snapshot ids original clientRequestId s pending t := by
  unfold beginRegeneration at h
  rw [bind_eq_ok] at h
  obtain ⟨row, hrow, h⟩ := h
  obtain ⟨hfind, -, -⟩ := lockedConversation_eq_ok.mp hrow
  have hid : row.id = original.conversationId := Table.key_of_find? hfind
  cases hresponse : clientMessage? row.id identity.agentId clientRequestId s with
  | some response =>
    rw [hresponse] at h
    dsimp only at h
    cases hrun : runOfResponse? response.id s with
    | none => rw [hrun] at h; cases h
    | some run =>
      rw [hrun] at h
      dsimp only at h
      rw [bind_eq_ok] at h
      obtain ⟨trigger, htrigger, h⟩ := h
      cases h
      exact .found row trigger response run hrow hresponse hrun
        (requiredMessage_eq_ok.mp htrigger)
  | none =>
    rw [hresponse] at h
    dsimp only at h
    cases hrun : runOfResponse? original.id s with
    | none => rw [hrun] at h; cases h
    | some originalRun =>
      rw [hrun] at h
      dsimp only at h
      rw [bind_eq_ok] at h
      obtain ⟨trigger, htrigger, h⟩ := h
      rw [bind_eq_ok] at h
      obtain ⟨t', ht, h⟩ := h
      cases h
      refine .created row _ trigger originalRun _ t hrow hresponse hrun
        (requiredMessage_eq_ok.mp htrigger) ?_ refreshed_id
      refine ⟨hid ▸ hfind, rfl, ?_, _, openRun_eq_ok ht⟩
      exact agentResponse_isOpening [] (by simp) (by simp)

theorem BeganRegeneration.changes {original : Message} {clientRequestId : UUID}
    (hopens : p.opens) (h : BeganRegeneration identity snapshot ids original clientRequestId s pending t) :
    Changes p s t := by
  cases h with
  | found => exact .refl
  | created row _ _ _ _ _ _ _ _ _ hcreates => exact hcreates.changes hopens

/-- The copies of an edited branch only add messages of the branch that have no client id. -/
structure Copied (branchId : UUID) (s t : ConversationStore) : Prop where
  runs : t.runs = s.runs
  members : t.members = s.members
  core : ∀ k, core k t = core k s
  branches : branchKeys t = branchKeys s
  messages : ∃ copies : List Message, t.messages.rows = s.messages.rows ++ copies ∧
    ∀ copy ∈ copies, copy.conversationId = branchId ∧ copy.clientMessageId = none

theorem copyMessages_eq_ok {branchId : UUID} {index : ℕ} {items : List Message}
    (hc : (s.conversations.find? branchId).isSome) (hopens : p.opens)
    (hcopies : ∀ item ∈ items, p.copies item)
    (h : copyMessages ids now branchId index items s = .ok t) :
    Changes p s t ∧ Copied branchId s t := by
  induction items generalizing s index with
  | nil =>
    cases h
    exact ⟨.refl, rfl, rfl, fun _ ↦ rfl, rfl, [], (List.append_nil _).symm, by simp⟩
  | cons item items ih =>
    unfold copyMessages at h
    dsimp only at h
    rw [bind_eq_ok] at h
    obtain ⟨u, hu, h⟩ := h
    have hstep : Change p s (emit branchId u _) :=
      .copied item (copiedMessage ids now branchId item index) u hopens (hcopies item List.mem_cons_self)
        rfl hc hu
    obtain ⟨-, messages, hi, rfl⟩ := insertMessage_eq_ok hu
    have hfound : ((emit branchId { s with messages } (messageCreated none
        (copiedMessage ids now branchId item index))).conversations.find? branchId).isSome := by
      rw [find?_emit, Option.isSome_map]
      exact hc
    obtain ⟨hchanges, hcopied⟩ := ih hfound (fun x hx ↦ hcopies x (List.mem_cons_of_mem _ hx)) h
    refine ⟨.head hstep hchanges, ?_, ?_, ?_, ?_, ?_⟩
    · simpa using hcopied.runs
    · simpa using hcopied.members
    · intro k
      rw [hcopied.core, core_emit]
      rfl
    · rw [hcopied.branches, branchKeys_emit]
      rfl
    · obtain ⟨rest, hrows, hrest⟩ := hcopied.messages
      refine ⟨copiedMessage ids now branchId item index :: rest, ?_, ?_⟩
      · rw [hrows, emit_messages, (Table.insert?_eq_some hi).2, List.append_assoc]
        rfl
      · intro copy hcopy
        rcases List.mem_cons.mp hcopy with rfl | hcopy
        · exact ⟨rfl, rfl⟩
        · exact hrest copy hcopy

/-- What the locked section of `begin_edited_branch` leaves behind. -/
structure BeganBranch (identity : DevelopmentIdentity) (snapshot : RunSnapshot) (ids : NewIds)
    (now : Datetime) (source : Message) (clientMessageId : UUID) (content : String)
    (s : ConversationStore) (pending : PendingAgentRun) (t : ConversationStore) : Prop where
  locked : ∃ row, lockedConversation source.conversationId identity.userId s = .ok row
  fresh : s.conversations.find? ids.branch = none
  created : pending.created = true
  branch : pending.conversation.id = ids.branch
  trigger : ∃ time parts, pending.triggerMessage =
    userMessage identity ids time ids.branch clientMessageId content (some source.id) parts
  response : ∃ time, pending.responseMessage = agentResponse identity ids time ids.branch none
  run : pending.run = queuedRun identity snapshot ids ids.branch ids.trigger
  conversations : ∀ k, core k t =
    if k = ids.branch then
      (core source.conversationId s).map fun row ↦ branchConversation identity ids now row source
    else core k s
  branches : branchKeys t = branchKeys s ++ [(ids.branch, some source.id)]
  members : ∀ key, t.members.find? key =
    if key = (ids.branch, identity.userId) then some ⟨ids.branch, identity.userId⟩
    else s.members.find? key
  runs : t.runs.rows = s.runs.rows ++ [pending.run]
  messages : ∃ copies : List Message, t.messages.rows =
      s.messages.rows ++ copies ++ [pending.triggerMessage, pending.responseMessage] ∧
    ∀ copy ∈ copies, copy.conversationId = ids.branch ∧ copy.clientMessageId = none

theorem Opened.core_eq {messages : List Message} {run : AgentRun} (h : Opened messages run s t)
    (k : UUID) : core k t = core k s := by
  obtain ⟨v, hv, -, rfl⟩ := h.logged
  rw [core_emitAll]
  unfold core
  rw [hv]

theorem Opened.branches {messages : List Message} {run : AgentRun} (h : Opened messages run s t) :
    branchKeys t = branchKeys s := by
  obtain ⟨v, hv, -, rfl⟩ := h.logged
  rw [branchKeys_emitAll]
  unfold branchKeys
  rw [hv]

theorem insertConversation_core {row : Conversation} (hseq : row.eventSequence = 0)
    (h : insertConversation row u s = .ok t) (k : UUID) :
    core k t = if k = row.id then some row else core k s := by
  obtain ⟨conversations, members, hc, -, rfl⟩ := insertConversation_eq_ok h
  unfold core
  rw [Table.find?_insert? hc]
  by_cases hk : k = row.id
  · rw [if_pos hk, if_pos hk, Option.map_some]
    rw [← hseq]
  · rw [if_neg hk, if_neg hk]

theorem isSome_core {k : UUID} : (core k s).isSome = (s.conversations.find? k).isSome :=
  Option.isSome_map

theorem beginEditedBranch_eq_ok {source : Message} {clientMessageId : UUID} {content : String}
    (h : beginEditedBranch identity snapshot ids now source clientMessageId content s =
      .ok (pending, t)) :
    BeganBranch identity snapshot ids now source clientMessageId content s pending t ∧
      (p.opens → (∀ item ∈ sourceRows source s, p.copies item) → Changes p s t) := by
  unfold beginEditedBranch at h
  dsimp only at h
  rw [bind_eq_ok] at h
  obtain ⟨original, horiginal, h⟩ := h
  rw [bind_eq_ok] at h
  obtain ⟨s₁, hs₁, h⟩ := h
  rw [bind_eq_ok] at h
  obtain ⟨s₂, hs₂, h⟩ := h
  rw [bind_eq_ok] at h
  obtain ⟨s₃, hs₃, h⟩ := h
  obtain ⟨rfl, rfl⟩ := Prod.mk.inj (Except.ok.inj h)
  have hopened := openRun_eq_ok hs₃
  have hcore₁ : ∀ k, core k s₁ = if k = ids.branch then
      some (branchConversation identity ids now original source) else core k s :=
    insertConversation_core rfl hs₁
  have hfounded : p.opens → Change p s s₁ := fun hopens ↦ .founded _ _ _ rfl hs₁ (.inl hopens)
  obtain ⟨conversations, members, hconv, hmem, rfl⟩ := insertConversation_eq_ok hs₁
  have hfound : ((emit ids.branch { s with conversations, members }
      { eventType := "conversation.created"
        payload := conversationPayload (branchConversation identity ids now original source) }
      ).conversations.find? ids.branch).isSome := by
    rw [← isSome_core, core_emit, hcore₁, if_pos rfl]
    rfl
  have hcopied := (copyMessages_eq_ok (p := {}) hfound trivial (fun _ _ ↦ trivial) hs₂).2
  have hcore₂ : ∀ k, core k s₂ = if k = ids.branch then
      some (branchConversation identity ids now original source) else core k s := by
    intro k
    rw [hcopied.core, core_emit, hcore₁]
  obtain ⟨copied, hrows, hlocal⟩ := hcopied.messages
  refine ⟨⟨⟨original, horiginal⟩, ?_, rfl, refreshed_id, ⟨_, _, rfl⟩, ⟨_, rfl⟩, rfl, ?_, ?_, ?_,
    ?_, copied, ?_, hlocal⟩, ?_⟩
  · exact Table.find?_eq_none.mpr (Table.insert?_eq_some hconv).1
  · intro k
    rw [hopened.core_eq, hcore₂]
    have hrow := (lockedConversation_eq_ok.mp horiginal).1
    have ho : core source.conversationId s = some { original with eventSequence := 0 } := by
      unfold core
      rw [hrow, Option.map_some]
    rw [ho]
    rfl
  · rw [hopened.branches, hcopied.branches, branchKeys_emit]
    unfold branchKeys
    rw [(Table.insert?_eq_some hconv).2, List.map_append]
    rfl
  · intro key
    rw [hopened.memberRows, hcopied.members, emit_members]
    exact Table.find?_insert? hmem key
  · rw [hopened.runRows, hcopied.runs, emit_runs]
  · rw [hopened.messageRows, hrows, emit_messages]
  · intro hopens hitems
    have hchanges := (copyMessages_eq_ok hfound hopens hitems hs₂).1
    refine .tail (.trans (.tail (.single (hfounded hopens)) (.note _ _ (isNote (by decide) (by decide))))
      hchanges) (.opened _ _ _ _ hopens ?_ userMessage_isOpening hopened)
    rw [← isSome_core]
    exact (congrArg Option.isSome (hcore₂ ids.branch)).trans (by simp)

end begins

end CyberNetizen.Conversations
