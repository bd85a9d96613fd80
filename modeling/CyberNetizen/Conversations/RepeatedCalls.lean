import CyberNetizen.Conversations.Ledger

namespace CyberNetizen.Conversations

open Domain Infrastructure Infrastructure.ConversationRepository KeyedTable Checks

/-- A waiting regeneration meets only its own message under its client id, and a waiting edit is
the first of its request. -/
def mayLock (l : Ledger) (w : Waiting) : Bool :=
  match w.call with
  | .agentRun .. => true
  | .regeneration identity responseMessageId clientRequestId _ =>
    (clientMessage? w.source.conversationId identity.agentId clientRequestId l.store).all fun m ↦
      l.made.any fun e ↦
        e.1 = .regeneration identity.agentId responseMessageId clientRequestId &&
          e.2.responseMessage.id = m.id
  | .editedBranch identity sourceMessageId clientMessageId .. =>
    (editedTriggers sourceMessageId identity.userId clientMessageId l.store).isEmpty

/-- No client id is used for two requests, a repeated edit is given the first run of its trigger, and
an edit that has the lock is the first of its request. -/
def isAdmissible (l : Ledger) : Action → Bool
  | .call (.agentRun identity conversationId clientMessageId ..) .. =>
    (clientMessage? conversationId identity.userId clientMessageId l.store).all fun m ↦
      m.senderType = .user && m.editedFromId = none
  | .call (.editedBranch identity sourceMessageId clientMessageId ..) _ _ _ _ pickRun =>
    (editedTriggers sourceMessageId identity.userId clientMessageId l.store).all fun m ↦
      anyRow pickRun (runsOf m.id l.store) = (runsOf m.id l.store).head?
  | .lock i _ _ => (l.world.waiting[i]?).all (mayLock l)
  | _ => true

section lookups

variable {s t : ConversationStore} {q : Request} {p : PendingAgentRun} {c u k : UUID}

theorem mem_messageKeys {m : Message} (h : m ∈ s.messages) : messageKey m ∈ messageKeys s :=
  List.mem_map_of_mem h

theorem find?_of_messageKey {m : Message} (h : messageKey m ∈ messageKeys s) :
    ∃ m', s.messages.find? m.id = some m' ∧ messageKey m' = messageKey m := by
  obtain ⟨m', hm', hkey⟩ := List.mem_map.mp h
  have hid : m'.id = m.id := congrArg MessageKey.id hkey
  exact ⟨m', hid ▸ Table.find?_key hm', hkey⟩

theorem find?_of_find?_messageKeys {key : MessageKey}
    (h : (messageKeys s).find? (·.id = k) = some key) :
    ∃ m, s.messages.find? k = some m ∧ messageKey m = key := by
  rw [find?_messageKeys] at h
  exact Option.map_eq_some_iff.mp h

theorem clientMessage?_eq_some {m : Message} (h : clientMessage? c u k s = some m) :
    m ∈ s.messages ∧ m.conversationId = c ∧ m.senderId = u ∧ m.clientMessageId = some k := by
  have hm := List.find?_some h
  simp only [Bool.and_eq_true, decide_eq_true_eq] at hm
  exact ⟨List.mem_of_find?_eq_some h, hm.1.1, hm.1.2, hm.2⟩

theorem clientMessage?_eq_none (h : clientMessage? c u k s = none) {key : MessageKey}
    (hc : key.conversationId = c) (hu : key.senderId = u) (hk : key.clientMessageId = some k) :
    ∀ key' ∈ messageKeys s, ¬SameClient key key' := by
  have hnone : (messageKeys s).find? (isClientKey c u k) = none := by
    rw [find?_clientKey, h]
    rfl
  intro key' hkey' hsame
  refine List.find?_eq_none.mp hnone key' hkey' ?_
  unfold isClientKey
  rw [← hsame.1, ← hsame.2.1, ← hsame.2.2, hc, hu, hk]
  simp

/-- The three rows that stand for a run that was created. -/
structure Rows (s : ConversationStore) (p : PendingAgentRun) (trigger response : Message)
    (run : AgentRun) : Prop where
  trigger : messageKey trigger = messageKey p.triggerMessage
  reply : s.messages.find? run.responseMessageId = some response
  responseId : response.id = p.responseMessage.id
  run : runKey run = runKey p.run

theorem Rows.sameRun {trigger response : Message} {run : AgentRun} {row : Conversation}
    {created : Bool} (h : Rows s p trigger response run) (hrow : row.id = p.conversation.id) :
    SameRun p ⟨row, trigger, response, run, created⟩ where
  conversation := hrow
  trigger := congrArg MessageKey.id h.trigger
  response := h.responseId
  run := congrArg RunKey.id h.run

theorem Made.rows (h : Made s q p) {trigger : Message} {run : AgentRun}
    (htrigger : messageKey trigger = messageKey p.triggerMessage) (hrun : runKey run = runKey p.run) :
    ∃ response, Rows s p trigger response run := by
  obtain ⟨response, hresponse, hkey⟩ := find?_of_messageKey h.response
  have hid : run.responseMessageId = p.responseMessage.id :=
    (congrArg RunKey.responseMessageId hrun).trans h.runResponse
  exact ⟨response, htrigger, hid ▸ hresponse, congrArg MessageKey.id hkey, hrun⟩

/-- What a repeated `begin_agent_run` finds. -/
theorem Made.agentRun (h : Made s (.agentRun u c k) p) :
    p.conversation.id = c ∧ ∃ trigger response run, clientMessage? c u k s = some trigger ∧
      (runsOf trigger.id s).head? = some run ∧ Rows s p trigger response run := by
  obtain ⟨hc, hkey, hrun⟩ := h.found
  rw [find?_clientKey] at hkey
  obtain ⟨trigger, htrigger, htkey⟩ := Option.map_eq_some_iff.mp hkey
  rw [find?_runKeys_trigger] at hrun
  obtain ⟨run, hrun, hrkey⟩ := Option.map_eq_some_iff.mp hrun
  obtain ⟨response, hrows⟩ := h.rows htkey hrkey
  have hid : trigger.id = p.triggerMessage.id := congrArg MessageKey.id htkey
  exact ⟨hc, trigger, response, run, htrigger, hid ▸ hrun, hrows⟩

/-- What a repeated `begin_regeneration` finds once it has the lock. -/
theorem Made.regeneration (h : Made s (.regeneration u c k) p) :
    ∃ source, s.messages.find? c = some source ∧ source.senderType = .agent ∧
      p.conversation.id = source.conversationId ∧ ∃ trigger response run,
        clientMessage? source.conversationId u k s = some response ∧
        runOfResponse? response.id s = some run ∧
        s.messages.find? run.triggerMessageId = some trigger ∧ Rows s p trigger response run := by
  obtain ⟨skey, hsource, hagent, hc, hkey, hrun⟩ := h.found
  obtain ⟨source, hfind, rfl⟩ := find?_of_find?_messageKeys hsource
  rw [find?_clientKey] at hkey
  obtain ⟨response, hresponse, hmkey⟩ := Option.map_eq_some_iff.mp hkey
  rw [find?_runKeys_response] at hrun
  obtain ⟨run, hrun, hrkey⟩ := Option.map_eq_some_iff.mp hrun
  obtain ⟨trigger, htrigger, htkey⟩ := find?_of_messageKey h.trigger
  have hid : response.id = p.responseMessage.id := congrArg MessageKey.id hmkey
  have htid : run.triggerMessageId = p.triggerMessage.id :=
    (congrArg RunKey.triggerMessageId hrkey).trans h.runTrigger
  have hrid : run.responseMessageId = response.id :=
    ((congrArg RunKey.responseMessageId hrkey).trans h.runResponse).trans hid.symm
  have hmem : response ∈ s.messages := List.mem_of_find?_eq_some hresponse
  refine ⟨source, hfind, hagent, hc, trigger, response, run, hresponse, hid ▸ hrun,
    htid ▸ htrigger, htkey, ?_, hid, hrkey⟩
  rw [hrid]
  exact Table.find?_key hmem

/-- What a repeated `begin_edited_branch` finds before it takes the lock. -/
theorem Made.editedBranch (h : Made s (.editedBranch u c k) p)
    (hbranch : (p.conversation.id, some c) ∈ branchKeys s) :
    (∃ source, s.messages.find? c = some source ∧ source.senderType = .user) ∧
      ∃ trigger response run, trigger ∈ editedTriggers c u k s ∧
        (runsOf trigger.id s).head? = some run ∧ Rows s p trigger response run := by
  obtain ⟨⟨skey, hsource, huser⟩, hedit, hsender, hclient, hc, hrun⟩ := h.found
  obtain ⟨source, hfind, rfl⟩ := find?_of_find?_messageKeys hsource
  obtain ⟨trigger, htrigger, htkey⟩ := find?_of_messageKey h.trigger
  rw [find?_runKeys_trigger] at hrun
  obtain ⟨run, hrun, hrkey⟩ := Option.map_eq_some_iff.mp hrun
  obtain ⟨response, hrows⟩ := h.rows htkey hrkey
  have hid : trigger.id = p.triggerMessage.id := congrArg MessageKey.id htkey
  have hconv : trigger.conversationId = p.triggerMessage.conversationId :=
    congrArg MessageKey.conversationId htkey
  refine ⟨⟨source, hfind, huser⟩, trigger, response, run, ?_, hid ▸ hrun, hrows⟩
  refine mem_editedTriggers.mpr ⟨Table.mem_of_find? htrigger, ?_, ?_, ?_, ?_⟩
  · exact (congrArg MessageKey.editedFromId htkey).trans hedit
  · exact (congrArg MessageKey.senderId htkey).trans hsender
  · exact (congrArg MessageKey.clientMessageId htkey).trans hclient
  · rw [hconv, hc]
    exact hbranch

end lookups

section freshness

variable {l : Ledger} {s t : ConversationStore} {new : List Message} {p : PendingAgentRun}

theorem messageKeys_append (h : t.messages.rows = s.messages.rows ++ new) :
    messageKeys t = messageKeys s ++ new.map messageKey := by
  unfold messageKeys
  rw [h, List.map_append]

theorem runKeys_append {run : AgentRun} (h : t.runs.rows = s.runs.rows ++ [run]) :
    runKeys t = runKeys s ++ [runKey run] := by
  unfold runKeys
  rw [h, List.map_append]
  rfl

theorem fresh_of_append (h : t.messages.rows = s.messages.rows ++ new) {m : Message} (hm : m ∈ new) :
    ∀ key ∈ messageKeys s, key.id ≠ m.id := by
  intro key hkey he
  obtain ⟨x, hx, rfl⟩ := List.mem_map.mp hkey
  have hnodup := t.messages.nodup
  rw [h, List.map_append] at hnodup
  exact (List.nodup_append.mp hnodup).2.2 x.id (List.mem_map_of_mem hx) m.id (List.mem_map_of_mem hm) he

theorem Kept.runs_fresh (h : Kept l) {k : UUID} (hk : ∀ key ∈ messageKeys l.store, key.id ≠ k) :
    (runKeys l.store).find? (·.triggerMessageId = k) = none ∧
      (runKeys l.store).find? (·.responseMessageId = k) = none := by
  have hmade : ∀ rk ∈ runKeys l.store, rk.triggerMessageId ≠ k ∧ rk.responseMessageId ≠ k := by
    intro rk hrk
    rw [h.runs] at hrk
    obtain ⟨e, he, rfl⟩ := List.mem_map.mp hrk
    have hm := h.made e he
    exact ⟨fun hkey ↦ hk _ hm.trigger (hm.runTrigger.symm.trans hkey),
      fun hkey ↦ hk _ hm.response (hm.runResponse.symm.trans hkey)⟩
  constructor
  · refine List.find?_eq_none.mpr fun rk hrk hkey ↦ ?_
    exact (hmade rk hrk).1 (of_decide_eq_true hkey)
  · refine List.find?_eq_none.mpr fun rk hrk hkey ↦ ?_
    exact (hmade rk hrk).2 (of_decide_eq_true hkey)

end freshness

section agentRun

variable {l : Ledger} {identity : DevelopmentIdentity} {c k : UUID} {content : String}
  {attachments : List Attachment} {contentBlocks : List MultimodalContentBlock}
  {snapshot : RunSnapshot} {ids : NewIds} {now updatedAt : Datetime}

theorem beginAgentRun_found {s : ConversationStore} {row : Conversation}
    {trigger response : Message} {run : AgentRun}
    (hrow : lockedConversation c identity.userId s = .ok row)
    (htrigger : clientMessage? c identity.userId k s = some trigger)
    (hrun : (runsOf trigger.id s).head? = some run)
    (hresponse : s.messages.find? run.responseMessageId = some response) :
    beginAgentRun identity snapshot ids now c k content attachments contentBlocks updatedAt s =
      .ok (⟨row, trigger, response, run, false⟩, s) := by
  unfold beginAgentRun
  rw [hrow]
  simp only [htrigger, hrun, hresponse]
  rfl

theorem Kept.agentRun_created (h : Kept l) {row refreshed : Conversation} {time : Datetime}
    {parts : List MessagePart} {t : ConversationStore}
    (hnone : clientMessage? c identity.userId k l.store = none) (hid : row.id = c)
    (hcreates : Creates row
      [userMessage identity ids time c k content none parts,
        agentResponse identity ids (time + 1) c none]
      (agentResponse identity ids (time + 1) c none)
      (queuedRun identity snapshot ids c ids.trigger) l.store t)
    (hrefreshed : refreshed.id = row.id) :
    FirstRun l (l.world.write (.ok t)) (.agentRun identity.userId c k)
      ⟨refreshed, userMessage identity ids time c k content none parts,
        agentResponse identity ids (time + 1) c none,
        queuedRun identity snapshot ids c ids.trigger, true⟩
      [messageKey (userMessage identity ids time c k content none parts),
        messageKey (agentResponse identity ids (time + 1) c none)] := by
  obtain ⟨_, ho⟩ := hcreates.opened
  have hmessages := messageKeys_append (s := l.store) ho.messageRows
  have hruns := runKeys_append (s := l.store) ho.runRows
  have hfresh := fresh_of_append ho.messageRows List.mem_cons_self
  have hclients : ∀ key ∈ messageKeys l.store,
      ¬SameClient (messageKey (userMessage identity ids time c k content none parts)) key :=
    clientMessage?_eq_none hnone rfl rfl rfl
  refine ⟨?_, ?_, hmessages, hruns, ?_, ?_, ?_, fun _ hx ↦ hx⟩
  · intro e he hq
    obtain ⟨-, trigger, -, -, htrigger, -⟩ := Made.agentRun (hq ▸ h.made e he)
    rw [hnone] at htrigger
    cases htrigger
  · have hkey : (messageKeys l.store).find? (isClientKey c identity.userId k) = none := by
      rw [find?_clientKey, hnone]
      rfl
    refine ⟨?_, ?_, rfl, rfl, hrefreshed.trans hid, ?_, ?_⟩
    · exact mem_messageKeys (ho.mem_messages.mpr (.inr List.mem_cons_self))
    · exact mem_messageKeys (ho.mem_messages.mpr (.inr (List.mem_cons_of_mem _ List.mem_cons_self)))
    · show (messageKeys t).find? _ = _
      rw [hmessages, List.find?_append, hkey, Option.none_or]
      refine List.find?_cons_of_pos ?_
      simp [isClientKey, messageKey, userMessage]
    · show (runKeys t).find? _ = _
      rw [hruns, List.find?_append]
      have hnone' := (h.runs_fresh hfresh).1
      refine (congrArg (Option.or · _) hnone').trans ?_
      rw [Option.none_or, List.find?_cons_of_pos]
      exact decide_eq_true rfl
  · refine (editedBranches_eq ?_).trans (List.append_nil _).symm
    exact ho.branches.trans (Grows.branchKeys_updateConversationRow fun _ ↦ rfl)
  · intro key hkey hsome
    rcases List.mem_cons.mp hkey with rfl | hkey
    · refine ⟨hclients, fun key' hkey' hsame ↦ ?_⟩
      rcases List.mem_cons.mp hkey' with rfl | hkey'
      · rfl
      · rw [List.mem_singleton.mp hkey'] at hsame
        exact absurd hsame.2.2 (by simp [messageKey, userMessage, agentResponse])
    · rw [List.mem_singleton.mp hkey] at hsome
      exact absurd rfl hsome
  · intro key hkey _ k' hk'
    rcases List.mem_cons.mp hkey with rfl | hkey
    · obtain rfl : k = k' := Option.some.inj hk'
      exact ⟨rfl, rfl⟩
    · rw [List.mem_singleton.mp hkey] at hk'
      cases hk'

theorem Kept.agentRun (h : Kept l)
    (hadm : ∀ m, clientMessage? c identity.userId k l.store = some m →
      m.senderType = .user ∧ m.editedFromId = none) :
    let r := beginAgentRun identity snapshot ids now c k content attachments contentBlocks updatedAt
      l.store
    Outcome l (l.world.write (r.map Prod.snd))
      (some (.agentRun identity c k content attachments contentBlocks snapshot, r.map Prod.fst)) := by
  intro r
  cases hr : r with
  | error e =>
    refine .refused _ e rfl (fun _ hx ↦ hx) fun x hx hq ⟨row, hrow⟩ ↦ ?_
    obtain ⟨-, trigger, response, run, htrigger, hrun, hrows⟩ := Made.agentRun (hq ▸ h.made x hx)
    have hok : r = .ok (⟨row, trigger, response, run, false⟩, l.store) :=
      beginAgentRun_found hrow htrigger hrun hrows.reply
    rw [hok] at hr
    cases hr
  | ok pair =>
    obtain ⟨p, t⟩ := pair
    cases beginAgentRun_eq_ok hr with
    | found row trigger response run hrow htrigger hrun hresponse =>
      obtain ⟨hmem, hconv, hsender, hclient⟩ := clientMessage?_eq_some htrigger
      obtain ⟨huser, hedit⟩ := hadm trigger htrigger
      obtain ⟨x, hx, hq, hkey⟩ :=
        h.written _ (mem_messageKeys hmem) (fun _ ↦ huser) k hclient
      have hrequest : x.1 = .agentRun identity.userId c k := by
        rw [hq, ← hconv, ← hsender]
        simp [MessageKey.request, messageKey, hedit]
      obtain ⟨hc, trigger', response', run', htrigger', hrun', hrows⟩ :=
        Made.agentRun (hrequest ▸ h.made x hx)
      rw [htrigger] at htrigger'
      cases htrigger'
      rw [hrun] at hrun'
      cases hrun'
      have hreply := hrows.reply
      rw [hresponse] at hreply
      cases hreply
      have hrow' := Table.key_of_find? (lockedConversation_eq_ok.mp hrow).1
      exact .found _ _ x rfl (fun _ hx ↦ hx) hx hrequest rfl (hrows.sameRun (hrow'.trans hc.symm))
    | created row refreshed time content' parts _ hrow hnone hplain hcreates hrefreshed =>
      have hid := Table.key_of_find? (lockedConversation_eq_ok.mp hrow).1
      exact .created _ _ _ rfl (h.agentRun_created hnone hid hcreates hrefreshed)

end agentRun

section regeneration

variable {l : Ledger} {identity : DevelopmentIdentity} {k : UUID} {snapshot : RunSnapshot}
  {ids : NewIds} {now : Datetime} {source : Message} {s : ConversationStore}

theorem readOriginalResponse_eq_ok :
    readOriginalResponse identity k s = .ok source ↔ s.messages.find? k = some source ∧
      (∃ row, lockedConversation source.conversationId identity.userId s = .ok row) ∧
      source.senderType = .agent := by
  unfold readOriginalResponse
  rw [bind_eq_ok]
  constructor
  · rintro ⟨found, hfound, hsource⟩
    obtain ⟨hfind, hrow⟩ := accessibleMessage_eq_ok.mp hfound
    split at hsource
    · cases hsource
    · rename_i hagent
      cases hsource
      exact ⟨hfind, hrow, not_not.mp hagent⟩
  · rintro ⟨hfind, hrow, hagent⟩
    refine ⟨source, accessibleMessage_eq_ok.mpr ⟨hfind, hrow⟩, ?_⟩
    rw [if_neg (not_not.mpr hagent)]
    rfl

theorem beginRegeneration_found {row : Conversation} {trigger response : Message} {run : AgentRun}
    (hrow : lockedConversation source.conversationId identity.userId s = .ok row)
    (hresponse : clientMessage? row.id identity.agentId k s = some response)
    (hrun : runOfResponse? response.id s = some run)
    (htrigger : s.messages.find? run.triggerMessageId = some trigger) :
    beginRegeneration identity snapshot ids now source k s =
      .ok (⟨row, trigger, response, run, false⟩, s) := by
  unfold beginRegeneration
  rw [hrow]
  simp only [bind, Except.bind, hresponse, hrun, requiredMessage, htrigger]
  rfl

theorem find?_of_sourceRead (hread : (messageKeys s).find? (·.id = source.id) = some (messageKey source))
    {found : Message} (hfound : s.messages.find? source.id = some found) :
    messageKey found = messageKey source := by
  rw [find?_messageKeys, hfound] at hread
  exact Option.some.inj hread

theorem Kept.regeneration_created (h : Kept l) {i : ℕ} {row refreshed : Conversation}
    {trigger : Message} {time : Datetime} {t : ConversationStore}
    (hread : (messageKeys l.store).find? (·.id = source.id) = some (messageKey source))
    (hagent : source.senderType = .agent) (hid : row.id = source.conversationId)
    (hnone : clientMessage? row.id identity.agentId k l.store = none)
    (htrigger : trigger ∈ l.store.messages)
    (hcreates : Creates row [agentResponse identity ids time row.id (some k)]
      (agentResponse identity ids time row.id (some k))
      (queuedRun identity snapshot ids row.id trigger.id) l.store t)
    (hrefreshed : refreshed.id = row.id) :
    FirstRun l { l.world.write (.ok t) with waiting := l.world.waiting.eraseIdx i }
      (.regeneration identity.agentId source.id k)
      ⟨refreshed, trigger, agentResponse identity ids time row.id (some k),
        queuedRun identity snapshot ids row.id trigger.id, true⟩
      [messageKey (agentResponse identity ids time row.id (some k))] := by
  obtain ⟨_, ho⟩ := hcreates.opened
  have hmessages := messageKeys_append (s := l.store) ho.messageRows
  have hruns := runKeys_append (s := l.store) ho.runRows
  have hgrow : messageKeys l.store <+: messageKeys t := hmessages ▸ List.prefix_append _ _
  have hfresh := fresh_of_append ho.messageRows List.mem_cons_self
  have hclients : ∀ key ∈ messageKeys l.store,
      ¬SameClient (messageKey (agentResponse identity ids time row.id (some k))) key :=
    clientMessage?_eq_none hnone rfl rfl rfl
  refine ⟨?_, ?_, hmessages, hruns, ?_, ?_, ?_, fun _ hx ↦ List.mem_of_mem_eraseIdx hx⟩
  · intro e he hq
    obtain ⟨found, hfound, -, -, -, response, -, hresponse, -⟩ :=
      Made.regeneration (hq ▸ h.made e he)
    have hconv : found.conversationId = source.conversationId :=
      congrArg MessageKey.conversationId (find?_of_sourceRead hread hfound)
    rw [hconv, ← hid, hnone] at hresponse
    cases hresponse
  · have hkey : (messageKeys l.store).find? (isClientKey row.id identity.agentId k) = none := by
      rw [find?_clientKey, hnone]
      rfl
    refine ⟨?_, ?_, rfl, rfl, messageKey source, ?_, hagent, hrefreshed.trans hid, ?_, ?_⟩
    · exact hgrow.subset (mem_messageKeys htrigger)
    · exact mem_messageKeys (ho.mem_messages.mpr (.inr List.mem_cons_self))
    · exact hgrow.find?_eq_some hread
    · show (messageKeys t).find? (isClientKey source.conversationId identity.agentId k) = _
      rw [← hid, hmessages, List.find?_append, hkey, Option.none_or]
      refine List.find?_cons_of_pos ?_
      simp [isClientKey, messageKey, agentResponse]
    · show (runKeys t).find? _ = _
      rw [hruns, List.find?_append]
      have hnone' := (h.runs_fresh hfresh).2
      refine (congrArg (Option.or · _) hnone').trans ?_
      rw [Option.none_or, List.find?_cons_of_pos]
      exact decide_eq_true rfl
  · refine (editedBranches_eq ?_).trans (List.append_nil _).symm
    exact ho.branches.trans (Grows.branchKeys_updateConversationRow fun _ ↦ rfl)
  · intro key hkey _
    obtain rfl := List.mem_singleton.mp hkey
    exact ⟨hclients, fun key' hkey' _ ↦ (List.mem_singleton.mp hkey').symm⟩
  · intro key hkey huser
    rw [List.mem_singleton.mp hkey] at huser
    cases huser rfl

theorem Kept.regeneration (h : Kept l) {i : ℕ}
    (hread : (messageKeys l.store).find? (·.id = source.id) = some (messageKey source))
    (hagent : source.senderType = .agent)
    (hadm : ∀ m, clientMessage? source.conversationId identity.agentId k l.store = some m →
      ∃ e ∈ l.made, e.1 = .regeneration identity.agentId source.id k ∧
        e.2.responseMessage.id = m.id) :
    let r := beginRegeneration identity snapshot ids now source k l.store
    Outcome l { l.world.write (r.map Prod.snd) with waiting := l.world.waiting.eraseIdx i }
      (some (.regeneration identity source.id k snapshot, r.map Prod.fst)) := by
  intro r
  cases hr : r with
  | error e =>
    refine .refused _ e rfl (fun _ hx ↦ List.mem_of_mem_eraseIdx hx) fun x hx hq hacc ↦ ?_
    obtain ⟨found, row, hfound, hrow⟩ := hacc
    obtain ⟨found', hfound', -, -, trigger, response, run, hresponse, hrun, htrigger, -⟩ :=
      Made.regeneration (hq ▸ h.made x hx)
    rw [hfound] at hfound'
    cases hfound'
    have hconv : found.conversationId = source.conversationId :=
      congrArg MessageKey.conversationId (find?_of_sourceRead hread hfound)
    rw [hconv] at hrow hresponse
    have hid : row.id = source.conversationId :=
      Table.key_of_find? (lockedConversation_eq_ok.mp hrow).1
    have hok : r = .ok (⟨row, trigger, response, run, false⟩, l.store) :=
      beginRegeneration_found hrow (hid ▸ hresponse) hrun htrigger
    rw [hok] at hr
    cases hr
  | ok pair =>
    obtain ⟨p, t⟩ := pair
    cases beginRegeneration_eq_ok hr with
    | found row trigger response run hrow hresponse hrun htrigger =>
      have hid : row.id = source.conversationId :=
        Table.key_of_find? (lockedConversation_eq_ok.mp hrow).1
      rw [hid] at hresponse
      obtain ⟨x, hx, hq, -⟩ := hadm response hresponse
      obtain ⟨found, hfound, -, hc, trigger', response', run', hresponse', hrun', htrigger', hrows⟩ :=
        Made.regeneration (hq ▸ h.made x hx)
      have hconv : found.conversationId = source.conversationId :=
        congrArg MessageKey.conversationId (find?_of_sourceRead hread hfound)
      rw [hconv, hresponse] at hresponse'
      cases hresponse'
      rw [hrun] at hrun'
      cases hrun'
      rw [htrigger] at htrigger'
      cases htrigger'
      refine .found _ _ x rfl (fun _ hx ↦ List.mem_of_mem_eraseIdx hx) hx hq rfl
        (hrows.sameRun ?_)
      rw [hid, hc, hconv]
    | created row refreshed trigger originalRun time _ hrow hnone hrun htrigger hcreates hrefreshed =>
      have hid : row.id = source.conversationId :=
        Table.key_of_find? (lockedConversation_eq_ok.mp hrow).1
      exact .created _ _ _ rfl (h.regeneration_created hread hagent hid hnone
        (Table.mem_of_find? htrigger) hcreates hrefreshed)

end regeneration

section editedBranch

variable {l : Ledger} {identity : DevelopmentIdentity} {k : UUID} {content : String}
  {snapshot : RunSnapshot} {ids : NewIds} {now : Datetime} {source : Message}
  {pickTrigger pickRun : ℕ} {s : ConversationStore}

theorem anyRow_mem {α : Type} {pick : ℕ} {rows : List α} {a : α} (h : anyRow pick rows = some a) :
    a ∈ rows :=
  List.mem_of_getElem? h

theorem anyRow_eq_none {α : Type} {pick : ℕ} {rows : List α} (h : anyRow pick rows = none) :
    rows = [] := by
  cases rows with
  | nil => rfl
  | cons a rows =>
    have hlt : pick % (a :: rows).length < (a :: rows).length := Nat.mod_lt _ (Nat.succ_pos _)
    exact absurd (List.getElem?_eq_none_iff.mp h) (Nat.not_le_of_lt hlt)

structure EditSource (identity : DevelopmentIdentity) (k : UUID) (s : ConversationStore)
    (source : Message) : Prop where
  found : s.messages.find? k = some source
  locked : ∃ row, lockedConversation source.conversationId identity.userId s = .ok row
  user : source.senderType = .user

/-- What `begin_edited_branch` reads before it takes the lock. -/
inductive ReadsEdit (identity : DevelopmentIdentity) (c k : UUID) (pickTrigger pickRun : ℕ)
    (s : ConversationStore) : Except ConversationError (PendingAgentRun ⊕ Message) → Prop
  | refused (e : ConversationError) (hnone : ∀ source, ¬EditSource identity c s source) :
      ReadsEdit identity c k pickTrigger pickRun s (.error e)
  | broken (e : ConversationError) (trigger : Message)
      (htrigger : anyRow pickTrigger (editedTriggers c identity.userId k s) = some trigger)
      (hbroken : ∀ run response, anyRow pickRun (runsOf trigger.id s) = some run →
        (s.conversations.find? trigger.conversationId).isSome →
          s.messages.find? run.responseMessageId ≠ some response) :
      ReadsEdit identity c k pickTrigger pickRun s (.error e)
  | found (trigger response : Message) (run : AgentRun) (branch : Conversation)
      (htrigger : anyRow pickTrigger (editedTriggers c identity.userId k s) = some trigger)
      (hrun : anyRow pickRun (runsOf trigger.id s) = some run)
      (hbranch : s.conversations.find? trigger.conversationId = some branch)
      (hresponse : s.messages.find? run.responseMessageId = some response) :
      ReadsEdit identity c k pickTrigger pickRun s
        (.ok (.inl ⟨branch, trigger, response, run, false⟩))
  | fresh (source : Message) (hsource : EditSource identity c s source)
      (htrigger : editedTriggers c identity.userId k s = []) :
      ReadsEdit identity c k pickTrigger pickRun s (.ok (.inr source))

theorem readEditSource_reads {c : UUID} : ReadsEdit identity c k pickTrigger pickRun s
    (readEditSource identity c k pickTrigger pickRun s) := by
  unfold readEditSource
  cases hm : accessibleMessage c identity.userId "要编辑的消息不存在" s with
  | error e =>
    refine .refused e fun source hs ↦ ?_
    rw [accessibleMessage_eq_ok.mpr ⟨hs.found, hs.locked⟩] at hm
    cases hm
  | ok source =>
    obtain ⟨hfound, hlocked⟩ := accessibleMessage_eq_ok.mp hm
    have hid : source.id = c := Table.key_of_find? hfound
    simp only [bind, Except.bind, hid]
    split
    · rename_i huser
      refine .refused _ fun source' hs ↦ huser ?_
      have hsame := hs.found
      rw [hfound] at hsame
      cases hsame
      exact hs.user
    · rename_i huser
      cases htrigger : anyRow pickTrigger (editedTriggers c identity.userId k s) with
      | none => exact .fresh source ⟨hfound, hlocked, not_not.mp huser⟩ (anyRow_eq_none htrigger)
      | some trigger =>
        dsimp only
        split
        · rename_i run branch hrun hbranch
          cases hresponse : s.messages.find? run.responseMessageId with
          | none =>
            refine .broken _ trigger htrigger fun run' response hrun' _ ↦ ?_
            rw [hrun] at hrun'
            cases hrun'
            rw [hresponse]
            simp
          | some response => exact .found trigger response run branch htrigger hrun hbranch hresponse
        · rename_i hnone
          refine .broken _ trigger htrigger fun run response hrun hsome ↦ ?_
          obtain ⟨branch, hbranch⟩ := Option.isSome_iff_exists.mp hsome
          exact absurd hbranch (hnone run branch hrun)

/-- A trigger that a repeated edit meets is the one that was made for it. -/
theorem Kept.edited_trigger (h : Kept l) {c u : UUID} {m : Message}
    (hm : m ∈ editedTriggers c u k l.store) :
    ∃ x ∈ l.made, x.1 = .editedBranch u c k ∧ m.conversationId = x.2.conversation.id ∧
      ∃ response run, (runsOf m.id l.store).head? = some run ∧ Rows l.store x.2 m response run := by
  obtain ⟨hmem, hedit, hsender, hclient, -⟩ := mem_editedTriggers.mp hm
  have hnotNone : (messageKey m).editedFromId ≠ none := by
    show m.editedFromId ≠ none
    rw [hedit]
    exact (nomatch ·)
  obtain ⟨x, hx, hq, hkey⟩ :=
    h.written _ (mem_messageKeys hmem) (fun hnone ↦ absurd hnone hnotNone) k hclient
  have hrequest : x.1 = .editedBranch u c k := by
    rw [hq, ← hsender]
    simp [MessageKey.request, messageKey, hedit]
  have hmade : Made l.store (.editedBranch u c k) x.2 := hrequest ▸ h.made x hx
  obtain ⟨-, -, -, -, hc, hrun⟩ := hmade.found
  have hid : m.id = x.2.triggerMessage.id := (congrArg MessageKey.id hkey).symm
  rw [← hid, find?_runKeys_trigger] at hrun
  obtain ⟨run, hrun, hrkey⟩ := Option.map_eq_some_iff.mp hrun
  obtain ⟨response, hrows⟩ := hmade.rows hkey.symm hrkey
  exact ⟨x, hx, hrequest, (congrArg MessageKey.conversationId hkey).symm.trans hc, response, run,
    hrun, hrows⟩

theorem Kept.branched (h : Kept l) {x : Request × PendingAgentRun} (hx : x ∈ l.made) {u c : UUID}
    (hq : x.1 = .editedBranch u c k) : (x.2.conversation.id, some c) ∈ branchKeys l.store := by
  have hmem : (x.2.conversation.id, some c) ∈ editedBranches l.store := by
    rw [h.branches]
    refine List.mem_filterMap.mpr ⟨x, hx, ?_⟩
    obtain ⟨q, p⟩ := x
    obtain rfl := hq
    rfl
  exact List.mem_of_mem_filter hmem

theorem Kept.readEdit (h : Kept l) (ids : NewIds) {c : UUID} {updatedAt : Datetime} {call : BeginCall}
    (hcall : call = .editedBranch identity c k content snapshot)
    (hadm : ∀ m ∈ editedTriggers c identity.userId k l.store,
      anyRow pickRun (runsOf m.id l.store) = (runsOf m.id l.store).head?) :
    let r := enter l.world call ids now updatedAt pickTrigger pickRun
    Outcome l r.2 r.1 := by
  subst hcall
  simp only [enter]
  have hreads : ReadsEdit identity c k pickTrigger pickRun l.store
    (readEditSource identity c k pickTrigger pickRun l.world.store) := readEditSource_reads
  generalize readEditSource identity c k pickTrigger pickRun l.world.store = r at hreads
  cases hreads with
  | refused e hnone =>
    refine .refused _ e rfl (fun _ hx ↦ hx) fun x hx hq hacc ↦ ?_
    obtain ⟨source, row, hfound, hrow⟩ := hacc
    obtain ⟨⟨source', hfound', huser⟩, -⟩ :=
      Made.editedBranch (hq ▸ h.made x hx) (h.branched hx hq)
    rw [hfound] at hfound'
    cases hfound'
    exact hnone source ⟨hfound, ⟨row, hrow⟩, huser⟩
  | broken e trigger htrigger hbroken =>
    obtain ⟨x, hx, hq, hc, response, run, hrun, hrows⟩ := h.edited_trigger (anyRow_mem htrigger)
    have hmem : trigger ∈ l.store.messages := (mem_editedTriggers.mp (anyRow_mem htrigger)).1
    have hbranch := (h.sound.replayed trigger hmem).1
    rw [← hadm trigger (anyRow_mem htrigger)] at hrun
    exact absurd hrows.reply (hbroken run response hrun hbranch)
  | found trigger response run branch htrigger hrun hbranch hresponse =>
    obtain ⟨x, hx, hq, hc, response', run', hrun', hrows⟩ := h.edited_trigger (anyRow_mem htrigger)
    rw [← hadm trigger (anyRow_mem htrigger), hrun] at hrun'
    cases hrun'
    have hreply := hrows.reply
    rw [hresponse] at hreply
    cases hreply
    refine .found _ _ x rfl (fun _ hx ↦ hx) hx hq rfl (hrows.sameRun ?_)
    exact (Table.key_of_find? hbranch).trans hc
  | fresh source hsource =>
    refine .silent ⟨rfl, rfl, rfl, fun x hx ↦ ?_⟩
    rcases List.mem_append.mp hx with hx | hx
    · exact .inl hx
    · rw [List.mem_singleton.mp hx]
      have hid : source.id = c := Table.key_of_find? hsource.found
      refine .inr ⟨?_, hid, hsource.user⟩
      show (messageKeys l.store).find? (·.id = source.id) = some (messageKey source)
      rw [find?_messageKeys, hid, hsource.found]
      rfl

theorem Kept.editedBranch_created (h : Kept l) {i : ℕ} {p : PendingAgentRun}
    {t : ConversationStore}
    (hread : (messageKeys l.store).find? (·.id = source.id) = some (messageKey source))
    (huser : source.senderType = .user)
    (hfirst : editedTriggers source.id identity.userId k l.store = [])
    (hbegan : BeganBranch identity snapshot ids now source k content l.store p t) :
    ∃ new, FirstRun l { l.world.write (.ok t) with waiting := l.world.waiting.eraseIdx i }
      (.editedBranch identity.userId source.id k) p new := by
  obtain ⟨copies, hrows, hcopies⟩ := hbegan.messages
  obtain ⟨time, parts, htrigger⟩ := hbegan.trigger
  obtain ⟨time', hresponse⟩ := hbegan.response
  rw [List.append_assoc] at hrows
  have hmessages := messageKeys_append hrows
  have hruns := runKeys_append hbegan.runs
  have hgrow : messageKeys l.store <+: messageKeys t := hmessages ▸ List.prefix_append _ _
  have hnew : ∀ m ∈ copies ++ [p.triggerMessage, p.responseMessage], m.conversationId = ids.branch ∧
      (m.clientMessageId ≠ none → m = p.triggerMessage) := by
    intro m hm
    rcases List.mem_append.mp hm with hm | hm
    · exact ⟨(hcopies m hm).1, fun hsome ↦ absurd (hcopies m hm).2 hsome⟩
    · rcases List.mem_cons.mp hm with rfl | hm
      · exact ⟨htrigger ▸ rfl, fun _ ↦ rfl⟩
      · rw [List.mem_singleton.mp hm, hresponse]
        exact ⟨rfl, fun hsome ↦ absurd rfl hsome⟩
  have hmem : ∀ m ∈ [p.triggerMessage, p.responseMessage], messageKey m ∈ messageKeys t := by
    intro m hm
    rw [hmessages]
    exact List.mem_append_right _ (List.mem_map_of_mem (List.mem_append_right _ hm))
  have hfresh := fresh_of_append hrows (List.mem_append_right _ List.mem_cons_self)
  refine ⟨_, ?_, ?_, hmessages, hruns, ?_, ?_, ?_, fun _ hx ↦ List.mem_of_mem_eraseIdx hx⟩
  · intro x hx hq
    obtain ⟨-, trigger, -, -, hmem, -⟩ := Made.editedBranch (hq ▸ h.made x hx) (h.branched hx hq)
    rw [hfirst] at hmem
    cases hmem
  · refine ⟨hmem _ List.mem_cons_self, hmem _ (List.mem_cons_of_mem _ List.mem_cons_self), ?_, ?_,
      ⟨messageKey source, hgrow.find?_eq_some hread, huser⟩, ?_, ?_, ?_, ?_, ?_⟩
    · rw [hbegan.run, htrigger]
      rfl
    · rw [hbegan.run, hresponse]
      rfl
    · rw [htrigger]
      rfl
    · rw [htrigger]
      rfl
    · rw [htrigger]
      rfl
    · rw [htrigger, hbegan.branch]
      rfl
    · show (runKeys t).find? _ = _
      rw [hruns, List.find?_append, (h.runs_fresh hfresh).1, Option.none_or]
      refine List.find?_cons_of_pos (decide_eq_true ?_)
      rw [hbegan.run, htrigger]
      rfl
  · show editedBranches t = _
    unfold editedBranches
    rw [hbegan.branches, List.filter_append, ← hbegan.branch]
    rfl
  · intro key hkey hsome
    obtain ⟨m, hm, rfl⟩ := List.mem_map.mp hkey
    refine ⟨fun key' hkey' hsame ↦ ?_, fun key' hkey' hsame ↦ ?_⟩
    · obtain ⟨m', hm', rfl⟩ := List.mem_map.mp hkey'
      have hconv : m'.conversationId = ids.branch := hsame.1.symm.trans (hnew m hm).1
      have hknown := (h.sound.replayed m' hm').1
      rw [hconv, hbegan.fresh] at hknown
      cases hknown
    · obtain ⟨m', hm', rfl⟩ := List.mem_map.mp hkey'
      have hsome' : m'.clientMessageId ≠ none := fun hn ↦ hsome (hsame.2.2.trans hn)
      rw [(hnew m hm).2 hsome, (hnew m' hm').2 hsome']
  · intro key hkey _ k' hk'
    obtain ⟨m, hm, rfl⟩ := List.mem_map.mp hkey
    have hsome : m.clientMessageId ≠ none := fun hn ↦ by
      rw [show m.clientMessageId = some k' from hk'] at hn
      cases hn
    rw [(hnew m hm).2 hsome, htrigger] at hk' ⊢
    obtain rfl : k = k' := Option.some.inj hk'
    exact ⟨rfl, rfl⟩

theorem Kept.editedBranch (h : Kept l) {i : ℕ}
    (hread : (messageKeys l.store).find? (·.id = source.id) = some (messageKey source))
    (huser : source.senderType = .user)
    (hfirst : editedTriggers source.id identity.userId k l.store = []) :
    let r := beginEditedBranch identity snapshot ids now source k content l.store
    Outcome l { l.world.write (r.map Prod.snd) with waiting := l.world.waiting.eraseIdx i }
      (some (.editedBranch identity source.id k content snapshot, r.map Prod.fst)) := by
  intro r
  cases hr : r with
  | error e =>
    refine .refused _ e rfl (fun _ hx ↦ List.mem_of_mem_eraseIdx hx) fun x hx hq _ ↦ ?_
    obtain ⟨-, trigger, -, -, hmem, -⟩ := Made.editedBranch (hq ▸ h.made x hx) (h.branched hx hq)
    rw [hfirst] at hmem
    cases hmem
  | ok pair =>
    obtain ⟨p, t⟩ := pair
    have hbegan := (beginEditedBranch_eq_ok (p := {}) hr).1
    obtain ⟨new, hnew⟩ := h.editedBranch_created (i := i) hread huser hfirst hbegan
    exact .created _ _ new hbegan.created hnew

end editedBranch

section steps

variable {l : Ledger} {a : Action}

theorem silent_of_not_begin (ha : isBegin a = false) (w : World) :
    (step w a).1 = none ∧ (step w a).2.waiting = w.waiting := by
  have hwrite : ∀ r, (w.write r).waiting = w.waiting := fun r ↦ by cases r <;> rfl
  cases a with
  | call => cases ha
  | lock => cases ha
  | _ => exact ⟨rfl, hwrite _⟩

/-- What a waiting call read is enough for its locked section. -/
theorem Kept.lock (h : Kept l) {i : ℕ} {ids : NewIds} {now : Datetime}
    (ha : isAdmissible l (.lock i ids now) = true) :
    Outcome l (step l.world (.lock i ids now)).2 (step l.world (.lock i ids now)).1 := by
  have hmay : (l.world.waiting[i]?).all (mayLock l) = true := ha
  simp only [step]
  cases hw : l.world.waiting[i]? with
  | none => exact .silent ⟨rfl, rfl, rfl, fun x hx ↦ .inl hx⟩
  | some w =>
    obtain ⟨call, source⟩ := w
    rw [hw, Option.all_some] at hmay
    unfold mayLock at hmay
    obtain ⟨hread, hcall⟩ := h.waiting _ (List.mem_of_getElem? hw)
    cases call with
    | agentRun => exact hcall.elim
    | regeneration identity c k snapshot =>
      obtain ⟨hid, hagent⟩ := hcall
      dsimp only at hid hagent hread hmay
      subst hid
      refine h.regeneration hread hagent fun m hm ↦ ?_
      rw [hm, Option.all_some] at hmay
      obtain ⟨e, he, heq⟩ := List.any_eq_true.mp hmay
      rw [Bool.and_eq_true, decide_eq_true_eq, decide_eq_true_eq] at heq
      exact ⟨e, he, heq⟩
    | editedBranch identity c k content snapshot =>
      obtain ⟨hid, huser⟩ := hcall
      dsimp only at hid huser hread hmay
      subst hid
      exact h.editedBranch hread huser (List.isEmpty_iff.mp hmay)

theorem Kept.outcome_of_step (h : Kept l) (ha : isAdmissible l a = true) :
    Outcome l (step l.world a).2 (step l.world a).1 := by
  by_cases hb : isBegin a = false
  · obtain ⟨hnone, hwaiting⟩ := silent_of_not_begin hb l.world
    obtain ⟨hm, hr, hbr⟩ := keys_of_not_begin (w := l.world) hb
    rw [hnone]
    exact .silent ⟨hm, hr, hbr, fun x hx ↦ .inl (hwaiting ▸ hx)⟩
  · cases a with
    | call call ids now updatedAt pickTrigger pickRun =>
      cases call with
      | agentRun identity c k content attachments contentBlocks snapshot =>
        refine h.agentRun fun m hm ↦ ?_
        unfold isAdmissible at ha
        dsimp only at ha
        rw [hm, Option.all_some, Bool.and_eq_true, decide_eq_true_eq, decide_eq_true_eq] at ha
        exact ha
      | regeneration identity c k snapshot =>
        simp only [step, enter]
        cases hr : readOriginalResponse identity c l.world.store with
        | error e =>
          refine .refused _ e rfl (fun _ hx ↦ hx) fun x hx hq hacc ↦ ?_
          obtain ⟨source, row, hfound, hrow⟩ := hacc
          obtain ⟨source', hfound', hagent, -⟩ := Made.regeneration (hq ▸ h.made x hx)
          rw [hfound] at hfound'
          cases hfound'
          have hok := readOriginalResponse_eq_ok.mpr ⟨hfound, ⟨row, hrow⟩, hagent⟩
          rw [show readOriginalResponse identity c l.store = .error e from hr] at hok
          cases hok
        | ok source =>
          obtain ⟨hfound, -, hagent⟩ := readOriginalResponse_eq_ok.mp hr
          have hid : source.id = c := Table.key_of_find? hfound
          refine .silent ⟨rfl, rfl, rfl, fun x hx ↦ ?_⟩
          rcases List.mem_append.mp hx with hx | hx
          · exact .inl hx
          · rw [List.mem_singleton.mp hx]
            refine .inr ⟨?_, hid, hagent⟩
            show (messageKeys l.world.store).find? (·.id = source.id) = some (messageKey source)
            rw [find?_messageKeys, hid, hfound]
            rfl
      | editedBranch identity c k content snapshot =>
        refine h.readEdit ids rfl fun m hm ↦ ?_
        exact of_decide_eq_true (List.all_eq_true.mp ha m hm)
    | lock i ids now => exact h.lock ha
    | _ => exact absurd rfl hb

theorem Kept.step (h : Kept l) (ha : isAdmissible l a = true) : Kept (ledgerStep l a).2 :=
  h.outcome (step_keeps_all (fun _ _ hs hc ↦ hs.change hc) l.world a h.sound)
    (Grows.step l.world a) (h.outcome_of_step ha)

end steps

end CyberNetizen.Conversations
