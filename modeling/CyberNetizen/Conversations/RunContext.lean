import CyberNetizen.Infrastructure.ConversationRepository
import CyberNetizen.Conversations.RepeatedCalls

/-! # The messages that a run reads -/

namespace CyberNetizen.Application.ConversationService

open Domain Infrastructure Infrastructure.ConversationRepository

/-- The last position of a message, as `execute_run` looks for it from the end. -/
def triggerIndex (triggerMessageId : UUID) (messages : List Message) : Option ℕ :=
  (List.range messages.length).reverse.find? fun index ↦
    (messages[index]?.map (·.id)) = some triggerMessageId

structure ContextLimits where
  sourceMessageLimit : ℕ
  recentMessageLimit : ℕ

structure ContextLimits.Valid (limits : ContextLimits) : Prop where
  source : 40 ≤ limits.sourceMessageLimit ∧ limits.sourceMessageLimit ≤ 2000
  recent : 4 ≤ limits.recentMessageLimit ∧ limits.recentMessageLimit ≤ 200

def ContextLimits.read (limits : ContextLimits) : ℕ :=
  max limits.sourceMessageLimit limits.recentMessageLimit

def contextMessages (identity : DevelopmentIdentity) (pending : PendingAgentRun)
    (limits : ContextLimits) (s : ConversationStore) : Except String (List Message) :=
  let messages := listContextMessages pending.conversation.id identity.userId (limits.read + 1) s
  match triggerIndex pending.triggerMessage.id messages with
  | none => .error "Agent Run 的触发消息不在会话上下文中"
  | some index => .ok (messages.take (index + 1))

end CyberNetizen.Application.ConversationService

/-! # A run reads its trigger

The messages that a run reads are the newest of its conversation. -/

namespace CyberNetizen.Conversations

open Domain Infrastructure Infrastructure.ConversationRepository KeyedTable
open Application.ConversationService

def BeginCall.identity : BeginCall → DevelopmentIdentity
  | .agentRun identity .. | .regeneration identity .. | .editedBranch identity .. => identity

def EndsWith (triggerMessageId : UUID) (messages : List Message) : Prop :=
  ∃ earlier trigger, messages = earlier ++ [trigger] ∧ trigger.id = triggerMessageId ∧
    ∀ m ∈ earlier, m.conversationId = trigger.conversationId ∧ messageOrder m < messageOrder trigger

def newerMessages (triggerMessageId : UUID) (s : ConversationStore) : ℕ :=
  match s.messages.find? triggerMessageId with
  | none => 0
  | some trigger =>
    Keyset.newer messageOrder s.messages.rows (·.conversationId = trigger.conversationId) trigger

section triggerIndex

variable {id : UUID} {messages : List Message}

theorem triggerIndex_append {before after : List Message} {trigger : Message}
    (hafter : ∀ m ∈ after, m.id ≠ trigger.id) :
    triggerIndex trigger.id (before ++ trigger :: after) = some before.length := by
  unfold triggerIndex
  rw [List.find?_eq_some_iff_append]
  refine ⟨by simp, ((List.range after.length).map (before.length + 1 + ·)).reverse,
    (List.range before.length).reverse, ?_, ?_⟩
  · have hlength : (before ++ trigger :: after).length = before.length + 1 + after.length := by
      simp
      omega
    rw [hlength, List.range_add, List.range_succ]
    simp
  · intro index hindex
    obtain ⟨k, hk, rfl⟩ := List.mem_map.mp (List.mem_reverse.mp hindex)
    have hk := List.mem_range.mp hk
    have hget : (before ++ trigger :: after)[before.length + 1 + k]? = some after[k] := by
      rw [List.getElem?_append_right (by omega)]
      have hsub : before.length + 1 + k - before.length = k + 1 := by omega
      rw [hsub, List.getElem?_cons_succ, List.getElem?_eq_getElem hk]
    rw [hget]
    simpa using hafter _ (List.getElem_mem hk)

theorem triggerIndex_eq_none (h : ∀ m ∈ messages, m.id ≠ id) : triggerIndex id messages = none := by
  unfold triggerIndex
  rw [List.find?_eq_none]
  intro index hindex
  rw [List.mem_reverse, List.mem_range] at hindex
  rw [List.getElem?_eq_getElem hindex]
  simpa using h _ (List.getElem_mem hindex)

end triggerIndex

section reads

variable {identity : DevelopmentIdentity} {pending : PendingAgentRun} {limits : ContextLimits}
  {s : ConversationStore} {trigger : Message}

theorem messageOrder_nodup (s : ConversationStore) : (s.messages.rows.map messageOrder).Nodup := by
  apply List.Nodup.of_map (fun o : Datetime ×ₗ UUID ↦ (ofLex o).2)
  rw [List.map_map]
  exact s.messages.nodup

/-- A run whose trigger is a message of its conversation finds it, and ends its context with it, if
and only if no more newer messages are there than it reads. -/
theorem contextMessages_iff
    (hmember : (s.members.find? (pending.conversation.id, identity.userId)).isSome)
    (htrigger : s.messages.find? pending.triggerMessage.id = some trigger)
    (hconversation : trigger.conversationId = pending.conversation.id) :
    (∃ messages, contextMessages identity pending limits s = .ok messages ∧
      EndsWith pending.triggerMessage.id messages) ↔
      newerMessages pending.triggerMessage.id s ≤ limits.read := by
  have hid : trigger.id = pending.triggerMessage.id := Table.key_of_find? htrigger
  have hmem : trigger ∈ s.messages.rows := Table.mem_of_find? htrigger
  have hkeep : decide (trigger.conversationId = pending.conversation.id) = true :=
    decide_eq_true hconversation
  have hlist : listContextMessages pending.conversation.id identity.userId (limits.read + 1) s =
      (Keyset.fetch messageOrder s.messages.rows (·.conversationId = pending.conversation.id) none
        (limits.read + 1)).reverse := by
    unfold listContextMessages ConversationRepository.listMessages
    rw [if_neg (by
      rw [Option.isNone_iff_eq_none, ← Option.not_isSome_iff_eq_none]; exact not_not.mpr hmember)]
    rfl
  have hnewer : newerMessages pending.triggerMessage.id s = Keyset.newer messageOrder
      s.messages.rows (·.conversationId = pending.conversation.id) trigger := by
    unfold newerMessages
    rw [htrigger]
    dsimp only
    rw [hconversation]
  unfold contextMessages
  rw [hlist, hnewer]
  dsimp only
  have hrow : ∀ m ∈ Keyset.fetch messageOrder s.messages.rows
      (·.conversationId = pending.conversation.id) none (limits.read + 1),
      m ∈ s.messages ∧ m.conversationId = trigger.conversationId := by
    intro m hm
    obtain ⟨hm, hc, -⟩ := Keyset.mem_matching.mp (List.mem_of_mem_take hm)
    exact ⟨hm, (of_decide_eq_true hc).trans hconversation.symm⟩
  constructor
  · rintro ⟨messages, hmessages, -⟩
    by_contra hlt
    have hle : limits.read + 1 ≤ Keyset.newer messageOrder s.messages.rows
        (·.conversationId = pending.conversation.id) trigger := Nat.lt_of_not_le hlt
    have hnot := Keyset.not_mem_fetch (messageOrder_nodup s) hmem hkeep hle
    rw [triggerIndex_eq_none] at hmessages
    · cases hmessages
    · intro m hm heq
      rw [List.mem_reverse] at hm
      rw [Table.eq_of_key_eq (hrow m hm).1 hmem (heq.trans hid.symm)] at hm
      exact hnot hm
  · intro hle
    obtain ⟨newest, older, hsplit, hnewest, holder⟩ :=
      Keyset.fetch_split (messageOrder_nodup s) hmem hkeep (Nat.lt_succ_of_le hle)
    have hreverse : (newest ++ trigger :: older).reverse =
        older.reverse ++ trigger :: newest.reverse := by
      simp
    rw [hsplit] at hrow ⊢
    rw [hreverse, ← hid, triggerIndex_append]
    · refine ⟨_, rfl, older.reverse, trigger, ?_, rfl, ?_⟩
      · rw [List.take_length_add_append]
        rfl
      · intro m hm
        have hm := List.mem_reverse.mp hm
        refine ⟨(hrow m ?_).2, holder m hm⟩
        exact List.mem_append_right _ (List.mem_cons_of_mem _ hm)
    · intro m hm heq
      have hm := List.mem_reverse.mp hm
      have hne := hnewest m hm
      rw [Table.eq_of_key_eq (hrow m (List.mem_append_left _ hm)).1 hmem heq] at hne
      exact lt_irrefl _ hne

end reads

/-- What a run reads is in place: its trigger is a message of its conversation. -/
structure Anchored (w : World) : Prop where
  linked : Linked w.store
  triggers : ∀ run ∈ runKeys w.store, ∃ m ∈ messageKeys w.store,
    m.id = run.triggerMessageId ∧ m.conversationId = run.conversationId
  sources : ∀ x ∈ w.waiting, messageKey x.source ∈ messageKeys w.store

/-- The trigger of a pending run is a message of its conversation, whose member the user is. -/
structure Placed (identity : DevelopmentIdentity) (pending : PendingAgentRun)
    (s : ConversationStore) : Prop where
  trigger : ∃ m ∈ messageKeys s, m.id = pending.triggerMessage.id ∧
    m.conversationId = pending.conversation.id
  member : (s.members.find? (pending.conversation.id, identity.userId)).isSome

section placed

variable {identity : DevelopmentIdentity} {pending : PendingAgentRun} {s t : ConversationStore}

theorem Placed.grow (h : Placed identity pending s) (hg : Grows s t) : Placed identity pending t := by
  obtain ⟨m, hm, hid, hc⟩ := h.trigger
  exact ⟨⟨m, hg.messages.subset hm, hid, hc⟩, hg.members _ h.member⟩

theorem lockedConversation_member {c u : UUID} {row : Conversation}
    (h : lockedConversation c u s = .ok row) : row.id = c ∧ (s.members.find? (c, u)).isSome := by
  obtain ⟨hfind, -, hmember⟩ := lockedConversation_eq_ok.mp h
  exact ⟨Table.key_of_find? hfind, hmember⟩

end placed

section begins

variable {identity : DevelopmentIdentity} {snapshot : RunSnapshot} {ids : NewIds} {now : Datetime}
  {pending : PendingAgentRun} {s t : ConversationStore} {c clientMessageId : UUID}

/-- A new run joins the others, and its trigger is in place. -/
structure Starts (identity : DevelopmentIdentity) (pending : PendingAgentRun)
    (s t : ConversationStore) : Prop where
  runs : runKeys t = runKeys s ++ [runKey pending.run]
  trigger : pending.run.triggerMessageId = pending.triggerMessage.id
  conversation : pending.run.conversationId = pending.conversation.id
  placed : Placed identity pending t

def Ends (identity : DevelopmentIdentity) (pending : PendingAgentRun) (s t : ConversationStore) :
    Prop :=
  (pending.created = false ∧ t = s) ∨ Starts identity pending s t

theorem Creates.starts {row refreshed : Conversation} {trigger response : Message}
    {messages : List Message} {run : AgentRun} (h : Creates row messages response run s t)
    (htrigger : trigger ∈ s.messages.rows ∨ trigger ∈ messages)
    (hconversation : trigger.conversationId = row.id) (hrun : run.triggerMessageId = trigger.id)
    (hrefreshed : refreshed.id = row.id)
    (hmember : (s.members.find? (row.id, identity.userId)).isSome) :
    Starts identity ⟨refreshed, trigger, response, run, true⟩ s t := by
  obtain ⟨updatedAt, hopened⟩ := h.opened
  have hmessages : t.messages.rows = s.messages.rows ++ messages := hopened.messageRows
  refine ⟨?_, hrun, h.conversation.trans hrefreshed.symm, ?_, ?_⟩
  · unfold runKeys
    rw [hopened.runRows, List.map_append]
    rfl
  · refine ⟨messageKey trigger, ?_, rfl, hconversation.trans hrefreshed.symm⟩
    unfold messageKeys
    rw [hmessages]
    exact List.mem_map_of_mem (List.mem_append.mpr htrigger)
  · rw [hopened.memberRows]
    dsimp only
    rw [hrefreshed]
    exact hmember

theorem beginAgentRun_ends {content : String} {attachments : List Attachment}
    {contentBlocks : List MultimodalContentBlock} {updatedAt : Datetime}
    (h : beginAgentRun identity snapshot ids now c clientMessageId content attachments contentBlocks
      updatedAt s = .ok (pending, t)) : Ends identity pending s t := by
  cases beginAgentRun_eq_ok h with
  | found => exact .inl ⟨rfl, rfl⟩
  | created row refreshed time content parts t hrow hnone hplain hcreates hrefreshed =>
    obtain ⟨hid, hmember⟩ := lockedConversation_member hrow
    refine .inr (hcreates.starts (.inr (List.mem_cons_self ..)) hid.symm rfl hrefreshed ?_)
    rw [hid]
    exact hmember

/-- The run of a reply has its trigger in the conversation of the reply. -/
theorem Anchored.regenerated {w : World} (h : Anchored w) {original trigger : Message}
    {originalRun : AgentRun} (horiginal : messageKey original ∈ messageKeys w.store)
    (hrun : runOfResponse? original.id w.store = some originalRun)
    (htrigger : w.store.messages.find? originalRun.triggerMessageId = some trigger) :
    trigger.conversationId = original.conversationId := by
  obtain ⟨m, hm, hkey⟩ := List.mem_map.mp horiginal
  have hmem : originalRun ∈ w.store.runs.rows := List.mem_of_find?_eq_some hrun
  have hresponse : originalRun.responseMessageId = original.id := by
    simpa using List.find?_some hrun
  obtain ⟨reply, hreply, hid, hconversation, -⟩ := h.linked.reply originalRun hmem
  have hsame : reply = m := by
    apply Table.eq_of_key_eq hreply hm
    rw [hid, hresponse]
    exact (congrArg MessageKey.id hkey).symm
  obtain ⟨key, hkeymem, hkeyid, hkeyconversation⟩ :=
    h.triggers (runKey originalRun) (List.mem_map_of_mem hmem)
  obtain ⟨m', hm', rfl⟩ := List.mem_map.mp hkeymem
  have htriggerid : trigger.id = originalRun.triggerMessageId := Table.key_of_find? htrigger
  have htrigger' : trigger = m' := by
    apply Table.eq_of_key_eq (Table.mem_of_find? htrigger) hm'
    exact htriggerid.trans hkeyid.symm
  calc trigger.conversationId = originalRun.conversationId := by rw [htrigger']; exact hkeyconversation
    _ = m.conversationId := by rw [← hconversation, hsame]
    _ = original.conversationId := congrArg MessageKey.conversationId hkey

theorem beginRegeneration_ends {w : World} (hw : Anchored w) {original : Message}
    {clientRequestId : UUID} (horiginal : messageKey original ∈ messageKeys w.store)
    (h : beginRegeneration identity snapshot ids now original clientRequestId w.store =
      .ok (pending, t)) : Ends identity pending w.store t := by
  cases beginRegeneration_eq_ok h with
  | found => exact .inl ⟨rfl, rfl⟩
  | created row refreshed trigger originalRun time t hrow hnone hrun htrigger hcreates hrefreshed =>
    obtain ⟨hid, hmember⟩ := lockedConversation_member hrow
    have hconversation := (hw.regenerated horiginal hrun htrigger).trans hid.symm
    refine .inr (hcreates.starts (.inl (Table.mem_of_find? htrigger)) hconversation rfl hrefreshed ?_)
    rw [hid]
    exact hmember

theorem beginEditedBranch_ends {source : Message} {content : String}
    (h : beginEditedBranch identity snapshot ids now source clientMessageId content s =
      .ok (pending, t)) : Ends identity pending s t := by
  obtain ⟨hbranch, -⟩ := beginEditedBranch_eq_ok (p := {}) h
  obtain ⟨time, parts, htrigger⟩ := hbranch.trigger
  obtain ⟨copies, hmessages, -⟩ := hbranch.messages
  refine .inr ⟨?_, ?_, ?_, ?_, ?_⟩
  · unfold runKeys
    rw [hbranch.runs, List.map_append]
    rfl
  · rw [hbranch.run, htrigger]
    rfl
  · rw [hbranch.run, hbranch.branch]
    rfl
  · refine ⟨messageKey pending.triggerMessage, ?_, rfl, ?_⟩
    · unfold messageKeys
      rw [hmessages]
      apply List.mem_map_of_mem
      simp
    · rw [htrigger, hbranch.branch]
      rfl
  · rw [hbranch.members, hbranch.branch, if_pos rfl]
    rfl

end begins

section steps

variable {w : World} {a : Action}

theorem Anchored.empty : Anchored .empty where
  linked := .empty
  triggers _ h := absurd h List.not_mem_nil
  sources _ h := absurd h List.not_mem_nil

theorem Anchored.of_eq (h : Anchored w) {w' : World} (hlinked : Linked w'.store)
    (hmessages : messageKeys w'.store = messageKeys w.store)
    (hruns : runKeys w'.store = runKeys w.store)
    (hwaiting : ∀ x ∈ w'.waiting, x ∈ w.waiting ∨ messageKey x.source ∈ messageKeys w.store) :
    Anchored w' := by
  refine ⟨hlinked, ?_, ?_⟩
  · rw [hmessages, hruns]
    exact h.triggers
  · intro x hx
    rw [hmessages]
    rcases hwaiting x hx with hx | hx
    · exact h.sources x hx
    · exact hx

/-- What a begin call leaves keeps what is said about the world. -/
theorem Anchored.ends (h : Anchored w) {identity : DevelopmentIdentity} {pending : PendingAgentRun}
    {w' : World} (hlinked : Linked w'.store) (hgrows : Grows w.store w'.store)
    (hwaiting : ∀ x ∈ w'.waiting, x ∈ w.waiting) (hends : Ends identity pending w.store w'.store) :
    Anchored w' := by
  rcases hends with ⟨-, hstore⟩ | hstarts
  · exact h.of_eq hlinked (congrArg messageKeys hstore) (congrArg runKeys hstore)
      fun x hx ↦ .inl (hwaiting x hx)
  · refine ⟨hlinked, ?_, ?_⟩
    · intro run hrun
      rw [hstarts.runs, List.mem_append, List.mem_singleton] at hrun
      rcases hrun with hrun | rfl
      · obtain ⟨m, hm, hid, hc⟩ := h.triggers run hrun
        exact ⟨m, hgrows.messages.subset hm, hid, hc⟩
      · obtain ⟨m, hm, hid, hc⟩ := hstarts.placed.trigger
        exact ⟨m, hm, hid.trans hstarts.trigger.symm, hc.trans hstarts.conversation.symm⟩
    · intro x hx
      exact hgrows.messages.subset (h.sources x (hwaiting x hx))

theorem step_linked (h : Linked w.store) (a : Action) : Linked (step w a).2.store :=
  step_keeps_all (fun _ _ h hc ↦ h.change hc) w a h

def Answers (w : World) (a : Action) : Prop :=
  ∀ call pending, (step w a).1 = some (call, .ok pending) → pending.created = true →
    Placed call.identity pending (step w a).2.store

theorem write_waiting (w : World) (r : Except ConversationError ConversationStore) :
    (w.write r).waiting = w.waiting := by
  cases r <;> rfl

theorem Anchored.plain (h : Anchored w) (ha : isBegin a = false) :
    Anchored (step w a).2 ∧ Answers w a := by
  obtain ⟨hmessages, hruns, -⟩ := keys_of_not_begin (w := w) ha
  obtain ⟨hsilent, hwaiting⟩ := silent_of_not_begin ha w
  refine ⟨h.of_eq (step_linked h.linked a) hmessages hruns ?_, ?_⟩
  · intro x hx
    rw [hwaiting] at hx
    exact .inl hx
  · intro call pending hstep
    rw [hsilent] at hstep
    cases hstep

/-- A begin call that ends in a step. -/
theorem Anchored.ended (h : Anchored w) (call : BeginCall) {w' : World}
    {r : Except ConversationError (PendingAgentRun × ConversationStore)}
    (hlinked : Linked w'.store) (hgrows : Grows w.store w'.store)
    (hwaiting : ∀ x ∈ w'.waiting, x ∈ w.waiting)
    (hstore : w'.store = (w.write (r.map Prod.snd)).store)
    (hends : ∀ pending t, r = .ok (pending, t) → Ends call.identity pending w.store t) :
    Anchored w' ∧ ∀ pending, r.map Prod.fst = .ok pending → pending.created = true →
      Placed call.identity pending w'.store := by
  cases r with
  | error e =>
    refine ⟨h.of_eq hlinked (congrArg messageKeys hstore) (congrArg runKeys hstore)
      fun x hx ↦ .inl (hwaiting x hx), ?_⟩
    intro pending hpending
    cases hpending
  | ok p =>
    have hends' : Ends call.identity p.1 w.store w'.store := by
      rw [hstore]
      exact hends p.1 p.2 rfl
    refine ⟨h.ends hlinked hgrows hwaiting hends', ?_⟩
    rintro pending ⟨⟩ hcreated
    rcases hends' with ⟨hfound, -⟩ | hstarts
    · rw [hfound] at hcreated
      cases hcreated
    · exact hstarts.placed

theorem Anchored.waits (h : Anchored w) {x : Waiting} (hx : messageKey x.source ∈ messageKeys w.store) :
    Anchored { w with waiting := w.waiting ++ [x] } := by
  refine h.of_eq h.linked rfl rfl ?_
  intro y hy
  rcases List.mem_append.mp hy with hy | hy
  · exact .inl hy
  · rw [List.mem_singleton.mp hy]
    exact .inr hx

theorem Anchored.enter (h : Anchored w) (call : BeginCall) (ids : NewIds)
    (now updatedAt : Datetime) (pickTrigger pickRun : ℕ) :
    Anchored (step w (.call call ids now updatedAt pickTrigger pickRun)).2 ∧
      Answers w (.call call ids now updatedAt pickTrigger pickRun) := by
  have hlinked := step_linked h.linked (.call call ids now updatedAt pickTrigger pickRun)
  have hgrows := Grows.step w (.call call ids now updatedAt pickTrigger pickRun)
  unfold Answers
  cases call with
  | agentRun identity c clientId content attachments contentBlocks snapshot =>
    have hended := h.ended (.agentRun identity c clientId content attachments contentBlocks
      snapshot) hlinked hgrows (fun x hx ↦ write_waiting w _ ▸ hx) rfl
      (fun pending t hr ↦ beginAgentRun_ends hr)
    refine ⟨hended.1, ?_⟩
    intro call pending hstep
    obtain ⟨rfl, hpending⟩ := Prod.mk.inj (Option.some.inj hstep)
    exact hended.2 pending hpending
  | regeneration identity responseId clientId snapshot =>
    simp only [step, Conversations.enter]
    cases hread : readOriginalResponse identity responseId w.store with
    | error e =>
      refine ⟨h, ?_⟩
      rintro call pending ⟨⟩
    | ok source =>
      obtain ⟨hfind, -⟩ := readOriginalResponse_eq_ok.mp hread
      refine ⟨h.waits (List.mem_map_of_mem (Table.mem_of_find? hfind)), ?_⟩
      rintro call pending ⟨⟩
  | editedBranch identity sourceId clientId content snapshot =>
    simp only [step, Conversations.enter]
    have hreads : ReadsEdit identity sourceId clientId pickTrigger pickRun w.store
      (readEditSource identity sourceId clientId pickTrigger pickRun w.store) := readEditSource_reads
    generalize readEditSource identity sourceId clientId pickTrigger pickRun w.store = r at hreads
    cases hreads with
    | refused e | broken e =>
      refine ⟨h, ?_⟩
      rintro call pending ⟨⟩
    | found trigger response run branch =>
      refine ⟨h, ?_⟩
      rintro call pending ⟨⟩ hcreated
      cases hcreated
    | fresh source hsource =>
      refine ⟨h.waits (List.mem_map_of_mem (Table.mem_of_find? hsource.found)), ?_⟩
      rintro call pending ⟨⟩

theorem locked_ends (h : Anchored w) {q : Waiting} (hq : q ∈ w.waiting) {ids : NewIds}
    {now : Datetime} {pending : PendingAgentRun} {t : ConversationStore}
    (hlocked : locked q ids now w.store = .ok (pending, t)) :
    Ends q.call.identity pending w.store t := by
  unfold locked at hlocked
  cases hcall : q.call with
  | agentRun => rw [hcall] at hlocked; cases hlocked
  | regeneration identity responseId clientId snapshot =>
    rw [hcall] at hlocked
    exact beginRegeneration_ends h (h.sources q hq) hlocked
  | editedBranch identity sourceId clientId content snapshot =>
    rw [hcall] at hlocked
    exact beginEditedBranch_ends hlocked

/-- Each step keeps the triggers in place, and a run that it creates has its own in place. -/
theorem Anchored.step (h : Anchored w) (a : Action) :
    Anchored (Conversations.step w a).2 ∧ Answers w a := by
  cases a with
  | call call ids now updatedAt pickTrigger pickRun => exact h.enter call ids now updatedAt _ _
  | lock i ids now =>
    have hlinked := step_linked h.linked (.lock i ids now)
    have hgrows := Grows.step w (.lock i ids now)
    unfold Answers
    simp only [Conversations.step] at hlinked hgrows ⊢
    cases hq : w.waiting[i]? with
    | none =>
      refine ⟨h, ?_⟩
      rintro call pending ⟨⟩
    | some q =>
      rw [hq] at hlinked hgrows
      have hended := h.ended q.call hlinked hgrows
        (fun x hx ↦ List.mem_of_mem_eraseIdx hx) rfl
        (fun pending t hr ↦ locked_ends h (List.mem_of_getElem? hq) hr)
      refine ⟨hended.1, ?_⟩
      intro call pending hstep
      obtain ⟨rfl, hpending⟩ := Prod.mk.inj (Option.some.inj hstep)
      exact hended.2 pending hpending
  | _ => exact h.plain rfl

theorem run_grows (w : World) (as : List Action) : Grows w.store (run w as).store := by
  induction as generalizing w with
  | nil => exact .refl _
  | cons a as ih => exact (Grows.step w a).trans (ih (step w a).2)

theorem run_anchored (as : List Action) : Anchored (run .empty as) :=
  Machine.run_invariant_all (I := Anchored) (fun _ a h ↦ (h.step a).1) .empty as

end steps

/-- Whenever it is executed, a run finds its trigger and ends its context with it, if and only if by
then no more messages are newer than the trigger than the run reads. -/
theorem run_finds_trigger_iff (earlier later : List Action) (a : Action) (call : BeginCall)
    (pending : PendingAgentRun) (limits : ContextLimits)
    (hbegins : (step (run .empty earlier) a).1 = some (call, .ok pending))
    (hcreated : pending.created = true) :
    let s := (run (step (run .empty earlier) a).2 later).store
    (∃ messages, contextMessages call.identity pending limits s = .ok messages ∧
      EndsWith pending.triggerMessage.id messages) ↔
      newerMessages pending.triggerMessage.id s ≤ limits.read := by
  intro s
  have hplaced : Placed call.identity pending s :=
    ((run_anchored earlier).step a).2 call pending hbegins hcreated |>.grow (run_grows _ later)
  obtain ⟨key, hkey, hid, hconversation⟩ := hplaced.trigger
  obtain ⟨trigger, htrigger, rfl⟩ := List.mem_map.mp hkey
  apply contextMessages_iff hplaced.member
  · rw [← hid]
    exact Table.find?_key htrigger
  · exact hconversation

section examples

def someone : DevelopmentIdentity := ⟨1, 2, 3⟩

def turnIds (n : ℕ) : NewIds where
  trigger := 1000 + 3 * n
  response := 1001 + 3 * n
  run := 1002 + 3 * n
  branch := 0
  copied _ := 0
  part messageId position := messageId * 10 + position

/-- The `n`th message of the user. -/
def turn (n : ℕ) : Action :=
  .call (.agentRun someone 10 (100 + n) "hi" [] [] ⟨1, 1, 1, 1, 1, "m"⟩) (turnIds n) (n * 10)
    (n * 10) 0 0

/-- A conversation of `n` turns, whose first reply the user then wants again. -/
def longTalk (n : ℕ) : List Action :=
  .createConversation someone "talk" 10 0 :: ((List.range n).map turn ++
    [.call (.regeneration someone 1001 99 ⟨1, 1, 1, 1, 1, "m"⟩) (turnIds n) 0 0 0 0])

def answered : Output → Option (BeginCall × PendingAgentRun)
  | some (call, .ok pending) => some (call, pending)
  | _ => none

theorem answered_eq_some {o : Output} {call : BeginCall} {pending : PendingAgentRun}
    (h : answered o = some (call, pending)) : o = some (call, .ok pending) := by
  match o, h with
  | some (_, .ok _), rfl => rfl

theorem run_finds_trigger_of_two :
    ∃ (call : BeginCall) (pending : PendingAgentRun) (messages : List Message),
      contextMessages call.identity pending ⟨40, 4⟩
        (run (step (run .empty (longTalk 2)) (.lock 0 (turnIds 2) 0)).2 [turn 3]).store =
          .ok messages ∧ EndsWith pending.triggerMessage.id messages := by
  have hall : ((answered (step (run .empty (longTalk 2)) (.lock 0 (turnIds 2) 0)).1).any fun p ↦
      p.2.created && newerMessages p.2.triggerMessage.id
        (run (step (run .empty (longTalk 2)) (.lock 0 (turnIds 2) 0)).2 [turn 3]).store ≤ 40) =
      true := by
    decide +kernel
  obtain ⟨⟨call, pending⟩, hbegins, hpending⟩ := (Option.any_eq_true _ _).mp hall
  obtain ⟨hcreated, hnewer⟩ := Bool.and_eq_true_iff.mp hpending
  obtain ⟨messages, hmessages⟩ := (run_finds_trigger_iff (longTalk 2) [turn 3]
    (.lock 0 (turnIds 2) 0) call pending ⟨40, 4⟩ (answered_eq_some hbegins) hcreated).mpr
    (of_decide_eq_true hnewer)
  exact ⟨call, pending, messages, hmessages⟩

/-- The trigger of an early reply is not read any more after a long talk. -/
theorem old_trigger_is_lost :
    ¬∀ (earlier later : List Action) (a : Action) (call : BeginCall) (pending : PendingAgentRun)
      (limits : ContextLimits), limits.Valid →
      (step (run .empty earlier) a).1 = some (call, .ok pending) → pending.created = true →
        ∃ messages, contextMessages call.identity pending limits
            (run (step (run .empty earlier) a).2 later).store = .ok messages ∧
          EndsWith pending.triggerMessage.id messages := by
  intro h
  have hall : ((answered (step (run .empty (longTalk 21)) (.lock 0 (turnIds 21) 0)).1).any fun p ↦
      p.2.created && (contextMessages p.1.identity p.2 ⟨40, 4⟩
        (step (run .empty (longTalk 21)) (.lock 0 (turnIds 21) 0)).2.store).toOption.isNone) =
      true := by
    decide +kernel
  obtain ⟨⟨call, pending⟩, hbegins, hpending⟩ := (Option.any_eq_true _ _).mp hall
  obtain ⟨hcreated, hlost⟩ := Bool.and_eq_true_iff.mp hpending
  obtain ⟨messages, hmessages, -⟩ := h (longTalk 21) [] (.lock 0 (turnIds 21) 0) call pending
    ⟨40, 4⟩ ⟨by decide, by decide⟩ (answered_eq_some hbegins) hcreated
  dsimp only [run, Machine.run] at hmessages hlost
  rw [hmessages] at hlost
  cases hlost

end examples

end CyberNetizen.Conversations
