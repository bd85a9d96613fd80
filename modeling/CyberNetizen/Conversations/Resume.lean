import CyberNetizen.Conversations.Replay

namespace CyberNetizen.Conversations

open Domain Infrastructure Infrastructure.ConversationRepository KeyedTable EventLog

section growth

variable {p : Allowed} {s t : ConversationStore}
  {c u : UUID}

theorem events_emit (c : UUID) (e : Emission) (s : ConversationStore) :
    s.events <+: (emit c s e).events := by
  unfold emit
  split
  · exact List.prefix_rfl
  · exact List.prefix_append _ _

theorem events_emitAll (c : UUID) (es : List Emission) (s : ConversationStore) :
    s.events <+: (emitAll c es s).events := by
  induction es generalizing s with
  | nil => exact List.prefix_rfl
  | cons e es ih => exact (events_emit c e s).trans (ih _)

/-- Events are only appended. -/
theorem events_change (hc : Change p s t) : s.events <+: t.events := by
  cases hc with
  | row => exact List.prefix_rfl
  | feedback => exact List.prefix_rfl
  | note c e => exact events_emit c e s
  | founded row userId t hseq hi =>
    obtain ⟨conversations, members, -, -, rfl⟩ := insertConversation_eq_ok hi
    exact List.prefix_rfl
  | copied item copy t hopens hitem hcopy hc hi =>
    obtain ⟨-, messages, -, rfl⟩ := insertMessage_eq_ok hi
    exact events_emit _ _ { s with messages }
  | opened messages response run t hopens hc hopening ho =>
    obtain ⟨v, -, hev, rfl⟩ := ho.logged
    rw [← hev]
    exact events_emitAll _ _ v
  | wrote w now run response =>
    have h : ∀ (es : List Emission) (v : ConversationStore), v.events = s.events →
        s.events <+: (emitAll run.conversationId es v).events := fun es v hv ↦
      hv ▸ events_emitAll _ es v
    exact h _ _ rfl

theorem log_prefix (c : UUID) (h : s.events <+: t.events) : log c s <+: log c t := h.filter _

/-- Nobody leaves a conversation. -/
theorem member_change (hc : Change p s t) {key : UUID × UUID}
    (h : (s.members.find? key).isSome) : (t.members.find? key).isSome := by
  cases hc with
  | row => exact h
  | feedback => exact h
  | note => rw [emit_members]; exact h
  | founded row userId t hseq hi =>
    obtain ⟨conversations, members, -, hm, rfl⟩ := insertConversation_eq_ok hi
    dsimp only
    rw [Table.find?_insert? hm]
    split
    · rfl
    · exact h
  | copied item copy t hopens hitem hcopy hc hi =>
    obtain ⟨-, messages, -, rfl⟩ := insertMessage_eq_ok hi
    rw [emit_members]
    exact h
  | opened messages response run t hopens hc hopening ho => rw [ho.memberRows]; exact h
  | wrote => unfold writeRun; rw [emitAll_members]; exact h

theorem listEvents_eq {after limit : ℕ} (hm : (s.members.find? (c, u)).isSome)
    (hn : Numbered ConversationEvent.sequence (log c s)) :
    listEvents c u after limit s =
      .ok (page ConversationEvent.sequence (log c s) after limit) := by
  unfold listEvents
  rw [if_neg (by rw [Option.isNone_iff_eq_none, ← Option.not_isSome_iff_eq_none]; exact not_not.mpr hm)]
  have hfilter : (s.events.filter fun event ↦ event.conversationId = c && after < event.sequence) =
      (log c s).filter (after < ·.sequence) := by
    unfold log
    rw [List.filter_filter]
    exact List.filter_congr fun e _ ↦ Bool.and_comm _ _
  have hsorted : ((log c s).filter (after < ·.sequence)).Pairwise
      fun a b ↦ a.sequence ≤ b.sequence :=
    (hn.pairwise_lt.imp Nat.le_of_lt).sublist List.filter_sublist
  rw [hfilter, hsorted.insertionSort_eq]
  rfl

end growth

inductive ReadAction
  | write (a : Action)
  | poll (limit : ℕ)

def readStep (c u : UUID) (p : World × Reader ConversationEvent) :
    ReadAction → Unit × World × Reader ConversationEvent
  | .write a => ((), (step p.1 a).2, p.2)
  | .poll limit =>
    ((), p.1, match listEvents c u p.2.lastSeen limit p.1.store with
      | .ok events => p.2.poll ConversationEvent.sequence events
      | .error _ => p.2)

/-- What every step keeps without a condition. -/
structure Sound (s : ConversationStore) : Prop where
  linked : Linked s
  counted : Counted s
  replayed : Replayed s
  plain : RepliesPlain s

theorem Sound.empty : Sound .empty where
  linked := .empty
  counted := .empty
  replayed _ h := absurd h (Table.not_mem_empty _)
  plain _ h := absurd h (Table.not_mem_empty _)

theorem Sound.change {p : Allowed}
    {s t : ConversationStore} (h : Sound s) (hc : Change p s t) : Sound t where
  linked := h.linked.change hc
  counted := h.counted.change hc
  replayed := h.replayed.change h.linked hc
  plain := h.plain.change hc

theorem Sound.run (as : List Action) {w : World} (h : Sound w.store) : Sound (run w as).store :=
  Machine.run_invariant_all (I := fun w : World ↦ Sound w.store)
    (step_keeps_all fun _ _ hs hc ↦ hs.change hc) h as

section reader

variable {c u : UUID} {cut : ℕ} {p : World × Reader ConversationEvent}

/-- A member of the conversation reads its log. -/
structure Reading (c u : UUID) (cut : ℕ) (p : World × Reader ConversationEvent) : Prop where
  sound : Sound p.1.store
  member : (p.1.store.members.find? (c, u)).isSome
  numbered : Numbered ConversationEvent.sequence (log c p.1.store)
  synced : Synced cut (log c p.1.store) p.2

theorem Counted.numbered_log {s : ConversationStore} (h : Counted s) (c : UUID) :
    Numbered ConversationEvent.sequence (log c s) := by
  cases hc : s.conversations.find? c with
  | some row =>
    obtain ⟨hmem, rfl⟩ := Table.find?_eq_some.mp hc
    exact (h.numbered row hmem).1
  | none =>
    have hempty : log c s = [] := by
      refine List.filter_eq_nil_iff.mpr fun e he hk ↦ ?_
      have hknown := h.known e he
      rw [of_decide_eq_true hk, hc] at hknown
      cases hknown
    rw [hempty]
    exact .nil

theorem Reading.poll (h : Reading c u cut p) (limit : ℕ) :
    (readStep c u p (.poll limit)).2 = (p.1, p.2.poll ConversationEvent.sequence
      (page ConversationEvent.sequence (log c p.1.store) p.2.lastSeen limit)) := by
  simp only [readStep, listEvents_eq h.member h.numbered]

theorem Reading.step (h : Reading c u cut p) (a : ReadAction) :
    Reading c u cut (readStep c u p a).2 := by
  cases a with
  | write a =>
    have hgrow : p.1.store.events <+: (Conversations.step p.1 a).2.store.events :=
      step_keeps_all (I := fun t ↦ p.1.store.events <+: t.events)
        (fun _ _ ht hc ↦ ht.trans (events_change hc)) p.1 a List.prefix_rfl
    obtain ⟨es, hes⟩ := log_prefix c hgrow
    have hsound : Sound (Conversations.step p.1 a).2.store :=
      step_keeps_all (fun _ _ ht hc ↦ ht.change hc) p.1 a h.sound
    refine ⟨hsound, ?_, hsound.counted.numbered_log c, ?_⟩
    · exact step_keeps_all (I := fun t ↦ (t.members.find? (c, u)).isSome)
        (fun _ _ ht hc ↦ member_change hc ht) p.1 a h.member
    · have hsynced := h.synced.grow es
      rw [hes] at hsynced
      exact hsynced
  | poll limit =>
    rw [h.poll]
    exact ⟨h.sound, h.member, h.numbered, (h.synced.poll h.numbered limit).1⟩

theorem Reading.run (h : Reading c u cut p) (as : List ReadAction) :
    Reading c u cut (Machine.run (readStep c u) p as) :=
  Machine.run_invariant_all (I := Reading c u cut) (fun _ a hp ↦ hp.step a) h as

theorem Reading.received (h : Reading c u cut p) :
    p.2.received ++ (log c p.1.store).filter (p.2.lastSeen < ·.sequence) =
      (log c p.1.store).filter (cut < ·.sequence) := by
  have hcut := h.synced.cut_le
  have hseen := h.synced.seen_le
  rw [h.numbered.filter_eq_drop, h.numbered.filter_eq_drop, h.synced.received]
  conv_rhs => rw [← List.take_append_drop p.2.lastSeen (log c p.1.store)]
  rw [List.drop_append_of_le_length (by rw [List.length_take]; omega)]

theorem Reading.polls (h : Reading c u cut p) {limits : List ℕ} (hpos : ∀ limit ∈ limits, 0 < limit)
    (hmany : (log c p.1.store).length - p.2.lastSeen ≤ limits.length) :
    (Machine.run (readStep c u) p (limits.map .poll)).2.received =
      (log c p.1.store).filter (cut < ·.sequence) := by
  have hrun : ∀ (limits : List ℕ) (p : World × Reader ConversationEvent), Reading c u cut p →
      Machine.run (readStep c u) p (limits.map .poll) = (p.1, limits.foldl (fun r limit ↦
        r.poll ConversationEvent.sequence (page ConversationEvent.sequence (log c p.1.store)
          r.lastSeen limit)) p.2) := by
    intro limits
    induction limits with
    | nil => exact fun p _ ↦ rfl
    | cons limit limits ih =>
      intro p hp
      have hnext := hp.step (.poll limit)
      rw [List.map_cons, Machine.run, ih _ hnext, hp.poll]
      rfl
  rw [hrun limits p h, h.numbered.filter_eq_drop]
  exact h.synced.polls h.numbered hpos hmany

end reader

def WritesPlain : BeginCall → Prop
  | .agentRun _ _ _ _ _ contentBlocks _ => contentBlocks = []
  | _ => False

def TriggerPlain (o : Output) (w : World) : Prop :=
  ∀ call pending, o = some (call, .ok pending) → pending.created = true → WritesPlain call →
    PlainAt pending.triggerMessage.id w.store

theorem triggerPlain_new (w : World) (a : Action) : TriggerPlain (step w a).1 (step w a).2 := by
  intro call pending ho hcreated hplain
  cases call with
  | regeneration => exact absurd hplain not_false
  | editedBranch => exact absurd hplain not_false
  | agentRun identity c clientId content attachments contentBlocks snapshot =>
    cases a with
    | call b ids now updatedAt pickTrigger pickRun =>
      cases b with
      | regeneration identity' responseId requestId snapshot' =>
        simp only [step, enter] at ho
        split at ho <;> cases ho
      | editedBranch identity' sourceId clientId' content' snapshot' =>
        simp only [step, enter] at ho
        split at ho <;> cases ho
      | agentRun identity' c' clientId' content' attachments' contentBlocks' snapshot' =>
        simp only [step, enter] at ho ⊢
        obtain ⟨hcall, hr⟩ := Prod.mk.inj (Option.some.inj ho)
        cases hcall
        cases hok : beginAgentRun identity snapshot ids now c clientId content attachments
          contentBlocks updatedAt w.store with
        | error e => rw [hok] at hr; cases hr
        | ok p =>
          obtain ⟨pending', t⟩ := p
          rw [hok] at hr
          obtain rfl : pending' = pending := Except.ok.inj hr
          have hbegan := beginAgentRun_eq_ok hok
          cases hbegan with
          | found => cases hcreated
          | created row refreshed time text parts _ hrow hnone hparts hcreates =>
            obtain ⟨_, ho⟩ := hcreates.opened
            exact ⟨_, ho.mem_messages.mpr (.inr List.mem_cons_self), rfl, hparts hplain⟩
    | lock i ids now =>
      simp only [step] at ho
      split at ho
      · cases ho
      · rename_i p hp
        obtain ⟨hcall, hr⟩ := Prod.mk.inj (Option.some.inj ho)
        unfold locked at hr
        rw [hcall] at hr
        cases hr
    | _ => cases ho

/-- The log of every conversation is numbered without a gap, rebuilds every message, and can be
read on from any point; the replies and the messages sent without content blocks have their
content as their first part. -/
theorem log_is_replay (as : List Action) :
    let s := (run World.empty as).store
    (∀ row ∈ s.conversations,
      (log row.id s).map ConversationEvent.sequence = List.range' 1 row.eventSequence) ∧
    (∀ m ∈ s.messages, replay (log m.conversationId s) m.id = some m.content) ∧
    (∀ r ∈ s.runs, PlainAt r.responseMessageId s) ∧
    (∀ call pending, some (call, .ok pending) ∈ Machine.outputs step World.empty as →
      pending.created = true → WritesPlain call → PlainAt pending.triggerMessage.id s) ∧
    ∀ row ∈ s.conversations, ∀ u, (s.members.find? (row.id, u)).isSome →
      ∀ cut ≤ row.eventSequence, ∀ (reads : List ReadAction) (limits : List ℕ),
        let p := Machine.run (readStep row.id u) (run World.empty as, ⟨cut, []⟩) reads
        p.2.received ++ (log row.id p.1.store).filter (p.2.lastSeen < ·.sequence) =
            (log row.id p.1.store).filter (cut < ·.sequence) ∧
          ((∀ limit ∈ limits, 0 < limit) →
            (log row.id p.1.store).length - p.2.lastSeen ≤ limits.length →
            (Machine.run (readStep row.id u) p (limits.map .poll)).2.received =
              (log row.id p.1.store).filter (cut < ·.sequence)) := by
  have hsound : Sound (run World.empty as).store := Sound.empty.run as
  refine ⟨fun row hrow ↦ ?_, fun m hm ↦ (hsound.replayed m hm).2, hsound.plain, ?_, ?_⟩
  · obtain ⟨hn, hlen⟩ := hsound.counted.numbered row hrow
    rw [← hlen]
    exact hn
  · intro call pending ho
    exact Machine.outputs_keep (I := fun _ ↦ True) (Q := TriggerPlain) (fun _ _ _ ↦ trivial)
      (fun w a _ ↦ triggerPlain_new w a)
      (fun o w a _ ho call pending he hcreated hplain ↦ step_keeps_all
        (I := PlainAt pending.triggerMessage.id) (fun _ _ hs hc ↦ hs.change hc) w a
        (ho call pending he hcreated hplain)) trivial _ ho call pending rfl
  · intro row hrow u hu cut hcut reads limits
    obtain ⟨hn, hlen⟩ := hsound.counted.numbered row hrow
    have hstart : Reading row.id u cut (run World.empty as, ⟨cut, []⟩) :=
      ⟨hsound, hu, hn, .start (by rw [hlen]; exact hcut)⟩
    have hreading := hstart.run reads
    exact ⟨hreading.received, hreading.polls⟩

section examples

def twoBlocks : List Action :=
  [.createConversation alice "chat" 10 0,
    .call (.agentRun alice 10 51 "a\n\nb" [] [⟨.text, some "a", none, none, none, none, none, none⟩,
      ⟨.text, some "b", none, none, none, none, none, none⟩] firstVersions) (sessionIds 1) 100 100 0 0]

/-- The content of a message of two blocks is not the text of its first part. -/
theorem two_blocks_content_not_first_part :
    (run World.empty twoBlocks).store.messages.rows.map
        (fun m ↦ (m.content, m.parts.head?.bind (·.text))) =
      [("a\n\nb", some "a"), ("", some "")] := by
  decide +kernel

end examples

end CyberNetizen.Conversations
