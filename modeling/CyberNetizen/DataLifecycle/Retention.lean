import CyberNetizen.DataLifecycle.RetentionRun
import CyberNetizen.Lib.Sweep

namespace CyberNetizen.DataLifecycle

open Domain Infrastructure Infrastructure.SqlAlchemyDataLifecycleRepository Application
open Application.DataLifecycleService KeyedTable Machine

variable {identity : DevelopmentIdentity} {policy : DataLifecyclePolicy} {fails : String → Bool}
  {s : DataLifecycleStore} {kind : RetentionKind} {ownerId : UUID} {cutoff cutoff' : ℤ}

section candidates

theorem isDue_mono {t : Option Datetime} (h : cutoff ≤ cutoff') (hdue : isDue cutoff t = true) :
    isDue cutoff' t = true := by
  cases t with
  | none => cases hdue
  | some t =>
    unfold isDue at *
    rw [decide_eq_true_eq] at *
    exact hdue.trans h

theorem isPurgeable_mono {row : Conversation} (h : cutoff ≤ cutoff')
    (hrow : isPurgeable identity.tenantId cutoff row = true) :
    isPurgeable identity.tenantId cutoff' row = true := by
  unfold isPurgeable at *
  rw [Bool.and_eq_true] at *
  exact hrow.imp_right (isDue_mono h)

theorem isPurgeable_deletedAt {row : Conversation} {tenantId : UUID}
    (h : isPurgeable tenantId cutoff row = true) :
    ∃ t, row.deletedAt = some t ∧ (t : ℤ) ≤ cutoff := by
  unfold isPurgeable at h
  rw [Bool.and_eq_true] at h
  cases ht : row.deletedAt with
  | none =>
    rw [ht] at h
    cases h.2
  | some t =>
    rw [ht] at h
    exact ⟨t, rfl, of_decide_eq_true h.2⟩

theorem isCandidate_conversation : isCandidate identity s .conversation ownerId cutoff = true ↔
    ∃ row ∈ s.conversations, row.id = ownerId ∧ isPurgeable identity.tenantId cutoff row = true :=
  Table.any_find?

theorem isCandidate_agent : isCandidate identity s .agent ownerId cutoff = true ↔
    ∃ row ∈ s.agents, row.id = ownerId ∧ isPurgeableAgent identity.tenantId cutoff row = true :=
  Table.any_find?

theorem isThere_conversation : isThere s .conversation ownerId = true ↔
    ∃ row ∈ s.conversations, row.id = ownerId := Table.isSome_find?

theorem isThere_agent : isThere s .agent ownerId = true ↔
    ∃ row ∈ s.agents, row.id = ownerId := Table.isSome_find?

end candidates

section purge

/-- A row that is left after conversations were deleted differs from the one before in its origin
only. -/
theorem mem_deleteConversations {gone : Conversation → Bool} {row : Conversation}
    (h : row ∈ (deleteConversations s gone).conversations) :
    ∃ before ∈ s.conversations, gone before = false ∧ row.id = before.id ∧
      row.tenantId = before.tenantId ∧ row.deletedAt = before.deletedAt := by
  obtain ⟨before, hbefore, rfl⟩ := Table.mem_updateWhere.mp h
  obtain ⟨hmem, hkept⟩ := Table.mem_deleteWhere.mp hbefore
  refine ⟨before, hmem, hkept, ?_⟩
  split
  · exact ⟨rfl, rfl, rfl⟩
  · exact ⟨rfl, rfl, rfl⟩

theorem deleteConversations_mem {gone : Conversation → Bool} {before : Conversation}
    (hmem : before ∈ s.conversations) (hkept : gone before = false) :
    ∃ row ∈ (deleteConversations s gone).conversations, row.id = before.id ∧
      row.tenantId = before.tenantId ∧ row.deletedAt = before.deletedAt := by
  refine ⟨_, Table.mem_updateWhere.mpr ⟨before, Table.mem_deleteWhere.mpr ⟨hmem, hkept⟩, rfl⟩, ?_⟩
  split
  · exact ⟨rfl, rfl, rfl⟩
  · exact ⟨rfl, rfl, rfl⟩

theorem isPurgeable_congr {row before : Conversation} (htenant : row.tenantId = before.tenantId)
    (hdeleted : row.deletedAt = before.deletedAt) :
    isPurgeable identity.tenantId cutoff row = isPurgeable identity.tenantId cutoff before := by
  unfold isPurgeable
  rw [htenant, hdeleted]

theorem isCandidate_deleteConversations {gone : Conversation → Bool}
    (h : isCandidate identity s kind ownerId cutoff = true)
    (hthere : isThere (deleteConversations s gone) kind ownerId = true) :
    isCandidate identity (deleteConversations s gone) kind ownerId cutoff = true := by
  cases kind with
  | agent => exact h
  | conversation =>
    obtain ⟨row, hrow, hid, hdue⟩ := isCandidate_conversation.mp h
    obtain ⟨after, hafter, hafterId⟩ := isThere_conversation.mp hthere
    obtain ⟨before, hbefore, -, hsame, htenant, hdeleted⟩ := mem_deleteConversations hafter
    have heq : before = row := Table.eq_of_key_eq hbefore hrow
      ((hsame.symm.trans hafterId).trans hid.symm)
    refine isCandidate_conversation.mpr ⟨after, hafter, hafterId, ?_⟩
    rw [isPurgeable_congr htenant hdeleted, heq]
    exact hdue

/-- What is still there after a purge is as much a candidate as before. -/
theorem isCandidate_purge {startedAt : Datetime} {purged : RetentionKind} {purgedId : UUID}
    (h : isCandidate identity s kind ownerId cutoff = true)
    (hthere : isThere (purgeKind policy identity startedAt purgedId s purged).2 kind ownerId = true) :
    isCandidate identity (purgeKind policy identity startedAt purgedId s purged).2 kind ownerId
      cutoff = true := by
  cases purged with
  | conversation =>
    unfold purgeKind purgeConversation at *
    dsimp only at *
    split
    · exact h
    · rename_i hfound
      rw [hfound] at hthere
      exact isCandidate_deleteConversations h hthere
  | agent =>
    unfold purgeKind purgeAgent at *
    dsimp only at *
    split
    · exact h
    · rename_i agent hfound
      rw [hfound] at hthere
      cases kind with
      | conversation => exact isCandidate_deleteConversations h hthere
      | agent =>
        obtain ⟨row, hrow, hid, hdue⟩ := isCandidate_agent.mp h
        obtain ⟨after, hafter, hafterId⟩ := isThere_agent.mp hthere
        have hmem := (Table.mem_deleteWhere.mp hafter).1
        refine isCandidate_agent.mpr ⟨after, hafter, hafterId, ?_⟩
        have heq : after = row := Table.eq_of_key_eq hmem hrow (hafterId.trans hid.symm)
        rw [heq]
        exact hdue

/-- A purge of one leaves the others of its kind. -/
theorem isThere_purge {startedAt : Datetime} {purgedId : UUID} (hne : ownerId ≠ purgedId)
    (h : isThere s kind ownerId = true) :
    isThere (purgeKind policy identity startedAt purgedId s kind).2 kind ownerId = true := by
  cases kind with
  | conversation =>
    unfold purgeKind purgeConversation
    dsimp only
    split
    · exact h
    · rename_i row hfound
      obtain ⟨hrow, -⟩ := Option.filter_eq_some_iff.mp hfound
      obtain ⟨other, hother, hid⟩ := isThere_conversation.mp h
      have hkept : other.id ≠ row.id := by
        rw [hid, Table.key_of_find? hrow]
        exact hne
      obtain ⟨after, hafter, hafterId, -⟩ :=
        @deleteConversations_mem s (fun item ↦ item.id = row.id) other hother
          (decide_eq_false hkept)
      exact isThere_conversation.mpr ⟨after, hafter, hafterId.trans hid⟩
  | agent =>
    unfold purgeKind purgeAgent
    dsimp only
    split
    · exact h
    · rename_i agent hfound
      obtain ⟨hagent, -⟩ := Option.filter_eq_some_iff.mp hfound
      obtain ⟨other, hother, hid⟩ := isThere_agent.mp h
      have hkept : other.id ≠ agent.id := by
        rw [hid, Table.key_of_find? hagent]
        exact hne
      exact isThere_agent.mpr ⟨other, Table.mem_deleteWhere.mpr
        ⟨hother, decide_eq_false hkept⟩, hid⟩

theorem isThere_of_isCandidate (h : isCandidate identity s kind ownerId cutoff = true) :
    isThere s kind ownerId = true := by
  cases kind with
  | conversation =>
    obtain ⟨row, hrow, hid, -⟩ := isCandidate_conversation.mp h
    exact isThere_conversation.mpr ⟨row, hrow, hid⟩
  | agent =>
    obtain ⟨row, hrow, hid, -⟩ := isCandidate_agent.mp h
    exact isThere_agent.mpr ⟨row, hrow, hid⟩

end purge

section operations

def Spared (identity : DevelopmentIdentity) (policy : DataLifecyclePolicy) (now : Datetime)
    (s : DataLifecycleStore) : UserOperation → Prop
  | .forgetUserData tenantId userId => ∀ row ∈ s.conversations,
      belongsTo s tenantId userId row = true →
        isPurgeable identity.tenantId (conversationCutoff policy now) row = false
  | _ => True

/-- A user operation that spares what is due keeps every candidate. -/
theorem isCandidate_operate {now : Datetime} {op : UserOperation}
    (hspared : Spared identity policy now s op)
    (hcutoff : cutoff ≤ DataLifecycleService.cutoff policy now kind)
    (h : isCandidate identity s kind ownerId cutoff = true) :
    isCandidate identity (operate policy now s op) kind ownerId cutoff = true := by
  cases kind with
  | conversation =>
    obtain ⟨row, hrow, hid, hdue⟩ := isCandidate_conversation.mp h
    have hkept : ∀ {p : Conversation → Bool} {f : Update Conversation.id}, p row = false →
        row ∈ s.conversations.updateWhere p f := fun hp ↦
      Table.mem_updateWhere.mpr ⟨row, hrow, by rw [hp]; rfl⟩
    refine isCandidate_conversation.mpr ⟨row, ?_, hid, hdue⟩
    cases op with
    | createConversation new =>
      unfold operate
      dsimp only
      split
      · rename_i hconversations _
        exact (Table.mem_insert? hconversations).mpr (.inl hrow)
      · exact hrow
    | softDeleteConversation conversationId userId =>
      unfold operate
      dsimp only
      split
      · obtain ⟨t, ht, -⟩ := isPurgeable_deletedAt hdue
        exact hkept (by simp [ht])
      · exact hrow
    | reserve new =>
      unfold operate
      dsimp only
      split
      · split <;> exact hrow
      · exact hrow
    | createAgent agentId tenantId =>
      unfold operate
      dsimp only
      split <;> exact hrow
    | forgetUserData tenantId userId =>
      refine hkept (Bool.eq_false_iff.mpr fun hbelongs ↦ ?_)
      have hfree := hspared row hrow hbelongs
      have hnow : isPurgeable identity.tenantId (conversationCutoff policy now) row = true :=
        isPurgeable_mono hcutoff hdue
      rw [hnow] at hfree
      cases hfree
    | changeAttachment _ _ => exact hrow
    | putObject _ => exact hrow
    | removeObject _ => exact hrow
    | updateAgentStatus _ _ => exact hrow
    | archiveAgent _ => exact hrow
    | softDeleteAgent _ => exact hrow
  | agent =>
    obtain ⟨row, hrow, hid, hdue⟩ := isCandidate_agent.mp h
    have hdeleted : row.status = .deleted := by
      unfold isPurgeableAgent at hdue
      rw [Bool.and_eq_true, Bool.and_eq_true] at hdue
      exact of_decide_eq_true hdue.2.1
    have hkept : ∀ {p : Agent → Bool} {f : Update Agent.id}, p row = false →
        row ∈ s.agents.updateWhere p f := fun hp ↦
      Table.mem_updateWhere.mpr ⟨row, hrow, by rw [hp]; rfl⟩
    refine isCandidate_agent.mpr ⟨row, ?_, hid, hdue⟩
    cases op with
    | createConversation new =>
      unfold operate
      dsimp only
      split <;> exact hrow
    | softDeleteConversation conversationId userId =>
      unfold operate
      dsimp only
      split <;> exact hrow
    | reserve new =>
      unfold operate
      dsimp only
      split
      · split <;> exact hrow
      · exact hrow
    | createAgent agentId tenantId =>
      unfold operate
      dsimp only
      split
      · exact hrow
      · rename_i hagents
        exact (Table.mem_insert? hagents).mpr (.inl hrow)
    | updateAgentStatus agentId active => exact hkept (by simp [hdeleted])
    | archiveAgent agentId => exact hkept (by simp [hdeleted])
    | softDeleteAgent agentId => exact hkept (by simp [hdeleted])
    | changeAttachment _ _ => exact hrow
    | putObject _ => exact hrow
    | removeObject _ => exact hrow
    | forgetUserData _ _ => exact hrow

def dueCount (identity : DevelopmentIdentity) (s : DataLifecycleStore) (cutoff : ℤ) : ℕ :=
  s.conversations.rows.countP (isPurgeable identity.tenantId cutoff)

theorem not_isPurgeable_of_lt {row : Conversation} {now : Datetime} (h : row.deletedAt = some now)
    (hlt : cutoff < now) : isPurgeable identity.tenantId cutoff row = false := by
  refine Bool.eq_false_iff.mpr fun hdue ↦ ?_
  obtain ⟨t, ht, hle⟩ := isPurgeable_deletedAt hdue
  obtain rfl := Option.some.inj (h.symm.trans ht)
  omega

/-- What users delete now becomes due later only. -/
theorem dueCount_operate {now : Datetime} (op : UserOperation) (hlt : cutoff < now) :
    dueCount identity (operate policy now s op) cutoff ≤ dueCount identity s cutoff := by
  have hupdated : ∀ {p : Conversation → Bool} {f : Update Conversation.id},
      (∀ row, (f row).deletedAt = some now) →
        (s.conversations.updateWhere p f).rows.countP (isPurgeable identity.tenantId cutoff) ≤
          dueCount identity s cutoff := fun hf ↦
    Table.countP_updateWhere_le fun row _ _ hdue ↦ by
      rw [not_isPurgeable_of_lt (hf row) hlt] at hdue
      cases hdue
  cases op with
  | createConversation new =>
    unfold operate
    dsimp only
    split
    · rename_i hconversations _
      unfold dueCount
      rw [(Table.insert?_eq_some hconversations).2, List.countP_append, List.countP_singleton]
      simp [isPurgeable, isDue]
    · exact Nat.le_refl _
  | softDeleteConversation conversationId userId =>
    unfold operate
    dsimp only
    split
    · exact hupdated fun row ↦ rfl
    · exact Nat.le_refl _
  | forgetUserData tenantId userId => exact hupdated fun row ↦ rfl
  | reserve new =>
    unfold operate
    dsimp only
    split
    · split <;> exact Nat.le_refl _
    · exact Nat.le_refl _
  | createAgent agentId tenantId =>
    unfold operate
    dsimp only
    split <;> exact Nat.le_refl _
  | changeAttachment _ _ => exact Nat.le_refl _
  | putObject _ => exact Nat.le_refl _
  | removeObject _ => exact Nat.le_refl _
  | updateAgentStatus _ _ => exact Nat.le_refl _
  | archiveAgent _ => exact Nat.le_refl _
  | softDeleteAgent _ => exact Nat.le_refl _

theorem dueCount_deleteConversations (gone : Conversation → Bool) :
    dueCount identity (deleteConversations s gone) cutoff +
      s.conversations.rows.countP (fun row ↦ gone row && isPurgeable identity.tenantId cutoff row) ≤
        dueCount identity s cutoff := by
  have hle : dueCount identity (deleteConversations s gone) cutoff ≤
      (s.conversations.deleteWhere gone).rows.countP (isPurgeable identity.tenantId cutoff) :=
    Table.countP_updateWhere_le fun row _ _ h ↦ h
  have hsplit : (s.conversations.deleteWhere gone).rows.countP
        (isPurgeable identity.tenantId cutoff) +
      s.conversations.rows.countP (fun row ↦ gone row && isPurgeable identity.tenantId cutoff row) =
        dueCount identity s cutoff := by
    have hadd := List.countP_eq_countP_filter_add s.conversations.rows
      (isPurgeable identity.tenantId cutoff) gone
    rw [List.countP_filter] at hadd
    unfold dueCount Table.deleteWhere
    simp only [Bool.and_comm] at hadd ⊢
    omega
  omega

theorem dueCount_purge (startedAt : Datetime) (purged : RetentionKind) (purgedId : UUID) :
    dueCount identity (purgeKind policy identity startedAt purgedId s purged).2 cutoff ≤
      dueCount identity s cutoff := by
  have hle : ∀ gone, dueCount identity (deleteConversations s gone) cutoff ≤
      dueCount identity s cutoff := fun gone ↦
    (Nat.le_add_right _ _).trans (dueCount_deleteConversations gone)
  cases purged with
  | conversation =>
    unfold purgeKind purgeConversation
    dsimp only
    split
    · exact Nat.le_refl _
    · exact hle _
  | agent =>
    unfold purgeKind purgeAgent
    dsimp only
    split
    · exact Nat.le_refl _
    · exact hle _

/-- The purge of a conversation that is due takes it away. -/
theorem dueCount_purge_lt {startedAt : Datetime}
    (hcutoff : cutoff ≤ conversationCutoff policy startedAt)
    (h : isCandidate identity s .conversation ownerId cutoff = true) :
    dueCount identity (purgeKind policy identity startedAt ownerId s .conversation).2 cutoff <
      dueCount identity s cutoff := by
  obtain ⟨row, hrow, hid, hdue⟩ := isCandidate_conversation.mp h
  have hfound : (s.conversations.find? ownerId).filter
      (isPurgeable identity.tenantId (conversationCutoff policy startedAt)) = some row :=
    Option.filter_eq_some_iff.mpr ⟨Table.find?_eq_some.mpr ⟨hrow, hid⟩,
      isPurgeable_mono hcutoff hdue⟩
  unfold purgeKind purgeConversation
  dsimp only
  rw [hfound]
  have hle : dueCount identity (deleteConversations s fun item ↦ item.id = row.id) cutoff +
      s.conversations.rows.countP (fun item ↦ decide (item.id = row.id) &&
        isPurgeable identity.tenantId cutoff item) ≤ dueCount identity s cutoff :=
    dueCount_deleteConversations _
  have hpos : 0 < s.conversations.rows.countP (fun item ↦ decide (item.id = row.id) &&
      isPurgeable identity.tenantId cutoff item) :=
    List.countP_pos_iff.mpr ⟨row, hrow, by simp [hdue]⟩
  dsimp only
  omega

end operations

section listing

variable {startedAt : Datetime} {tie : UUID → ℕ}

theorem isCandidate_of_mem_listKind {candidate : RetentionCandidate}
    (h : candidate ∈ listKind policy identity startedAt tie s kind) :
    isCandidate identity s kind candidate.ownerId
      (DataLifecycleService.cutoff policy startedAt kind) = true := by
  cases kind with
  | conversation =>
    obtain ⟨row, hrow, rfl⟩ := List.mem_map.mp h
    obtain ⟨hmem, hdue⟩ := List.mem_filter.mp (mem_of_mem_earliest hrow)
    exact isCandidate_conversation.mpr ⟨row, hmem, rfl, hdue⟩
  | agent =>
    obtain ⟨row, hrow, rfl⟩ := List.mem_map.mp h
    obtain ⟨hmem, hdue⟩ := List.mem_filter.mp (mem_of_mem_earliest hrow)
    exact isCandidate_agent.mpr ⟨row, hmem, rfl, hdue⟩

theorem nodup_listKind :
    ((listKind policy identity startedAt tie s kind).map (·.ownerId)).Nodup := by
  cases kind with
  | conversation =>
    unfold listKind listRetentionCandidates
    dsimp only
    rw [List.map_map]
    exact nodup_earliest ((List.filter_sublist.map _).nodup s.conversations.nodup)
  | agent =>
    unfold listKind listAgentRetentionCandidates
    dsimp only
    rw [List.map_map]
    exact nodup_earliest ((List.filter_sublist.map _).nodup s.agents.nodup)

def isStuck (identity : DevelopmentIdentity) (fails : String → Bool) (s : DataLifecycleStore)
    (conversationId : UUID) : Bool :=
  (conversationKeys s identity.tenantId conversationId).any fails

def stuckCount (identity : DevelopmentIdentity) (fails : String → Bool) (s : DataLifecycleStore)
    (cutoff : ℤ) : ℕ :=
  s.conversations.rows.countP fun row ↦
    isPurgeable identity.tenantId cutoff row && isStuck identity fails s row.id

/-- If a conversation whose objects can be deleted is due and fewer than a batch of those that are
due no later have an object that cannot, then one whose objects can be deleted is listed. -/
theorem exists_listed {row : Conversation} {t : Datetime} (hrow : row ∈ s.conversations)
    (ht : row.deletedAt = some t)
    (hdue : isPurgeable identity.tenantId (conversationCutoff policy startedAt) row = true)
    (hfree : isStuck identity fails s row.id = false)
    (hfew : (stuckCount identity fails s t : ℤ) < policy.batchSize) :
    ∃ candidate ∈ listKind policy identity startedAt tie s .conversation,
      candidate.objectKeys.any fails = false ∧
        isCandidate identity s .conversation candidate.ownerId t = true := by
  have hlisted := (List.mem_insertionSort (Earlier Conversation.deletedAt fun row ↦ tie row.id)).mpr
    (List.mem_filter.mpr ⟨hrow, hdue⟩)
  obtain ⟨a, b, hab⟩ := List.append_of_mem hlisted
  have hsorted := List.pairwise_insertionSort (Earlier Conversation.deletedAt fun row ↦ tie row.id)
    (s.conversations.rows.filter
      (isPurgeable identity.tenantId (conversationCutoff policy startedAt)))
  have hmem : ∀ other ∈ a ++ row :: b, other ∈ s.conversations ∧
      isPurgeable identity.tenantId (conversationCutoff policy startedAt) other = true := by
    intro other hother
    rw [← hab, List.mem_insertionSort, List.mem_filter] at hother
    exact hother
  rw [hab, List.pairwise_append] at hsorted
  have hearly : ∀ other, other ∈ a ∨ other = row → isPurgeable identity.tenantId t other = true := by
    intro other hother
    have hin : other ∈ a ++ row :: b := by
      rcases hother with h | rfl
      · exact List.mem_append_left _ h
      · exact List.mem_append_right _ List.mem_cons_self
    obtain ⟨t', ht', -⟩ := isPurgeable_deletedAt (hmem other hin).2
    have hle : t' ≤ t := by
      rcases hother with h | rfl
      · have hrank := hsorted.2.2 other h row List.mem_cons_self
        unfold Earlier instantOf at hrank
        rw [ht, ht', Option.getD_some, Option.getD_some] at hrank
        rcases hrank with hlt | ⟨heq, -⟩
        · exact Nat.le_of_lt hlt
        · exact Nat.le_of_eq heq
      · exact (Option.some.inj (ht'.symm.trans ht)).le
    have hother := (hmem other hin).2
    unfold isPurgeable isDue at hother ⊢
    rw [ht', Bool.and_eq_true] at *
    exact ⟨hother.1, decide_eq_true (Int.ofNat_le.mpr hle)⟩
  have hcount : a.countP (fun other ↦ isStuck identity fails s other.id) <
      policy.batchSize.toNat := by
    have hle : a.countP (fun other ↦ isStuck identity fails s other.id) ≤
        stuckCount identity fails s t := by
      calc a.countP (fun other ↦ isStuck identity fails s other.id)
          = a.countP (fun other ↦ isPurgeable identity.tenantId t other &&
              isStuck identity fails s other.id) := by
            apply List.countP_congr
            intro other hother
            simp [hearly other (.inl hother)]
        _ ≤ (a ++ row :: b).countP (fun other ↦ isPurgeable identity.tenantId t other &&
              isStuck identity fails s other.id) :=
            (List.sublist_append_left a _).countP_le
        _ ≤ stuckCount identity fails s t := by
            rw [← hab, (List.perm_insertionSort _ _).countP_eq]
            exact List.filter_sublist.countP_le
    omega
  obtain ⟨y, hy, hyfree, hya⟩ := Sweep.exists_free (b := b) hfree hcount
  refine ⟨⟨y.id, conversationKeys s identity.tenantId y.id⟩, ?_, hyfree, ?_⟩
  · refine List.mem_map.mpr ⟨y, ?_, rfl⟩
    unfold earliest
    rwa [hab]
  · have hin : y ∈ a ++ row :: b := by
      rw [List.mem_append, List.mem_cons]
      tauto
    exact isCandidate_conversation.mpr ⟨y, (hmem y hin).1, rfl, hearly y hya⟩

end listing

section runs

variable {w : RetentionWorld}

/-- What the state before a step must meet: nobody is forgotten whose conversations are due, and
when candidates are listed, fewer than a batch of them that cannot be purged come before one that
can. -/
def Meets (identity : DevelopmentIdentity) (policy : DataLifecyclePolicy) (fails : String → Bool)
    (w : RetentionWorld) : RetentionAction → Prop
  | .user op => Spared identity policy w.now w.store op
  | .advance _ _ => ∀ run, w.cleanup = some run → run.next = .listCandidates .conversation →
      ∀ row ∈ w.store.conversations, isStuck identity fails w.store row.id = false →
        isPurgeable identity.tenantId (conversationCutoff policy run.startedAt) row = true →
          ∀ t, row.deletedAt = some t →
            (stuckCount identity fails w.store t : ℤ) < policy.batchSize
  | _ => True

theorem cutoff_mono {startedAt now : Datetime} (h : startedAt ≤ now) (kind : RetentionKind) :
    DataLifecycleService.cutoff policy startedAt kind ≤
      DataLifecycleService.cutoff policy now kind := by
  cases kind with
  | conversation => exact Int.sub_le_sub_right (Int.ofNat_le.mpr h) _
  | agent => exact Int.ofNat_le.mpr h

def callOwners : RetentionCall → List (RetentionKind × UUID)
  | .deleteObjects kind ownerId _ _ todo =>
    (ownerId :: todo.map (·.ownerId)).map (Prod.mk kind)
  | _ => []

theorem callOwners_nextCandidate (todo : List RetentionCandidate) :
    callOwners (nextCandidate kind todo) = (todo.map (·.ownerId)).map (Prod.mk kind) := by
  cases todo with
  | nil => cases kind <;> rfl
  | cons candidate todo => rfl

section safe

/-- All that a run still has to deal with is due. -/
structure Ready (identity : DevelopmentIdentity) (policy : DataLifecyclePolicy)
    (s : DataLifecycleStore) (run : RetentionRun) : Prop where
  nodup : (callOwners run.next).Nodup
  due : ∀ owner ∈ callOwners run.next, isCandidate identity s owner.1 owner.2
    (DataLifecycleService.cutoff policy run.startedAt owner.1) = true

/-- The owners of deleted objects are due, and so is what the cleanup has listed. -/
structure Safe (identity : DevelopmentIdentity) (policy : DataLifecyclePolicy)
    (w : RetentionWorld) : Prop where
  pending : ∀ deletion ∈ w.pending,
    isCandidate identity w.store deletion.kind deletion.ownerId deletion.cutoff = true
  past : ∀ deletion ∈ w.pending,
    deletion.cutoff ≤ DataLifecycleService.cutoff policy w.now deletion.kind
  started : ∀ run, w.cleanup = some run → run.startedAt ≤ w.now
  ready : ∀ run, w.cleanup = some run → Ready identity policy w.store run

theorem Ready.of_nil {run : RetentionRun} (h : callOwners run.next = []) :
    Ready identity policy s run where
  nodup := by
    rw [h]
    exact List.nodup_nil
  due owner howner := by
    rw [h] at howner
    exact absurd howner List.not_mem_nil

theorem Ready.listed {startedAt : Datetime} {counters : RetentionCounters} (tie : UUID → ℕ) :
    Ready identity policy s ⟨startedAt, counters,
      nextCandidate kind (listKind policy identity startedAt tie s kind)⟩ where
  nodup := by
    rw [callOwners_nextCandidate]
    exact nodup_listKind.map (Prod.mk_right_injective kind)
  due owner howner := by
    rw [callOwners_nextCandidate, List.map_map] at howner
    obtain ⟨candidate, hcandidate, rfl⟩ := List.mem_map.mp howner
    exact isCandidate_of_mem_listKind hcandidate

/-- After a candidate is done with, the others are left. -/
theorem Ready.next {startedAt : Datetime} {counters counters' : RetentionCounters}
    {objectKeys : List String} {candidateFailed : Bool} {todo : List RetentionCandidate}
    (h : Ready identity policy s
      ⟨startedAt, counters, .deleteObjects kind ownerId objectKeys candidateFailed todo⟩)
    {s' : DataLifecycleStore}
    (hkept : ∀ candidate ∈ todo, candidate.ownerId ≠ ownerId →
      isCandidate identity s kind candidate.ownerId
        (DataLifecycleService.cutoff policy startedAt kind) = true →
      isCandidate identity s' kind candidate.ownerId
        (DataLifecycleService.cutoff policy startedAt kind) = true) :
    Ready identity policy s' ⟨startedAt, counters', nextCandidate kind todo⟩ := by
  have hnodup := h.nodup
  have hdue := h.due
  dsimp only [callOwners] at hnodup hdue
  rw [List.map_cons, List.nodup_cons] at hnodup
  constructor
  · rw [callOwners_nextCandidate]
    exact hnodup.2
  · intro owner howner
    rw [callOwners_nextCandidate] at howner
    have hold := hdue owner (List.mem_cons_of_mem _ howner)
    rw [List.map_map] at howner
    obtain ⟨candidate, hcandidate, rfl⟩ := List.mem_map.mp howner
    refine hkept candidate hcandidate (fun heq ↦ hnodup.1 ?_) hold
    rw [← heq, List.map_map]
    exact List.mem_map_of_mem hcandidate

theorem safe_advance {run : RetentionRun} {tie : UUID → ℕ}
    {history : ObservabilityHistoryRetentionResult} (hrun : w.cleanup = some run)
    (h : Safe identity policy w) :
    Safe identity policy (advance identity policy fails w run tie history).2 := by
  have hstarted := h.started run hrun
  have hready := h.ready run hrun
  obtain ⟨startedAt, counters, next⟩ := run
  cases next with
  | listCandidates kind =>
    refine ⟨h.pending, h.past, ?_, ?_⟩
    · rintro _ ⟨⟩
      exact hstarted
    · rintro _ ⟨⟩
      exact Ready.listed tie
  | deleteObjects kind ownerId objectKeys candidateFailed todo =>
    cases objectKeys with
    | cons objectKey objectKeys =>
      have hrest : ∀ counters' candidateFailed', Ready identity policy w.store
          ⟨startedAt, counters', .deleteObjects kind ownerId objectKeys candidateFailed' todo⟩ :=
        fun _ _ ↦ ⟨hready.nodup, hready.due⟩
      unfold advance
      dsimp only
      split
      · refine ⟨h.pending, h.past, ?_, ?_⟩
        · rintro _ ⟨⟩
          exact hstarted
        · rintro _ ⟨⟩
          exact hrest _ _
      · refine ⟨?_, ?_, ?_, ?_⟩
        · exact List.forall_mem_cons.mpr ⟨hready.due _ List.mem_cons_self, h.pending⟩
        · exact List.forall_mem_cons.mpr ⟨cutoff_mono hstarted kind, h.past⟩
        · rintro _ ⟨⟩
          exact hstarted
        · rintro _ ⟨⟩
          exact ⟨hready.nodup, hready.due⟩
    | nil =>
      cases candidateFailed with
      | true =>
        refine ⟨h.pending, h.past, ?_, ?_⟩
        · rintro _ ⟨⟩
          exact hstarted
        · rintro _ ⟨⟩
          exact hready.next fun _ _ _ hcandidate ↦ hcandidate
      | false =>
        unfold advance
        dsimp only
        refine ⟨?_, ?_, ?_, ?_⟩
        · intro deletion hdeletion
          obtain ⟨hpending, hthere⟩ := List.mem_filter.mp hdeletion
          exact isCandidate_purge (h.pending deletion hpending) hthere
        · exact fun deletion hdeletion ↦ h.past deletion (List.mem_filter.mp hdeletion).1
        · rintro _ ⟨⟩
          exact hstarted
        · rintro _ ⟨⟩
          refine hready.next fun candidate _ hne hcandidate ↦ ?_
          exact isCandidate_purge hcandidate
            (isThere_purge hne (isThere_of_isCandidate hcandidate))
  | purgeMetadata =>
    refine ⟨h.pending, h.past, ?_, ?_⟩
    · rintro _ ⟨⟩
      exact hstarted
    · rintro _ ⟨⟩
      exact .of_nil rfl
  | purgeHistory =>
    refine ⟨h.pending, h.past, ?_, ?_⟩
    · rintro _ ⟨⟩
    · rintro _ ⟨⟩

theorem safe_step {a : RetentionAction} (h : Safe identity policy w)
    (ha : Meets identity policy fails w a) :
    Safe identity policy (step identity policy fails w a).2 := by
  cases a with
  | tick duration =>
    have hle : w.now ≤ w.now + duration := Nat.le_add_right _ _
    exact ⟨h.pending, fun deletion hdeletion ↦
      (h.past deletion hdeletion).trans (cutoff_mono hle deletion.kind),
      fun run hrun ↦ (h.started run hrun).trans hle, h.ready⟩
  | user op =>
    refine ⟨fun deletion hdeletion ↦ ?_, h.past, h.started, fun run hrun ↦ ⟨?_, ?_⟩⟩
    · exact isCandidate_operate ha (h.past deletion hdeletion) (h.pending deletion hdeletion)
    · exact (h.ready run hrun).nodup
    · intro owner howner
      exact isCandidate_operate ha (cutoff_mono (h.started run hrun) owner.1)
        ((h.ready run hrun).due owner howner)
  | start =>
    unfold step
    dsimp only
    split
    · refine ⟨h.pending, h.past, ?_, ?_⟩
      · rintro _ ⟨⟩
        exact Nat.le_refl _
      · rintro _ ⟨⟩
        exact .of_nil rfl
    · exact h
  | advance tie history =>
    unfold step
    dsimp only
    split
    · exact h
    · rename_i run hrun
      exact safe_advance hrun h
  | abort =>
    refine ⟨h.pending, h.past, ?_, ?_⟩
    · rintro _ ⟨⟩
    · rintro _ ⟨⟩

end safe

section progress

variable {t : ℤ} {bound : ℕ}

/-- The purge of a conversation that is due no later than `t` will not be held up by its objects. -/
def Promised (identity : DevelopmentIdentity) (fails : String → Bool) (s : DataLifecycleStore)
    (t : ℤ) (ownerId : UUID) (objectKeys : List String) : Prop :=
  objectKeys.any fails = false ∧ isCandidate identity s .conversation ownerId t = true

/-- Before this call the run has yet to purge a conversation that is due no later than `t`, and it
will. -/
def OwingCall (identity : DevelopmentIdentity) (fails : String → Bool) (s : DataLifecycleStore)
    (t : ℤ) : RetentionCall → Prop
  | .listCandidates .conversation => True
  | .deleteObjects .conversation ownerId objectKeys candidateFailed todo =>
    candidateFailed = false ∧ Promised identity fails s t ownerId objectKeys ∨
      ∃ candidate ∈ todo, Promised identity fails s t candidate.ownerId candidate.objectKeys
  | _ => False

def Owing (identity : DevelopmentIdentity) (policy : DataLifecyclePolicy) (fails : String → Bool)
    (t : ℤ) (w : RetentionWorld) : Prop :=
  ∀ run, w.cleanup = some run → t ≤ conversationCutoff policy run.startedAt ∧
    OwingCall identity fails w.store t run.next

/-- A conversation that was due at `t` waits for its purge. Each run that has finished, and each
that owes nothing any more, has purged another one that was due by then. -/
structure Waiting (identity : DevelopmentIdentity) (policy : DataLifecyclePolicy)
    (fails : String → Bool) (conversationId : UUID) (t : ℤ) (bound : ℕ) (w : RetentionWorld) :
    Prop where
  due : isCandidate identity w.store .conversation conversationId t = true
  past : t ≤ conversationCutoff policy w.now
  balance : w.finished + dueCount identity w.store t ≤ bound
  owing : Owing identity policy fails t w ∨ w.finished + dueCount identity w.store t < bound

theorem OwingCall.next {todo : List RetentionCandidate}
    (h : ∃ candidate ∈ todo, Promised identity fails s t candidate.ownerId candidate.objectKeys) :
    OwingCall identity fails s t (nextCandidate .conversation todo) := by
  obtain ⟨candidate, hmem, hpromised⟩ := h
  cases todo with
  | nil => exact absurd hmem List.not_mem_nil
  | cons first todo =>
    rcases List.mem_cons.mp hmem with rfl | hmem
    · exact .inl ⟨rfl, hpromised⟩
    · exact .inr ⟨candidate, hmem, hpromised⟩

theorem OwingCall.mono {s' : DataLifecycleStore} {call : RetentionCall}
    (h : OwingCall identity fails s t call)
    (hkept : ∀ id, isCandidate identity s .conversation id t = true →
      isCandidate identity s' .conversation id t = true) :
    OwingCall identity fails s' t call := by
  cases call with
  | listCandidates kind =>
    cases kind with
    | conversation => trivial
    | agent => exact h
  | deleteObjects kind ownerId objectKeys candidateFailed todo =>
    cases kind with
    | conversation =>
      exact h.imp (fun ⟨hfailed, hkeys, hdue⟩ ↦ ⟨hfailed, hkeys, hkept _ hdue⟩)
        fun ⟨candidate, hmem, hkeys, hdue⟩ ↦ ⟨candidate, hmem, hkeys, hkept _ hdue⟩
    | agent => exact h
  | purgeMetadata => exact h
  | purgeHistory => exact h

theorem isCandidate_mono {t' : ℤ} (h : t ≤ t')
    (hdue : isCandidate identity s .conversation ownerId t = true) :
    isCandidate identity s .conversation ownerId t' = true := by
  obtain ⟨row, hrow, hid, hpurgeable⟩ := isCandidate_conversation.mp hdue
  exact isCandidate_conversation.mpr ⟨row, hrow, hid, isPurgeable_mono h hpurgeable⟩

theorem owing_listed {startedAt : Datetime} {tie : UUID → ℕ} {conversationId : UUID}
    (hdue : isCandidate identity s .conversation conversationId t = true)
    (hpast : t ≤ conversationCutoff policy startedAt)
    (hfree : isStuck identity fails s conversationId = false)
    (hfew : ∀ row ∈ s.conversations, isStuck identity fails s row.id = false →
      isPurgeable identity.tenantId (conversationCutoff policy startedAt) row = true →
        ∀ t, row.deletedAt = some t → (stuckCount identity fails s t : ℤ) < policy.batchSize) :
    OwingCall identity fails s t
      (nextCandidate .conversation (listKind policy identity startedAt tie s .conversation)) := by
  obtain ⟨row, hrow, rfl, hpurgeable⟩ := isCandidate_conversation.mp hdue
  obtain ⟨time, htime, hle⟩ := isPurgeable_deletedAt hpurgeable
  have hlate := isPurgeable_mono hpast hpurgeable
  obtain ⟨candidate, hmem, hkeys, hcandidate⟩ :=
    exists_listed hrow htime hlate hfree (hfew row hrow hfree hlate time htime)
  exact .next ⟨candidate, hmem, hkeys, isCandidate_mono hle hcandidate⟩

theorem waiting_advance {run : RetentionRun} {tie : UUID → ℕ} {conversationId : UUID}
    {history : ObservabilityHistoryRetentionResult} (hrun : w.cleanup = some run)
    (h : Waiting identity policy fails conversationId t bound w)
    (hmeets : Meets identity policy fails w (.advance tie history))
    (hfree : isStuck identity fails w.store conversationId = false) :
    isThere (advance identity policy fails w run tie history).2.store .conversation
        conversationId = false ∨
      Waiting identity policy fails conversationId t bound
        (advance identity policy fails w run tie history).2 := by
  have howing : (t ≤ conversationCutoff policy run.startedAt ∧
      OwingCall identity fails w.store t run.next) ∨
        w.finished + dueCount identity w.store t < bound := h.owing.imp_left fun ho ↦ ho run hrun
  have hfew := hmeets run hrun
  obtain ⟨startedAt, counters, next⟩ := run
  cases next with
  | listCandidates kind =>
    refine .inr ⟨h.due, h.past, h.balance, howing.imp_left ?_⟩
    rintro ⟨hpast, howing⟩ _ ⟨⟩
    cases kind with
    | agent => exact howing.elim
    | conversation => exact ⟨hpast, owing_listed h.due hpast hfree (hfew rfl)⟩
  | deleteObjects kind ownerId objectKeys candidateFailed todo =>
    cases objectKeys with
    | cons objectKey objectKeys =>
      unfold advance
      dsimp only
      split
      · rename_i hfails
        refine .inr ⟨h.due, h.past, h.balance, howing.imp_left ?_⟩
        rintro ⟨hpast, howing⟩ _ ⟨⟩
        cases kind with
        | agent => exact howing.elim
        | conversation =>
          refine ⟨hpast, .inr (howing.resolve_left fun ⟨_, hkeys, _⟩ ↦ ?_)⟩
          rw [List.any_cons, hfails] at hkeys
          cases hkeys
      · refine .inr ⟨h.due, h.past, h.balance, howing.imp_left ?_⟩
        rintro ⟨hpast, howing⟩ _ ⟨⟩
        cases kind with
        | agent => exact howing.elim
        | conversation =>
          refine ⟨hpast, howing.imp_left fun ⟨hfailed, hkeys, hdue⟩ ↦ ⟨hfailed, ?_, hdue⟩⟩
          rw [List.any_cons, Bool.or_eq_false_iff] at hkeys
          exact hkeys.2
    | nil =>
      cases candidateFailed with
      | true =>
        refine .inr ⟨h.due, h.past, h.balance, howing.imp_left ?_⟩
        rintro ⟨hpast, howing⟩ _ ⟨⟩
        cases kind with
        | agent => exact howing.elim
        | conversation =>
          exact ⟨hpast, .next (howing.resolve_left fun ⟨hfailed, _⟩ ↦ Bool.noConfusion hfailed)⟩
      | false =>
        unfold advance
        dsimp only
        have hle := @dueCount_purge identity policy w.store t startedAt kind ownerId
        cases hthere : isThere (purgeKind policy identity startedAt ownerId w.store kind).2
            .conversation conversationId with
        | false => exact .inl rfl
        | true =>
          refine .inr ⟨isCandidate_purge h.due hthere, h.past,
            (Nat.add_le_add_left hle _).trans h.balance, ?_⟩
          rcases howing with ⟨hpast, howing⟩ | hlt
          · cases kind with
            | agent => exact howing.elim
            | conversation =>
              by_cases howner : isCandidate identity w.store .conversation ownerId t = true
              · have hlt := dueCount_purge_lt hpast howner
                exact .inr ((Nat.add_lt_add_left hlt _).trans_le h.balance)
              · refine .inl ?_
                rintro _ ⟨⟩
                obtain ⟨candidate, hmem, hkeys, hdue⟩ :=
                  howing.resolve_left fun ⟨_, _, hdue⟩ ↦ howner hdue
                have hne : candidate.ownerId ≠ ownerId := fun heq ↦ howner (heq ▸ hdue)
                exact ⟨hpast, .next ⟨candidate, hmem, hkeys, isCandidate_purge hdue
                  (isThere_purge hne (isThere_of_isCandidate hdue))⟩⟩
          · exact .inr ((Nat.add_le_add_left hle _).trans_lt hlt)
  | purgeMetadata =>
    refine .inr ⟨h.due, h.past, h.balance, howing.imp_left ?_⟩
    exact fun ⟨_, howing⟩ ↦ howing.elim
  | purgeHistory =>
    have hlt := howing.resolve_left fun ⟨_, howing⟩ ↦ howing.elim
    refine .inr ⟨h.due, h.past, ?_, .inl ?_⟩
    · show w.finished + 1 + dueCount identity w.store t ≤ bound
      omega
    · rintro _ ⟨⟩

theorem waiting_step {a : RetentionAction} {conversationId : UUID}
    (hdays : 1 ≤ policy.deletedConversationDays)
    (h : Waiting identity policy fails conversationId t bound w)
    (hmeets : Meets identity policy fails w a)
    (hfree : isStuck identity fails w.store conversationId = false) :
    isThere (step identity policy fails w a).2.store .conversation conversationId = false ∨
      Waiting identity policy fails conversationId t bound (step identity policy fails w a).2 := by
  cases a with
  | tick duration =>
    have hle : w.now ≤ w.now + duration := Nat.le_add_right _ _
    exact .inr ⟨h.due, h.past.trans (cutoff_mono hle .conversation), h.balance, h.owing⟩
  | user op =>
    have hkept : ∀ id, isCandidate identity w.store .conversation id t = true →
        isCandidate identity (operate policy w.now w.store op) .conversation id t = true :=
      fun id ↦ isCandidate_operate hmeets h.past
    have hlt : t < w.now := by
      have hpast := h.past
      unfold conversationCutoff days at hpast
      omega
    have hle := @dueCount_operate identity policy w.store t w.now op hlt
    refine .inr ⟨hkept _ h.due, h.past, (Nat.add_le_add_left hle _).trans h.balance, ?_⟩
    exact h.owing.imp (fun ho run hrun ↦ ⟨(ho run hrun).1, (ho run hrun).2.mono hkept⟩)
      fun hlt ↦ (Nat.add_le_add_left hle _).trans_lt hlt
  | start =>
    unfold step
    dsimp only
    split
    · refine .inr ⟨h.due, h.past, h.balance, .inl ?_⟩
      rintro _ ⟨⟩
      exact ⟨h.past, trivial⟩
    · exact .inr h
  | advance tie history =>
    unfold step
    dsimp only
    split
    · exact .inr h
    · rename_i run hrun
      exact waiting_advance hrun h hmeets hfree
  | abort =>
    refine .inr ⟨h.due, h.past, h.balance, .inl ?_⟩
    rintro _ ⟨⟩

theorem Waiting.finished_lt {conversationId : UUID}
    (h : Waiting identity policy fails conversationId t bound w) : w.finished < bound := by
  obtain ⟨row, hrow, -, hpurgeable⟩ := isCandidate_conversation.mp h.due
  have hpos : 0 < dueCount identity w.store t := List.countP_pos_iff.mpr ⟨row, hrow, hpurgeable⟩
  have hle := h.balance
  omega

end progress

/-- In a run of cleanups and user operations whose steps meet the condition, the owner of a deleted
object stays due until it is purged. A conversation that is due and whose objects can be deleted is
purged by the time more cleanups have finished than conversations were due no later than it. -/
theorem retention_safe_and_progresses (hdays : 1 ≤ policy.deletedConversationDays)
    (store : DataLifecycleStore) (now : Datetime) {as : List RetentionAction}
    (h : Along (step identity policy fails) (Meets identity policy fails) { store, now } as) :
    let w := run (step identity policy fails) { store, now } as;
    (∀ deletion ∈ w.pending,
      isCandidate identity w.store deletion.kind deletion.ownerId deletion.cutoff = true) ∧
    ∀ (conversationId : UUID) (t : ℤ) (bs : List RetentionAction),
      isCandidate identity w.store .conversation conversationId t = true →
      t ≤ conversationCutoff policy w.now →
      Along (step identity policy fails) (fun w a ↦ Meets identity policy fails w a ∧
        isStuck identity fails w.store conversationId = false) w bs →
      w.finished + dueCount identity w.store t <
        (run (step identity policy fails) w bs).finished →
      ∃ bs', bs' <+: bs ∧ isThere (run (step identity policy fails) w bs').store .conversation
        conversationId = false := by
  intro w
  have hsafe : Safe identity policy w := by
    refine run_invariant (fun w a hw ha ↦ safe_step hw ha) ?_ h
    refine ⟨?_, ?_, ?_, ?_⟩
    · exact fun deletion hdeletion ↦ absurd hdeletion List.not_mem_nil
    · exact fun deletion hdeletion ↦ absurd hdeletion List.not_mem_nil
    · rintro _ ⟨⟩
    · rintro _ ⟨⟩
  refine ⟨hsafe.pending, fun conversationId t bs hdue hpast hbs hfinished ↦ ?_⟩
  have hwaiting : Waiting identity policy fails conversationId t
      (w.finished + dueCount identity w.store t + 1) w :=
    ⟨hdue, hpast, Nat.le_succ _, .inr (Nat.lt_succ_self _)⟩
  have hstep : ∀ v a, Waiting identity policy fails conversationId t
        (w.finished + dueCount identity w.store t + 1) v →
      (Meets identity policy fails v a ∧ isStuck identity fails v.store conversationId = false) →
      isThere (step identity policy fails v a).2.store .conversation conversationId = false ∨
        Waiting identity policy fails conversationId t
          (w.finished + dueCount identity w.store t + 1) (step identity policy fails v a).2 :=
    fun v a hv ha ↦ waiting_step hdays hv ha.1 ha.2
  rcases run_until (Q := fun v ↦ isThere v.store .conversation conversationId = false)
    hstep hwaiting hbs with hpurged | hend
  · exact hpurged
  · have hlt := hend.finished_lt
    omega

section examples

def curator : DevelopmentIdentity where
  tenantId := 1
  userId := 2
  agentId := 3

def oneByOne : DataLifecyclePolicy where
  deletedAgentDays := 30
  deletedConversationDays := 30
  deletedAttachmentDays := 7
  observabilityDispositionEventDays := 90
  observabilityReplayReviewDays := 90
  observabilityRecommendationFeedbackDays := 90
  orphanGraceHours := 24
  batchSize := 1
  exportMaxRecords := 10000
  exportMaxBytes := 26214400
  backupExpectedIntervalHours := 720

def deletedConversation (id : UUID) (deletedAt : Datetime) : Conversation where
  id
  tenantId := 1
  agentId := 3
  title := "t"
  status := .active
  createdBy := 2
  eventSequence := 0
  createdAt := 0
  updatedAt := 0
  deletedAt := some deletedAt

def document : Attachment where
  id := 6
  tenantId := 1
  ownerId := 2
  conversationId := 4
  clientMessageId := 7
  originalName := "a.txt"
  contentType := "text/plain"
  sizeBytes := 5
  sha256 := "2cf24dba5fb0a30e26e83b2ac5b9e29e1b161e5c1fa7425e73043362938b9824"
  status := .attached
  createdAt := 0
  expiresAt := 900000000
  objectKey := "a"

theorem deletedConversations_ids :
    ([deletedConversation 4 0, deletedConversation 5 1].map (·.id)).Nodup := by decide

def twoDeleted : DataLifecycleStore where
  conversations := ⟨[deletedConversation 4 0, deletedConversation 5 1], deletedConversations_ids⟩
  members := .empty
  agents := .empty
  attachments := ⟨[document], List.nodup_singleton _⟩
  runs := []
  objects := .empty

def fortyDays : Datetime := 3456000000000

def advanceOnce : RetentionAction := .advance id ⟨0, 0, 0⟩

def oneCleanup : List RetentionAction :=
  [.start, advanceOnce, advanceOnce, advanceOnce, advanceOnce, advanceOnce, advanceOnce]

def before (counters : RetentionCounters) (next : RetentionCall) (finished : ℕ) :
    RetentionWorld :=
  ⟨twoDeleted, fortyDays, some ⟨fortyDays, counters, next⟩, [], finished⟩

theorem retention_safe_and_progresses_twice :
    ∃ bs', bs' <+: (List.replicate 4 oneCleanup).flatten ∧
      isThere (run (step curator oneByOne fun _ ↦ false) { store := twoDeleted, now := fortyDays }
        bs').store .conversation 5 = false := by
  have hfree : ∀ s id, isStuck curator (fun _ ↦ false) s id = false := by
    intro s id
    simp [isStuck]
  have hmeets : ∀ w, ∀ a ∈ (List.replicate 4 oneCleanup).flatten,
      Meets curator oneByOne (fun _ ↦ false) w a := by
    intro w a ha
    rw [List.mem_flatten] at ha
    obtain ⟨cleanup, hcleanup, ha⟩ := ha
    rw [List.eq_of_mem_replicate hcleanup] at ha
    have hcases : a = .start ∨ a = advanceOnce := by
      unfold oneCleanup at ha
      simpa only [List.mem_cons, List.not_mem_nil, or_false, or_self] using ha
    rcases hcases with rfl | rfl
    · trivial
    · intro run _ _ row _ _ _ t _
      simp [stuckCount, hfree, oneByOne]
  have hdays : 1 ≤ oneByOne.deletedConversationDays := by decide
  have hnone : Along (step curator oneByOne fun _ ↦ false) (Meets curator oneByOne fun _ ↦ false)
    { store := twoDeleted, now := fortyDays } [] := trivial
  refine (retention_safe_and_progresses hdays twoDeleted fortyDays hnone).2 5 1
    (List.replicate 4 oneCleanup).flatten (by decide) (by decide) ?_ (by decide +kernel)
  refine (along_true.and_forall fun a ha w ↦ hmeets w a ha).mono fun w a h ↦ ?_
  exact ⟨h.2 w, hfree _ _⟩

/-- The first conversation cannot be purged, and each run looks at it alone. -/
theorem starved_conversation :
    ¬∃ n, ∀ as, n ≤ (run (step curator oneByOne (· = "a")) ⟨twoDeleted, fortyDays, none, [], 0⟩
        as).finished →
      isThere (run (step curator oneByOne (· = "a")) ⟨twoDeleted, fortyDays, none, [], 0⟩
        as).store .conversation 5 = false := by
  have hlisted : listKind oneByOne curator fortyDays id twoDeleted .conversation =
    [⟨4, ["a"]⟩] := by decide +kernel
  have hagents : listKind oneByOne curator fortyDays id twoDeleted .agent = [] := by
    decide +kernel
  have hlist : ∀ n, (step curator oneByOne (· = "a") (before {} (.listCandidates .conversation) n)
      advanceOnce).2 = before { candidates := 1 } (.deleteObjects .conversation 4 ["a"] false []) n := by
    intro n
    simp only [step, advanceOnce, advance, before, hlisted]
    rfl
  have hlistAgents : ∀ n, (step curator oneByOne (· = "a")
      (before { candidates := 1, candidatesFailed := 1 } (.listCandidates .agent) n)
      advanceOnce).2 = before { candidates := 1, candidatesFailed := 1 } .purgeHistory n := by
    intro n
    simp only [step, advanceOnce, advance, before, hagents]
    rfl
  have hcycle : ∀ n, run (step curator oneByOne (· = "a")) ⟨twoDeleted, fortyDays, none, [], n⟩
      oneCleanup = ⟨twoDeleted, fortyDays, none, [], n + 1⟩ := by
    intro n
    have hstart : (step curator oneByOne (· = "a") ⟨twoDeleted, fortyDays, none, [], n⟩ .start).2 =
      before {} (.listCandidates .conversation) n := rfl
    have hfails : (step curator oneByOne (· = "a") (before { candidates := 1 }
        (.deleteObjects .conversation 4 ["a"] false []) n) advanceOnce).2 =
      before { candidates := 1 } (.deleteObjects .conversation 4 [] true []) n := rfl
    have hfailed : (step curator oneByOne (· = "a") (before { candidates := 1 }
        (.deleteObjects .conversation 4 [] true []) n) advanceOnce).2 =
      before { candidates := 1, candidatesFailed := 1 } .purgeMetadata n := rfl
    have hmetadata : (step curator oneByOne (· = "a")
        (before { candidates := 1, candidatesFailed := 1 } .purgeMetadata n) advanceOnce).2 =
      before { candidates := 1, candidatesFailed := 1 } (.listCandidates .agent) n := rfl
    have hfinish : (step curator oneByOne (· = "a")
        (before { candidates := 1, candidatesFailed := 1 } .purgeHistory n) advanceOnce).2 =
      ⟨twoDeleted, fortyDays, none, [], n + 1⟩ := rfl
    simp only [oneCleanup, run, hstart, hlist, hfails, hfailed, hmetadata, hlistAgents, hfinish]
  have hcycles : ∀ n, run (step curator oneByOne (· = "a"))
      ⟨twoDeleted, fortyDays, none, [], 0⟩ (List.replicate n oneCleanup).flatten =
        ⟨twoDeleted, fortyDays, none, [], n⟩ := by
    intro n
    induction n with
    | zero => rfl
    | succ n ih =>
      rw [List.replicate_succ', List.flatten_append, run_append, ih, List.flatten_singleton]
      exact hcycle n
  rintro ⟨n, h⟩
  have hgone := h (List.replicate n oneCleanup).flatten
  rw [hcycles n] at hgone
  have hthere : isThere twoDeleted .conversation 5 = true := by decide
  rw [hgone (Nat.le_refl n)] at hthere
  cases hthere

end examples

end runs

end CyberNetizen.DataLifecycle
