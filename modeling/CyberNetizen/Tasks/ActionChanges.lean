import CyberNetizen.Tasks.Lifecycle

namespace CyberNetizen.Tasks

open Domain Infrastructure KeyedTable SqlAlchemyTaskRepository

def Undecided : TaskCall → Prop
  | .decideScheduledAction .. => False
  | _ => True

def ActionsKept (s s' : TaskStore) : Prop :=
  ∀ actionId row, s.scheduledActions.find? actionId = some row →
    ∃ row', s'.scheduledActions.find? actionId = some row' ∧ row'.socialCost = row.socialCost ∧
      (row' = row ∨ row.status = .pending)

/-- What the calls other than decisions do to actions and usages. -/
structure ActionFrame (s s' : TaskStore) : Prop where
  usages : s'.budgetUsages = s.budgetUsages
  kept : ActionsKept s s'
  back : ∀ row' ∈ s'.scheduledActions,
    row' ∈ s.scheduledActions ∨ row'.status = .pending ∨ row'.status = .canceled

section frame

variable {s s' : TaskStore}

theorem ActionsKept.of_eq (h : s'.scheduledActions = s.scheduledActions) : ActionsKept s s' :=
  fun _ row hrow ↦ ⟨row, by rw [h, hrow], rfl, .inl rfl⟩

theorem ActionFrame.of_eq (hactions : s'.scheduledActions = s.scheduledActions)
    (husages : s'.budgetUsages = s.budgetUsages) : ActionFrame s s' where
  usages := husages
  kept := .of_eq hactions
  back _ h := .inl (hactions ▸ h)

theorem ActionFrame.refl : ActionFrame s s := .of_eq rfl rfl

def SameTables (s s' : TaskStore) : Prop :=
  s'.scheduledActions = s.scheduledActions ∧ s'.budgetUsages = s.budgetUsages

theorem SameTables.frame (h : SameTables s s') : ActionFrame s s' := .of_eq h.1 h.2

theorem insertOutbox_same {outbox : OutboxEvent} (h : s.insertOutbox outbox = some s') :
    SameTables s s' := by
  obtain ⟨outboxEvents, -, rfl⟩ := TaskStore.insertOutbox_eq_some h
  exact ⟨rfl, rfl⟩

theorem insertJob_same {job : BackgroundJob} (h : s.insertJob job = some s') : SameTables s s' := by
  obtain ⟨-, -, jobs, -, rfl⟩ := TaskStore.insertJob_eq_some h
  exact ⟨rfl, rfl⟩

theorem insertInbox_same {event : InboxEvent} (h : s.insertInbox event = some s') :
    SameTables s s' := by
  obtain ⟨-, inboxEvents, -, rfl⟩ := TaskStore.insertInbox_eq_some h
  exact ⟨rfl, rfl⟩

theorem setInboxRow_same (row : BackgroundJob) (status : InboxEventStatus) (now : Datetime)
    (errorCode : Option String) : SameTables s (setInboxRow s row status now errorCode) :=
  ⟨setInboxRow_scheduledActions .., setInboxRow_budgetUsages ..⟩

theorem SameTables.trans {t : TaskStore} (h : SameTables s t) (h' : SameTables t s') :
    SameTables s s' := ⟨h'.1.trans h.1, h'.2.trans h.2⟩

theorem enqueue_same {job : BackgroundJob} {outbox : OutboxEvent} {inbox : Option InboxEvent}
    {r : BackgroundJob × Bool} (h : enqueue job outbox inbox s = .ok (r, s')) :
    SameTables s s' := by
  unfold enqueue at h
  dsimp only at h
  split at h
  · rename_i t hinserted
    obtain ⟨-, rfl⟩ := Prod.mk.inj (Except.ok.inj h)
    refine UnitOfWork.flush_invariant (I := SameTables s) (fun row hrow _ t t' ht hinsert ↦ ht.trans ?_)
      ⟨rfl, rfl⟩ hinserted
    rcases List.mem_append.mp hrow with hinbox | htask
    · obtain ⟨event, -, rfl⟩ := Option.map_eq_some_iff.mp (Option.mem_toList.mp hinbox)
      exact insertInbox_same hinsert
    · simp only [List.mem_cons, List.not_mem_nil, or_false] at htask
      rcases htask with rfl | rfl
      · exact insertJob_same hinsert
      · exact insertOutbox_same hinsert
  · split at h
    · obtain ⟨-, rfl⟩ := Prod.mk.inj (Except.ok.inj h)
      exact ⟨rfl, rfl⟩
    · split at h
      · obtain ⟨-, rfl⟩ := Prod.mk.inj (Except.ok.inj h)
        exact ⟨rfl, rfl⟩
      · exact absurd h (by simp)

theorem replay_same {tenantId sourceJobId : UUID} {job : BackgroundJob} {outbox : OutboxEvent}
    {r : Option BackgroundJob} (h : replay tenantId sourceJobId job outbox s = .ok (r, s')) :
    SameTables s s' := by
  unfold replay at h
  split at h
  · obtain ⟨-, rfl⟩ := Prod.mk.inj (Except.ok.inj h)
    exact ⟨rfl, rfl⟩
  split at h
  · obtain ⟨-, rfl⟩ := Prod.mk.inj (Except.ok.inj h)
    exact ⟨rfl, rfl⟩
  split at h
  · rename_i t hinserted
    obtain ⟨-, rfl⟩ := Prod.mk.inj (Except.ok.inj h)
    obtain ⟨s₁, hjob, houtbox⟩ := flush_task hinserted
    exact (insertJob_same hjob).trans (insertOutbox_same houtbox)
  · exact absurd h (by simp)

theorem requestCancel_same {tenantId jobId : UUID} {now : Datetime} :
    SameTables s (requestCancel tenantId jobId now s).2 := by
  unfold requestCancel
  split
  · exact ⟨rfl, rfl⟩
  split
  · exact ⟨rfl, rfl⟩
  split
  · exact ⟨rfl, rfl⟩
  split
  · exact setInboxRow_same (s := cancelOutboxRows (setJob s jobId (cancelWaiting now)) jobId now) ..
  · exact ⟨rfl, rfl⟩

theorem claimJob_same {jobId attemptId : UUID} {workerId : String} {now : Datetime} {locked : Bool}
    {r : Option JobClaim} (h : claimJob jobId workerId now attemptId locked s = .ok (r, s')) :
    SameTables s s' := by
  rcases claimJob_cases h with ⟨-, rfl⟩ | ⟨-, row, -, -, -, -, hcases⟩
  · exact ⟨rfl, rfl⟩
  rcases hcases with ⟨-, -, rfl⟩ | ⟨-, t, -, hinsert, rfl⟩
  · exact setInboxRow_same (s := setJob s jobId (claimCanceled now)) ..
  · obtain ⟨attempts, -, rfl⟩ := TaskStore.insertAttempt_eq_some hinsert
    exact setInboxRow_same (s := { setJob s jobId (claimed workerId now) with attempts }) ..

theorem renewJobLease_same {jobId attemptId : UUID} {workerId : String} {now : Datetime} :
    SameTables s (renewJobLease jobId attemptId workerId now s).2 := by
  unfold renewJobLease
  split
  · split <;> exact ⟨rfl, rfl⟩
  · exact ⟨rfl, rfl⟩

theorem completeJob_same {jobId attemptId : UUID} {workerId : String} {result : JsonObject}
    {now : Datetime} : SameTables s (completeJob jobId attemptId workerId result now s).2 := by
  unfold completeJob
  split
  · exact ⟨setInboxRow_scheduledActions .., setInboxRow_budgetUsages ..⟩
  · exact ⟨rfl, rfl⟩

theorem failJob_same {jobId attemptId : UUID} {workerId errorCode errorSummary : String}
    {permanent timedOut : Bool} {retryAt now : Datetime} {retryOutbox : OutboxEvent}
    {r : Option BackgroundJob}
    (h : failJob jobId attemptId workerId errorCode errorSummary permanent timedOut retryAt
      retryOutbox now s = .ok (r, s')) : SameTables s s' := by
  unfold failJob at h
  split at h
  · dsimp only at h
    split at h
    · split at h
      · exact absurd h (by simp)
      · rename_i row attempt _ _ t hinsert
        obtain ⟨-, rfl⟩ := Prod.mk.inj (Except.ok.inj h)
        obtain ⟨hactions, husages⟩ := (insertOutbox_same hinsert).trans (setInboxRow_same ..)
        exact ⟨hactions, husages⟩
    · split at h <;> obtain ⟨-, rfl⟩ := Prod.mk.inj (Except.ok.inj h) <;>
        exact ⟨setInboxRow_scheduledActions .., setInboxRow_budgetUsages ..⟩
  · obtain ⟨-, rfl⟩ := Prod.mk.inj (Except.ok.inj h)
    exact ⟨rfl, rfl⟩

theorem recoverJob_same {now : Datetime} {freshId : UUID → UUID} {jobId : UUID}
    (h : recoverJob now freshId s jobId = some s') : SameTables s s' := by
  unfold recoverJob at h
  split at h
  · obtain rfl := Option.some.inj h
    exact ⟨rfl, rfl⟩
  dsimp only at h
  split at h
  · obtain ⟨t, hinsert, rfl⟩ := Option.map_eq_some_iff.mp h
    obtain ⟨hactions, husages⟩ := (insertOutbox_same hinsert).trans (setInboxRow_same ..)
    exact ⟨hactions, husages⟩
  · obtain rfl := Option.some.inj h
    exact ⟨setInboxRow_scheduledActions .., setInboxRow_budgetUsages ..⟩

theorem recoverJobs_same {now : Datetime} {freshId : UUID → UUID} {ids : List UUID}
    (h : ids.foldlM (recoverJob now freshId) s = some s') : SameTables s s' := by
  induction ids generalizing s with
  | nil =>
    obtain rfl := Option.some.inj h
    exact ⟨rfl, rfl⟩
  | cons id ids ih =>
    rw [List.foldlM_cons] at h
    obtain ⟨t, hturn, hrest⟩ := Option.bind_eq_some_iff.mp h
    exact (recoverJob_same hturn).trans (ih hrest)

theorem recoverExpiredLeases_same {now : Datetime} {freshId : UUID → UUID}
    {lockedJobs lockedEvents : UUID → Bool} {r : ℕ}
    (h : recoverExpiredLeases now freshId lockedJobs lockedEvents s = .ok (r, s')) :
    SameTables s s' := by
  unfold recoverExpiredLeases at h
  dsimp only at h
  split at h
  · exact absurd h (by simp)
  · rename_i t hturns
    obtain ⟨-, rfl⟩ := Prod.mk.inj (Except.ok.inj h)
    obtain ⟨hactions, husages⟩ := recoverJobs_same hturns
    exact ⟨hactions, husages⟩

theorem createScheduledAction_frame (request : ScheduleRequest) {r : ScheduledAction × Bool}
    (h : createScheduledAction request.action request.job request.outbox s = .ok (r, s')) :
    ActionFrame s s' := by
  unfold createScheduledAction at h
  split at h
  · exact absurd h (by simp)
  split at h
  · rename_i t hinserted
    obtain ⟨-, rfl⟩ := Prod.mk.inj (Except.ok.inj h)
    obtain ⟨s₁, s₂, hjob, houtbox, haction⟩ := flush_scheduled hinserted
    obtain ⟨htables, husages⟩ := (insertJob_same hjob).trans (insertOutbox_same houtbox)
    obtain ⟨-, scheduledActions, hinsert, rfl⟩ := TaskStore.insertAction_eq_some haction
    rw [htables] at hinsert
    refine ⟨husages, fun actionId row hrow ↦ ?_, fun row' hrow' ↦ ?_⟩
    · refine ⟨row, ?_, rfl, .inl rfl⟩
      have hne : actionId ≠ request.action.id := fun he ↦
        (Table.insert?_eq_some hinsert).1 row (Table.mem_of_find? hrow)
          ((Table.key_of_find? hrow).trans he)
      rw [Table.find?_insert? hinsert, if_neg hne, hrow]
    · rcases (Table.mem_insert? hinsert).mp hrow' with hrow' | rfl
      · exact .inl hrow'
      · exact .inr (.inl request.actionPending)
  · split at h
    · obtain ⟨-, rfl⟩ := Prod.mk.inj (Except.ok.inj h)
      exact .refl
    · exact absurd h (by simp)

theorem setAction_kept {actionId : UUID} {action : ScheduledAction} {f : Update ScheduledAction.id}
    (haction : s.scheduledActions.find? actionId = some action) (hpending : action.status = .pending)
    (hcost : ∀ row, (f row).socialCost = row.socialCost) :
    ActionsKept s (setAction s actionId f) := by
  intro id row hrow
  by_cases hid : id = actionId
  · subst hid
    obtain rfl := Option.some.inj (haction.symm.trans hrow)
    exact ⟨f action, Table.find?_updateWhere_self haction, hcost action, .inr hpending⟩
  · exact ⟨row, (Table.find?_updateWhere_of_ne hid).trans hrow, rfl, .inl rfl⟩

theorem cancelScheduledAction_frame {tenantId actionId : UUID} {now : Datetime} :
    ActionFrame s (cancelScheduledAction tenantId actionId now s).2 := by
  unfold cancelScheduledAction
  split
  · exact .refl
  rename_i action haction
  split
  · exact .refl
  rename_i hpending
  have hfound := (Option.filter_eq_some_iff.mp haction).1
  have hkept := setAction_kept (f := actionCanceled now) hfound (not_not.mp hpending) fun _ ↦ rfl
  have hback : ∀ row' ∈ (setAction s actionId (actionCanceled now)).scheduledActions,
      row' ∈ s.scheduledActions ∨ row'.status = .pending ∨ row'.status = .canceled := by
    intro row' hrow'
    obtain ⟨row, hrow, rfl⟩ := Table.mem_updateWhere.mp hrow'
    split
    · exact .inr (.inr rfl)
    · exact .inl hrow
  dsimp only
  split
  · exact ⟨rfl, hkept, hback⟩
  split
  · exact ⟨rfl, hkept, hback⟩
  · exact ⟨rfl, hkept, hback⟩

theorem step_actionFrame {call : TaskCall} (h : Undecided call) :
    ActionFrame s (step s call).2 := by
  cases call with
  | enqueue request => exact reply_state (P := ActionFrame s) .refl fun r s' h ↦ (enqueue_same h).frame
  | requestCancel tenantId jobId now => exact requestCancel_same.frame
  | replay tenantId sourceJobId request =>
    exact reply_state (P := ActionFrame s) .refl fun r s' h ↦ (replay_same h).frame
  | claimJob jobId workerId now attemptId locked =>
    exact reply_state (P := ActionFrame s) .refl fun r s' h ↦ (claimJob_same h).frame
  | renewJobLease jobId attemptId workerId now => exact renewJobLease_same.frame
  | completeJob jobId attemptId workerId result now => exact completeJob_same.frame
  | failJob jobId attemptId workerId errorCode errorSummary permanent timedOut retryAt retry now =>
    exact reply_state (P := ActionFrame s) .refl fun r s' h ↦ (failJob_same h).frame
  | claimOutbox workerId now leaseExpiresAt limit rank locked => exact .of_eq rfl rfl
  | markOutboxPublished eventId workerId now => exact .of_eq rfl rfl
  | markOutboxFailed eventId workerId errorCode retryAt now => exact .of_eq rfl rfl
  | recoverExpiredLeases now freshId lockedJobs lockedEvents =>
    exact reply_state (P := ActionFrame s) .refl fun r s' h ↦ (recoverExpiredLeases_same h).frame
  | createScheduledAction request =>
    exact reply_state (P := ActionFrame s) .refl fun r s' h ↦ createScheduledAction_frame request h
  | cancelScheduledAction tenantId actionId now => exact cancelScheduledAction_frame
  | decideScheduledAction _ _ _ _ _ _ => exact h.elim

end frame

end CyberNetizen.Tasks

namespace CyberNetizen.Tasks

open Domain Cognition Infrastructure KeyedTable SqlAlchemyTaskRepository

inductive ActionChange (s : TaskStore) : TaskCall → TaskStore → Prop
  | same {call s'} (h : s'.scheduledActions = s.scheduledActions) : ActionChange s call s'
  | created {request s'}
      (h : s.scheduledActions.insert? request.action = some s'.scheduledActions)
      (hjob : s'.jobs.find? request.job.id = some request.job) :
      ActionChange s (.createScheduledAction request) s'
  | canceled {tenantId actionId now row s'}
      (hrow : getScheduledAction tenantId actionId s = some row) (hpending : row.status = .pending)
      (h : s'.scheduledActions = (setAction s actionId (actionCanceled now)).scheduledActions) :
      ActionChange s (.cancelScheduledAction tenantId actionId now) s'
  | decided {tenantId actionId decision budgetUsage dailyBudget now row effective s'}
      (hrow : getScheduledAction tenantId actionId s = some row) (hpending : row.status = .pending)
      (h : s'.scheduledActions = (setAction s actionId (decided effective now)).scheduledActions) :
      ActionChange s
        (.decideScheduledAction tenantId actionId decision budgetUsage dailyBudget now) s'

def SameTerms (row row' : ScheduledAction) : Prop :=
  row' = { row with
    status := row'.status
    score := row'.score
    decisionReasons := row'.decisionReasons
    updatedAt := row'.updatedAt
    completedAt := row'.completedAt }

def Settles (row row' : ScheduledAction) : Prop :=
  row' = row ∨ row.status = .pending ∧ row'.status ≠ .pending ∧ SameTerms row row'

def ActionsGrow (s s' : TaskStore) : Prop :=
  ∀ actionId row, s.scheduledActions.find? actionId = some row →
    ∃ row', s'.scheduledActions.find? actionId = some row' ∧ Settles row row'

section grow

variable {s s' t : TaskStore} {row row' row'' : ScheduledAction} {actionId : UUID}

theorem Settles.eq_of_settled (h : Settles row row') (hrow : row.status ≠ .pending) : row' = row :=
  h.resolve_right fun h ↦ hrow h.1

theorem Settles.eq_of_pending (h : Settles row row') (hrow : row'.status = .pending) : row' = row :=
  h.resolve_right fun h ↦ h.2.1 hrow

theorem Settles.trans (h : Settles row row') (h' : Settles row' row'') : Settles row row'' := by
  rcases h with rfl | ⟨hpending, hsettled, hterms⟩
  · exact h'
  · obtain rfl := h'.eq_of_settled hsettled
    exact .inr ⟨hpending, hsettled, hterms⟩

theorem ActionsGrow.of_eq (h : s'.scheduledActions = s.scheduledActions) : ActionsGrow s s' :=
  fun _ row hrow ↦ ⟨row, by rw [h, hrow], .inl rfl⟩

theorem ActionsGrow.refl : ActionsGrow s s := .of_eq rfl

theorem ActionsGrow.trans (h : ActionsGrow s t) (h' : ActionsGrow t s') : ActionsGrow s s' := by
  intro actionId row hrow
  obtain ⟨row', hrow', hsettles⟩ := h actionId row hrow
  obtain ⟨row'', hrow'', hsettles'⟩ := h' actionId row' hrow'
  exact ⟨row'', hrow'', hsettles.trans hsettles'⟩

theorem ActionsGrow.settled (h : ActionsGrow s s')
    (hrow : s.scheduledActions.find? actionId = some row) (hsettled : row.status ≠ .pending) :
    s'.scheduledActions.find? actionId = some row := by
  obtain ⟨row', hrow', hsettles⟩ := h actionId row hrow
  rw [hrow', hsettles.eq_of_settled hsettled]

theorem ActionsGrow.setAction {f : Update ScheduledAction.id}
    (hrow : s.scheduledActions.find? actionId = some row) (hpending : row.status = .pending)
    (hsettled : (f row).status ≠ .pending) (hterms : SameTerms row (f row))
    (h : s'.scheduledActions = (SqlAlchemyTaskRepository.setAction s actionId f).scheduledActions) :
    ActionsGrow s s' := by
  intro id found hfound
  rw [h]
  by_cases hid : id = actionId
  · subst hid
    obtain rfl := Option.some.inj (hrow.symm.trans hfound)
    exact ⟨f row, Table.find?_updateWhere_self hrow, .inr ⟨hpending, hsettled, hterms⟩⟩
  · exact ⟨found, (Table.find?_updateWhere_of_ne hid).trans hfound, .inl rfl⟩

theorem decidedStatus_ne_pending (decision : ProactiveDecision) :
    decidedStatus decision ≠ .pending := by
  unfold decidedStatus
  split
  · exact nofun
  · split <;> exact nofun

theorem getScheduledAction_eq_some {tenantId : UUID} :
    getScheduledAction tenantId actionId s = some row ↔
      s.scheduledActions.find? actionId = some row ∧ row.tenantId = tenantId := by
  unfold getScheduledAction
  rw [Option.filter_eq_some_iff, decide_eq_true_eq]

theorem ActionChange.grows {call : TaskCall} (h : ActionChange s call s') : ActionsGrow s s' := by
  cases h with
  | same h => exact .of_eq h
  | created h =>
    intro id found hfound
    rw [Table.find?_insert? h, if_neg]
    · exact ⟨found, hfound, .inl rfl⟩
    · rintro rfl
      exact (Table.insert?_eq_some h).1 found (Table.mem_of_find? hfound)
        (Table.key_of_find? hfound)
  | @canceled _ _ now row _ hrow hpending h =>
    have hterms : SameTerms row (actionCanceled now row) := rfl
    have hsettled : (actionCanceled now row).status ≠ .pending := ScheduledActionStatus.noConfusion
    exact .setAction (getScheduledAction_eq_some.mp hrow).1 hpending hsettled hterms h
  | @decided _ _ _ _ _ now row effective _ hrow hpending h =>
    have hterms : SameTerms row (SqlAlchemyTaskRepository.decided effective now row) := rfl
    exact .setAction (getScheduledAction_eq_some.mp hrow).1 hpending
      (decidedStatus_ne_pending effective) hterms h

/-- A pending action was there before, or it is the one that the call creates with its job. -/
theorem ActionChange.pending {call : TaskCall} (h : ActionChange s call s')
    (hrow : row ∈ s'.scheduledActions) (hpending : row.status = .pending) :
    row ∈ s.scheduledActions ∨ ∃ request, call = .createScheduledAction request ∧
      row = request.action ∧ s'.jobs.find? request.job.id = some request.job := by
  cases h with
  | same h => exact .inl (h ▸ hrow)
  | created h hjob =>
    rcases (Table.mem_insert? h).mp hrow with hrow | rfl
    · exact .inl hrow
    · exact .inr ⟨_, rfl, rfl, hjob⟩
  | canceled _ _ h =>
    rw [h] at hrow
    obtain ⟨old, hold, rfl⟩ := Table.mem_updateWhere.mp hrow
    split at hpending
    · cases hpending
    · rw [if_neg (by assumption)]
      exact .inl hold
  | decided _ _ h =>
    rw [h] at hrow
    obtain ⟨old, hold, rfl⟩ := Table.mem_updateWhere.mp hrow
    split at hpending
    · exact absurd hpending (decidedStatus_ne_pending _)
    · rw [if_neg (by assumption)]
      exact .inl hold

end grow

section step

variable {s s' : TaskStore}

theorem chargeBudget_effective {decision effective : ProactiveDecision}
    {budgetUsage : Option SocialBudgetUsage} {dailyBudget : ℕ}
    (h : chargeBudget decision budgetUsage dailyBudget s = .ok (effective, s')) :
    effective = decision ∨ effective = budgetExhausted decision.score := by
  unfold chargeBudget at h
  split at h
  · exact .inl (Prod.mk.inj (Except.ok.inj h)).1.symm
  · dsimp only at h
    split at h
    · exact .inr (Prod.mk.inj (Except.ok.inj h)).1.symm
    split at h
    · split at h
      · cases h
      · exact .inl (Prod.mk.inj (Except.ok.inj h)).1.symm
    · exact .inl (Prod.mk.inj (Except.ok.inj h)).1.symm

/-- A decision finds no action, or one that is settled, or it settles a pending one. -/
theorem decideScheduledAction_cases {tenantId actionId : UUID} {decision : ProactiveDecision}
    {budgetUsage : Option SocialBudgetUsage} {dailyBudget : ℕ} {now : Datetime}
    {r : Option ScheduledAction}
    (h : decideScheduledAction tenantId actionId decision budgetUsage dailyBudget now s =
      .ok (r, s')) :
    s' = s ∧ r = none ∨
    (∃ row, getScheduledAction tenantId actionId s = some row ∧ row.status ≠ .pending ∧
      s' = s ∧ r = some row) ∨
    ∃ row effective, getScheduledAction tenantId actionId s = some row ∧ row.status = .pending ∧
      (effective = decision ∨ effective = budgetExhausted decision.score) ∧
      s'.scheduledActions = (setAction s actionId (decided effective now)).scheduledActions ∧
      r = some (decided effective now row) := by
  unfold decideScheduledAction at h
  split at h
  · obtain ⟨rfl, rfl⟩ := Prod.mk.inj (Except.ok.inj h)
    exact .inl ⟨rfl, rfl⟩
  rename_i row hrow
  split at h
  · rename_i hsettled
    obtain ⟨rfl, rfl⟩ := Prod.mk.inj (Except.ok.inj h)
    exact .inr (.inl ⟨row, hrow, hsettled, rfl, rfl⟩)
  rename_i hpending
  split at h
  · cases h
  · rename_i effective t hcharge
    obtain ⟨rfl, rfl⟩ := Prod.mk.inj (Except.ok.inj h)
    have hactions := (chargeBudget_quiet hcharge).2
    refine .inr (.inr ⟨row, effective, hrow, not_not.mp hpending, chargeBudget_effective hcharge,
      ?_, rfl⟩)
    unfold setAction
    rw [hactions]

theorem createScheduledAction_change (request : ScheduleRequest) {r : ScheduledAction × Bool}
    (h : createScheduledAction request.action request.job request.outbox s = .ok (r, s')) :
    ActionChange s (.createScheduledAction request) s' := by
  unfold createScheduledAction at h
  split at h
  · cases h
  split at h
  · rename_i t hinserted
    obtain ⟨-, rfl⟩ := Prod.mk.inj (Except.ok.inj h)
    obtain ⟨s₁, s₂, hjob, houtbox, haction⟩ := flush_scheduled hinserted
    obtain ⟨-, -, jobs, hjobs, rfl⟩ := TaskStore.insertJob_eq_some hjob
    obtain ⟨outboxEvents, -, rfl⟩ := TaskStore.insertOutbox_eq_some houtbox
    obtain ⟨-, scheduledActions, hactions, rfl⟩ := TaskStore.insertAction_eq_some haction
    refine .created hactions ?_
    exact (Table.find?_insert? hjobs request.job.id).trans (if_pos rfl)
  · split at h
    · obtain ⟨-, rfl⟩ := Prod.mk.inj (Except.ok.inj h)
      exact .same rfl
    · cases h

theorem cancelScheduledAction_actions {tenantId actionId : UUID} {row : ScheduledAction}
    (hrow : getScheduledAction tenantId actionId s = some row) (hpending : row.status = .pending)
    (now : Datetime) :
    (cancelScheduledAction tenantId actionId now s).2.scheduledActions =
      (setAction s actionId (actionCanceled now)).scheduledActions := by
  unfold cancelScheduledAction
  rw [hrow]
  dsimp only
  rw [if_neg (not_not.mpr hpending)]
  split
  · rfl
  · split <;> rfl

theorem cancelScheduledAction_change {tenantId actionId : UUID} {now : Datetime} :
    ActionChange s (.cancelScheduledAction tenantId actionId now)
      (cancelScheduledAction tenantId actionId now s).2 := by
  cases hrow : getScheduledAction tenantId actionId s with
  | none =>
    unfold cancelScheduledAction
    rw [hrow]
    exact .same rfl
  | some row =>
    by_cases hpending : row.status = .pending
    · exact .canceled hrow hpending (cancelScheduledAction_actions hrow hpending now)
    · unfold cancelScheduledAction
      rw [hrow]
      dsimp only
      rw [if_pos hpending]
      exact .same rfl

theorem step_actionChange (s : TaskStore) (call : TaskCall) :
    ActionChange s call (step s call).2 := by
  have hsame : ∀ {s'}, SameTables s s' → ActionChange s call s' := fun h ↦ .same h.1
  have hrefl : ActionChange s call s := .same rfl
  cases call with
  | enqueue request =>
    exact reply_state (P := ActionChange s _) hrefl fun r s' h ↦ hsame (enqueue_same h)
  | requestCancel tenantId jobId now => exact hsame requestCancel_same
  | replay tenantId sourceJobId request =>
    exact reply_state (P := ActionChange s _) hrefl fun r s' h ↦ hsame (replay_same h)
  | claimJob jobId workerId now attemptId locked =>
    exact reply_state (P := ActionChange s _) hrefl fun r s' h ↦ hsame (claimJob_same h)
  | renewJobLease jobId attemptId workerId now => exact hsame renewJobLease_same
  | completeJob jobId attemptId workerId result now => exact hsame completeJob_same
  | failJob jobId attemptId workerId errorCode errorSummary permanent timedOut retryAt retry now =>
    exact reply_state (P := ActionChange s _) hrefl fun r s' h ↦ hsame (failJob_same h)
  | claimOutbox workerId now leaseExpiresAt limit rank locked => exact .same rfl
  | markOutboxPublished eventId workerId now => exact .same rfl
  | markOutboxFailed eventId workerId errorCode retryAt now => exact .same rfl
  | recoverExpiredLeases now freshId lockedJobs lockedEvents =>
    exact reply_state (P := ActionChange s _) hrefl fun r s' h ↦
      hsame (recoverExpiredLeases_same h)
  | createScheduledAction request =>
    exact reply_state (P := ActionChange s _) hrefl fun r s' h ↦
      createScheduledAction_change request h
  | cancelScheduledAction tenantId actionId now => exact cancelScheduledAction_change
  | decideScheduledAction tenantId actionId decision budgetUsage dailyBudget now =>
    refine reply_state (P := ActionChange s _) hrefl fun r s' h ↦ ?_
    rcases decideScheduledAction_cases h with
      ⟨rfl, -⟩ | ⟨row, -, -, rfl, -⟩ | ⟨row, effective, hrow, hpending, -, hactions, -⟩
    · exact hrefl
    · exact hrefl
    · exact .decided hrow hpending hactions

end step

end CyberNetizen.Tasks
