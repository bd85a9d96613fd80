import CyberNetizen.Application.ScheduledActionService
import CyberNetizen.Tasks.ActionChanges

namespace CyberNetizen.Tasks

open Domain Cognition Infrastructure Application KeyedTable SqlAlchemyTaskRepository

structure BudgetState where
  store : TaskStore
  evaluations : List ScheduledActionService.Evaluation

inductive BudgetEvent
  | call (call : TaskCall) (h : Undecided call)
  | begin (tenantId actionId : UUID) (policy : ProactivePolicy) (context : ProactiveContext)
      (budgetDate : Date)
  | evaluate (i : ℕ) (clock : Datetime) (usageId : UUID)

/-- Evaluations under one daily budget, interleaved with the other calls. An evaluation that takes
no further step has crashed. -/
def budgetStep (dailyBudget : ℕ) (s : BudgetState) : BudgetEvent → Unit × BudgetState
  | .call call _ => ((), { s with store := (step s.store call).2 })
  | .begin tenantId actionId policy context budgetDate =>
    ((), { s with
      evaluations := s.evaluations ++ [⟨tenantId, actionId, { policy with dailyBudget }, context,
        budgetDate, .getScheduledAction⟩] })
  | .evaluate i clock usageId =>
    match s.evaluations[i]? with
    | none => ((), s)
    | some evaluation =>
      let (evaluation, store) := ScheduledActionService.evaluate evaluation clock usageId s.store
      ((), ⟨store, s.evaluations.set i evaluation⟩)

/-- What the usage table says about the actions. -/
structure Spent (dailyBudget : ℕ) (s : TaskStore) : Prop where
  total : ∀ tenantId agentId userId budgetDate,
    socialBudgetUsed tenantId agentId userId budgetDate s ≤ dailyBudget
  dispatched : ∀ usage ∈ s.budgetUsages, ∃ action,
    s.scheduledActions.find? usage.scheduledActionId = some action ∧ action.status = .dispatched
  charged : ∀ action ∈ s.scheduledActions, action.status = .dispatched → 0 < action.socialCost →
    ∃ usage ∈ s.budgetUsages, usage.scheduledActionId = action.id
  once : ∀ a ∈ s.budgetUsages, ∀ b ∈ s.budgetUsages,
    a.scheduledActionId = b.scheduledActionId → a = b

/-- A decision about to be written: an approved action that costs something brings its usage. -/
structure Offer (actionId : UUID) (decision : ProactiveDecision)
    (budgetUsage : Option SocialBudgetUsage) (s : TaskStore) : Prop where
  free : ∃ row, s.scheduledActions.find? actionId = some row ∧
    (budgetUsage = none → decision.approved = true → row.socialCost = 0)
  usage : ∀ usage ∈ budgetUsage, decision.approved = true ∧
    "action_expired" ∉ decision.reasons ∧ usage.scheduledActionId = actionId

def Ready (evaluation : ScheduledActionService.Evaluation) (s : TaskStore) : Prop :=
  match evaluation.phase with
  | .socialBudgetUsed action _ => action.id = evaluation.actionId ∧
    ∃ row, s.scheduledActions.find? evaluation.actionId = some row ∧
      row.socialCost = action.socialCost
  | .decideScheduledAction decision budgetUsage _ =>
    Offer evaluation.actionId decision budgetUsage s
  | .getScheduledAction | .returned => True

section decide

variable {s s' t : TaskStore} {dailyBudget : ℕ} {actionId : UUID} {row : ScheduledAction}

theorem Spent.frame (hs : Spent dailyBudget s) (h : ActionFrame s s') : Spent dailyBudget s' where
  total tenantId agentId userId budgetDate := by
    have htotal := hs.total tenantId agentId userId budgetDate
    unfold socialBudgetUsed usagesOf at htotal ⊢
    rwa [h.usages]
  dispatched usage hu := by
    rw [h.usages] at hu
    obtain ⟨action, haction, hstatus⟩ := hs.dispatched usage hu
    obtain ⟨action', haction', -, rfl | hpending⟩ := h.kept _ action haction
    · exact ⟨action', haction', hstatus⟩
    · exact absurd (hstatus.symm.trans hpending) (by decide)
  charged action' ha hstatus hcost := by
    rcases h.back action' ha with hmem | hpending | hcanceled
    · obtain ⟨usage, hu, hid⟩ := hs.charged action' hmem hstatus hcost
      exact ⟨usage, h.usages ▸ hu, hid⟩
    · exact absurd (hstatus.symm.trans hpending) (by decide)
    · exact absurd (hstatus.symm.trans hcanceled) (by decide)
  once := by rw [h.usages]; exact hs.once

theorem Spent.ne_of_pending (hs : Spent dailyBudget s)
    (hrow : s.scheduledActions.find? actionId = some row) (hpending : row.status = .pending)
    {usage : SocialBudgetUsage} (hu : usage ∈ s.budgetUsages) :
    usage.scheduledActionId ≠ actionId := by
  rintro rfl
  obtain ⟨action, haction, hstatus⟩ := hs.dispatched usage hu
  obtain rfl := Option.some.inj (hrow.symm.trans haction)
  exact absurd (hstatus.symm.trans hpending) (by decide)

/-- Writing the decision on a pending action, after the budget check has left the tables `t`. -/
theorem Spent.decided (hs : Spent dailyBudget s)
    (hrow : s.scheduledActions.find? actionId = some row) (hpending : row.status = .pending)
    (hactions : t.scheduledActions = s.scheduledActions) {effective : ProactiveDecision}
    {now : Datetime}
    (htotal : ∀ tenantId agentId userId budgetDate,
      socialBudgetUsed tenantId agentId userId budgetDate t ≤ dailyBudget)
    (hnew : ∀ usage ∈ t.budgetUsages, usage ∈ s.budgetUsages ∨
      usage.scheduledActionId = actionId ∧ decidedStatus effective = .dispatched)
    (hold : ∀ usage ∈ s.budgetUsages, usage ∈ t.budgetUsages)
    (hcharged : decidedStatus effective = .dispatched → 0 < row.socialCost →
      ∃ usage ∈ t.budgetUsages, usage.scheduledActionId = actionId)
    (honce : ∀ a ∈ t.budgetUsages, ∀ b ∈ t.budgetUsages,
      a.scheduledActionId = b.scheduledActionId → a = b) :
    Spent dailyBudget (setAction t actionId (SqlAlchemyTaskRepository.decided effective now)) where
  total := htotal
  dispatched usage hu := by
    have hrow' : t.scheduledActions.find? actionId = some row := hactions ▸ hrow
    rcases hnew usage hu with hmem | ⟨rfl, hstatus⟩
    · obtain ⟨action, haction, hstatus⟩ := hs.dispatched usage hmem
      refine ⟨action, ?_, hstatus⟩
      rw [setAction, Table.find?_updateWhere_of_ne (hs.ne_of_pending hrow hpending hmem), hactions]
      exact haction
    · exact ⟨_, Table.find?_updateWhere_self hrow', hstatus⟩
  charged action ha hstatus hcost := by
    obtain ⟨old, hmem, rfl⟩ := Table.mem_updateWhere.mp ha
    rw [hactions] at hmem
    split at hstatus
    · rename_i hid
      have hid : old.id = actionId := by simpa using hid
      obtain rfl : old = row :=
        Option.some.inj ((Table.find?_eq_some.mpr ⟨hmem, hid⟩).symm.trans hrow)
      rw [if_pos (by simpa using hid)] at hcost ⊢
      obtain ⟨usage, hu, he⟩ := hcharged hstatus hcost
      exact ⟨usage, hu, he.trans hid.symm⟩
    · rename_i hid
      rw [if_neg hid] at hcost ⊢
      obtain ⟨usage, hu, he⟩ := hs.charged old hmem hstatus hcost
      exact ⟨usage, hold usage hu, he⟩
  once := honce

theorem decidedStatus_dispatched {decision : ProactiveDecision}
    (h : decidedStatus decision = .dispatched) : decision.approved = true := by
  unfold decidedStatus at h
  split at h
  · exact absurd h (by decide)
  · split at h
    · assumption
    · exact absurd h (by decide)

theorem usages_insert {usage : SocialBudgetUsage} (h : s.insertUsage usage = some t)
    (tenantId agentId userId : UUID) (budgetDate : Date) :
    socialBudgetUsed tenantId agentId userId budgetDate t =
      socialBudgetUsed tenantId agentId userId budgetDate s +
        if usage.tenantId = tenantId ∧ usage.agentId = agentId ∧ usage.userId = userId ∧
          usage.budgetDate = budgetDate then usage.cost else 0 := by
  obtain ⟨-, budgetUsages, hinsert, rfl⟩ := TaskStore.insertUsage_eq_some h
  unfold socialBudgetUsed usagesOf
  rw [(Table.insert?_eq_some hinsert).2, List.filter_append, List.map_append, List.sum_append]
  congr 1
  by_cases hkey : usage.tenantId = tenantId ∧ usage.agentId = agentId ∧ usage.userId = userId ∧
      usage.budgetDate = budgetDate
  · rw [if_pos hkey]
    simp [hkey]
  · rw [if_neg hkey, List.filter_eq_nil_iff.mpr fun u hu ↦ ?_]
    · rfl
    · rw [List.mem_singleton.mp hu]
      simpa [and_assoc] using hkey

/-- A decision keeps the budget: it is checked again when the usage is recorded. -/
theorem decide_spent {tenantId : UUID} {decision : ProactiveDecision}
    {budgetUsage : Option SocialBudgetUsage} {now : Datetime} {r : Option ScheduledAction}
    (hs : Spent dailyBudget s) (ho : Offer actionId decision budgetUsage s)
    (h : decideScheduledAction tenantId actionId decision budgetUsage dailyBudget now s =
      .ok (r, s')) :
    Spent dailyBudget s' ∧ ActionsKept s s' := by
  have hsame : Spent dailyBudget s ∧ ActionsKept s s := ⟨hs, .of_eq rfl⟩
  unfold decideScheduledAction at h
  split at h
  · obtain ⟨-, rfl⟩ := Prod.mk.inj (Except.ok.inj h)
    exact hsame
  rename_i row haction
  split at h
  · obtain ⟨-, rfl⟩ := Prod.mk.inj (Except.ok.inj h)
    exact hsame
  rename_i hpending
  have hpending := not_not.mp hpending
  have hrow := (Option.filter_eq_some_iff.mp haction).1
  split at h
  · exact absurd h (by simp)
  rename_i effective t hcharge
  obtain ⟨-, rfl⟩ := Prod.mk.inj (Except.ok.inj h)
  have hactions := (chargeBudget_quiet hcharge).2
  refine ⟨?_, fun id old hold ↦ ?_⟩
  · -- the budget check refuses the usage, records it, or has none to record
    have hkeep : t = s → (decidedStatus effective = .dispatched → row.socialCost = 0) →
        Spent dailyBudget (setAction t actionId (decided effective now)) := by
      rintro rfl hfree
      exact hs.decided hrow hpending rfl hs.total (fun _ hu ↦ .inl hu) (fun _ hu ↦ hu)
        (fun hstatus hcost ↦ absurd (hfree hstatus) hcost.ne') hs.once
    unfold chargeBudget at hcharge
    cases budgetUsage with
    | none =>
      obtain ⟨rfl, rfl⟩ := Prod.mk.inj (Except.ok.inj hcharge)
      obtain ⟨row', hrow', hfree⟩ := ho.free
      obtain rfl := Option.some.inj (hrow.symm.trans hrow')
      exact hkeep rfl fun hstatus ↦ hfree rfl (decidedStatus_dispatched hstatus)
    | some usage =>
      obtain ⟨happroved, hexpired, hid⟩ := ho.usage usage rfl
      dsimp only at hcharge
      split at hcharge
      · obtain ⟨rfl, rfl⟩ := Prod.mk.inj (Except.ok.inj hcharge)
        exact hkeep rfl fun hstatus ↦ absurd (decidedStatus_dispatched hstatus) Bool.false_ne_true
      rename_i hroom
      split at hcharge
      · split at hcharge
        · exact absurd hcharge (by simp)
        rename_i u hinsert
        obtain ⟨rfl, rfl⟩ := Prod.mk.inj (Except.ok.inj hcharge)
        have hstatus : decidedStatus decision = .dispatched := by
          rw [decidedStatus, if_neg hexpired, if_pos happroved]
        have htotal := usages_insert hinsert
        obtain ⟨habsent, budgetUsages, husages, rfl⟩ := TaskStore.insertUsage_eq_some hinsert
        have hmem := fun x ↦ Table.mem_insert? (x := x) husages
        refine hs.decided (t := { s with budgetUsages }) hrow hpending rfl
          (fun tenantId agentId userId budgetDate ↦ ?_) (fun x hx ↦ ?_)
          (fun x hx ↦ (hmem x).mpr (.inl hx))
          (fun _ _ ↦ ⟨usage, (hmem usage).mpr (.inr rfl), hid⟩) fun a ha b hb he ↦ ?_
        · rw [htotal]
          split
          · rename_i hkey
            obtain ⟨rfl, rfl, rfl, rfl⟩ := hkey
            exact not_lt.mp hroom
          · exact hs.total ..
        · rcases (hmem x).mp hx with hx | rfl
          · exact .inl hx
          · exact .inr ⟨hid, hstatus⟩
        · rcases (hmem a).mp ha with ha | rfl <;> rcases (hmem b).mp hb with hb | rfl
          · exact hs.once a ha b hb he
          · exact absurd he (habsent a ha)
          · exact absurd he.symm (habsent b hb)
          · rfl
      · -- a usage of a pending action cannot be there already
        rename_i hpresent
        simp only [List.all_eq_true, decide_eq_true_eq, not_forall, not_not] at hpresent
        obtain ⟨x, hx, he⟩ := hpresent
        exact absurd (he.trans hid)
          (hs.ne_of_pending hrow hpending (List.mem_filter.mp hx).1)
  · have hrow' : t.scheduledActions.find? actionId = some row := hactions ▸ hrow
    exact setAction_kept hrow' hpending (fun _ ↦ rfl) id old (hactions ▸ hold)

end decide

section run

variable {s s' : TaskStore} {dailyBudget : ℕ}

theorem Ready.kept {evaluation : ScheduledActionService.Evaluation} (h : Ready evaluation s)
    (hkept : ActionsKept s s') : Ready evaluation s' := by
  unfold Ready at h ⊢
  split at h
  · obtain ⟨hid, row, hrow, hcost⟩ := h
    obtain ⟨row', hrow', hcost', -⟩ := hkept _ row hrow
    exact ⟨hid, row', hrow', hcost'.trans hcost⟩
  · obtain ⟨row, hrow, hfree⟩ := h.free
    obtain ⟨row', hrow', hcost', -⟩ := hkept _ row hrow
    exact ⟨⟨row', hrow', fun hnone happroved ↦ hcost'.trans (hfree hnone happroved)⟩, h.usage⟩
  · trivial
  · trivial

/-- The invariant of the whole system. -/
structure BudgetKept (dailyBudget : ℕ) (s : BudgetState) : Prop where
  spent : Spent dailyBudget s.store
  ready : ∀ evaluation ∈ s.evaluations,
    evaluation.policy.dailyBudget = dailyBudget ∧ Ready evaluation s.store

theorem evaluate_kept {evaluation : ScheduledActionService.Evaluation} (clock : Datetime)
    (usageId : UUID) (hs : Spent dailyBudget s)
    (hbudget : evaluation.policy.dailyBudget = dailyBudget) (hready : Ready evaluation s) :
    let after := ScheduledActionService.evaluate evaluation clock usageId s
    Spent dailyBudget after.2 ∧ ActionsKept s after.2 ∧
      after.1.policy.dailyBudget = dailyBudget ∧ Ready after.1 after.2 := by
  have hsame : ActionsKept s s := .of_eq rfl
  unfold ScheduledActionService.evaluate
  unfold Ready at hready
  dsimp only
  split
  · split
    · exact ⟨hs, hsame, hbudget, trivial⟩
    rename_i action haction
    have hfound := (Option.filter_eq_some_iff.mp haction).1
    split
    · exact ⟨hs, hsame, hbudget, trivial⟩
    split
    · exact ⟨hs, hsame, hbudget, ⟨action, hfound, fun _ happroved ↦ absurd happroved
        Bool.false_ne_true⟩, by simp⟩
    · exact ⟨hs, hsame, hbudget, Table.key_of_find? hfound, action, hfound, rfl⟩
  · rename_i action now hphase
    rw [hphase] at hready
    obtain ⟨hid, row, hrow, hcost⟩ := hready
    split
    · exact ⟨hs, hsame, hbudget, trivial⟩
    rename_i decision hdecision
    refine ⟨hs, hsame, hbudget, ⟨row, hrow, fun hnone happroved ↦ ?_⟩, fun usage husage ↦ ?_⟩
    · by_contra hne
      rw [ScheduledActionService.usageOf, if_pos ⟨happroved, hcost ▸ hne⟩] at hnone
      exact absurd hnone (by simp)
    · rw [ScheduledActionService.usageOf] at husage
      split at husage
      · rename_i hcharged
        obtain rfl := Option.some.inj husage
        exact ⟨hcharged.1, ProactivePolicyEvaluator.evaluate_not_expired hdecision, hid⟩
      · exact absurd husage (by simp)
  · rename_i decision budgetUsage now hphase
    rw [hphase] at hready
    rw [hbudget]
    obtain ⟨hspent, hkept⟩ := reply_state (P := fun s' ↦ Spent dailyBudget s' ∧ ActionsKept s s')
      (f := TaskReply.action) ⟨hs, hsame⟩ fun r s' h ↦ decide_spent hs hready h
    exact ⟨hspent, hkept, rfl, trivial⟩
  · exact ⟨hs, hsame, hbudget, hready⟩

theorem budgetStep_kept {s : BudgetState} (event : BudgetEvent) (h : BudgetKept dailyBudget s) :
    BudgetKept dailyBudget (budgetStep dailyBudget s event).2 := by
  obtain ⟨hspent, hready⟩ := h
  cases event with
  | call call hcall =>
    have hframe := step_actionFrame (s := s.store) hcall
    exact ⟨hspent.frame hframe, fun evaluation he ↦
      ⟨(hready evaluation he).1, (hready evaluation he).2.kept hframe.kept⟩⟩
  | begin tenantId actionId policy context budgetDate =>
    refine ⟨hspent, fun evaluation he ↦ ?_⟩
    rcases List.mem_append.mp he with he | he
    · exact hready evaluation he
    · obtain rfl := List.mem_singleton.mp he
      exact ⟨rfl, trivial⟩
  | evaluate i clock usageId =>
    unfold budgetStep
    dsimp only
    split
    · exact ⟨hspent, hready⟩
    · rename_i evaluation hi
      obtain ⟨hbudget, hr⟩ := hready evaluation (List.mem_of_getElem? hi)
      obtain ⟨hspent', hkept, hbudget', hr'⟩ := evaluate_kept clock usageId hspent hbudget hr
      refine ⟨hspent', fun other ho ↦ ?_⟩
      rcases List.mem_or_eq_of_mem_set ho with ho | rfl
      · exact ⟨(hready other ho).1, (hready other ho).2.kept hkept⟩
      · exact ⟨hbudget', hr'⟩

theorem empty_kept : BudgetKept dailyBudget ⟨.empty, []⟩ where
  spent :=
    { total := fun _ _ _ _ ↦ Nat.zero_le _
      dispatched := fun _ h ↦ absurd h (by simp [TaskStore.empty])
      charged := fun _ h ↦ absurd h (by simp [TaskStore.empty])
      once := fun _ h ↦ absurd h (by simp [TaskStore.empty]) }
  ready _ h := absurd h (by simp)

variable (dailyBudget) in
theorem run_spent (events : List BudgetEvent) :
    Spent dailyBudget (Machine.run (budgetStep dailyBudget) ⟨.empty, []⟩ events).store :=
  (Machine.run_invariant_all (I := BudgetKept dailyBudget) (fun _ event h ↦ budgetStep_kept event h)
    empty_kept events).spent

/-- The daily social budget is never overspent, and each dispatched action pays exactly once. -/
theorem budget_never_overspent (dailyBudget : ℕ) (events : List BudgetEvent) :
    let s := (Machine.run (budgetStep dailyBudget) ⟨.empty, []⟩ events).store
    (∀ tenantId agentId userId budgetDate,
      socialBudgetUsed tenantId agentId userId budgetDate s ≤ dailyBudget) ∧
    (∀ action ∈ s.scheduledActions, action.status = .dispatched → 0 < action.socialCost →
      ∃! usage, usage ∈ s.budgetUsages ∧ usage.scheduledActionId = action.id) ∧
    ∀ action ∈ s.scheduledActions,
      action.status = .suppressed ∨ action.status = .expired ∨ action.status = .canceled →
      ∀ usage ∈ s.budgetUsages, usage.scheduledActionId ≠ action.id := by
  have hs := run_spent dailyBudget events
  refine ⟨hs.total, fun action ha hstatus hcost ↦ ?_, fun action ha hended usage hu he ↦ ?_⟩
  · obtain ⟨usage, hu, hid⟩ := hs.charged action ha hstatus hcost
    exact ⟨usage, ⟨hu, hid⟩, fun other ho ↦ hs.once other ho.1 usage hu (ho.2.trans hid.symm)⟩
  · obtain ⟨action', haction', hstatus⟩ := hs.dispatched usage hu
    obtain ⟨ha', hid⟩ := Table.find?_eq_some.mp haction'
    obtain rfl := Table.eq_of_key_eq ha ha' (he.symm.trans hid.symm)
    rw [hstatus] at hended
    exact absurd hended (by simp)

/-- Two evaluations that both read an unused budget of 5 and both approve a message of cost 3:
the second check suppresses one of them. -/
example :
    let policy : ProactivePolicy := ⟨true, 0, 5, 0, 0, 30⟩
    let context : ProactiveContext := ⟨12, 0, 1, 1, 1, 1, 1, 0, 0, false⟩
    let s := (Machine.run (budgetStep 5) ⟨.empty, []⟩
      [.call (.createScheduledAction (messageRequest 20 21 22 3)) trivial,
        .call (.createScheduledAction (messageRequest 30 31 32 3)) trivial,
        .begin 0 20 policy context 1, .begin 0 30 policy context 1,
        .evaluate 0 40 0, .evaluate 1 40 0, .evaluate 0 41 50, .evaluate 1 41 51,
        .evaluate 0 42 0, .evaluate 1 42 0]).store
    s.scheduledActions.rows.map ScheduledAction.status = [.dispatched, .suppressed] ∧
      socialBudgetUsed 0 4 5 1 s = 3 := by
  decide +kernel

end run

end CyberNetizen.Tasks
