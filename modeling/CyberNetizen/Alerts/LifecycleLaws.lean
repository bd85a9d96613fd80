import CyberNetizen.Alerts.LifecycleMoves
import CyberNetizen.Application.AlertPolicy
import CyberNetizen.Lib.Machine

/-! # Runs of the alert lifecycle stores -/

namespace CyberNetizen.Alerts

open Domain Application Infrastructure

section laws

variable {σ κ : Type} {sourceKey : σ → κ}

/-- `r'` is what any number of transactions have made of `r`. -/
structure Later (r r' : AlertLifecycle σ) : Prop where
  id : r'.id = r.id
  tenantId : r'.tenantId = r.tenantId
  agentId : r'.agentId = r.agentId
  source : r'.source = r.source
  resolved : r.status = .resolved → r' = r
  occurrences : r.occurrences ≤ r'.occurrences
  level : r.escalationLevel ≤ r'.escalationLevel

theorem Later.refl (r : AlertLifecycle σ) : Later r r :=
  ⟨rfl, rfl, rfl, rfl, fun _ ↦ rfl, Nat.le_refl _, Nat.le_refl _⟩

theorem Later.trans {r s t : AlertLifecycle σ} (h : Later r s) (h' : Later s t) : Later r t where
  id := h'.id.trans h.id
  tenantId := h'.tenantId.trans h.tenantId
  agentId := h'.agentId.trans h.agentId
  source := h'.source.trans h.source
  resolved := by
    intro hr
    obtain rfl := h.resolved hr
    exact h'.resolved hr
  occurrences := h.occurrences.trans h'.occurrences
  level := h.level.trans h'.level

theorem Kept.later {r r' : AlertLifecycle σ} (h : Kept r r') : Later r r' where
  id := h.id
  tenantId := h.tenantId
  agentId := h.agentId
  source := h.source
  resolved := h.resolved
  occurrences := h.occurrences
  level := by
    rcases h.level with h | h
    · rw [h]
    · omega

variable {W A : Type} (step : W → A → Option (UUID × UUID × List κ) × W)
  (table : W → Lifecycles sourceKey) (start : W)

/-- What holds along a run of a store. A reconciliation that ends well shows its tenant, its Agent and
the keys of its alerts. -/
structure LifecycleLaws (as : List A) : Prop where
  /-- At most one lifecycle of an alert is active. -/
  single : ∀ r ∈ (table (Machine.run step start as)).rows,
    ∀ s ∈ (table (Machine.run step start as)).rows,
    lifecycleIndex sourceKey r = lifecycleIndex sourceKey s → r.status = .active →
    s.status = .active → r = s
  /-- After a reconciliation exactly its alerts are active. -/
  reconciled : ∀ bs a cs, as = bs ++ a :: cs → ∀ tenantId agentId keys,
    (step (Machine.run step start bs) a).1 = some (tenantId, agentId, keys) → ∀ k,
    (∃ r ∈ (table (step (Machine.run step start bs) a).2).rows,
      lifecycleIndex sourceKey r = (tenantId, agentId, k) ∧ r.status = .active) ↔ k ∈ keys
  /-- A resolved lifecycle stays as it is, and the occurrences and the level of others never fall. -/
  later : ∀ bs cs, as = bs ++ cs → ∀ r ∈ (table (Machine.run step start bs)).rows,
    ∃ r' ∈ (table (Machine.run step start as)).rows, Later r r'
  /-- A level changes by one, up to three. -/
  escalated : ∀ bs a cs, as = bs ++ a :: cs → ∀ r ∈ (table (Machine.run step start bs)).rows,
    ∃ r' ∈ (table (step (Machine.run step start bs) a).2).rows, r'.id = r.id ∧
      (r'.escalationLevel = r.escalationLevel ∨
        r'.escalationLevel = r.escalationLevel + 1 ∧ r'.escalationLevel ≤ 3)
  /-- A new lifecycle begins at level zero. -/
  begins : ∀ bs a cs, as = bs ++ a :: cs →
    ∀ r' ∈ (table (step (Machine.run step start bs) a).2).rows,
    (∃ r ∈ (table (Machine.run step start bs)).rows, r.id = r'.id) ∨ r'.escalationLevel = 0

/-- What each step from an invariant state obeys, a run obeys. -/
theorem laws_of_steps {I : W → Prop} (hstart : I start) (hinv : ∀ w a, I w → I (step w a).2)
    (hmoves : ∀ w a, I w → Moves (table w).rows (table (step w a).2).rows)
    (hreport : ∀ w a tenantId agentId keys, (step w a).1 = some (tenantId, agentId, keys) → ∀ k,
      (∃ r ∈ (table (step w a).2).rows, lifecycleIndex sourceKey r = (tenantId, agentId, k) ∧
        r.status = .active) ↔ k ∈ keys)
    (as : List A) : LifecycleLaws step table start as := by
  have hreached : ∀ bs, I (Machine.run step start bs) :=
    fun bs ↦ Machine.run_invariant_all hinv hstart bs
  refine ⟨?_, ?_, ?_, ?_, ?_⟩
  · exact fun r hr s hs hindex hactive hactive' ↦ eq_of_index hr hs hactive hactive' hindex
  · exact fun bs a cs _ tenantId agentId keys h ↦ hreport _ a tenantId agentId keys h
  · rintro bs cs rfl
    rw [Machine.run_append]
    refine Machine.run_relates (I := I) (P := fun _ _ ↦ True)
      (R := fun w w' ↦ ∀ r ∈ (table w).rows, ∃ r' ∈ (table w').rows, Later r r')
      (fun w a hw _ ↦ hinv w a hw) (fun w r hr ↦ ⟨r, hr, .refl r⟩) ?_ ?_ (hreached bs)
      Machine.along_true
    · intro w w' w'' h h' r hr
      obtain ⟨s, hs, hrs⟩ := h r hr
      obtain ⟨t, ht, hst⟩ := h' s hs
      exact ⟨t, ht, hrs.trans hst⟩
    · intro w a hw _ r hr
      obtain ⟨r', hr', hkept⟩ := (hmoves w a hw).kept hr
      exact ⟨r', hr', hkept.later⟩
  · intro bs a cs _ r hr
    obtain ⟨r', hr', hkept⟩ := (hmoves _ a (hreached bs)).kept hr
    have hle : r'.escalationLevel ≤ 3 := ((table _).checks r' hr').level
    exact ⟨r', hr', hkept.id, hkept.level.imp_right fun h ↦ ⟨h, hle⟩⟩
  · intro bs a cs _ r' hr'
    refine ((hmoves _ a (hreached bs)).begins hr').imp_left ?_
    rintro ⟨r, hr, hkept⟩
    exact ⟨r, hr, hkept.id.symm⟩

end laws

section mark

variable {σ κ : Type} [DecidableEq κ] {sourceKey : σ → κ} {t t' : Lifecycles sourceKey}
  {select : AlertLifecycle σ → Bool} {escalationLevel : ℕ} {escalatedAt : Datetime}
  {marked : List (AlertLifecycle σ)}

theorem mark_rows (h : markEscalated select escalationLevel escalatedAt t = .ok (marked, t')) :
    t'.rows = t.rows.map fun r ↦
      if select r then escalateLifecycle escalationLevel escalatedAt r else r := by
  unfold markEscalated at h
  cases hflush : Lifecycles.flush sourceKey (t.rows.map fun r ↦
      if select r then escalateLifecycle escalationLevel escalatedAt r else r) with
  | error error =>
    rw [hflush] at h
    cases h
  | ok u =>
    rw [hflush] at h
    rw [← (Prod.mk.inj (Except.ok.inj h)).2]
    exact flush_eq_ok hflush

/-- Marking moves active lifecycles of the level below. -/
theorem mark_moves
    (hselect : ∀ r ∈ t.rows, select r = true → r.status = .active ∧
      escalationLevel = r.escalationLevel + 1)
    (h : markEscalated select escalationLevel escalatedAt t = .ok (marked, t')) :
    Moves t.rows t'.rows := by
  refine ⟨_, [], (mark_rows h).trans (List.append_nil _).symm, ?_, by simp⟩
  intro r hr
  cases hs : select r with
  | false =>
    rw [if_neg Bool.false_ne_true]
    exact .refl r
  | true =>
    rw [if_pos rfl]
    obtain ⟨hactive, hlevel⟩ := hselect r hr hs
    refine ⟨rfl, rfl, rfl, rfl, fun hresolved ↦ ?_, Nat.le_refl _, .inr hlevel⟩
    rw [hactive] at hresolved
    cases hresolved

end mark

section channel

open SqlAlchemyChannelRepository

inductive ChannelAlertAction
  | reconcile (tenantId agentId : UUID) (alerts : List ChannelAlert) (observedAt : Datetime)
      (draw : ℕ → UUID)
  | mark (tenantId agentId : UUID) (lifecycleIds : List UUID) (escalationLevel : ℕ)
      (escalatedAt : Datetime)

def channelStep (agents : List (UUID × UUID)) (t : SqlAlchemyChannelRepository.Table) :
    ChannelAlertAction → Option (UUID × UUID × List String) × SqlAlchemyChannelRepository.Table
  | .reconcile tenantId agentId alerts observedAt draw =>
    match reconcileAlertLifecycles agents tenantId agentId alerts observedAt draw t with
    | .error _ => (none, t)
    | .ok (_, t') => (some (tenantId, agentId, alerts.map ChannelAlert.alertKey), t')
  | .mark tenantId agentId lifecycleIds escalationLevel escalatedAt =>
    match markAlertLifecyclesEscalated tenantId agentId lifecycleIds escalationLevel escalatedAt t with
    | .error _ => (none, t)
    | .ok (_, t') => (none, t')

variable {agents : List (UUID × UUID)} {t t' : SqlAlchemyChannelRepository.Table}

theorem channel_reconcile_ok {tenantId agentId : UUID} {alerts : List ChannelAlert}
    {observedAt : Datetime} {draw : ℕ → UUID} {active : List (AlertLifecycle ChannelAlertSource)}
    (h : reconcileAlertLifecycles agents tenantId agentId alerts observedAt draw t =
      .ok (active, t')) :
    ∃ reconciliation, reconciler.reconcile tenantId agentId alerts observedAt draw t =
      .ok (reconciliation, t') := by
  unfold reconcileAlertLifecycles at h
  split at h
  · cases h
  · cases hreconcile : reconciler.reconcile tenantId agentId alerts observedAt draw t with
    | error error =>
      rw [hreconcile] at h
      cases h
    | ok p =>
      rw [hreconcile] at h
      obtain ⟨reconciliation, u⟩ := p
      exact ⟨reconciliation, by rw [(Prod.mk.inj (Except.ok.inj h)).2]⟩

theorem channel_mark_moves {tenantId agentId : UUID} {lifecycleIds : List UUID}
    {escalationLevel : ℕ} {escalatedAt : Datetime} {marked : List (AlertLifecycle ChannelAlertSource)}
    (h : markAlertLifecyclesEscalated tenantId agentId lifecycleIds escalationLevel escalatedAt t =
      .ok (marked, t')) : Moves t.rows t'.rows := by
  unfold markAlertLifecyclesEscalated at h
  split at h
  · rw [← (Prod.mk.inj (Except.ok.inj h)).2]
    exact .refl _
  · refine mark_moves (fun r _ hselect ↦ ?_) h
    rw [Bool.and_eq_true, Bool.and_eq_true, decide_eq_true_eq] at hselect
    exact ⟨(isCurrent_iff.mp hselect.1.1).2.2, hselect.2.symm⟩

theorem channel_moves (t : SqlAlchemyChannelRepository.Table) (a : ChannelAlertAction) :
    Moves t.rows (channelStep agents t a).2.rows := by
  cases a with
  | reconcile tenantId agentId alerts observedAt draw =>
    dsimp only [channelStep]
    cases h : reconcileAlertLifecycles agents tenantId agentId alerts observedAt draw t with
    | error error => exact .refl _
    | ok p =>
      obtain ⟨reconciliation, hreconcile⟩ := channel_reconcile_ok h
      exact reconcile_moves reconciler hreconcile
  | mark tenantId agentId lifecycleIds escalationLevel escalatedAt =>
    dsimp only [channelStep]
    cases h : markAlertLifecyclesEscalated tenantId agentId lifecycleIds escalationLevel escalatedAt
        t with
    | error error => exact .refl _
    | ok p => exact channel_mark_moves h

theorem channel_reports (t : SqlAlchemyChannelRepository.Table) (a : ChannelAlertAction)
    {tenantId agentId : UUID} {keys : List String}
    (h : (channelStep agents t a).1 = some (tenantId, agentId, keys)) (k : String) :
    (∃ r ∈ (channelStep agents t a).2.rows,
      lifecycleIndex ChannelAlertSource.alertKey r = (tenantId, agentId, k) ∧ r.status = .active) ↔
        k ∈ keys := by
  cases a with
  | reconcile tenantId' agentId' alerts observedAt draw =>
    dsimp only [channelStep] at h ⊢
    cases hreconcile : reconcileAlertLifecycles agents tenantId' agentId' alerts observedAt draw t with
    | error error =>
      rw [hreconcile] at h
      cases h
    | ok p =>
      rw [hreconcile] at h
      obtain ⟨rfl, rfl, rfl⟩ : tenantId' = tenantId ∧ agentId' = agentId ∧
          alerts.map ChannelAlert.alertKey = keys := by
        simpa using h
      obtain ⟨reconciliation, hok⟩ := channel_reconcile_ok hreconcile
      exact reconcile_active_iff reconciler hok k
  | mark tenantId' agentId' lifecycleIds escalationLevel escalatedAt =>
    dsimp only [channelStep] at h
    cases hmark : markAlertLifecyclesEscalated tenantId' agentId' lifecycleIds escalationLevel
        escalatedAt t with
    | error error =>
      rw [hmark] at h
      cases h
    | ok p =>
      rw [hmark] at h
      cases h

end channel

section observability

open SqlAlchemyObservabilityRepository

/-- The part of a notification task that tells its handler what to mark. -/
structure EscalationJob where
  tenantId : UUID
  agentId : UUID
  lifecycleIds : List UUID
  escalationLevel : ℕ
  deriving DecidableEq

/-- The store, what reconciliations have returned as active, and the notifications enqueued. -/
structure EscalationWorld where
  table : SqlAlchemyObservabilityRepository.Table
  evaluated : List (AlertLifecycle ObservabilityAlertSource)
  jobs : List EscalationJob

/-- What a worker does next: it reconciles, it evaluates a lifecycle that a reconciliation has returned
and enqueues its escalation, or it marks what a notification that has been delivered names. -/
inductive EscalationAction
  | reconcile (tenantId agentId : UUID) (alerts : List ActiveAlert) (observedAt : Datetime)
      (draw : ℕ → UUID)
  | escalate (lifecycle : AlertLifecycle ObservabilityAlertSource) (policy : AlertEscalationPolicy)
      (durationMinutes : ℕ) (evaluatedAt : Datetime)
  | deliver (job : EscalationJob) (escalatedAt : Datetime)

/-- What `enqueue_observability_escalation` makes of a due escalation. -/
def escalationJob? (lifecycle : AlertLifecycle ObservabilityAlertSource) (target : ℕ) :
    Option EscalationJob :=
  if lifecycle.status ≠ .active ∨ ¬(1 ≤ target ∧ target ≤ 3) then none
  else some ⟨lifecycle.tenantId, lifecycle.agentId, [lifecycle.id], target⟩

def dueJob (astimezone : String → Datetime → LocalTime) (policy : AlertEscalationPolicy)
    (durationMinutes : ℕ) (evaluatedAt : Datetime)
    (lifecycle : AlertLifecycle ObservabilityAlertSource) : Option EscalationJob :=
  match policy.evaluate astimezone lifecycle.severity durationMinutes lifecycle.escalationLevel
      evaluatedAt with
  | .error _ => none
  | .ok decision => decision.targetLevel.bind (escalationJob? lifecycle)

def escalationStep (astimezone : String → Datetime → LocalTime) (w : EscalationWorld) :
    EscalationAction → Option (UUID × UUID × List (String × String)) × EscalationWorld
  | .reconcile tenantId agentId alerts observedAt draw =>
    match reconcileObservabilityAlertLifecycles tenantId agentId alerts observedAt draw w.table with
    | .error _ => (none, w)
    | .ok (reconciliation, t') =>
      (some (tenantId, agentId, alerts.map reconciler.alertKey),
        { w with table := t', evaluated := w.evaluated ++ reconciliation.activeLifecycles })
  | .escalate lifecycle policy durationMinutes evaluatedAt =>
    if lifecycle ∉ w.evaluated then (none, w)
    else
      (none, { w with
        jobs := w.jobs ++ (dueJob astimezone policy durationMinutes evaluatedAt lifecycle).toList })
  | .deliver job escalatedAt =>
    if job ∉ w.jobs then (none, w)
    else
      match markObservabilityAlertLifecyclesEscalated job.tenantId job.agentId job.lifecycleIds
          job.escalationLevel escalatedAt w.table with
      | .error _ => (none, w)
      | .ok (_, t') => (none, { w with table := t' })

/-- No evaluated level is above that of the lifecycle now, and no job is more than one level ahead. -/
structure Paced (w : EscalationWorld) : Prop where
  evaluated : ∀ e ∈ w.evaluated, ∃ r ∈ w.table.rows, r.id = e.id ∧
    e.escalationLevel ≤ r.escalationLevel
  jobs : ∀ job ∈ w.jobs, ∀ id ∈ job.lifecycleIds, ∃ r ∈ w.table.rows, r.id = id ∧
    job.escalationLevel ≤ r.escalationLevel + 1

variable {astimezone : String → Datetime → LocalTime} {w : EscalationWorld}

theorem Paced.move (h : Paced w) {t' : SqlAlchemyObservabilityRepository.Table}
    (hmoves : Moves w.table.rows t'.rows) : Paced { w with table := t' } where
  evaluated := by
    intro e he
    obtain ⟨r, hr, hid, hle⟩ := h.evaluated e he
    obtain ⟨r', hr', hkept⟩ := hmoves.kept hr
    exact ⟨r', hr', hkept.id.trans hid, hle.trans hkept.later.level⟩
  jobs := by
    intro job hjob id hid
    obtain ⟨r, hr, hrid, hle⟩ := h.jobs job hjob id hid
    obtain ⟨r', hr', hkept⟩ := hmoves.kept hr
    exact ⟨r', hr', hkept.id.trans hrid, hle.trans (Nat.succ_le_succ hkept.later.level)⟩

theorem dueJob_level {policy : AlertEscalationPolicy} {durationMinutes : ℕ} {evaluatedAt : Datetime}
    {lifecycle : AlertLifecycle ObservabilityAlertSource} {job : EscalationJob}
    (h : dueJob astimezone policy durationMinutes evaluatedAt lifecycle = some job) :
    job.lifecycleIds = [lifecycle.id] ∧ job.escalationLevel = lifecycle.escalationLevel + 1 := by
  unfold dueJob at h
  cases hevaluate : policy.evaluate astimezone lifecycle.severity durationMinutes
      lifecycle.escalationLevel evaluatedAt with
  | error error =>
    rw [hevaluate] at h
    cases h
  | ok decision =>
    rw [hevaluate] at h
    obtain ⟨target, htarget, hjob⟩ := Option.bind_eq_some_iff.mp h
    have hnext := AlertEscalationPolicy.target_eq hevaluate htarget
    unfold escalationJob? at hjob
    split at hjob
    · cases hjob
    · rw [← Option.some.inj hjob]
      exact ⟨rfl, hnext⟩

theorem Paced.mark (h : Paced w) {job : EscalationJob} (hjob : job ∈ w.jobs) {escalatedAt : Datetime}
    {marked : List (AlertLifecycle ObservabilityAlertSource)}
    {t' : SqlAlchemyObservabilityRepository.Table}
    (hmark : markObservabilityAlertLifecyclesEscalated job.tenantId job.agentId job.lifecycleIds
      job.escalationLevel escalatedAt w.table = .ok (marked, t')) : Moves w.table.rows t'.rows := by
  refine mark_moves (fun r hr hselect ↦ ?_) hmark
  rw [Bool.and_eq_true, Bool.and_eq_true, decide_eq_true_eq] at hselect
  obtain ⟨⟨hcurrent, hid⟩, hlt⟩ := hselect
  obtain ⟨s, hs, hsid, hle⟩ := h.jobs job hjob r.id (List.contains_iff_mem.mp hid)
  obtain rfl : s = r := eq_of_id hs hr hsid
  exact ⟨(isCurrent_iff.mp hcurrent).2.2, by omega⟩

theorem escalation_moves (h : Paced w) (a : EscalationAction) :
    Moves w.table.rows (escalationStep astimezone w a).2.table.rows := by
  cases a with
  | reconcile tenantId agentId alerts observedAt draw =>
    dsimp only [escalationStep]
    cases hreconcile : reconcileObservabilityAlertLifecycles tenantId agentId alerts observedAt draw
        w.table with
    | error error => exact .refl _
    | ok p => exact reconcile_moves reconciler hreconcile
  | escalate lifecycle policy durationMinutes evaluatedAt =>
    dsimp only [escalationStep]
    split <;> exact .refl _
  | deliver job escalatedAt =>
    dsimp only [escalationStep]
    split
    · exact .refl _
    · rename_i hjob
      rw [not_not] at hjob
      cases hmark : markObservabilityAlertLifecyclesEscalated job.tenantId job.agentId
          job.lifecycleIds job.escalationLevel escalatedAt w.table with
      | error error => exact .refl _
      | ok p => exact h.mark hjob hmark

theorem escalation_paced (h : Paced w) (a : EscalationAction) :
    Paced (escalationStep astimezone w a).2 := by
  have hmoves : Moves w.table.rows (escalationStep astimezone w a).2.table.rows :=
    escalation_moves h a
  cases a with
  | reconcile tenantId agentId alerts observedAt draw =>
    dsimp only [escalationStep] at hmoves ⊢
    cases hreconcile : reconcileObservabilityAlertLifecycles tenantId agentId alerts observedAt draw
        w.table with
    | error error => exact h
    | ok p =>
      rw [hreconcile] at hmoves
      have hpaced := h.move hmoves
      refine ⟨fun e he ↦ ?_, hpaced.jobs⟩
      rcases List.mem_append.mp he with he | he
      · exact hpaced.evaluated e he
      · exact ⟨e, reconcile_active reconciler hreconcile he, rfl, Nat.le_refl _⟩
  | escalate lifecycle policy durationMinutes evaluatedAt =>
    dsimp only [escalationStep]
    split
    · exact h
    · rename_i hmem
      rw [not_not] at hmem
      refine ⟨h.evaluated, fun job hjob id hid ↦ ?_⟩
      rcases List.mem_append.mp hjob with hjob | hjob
      · exact h.jobs job hjob id hid
      · obtain ⟨hids, hlevel⟩ := dueJob_level (Option.mem_toList.mp hjob)
        rw [hids, List.mem_singleton] at hid
        obtain ⟨r, hr, hrid, hle⟩ := h.evaluated lifecycle hmem
        exact ⟨r, hr, hrid.trans hid.symm, by omega⟩
  | deliver job escalatedAt =>
    dsimp only [escalationStep] at hmoves ⊢
    split
    · exact h
    · rename_i hjob
      rw [if_neg hjob] at hmoves
      cases hmark : markObservabilityAlertLifecyclesEscalated job.tenantId job.agentId
          job.lifecycleIds job.escalationLevel escalatedAt w.table with
      | error error => exact h
      | ok p =>
        rw [hmark] at hmoves
        exact h.move hmoves

theorem escalation_reports (w : EscalationWorld) (a : EscalationAction) {tenantId agentId : UUID}
    {keys : List (String × String)}
    (h : (escalationStep astimezone w a).1 = some (tenantId, agentId, keys)) (k : String × String) :
    (∃ r ∈ (escalationStep astimezone w a).2.table.rows,
      lifecycleIndex reconciler.sourceKey r = (tenantId, agentId, k) ∧ r.status = .active) ↔
        k ∈ keys := by
  cases a with
  | reconcile tenantId' agentId' alerts observedAt draw =>
    dsimp only [escalationStep] at h ⊢
    cases hreconcile : reconcileObservabilityAlertLifecycles tenantId' agentId' alerts observedAt draw
        w.table with
    | error error =>
      rw [hreconcile] at h
      cases h
    | ok p =>
      rw [hreconcile] at h
      obtain ⟨rfl, rfl, rfl⟩ : tenantId' = tenantId ∧ agentId' = agentId ∧
          alerts.map reconciler.alertKey = keys := by
        simpa using h
      exact reconcile_active_iff reconciler hreconcile k
  | escalate lifecycle policy durationMinutes evaluatedAt =>
    dsimp only [escalationStep] at h
    split at h <;> cases h
  | deliver job escalatedAt =>
    dsimp only [escalationStep] at h
    split at h
    · cases h
    · cases hmark : markObservabilityAlertLifecyclesEscalated job.tenantId job.agentId
          job.lifecycleIds job.escalationLevel escalatedAt w.table with
      | error error =>
        rw [hmark] at h
        cases h
      | ok p =>
        rw [hmark] at h
        cases h

def EscalationWorld.start : EscalationWorld := ⟨.empty reconciler.sourceKey, [], []⟩

theorem paced_start : Paced EscalationWorld.start :=
  ⟨fun _ h ↦ absurd h List.not_mem_nil, fun _ h ↦ absurd h List.not_mem_nil⟩

end observability

/-- Both stores keep the laws of their lifecycles, in whatever order the workers reconcile, escalate and
mark. -/
theorem lifecycle_stores_lawful :
    (∀ agents schedule, LifecycleLaws (channelStep agents) (fun t ↦ t)
      (.empty ChannelAlertSource.alertKey) schedule) ∧
    ∀ astimezone schedule, LifecycleLaws (escalationStep astimezone) EscalationWorld.table
      EscalationWorld.start schedule := by
  refine ⟨fun agents schedule ↦ ?_, fun astimezone schedule ↦ ?_⟩
  · exact laws_of_steps (I := fun _ ↦ True) (channelStep agents) (fun t ↦ t) _ trivial
      (fun _ _ _ ↦ trivial) (fun t a _ ↦ channel_moves t a)
      (fun t a _ _ _ h ↦ channel_reports t a h) schedule
  · exact laws_of_steps (I := Paced) (escalationStep astimezone) EscalationWorld.table _ paced_start
      (fun _ a h ↦ escalation_paced h a) (fun _ a h ↦ escalation_moves h a)
      (fun w a _ _ _ h ↦ escalation_reports w a h) schedule

end CyberNetizen.Alerts
