import CyberNetizen.Infrastructure.AlertLifecycles

/-! # What one transaction does to the lifecycles -/

namespace CyberNetizen.Alerts

open Domain Infrastructure

variable {α σ κ : Type} {r r' s : AlertLifecycle σ}

/-- `r'` is what one transaction has made of `r`. -/
structure Kept (r r' : AlertLifecycle σ) : Prop where
  id : r'.id = r.id
  tenantId : r'.tenantId = r.tenantId
  agentId : r'.agentId = r.agentId
  source : r'.source = r.source
  resolved : r.status = .resolved → r' = r
  occurrences : r.occurrences ≤ r'.occurrences
  level : r'.escalationLevel = r.escalationLevel ∨ r'.escalationLevel = r.escalationLevel + 1

theorem Kept.refl (r : AlertLifecycle σ) : Kept r r :=
  ⟨rfl, rfl, rfl, rfl, fun _ ↦ rfl, Nat.le_refl _, .inl rfl⟩

theorem Kept.index (h : Kept r r') (sourceKey : σ → κ) :
    lifecycleIndex sourceKey r' = lifecycleIndex sourceKey r := by
  unfold lifecycleIndex
  rw [h.tenantId, h.agentId, h.source]

structure Moves (rows rows' : List (AlertLifecycle σ)) : Prop where
  exists_map : ∃ f new, rows' = rows.map f ++ new ∧ (∀ r ∈ rows, Kept r (f r)) ∧
    ∀ r ∈ new, r.escalationLevel = 0

section moves

variable {rows rows' : List (AlertLifecycle σ)}

theorem Moves.refl (rows : List (AlertLifecycle σ)) : Moves rows rows :=
  ⟨fun r ↦ r, [], by simp, fun r _ ↦ .refl r, by simp⟩

theorem Moves.kept (h : Moves rows rows') (hr : r ∈ rows) : ∃ r' ∈ rows', Kept r r' := by
  obtain ⟨f, new, rfl, hkept, -⟩ := h.exists_map
  exact ⟨f r, List.mem_append_left _ (List.mem_map_of_mem hr), hkept r hr⟩

theorem Moves.begins (h : Moves rows rows') (hr : r' ∈ rows') :
    (∃ r ∈ rows, Kept r r') ∨ r'.escalationLevel = 0 := by
  obtain ⟨f, new, rfl, hkept, hnew⟩ := h.exists_map
  rcases List.mem_append.mp hr with hr | hr
  · obtain ⟨s, hs, rfl⟩ := List.mem_map.mp hr
    exact .inl ⟨s, hs, hkept s hs⟩
  · exact .inr (hnew r' hr)

end moves

theorem isActive_iff : isActive r = true ↔ r.status = .active := by
  unfold isActive
  rw [decide_eq_true_eq]

theorem isCurrent_iff {tenantId agentId : UUID} :
    isCurrent tenantId agentId r = true ↔
      r.tenantId = tenantId ∧ r.agentId = agentId ∧ r.status = .active := by
  unfold isCurrent
  rw [Bool.and_eq_true, Bool.and_eq_true, decide_eq_true_eq, decide_eq_true_eq, isActive_iff,
    and_assoc]

section flush

variable [DecidableEq κ] {sourceKey : σ → κ} {rows : List (AlertLifecycle σ)} {t : Lifecycles sourceKey}

theorem flush_eq_ok (h : Lifecycles.flush sourceKey rows = .ok t) : t.rows = rows := by
  unfold Lifecycles.flush at h
  split at h
  · rw [← Except.ok.inj h]
  · cases h

omit [DecidableEq κ] in
theorem eq_of_index (hr : r ∈ t.rows) (hs : s ∈ t.rows) (hactive : r.status = .active)
    (hactive' : s.status = .active)
    (hindex : lifecycleIndex sourceKey r = lifecycleIndex sourceKey s) : r = s :=
  List.inj_on_of_nodup_map t.activeKeys (List.mem_filter.mpr ⟨hr, isActive_iff.mpr hactive⟩)
    (List.mem_filter.mpr ⟨hs, isActive_iff.mpr hactive'⟩) hindex

omit [DecidableEq κ] in
theorem eq_of_id (hr : r ∈ t.rows) (hs : s ∈ t.rows) (hid : r.id = s.id) : r = s :=
  List.inj_on_of_nodup_map t.ids hr hs hid

end flush

section reconcile

variable (R : Reconciler α σ κ) {tenantId agentId : UUID} {alerts : List α} {observedAt : Datetime}

structure Renewed (r r' : AlertLifecycle σ) : Prop where
  id : r'.id = r.id
  tenantId : r'.tenantId = r.tenantId
  agentId : r'.agentId = r.agentId
  source : r'.source = r.source
  status : r'.status = r.status
  level : r'.escalationLevel = r.escalationLevel
  resolvedAt : r'.resolvedAt = r.resolvedAt
  recovery : r'.recoveryDurationSeconds = r.recoveryDurationSeconds
  occurrences : r.occurrences ≤ r'.occurrences

theorem renewed_foldl (l : List α) (r : AlertLifecycle σ) :
    Renewed r (l.foldl (fun r alert ↦ R.renewLifecycle observedAt alert r) r) := by
  induction l generalizing r with
  | nil => exact ⟨rfl, rfl, rfl, rfl, rfl, rfl, rfl, rfl, Nat.le_refl _⟩
  | cons alert l ih =>
    have h := ih (R.renewLifecycle observedAt alert r)
    exact ⟨h.id, h.tenantId, h.agentId, h.source, h.status, h.level, h.resolvedAt, h.recovery,
      (R.occurrences_le alert r.occurrences).trans h.occurrences⟩

variable [DecidableEq κ]

theorem mem_matching {alert : α} :
    alert ∈ R.matching alerts r ↔ alert ∈ alerts ∧ R.alertKey alert = R.sourceKey r.source := by
  unfold Reconciler.matching
  rw [List.mem_filter, decide_eq_true_eq]

theorem matching_ne_nil : R.matching alerts r ≠ [] ↔ R.sourceKey r.source ∈ alerts.map R.alertKey := by
  rw [List.mem_map]
  constructor
  · intro h
    obtain ⟨alert, halert⟩ := List.exists_mem_of_ne_nil _ h
    exact ⟨alert, (mem_matching R).mp halert⟩
  · rintro ⟨alert, halert⟩
    exact List.ne_nil_of_mem ((mem_matching R).mpr halert)

theorem afterwards_of_not_current (h : isCurrent tenantId agentId r = false) :
    R.afterwards tenantId agentId alerts observedAt r = r := by
  unfold Reconciler.afterwards
  rw [h, if_neg Bool.false_ne_true]

theorem afterwards_resolves (h : isCurrent tenantId agentId r = true)
    (hnone : R.matching alerts r = []) :
    R.afterwards tenantId agentId alerts observedAt r = resolveLifecycle observedAt r := by
  unfold Reconciler.afterwards
  rw [if_pos h, if_pos hnone]

theorem afterwards_renews (h : isCurrent tenantId agentId r = true)
    (hsome : R.matching alerts r ≠ []) :
    R.afterwards tenantId agentId alerts observedAt r =
      (R.matching alerts r).foldl (fun r alert ↦ R.renewLifecycle observedAt alert r) r := by
  unfold Reconciler.afterwards
  rw [if_pos h, if_neg hsome]

theorem kept_afterwards (r : AlertLifecycle σ) :
    Kept r (R.afterwards tenantId agentId alerts observedAt r) := by
  cases hcurrent : isCurrent tenantId agentId r with
  | false =>
    rw [afterwards_of_not_current R hcurrent]
    exact .refl r
  | true =>
    have hactive : r.status ≠ .resolved := by
      rw [(isCurrent_iff.mp hcurrent).2.2]
      simp
    by_cases hnone : R.matching alerts r = []
    · rw [afterwards_resolves R hcurrent hnone]
      exact ⟨rfl, rfl, rfl, rfl, fun h ↦ absurd h hactive, Nat.le_refl _, .inl rfl⟩
    · rw [afterwards_renews R hcurrent hnone]
      have h : Renewed r ((R.matching alerts r).foldl
          (fun r alert ↦ R.renewLifecycle observedAt alert r) r) := renewed_foldl R _ r
      exact ⟨h.id, h.tenantId, h.agentId, h.source, fun h ↦ absurd h hactive, h.occurrences,
        .inl h.level⟩

theorem afterwards_active :
    (R.afterwards tenantId agentId alerts observedAt r).status = .active ↔
      r.status = .active ∧
        (isCurrent tenantId agentId r = true → R.sourceKey r.source ∈ alerts.map R.alertKey) := by
  cases hcurrent : isCurrent tenantId agentId r with
  | false =>
    rw [afterwards_of_not_current R hcurrent]
    simp
  | true =>
    have hactive := (isCurrent_iff.mp hcurrent).2.2
    rw [← matching_ne_nil]
    by_cases hnone : R.matching alerts r = []
    · rw [afterwards_resolves R hcurrent hnone]
      simp [resolveLifecycle, hnone]
    · rw [afterwards_renews R hcurrent hnone, (renewed_foldl R (R.matching alerts r) r).status]
      simp [hactive, hnone]

variable {draw : ℕ → UUID} {rows : List (AlertLifecycle σ)}

theorem mem_unseen {alert : α} : alert ∈ R.unseen tenantId agentId alerts rows ↔
    alert ∈ alerts ∧ ∀ r ∈ rows, isCurrent tenantId agentId r = true →
      R.sourceKey r.source ≠ R.alertKey alert := by
  unfold Reconciler.unseen
  rw [List.mem_filter, Bool.not_eq_true', List.any_eq_false]
  simp

theorem mem_activated (h : r ∈ R.activated tenantId agentId alerts observedAt draw rows) :
    ∃ alert ∈ R.unseen tenantId agentId alerts rows, ∃ n,
      r = R.openLifecycle tenantId agentId observedAt (draw n) alert := by
  obtain ⟨p, hp, rfl⟩ := List.mem_map.mp h
  exact ⟨p.1, List.fst_mem_of_mem_zipIdx hp, p.2, rfl⟩

theorem activated_of_unseen {alert : α} (h : alert ∈ R.unseen tenantId agentId alerts rows) :
    ∃ n, R.openLifecycle tenantId agentId observedAt (draw n) alert ∈
      R.activated tenantId agentId alerts observedAt draw rows := by
  obtain ⟨n, hn, rfl⟩ := List.mem_iff_getElem.mp h
  exact ⟨n, List.mem_map.mpr ⟨(_, n), List.mem_zipIdx_iff_getElem?.mpr (List.getElem?_eq_getElem hn),
    rfl⟩⟩

variable {t t' : Lifecycles R.sourceKey} {reconciliation : Reconciliation σ}

theorem reconcile_rows
    (h : R.reconcile tenantId agentId alerts observedAt draw t = .ok (reconciliation, t')) :
    t'.rows = t.rows.map (R.afterwards tenantId agentId alerts observedAt) ++
      R.activated tenantId agentId alerts observedAt draw t.rows := by
  unfold Reconciler.reconcile at h
  dsimp only at h
  cases hflush : Lifecycles.flush R.sourceKey
      (t.rows.map (R.afterwards tenantId agentId alerts observedAt) ++
        R.activated tenantId agentId alerts observedAt draw t.rows) with
  | error error =>
    rw [hflush] at h
    cases h
  | ok u =>
    rw [hflush] at h
    rw [← (Prod.mk.inj (Except.ok.inj h)).2]
    exact flush_eq_ok hflush

theorem reconcile_active
    (h : R.reconcile tenantId agentId alerts observedAt draw t = .ok (reconciliation, t'))
    (hr : r ∈ reconciliation.activeLifecycles) : r ∈ t'.rows := by
  unfold Reconciler.reconcile at h
  dsimp only at h
  cases hflush : Lifecycles.flush R.sourceKey
      (t.rows.map (R.afterwards tenantId agentId alerts observedAt) ++
        R.activated tenantId agentId alerts observedAt draw t.rows) with
  | error error =>
    rw [hflush] at h
    cases h
  | ok u =>
    rw [hflush] at h
    obtain ⟨hreconciliation, hu⟩ := Prod.mk.inj (Except.ok.inj h)
    rw [← hreconciliation] at hr
    rw [← hu]
    exact (List.mem_filter.mp ((List.perm_insertionSort _ _).mem_iff.mp hr)).1

theorem reconcile_moves
    (h : R.reconcile tenantId agentId alerts observedAt draw t = .ok (reconciliation, t')) :
    Moves t.rows t'.rows := by
  refine ⟨_, _, reconcile_rows R h, fun r _ ↦ kept_afterwards R r, ?_⟩
  intro r hr
  obtain ⟨alert, -, n, rfl⟩ := mem_activated R hr
  rfl

/-- Exactly the observed alerts have an active lifecycle. -/
theorem reconcile_active_iff
    (h : R.reconcile tenantId agentId alerts observedAt draw t = .ok (reconciliation, t')) (k : κ) :
    (∃ r ∈ t'.rows, lifecycleIndex R.sourceKey r = (tenantId, agentId, k) ∧ r.status = .active) ↔
      k ∈ alerts.map R.alertKey := by
  rw [reconcile_rows R h]
  constructor
  · rintro ⟨r, hr, hindex, hactive⟩
    rcases List.mem_append.mp hr with hr | hr
    · obtain ⟨s, -, rfl⟩ := List.mem_map.mp hr
      have hkept : Kept s (R.afterwards tenantId agentId alerts observedAt s) := kept_afterwards R s
      rw [hkept.index] at hindex
      obtain ⟨htenant, hagent, rfl⟩ : s.tenantId = tenantId ∧ s.agentId = agentId ∧
          R.sourceKey s.source = k := by
        simpa [lifecycleIndex] using hindex
      obtain ⟨hs, hobserved⟩ := (afterwards_active R).mp hactive
      exact hobserved (isCurrent_iff.mpr ⟨htenant, hagent, hs⟩)
    · obtain ⟨alert, halert, n, rfl⟩ := mem_activated R hr
      have hkey : R.sourceKey (R.source alert) = k := congrArg (fun p ↦ p.2.2) hindex
      rw [← hkey, R.source_key]
      exact List.mem_map_of_mem ((mem_unseen R).mp halert).1
  · intro hk
    obtain ⟨alert, halert, rfl⟩ := List.mem_map.mp hk
    by_cases hseen : ∃ s ∈ t.rows, isCurrent tenantId agentId s = true ∧
        R.sourceKey s.source = R.alertKey alert
    · obtain ⟨s, hs, hcurrent, hkey⟩ := hseen
      have hkept : Kept s (R.afterwards tenantId agentId alerts observedAt s) := kept_afterwards R s
      obtain ⟨htenant, hagent, hactive⟩ := isCurrent_iff.mp hcurrent
      refine ⟨_, List.mem_append_left _ (List.mem_map_of_mem hs), ?_, ?_⟩
      · rw [hkept.index]
        unfold lifecycleIndex
        rw [htenant, hagent, hkey]
      · refine (afterwards_active R).mpr ⟨hactive, fun _ ↦ ?_⟩
        rw [hkey]
        exact List.mem_map_of_mem halert
    · have hunseen : alert ∈ R.unseen tenantId agentId alerts t.rows := by
        refine (mem_unseen R).mpr ⟨halert, fun r hr hcurrent hkey ↦ hseen ⟨r, hr, hcurrent, hkey⟩⟩
      obtain ⟨n, hn⟩ : ∃ n, R.openLifecycle tenantId agentId observedAt (draw n) alert ∈
          R.activated tenantId agentId alerts observedAt draw t.rows := activated_of_unseen R hunseen
      refine ⟨_, List.mem_append_right _ hn, ?_, rfl⟩
      unfold lifecycleIndex
      rw [show (R.openLifecycle tenantId agentId observedAt (draw n) alert).source = R.source alert
        from rfl, R.source_key]
      rfl

end reconcile

end CyberNetizen.Alerts
