import Mathlib.Data.List.Chain
import Mathlib.Data.List.Pairwise
import CyberNetizen.Alerts.LifecycleLaws

/-! # When incidents of one alert begin and end -/

namespace CyberNetizen.Alerts

open Domain Infrastructure

variable {α σ κ : Type}

/-- `p` has ended when `r` begins. -/
def EndsBefore (p r : AlertLifecycle σ) : Prop :=
  ∃ ended, p.resolvedAt = some ended ∧ ended ≤ r.firstOccurredAt

/-- The incidents of an alert, in the order in which they were created, do not overlap. -/
structure Timely [DecidableEq κ] (sourceKey : σ → κ) (rows : List (AlertLifecycle σ)) : Prop where
  occurred : ∀ r ∈ rows, r.firstOccurredAt ≤ r.lastOccurredAt
  ended : ∀ r ∈ rows, ∀ ended, r.resolvedAt = some ended → r.firstOccurredAt ≤ ended
  apart : ∀ index : UUID × UUID × κ,
    (rows.filter fun r ↦ lifecycleIndex sourceKey r = index).IsChain EndsBefore

def Apart (sourceKey : σ → κ) (rows : List (AlertLifecycle σ)) : Prop :=
  rows.Pairwise fun p r ↦ lifecycleIndex sourceKey p = lifecycleIndex sourceKey r → EndsBefore p r

section timely

variable [DecidableEq κ] {sourceKey : σ → κ} {rows : List (AlertLifecycle σ)}

/-- With incidents that end after they begin, it is enough to compare neighbours. -/
theorem isChain_iff_pairwise {l : List (AlertLifecycle σ)}
    (hended : ∀ r ∈ l, ∀ ended, r.resolvedAt = some ended → r.firstOccurredAt ≤ ended) :
    l.IsChain EndsBefore ↔ l.Pairwise EndsBefore := by
  let Follows (p r : AlertLifecycle σ) : Prop :=
    ∃ ended, p.resolvedAt = some ended ∧ p.firstOccurredAt ≤ ended ∧ ended ≤ r.firstOccurredAt
  have htrans : IsTrans (AlertLifecycle σ) Follows := by
    constructor
    rintro p q r ⟨e, hp, hpe, heq⟩ ⟨e', hq, hqe, her⟩
    exact ⟨e, hp, hpe, heq.trans (hqe.trans her)⟩
  have hiff : ∀ p r : AlertLifecycle σ, p ∈ l → r ∈ l → (EndsBefore p r ↔ Follows p r) := by
    intro p r hp _
    constructor
    · rintro ⟨e, he, hle⟩
      exact ⟨e, he, hended p hp e he, hle⟩
    · rintro ⟨e, he, -, hle⟩
      exact ⟨e, he, hle⟩
  rw [List.IsChain.iff_of_mem_imp hiff, List.isChain_iff_pairwise]
  exact ⟨fun h ↦ h.imp_of_mem fun hp hr ↦ (hiff _ _ hp hr).mpr,
    fun h ↦ h.imp_of_mem fun hp hr ↦ (hiff _ _ hp hr).mp⟩

theorem apart_iff_filter :
    Apart sourceKey rows ↔ ∀ index : UUID × UUID × κ,
      (rows.filter fun r ↦ lifecycleIndex sourceKey r = index).Pairwise EndsBefore := by
  unfold Apart
  simp only [List.pairwise_filter, decide_eq_true_eq]
  constructor
  · intro h index
    exact h.imp fun hpr hp hr ↦ hpr (hp.trans hr.symm)
  · intro h
    induction rows with
    | nil => exact .nil
    | cons p l ih =>
      refine List.pairwise_cons.mpr ⟨fun r hr hindex ↦ ?_, ih fun index ↦ (h index).of_cons⟩
      exact List.rel_of_pairwise_cons (h (lifecycleIndex sourceKey p)) hr rfl hindex.symm

theorem timely_iff : Timely sourceKey rows ↔
    (∀ r ∈ rows, r.firstOccurredAt ≤ r.lastOccurredAt) ∧
      (∀ r ∈ rows, ∀ ended, r.resolvedAt = some ended → r.firstOccurredAt ≤ ended) ∧
      Apart sourceKey rows := by
  have hmem : ∀ index : UUID × UUID × κ,
      ∀ r ∈ rows.filter fun r ↦ lifecycleIndex sourceKey r = index, r ∈ rows :=
    fun index r hr ↦ (List.mem_filter.mp hr).1
  constructor
  · intro h
    refine ⟨h.occurred, h.ended, apart_iff_filter.mpr fun index ↦ ?_⟩
    exact (isChain_iff_pairwise fun r hr ↦ h.ended r (hmem index r hr)).mp (h.apart index)
  · rintro ⟨hoccurred, hended, hapart⟩
    refine ⟨hoccurred, hended, fun index ↦ ?_⟩
    exact (isChain_iff_pairwise fun r hr ↦ hended r (hmem index r hr)).mpr
      (apart_iff_filter.mp hapart index)

omit [DecidableEq κ] in
theorem Apart.or (h : Apart sourceKey rows) {p r : AlertLifecycle σ} (hp : p ∈ rows) (hr : r ∈ rows)
    (hne : p ≠ r) (hindex : lifecycleIndex sourceKey p = lifecycleIndex sourceKey r) :
    EndsBefore p r ∨ EndsBefore r p := by
  have hsymm : Std.Symm fun p r : AlertLifecycle σ ↦
      lifecycleIndex sourceKey p = lifecycleIndex sourceKey r → EndsBefore p r ∨ EndsBefore r p :=
    ⟨fun p r hpr hrp ↦ (hpr hrp.symm).symm⟩
  have hor : rows.Pairwise fun p r ↦
      lifecycleIndex sourceKey p = lifecycleIndex sourceKey r → EndsBefore p r ∨ EndsBefore r p :=
    h.imp fun hpr hi ↦ .inl (hpr hi)
  exact hor.forall hp hr hne hindex

end timely

section checks

variable {r : AlertLifecycle σ}

theorem resolvedAt_of_active (h : LifecycleChecks r) (hactive : r.status = .active) :
    r.resolvedAt = none := by
  rcases h.resolution with h | h
  · exact h.2.1
  · rw [hactive] at h
    cases h.1

theorem resolvedAt_of_not_active (h : LifecycleChecks r) (hactive : r.status ≠ .active) :
    ∃ ended, r.resolvedAt = some ended := by
  rcases h.resolution with h | h
  · exact absurd h.1 hactive
  · exact Option.ne_none_iff_exists'.mp h.2.1

theorem status_of_resolvedAt (h : LifecycleChecks r) {ended : Datetime}
    (hended : r.resolvedAt = some ended) : r.status = .resolved := by
  rcases h.resolution with h | h
  · rw [h.2.1] at hended
    cases hended
  · exact h.1

end checks

section reconcile

variable [DecidableEq κ] (R : Reconciler α σ κ) (tenantId agentId : UUID) (alerts : List α)
  (observedAt : Datetime)

/-- The reconciliation ends no lifecycle before it begins, and begins none before the last one of its
alert has ended. -/
structure InTime (rows : List (AlertLifecycle σ)) : Prop where
  resolves : ∀ r ∈ rows, isCurrent tenantId agentId r = true → R.matching alerts r = [] →
    r.firstOccurredAt ≤ observedAt
  renews : ∀ r ∈ rows, isCurrent tenantId agentId r = true → R.matching alerts r ≠ [] →
    (R.afterwards tenantId agentId alerts observedAt r).firstOccurredAt ≤
      (R.afterwards tenantId agentId alerts observedAt r).lastOccurredAt ∧
    ∀ p ∈ rows, lifecycleIndex R.sourceKey p = lifecycleIndex R.sourceKey r →
      ∀ ended, p.resolvedAt = some ended →
      ended ≤ (R.afterwards tenantId agentId alerts observedAt r).firstOccurredAt
  opens : ∀ alert ∈ R.unseen tenantId agentId alerts rows,
    R.firstOccurredAt observedAt alert ≤ R.lastOccurredAt observedAt alert ∧
    ∀ p ∈ rows, lifecycleIndex R.sourceKey p = (tenantId, agentId, R.alertKey alert) →
      ∀ ended, p.resolvedAt = some ended → ended ≤ R.firstOccurredAt observedAt alert

variable {tenantId agentId alerts observedAt} {draw : ℕ → UUID} {t t' : Lifecycles R.sourceKey}
  {reconciliation : Reconciliation σ}

theorem afterwards_resolvedAt {r : AlertLifecycle σ} (h : LifecycleChecks r)
    (hcurrent : isCurrent tenantId agentId r = true) (hsome : R.matching alerts r ≠ []) :
    (R.afterwards tenantId agentId alerts observedAt r).resolvedAt = none := by
  rw [afterwards_renews R hcurrent hsome, (renewed_foldl R (R.matching alerts r) r).resolvedAt]
  exact resolvedAt_of_active h (isCurrent_iff.mp hcurrent).2.2

theorem afterwards_first {r : AlertLifecycle σ}
    (h : isCurrent tenantId agentId r = false ∨ R.matching alerts r = []) :
    (R.afterwards tenantId agentId alerts observedAt r).firstOccurredAt = r.firstOccurredAt ∧
      (R.afterwards tenantId agentId alerts observedAt r).lastOccurredAt = r.lastOccurredAt := by
  cases hcurrent : isCurrent tenantId agentId r with
  | false =>
    rw [afterwards_of_not_current R hcurrent]
    exact ⟨rfl, rfl⟩
  | true =>
    rcases h with h | h
    · rw [hcurrent] at h
      cases h
    · rw [afterwards_resolves R hcurrent h]
      exact ⟨rfl, rfl⟩

theorem afterwards_of_resolvedAt {r : AlertLifecycle σ} (h : LifecycleChecks r) {ended : Datetime}
    (hended : r.resolvedAt = some ended) :
    R.afterwards tenantId agentId alerts observedAt r = r :=
  (kept_afterwards R r).resolved (status_of_resolvedAt h hended)

/-- A timely store is timely after a reconciliation exactly if that was in time. -/
theorem reconcile_timely_iff
    (h : R.reconcile tenantId agentId alerts observedAt draw t = .ok (reconciliation, t'))
    (ht : Timely R.sourceKey t.rows) :
    Timely R.sourceKey t'.rows ↔ InTime R tenantId agentId alerts observedAt t.rows := by
  have hrows := reconcile_rows R h
  obtain ⟨hoccurred, hended, hapart⟩ := timely_iff.mp ht
  rw [timely_iff]
  have hold : ∀ r ∈ t.rows, R.afterwards tenantId agentId alerts observedAt r ∈ t'.rows := by
    intro r hr
    rw [hrows]
    exact List.mem_append_left _ (List.mem_map_of_mem hr)
  constructor
  · rintro ⟨hoccurred', hended', hapart'⟩
    refine ⟨?_, ?_, ?_⟩
    · intro r hr hcurrent hnone
      have hmem := hold r hr
      rw [afterwards_resolves R hcurrent hnone] at hmem
      exact hended' _ hmem observedAt rfl
    · intro r hr hcurrent hsome
      have hnone : (R.afterwards tenantId agentId alerts observedAt r).resolvedAt = none :=
        afterwards_resolvedAt R (t.checks r hr) hcurrent hsome
      refine ⟨hoccurred' _ (hold r hr), fun p hp hindex ended hpe ↦ ?_⟩
      have hpmem := hold p hp
      rw [afterwards_of_resolvedAt R (t.checks p hp) hpe] at hpmem
      have hne : p ≠ R.afterwards tenantId agentId alerts observedAt r := by
        intro he
        rw [← he, hpe] at hnone
        cases hnone
      have hkept : Kept r (R.afterwards tenantId agentId alerts observedAt r) := kept_afterwards R r
      have hindex' := hindex.trans (hkept.index R.sourceKey).symm
      rcases hapart'.or hpmem (hold r hr) hne hindex' with ⟨e, he, hle⟩ | ⟨e, he, -⟩
      · rw [hpe] at he
        exact Option.some.inj he ▸ hle
      · rw [hnone] at he
        cases he
    · intro alert halert
      obtain ⟨n, hn⟩ : ∃ n, R.openLifecycle tenantId agentId observedAt (draw n) alert ∈
          R.activated tenantId agentId alerts observedAt draw t.rows := activated_of_unseen R halert
      have hnew : R.openLifecycle tenantId agentId observedAt (draw n) alert ∈ t'.rows := by
        rw [hrows]
        exact List.mem_append_right _ hn
      refine ⟨hoccurred' _ hnew, fun p hp hindex ended hpe ↦ ?_⟩
      have hpmem := hold p hp
      rw [afterwards_of_resolvedAt R (t.checks p hp) hpe] at hpmem
      have hne : p ≠ R.openLifecycle tenantId agentId observedAt (draw n) alert := by
        rintro rfl
        cases hpe
      have hindex' : lifecycleIndex R.sourceKey p = lifecycleIndex R.sourceKey
          (R.openLifecycle tenantId agentId observedAt (draw n) alert) := by
        rw [hindex, ← R.source_key]
        rfl
      rcases hapart'.or hpmem hnew hne hindex' with ⟨e, he, hle⟩ | ⟨e, he, -⟩
      · rw [hpe] at he
        exact Option.some.inj he ▸ hle
      · cases he
  · intro hin
    have hcases : ∀ r : AlertLifecycle σ, (isCurrent tenantId agentId r = false ∨
        R.matching alerts r = []) ∨ isCurrent tenantId agentId r = true ∧
          R.matching alerts r ≠ [] := by
      intro r
      by_cases hnone : R.matching alerts r = []
      · exact .inl (.inr hnone)
      · cases hcurrent : isCurrent tenantId agentId r with
        | false => exact .inl (.inl rfl)
        | true => exact .inr ⟨rfl, hnone⟩
    refine ⟨?_, ?_, ?_⟩
    · intro r' hr'
      rw [hrows] at hr'
      rcases List.mem_append.mp hr' with hr' | hr'
      · obtain ⟨r, hr, rfl⟩ := List.mem_map.mp hr'
        rcases hcases r with hsame | ⟨hcurrent, hsome⟩
        · rw [(afterwards_first R hsame).1, (afterwards_first R hsame).2]
          exact hoccurred r hr
        · exact (hin.renews r hr hcurrent hsome).1
      · obtain ⟨alert, halert, n, rfl⟩ := mem_activated R hr'
        exact (hin.opens alert halert).1
    · intro r' hr' ended he
      rw [hrows] at hr'
      rcases List.mem_append.mp hr' with hr' | hr'
      · obtain ⟨r, hr, rfl⟩ := List.mem_map.mp hr'
        cases hcurrent : isCurrent tenantId agentId r with
        | false =>
          rw [afterwards_of_not_current R hcurrent] at he ⊢
          exact hended r hr ended he
        | true =>
          by_cases hnone : R.matching alerts r = []
          · rw [afterwards_resolves R hcurrent hnone] at he ⊢
            exact Option.some.inj he ▸ hin.resolves r hr hcurrent hnone
          · rw [afterwards_resolvedAt R (t.checks r hr) hcurrent hnone] at he
            cases he
      · obtain ⟨alert, halert, n, rfl⟩ := mem_activated R hr'
        cases he
    · unfold Apart
      rw [hrows]
      refine List.pairwise_append.mpr ⟨?_, ?_, ?_⟩
      · refine List.pairwise_map.mpr (hapart.imp_of_mem fun {p r} hp hr hpr hindex ↦ ?_)
        rw [(kept_afterwards R p).index, (kept_afterwards R r).index] at hindex
        obtain ⟨ended, hpe, hle⟩ := hpr hindex
        rw [afterwards_of_resolvedAt R (t.checks p hp) hpe]
        refine ⟨ended, hpe, ?_⟩
        rcases hcases r with hsame | ⟨hcurrent, hsome⟩
        · rw [(afterwards_first R hsame).1]
          exact hle
        · exact (hin.renews r hr hcurrent hsome).2 p hp hindex ended hpe
      · have hnodup : ((R.activated tenantId agentId alerts observedAt draw t.rows).map
            (lifecycleIndex R.sourceKey)).Nodup := by
          have hactive : ((R.activated tenantId agentId alerts observedAt draw t.rows).filter
              isActive) = R.activated tenantId agentId alerts observedAt draw t.rows := by
            rw [List.filter_eq_self]
            intro r hr
            obtain ⟨alert, -, n, rfl⟩ := mem_activated R hr
            rfl
          have hkeys := t'.activeKeys
          rw [hrows, List.filter_append, List.map_append, hactive] at hkeys
          exact (List.nodup_append.mp hkeys).2.1
        exact (List.pairwise_map.mp hnodup).imp fun hne hindex ↦ absurd hindex hne
      · intro p' hp' r hr hindex
        obtain ⟨p, hp, rfl⟩ := List.mem_map.mp hp'
        obtain ⟨alert, halert, n, rfl⟩ := mem_activated R hr
        rw [(kept_afterwards R p).index] at hindex
        have hindex' : lifecycleIndex R.sourceKey p = (tenantId, agentId, R.alertKey alert) := by
          rw [hindex, ← R.source_key]
          rfl
        have hresolved : p.status ≠ .active := by
          intro hactive
          obtain ⟨htenant, hagent, hkey⟩ : p.tenantId = tenantId ∧ p.agentId = agentId ∧
              R.sourceKey p.source = R.alertKey alert := by
            simpa [lifecycleIndex] using hindex'
          exact ((mem_unseen R).mp halert).2 p hp (isCurrent_iff.mpr ⟨htenant, hagent, hactive⟩) hkey
        obtain ⟨ended, hpe⟩ := resolvedAt_of_not_active (t.checks p hp) hresolved
        rw [afterwards_of_resolvedAt R (t.checks p hp) hpe]
        exact ⟨ended, hpe, (hin.opens alert halert).2 p hp hindex' ended hpe⟩

end reconcile

section mark

variable [DecidableEq κ] {sourceKey : σ → κ} {t t' : Lifecycles sourceKey}

/-- Marking leaves the times of the incidents alone. -/
theorem mark_timely_iff {select : AlertLifecycle σ → Bool} {escalationLevel : ℕ}
    {escalatedAt : Datetime} {marked : List (AlertLifecycle σ)}
    (h : markEscalated select escalationLevel escalatedAt t = .ok (marked, t')) :
    Timely sourceKey t'.rows ↔ Timely sourceKey t.rows := by
  let f (r : AlertLifecycle σ) := if select r then escalateLifecycle escalationLevel escalatedAt r else r
  have hf : ∀ r, (f r).firstOccurredAt = r.firstOccurredAt ∧
      (f r).lastOccurredAt = r.lastOccurredAt ∧ (f r).resolvedAt = r.resolvedAt ∧
      lifecycleIndex sourceKey (f r) = lifecycleIndex sourceKey r := by
    intro r
    dsimp only [f]
    split <;> exact ⟨rfl, rfl, rfl, rfl⟩
  have hbefore : ∀ p r, EndsBefore (f p) (f r) ↔ EndsBefore p r := by
    intro p r
    unfold EndsBefore
    rw [(hf p).2.2.1, (hf r).1]
  have hrows : t'.rows = t.rows.map f := mark_rows h
  rw [timely_iff, timely_iff, hrows]
  unfold Apart
  simp only [List.forall_mem_map, List.pairwise_map, hbefore, fun r ↦ (hf r).1, fun r ↦ (hf r).2.1,
    fun r ↦ (hf r).2.2.1, fun r ↦ (hf r).2.2.2]

end mark

section channel

open SqlAlchemyChannelRepository

/-- When a reconciliation of channel alerts keeps the incidents of an alert apart. -/
structure ChannelInTime (tenantId agentId : UUID) (alerts : List ChannelAlert) (observedAt : Datetime)
    (rows : List (AlertLifecycle ChannelAlertSource)) : Prop where
  /-- What it resolves has begun when it observes. -/
  resolves : ∀ r ∈ rows, isCurrent tenantId agentId r = true →
    r.source.alertKey ∉ alerts.map ChannelAlert.alertKey → r.firstOccurredAt ≤ observedAt
  /-- What an alert counts in its window has occurred since the last incident of the alert. -/
  occurs : ∀ alert ∈ alerts, ∀ p ∈ rows, p.tenantId = tenantId → p.agentId = agentId →
    p.source.alertKey = alert.alertKey → ∀ ended, p.resolvedAt = some ended →
    ended ≤ min alert.firstOccurredAt observedAt
  /-- A new incident has begun when it last occurs. -/
  opens : ∀ alert ∈ alerts, (∀ r ∈ rows, isCurrent tenantId agentId r = true →
      r.source.alertKey ≠ alert.alertKey) →
    min alert.firstOccurredAt observedAt ≤ alert.lastOccurredAt

variable {tenantId agentId : UUID} {alerts : List ChannelAlert} {observedAt : Datetime}
  {t : SqlAlchemyChannelRepository.Table}

theorem channel_renewed_times (observedAt : Datetime) (l : List ChannelAlert)
    (r : AlertLifecycle ChannelAlertSource) :
    (∀ ended, ended ≤ (l.foldl (fun r alert ↦ reconciler.renewLifecycle observedAt alert r)
        r).firstOccurredAt ↔
      ended ≤ r.firstOccurredAt ∧ ∀ alert ∈ l, ended ≤ min alert.firstOccurredAt observedAt) ∧
    r.lastOccurredAt ≤
      (l.foldl (fun r alert ↦ reconciler.renewLifecycle observedAt alert r) r).lastOccurredAt := by
  induction l generalizing r with
  | nil => exact ⟨fun ended ↦ by simp, Nat.le_refl _⟩
  | cons alert l ih =>
    obtain ⟨hfirst, hlast⟩ := ih (reconciler.renewLifecycle observedAt alert r)
    constructor
    · intro ended
      rw [List.foldl_cons, hfirst, List.forall_mem_cons, ← and_assoc]
      exact and_congr_left' Nat.le_min
    · exact (Nat.le_max_left _ _).trans hlast

theorem channel_inTime_iff (ht : Timely ChannelAlertSource.alertKey t.rows) :
    InTime reconciler tenantId agentId alerts observedAt t.rows ↔
      ChannelInTime tenantId agentId alerts observedAt t.rows := by
  obtain ⟨hoccurred, -, hapart⟩ := timely_iff.mp ht
  have hmatching : ∀ r : AlertLifecycle ChannelAlertSource, reconciler.matching alerts r = [] ↔
      r.source.alertKey ∉ alerts.map ChannelAlert.alertKey := by
    intro r
    rw [← not_iff_not, not_not]
    exact matching_ne_nil reconciler
  have hindex : ∀ (p : AlertLifecycle ChannelAlertSource) (k : String),
      lifecycleIndex ChannelAlertSource.alertKey p = (tenantId, agentId, k) ↔
        p.tenantId = tenantId ∧ p.agentId = agentId ∧ p.source.alertKey = k := by
    intro p k
    simp [lifecycleIndex]
  constructor
  · intro h
    refine ⟨fun r hr hcurrent hnone ↦ h.resolves r hr hcurrent ((hmatching r).mpr hnone), ?_, ?_⟩
    · intro alert halert p hp htenant hagent hkey ended hpe
      by_cases hseen : ∃ r ∈ t.rows, isCurrent tenantId agentId r = true ∧
          r.source.alertKey = alert.alertKey
      · obtain ⟨r, hr, hcurrent, hrkey⟩ := hseen
        have hmem : alert ∈ reconciler.matching alerts r :=
          (mem_matching reconciler).mpr ⟨halert, hrkey.symm⟩
        have hsome : reconciler.matching alerts r ≠ [] := List.ne_nil_of_mem hmem
        obtain ⟨htenant', hagent', -⟩ := isCurrent_iff.mp hcurrent
        have hsame : lifecycleIndex ChannelAlertSource.alertKey p =
            lifecycleIndex ChannelAlertSource.alertKey r := by
          unfold lifecycleIndex
          rw [htenant, hagent, hkey, htenant', hagent', hrkey]
        have hle := (h.renews r hr hcurrent hsome).2 p hp hsame ended hpe
        rw [afterwards_renews reconciler hcurrent hsome] at hle
        exact (((channel_renewed_times observedAt _ r).1 ended).mp hle).2 alert hmem
      · refine (h.opens alert ((mem_unseen reconciler).mpr ⟨halert, ?_⟩)).2 p hp
          ((hindex p _).mpr ⟨htenant, hagent, hkey⟩) ended hpe
        exact fun r hr hcurrent hrkey ↦ hseen ⟨r, hr, hcurrent, hrkey⟩
    · intro alert halert hnone
      exact (h.opens alert ((mem_unseen reconciler).mpr ⟨halert, hnone⟩)).1
  · intro h
    refine ⟨fun r hr hcurrent hnone ↦ h.resolves r hr hcurrent ((hmatching r).mp hnone), ?_, ?_⟩
    · intro r hr hcurrent hsome
      obtain ⟨htenant, hagent, hactive⟩ := isCurrent_iff.mp hcurrent
      rw [afterwards_renews reconciler hcurrent hsome]
      obtain ⟨hfirst, hlast⟩ := channel_renewed_times observedAt
        (reconciler.matching alerts r) r
      constructor
      · exact (((hfirst _).mp (Nat.le_refl _)).1.trans (hoccurred r hr)).trans hlast
      · intro p hp hsame ended hpe
        obtain ⟨hptenant, hpagent, hpkey⟩ : p.tenantId = tenantId ∧ p.agentId = agentId ∧
            p.source.alertKey = r.source.alertKey := by
          refine (hindex p _).mp (hsame.trans ?_)
          unfold lifecycleIndex
          rw [htenant, hagent]
          rfl
        have hne : p ≠ r := by
          rintro rfl
          rw [resolvedAt_of_active (t.checks p hp) hactive] at hpe
          cases hpe
        refine (hfirst ended).mpr ⟨?_, fun alert halert ↦ ?_⟩
        · rcases hapart.or hp hr hne hsame with ⟨e, he, hle⟩ | ⟨e, he, -⟩
          · rw [hpe] at he
            exact Option.some.inj he ▸ hle
          · rw [resolvedAt_of_active (t.checks r hr) hactive] at he
            cases he
        · obtain ⟨halert, hkey⟩ := (mem_matching reconciler).mp halert
          exact h.occurs alert halert p hp hptenant hpagent (hpkey.trans hkey.symm) ended hpe
    · intro alert halert
      obtain ⟨halert, hnone⟩ := (mem_unseen reconciler).mp halert
      refine ⟨h.opens alert halert hnone, fun p hp hpindex ended hpe ↦ ?_⟩
      obtain ⟨htenant, hagent, hkey⟩ := (hindex p _).mp hpindex
      exact h.occurs alert halert p hp htenant hagent hkey ended hpe

end channel

section observability

open SqlAlchemyObservabilityRepository

/-- When a reconciliation of general alerts keeps the incidents of an alert apart. -/
structure ObservabilityInTime (tenantId agentId : UUID) (alerts : List ActiveAlert)
    (observedAt : Datetime) (rows : List (AlertLifecycle ObservabilityAlertSource)) : Prop where
  /-- What it resolves has begun when it observes. -/
  resolves : ∀ r ∈ rows, isCurrent tenantId agentId r = true →
    reconciler.sourceKey r.source ∉ alerts.map reconciler.alertKey → r.firstOccurredAt ≤ observedAt
  /-- What goes on has begun when the alert last occurs. -/
  renews : ∀ r ∈ rows, isCurrent tenantId agentId r = true → ∀ alert,
    (alerts.filter fun alert ↦ reconciler.alertKey alert = reconciler.sourceKey r.source).getLast? =
      some alert →
    r.firstOccurredAt ≤ alert.lastOccurredAt.getD observedAt
  /-- A new incident begins before it last occurs, and after the last one has ended. -/
  opens : ∀ alert ∈ alerts, (∀ r ∈ rows, isCurrent tenantId agentId r = true →
      reconciler.sourceKey r.source ≠ reconciler.alertKey alert) →
    alert.firstOccurredAt.getD observedAt ≤ alert.lastOccurredAt.getD observedAt ∧
    ∀ p ∈ rows, p.tenantId = tenantId → p.agentId = agentId →
      reconciler.sourceKey p.source = reconciler.alertKey alert → ∀ ended,
      p.resolvedAt = some ended → ended ≤ alert.firstOccurredAt.getD observedAt

variable {tenantId agentId : UUID} {alerts : List ActiveAlert} {observedAt : Datetime}
  {t : SqlAlchemyObservabilityRepository.Table}

theorem observability_renewed_times (observedAt : Datetime) (l : List ActiveAlert)
    (r : AlertLifecycle ObservabilityAlertSource) :
    (l.foldl (fun r alert ↦ reconciler.renewLifecycle observedAt alert r) r).firstOccurredAt =
      r.firstOccurredAt ∧
    ∀ alert, l.getLast? = some alert →
      (l.foldl (fun r alert ↦ reconciler.renewLifecycle observedAt alert r) r).lastOccurredAt =
        alert.lastOccurredAt.getD observedAt := by
  induction l using List.reverseRecOn with
  | nil => exact ⟨rfl, fun alert h ↦ absurd h (by simp)⟩
  | append_singleton l last ih =>
    rw [List.foldl_append]
    refine ⟨ih.1, fun alert h ↦ ?_⟩
    rw [List.getLast?_concat] at h
    rw [← Option.some.inj h]
    rfl

theorem observability_inTime_iff (ht : Timely reconciler.sourceKey t.rows) :
    InTime reconciler tenantId agentId alerts observedAt t.rows ↔
      ObservabilityInTime tenantId agentId alerts observedAt t.rows := by
  obtain ⟨-, -, hapart⟩ := timely_iff.mp ht
  have hmatching : ∀ r : AlertLifecycle ObservabilityAlertSource,
      reconciler.matching alerts r = [] ↔
        reconciler.sourceKey r.source ∉ alerts.map reconciler.alertKey := by
    intro r
    rw [← not_iff_not, not_not]
    exact matching_ne_nil reconciler
  have hindex : ∀ (p : AlertLifecycle ObservabilityAlertSource) (k : String × String),
      lifecycleIndex reconciler.sourceKey p = (tenantId, agentId, k) ↔
        p.tenantId = tenantId ∧ p.agentId = agentId ∧ reconciler.sourceKey p.source = k := by
    intro p k
    simp [lifecycleIndex]
  constructor
  · intro h
    refine ⟨fun r hr hcurrent hnone ↦ h.resolves r hr hcurrent ((hmatching r).mpr hnone), ?_, ?_⟩
    · intro r hr hcurrent alert hlast
      have hsome : reconciler.matching alerts r ≠ [] :=
        List.ne_nil_of_mem (List.mem_of_getLast? hlast)
      have hle := (h.renews r hr hcurrent hsome).1
      rw [afterwards_renews reconciler hcurrent hsome] at hle
      obtain ⟨hfirst, hlast'⟩ := observability_renewed_times observedAt
        (reconciler.matching alerts r) r
      rwa [hfirst, hlast' alert hlast] at hle
    · intro alert halert hnone
      obtain ⟨hle, hended⟩ := h.opens alert ((mem_unseen reconciler).mpr ⟨halert, hnone⟩)
      refine ⟨hle, fun p hp htenant hagent hkey ↦ ?_⟩
      exact hended p hp ((hindex p _).mpr ⟨htenant, hagent, hkey⟩)
  · intro h
    refine ⟨fun r hr hcurrent hnone ↦ h.resolves r hr hcurrent ((hmatching r).mp hnone), ?_, ?_⟩
    · intro r hr hcurrent hsome
      obtain ⟨-, -, hactive⟩ := isCurrent_iff.mp hcurrent
      rw [afterwards_renews reconciler hcurrent hsome]
      obtain ⟨hfirst, hlast⟩ := observability_renewed_times observedAt
        (reconciler.matching alerts r) r
      have halert := List.getLast?_eq_some_getLast hsome
      constructor
      · rw [hfirst, hlast _ halert]
        exact h.renews r hr hcurrent _ halert
      · intro p hp hsame ended hpe
        have hne : p ≠ r := by
          rintro rfl
          rw [resolvedAt_of_active (t.checks p hp) hactive] at hpe
          cases hpe
        rw [hfirst]
        rcases hapart.or hp hr hne hsame with ⟨e, he, hle⟩ | ⟨e, he, -⟩
        · rw [hpe] at he
          exact Option.some.inj he ▸ hle
        · rw [resolvedAt_of_active (t.checks r hr) hactive] at he
          cases he
    · intro alert halert
      obtain ⟨halert, hnone⟩ := (mem_unseen reconciler).mp halert
      obtain ⟨hle, hended⟩ := h.opens alert halert hnone
      refine ⟨hle, fun p hp hpindex ↦ ?_⟩
      obtain ⟨htenant, hagent, hkey⟩ := (hindex p _).mp hpindex
      exact hended p hp htenant hagent hkey

end observability

section runs

def ChannelStepInTime (agents : List (UUID × UUID)) (t : SqlAlchemyChannelRepository.Table) :
    ChannelAlertAction → Prop
  | .reconcile tenantId agentId alerts observedAt draw =>
    (∃ answer, SqlAlchemyChannelRepository.reconcileAlertLifecycles agents tenantId agentId alerts
      observedAt draw t = .ok answer) →
    ChannelInTime tenantId agentId alerts observedAt t.rows
  | .mark _ _ _ _ _ => True

def EscalationStepInTime (w : EscalationWorld) : EscalationAction → Prop
  | .reconcile tenantId agentId alerts observedAt draw =>
    (∃ answer, SqlAlchemyObservabilityRepository.reconcileObservabilityAlertLifecycles tenantId agentId
      alerts observedAt draw w.table = .ok answer) →
    ObservabilityInTime tenantId agentId alerts observedAt w.table.rows
  | .escalate _ _ _ _ => True
  | .deliver _ _ => True

theorem channel_step_timely {agents : List (UUID × UUID)} {t : SqlAlchemyChannelRepository.Table}
    (ht : Timely ChannelAlertSource.alertKey t.rows) (a : ChannelAlertAction) :
    Timely ChannelAlertSource.alertKey (channelStep agents t a).2.rows ↔
      ChannelStepInTime agents t a := by
  cases a with
  | reconcile tenantId agentId alerts observedAt draw =>
    dsimp only [channelStep, ChannelStepInTime]
    cases h : SqlAlchemyChannelRepository.reconcileAlertLifecycles agents tenantId agentId alerts
        observedAt draw t with
    | error error => exact iff_of_true ht fun ⟨answer, he⟩ ↦ nomatch he
    | ok answer =>
      obtain ⟨reconciliation, hreconcile⟩ := channel_reconcile_ok h
      have hiff := reconcile_timely_iff SqlAlchemyChannelRepository.reconciler hreconcile ht
      rw [channel_inTime_iff ht] at hiff
      exact hiff.trans ⟨fun hin _ ↦ hin, fun hin ↦ hin ⟨answer, rfl⟩⟩
  | mark tenantId agentId lifecycleIds escalationLevel escalatedAt =>
    dsimp only [channelStep, ChannelStepInTime]
    refine iff_of_true ?_ trivial
    cases h : SqlAlchemyChannelRepository.markAlertLifecyclesEscalated tenantId agentId lifecycleIds
        escalationLevel escalatedAt t with
    | error error => exact ht
    | ok answer =>
      unfold SqlAlchemyChannelRepository.markAlertLifecyclesEscalated at h
      split at h
      · rw [← Except.ok.inj h]
        exact ht
      · exact (mark_timely_iff h).mpr ht

theorem escalation_step_timely {astimezone : String → Datetime → Application.LocalTime}
    {w : EscalationWorld}
    (hw : Timely SqlAlchemyObservabilityRepository.reconciler.sourceKey w.table.rows)
    (a : EscalationAction) :
    Timely SqlAlchemyObservabilityRepository.reconciler.sourceKey
        (escalationStep astimezone w a).2.table.rows ↔ EscalationStepInTime w a := by
  cases a with
  | reconcile tenantId agentId alerts observedAt draw =>
    dsimp only [escalationStep, EscalationStepInTime]
    cases h : SqlAlchemyObservabilityRepository.reconcileObservabilityAlertLifecycles tenantId agentId
        alerts observedAt draw w.table with
    | error error => exact iff_of_true hw fun ⟨answer, he⟩ ↦ nomatch he
    | ok answer =>
      have hiff := reconcile_timely_iff SqlAlchemyObservabilityRepository.reconciler h hw
      rw [observability_inTime_iff hw] at hiff
      exact hiff.trans ⟨fun hin _ ↦ hin, fun hin ↦ hin ⟨answer, rfl⟩⟩
  | escalate lifecycle policy durationMinutes evaluatedAt =>
    dsimp only [escalationStep, EscalationStepInTime]
    refine iff_of_true ?_ trivial
    split <;> exact hw
  | deliver job escalatedAt =>
    dsimp only [escalationStep, EscalationStepInTime]
    refine iff_of_true ?_ trivial
    split
    · exact hw
    · cases h : SqlAlchemyObservabilityRepository.markObservabilityAlertLifecyclesEscalated
          job.tenantId job.agentId job.lifecycleIds job.escalationLevel escalatedAt w.table with
      | error error => exact hw
      | ok answer => exact (mark_timely_iff h).mpr hw

theorem timely_empty [DecidableEq κ] (sourceKey : σ → κ) :
    Timely sourceKey (Lifecycles.empty sourceKey).rows :=
  ⟨fun _ h ↦ absurd h List.not_mem_nil, fun _ h ↦ absurd h List.not_mem_nil, fun _ ↦ .nil⟩

/-- The incidents of every alert stay apart in exactly the runs whose reconciliations are all in
time. -/
theorem incidents_apart_iff (agents : List (UUID × UUID)) (schedule : List ChannelAlertAction)
    (astimezone : String → Datetime → Application.LocalTime)
    (escalations : List EscalationAction) :
    ((∀ before, before <+: schedule → Timely ChannelAlertSource.alertKey
        (Machine.run (channelStep agents) (.empty ChannelAlertSource.alertKey) before).rows) ↔
      Machine.Along (channelStep agents) (ChannelStepInTime agents)
        (.empty ChannelAlertSource.alertKey) schedule) ∧
    ((∀ before, before <+: escalations →
        Timely SqlAlchemyObservabilityRepository.reconciler.sourceKey
          (Machine.run (escalationStep astimezone) EscalationWorld.start before).table.rows) ↔
      Machine.Along (escalationStep astimezone) EscalationStepInTime EscalationWorld.start
        escalations) := by
  constructor
  · exact Machine.forall_prefix_iff_along (I := fun _ ↦ True)
      (K := fun t : SqlAlchemyChannelRepository.Table ↦ Timely ChannelAlertSource.alertKey t.rows)
      (fun _ _ _ ↦ trivial) (fun t a _ ht ↦ channel_step_timely ht a) trivial (timely_empty _)
  · exact Machine.forall_prefix_iff_along (I := fun _ ↦ True)
      (K := fun w : EscalationWorld ↦
        Timely SqlAlchemyObservabilityRepository.reconciler.sourceKey w.table.rows)
      (fun _ _ _ ↦ trivial) (fun w a _ hw ↦ escalation_step_timely hw a) trivial (timely_empty _)

/-- Failures at 10 and 20 are reported at 30; at 40 the failure rate is low again; one more failure
at 50 brings the alert back with the first failure still in its window. -/
def recurringSchedule : List ChannelAlertAction :=
  let alert (last : Datetime) : ChannelAlert :=
    { channelId := 3, code := "channel_error_rate", errorCode := some "timeout",
      severity := .warning, occurrences := 2, firstOccurredAt := 10, lastOccurredAt := last }
  [.reconcile 1 2 [alert 20] 30 fun n ↦ n, .reconcile 1 2 [] 40 fun n ↦ n,
    .reconcile 1 2 [alert 50] 60 fun n ↦ n + 1]

theorem recurring_incidents_overlap :
    ¬∀ schedule : List ChannelAlertAction, Timely ChannelAlertSource.alertKey
      (Machine.run (channelStep [(1, 2)]) (.empty ChannelAlertSource.alertKey) schedule).rows := by
  intro h
  obtain ⟨-, -, hapart⟩ := timely_iff.mp (h recurringSchedule)
  have hends : ∃ p ∈ (Machine.run (channelStep [(1, 2)]) (.empty ChannelAlertSource.alertKey)
        recurringSchedule).rows,
      ∃ r ∈ (Machine.run (channelStep [(1, 2)]) (.empty ChannelAlertSource.alertKey)
        recurringSchedule).rows,
      p ≠ r ∧ lifecycleIndex ChannelAlertSource.alertKey p =
          lifecycleIndex ChannelAlertSource.alertKey r ∧
        p.resolvedAt = some 40 ∧ r.resolvedAt = none ∧ r.firstOccurredAt = 10 := by
    decide +kernel
  obtain ⟨p, hp, r, hr, hne, hindex, hpe, hre, hfirst⟩ := hends
  rcases hapart.or hp hr hne hindex with ⟨e, he, hle⟩ | ⟨e, he, -⟩
  · rw [hpe] at he
    rw [← Option.some.inj he, hfirst] at hle
    exact absurd hle (by decide)
  · rw [hre] at he
    cases he

end runs

end CyberNetizen.Alerts
