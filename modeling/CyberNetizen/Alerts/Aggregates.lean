import Mathlib.Data.List.Dedup
import CyberNetizen.Application.AlertAggregates
import CyberNetizen.Lib.Checks
import CyberNetizen.Lib.Tally

/-! # Alert aggregates that agree with each other -/

namespace CyberNetizen.Alerts

open Application Domain Tally
open Checks (bind_eq_ok bind_of_ok exists_mapM_eq_ok of_mapM_eq_ok)

section trend

variable {σ : Type} {startedAt endedAt : ℤ} {windowMinutes bucketMinutes : ℕ}
  {rows : List (AlertLifecycle σ)} {buckets : List AlertLifecycleTrendPoint} {bucketCount : ℕ}

theorem get_increment (field field' : LifecycleField) (point : AlertLifecycleTrendPoint) :
    (point.increment field).get field' = point.get field' + if field' = field then 1 else 0 := by
  cases field <;> cases field' <;> rfl

theorem length_addEvent (bucketSeconds : ℕ) (eventAt : Option Datetime) (field : LifecycleField) :
    (addEvent startedAt endedAt bucketSeconds bucketCount buckets eventAt field).length =
      buckets.length := by
  unfold addEvent
  split
  · rfl
  · split
    · rw [List.length_modify]
    · rfl

/-- An event in the window is counted in one bucket, in its own column. -/
theorem sum_addEvent (hcount : buckets.length = bucketCount) (hpos : 0 < bucketCount)
    (bucketSeconds : ℕ) (eventAt : Option Datetime) (field field' : LifecycleField) :
    ((addEvent startedAt endedAt bucketSeconds bucketCount buckets eventAt field).map
        (·.get field')).sum = (buckets.map (·.get field')).sum +
      if field' = field then if inWindow startedAt endedAt eventAt then 1 else 0 else 0 := by
  unfold addEvent inWindow
  cases eventAt with
  | none => simp
  | some at' =>
    simp only [Option.any_some, Bool.and_eq_true, decide_eq_true_eq]
    by_cases hin : startedAt ≤ (at' : ℤ) ∧ (at' : ℤ) ≤ endedAt
    · rw [if_pos hin, if_pos hin]
      by_cases hfield : field' = field
      · rw [if_pos hfield, sum_map_modify]
        · intro point
          rw [get_increment, if_pos hfield]
        · omega
      · rw [if_neg hfield, sum_map_modify_of_eq, Nat.add_zero]
        intro point
        rw [get_increment, if_neg hfield, Nat.add_zero]
    · rw [if_neg hin, if_neg hin, ite_self, Nat.add_zero]

/-- The loop of `trendOf` adds the changes of each row. -/
theorem sum_foldl_addEvent (rows : List (AlertLifecycle σ)) (hcount : buckets.length = bucketCount)
    (hpos : 0 < bucketCount) (bucketSeconds : ℕ) (field : LifecycleField) :
    let add := addEvent startedAt endedAt bucketSeconds bucketCount
    ((rows.foldl (fun buckets row ↦
        add (add (add buckets (some row.firstOccurredAt) .opened) row.resolvedAt .resolved)
          row.escalatedAt .escalated) buckets).map (·.get field)).sum =
      (buckets.map (·.get field)).sum + countIn startedAt endedAt field rows := by
  intro add
  induction rows generalizing buckets with
  | nil => rfl
  | cons row rows ih =>
    have h₁ : (add buckets (some row.firstOccurredAt) .opened).length = bucketCount := by
      rw [length_addEvent, hcount]
    have h₂ : (add (add buckets (some row.firstOccurredAt) .opened) row.resolvedAt
        .resolved).length = bucketCount := by
      rw [length_addEvent, h₁]
    rw [List.foldl_cons, ih (by rw [length_addEvent, h₂]), sum_addEvent h₂ hpos,
      sum_addEvent h₁ hpos, sum_addEvent hcount hpos]
    unfold countIn
    rw [List.countP_cons]
    rw [Nat.add_comm (rows.countP _), ← Nat.add_assoc]
    refine congrArg (· + _) ?_
    cases field <;> rfl

theorem sum_trendOf (hbucket : 1 ≤ bucketMinutes) (hle : bucketMinutes ≤ windowMinutes)
    (field : LifecycleField) :
    ((trendOf startedAt endedAt windowMinutes bucketMinutes rows).map (·.get field)).sum =
      countIn startedAt endedAt field rows := by
  have hpos : 0 < (windowMinutes + bucketMinutes - 1) / bucketMinutes :=
    Nat.div_pos (by omega) (by omega)
  unfold trendOf
  dsimp only
  generalize (windowMinutes + bucketMinutes - 1) / bucketMinutes = bucketCount at hpos
  rw [sum_foldl_addEvent rows (by rw [List.length_map, List.length_range]) hpos, Nat.add_eq_right,
    List.sum_eq_zero]
  intro n hn
  obtain ⟨point, hpoint, rfl⟩ := List.mem_map.mp hn
  obtain ⟨index, -, rfl⟩ := List.mem_map.mp hpoint
  cases field <;> rfl

end trend

section percentile

theorem p95Recovery_nearestRank {σ : Type} {startedAt endedAt : ℤ} {rows : List (AlertLifecycle σ)}
    (h : recoveries startedAt endedAt rows ≠ []) :
    IsNearestRank 95 (recoveries startedAt endedAt rows)
      (p95Recovery (recoveryValues startedAt endedAt rows)) := by
  have hperm : (recoveryValues startedAt endedAt rows).Perm (recoveries startedAt endedAt rows) :=
    List.perm_insertionSort _ _
  have hsorted : (recoveryValues startedAt endedAt rows).Pairwise (· ≤ ·) :=
    List.pairwise_insertionSort _ _
  refine IsNearestRank.of_perm ?_ hperm
  have hlength : 0 < (recoveryValues startedAt endedAt rows).length := by
    rw [hperm.length_eq]
    exact List.length_pos_iff.mpr h
  generalize recoveryValues startedAt endedAt rows = recovery at hsorted hlength
  have hsome : ¬recovery.isEmpty = true := by
    rw [List.isEmpty_iff]
    exact List.length_pos_iff.mp hlength
  have hi : (95 * recovery.length + 99) / 100 - 1 < recovery.length := by omega
  have hrank := @isNearestRank_get ℕ _ 95 recovery hsorted (by decide) _ hi rfl
  unfold p95Recovery p95Index
  rw [if_neg hsome, if_neg hsome, List.getElem?_eq_getElem hi, Option.getD_some]
  exact hrank

end percentile

section sources

open ObservabilityService

variable {startedAt endedAt : ℤ} {rows : List (AlertLifecycle ObservabilityAlertSource)}

theorem nodup_sortedSet (values : List String) : (sortedSet values).Nodup :=
  (List.perm_insertionSort _ _).nodup_iff.mpr (List.nodup_dedup values)

theorem mem_sortedSet {values : List String} {value : String} :
    value ∈ sortedSet values ↔ value ∈ values := by
  unfold sortedSet
  rw [List.mem_insertionSort, List.mem_dedup]

def sourceCount (m : ObservabilityAlertSourceLifecycleMetrics) : LifecycleField → ℕ
  | .opened => m.opened
  | .resolved => m.resolved
  | .escalated => m.escalated

theorem sourceCount_summary (source : Option String)
    (items : List (AlertLifecycle ObservabilityAlertSource)) (field : LifecycleField) :
    sourceCount (summary startedAt endedAt source items) field =
      countIn startedAt endedAt field items := by
  cases field <;> rfl

theorem sum_bySource (field : LifecycleField) :
    ((bySource startedAt endedAt rows).map (sourceCount · field)).sum =
      countIn startedAt endedAt field rows := by
  have hgroups := sum_countP_groups (l := rows) (q := fun row ↦
      inWindow startedAt endedAt (eventOf row field)) (fun row ↦ row.source.sourceType)
    (nodup_sortedSet (rows.map (·.source.sourceType)))
    fun row hrow _ ↦ mem_sortedSet.mpr (List.mem_map_of_mem hrow)
  unfold bySource
  rw [List.map_map]
  unfold countIn
  rw [← hgroups]
  refine congrArg List.sum (List.map_congr_left fun source _ ↦ ?_)
  rw [Function.comp_apply, sourceCount_summary]
  unfold countIn
  rw [List.countP_filter]
  exact List.countP_congr fun row _ ↦ by rw [Bool.and_comm]

end sources

section baseline

open ObservabilityService

variable {rows : List (AlertLifecycle ObservabilityAlertSource)}
  {metric : ObservabilityAlertBaselineMetric} {startedAt endedAt windowDelta : ℤ}
  {windowMinutes periods minimumCurrentCount : ℕ} {sensitivity : ℚ} {round4 : ℚ → ℚ}

/-- The windows of the baseline: the current one, and those of the periods by their offsets. -/
def baselineWindows (periods : ℕ) : List (Option ℕ) := none :: (offsets periods).map some

def inBaselineWindow (startedAt endedAt windowDelta : ℤ) (eventAt : Option Datetime) :
    Option ℕ → Bool
  | none => inPeriod startedAt endedAt true eventAt
  | some offset => inPeriod (startedAt - windowDelta * (offset : ℤ))
      (startedAt - windowDelta * ((offset : ℤ) - 1)) false eventAt

/-- An event of the whole time is in exactly one window, any other in none. -/
theorem countP_baselineWindows (hdelta : 0 ≤ windowDelta) (hle : startedAt ≤ endedAt)
    (eventAt : Option Datetime) :
    (baselineWindows periods).countP (inBaselineWindow startedAt endedAt windowDelta eventAt) =
      if inWindow (startedAt - windowDelta * periods) endedAt eventAt then 1 else 0 := by
  unfold baselineWindows offsets
  rw [List.countP_cons, List.countP_map, List.countP_map, List.countP_reverse]
  cases eventAt with
  | none => simp [inBaselineWindow, inPeriod, inWindow]
  | some at' =>
    have hwindows := @countP_windows startedAt windowDelta (at' : ℤ) hdelta periods
    have hperiod : (List.range periods).countP
        ((inBaselineWindow startedAt endedAt windowDelta (some at') ∘ some) ∘ (· + 1)) =
        (List.range periods).countP fun k ↦ decide (startedAt - windowDelta * (k + 1 : ℕ) ≤ (at' : ℤ) ∧
          (at' : ℤ) < startedAt - windowDelta * (k : ℕ)) := by
      refine List.countP_congr fun k _ ↦ ?_
      have hlast : ((k + 1 : ℕ) : ℤ) - 1 = k := by omega
      dsimp only [Function.comp_apply, inBaselineWindow]
      rw [hlast]
      rfl
    have hnonneg : 0 ≤ windowDelta * periods := mul_nonneg hdelta (Int.natCast_nonneg periods)
    rw [hperiod, hwindows]
    simp only [inBaselineWindow, inPeriod, inWindow, Option.any_some, Bool.and_eq_true,
      decide_eq_true_eq, if_true]
    split_ifs <;> omega

def ofSource (sourceType : Option String) (row : AlertLifecycle ObservabilityAlertSource) : Bool :=
  sourceType.isNone || decide (some row.source.sourceType = sourceType)

def windowCount (rows : List (AlertLifecycle ObservabilityAlertSource))
    (metric : ObservabilityAlertBaselineMetric) (startedAt endedAt windowDelta : ℤ)
    (sourceType : Option String) (window : Option ℕ) : ℕ :=
  rows.countP fun row ↦ ofSource sourceType row &&
    inBaselineWindow startedAt endedAt windowDelta (metricEvent metric row) window

theorem inWindow_of_inBaselineWindow (hdelta : 0 ≤ windowDelta) (hle : startedAt ≤ endedAt)
    {eventAt : Option Datetime} {window : Option ℕ} (hwindow : window ∈ baselineWindows periods)
    (h : inBaselineWindow startedAt endedAt windowDelta eventAt window = true) :
    inWindow (startedAt - windowDelta * periods) endedAt eventAt = true := by
  have hcount : (baselineWindows periods).countP
      (inBaselineWindow startedAt endedAt windowDelta eventAt) = _ :=
    countP_baselineWindows hdelta hle eventAt
  have hpos := List.countP_pos_iff.mpr ⟨window, hwindow, h⟩
  by_contra hout
  rw [if_neg hout] at hcount
  omega

theorem mem_baselineSources (hdelta : 0 ≤ windowDelta) (hle : startedAt ≤ endedAt)
    {window : Option ℕ} (hwindow : window ∈ baselineWindows periods)
    {row : AlertLifecycle ObservabilityAlertSource} (hrow : row ∈ rows)
    (h : inBaselineWindow startedAt endedAt windowDelta (metricEvent metric row) window = true) :
    row.source.sourceType ∈ baselineSources rows (startedAt - windowDelta * periods) endedAt := by
  have hin := inWindow_of_inBaselineWindow hdelta hle hwindow h
  unfold baselineSources
  rw [mem_sortedSet]
  refine List.mem_map_of_mem (List.mem_filter.mpr ⟨hrow, ?_⟩)
  rw [Bool.or_eq_true]
  cases metric with
  | opened => exact .inl hin
  | escalated => exact .inr hin

theorem sum_sources (hdelta : 0 ≤ windowDelta) (hle : startedAt ≤ endedAt) {window : Option ℕ}
    (hwindow : window ∈ baselineWindows periods) :
    ((baselineSources rows (startedAt - windowDelta * periods) endedAt).map fun source ↦
        windowCount rows metric startedAt endedAt windowDelta (some source) window).sum =
      windowCount rows metric startedAt endedAt windowDelta none window := by
  have hgroups := sum_countP_groups (l := rows) (fun row ↦ row.source.sourceType)
    (nodup_sortedSet _) fun row hrow
        (h : inBaselineWindow startedAt endedAt windowDelta (metricEvent metric row) window = true) ↦
      mem_baselineSources hdelta hle hwindow hrow h
  unfold windowCount
  simp only [ofSource, Option.isNone_none, Option.isNone_some, Bool.true_or, Bool.true_and,
    Bool.false_or, Option.some.injEq]
  exact hgroups

def signalKey (s : ObservabilityAlertBaselineSignal) :
    ObservabilityAlertBaselineMetric × Option String :=
  (s.metric, s.sourceType)

def signalCounts (s : ObservabilityAlertBaselineSignal) : ℕ × List ℕ := (s.currentValue, s.samples)

theorem alertBaselineSignal_counts {sourceType : Option String} {current : ℕ} {samples : List ℕ}
    {s : ObservabilityAlertBaselineSignal}
    (h : alertBaselineSignal round4 metric sourceType current samples sensitivity
      minimumCurrentCount = .ok s) :
    signalKey s = (metric, sourceType) ∧ signalCounts s = (current, samples) := by
  unfold alertBaselineSignal at h
  obtain ⟨baselineMedian, -, h⟩ := bind_eq_ok.mp h
  obtain ⟨baselineMad, -, h⟩ := bind_eq_ok.mp h
  cases h
  exact ⟨rfl, rfl⟩

def askedSignals (sources : List String) : List (ObservabilityAlertBaselineMetric × Option String) :=
  (none :: sources.map some).flatMap fun sourceType ↦
    [(ObservabilityAlertBaselineMetric.opened, sourceType), (.escalated, sourceType)]

def isPart (metric : ObservabilityAlertBaselineMetric)
    (key : ObservabilityAlertBaselineMetric × Option String) : Bool :=
  decide (key.1 = metric) && key.2.isSome

theorem filter_askedSignals (sources : List String) :
    (askedSignals sources).filter (isPart metric) = sources.map fun source ↦ (metric, some source) := by
  unfold askedSignals
  rw [List.flatMap_cons, List.filter_append]
  have hnone : [(ObservabilityAlertBaselineMetric.opened, none), (.escalated, none)].filter
      (isPart metric) = [] := by
    cases metric <;> rfl
  rw [hnone, List.nil_append]
  induction sources with
  | nil => rfl
  | cons source sources ih =>
    rw [List.map_cons, List.map_cons, List.flatMap_cons, List.filter_append, ih]
    cases metric <;> rfl

def keyCount (rows : List (AlertLifecycle ObservabilityAlertSource)) (startedAt endedAt windowDelta : ℤ)
    (window : Option ℕ) (key : ObservabilityAlertBaselineMetric × Option String) : ℕ :=
  windowCount rows key.1 startedAt endedAt windowDelta key.2 window

def isReported (rows : List (AlertLifecycle ObservabilityAlertSource))
    (startedAt endedAt windowDelta : ℤ) (periods : ℕ)
    (key : ObservabilityAlertBaselineMetric × Option String) : Bool :=
  key.2.isNone || (baselineWindows periods).any fun window ↦
    decide (keyCount rows startedAt endedAt windowDelta window key ≠ 0)

theorem map_eq_of_forall₂ {α β : Type} {f : β → α} {p : α → β → Prop} {l : List α} {l' : List β}
    (h : List.Forall₂ (fun a b ↦ f b = a ∧ p a b) l l') : l'.map f = l := by
  induction h with
  | nil => rfl
  | cons hab _ ih => rw [List.map_cons, hab.1, ih]

theorem exists_of_mem_forall₂ {α β : Type} {p : α → β → Prop} {l : List α} {l' : List β}
    (h : List.Forall₂ p l l') {b : β} (hb : b ∈ l') : ∃ a ∈ l, p a b := by
  induction h with
  | nil => exact absurd hb List.not_mem_nil
  | cons hab _ ih =>
    rcases List.mem_cons.mp hb with rfl | hb
    · exact ⟨_, List.mem_cons_self, hab⟩
    · obtain ⟨a, ha, hp⟩ := ih hb
      exact ⟨a, List.mem_cons_of_mem _ ha, hp⟩

/-- The baseline reports these signals, each with the counts of its windows. -/
theorem buildAlertBaseline_signals {b : ObservabilityAlertBaseline}
    (h : buildAlertBaseline round4 rows startedAt endedAt windowDelta windowMinutes periods
      sensitivity minimumCurrentCount = .ok b) :
    b.windowStartedAt = startedAt ∧ b.windowEndedAt = endedAt ∧ b.windowMinutes = windowMinutes ∧
      b.periods = periods ∧
      b.signals.map signalKey = (askedSignals (baselineSources rows
        (startedAt - windowDelta * periods) endedAt)).filter
          (isReported rows startedAt endedAt windowDelta periods) ∧
      ∀ s ∈ b.signals, signalCounts s =
        (keyCount rows startedAt endedAt windowDelta none (signalKey s),
          (offsets periods).map fun offset ↦
            keyCount rows startedAt endedAt windowDelta (some offset) (signalKey s)) := by
  unfold buildAlertBaseline at h
  dsimp only at h
  obtain ⟨signals, hsignals, h⟩ := bind_eq_ok.mp h
  cases h
  have hforall := (of_mapM_eq_ok hsignals).imp fun _ _ hs ↦ alertBaselineSignal_counts hs
  refine ⟨rfl, rfl, rfl, rfl, ?_, ?_⟩
  · dsimp only
    have hreported : ∀ key : ObservabilityAlertBaselineMetric × Option String,
        isReported rows startedAt endedAt windowDelta periods key =
          (key.2.isNone ||
            decide (countLifecycleEvents rows key.1 key.2 startedAt endedAt true ≠ 0) ||
            (periodSamples rows key.1 key.2 startedAt windowDelta periods).any (· ≠ 0)) := by
      intro key
      unfold isReported baselineWindows periodSamples
      rw [List.any_cons, List.any_map, List.any_map, Bool.or_assoc]
      rfl
    rw [List.filter_congr fun key _ ↦ hreported key]
    exact map_eq_of_forall₂ hforall
  · intro s hs
    obtain ⟨key, -, hkey, hcounts⟩ := exists_of_mem_forall₂ hforall hs
    rw [hcounts, hkey]
    rfl

def partsOf (signals : List ObservabilityAlertBaselineSignal)
    (metric : ObservabilityAlertBaselineMetric) : List ObservabilityAlertBaselineSignal :=
  signals.filter fun s ↦ isPart metric (signalKey s)

/-- Each event of the whole time is counted in one window, each signal has the counts of the windows,
and in each window the signals of the sources add up to that of all sources. -/
structure BaselineConsistent (rows : List (AlertLifecycle ObservabilityAlertSource))
    (b : ObservabilityAlertBaseline) : Prop where
  once : ∀ row ∈ rows, ∀ metric, (baselineWindows b.periods).countP
      (inBaselineWindow b.windowStartedAt b.windowEndedAt (minutes b.windowMinutes)
        (metricEvent metric row)) =
    if inWindow (b.windowStartedAt - minutes b.windowMinutes * b.periods) b.windowEndedAt
      (metricEvent metric row) then 1 else 0
  counts : ∀ s ∈ b.signals,
    let count := windowCount rows s.metric b.windowStartedAt b.windowEndedAt
      (minutes b.windowMinutes) s.sourceType
    s.currentValue = count none ∧ s.samples = (offsets b.periods).map fun offset ↦ count (some offset)
  total : ∀ metric, ∃ s ∈ b.signals, s.metric = metric ∧ s.sourceType = none
  sums : ∀ s ∈ b.signals, s.sourceType = none →
    s.currentValue = ((partsOf b.signals s.metric).map (·.currentValue)).sum ∧
      ∀ i, s.samples.getD i 0 = ((partsOf b.signals s.metric).map (·.samples.getD i 0)).sum

/-- A sum over the signals of the sources is one over all sources. -/
theorem sum_parts (hdelta : 0 ≤ windowDelta) (hle : startedAt ≤ endedAt)
    {signals : List ObservabilityAlertBaselineSignal} {value : ObservabilityAlertBaselineSignal → ℕ}
    {window : Option ℕ} (hwindow : window ∈ baselineWindows periods)
    (hkeys : signals.map signalKey = (askedSignals (baselineSources rows
      (startedAt - windowDelta * periods) endedAt)).filter
        (isReported rows startedAt endedAt windowDelta periods))
    (hvalue : ∀ s ∈ signals,
      value s = keyCount rows startedAt endedAt windowDelta window (signalKey s)) :
    ((partsOf signals metric).map value).sum =
      windowCount rows metric startedAt endedAt windowDelta none window := by
  have hparts : (partsOf signals metric).map signalKey = ((baselineSources rows
      (startedAt - windowDelta * periods) endedAt).map fun source ↦ (metric, some source)).filter
        (isReported rows startedAt endedAt windowDelta periods) := by
    unfold partsOf
    rw [← filter_askedSignals, List.filter_comm, ← hkeys, List.filter_map]
    rfl
  have hzero : ∀ key ∈ (baselineSources rows (startedAt - windowDelta * periods) endedAt).map
      fun source ↦ (metric, some source),
      isReported rows startedAt endedAt windowDelta periods key = false →
        keyCount rows startedAt endedAt windowDelta window key = 0 := by
    intro key _ hnot
    unfold isReported at hnot
    rw [Bool.or_eq_false_iff, List.any_eq_false] at hnot
    by_contra hne
    exact hnot.2 window hwindow (decide_eq_true hne)
  calc ((partsOf signals metric).map value).sum
      = (((partsOf signals metric).map signalKey).map
          (keyCount rows startedAt endedAt windowDelta window)).sum := by
        rw [List.map_map]
        exact congrArg List.sum (List.map_congr_left fun s hs ↦ hvalue s (List.mem_filter.mp hs).1)
    _ = (((baselineSources rows (startedAt - windowDelta * periods) endedAt).map
          fun source ↦ (metric, some source)).map
            (keyCount rows startedAt endedAt windowDelta window)).sum := by
        rw [hparts, sum_map_filter hzero]
    _ = windowCount rows metric startedAt endedAt windowDelta none window := by
        rw [List.map_map, ← sum_sources hdelta hle hwindow]
        rfl

theorem buildAlertBaseline_consistent (hle : startedAt ≤ endedAt) {b : ObservabilityAlertBaseline}
    (h : buildAlertBaseline round4 rows startedAt endedAt (minutes windowMinutes) windowMinutes periods
      sensitivity minimumCurrentCount = .ok b) : BaselineConsistent rows b := by
  have hdelta : (0 : ℤ) ≤ minutes windowMinutes := Int.natCast_nonneg _
  obtain ⟨rfl, rfl, rfl, rfl, hkeys, hcounts⟩ := buildAlertBaseline_signals h
  have hvalues : ∀ s ∈ b.signals,
      s.currentValue = keyCount rows b.windowStartedAt b.windowEndedAt (minutes b.windowMinutes) none
        (signalKey s) ∧
      s.samples = (offsets b.periods).map fun offset ↦ keyCount rows b.windowStartedAt
        b.windowEndedAt (minutes b.windowMinutes) (some offset) (signalKey s) :=
    fun s hs ↦ Prod.mk.inj (hcounts s hs)
  refine ⟨fun row _ metric ↦ countP_baselineWindows hdelta hle _, hvalues, ?_, ?_⟩
  · intro metric
    have hmem : (metric, none) ∈ b.signals.map signalKey := by
      rw [hkeys]
      refine List.mem_filter.mpr ⟨List.mem_flatMap.mpr ⟨none, List.mem_cons_self, ?_⟩, rfl⟩
      cases metric <;> simp
    obtain ⟨s, hs, hkey⟩ := List.mem_map.mp hmem
    exact ⟨s, hs, Prod.mk.inj hkey⟩
  · intro s hs hsource
    obtain ⟨hcurrent, hsamples⟩ := hvalues s hs
    have hkey : signalKey s = (s.metric, none) := congrArg (Prod.mk s.metric) hsource
    rw [hkey] at hcurrent hsamples
    refine ⟨?_, fun i ↦ ?_⟩
    · rw [hcurrent, sum_parts hdelta hle List.mem_cons_self hkeys fun p hp ↦ (hvalues p hp).1]
      rfl
    · have hget : ∀ p ∈ b.signals, p.samples.getD i 0 = ((offsets b.periods)[i]?.map fun offset ↦
          keyCount rows b.windowStartedAt b.windowEndedAt (minutes b.windowMinutes) (some offset)
            (signalKey p)).getD 0 := by
        intro p hp
        rw [(hvalues p hp).2, List.getD_eq_getElem?_getD, List.getElem?_map]
      rw [hget s hs]
      cases hoffset : (offsets b.periods)[i]? with
      | none =>
        rw [List.sum_eq_zero]
        · rfl
        · intro n hn
          obtain ⟨p, hp, rfl⟩ := List.mem_map.mp hn
          rw [hget p (List.mem_filter.mp hp).1, hoffset]
          rfl
      | some offset =>
        have hwindow : some offset ∈ baselineWindows b.periods :=
          List.mem_cons_of_mem _ (List.mem_map_of_mem (List.mem_of_getElem? hoffset))
        rw [sum_parts hdelta hle hwindow hkeys fun p hp ↦ by rw [hget p hp, hoffset]; rfl, hkey]
        rfl

end baseline

section services

open ObservabilityService

variable {round4 : ℚ → ℚ} {repository : ObservabilityRepository}
  {listAlertLifecyclesInWindow : ChannelLifecyclesInWindow} {values : AlertBaselineValues}
  {tenantId agentId : UUID} {windowMinutes bucketMinutes : ℕ} {sourceType : Option String}
  {severity : Option AlertSeverity} {now : Datetime}

def ValidWindow (windowMinutes bucketMinutes : ℕ) : Prop :=
  (5 ≤ windowMinutes ∧ windowMinutes ≤ 10080) ∧ (5 ≤ bucketMinutes ∧ bucketMinutes ≤ 1440) ∧
    bucketMinutes ≤ windowMinutes

def ValidSource (sourceType : Option String) : Prop :=
  ∀ source, sourceType = some source → strip source ≠ "" ∧ (strip source).length ≤ 80

def totalOf (m : ObservabilityAlertLifecycleMetrics) : LifecycleField → ℕ
  | .opened => m.opened
  | .resolved => m.resolved
  | .escalated => m.escalated

def channelTotalOf (m : ChannelAlertLifecycleMetrics) : LifecycleField → ℕ
  | .opened => m.opened
  | .resolved => m.resolved
  | .escalated => m.escalated

/-- The metrics of a window agree with each other and with the recoveries. -/
structure MetricsConsistent (rows : List (AlertLifecycle ObservabilityAlertSource))
    (m : ObservabilityAlertLifecycleMetrics) : Prop where
  trend : ∀ field, (m.trend.map (·.get field)).sum = totalOf m field
  sources : ∀ field, (m.sources.map (sourceCount · field)).sum = totalOf m field
  percentile : recoveries m.windowStartedAt m.windowEndedAt rows ≠ [] →
    IsNearestRank 95 (recoveries m.windowStartedAt m.windowEndedAt rows) m.p95RecoverySeconds

structure ChannelMetricsConsistent (rows : List (AlertLifecycle ChannelAlertSource))
    (m : ChannelAlertLifecycleMetrics) : Prop where
  trend : ∀ field, (m.trend.map (·.get field)).sum = channelTotalOf m field
  percentile : recoveries m.windowStartedAt m.windowEndedAt rows ≠ [] →
    IsNearestRank 95 (recoveries m.windowStartedAt m.windowEndedAt rows) m.p95RecoverySeconds

theorem alertLifecycleMetrics_ok (hwindow : ValidWindow windowMinutes bucketMinutes)
    (hsource : ValidSource sourceType) :
    ∃ m, ObservabilityService.alertLifecycleMetrics repository tenantId agentId windowMinutes
      bucketMinutes sourceType severity now = .ok m := by
  obtain ⟨hminutes, hbucket, hle⟩ := hwindow
  unfold ObservabilityService.alertLifecycleMetrics
  rw [if_neg (not_not.mpr hminutes), if_neg (by omega)]
  dsimp only
  cases sourceType with
  | none => exact ⟨_, rfl⟩
  | some source =>
    obtain ⟨hne, hlength⟩ := hsource source rfl
    rw [Option.map_some, if_neg fun h ↦ hne (Option.some.inj h), Option.map_some, Option.getD_some,
      if_neg (by omega)]
    exact ⟨_, rfl⟩

theorem alertLifecycleMetrics_consistent {m : ObservabilityAlertLifecycleMetrics}
    (h : ObservabilityService.alertLifecycleMetrics repository tenantId agentId windowMinutes
      bucketMinutes sourceType severity now = .ok m) :
    MetricsConsistent (repository.listObservabilityAlertLifecyclesInWindow tenantId agentId
      m.windowStartedAt m.windowEndedAt (sourceType.map strip) severity none) m := by
  unfold ObservabilityService.alertLifecycleMetrics at h
  by_cases hminutes : 5 ≤ windowMinutes ∧ windowMinutes ≤ 10080
  · rw [if_neg (not_not.mpr hminutes)] at h
    by_cases hbucket : ¬(5 ≤ bucketMinutes ∧ bucketMinutes ≤ 1440) ∨ windowMinutes < bucketMinutes
    · rw [if_pos hbucket] at h
      cases h
    · rw [if_neg hbucket] at h
      dsimp only at h
      by_cases hempty : sourceType.map strip = some ""
      · rw [if_pos hempty] at h
        cases h
      · rw [if_neg hempty] at h
        by_cases hlong : 80 < ((sourceType.map strip).map String.length).getD 0
        · rw [if_pos hlong] at h
          cases h
        · rw [if_neg hlong] at h
          cases h
          refine ⟨fun field ↦ ?_, fun field ↦ ?_, p95Recovery_nearestRank⟩
          · rw [sum_trendOf (by omega) (by omega)]
            cases field <;> rfl
          · rw [sum_bySource]
            cases field <;> rfl
  · rw [if_pos hminutes] at h
    cases h

theorem channel_alertLifecycleMetrics_ok (hwindow : ValidWindow windowMinutes bucketMinutes) :
    ∃ m, ChannelService.alertLifecycleMetrics listAlertLifecyclesInWindow tenantId agentId
      windowMinutes bucketMinutes now = .ok m := by
  obtain ⟨hminutes, hbucket, hle⟩ := hwindow
  unfold ChannelService.alertLifecycleMetrics
  rw [if_neg (not_not.mpr hminutes), if_neg (by omega)]
  exact ⟨_, rfl⟩

theorem channel_alertLifecycleMetrics_consistent {m : ChannelAlertLifecycleMetrics}
    (h : ChannelService.alertLifecycleMetrics listAlertLifecyclesInWindow tenantId agentId
      windowMinutes bucketMinutes now = .ok m) :
    ChannelMetricsConsistent
      (listAlertLifecyclesInWindow tenantId agentId m.windowStartedAt m.windowEndedAt) m := by
  unfold ChannelService.alertLifecycleMetrics at h
  by_cases hminutes : 5 ≤ windowMinutes ∧ windowMinutes ≤ 10080
  · rw [if_neg (not_not.mpr hminutes)] at h
    by_cases hbucket : ¬(5 ≤ bucketMinutes ∧ bucketMinutes ≤ 1440) ∨ windowMinutes < bucketMinutes
    · rw [if_pos hbucket] at h
      cases h
    · rw [if_neg hbucket] at h
      cases h
      refine ⟨fun field ↦ ?_, p95Recovery_nearestRank⟩
      rw [sum_trendOf (by omega) (by omega)]
      cases field <;> rfl
  · rw [if_pos hminutes] at h
    cases h

def handoffTotal (h : ObservabilityAlertHandoff) : ObservabilityAlertBaselineMetric → ℕ
  | .opened => h.opened
  | .escalated => h.escalated

theorem handoffTotal_eq {rows : List (AlertLifecycle ObservabilityAlertSource)}
    {dispositions : List ObservabilityAlertDisposition} {startedAt endedAt windowDelta : ℤ}
    {blockedReplays : ℕ} (metric : ObservabilityAlertBaselineMetric) :
    handoffTotal (buildAlertHandoff (attachDispositions rows dispositions now) startedAt endedAt
        blockedReplays) metric =
      windowCount rows metric startedAt endedAt windowDelta none none := by
  have hevent : ∀ eventAt : Option Datetime, inWindow startedAt endedAt eventAt =
      inPeriod startedAt endedAt true eventAt := by
    intro eventAt
    cases eventAt with
    | none => rfl
    | some at' => simp [inWindow, inPeriod]
  cases metric with
  | opened =>
    dsimp only [handoffTotal, buildAlertHandoff, attachDispositions, windowCount]
    rw [List.countP_map]
    exact List.countP_congr fun row _ ↦ by rw [Function.comp_apply, hevent]; rfl
  | escalated =>
    dsimp only [handoffTotal, buildAlertHandoff, attachDispositions, windowCount]
    rw [List.countP_map]
    exact List.countP_congr fun row _ ↦ by rw [Function.comp_apply, hevent]; rfl

/-- The baseline is consistent, and its current window is that of the handoff, with the same totals. -/
structure SummaryConsistent (rows : List (AlertLifecycle ObservabilityAlertSource))
    (s : ObservabilityAlertOperationsSummary) : Prop where
  baseline : BaselineConsistent rows s.baseline
  window : s.handoff.windowStartedAt = s.baseline.windowStartedAt ∧
    s.handoff.windowEndedAt = s.baseline.windowEndedAt
  handoff : ∀ signal ∈ s.baseline.signals, signal.sourceType = none →
    signal.currentValue = handoffTotal s.handoff signal.metric

def historyRows (repository : ObservabilityRepository) (tenantId agentId : UUID)
    (b : ObservabilityAlertBaseline) : List (AlertLifecycle ObservabilityAlertSource) :=
  repository.listObservabilityAlertLifecyclesInWindow tenantId agentId
    (b.windowStartedAt - minutes b.windowMinutes * b.periods) b.windowEndedAt none none
    (some (alertOperationsSummaryMaxRecords + 1))

theorem alertOperationsSummary_consistent {s : ObservabilityAlertOperationsSummary}
    (h : alertOperationsSummary round4 repository values tenantId agentId now = .ok s) :
    SummaryConsistent (historyRows repository tenantId agentId s.baseline) s := by
  unfold alertOperationsSummary at h
  dsimp only at h
  rw [ite_eq_iff] at h
  obtain ⟨-, h⟩ := h.resolve_left fun hbad ↦ (nomatch hbad.2)
  rw [ite_eq_iff] at h
  obtain ⟨-, h⟩ := h.resolve_left fun hbad ↦ (nomatch hbad.2)
  obtain ⟨baseline, hbaseline, h⟩ := bind_eq_ok.mp h
  cases h
  have hle : (now : ℤ) - (minutes values.windowMinutes : ℕ) ≤ (now : ℤ) := by omega
  have hconsistent := buildAlertBaseline_consistent hle hbaseline
  obtain ⟨hstarted, hended, hminutes, hperiods, -⟩ := buildAlertBaseline_signals hbaseline
  unfold historyRows
  dsimp only
  rw [hstarted, hended, hminutes, hperiods]
  refine ⟨hconsistent, ⟨hstarted.symm, hended.symm⟩, fun signal hsignal hsource ↦ ?_⟩
  have hcurrent := (hconsistent.counts signal hsignal).1
  rw [hstarted, hended, hminutes, hsource] at hcurrent
  rw [hcurrent]
  exact (handoffTotal_eq signal.metric).symm

theorem median_ok {data : List ℚ} (h : data ≠ []) : ∃ x, median data = .ok x := by
  have hlength : (data.insertionSort (· ≤ ·)).length ≠ 0 := by
    rw [List.length_insertionSort]
    exact fun hzero ↦ h (List.length_eq_zero_iff.mp hzero)
  unfold median
  dsimp only
  rw [if_neg hlength]
  split <;> exact ⟨_, rfl⟩

theorem buildAlertBaseline_ok {rows : List (AlertLifecycle ObservabilityAlertSource)} {periods : ℕ}
    (hperiods : 1 ≤ periods) (startedAt endedAt windowDelta : ℤ) (windowMinutes : ℕ)
    (sensitivity : ℚ) (minimumCurrentCount : ℕ) :
    ∃ b, buildAlertBaseline round4 rows startedAt endedAt windowDelta windowMinutes periods
      sensitivity minimumCurrentCount = .ok b := by
  have hsignal : ∀ key : ObservabilityAlertBaselineMetric × Option String, ∃ s,
      alertBaselineSignal round4 key.1 key.2
        (countLifecycleEvents rows key.1 key.2 startedAt endedAt true)
        (periodSamples rows key.1 key.2 startedAt windowDelta periods) sensitivity
        minimumCurrentCount = .ok s := by
    intro key
    have hsamples : periodSamples rows key.1 key.2 startedAt windowDelta periods ≠ [] := by
      unfold periodSamples offsets
      rw [ne_eq, List.map_eq_nil_iff, List.map_eq_nil_iff, List.reverse_eq_nil_iff, List.range_eq_nil]
      omega
    have hmap : ∀ f : ℕ → ℚ,
        (periodSamples rows key.1 key.2 startedAt windowDelta periods).map f ≠ [] :=
      fun f h ↦ hsamples (List.map_eq_nil_iff.mp h)
    obtain ⟨middle, hmiddle⟩ := median_ok (hmap fun item : ℕ ↦ (item : ℚ))
    obtain ⟨mad, hmad⟩ := median_ok (hmap fun item : ℕ ↦ |(item : ℚ) - middle|)
    unfold alertBaselineSignal
    rw [bind_of_ok hmiddle, bind_of_ok hmad]
    exact ⟨_, rfl⟩
  unfold buildAlertBaseline
  dsimp only
  obtain ⟨signals, hsignals⟩ := exists_mapM_eq_ok fun key _ ↦ hsignal key
  rw [bind_of_ok hsignals]
  exact ⟨_, rfl⟩

/-- The summary stays within its limits, and there is a period to compare with. -/
structure Summarizable (repository : ObservabilityRepository) (values : AlertBaselineValues)
    (tenantId agentId : UUID) (now : Datetime) : Prop where
  rows : (repository.listObservabilityAlertLifecyclesInWindow tenantId agentId
    ((now : ℤ) - minutes values.windowMinutes - minutes values.windowMinutes * values.periods)
    (now : ℤ) none none (some (alertOperationsSummaryMaxRecords + 1))).length ≤
      alertOperationsSummaryMaxRecords
  dispositions : (repository.listObservabilityAlertDispositions tenantId agentId
    (some (alertOperationsSummaryMaxRecords + 1))).length ≤ alertOperationsSummaryMaxRecords
  periods : 1 ≤ values.periods

theorem alertOperationsSummary_ok (h : Summarizable repository values tenantId agentId now) :
    ∃ s, alertOperationsSummary round4 repository values tenantId agentId now = .ok s := by
  have hrows := h.rows
  have hdispositions := h.dispositions
  unfold alertOperationsSummary
  dsimp only
  rw [if_neg (by omega), if_neg (by omega)]
  obtain ⟨baseline, hbaseline⟩ := buildAlertBaseline_ok h.periods _ _ _ _ _ _
  rw [bind_of_ok hbaseline]
  exact ⟨_, rfl⟩

/-- Each of the three reads goes through where its arguments are valid, and what it gives is
consistent, whatever rows the repository has. -/
theorem alert_aggregates_consistent (round4 : ℚ → ℚ) (repository : ObservabilityRepository)
    (listAlertLifecyclesInWindow : ChannelLifecyclesInWindow) (values : AlertBaselineValues)
    (tenantId agentId : UUID) (windowMinutes bucketMinutes : ℕ) (sourceType : Option String)
    (severity : Option AlertSeverity) (now : Datetime) :
    ((ValidWindow windowMinutes bucketMinutes ∧ ValidSource sourceType →
        ∃ m, ObservabilityService.alertLifecycleMetrics repository tenantId agentId windowMinutes
          bucketMinutes sourceType severity now = .ok m) ∧
      ∀ m, ObservabilityService.alertLifecycleMetrics repository tenantId agentId windowMinutes
          bucketMinutes sourceType severity now = .ok m →
        MetricsConsistent (repository.listObservabilityAlertLifecyclesInWindow tenantId agentId
          m.windowStartedAt m.windowEndedAt (sourceType.map strip) severity none) m) ∧
    ((ValidWindow windowMinutes bucketMinutes →
        ∃ m, ChannelService.alertLifecycleMetrics listAlertLifecyclesInWindow tenantId agentId
          windowMinutes bucketMinutes now = .ok m) ∧
      ∀ m, ChannelService.alertLifecycleMetrics listAlertLifecyclesInWindow tenantId agentId
          windowMinutes bucketMinutes now = .ok m →
        ChannelMetricsConsistent
          (listAlertLifecyclesInWindow tenantId agentId m.windowStartedAt m.windowEndedAt) m) ∧
    (∀ rows startedAt endedAt periods, startedAt ≤ endedAt →
      (1 ≤ periods → ∃ b, buildAlertBaseline round4 rows startedAt endedAt (minutes windowMinutes)
        windowMinutes periods values.sensitivity values.minimumCurrentCount = .ok b) ∧
      ∀ b, buildAlertBaseline round4 rows startedAt endedAt (minutes windowMinutes) windowMinutes
          periods values.sensitivity values.minimumCurrentCount = .ok b → BaselineConsistent rows b) ∧
    (Summarizable repository values tenantId agentId now →
        ∃ s, alertOperationsSummary round4 repository values tenantId agentId now = .ok s) ∧
      ∀ s, alertOperationsSummary round4 repository values tenantId agentId now = .ok s →
        SummaryConsistent (historyRows repository tenantId agentId s.baseline) s := by
  refine ⟨⟨fun h ↦ alertLifecycleMetrics_ok h.1 h.2, fun m h ↦ alertLifecycleMetrics_consistent h⟩,
    ⟨channel_alertLifecycleMetrics_ok, fun m h ↦ channel_alertLifecycleMetrics_consistent h⟩, ?_,
    alertOperationsSummary_ok, fun s h ↦ alertOperationsSummary_consistent h⟩
  intro rows startedAt endedAt periods hle
  exact ⟨fun hperiods ↦ buildAlertBaseline_ok hperiods _ _ _ _ _ _,
    fun b h ↦ buildAlertBaseline_consistent hle h⟩

/-- An alert that is still active, two hours after the epoch. -/
def activeRow : AlertLifecycle ObservabilityAlertSource where
  id := 1
  tenantId := 1
  agentId := 1
  source := ⟨"api", "api_error_rate", "api_error_rate"⟩
  status := .active
  severity := .critical
  occurrences := 1
  firstOccurredAt := 7200000000
  lastOccurredAt := 7200000000
  lastEvaluatedAt := 7200000000
  escalatedAt := none
  escalationLevel := 0
  lastEscalatedAt := none
  resolvedAt := none
  recoveryDurationSeconds := none
  createdAt := 7200000000
  updatedAt := 7200000000

def resolvedRow : AlertLifecycle ObservabilityAlertSource :=
  { activeRow with
    id := 2
    source := ⟨"model", "model_error_rate", "model_error_rate"⟩
    status := .resolved
    severity := .warning
    firstOccurredAt := 5400000000
    lastOccurredAt := 5400000000
    resolvedAt := some 6000000000
    recoveryDurationSeconds := some 600 }

def escalatedRow : AlertLifecycle ObservabilityAlertSource :=
  { activeRow with
    id := 3
    source := ⟨"task", "dead_letters", "dead_letters"⟩
    occurrences := 4
    firstOccurredAt := 4000000000
    lastOccurredAt := 7000000000
    escalatedAt := some 6500000000
    escalationLevel := 1
    lastEscalatedAt := some 6500000000 }

def severalAlerts : ObservabilityRepository where
  listObservabilityAlertLifecyclesInWindow _ _ _ _ _ _ _ := [activeRow, resolvedRow, escalatedRow]
  listObservabilityAlertDispositions _ _ _ := []
  blockedReplays _ _ _ _ := 0

/-- The active one is opened at the end of the window, and counted in the last bucket and the current
window. -/
theorem alert_aggregates_consistent_severalAlerts :
    (∃ m, ObservabilityService.alertLifecycleMetrics severalAlerts 1 1 60 7 none none 7200000000 =
        .ok m ∧ MetricsConsistent [activeRow, resolvedRow, escalatedRow] m) ∧
    ∃ s, alertOperationsSummary id severalAlerts ⟨60, 3, 3, 3⟩ 1 1 7200000000 = .ok s ∧
      SummaryConsistent [activeRow, resolvedRow, escalatedRow] s := by
  obtain ⟨⟨hmetrics, hagree⟩, -, -, hsummary, hsame⟩ := alert_aggregates_consistent id severalAlerts
    (fun _ _ _ _ ↦ []) ⟨60, 3, 3, 3⟩ 1 1 60 7 none none 7200000000
  obtain ⟨m, hm⟩ := hmetrics ⟨by unfold ValidWindow; omega, nofun⟩
  obtain ⟨s, hs⟩ := hsummary ⟨by decide, by decide, by decide⟩
  exact ⟨⟨m, hm, hagree m hm⟩, s, hs, hsame s hs⟩

end services

end CyberNetizen.Alerts
