import Mathlib.Data.List.Lex
import CyberNetizen.Application.TaskService
import CyberNetizen.Infrastructure.AlertLifecycles

namespace CyberNetizen.Application

open Domain

/-- `timedelta(minutes=…)`, in microseconds. -/
def minutes (n : ℕ) : ℕ := n * 60000000

inductive LifecycleField
  | opened | resolved | escalated
  deriving DecidableEq

/-- The start of a window may lie before the epoch. -/
structure AlertLifecycleTrendPoint where
  bucketStartedAt : ℤ
  opened : ℕ
  resolved : ℕ
  escalated : ℕ
  deriving DecidableEq

def AlertLifecycleTrendPoint.get (point : AlertLifecycleTrendPoint) : LifecycleField → ℕ
  | .opened => point.opened
  | .resolved => point.resolved
  | .escalated => point.escalated

/-- `replace(point, **{field: getattr(point, field) + 1})` -/
def AlertLifecycleTrendPoint.increment (field : LifecycleField) (point : AlertLifecycleTrendPoint) :
    AlertLifecycleTrendPoint :=
  match field with
  | .opened => { point with opened := point.opened + 1 }
  | .resolved => { point with resolved := point.resolved + 1 }
  | .escalated => { point with escalated := point.escalated + 1 }

section rows

variable {σ : Type}

/-- `event_at is not None and started_at <= event_at <= ended_at` -/
def inWindow (startedAt endedAt : ℤ) (eventAt : Option Datetime) : Bool :=
  eventAt.any fun at' : Datetime ↦ decide (startedAt ≤ (at' : ℤ)) && decide ((at' : ℤ) ≤ endedAt)

def eventOf (row : AlertLifecycle σ) : LifecycleField → Option Datetime
  | .opened => some row.firstOccurredAt
  | .resolved => row.resolvedAt
  | .escalated => row.escalatedAt

/-- `add_event`; the last bucket also takes what happens at the end of the window. -/
def addEvent (startedAt endedAt : ℤ) (bucketSeconds bucketCount : ℕ)
    (buckets : List AlertLifecycleTrendPoint) (eventAt : Option Datetime) (field : LifecycleField) :
    List AlertLifecycleTrendPoint :=
  match eventAt with
  | none => buckets
  | some at' =>
    if startedAt ≤ (at' : ℤ) ∧ (at' : ℤ) ≤ endedAt then
      buckets.modify
        (min (bucketCount - 1) (((at' : ℤ) - startedAt).toNat / 1000000 / bucketSeconds))
        (AlertLifecycleTrendPoint.increment field)
    else buckets

/-- The loop over the rows. -/
def trendOf (startedAt endedAt : ℤ) (windowMinutes bucketMinutes : ℕ)
    (rows : List (AlertLifecycle σ)) : List AlertLifecycleTrendPoint :=
  let bucketSeconds := bucketMinutes * 60
  let bucketCount := (windowMinutes + bucketMinutes - 1) / bucketMinutes
  let add := addEvent startedAt endedAt bucketSeconds bucketCount
  rows.foldl
    (fun buckets row ↦
      add (add (add buckets (some row.firstOccurredAt) .opened) row.resolvedAt .resolved)
        row.escalatedAt .escalated)
    ((List.range bucketCount).map fun index ↦
      ⟨startedAt + minutes (index * bucketMinutes), 0, 0, 0⟩)

def recoveries (startedAt endedAt : ℤ) (rows : List (AlertLifecycle σ)) : List ℕ :=
  (rows.filter fun row ↦ inWindow startedAt endedAt row.resolvedAt).filterMap
    (·.recoveryDurationSeconds)

def recoveryValues (startedAt endedAt : ℤ) (rows : List (AlertLifecycle σ)) : List ℕ :=
  (recoveries startedAt endedAt rows).insertionSort (· ≤ ·)

def meanRecovery (recovery : List ℕ) : ℚ :=
  if recovery.isEmpty then 0 else (recovery.sum : ℚ) / recovery.length

def p95Index (recovery : List ℕ) : ℕ :=
  if recovery.isEmpty then 0 else (95 * recovery.length + 99) / 100 - 1

def p95Recovery (recovery : List ℕ) : ℕ :=
  if recovery.isEmpty then 0 else (recovery[p95Index recovery]?).getD 0

def isActiveRow (row : AlertLifecycle σ) : Bool := row.status = .active

/-- `sum(… for item in items)` of one kind of change. -/
def countIn (startedAt endedAt : ℤ) (field : LifecycleField) (rows : List (AlertLifecycle σ)) : ℕ :=
  rows.countP fun row ↦ inWindow startedAt endedAt (eventOf row field)

end rows

/-! ## Channels -/

structure ChannelAlertLifecycleMetrics where
  windowStartedAt : ℤ
  windowEndedAt : ℤ
  active : ℕ
  opened : ℕ
  resolved : ℕ
  escalated : ℕ
  meanRecoverySeconds : ℚ
  p95RecoverySeconds : ℕ
  trend : List AlertLifecycleTrendPoint
  deriving DecidableEq

/-- `list_alert_lifecycles_in_window` of the port. -/
abbrev ChannelLifecyclesInWindow :=
  (tenantId agentId : UUID) → (windowStartedAt windowEndedAt : ℤ) →
    List (AlertLifecycle ChannelAlertSource)

namespace ChannelService

def alertLifecycleMetrics (listAlertLifecyclesInWindow : ChannelLifecyclesInWindow)
    (tenantId agentId : UUID) (windowMinutes bucketMinutes : ℕ) (now : Datetime) :
    Except String ChannelAlertLifecycleMetrics :=
  if ¬(5 ≤ windowMinutes ∧ windowMinutes ≤ 10080) then
    .error "生命周期统计窗口必须位于 5 到 10080 分钟之间"
  else if ¬(5 ≤ bucketMinutes ∧ bucketMinutes ≤ 1440) ∨ windowMinutes < bucketMinutes then
    .error "生命周期趋势时间桶必须位于 5 分钟到统计窗口之间"
  else
    let endedAt : ℤ := (now : ℤ)
    let startedAt := endedAt - minutes windowMinutes
    let rows := listAlertLifecyclesInWindow tenantId agentId startedAt endedAt
    let recovery := recoveryValues startedAt endedAt rows
    .ok
      { windowStartedAt := startedAt
        windowEndedAt := endedAt
        active := rows.countP isActiveRow
        opened := countIn startedAt endedAt .opened rows
        resolved := countIn startedAt endedAt .resolved rows
        escalated := countIn startedAt endedAt .escalated rows
        meanRecoverySeconds := meanRecovery recovery
        p95RecoverySeconds := p95Recovery recovery
        trend := trendOf startedAt endedAt windowMinutes bucketMinutes rows }

end ChannelService

/-! ## General alerts -/

structure ObservabilityAlertSourceLifecycleMetrics where
  sourceType : String
  active : ℕ
  opened : ℕ
  resolved : ℕ
  escalated : ℕ
  meanRecoverySeconds : ℚ
  p95RecoverySeconds : ℕ
  deriving DecidableEq

structure ObservabilityAlertLifecycleMetrics where
  windowStartedAt : ℤ
  windowEndedAt : ℤ
  active : ℕ
  opened : ℕ
  resolved : ℕ
  escalated : ℕ
  meanRecoverySeconds : ℚ
  p95RecoverySeconds : ℕ
  sources : List ObservabilityAlertSourceLifecycleMetrics
  trend : List AlertLifecycleTrendPoint
  deriving DecidableEq

structure ObservabilityAlertDisposition where
  sourceType : String
  sourceKey : String
  status : AlertDispositionStatus
  reason : String
  expiresAt : Option Datetime

structure ObservabilityRepository where
  listObservabilityAlertLifecyclesInWindow : (tenantId agentId : UUID) →
    (windowStartedAt windowEndedAt : ℤ) → (sourceType : Option String) →
    (severity : Option AlertSeverity) → (limit : Option ℕ) →
    List (AlertLifecycle ObservabilityAlertSource)
  listObservabilityAlertDispositions : (tenantId agentId : UUID) → (limit : Option ℕ) →
    List ObservabilityAlertDisposition
  /-- `get_observability_alert_replay_metrics(…).blocked` -/
  blockedReplays : (tenantId agentId : UUID) → (windowStartedAt windowEndedAt : ℤ) → ℕ

inductive ObservabilityAlertBaselineMetric
  | opened | escalated
  deriving DecidableEq

structure ObservabilityAlertBaselineSignal where
  metric : ObservabilityAlertBaselineMetric
  sourceType : Option String
  currentValue : ℕ
  baselineMedian : ℚ
  baselineMad : ℚ
  thresholdValue : ℚ
  anomalous : Bool
  samples : List ℕ
  deriving DecidableEq

structure ObservabilityAlertBaseline where
  windowStartedAt : ℤ
  windowEndedAt : ℤ
  windowMinutes : ℕ
  periods : ℕ
  sensitivity : ℚ
  minimumCurrentCount : ℕ
  signals : List ObservabilityAlertBaselineSignal
  deriving DecidableEq

inductive ObservabilityAlertHandoffReason
  | critical | unacknowledged | escalated | suppressionExpiring
  deriving DecidableEq

structure ObservabilityAlertHandoffSource where
  sourceType : String
  active : ℕ
  criticalActive : ℕ
  unacknowledgedActive : ℕ
  opened : ℕ
  resolved : ℕ
  escalated : ℕ
  deriving DecidableEq

structure ObservabilityAlertHandoffItem where
  lifecycleId : UUID
  sourceType : String
  sourceKey : String
  code : String
  severity : AlertSeverity
  escalationLevel : ℕ
  activeMinutes : ℕ
  dispositionStatus : Option AlertDispositionStatus
  dispositionExpiresAt : Option Datetime
  reasonCodes : List ObservabilityAlertHandoffReason
  deriving DecidableEq

structure ObservabilityAlertHandoff where
  windowStartedAt : ℤ
  windowEndedAt : ℤ
  active : ℕ
  criticalActive : ℕ
  unacknowledgedActive : ℕ
  acknowledgedActive : ℕ
  suppressedActive : ℕ
  opened : ℕ
  resolved : ℕ
  escalated : ℕ
  blockedReplays : ℕ
  sources : List ObservabilityAlertHandoffSource
  priorityItems : List ObservabilityAlertHandoffItem
  deriving DecidableEq

structure ObservabilityAlertOperationsSummary where
  generatedAt : Datetime
  baseline : ObservabilityAlertBaseline
  handoff : ObservabilityAlertHandoff
  deriving DecidableEq

structure DisposedLifecycle extends AlertLifecycle ObservabilityAlertSource where
  dispositionStatus : Option AlertDispositionStatus
  dispositionReason : Option String
  dispositionExpiresAt : Option Datetime

/-- The effective values of the four keys `alerts.baseline.…`. -/
structure AlertBaselineValues where
  windowMinutes : ℕ
  periods : ℕ
  sensitivity : ℚ
  minimumCurrentCount : ℕ

def median (data : List ℚ) : Except String ℚ :=
  let sorted := data.insertionSort (· ≤ ·)
  let n := sorted.length
  if n = 0 then .error "no median for empty data"
  else if n % 2 = 1 then .ok ((sorted[n / 2]?).getD 0)
  else .ok (((sorted[n / 2 - 1]?).getD 0 + (sorted[n / 2]?).getD 0) / 2)

namespace ObservabilityService

def alertOperationsSummaryMaxRecords : ℕ := 10000

/-- `sorted({…})` on strings. -/
def sortedSet (values : List String) : List String := values.dedup.insertionSort (· ≤ ·)

def summary (startedAt endedAt : ℤ) (source : Option String)
    (items : List (AlertLifecycle ObservabilityAlertSource)) :
    ObservabilityAlertSourceLifecycleMetrics :=
  let recovery := recoveryValues startedAt endedAt items
  { sourceType := stringOr source "全部来源"
    active := items.countP isActiveRow
    opened := countIn startedAt endedAt .opened items
    resolved := countIn startedAt endedAt .resolved items
    escalated := countIn startedAt endedAt .escalated items
    meanRecoverySeconds := meanRecovery recovery
    p95RecoverySeconds := p95Recovery recovery }

def bySource (startedAt endedAt : ℤ) (rows : List (AlertLifecycle ObservabilityAlertSource)) :
    List ObservabilityAlertSourceLifecycleMetrics :=
  (sortedSet (rows.map (·.source.sourceType))).map fun source ↦
    summary startedAt endedAt (some source) (rows.filter (·.source.sourceType = source))

def alertLifecycleMetrics (repository : ObservabilityRepository) (tenantId agentId : UUID)
    (windowMinutes bucketMinutes : ℕ) (sourceType : Option String)
    (severity : Option AlertSeverity) (now : Datetime) :
    Except String ObservabilityAlertLifecycleMetrics :=
  if ¬(5 ≤ windowMinutes ∧ windowMinutes ≤ 10080) then
    .error "通用告警统计窗口必须位于 5 到 10080 分钟之间"
  else if ¬(5 ≤ bucketMinutes ∧ bucketMinutes ≤ 1440) ∨ windowMinutes < bucketMinutes then
    .error "通用告警趋势时间桶必须位于 5 分钟到统计窗口之间"
  else
    let normalizedSource := sourceType.map strip
    if normalizedSource = some "" then .error "通用告警来源类型不能为空"
    else if 80 < (normalizedSource.map String.length).getD 0 then
      .error "通用告警来源类型不能超过 80 个字符"
    else
      -- `replace(second=0, microsecond=0)`
      let endedAt : ℤ := (now - now % minutes 1 : ℕ)
      let startedAt := endedAt - minutes windowMinutes
      let rows := repository.listObservabilityAlertLifecyclesInWindow tenantId agentId startedAt
        endedAt normalizedSource severity none
      let recovery := recoveryValues startedAt endedAt rows
      .ok
        { windowStartedAt := startedAt
          windowEndedAt := endedAt
          active := rows.countP isActiveRow
          opened := countIn startedAt endedAt .opened rows
          resolved := countIn startedAt endedAt .resolved rows
          escalated := countIn startedAt endedAt .escalated rows
          meanRecoverySeconds := meanRecovery recovery
          p95RecoverySeconds := p95Recovery recovery
          sources := bySource startedAt endedAt rows
          trend := trendOf startedAt endedAt windowMinutes bucketMinutes rows }

/-- The `in_window` of `_count_lifecycle_events`. -/
def inPeriod (startedAt endedAt : ℤ) (includeEnd : Bool) (eventAt : Option Datetime) : Bool :=
  match eventAt with
  | none => false
  | some at' =>
    if includeEnd then decide (startedAt ≤ (at' : ℤ) ∧ (at' : ℤ) ≤ endedAt)
    else decide (startedAt ≤ (at' : ℤ) ∧ (at' : ℤ) < endedAt)

/-- `row.first_occurred_at if metric == "opened" else row.escalated_at` -/
def metricEvent (metric : ObservabilityAlertBaselineMetric)
    (row : AlertLifecycle ObservabilityAlertSource) : Option Datetime :=
  if metric = .opened then some row.firstOccurredAt else row.escalatedAt

def countLifecycleEvents (rows : List (AlertLifecycle ObservabilityAlertSource))
    (metric : ObservabilityAlertBaselineMetric) (sourceType : Option String)
    (startedAt endedAt : ℤ) (includeEnd : Bool) : ℕ :=
  rows.countP fun row ↦ (sourceType.isNone || decide (some row.source.sourceType = sourceType)) &&
    inPeriod startedAt endedAt includeEnd (metricEvent metric row)

variable (round4 : ℚ → ℚ)

def alertBaselineSignal (metric : ObservabilityAlertBaselineMetric) (sourceType : Option String)
    (current : ℕ) (samples : List ℕ) (sensitivity : ℚ) (minimumCurrentCount : ℕ) :
    Except String ObservabilityAlertBaselineSignal := do
  let baselineMedian ← median (samples.map fun item : ℕ ↦ (item : ℚ))
  let baselineMad ← median (samples.map fun item : ℕ ↦ |(item : ℚ) - baselineMedian|)
  let robustDeviation := max 1 (14826 / 10000 * baselineMad)
  let threshold := round4 (max (minimumCurrentCount : ℚ)
    (baselineMedian + sensitivity * robustDeviation))
  return {
    metric
    sourceType
    currentValue := current
    baselineMedian := round4 baselineMedian
    baselineMad := round4 baselineMad
    thresholdValue := threshold
    anomalous := threshold ≤ (current : ℚ)
    samples }

/-- `range(periods, 0, -1)` -/
def offsets (periods : ℕ) : List ℕ := (List.range periods).reverse.map (· + 1)

/-- The counts of the period windows, the oldest first. -/
def periodSamples (rows : List (AlertLifecycle ObservabilityAlertSource))
    (metric : ObservabilityAlertBaselineMetric) (sourceType : Option String) (startedAt : ℤ)
    (windowDelta : ℤ) (periods : ℕ) : List ℕ :=
  (offsets periods).map fun offset : ℕ ↦
    countLifecycleEvents rows metric sourceType (startedAt - windowDelta * (offset : ℤ))
      (startedAt - windowDelta * ((offset : ℤ) - 1)) false

def baselineSources (rows : List (AlertLifecycle ObservabilityAlertSource))
    (historyStartedAt endedAt : ℤ) : List String :=
  sortedSet ((rows.filter fun row ↦
    inWindow historyStartedAt endedAt (some row.firstOccurredAt) ||
      inWindow historyStartedAt endedAt row.escalatedAt).map (·.source.sourceType))

def buildAlertBaseline (rows : List (AlertLifecycle ObservabilityAlertSource))
    (startedAt endedAt windowDelta : ℤ) (windowMinutes periods : ℕ) (sensitivity : ℚ)
    (minimumCurrentCount : ℕ) : Except String ObservabilityAlertBaseline := do
  let historyStartedAt := startedAt - windowDelta * periods
  let sourceTypes := baselineSources rows historyStartedAt endedAt
  let asked := (none :: sourceTypes.map some).flatMap fun sourceType ↦
    [(ObservabilityAlertBaselineMetric.opened, sourceType), (.escalated, sourceType)]
  let reported := asked.filter fun (metric, sourceType) ↦
    let current := countLifecycleEvents rows metric sourceType startedAt endedAt true
    let samples := periodSamples rows metric sourceType startedAt windowDelta periods
    sourceType.isNone || current ≠ 0 || samples.any (· ≠ 0)
  let signals ← reported.mapM fun (metric, sourceType) ↦
    alertBaselineSignal round4 metric sourceType
      (countLifecycleEvents rows metric sourceType startedAt endedAt true)
      (periodSamples rows metric sourceType startedAt windowDelta periods)
      sensitivity minimumCurrentCount
  return {
    windowStartedAt := startedAt
    windowEndedAt := endedAt
    windowMinutes
    periods
    sensitivity
    minimumCurrentCount
    signals }

/-- `_attach_dispositions`; of two with one key the later one counts. -/
def attachDispositions (lifecycles : List (AlertLifecycle ObservabilityAlertSource))
    (dispositions : List ObservabilityAlertDisposition) (evaluatedAt : Datetime) :
    List DisposedLifecycle :=
  let inForce := dispositions.filter fun item ↦
    item.status = .acknowledged ||
      (item.status = .suppressed && item.expiresAt.any fun expiresAt ↦ evaluatedAt < expiresAt)
  lifecycles.map fun lifecycle ↦
    let disposition := inForce.reverse.find? fun item ↦
      item.sourceType = lifecycle.source.sourceType && item.sourceKey = lifecycle.source.sourceKey
    { toAlertLifecycle := lifecycle
      dispositionStatus := disposition.map (·.status)
      dispositionReason := disposition.map (·.reason)
      dispositionExpiresAt := disposition.bind (·.expiresAt) }

def priorityKey (row : DisposedLifecycle) : List ℤ :=
  [if row.severity = .critical then 0 else 1, if row.dispositionStatus = none then 0 else 1,
    -(row.escalationLevel : ℤ), (row.firstOccurredAt : ℤ), (row.id : ℤ)]

/-- `reasons` -/
def handoffReasons (startedAt endedAt : ℤ) (row : DisposedLifecycle) :
    List ObservabilityAlertHandoffReason :=
  let suppressionExpiryLimit := endedAt + (endedAt - startedAt)
  (if row.severity = .critical then [.critical] else []) ++
    (if row.dispositionStatus = none then [.unacknowledged] else []) ++
    (if 0 < row.escalationLevel then [.escalated] else []) ++
    if row.dispositionStatus = some .suppressed &&
        row.dispositionExpiresAt.any fun at' : Datetime ↦ decide ((at' : ℤ) ≤ suppressionExpiryLimit)
    then [.suppressionExpiring] else []

def handoffItem (startedAt endedAt : ℤ) (row : DisposedLifecycle) :
    ObservabilityAlertHandoffItem where
  lifecycleId := row.id
  sourceType := row.source.sourceType
  sourceKey := row.source.sourceKey
  code := row.source.code
  severity := row.severity
  escalationLevel := row.escalationLevel
  activeMinutes := ((endedAt - (row.firstOccurredAt : ℤ)) / 60000000).toNat
  dispositionStatus := row.dispositionStatus
  dispositionExpiresAt := row.dispositionExpiresAt
  reasonCodes := handoffReasons startedAt endedAt row

def buildAlertHandoff (rows : List DisposedLifecycle) (startedAt endedAt : ℤ)
    (blockedReplays : ℕ) : ObservabilityAlertHandoff :=
  let happened := fun (row : DisposedLifecycle) field ↦
    inWindow startedAt endedAt (eventOf row.toAlertLifecycle field)
  let activeRows := rows.filter (·.status = .active)
  let sourceTypes := sortedSet ((rows.filter fun row ↦ row.status = .active ||
    happened row .opened || happened row .resolved || happened row .escalated).map
      (·.source.sourceType))
  let ofSource := fun sourceType (row : DisposedLifecycle) ↦
    decide (row.source.sourceType = sourceType)
  { windowStartedAt := startedAt
    windowEndedAt := endedAt
    active := activeRows.length
    criticalActive := activeRows.countP (·.severity = .critical)
    unacknowledgedActive := activeRows.countP (·.dispositionStatus = none)
    acknowledgedActive := activeRows.countP (·.dispositionStatus = some .acknowledged)
    suppressedActive := activeRows.countP (·.dispositionStatus = some .suppressed)
    opened := rows.countP (happened · .opened)
    resolved := rows.countP (happened · .resolved)
    escalated := rows.countP (happened · .escalated)
    blockedReplays
    sources := sourceTypes.map fun sourceType ↦
      { sourceType
        active := activeRows.countP (ofSource sourceType)
        criticalActive := activeRows.countP fun row ↦
          ofSource sourceType row && row.severity = .critical
        unacknowledgedActive := activeRows.countP fun row ↦
          ofSource sourceType row && row.dispositionStatus = none
        opened := rows.countP fun row ↦ ofSource sourceType row && happened row .opened
        resolved := rows.countP fun row ↦ ofSource sourceType row && happened row .resolved
        escalated := rows.countP fun row ↦ ofSource sourceType row && happened row .escalated }
    priorityItems := ((activeRows.insertionSort fun a b ↦ priorityKey a ≤ priorityKey b).take 10).map
      (handoffItem startedAt endedAt) }

def alertOperationsSummary (repository : ObservabilityRepository) (values : AlertBaselineValues)
    (tenantId agentId : UUID) (now : Datetime) :
    Except String ObservabilityAlertOperationsSummary :=
  let endedAt : ℤ := (now : ℤ)
  let windowDelta : ℤ := (minutes values.windowMinutes : ℕ)
  let startedAt := endedAt - windowDelta
  let historyStartedAt := startedAt - windowDelta * values.periods
  let rows := repository.listObservabilityAlertLifecyclesInWindow tenantId agentId historyStartedAt
    endedAt none none (some (alertOperationsSummaryMaxRecords + 1))
  if alertOperationsSummaryMaxRecords < rows.length then
    .error "告警运营摘要超过 10000 条生命周期安全上限，请缩短基线窗口或清理历史后重试"
  else
    let dispositions := repository.listObservabilityAlertDispositions tenantId agentId
      (some (alertOperationsSummaryMaxRecords + 1))
    if alertOperationsSummaryMaxRecords < dispositions.length then
      .error "告警运营摘要超过 10000 条处置记录安全上限，请清理历史后重试"
    else do
      let enriched := attachDispositions rows dispositions now
      let blocked := repository.blockedReplays tenantId agentId startedAt endedAt
      let baseline ← buildAlertBaseline round4 rows startedAt endedAt windowDelta
        values.windowMinutes values.periods values.sensitivity values.minimumCurrentCount
      return {
        generatedAt := now
        baseline
        handoff := buildAlertHandoff enriched startedAt endedAt blocked }

end ObservabilityService

end CyberNetizen.Application
