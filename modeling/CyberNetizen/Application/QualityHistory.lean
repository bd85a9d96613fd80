import Mathlib.Data.Prod.Lex
import Mathlib.Data.String.Basic
import CyberNetizen.Application.AlertAggregates
import CyberNetizen.Domain.Evaluation
import CyberNetizen.Lib.Ranking
import CyberNetizen.Lib.Tally

namespace CyberNetizen.Domain

structure EvaluationVersionSnapshot where
  suiteKey : String
  suiteVersion : ℤ
  configurationVersion : ℤ
  personaVersion : ℤ
  promptVersion : ℤ
  policyVersion : ℤ
  modelRouteVersion : ℤ
  provider : String
  model : String
  deriving DecidableEq

structure EvaluationQualityRunSample where
  runId : UUID
  createdAt : Datetime
  gatePassed : Bool
  passRate : ℚ
  snapshot : EvaluationVersionSnapshot
  deriving DecidableEq

structure EvaluationQualityReviewSample where
  runId : UUID
  preference : BlindReviewPreference
  candidateAverageScore : ℚ
  referenceAverageScore : ℚ
  createdAt : Datetime
  deriving DecidableEq

structure EvaluationQualitySamples where
  runs : List EvaluationQualityRunSample
  reviews : List EvaluationQualityReviewSample

/-- What is measured in a bucket of the trend and for a version alike. -/
structure EvaluationQualityMetrics where
  totalRuns : ℕ
  gatePassedRuns : ℕ
  averagePassRate : Option ℚ
  completedReviews : ℕ
  candidateWins : ℕ
  referenceWins : ℕ
  ties : ℕ
  candidateAverageScore : Option ℚ
  referenceAverageScore : Option ℚ
  deriving DecidableEq

structure EvaluationQualityTrendPoint extends EvaluationQualityMetrics where
  bucketStartedAt : ℤ
  bucketEndedAt : ℤ
  deriving DecidableEq

structure EvaluationVersionQualitySummary where
  snapshot : EvaluationVersionSnapshot
  firstRunAt : Datetime
  latestRunAt : Datetime
  totalRuns : ℕ
  gatePassedRuns : ℕ
  averagePassRate : ℚ
  completedReviews : ℕ
  candidateWins : ℕ
  referenceWins : ℕ
  ties : ℕ
  candidateAverageScore : Option ℚ
  referenceAverageScore : Option ℚ
  deriving DecidableEq

structure EvaluationQualityComparisonKey where
  suiteKey : String
  suiteVersion : ℤ
  provider : String
  model : String
  deriving DecidableEq

structure EvaluationQualityBaselineComparison where
  key : EvaluationQualityComparisonKey
  candidate : EvaluationVersionQualitySummary
  baseline : EvaluationVersionQualitySummary
  minimumRunsPerSnapshot : ℕ
  minimumReviewsPerSnapshot : ℕ
  automaticRegressionComparable : Bool
  blindReviewComparable : Bool
  passRateDeltaPercentagePoints : Option ℚ
  candidateAverageScoreDelta : Option ℚ
  referenceAverageScoreDelta : Option ℚ
  statisticalSignificanceAssessed : Bool := false
  causalConclusionAllowed : Bool := false
  deriving DecidableEq

inductive QualityReviewAttribution
  | runCreatedAt
  deriving DecidableEq

structure EvaluationQualityHistory where
  generatedAt : Datetime
  windowStartedAt : ℤ
  windowEndedAt : Datetime
  windowMinutes : ℕ
  bucketMinutes : ℕ
  reviewAttribution : QualityReviewAttribution
  totalRuns : ℕ
  completedReviews : ℕ
  trend : List EvaluationQualityTrendPoint
  versions : List EvaluationVersionQualitySummary
  baselineComparisons : List EvaluationQualityBaselineComparison
  comparableVersions : Bool
  automaticActionsAllowed : Bool := false
  deriving DecidableEq

end CyberNetizen.Domain

namespace CyberNetizen.Application

open Domain Tally Ranking

/-- How `get_history` can fail. -/
inductive QualityHistoryError
  | validation (message : String)
  | valueError (message : String)
  /-- A bucket that is not there, or the least of no times. -/
  | indexError
  deriving DecidableEq

/-- `get_quality_samples` of the port. -/
abbrev EvaluationQualityHistoryReader :=
  (tenantId : UUID) → (windowStartedAt windowEndedAt : ℤ) → EvaluationQualitySamples

namespace EvaluationQualityHistoryService

def minimumWindowMinutes : ℕ := 1440
def maximumWindowMinutes : ℕ := 129600
def minimumBucketMinutes : ℕ := 60
def maximumBuckets : ℕ := 90
def minimumComparisonRuns : ℕ := 5
def minimumComparisonReviews : ℕ := 5

def validateWindow (windowMinutes bucketMinutes : ℕ) : Except QualityHistoryError Unit :=
  if ¬(minimumWindowMinutes ≤ windowMinutes ∧ windowMinutes ≤ maximumWindowMinutes) then
    .error (.validation "质量历史窗口必须在 1 天到 90 天之间")
  else if ¬(minimumBucketMinutes ≤ bucketMinutes ∧ bucketMinutes ≤ windowMinutes) then
    .error (.validation "质量历史桶宽必须在 1 小时到查询窗口之间")
  else if windowMinutes % bucketMinutes ≠ 0 then
    .error (.validation "质量历史窗口必须可以被桶宽整除")
  else if maximumBuckets < windowMinutes / bucketMinutes then
    .error (.validation "质量历史时间桶不能超过 90 个")
  else .ok ()

/-- `reviews_by_run.get(run_id, ())` -/
def reviewsOf (reviewsByRun : List (UUID × List EvaluationQualityReviewSample)) (runId : UUID) :
    List EvaluationQualityReviewSample :=
  ((reviewsByRun.find? fun group ↦ group.1 = runId).map Prod.snd).getD []

def reviewsForRuns (runs : List EvaluationQualityRunSample)
    (reviewsByRun : List (UUID × List EvaluationQualityReviewSample)) :
    List EvaluationQualityReviewSample :=
  runs.flatMap fun run ↦ reviewsOf reviewsByRun run.runId

/-- `sum(values) / len(values) if values else None` -/
def average (values : List ℚ) : Option ℚ :=
  if values.isEmpty then none else some (values.sum / values.length)

def countPreference (preference : BlindReviewPreference)
    (reviews : List EvaluationQualityReviewSample) : ℕ :=
  reviews.countP fun item ↦ item.preference = preference

def metrics (runs : List EvaluationQualityRunSample)
    (reviews : List EvaluationQualityReviewSample) : EvaluationQualityMetrics where
  totalRuns := runs.length
  gatePassedRuns := runs.countP (·.gatePassed)
  averagePassRate := average (runs.map (·.passRate))
  completedReviews := reviews.length
  candidateWins := countPreference .candidate reviews
  referenceWins := countPreference .reference reviews
  ties := countPreference .tie reviews
  candidateAverageScore := average (reviews.map (·.candidateAverageScore))
  referenceAverageScore := average (reviews.map (·.referenceAverageScore))

def trendPoint (bucketStartedAt bucketEndedAt : ℤ) (runs : List EvaluationQualityRunSample)
    (reviews : List EvaluationQualityReviewSample) : EvaluationQualityTrendPoint :=
  { metrics runs reviews with bucketStartedAt, bucketEndedAt }

def versionSummary (snapshot : EvaluationVersionSnapshot) (runs : List EvaluationQualityRunSample)
    (reviews : List EvaluationQualityReviewSample) :
    Except QualityHistoryError EvaluationVersionQualitySummary :=
  let metrics := metrics runs reviews
  match metrics.averagePassRate with
  | none => .error (.valueError "冻结版本摘要至少需要一个运行样本")
  | some averagePassRate =>
    match (runs.map (·.createdAt)).min?, (runs.map (·.createdAt)).max? with
    | some firstRunAt, some latestRunAt => .ok
        { snapshot
          firstRunAt
          latestRunAt
          totalRuns := metrics.totalRuns
          gatePassedRuns := metrics.gatePassedRuns
          averagePassRate
          completedReviews := metrics.completedReviews
          candidateWins := metrics.candidateWins
          referenceWins := metrics.referenceWins
          ties := metrics.ties
          candidateAverageScore := metrics.candidateAverageScore
          referenceAverageScore := metrics.referenceAverageScore }
    | _, _ => .error .indexError

abbrev VersionOrderKey :=
  Datetime ×ₗ Datetime ×ₗ String ×ₗ ℤ ×ₗ ℤ ×ₗ ℤ ×ₗ ℤ ×ₗ ℤ ×ₗ ℤ ×ₗ String ×ₗ String

def versionOrderKey (item : EvaluationVersionQualitySummary) : VersionOrderKey :=
  toLex (item.latestRunAt, toLex (item.firstRunAt, toLex (item.snapshot.suiteKey,
    toLex (item.snapshot.suiteVersion, toLex (item.snapshot.configurationVersion,
    toLex (item.snapshot.personaVersion, toLex (item.snapshot.promptVersion,
    toLex (item.snapshot.policyVersion, toLex (item.snapshot.modelRouteVersion,
    toLex (item.snapshot.provider, item.snapshot.model))))))))))

def comparisonKey (snapshot : EvaluationVersionSnapshot) : EvaluationQualityComparisonKey where
  suiteKey := snapshot.suiteKey
  suiteVersion := snapshot.suiteVersion
  provider := snapshot.provider
  model := snapshot.model

variable (round4 : ℚ → ℚ)

def scoreDelta (candidate baseline : Option ℚ) (comparable : Bool) : Option ℚ :=
  match comparable, candidate, baseline with
  | true, some candidate, some baseline => some (round4 (candidate - baseline))
  | _, _, _ => none

def baselineComparison (key : EvaluationQualityComparisonKey)
    (candidate baseline : EvaluationVersionQualitySummary) :
    EvaluationQualityBaselineComparison :=
  let automaticRegressionComparable := decide (minimumComparisonRuns ≤ candidate.totalRuns) &&
    decide (minimumComparisonRuns ≤ baseline.totalRuns)
  let blindReviewComparable := decide (minimumComparisonReviews ≤ candidate.completedReviews) &&
    decide (minimumComparisonReviews ≤ baseline.completedReviews)
  { key
    candidate
    baseline
    minimumRunsPerSnapshot := minimumComparisonRuns
    minimumReviewsPerSnapshot := minimumComparisonReviews
    automaticRegressionComparable
    blindReviewComparable
    passRateDeltaPercentagePoints :=
      if automaticRegressionComparable then
        some (round4 (candidate.averagePassRate - baseline.averagePassRate))
      else none
    candidateAverageScoreDelta := scoreDelta round4 candidate.candidateAverageScore
      baseline.candidateAverageScore blindReviewComparable
    referenceAverageScoreDelta := scoreDelta round4 candidate.referenceAverageScore
      baseline.referenceAverageScore blindReviewComparable }

/-- Of each group the newest version is compared with the one before it. -/
def baselineComparisons (versions : List EvaluationVersionQualitySummary) :
    List EvaluationQualityBaselineComparison :=
  let comparisons := (groups (fun version ↦ comparisonKey version.snapshot) versions).filterMap
    fun group ↦ match sortedByDesc versionOrderKey group.2 with
      | candidate :: baseline :: _ => some (baselineComparison round4 group.1 candidate baseline)
      | _ => none
  sortedByDesc
    (fun item ↦ toLex (item.candidate.latestRunAt, toLex (item.key.suiteKey,
      toLex (item.key.suiteVersion, toLex (item.key.provider, item.key.model)))))
    comparisons

/-- The number of the bucket. The seconds, divided as floats, have the same floor: below ninety days
a microsecond is more than what the floats leave out. -/
def bucketIndex (windowStartedAt : ℤ) (bucketMinutes : ℕ) (run : EvaluationQualityRunSample) : ℤ :=
  ((run.createdAt : ℤ) - windowStartedAt) / minutes bucketMinutes

/-- `bucket_runs[bucket_index].append(run)` of a number that is not negative. -/
def appendRun (windowStartedAt : ℤ) (bucketMinutes : ℕ)
    (bucketRuns : List (List EvaluationQualityRunSample)) (run : EvaluationQualityRunSample) :
    Except QualityHistoryError (List (List EvaluationQualityRunSample)) :=
  let index := bucketIndex windowStartedAt bucketMinutes run
  if 0 ≤ index ∧ index < bucketRuns.length then
    .ok (bucketRuns.modify index.toNat (· ++ [run]))
  else .error .indexError

def windowRuns (windowStartedAt windowEndedAt : ℤ) (samples : EvaluationQualitySamples) :
    List EvaluationQualityRunSample :=
  samples.runs.filter fun item ↦
    decide (windowStartedAt ≤ (item.createdAt : ℤ)) && decide ((item.createdAt : ℤ) < windowEndedAt)

def windowReviews (windowStartedAt windowEndedAt : ℤ) (samples : EvaluationQualitySamples) :
    List EvaluationQualityReviewSample :=
  samples.reviews.filter fun item ↦
    decide (item.runId ∈ (windowRuns windowStartedAt windowEndedAt samples).map (·.runId)) &&
      decide ((item.createdAt : ℤ) < windowEndedAt)

def getHistory (reader : EvaluationQualityHistoryReader) (tenantId : UUID)
    (windowMinutes bucketMinutes : ℕ) (now : Datetime) :
    Except QualityHistoryError EvaluationQualityHistory := do
  validateWindow windowMinutes bucketMinutes
  let windowStartedAt : ℤ := (now : ℤ) - minutes windowMinutes
  let samples := reader tenantId windowStartedAt now
  let runs := windowRuns windowStartedAt now samples
  let reviews := windowReviews windowStartedAt now samples
  let reviewsByRun := groups (fun review ↦ review.runId) reviews
  let bucketRuns ← runs.foldlM (appendRun windowStartedAt bucketMinutes)
    (List.replicate (windowMinutes / bucketMinutes) [])
  let trend := bucketRuns.mapIdx fun index items ↦
    trendPoint (windowStartedAt + minutes (index * bucketMinutes))
      (windowStartedAt + minutes ((index + 1) * bucketMinutes)) items
      (reviewsForRuns items reviewsByRun)
  let summaries ← (groups (fun run ↦ run.snapshot) runs).mapM fun group ↦
    versionSummary group.1 group.2 (reviewsForRuns group.2 reviewsByRun)
  let versions := sortedByDesc versionOrderKey summaries
  return {
    generatedAt := now
    windowStartedAt
    windowEndedAt := now
    windowMinutes
    bucketMinutes
    reviewAttribution := .runCreatedAt
    totalRuns := runs.length
    completedReviews := reviews.length
    trend
    versions
    baselineComparisons := baselineComparisons round4 versions
    comparableVersions := decide (2 ≤ versions.length) }

end EvaluationQualityHistoryService

end CyberNetizen.Application
