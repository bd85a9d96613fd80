import Mathlib.Algebra.Order.Field.Rat
import Mathlib.Data.Prod.Lex
import Mathlib.Data.String.Basic
import CyberNetizen.Domain.Channel
import CyberNetizen.Domain.Memory
import CyberNetizen.Lib.Ranking

namespace CyberNetizen.Cognition

open Domain Ranking

/-- The functions of `math` and `round(_, 6)`. -/
structure FloatMath where
  sqrt : ℚ → ℚ
  exp : ℚ → ℚ
  log : ℚ → ℚ
  round6 : ℚ → ℚ

structure HybridRecallWeights where
  fullText : ℚ
  semantic : ℚ
  recency : ℚ
  importance : ℚ
  relationship : ℚ
  nonnegative : 0 ≤ fullText ∧ 0 ≤ semantic ∧ 0 ≤ recency ∧ 0 ≤ importance ∧ 0 ≤ relationship
  positive : 0 < fullText + semantic + recency + importance + relationship

namespace HybridMemoryRanker

def version : String := "hybrid-v1"

def unit (value : ℚ) : ℚ := max 0 (min 1 value)

/-- `(evaluated_at - event_at).total_seconds() / 86400`, not below zero. -/
def ageDays (evaluatedAt eventAt : Datetime) : ℚ :=
  max 0 (((evaluatedAt : ℚ) - eventAt) / (1000000 * 86400))

variable (math : FloatMath)

def recallOf (evaluatedAt : Datetime) (recencyHalfLifeDays : ℚ) (weights : HybridRecallWeights)
    (candidate : RawMemoryCandidate) : MemoryRecall :=
  let memory := candidate.memory
  let totalWeight := weights.fullText + weights.semantic + weights.recency + weights.importance
    + weights.relationship
  let recency := math.exp
    (-(math.log 2) * ageDays evaluatedAt memory.eventAt / recencyHalfLifeDays)
  let fullText := unit candidate.fullTextScore
  let semantic := unit candidate.semanticScore
  let relationship := unit candidate.relationshipScore
  let weighted := (fullText * weights.fullText + semantic * weights.semantic
    + recency * weights.recency + memory.importance * weights.importance
    + relationship * weights.relationship) / totalWeight
  let confidenceFactor := 45 / 100 + memory.confidence * (55 / 100)
  let confirmationBonus := if memory.confirmation = .confirmed then 5 / 100 else 0
  { memory
    score := min 1 (weighted * confidenceFactor + confirmationBonus)
    components := {
      fullText := math.round6 fullText
      semantic := math.round6 semantic
      recency := math.round6 recency
      importance := math.round6 memory.importance
      relationship := math.round6 relationship
      confidence := math.round6 memory.confidence
      rankerVersion := version } }

/-- `key=(score, event_at, str(id)), reverse=True`; the sort is stable. -/
def recallLe : MemoryRecall → MemoryRecall → Bool :=
  byDesc MemoryRecall.score (byDesc (fun item ↦ item.memory.eventAt)
    (byDesc (fun item ↦ uuidString item.memory.id) fun _ _ ↦ true))

/-- The error is the text of a `ValueError`. -/
def rank (candidates : List RawMemoryCandidate) (evaluatedAt : Datetime) (limit : ℤ)
    (recencyHalfLifeDays : ℚ) (weights : HybridRecallWeights) :
    Except String (List MemoryRecall) :=
  if limit < 1 then .error "记忆召回数量必须大于 0"
  else if recencyHalfLifeDays ≤ 0 then .error "记忆时间半衰期必须大于 0"
  else .ok <|
    ((candidates.map (recallOf math evaluatedAt recencyHalfLifeDays weights)).mergeSort
      recallLe).take limit.toNat

/-! ### The same over any ordered field -/

section exact

variable {K : Type} [Field K] [LinearOrder K]

structure ExactMath (K : Type) where
  exp : K → K
  log : K → K
  round6 : K → K

structure ExactRecall (K : Type) where
  memory : Memory
  score : K
  fullText : K
  semantic : K
  recency : K
  importance : K
  relationship : K
  confidence : K

def exactUnit (value : K) : K := max 0 (min 1 value)

def exactRecency (math : ExactMath K) (evaluatedAt eventAt : Datetime) (recencyHalfLifeDays : ℚ) : K :=
  math.exp (-(math.log 2) * max 0 (((evaluatedAt : K) - (eventAt : K)) / (1000000 * 86400)) /
    (recencyHalfLifeDays : K))

def exactWeighted (math : ExactMath K) (evaluatedAt : Datetime) (recencyHalfLifeDays : ℚ)
    (weights : HybridRecallWeights) (candidate : RawMemoryCandidate) : K :=
  (exactUnit (candidate.fullTextScore : K) * (weights.fullText : K)
    + exactUnit (candidate.semanticScore : K) * (weights.semantic : K)
    + exactRecency math evaluatedAt candidate.memory.eventAt recencyHalfLifeDays
      * (weights.recency : K)
    + (candidate.memory.importance : K) * (weights.importance : K)
    + exactUnit (candidate.relationshipScore : K) * (weights.relationship : K)) /
  ((weights.fullText : K) + (weights.semantic : K) + (weights.recency : K)
    + (weights.importance : K) + (weights.relationship : K))

def exactScore (math : ExactMath K) (evaluatedAt : Datetime) (recencyHalfLifeDays : ℚ)
    (weights : HybridRecallWeights) (candidate : RawMemoryCandidate) : K :=
  min 1 (exactWeighted math evaluatedAt recencyHalfLifeDays weights candidate
      * (45 / 100 + (candidate.memory.confidence : K) * (55 / 100))
    + if candidate.memory.confirmation = .confirmed then 5 / 100 else 0)

def exactRecallOf (math : ExactMath K) (evaluatedAt : Datetime) (recencyHalfLifeDays : ℚ)
    (weights : HybridRecallWeights) (candidate : RawMemoryCandidate) : ExactRecall K where
  memory := candidate.memory
  score := exactScore math evaluatedAt recencyHalfLifeDays weights candidate
  fullText := math.round6 (exactUnit (candidate.fullTextScore : K))
  semantic := math.round6 (exactUnit (candidate.semanticScore : K))
  recency := math.round6
    (exactRecency math evaluatedAt candidate.memory.eventAt recencyHalfLifeDays)
  importance := math.round6 (candidate.memory.importance : K)
  relationship := math.round6 (exactUnit (candidate.relationshipScore : K))
  confidence := math.round6 (candidate.memory.confidence : K)

/-- `(item.score, item.memory.event_at, str(item.memory.id))` -/
def rankKey (item : ExactRecall K) : K ×ₗ Datetime ×ₗ String :=
  toLex (item.score, toLex (item.memory.eventAt, uuidString item.memory.id))

def exactRank (math : ExactMath K) (candidates : List RawMemoryCandidate) (evaluatedAt : Datetime)
    (limit : ℤ) (recencyHalfLifeDays : ℚ) (weights : HybridRecallWeights) :
    Except String (List (ExactRecall K)) :=
  if limit < 1 then .error "记忆召回数量必须大于 0"
  else if recencyHalfLifeDays ≤ 0 then .error "记忆时间半衰期必须大于 0"
  else .ok <|
    (sortedByDesc rankKey
      (candidates.map (exactRecallOf math evaluatedAt recencyHalfLifeDays weights))).take
      limit.toNat

def ExactRecall.toMemoryRecall (item : ExactRecall ℚ) : MemoryRecall where
  memory := item.memory
  score := item.score
  components := {
    fullText := item.fullText
    semantic := item.semantic
    recency := item.recency
    importance := item.importance
    relationship := item.relationship
    confidence := item.confidence
    rankerVersion := version }

theorem recallLe_toMemoryRecall (a b : ExactRecall ℚ) :
    recallLe a.toMemoryRecall b.toMemoryRecall = decide (rankKey b ≤ rankKey a) := by
  apply Bool.eq_iff_iff.mpr
  unfold recallLe
  rw [byDesc_iff, byDesc_iff, byDesc_iff, decide_eq_true_eq]
  unfold rankKey
  rw [Prod.Lex.toLex_le_toLex, Prod.Lex.toLex_le_toLex, le_iff_lt_or_eq]
  simp only [and_true]
  apply or_congr Iff.rfl
  apply and_congr eq_comm
  apply or_congr Iff.rfl
  exact and_congr eq_comm (or_congr Iff.rfl eq_comm)

/-- Over the rationals it is the ranker that the recall uses. -/
theorem rank_eq_exactRank (math : FloatMath) (candidates : List RawMemoryCandidate)
    (evaluatedAt : Datetime) (limit : ℤ) (recencyHalfLifeDays : ℚ)
    (weights : HybridRecallWeights) :
    rank math candidates evaluatedAt limit recencyHalfLifeDays weights =
      (exactRank ⟨math.exp, math.log, math.round6⟩ candidates evaluatedAt limit
        recencyHalfLifeDays weights).map (List.map ExactRecall.toMemoryRecall) := by
  have hitems : candidates.map (recallOf math evaluatedAt recencyHalfLifeDays weights) =
      (candidates.map (exactRecallOf ⟨math.exp, math.log, math.round6⟩ evaluatedAt
        recencyHalfLifeDays weights)).map ExactRecall.toMemoryRecall := by
    rw [List.map_map]
    apply List.map_congr_left
    intro candidate _
    simp [recallOf, exactRecallOf, ExactRecall.toMemoryRecall, exactScore, exactWeighted,
      exactRecency, exactUnit, unit, ageDays]
  unfold rank exactRank
  by_cases hlimit : limit < 1
  · rw [if_pos hlimit, if_pos hlimit]
    rfl
  · rw [if_neg hlimit, if_neg hlimit]
    by_cases hhalf : recencyHalfLifeDays ≤ 0
    · rw [if_pos hhalf, if_pos hhalf]
      rfl
    · rw [if_neg hhalf, if_neg hhalf, hitems]
      unfold sortedByDesc
      rw [← List.map_mergeSort fun a _ b _ ↦ (recallLe_toMemoryRecall a b).symm, ← List.map_take]
      rfl

end exact

end HybridMemoryRanker

end CyberNetizen.Cognition
