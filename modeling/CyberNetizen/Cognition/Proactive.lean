import Mathlib.Data.Rat.Floor
import Mathlib.Algebra.Order.Field.Rat

namespace CyberNetizen.Cognition

/-- The published configuration snapshot of one evaluation. The registry keeps the
budget a non-negative integer. -/
structure ProactivePolicy where
  enabled : Bool
  minimumScore : ℚ
  dailyBudget : ℕ
  quietHoursStart : ℤ
  quietHoursEnd : ℤ
  requireRecentUserDays : ℤ

structure ProactiveContext where
  localHour : ℤ
  daysSinceUserActivity : ℚ
  importance : ℚ
  confidence : ℚ
  affinity : ℚ
  trust : ℚ
  familiarity : ℚ
  usedBudget : ℕ
  socialCost : ℕ
  hasBoundaryBlock : Bool

structure ProactiveDecision where
  approved : Bool
  score : ℚ
  reasons : List String

namespace ProactivePolicyEvaluator

/-- `round(x, 6)`, ties to the even neighbour. -/
def round6 (x : ℚ) : ℚ :=
  let y := x * 1000000
  let n := ⌊y⌋
  let r := y - n
  (if r < 1 / 2 then n else if 1 / 2 < r then n + 1 else if n % 2 = 0 then n else n + 1 : ℤ) /
    1000000

def score (context : ProactiveContext) : ℚ :=
  let recency := max 0 (1 - context.daysSinceUserActivity / 30)
  let raw := context.importance * (25 / 100) + context.confidence * (15 / 100)
    + context.affinity * (15 / 100) + context.trust * (15 / 100)
    + context.familiarity * (15 / 100) + recency * (15 / 100)
  round6 (max 0 (min 1 raw))

/-- `none` where the source raises because an hour lies outside 0 to 23. -/
def inQuietHours (hour start stop : ℤ) : Option Bool :=
  if ¬(0 ≤ hour ∧ hour ≤ 23) then none
  else if ¬(0 ≤ start ∧ start ≤ 23) ∨ ¬(0 ≤ stop ∧ stop ≤ 23) then none
  else if start = stop then some false
  else if start < stop then some (start ≤ hour && hour < stop)
  else some (start ≤ hour || hour < stop)

def blockers (policy : ProactivePolicy) (context : ProactiveContext) (quiet : Bool) : List String :=
  (if !policy.enabled then ["proactive_disabled"] else [])
  ++ (if context.hasBoundaryBlock then ["relationship_boundary_blocked"] else [])
  ++ (if quiet then ["quiet_hours"] else [])
  ++ (if (policy.requireRecentUserDays : ℚ) < context.daysSinceUserActivity
      then ["user_inactive_too_long"] else [])
  ++ (if policy.dailyBudget < context.usedBudget + context.socialCost
      then ["daily_social_budget_exhausted"] else [])
  ++ (if score context < policy.minimumScore then ["score_below_threshold"] else [])

def evaluate (policy : ProactivePolicy) (context : ProactiveContext) : Option ProactiveDecision :=
  (inQuietHours context.localHour policy.quietHoursStart policy.quietHoursEnd).map fun quiet ↦
    let found := blockers policy context quiet
    let reasons := if found.isEmpty then ["policy_approved"] else found
    ⟨reasons = ["policy_approved"], score context, reasons⟩

theorem blockers_not_expired (policy : ProactivePolicy) (context : ProactiveContext)
    (quiet : Bool) : "action_expired" ∉ blockers policy context quiet := by
  unfold blockers
  simp only [List.mem_append, not_or]
  refine ⟨⟨⟨⟨⟨?_, ?_⟩, ?_⟩, ?_⟩, ?_⟩, ?_⟩ <;> split <;> simp

theorem evaluate_not_expired {policy : ProactivePolicy} {context : ProactiveContext}
    {decision : ProactiveDecision} (h : evaluate policy context = some decision) :
    "action_expired" ∉ decision.reasons := by
  unfold evaluate at h
  obtain ⟨quiet, -, rfl⟩ := Option.map_eq_some_iff.mp h
  dsimp only
  split
  · simp
  · exact blockers_not_expired policy context quiet

/-- What is approved is enabled, crosses no boundary and disturbs no quiet hours. -/
theorem evaluate_approved {policy : ProactivePolicy} {context : ProactiveContext}
    {decision : ProactiveDecision} (h : evaluate policy context = some decision)
    (happroved : decision.approved = true) :
    policy.enabled = true ∧ context.hasBoundaryBlock = false ∧
      inQuietHours context.localHour policy.quietHoursStart policy.quietHoursEnd = some false := by
  unfold evaluate at h
  obtain ⟨quiet, hquiet, rfl⟩ := Option.map_eq_some_iff.mp h
  have hnone : blockers policy context quiet = [] := by
    dsimp only at happroved
    by_contra hsome
    have hempty : (blockers policy context quiet).isEmpty = false := by simpa using hsome
    rw [hempty, if_neg Bool.false_ne_true, decide_eq_true_eq] at happroved
    have hmem : "policy_approved" ∉ blockers policy context quiet := by
      unfold blockers
      simp only [List.mem_append, not_or]
      refine ⟨⟨⟨⟨⟨?_, ?_⟩, ?_⟩, ?_⟩, ?_⟩, ?_⟩ <;> split <;> simp
    exact hmem (happroved ▸ List.mem_singleton_self _)
  unfold blockers at hnone
  simp only [List.append_eq_nil_iff] at hnone
  obtain ⟨⟨⟨⟨⟨henabled, hboundary⟩, hawake⟩, -⟩, -⟩, -⟩ := hnone
  refine ⟨?_, ?_, ?_⟩
  · cases he : policy.enabled with
    | true => rfl
    | false =>
      rw [he] at henabled
      cases henabled
  · cases hb : context.hasBoundaryBlock with
    | true =>
      rw [hb] at hboundary
      cases hboundary
    | false => rfl
  · cases quiet with
    | true => cases hawake
    | false => exact hquiet

end ProactivePolicyEvaluator

end CyberNetizen.Cognition
