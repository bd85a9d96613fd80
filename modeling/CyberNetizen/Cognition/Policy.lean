import Mathlib.Algebra.Order.Field.Rat
import Mathlib.Data.List.Basic

namespace CyberNetizen.Cognition

inductive CognitiveAction
  | reply | ask | wait | noReply | tool
  deriving DecidableEq

def CognitiveAction.value : CognitiveAction → String
  | .reply => "reply"
  | .ask => "ask"
  | .wait => "wait"
  | .noReply => "no_reply"
  | .tool => "tool"

inductive ToolRiskLevel
  | none | low | medium | high
  deriving DecidableEq

def ToolRiskLevel.value : ToolRiskLevel → String
  | .none => "none"
  | .low => "low"
  | .medium => "medium"
  | .high => "high"

/-- An object made by the deliberation; `identity` is what `is` compares. -/
structure ActionCandidate where
  identity : ℕ
  action : CognitiveAction
  confidence : ℚ
  reasonSummary : String
  parameters : List (String × String) := []
  toolName : Option String := none
  riskLevel : ToolRiskLevel := .none
  hasExternalSideEffect : Bool := false
  requiredPermission : Option String := none
  networkHost : Option String := none
  estimatedCostUnits : ℕ := 0
  confident : 0 ≤ confidence ∧ confidence ≤ 1
  named : action = .tool → ∃ name, toolName = some name ∧ name ≠ ""
  deriving DecidableEq

/-- The sets of the rules and of the context are lists of their members. -/
structure PolicyRuleSet where
  version : ℤ := 0
  allowedTools : List String := []
  maximumToolRisk : ToolRiskLevel := .low
  allowExternalSideEffects : Bool := false
  allowNoReply : Bool := true
  networkAllowlist : List String := []
  maximumToolCallsPerRun : ℤ := 0
  maximumCostUnitsPerRun : ℤ := 0
  approvalRequiredAtOrAbove : ToolRiskLevel := .medium

structure ToolPolicyContext where
  permissions : List String := []
  approvedTools : List String := []
  toolCallsUsed : ℤ := 0
  costUnitsUsed : ℤ := 0

structure PolicyEvaluation where
  selected : ActionCandidate
  rejectedReasons : List String
  policyVersion : ℤ

namespace DeterministicPolicyGate

def riskOrder : ToolRiskLevel → ℕ
  | .none => 0
  | .low => 1
  | .medium => 2
  | .high => 3

def toolText (candidate : ActionCandidate) : String := candidate.toolName.getD "None"

/-- `name in names`, where `None` is in no set of texts. -/
def isIn (name : Option String) (names : List String) : Bool := name.any fun name ↦ name ∈ names

variable (candidate : ActionCandidate) (rules : PolicyRuleSet) (context : ToolPolicyContext)

def denialReason : Option String :=
  if candidate.action = .noReply ∧ rules.allowNoReply = false then
    some "当前策略不允许主动选择不回复。"
  else if candidate.action ≠ .tool then none
  else if isIn candidate.toolName rules.allowedTools = false then
    some s!"工具 {toolText candidate} 未在当前策略允许列表中。"
  else if riskOrder candidate.riskLevel > riskOrder rules.maximumToolRisk then
    some s!"工具 {toolText candidate} 的风险级别超过当前策略上限。"
  else if candidate.hasExternalSideEffect = true ∧ rules.allowExternalSideEffects = false then
    some s!"工具 {toolText candidate} 具有未经允许的外部副作用。"
  else if candidate.requiredPermission ≠ none ∧
      isIn candidate.requiredPermission context.permissions = false then
    some s!"工具 {toolText candidate} 缺少所需权限。"
  -- An empty host counts as none.
  else if candidate.networkHost ≠ none ∧ candidate.networkHost ≠ some "" ∧
      isIn candidate.networkHost rules.networkAllowlist = false then
    some s!"工具 {toolText candidate} 的网络目标不在允许列表。"
  else if context.toolCallsUsed ≥ rules.maximumToolCallsPerRun then
    some s!"工具 {toolText candidate} 已超过本次运行频率预算。"
  else if context.costUnitsUsed + candidate.estimatedCostUnits > rules.maximumCostUnitsPerRun then
    some s!"工具 {toolText candidate} 已超过本次运行成本预算。"
  else if riskOrder candidate.riskLevel ≥ riskOrder rules.approvalRequiredAtOrAbove ∧
      isIn candidate.toolName context.approvedTools = false then
    some s!"工具 {toolText candidate} 尚未获得所需审批。"
  else none

end DeterministicPolicyGate

/-- `sorted(candidates, key=lambda item: item.confidence, reverse=True)` -/
def byConfidence (candidates : List ActionCandidate) : List ActionCandidate :=
  candidates.mergeSort fun a b ↦ decide (b.confidence ≤ a.confidence)

def newIdentity (candidates : List ActionCandidate) : ℕ :=
  (candidates.map (·.identity)).sum + 1

theorem fallback_confident : (0 : ℚ) ≤ 1 ∧ (1 : ℚ) ≤ 1 := by decide +kernel

theorem fallback_named :
    CognitiveAction.wait = .tool → ∃ name, (none : Option String) = some name ∧ name ≠ "" := nofun

def fallbackCandidate (identity : ℕ) : ActionCandidate where
  identity
  action := .wait
  confidence := 1
  reasonSummary := "没有候选行动通过当前策略，保持等待。"
  confident := fallback_confident
  named := fallback_named

namespace DeterministicPolicyGate

/-- The loop of `evaluate` over the sorted candidates. -/
def firstAllowed (rules : PolicyRuleSet) (context : ToolPolicyContext) (fallback : ActionCandidate) :
    List String → List ActionCandidate → PolicyEvaluation
  | rejected, [] => ⟨fallback, rejected, rules.version⟩
  | rejected, candidate :: candidates =>
    match denialReason candidate rules context with
    | none => ⟨candidate, rejected, rules.version⟩
    | some denial => firstAllowed rules context fallback (rejected ++ [denial]) candidates

def evaluate (candidates : List ActionCandidate) (rules : PolicyRuleSet)
    (context : Option ToolPolicyContext) : Except String PolicyEvaluation :=
  if candidates.isEmpty then .error "策略门至少需要一个行动候选"
  else
    .ok (firstAllowed rules (context.getD {}) (fallbackCandidate (newIdentity candidates)) []
      (byConfidence candidates))

end DeterministicPolicyGate

end CyberNetizen.Cognition
