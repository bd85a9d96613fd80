import CyberNetizen.Cognition.Policy
import CyberNetizen.Lib.Ranking

namespace CyberNetizen.Cognition.PolicyGate

open DeterministicPolicyGate Ranking

inductive Rule
  | noReply | allowedTool | risk | sideEffect | permission | network | calls | cost | approval
  deriving DecidableEq

section rules

variable (rules : PolicyRuleSet) (context : ToolPolicyContext) (candidate : ActionCandidate)

/-- What it is to violate a rule. All but the first are about tools. -/
def Violates : Rule → Prop
  | .noReply => candidate.action = .noReply ∧ rules.allowNoReply = false
  | .allowedTool => candidate.action = .tool ∧
      ∀ name ∈ rules.allowedTools, candidate.toolName ≠ some name
  | .risk => candidate.action = .tool ∧
      riskOrder rules.maximumToolRisk < riskOrder candidate.riskLevel
  | .sideEffect => candidate.action = .tool ∧ candidate.hasExternalSideEffect = true ∧
      rules.allowExternalSideEffects = false
  | .permission => candidate.action = .tool ∧ ∃ permission,
      candidate.requiredPermission = some permission ∧ permission ∉ context.permissions
  | .network => candidate.action = .tool ∧ ∃ host,
      candidate.networkHost = some host ∧ host ≠ "" ∧ host ∉ rules.networkAllowlist
  | .calls => candidate.action = .tool ∧ rules.maximumToolCallsPerRun ≤ context.toolCallsUsed
  | .cost => candidate.action = .tool ∧
      rules.maximumCostUnitsPerRun < context.costUnitsUsed + candidate.estimatedCostUnits
  | .approval => candidate.action = .tool ∧
      riskOrder rules.approvalRequiredAtOrAbove ≤ riskOrder candidate.riskLevel ∧
      ∀ name ∈ context.approvedTools, candidate.toolName ≠ some name

def Rule.text (candidate : ActionCandidate) : Rule → String
  | .noReply => "当前策略不允许主动选择不回复。"
  | .allowedTool => s!"工具 {toolText candidate} 未在当前策略允许列表中。"
  | .risk => s!"工具 {toolText candidate} 的风险级别超过当前策略上限。"
  | .sideEffect => s!"工具 {toolText candidate} 具有未经允许的外部副作用。"
  | .permission => s!"工具 {toolText candidate} 缺少所需权限。"
  | .network => s!"工具 {toolText candidate} 的网络目标不在允许列表。"
  | .calls => s!"工具 {toolText candidate} 已超过本次运行频率预算。"
  | .cost => s!"工具 {toolText candidate} 已超过本次运行成本预算。"
  | .approval => s!"工具 {toolText candidate} 尚未获得所需审批。"

end rules

theorem isIn_eq_false {name : Option String} {names : List String} :
    isIn name names = false ↔ ∀ x ∈ names, name ≠ some x := by
  cases name with
  | none => simp [isIn]
  | some name => simp [isIn]; exact ⟨fun h x hx hname ↦ h (hname ▸ hx), fun h hmem ↦ h name hmem rfl⟩

variable {rules : PolicyRuleSet} {context : ToolPolicyContext} {candidate : ActionCandidate}

/-- A reason names a rule that the candidate violates. -/
theorem violates_of_denial {reason : String}
    (h : denialReason candidate rules context = some reason) :
    ∃ rule, Violates rules context candidate rule ∧ reason = rule.text candidate := by
  unfold denialReason at h
  by_cases hnoReply : candidate.action = .noReply ∧ rules.allowNoReply = false
  · rw [if_pos hnoReply] at h
    exact ⟨.noReply, hnoReply, (Option.some.inj h).symm⟩
  rw [if_neg hnoReply] at h
  by_cases htool : candidate.action = .tool
  swap
  · rw [if_pos htool] at h
    cases h
  rw [if_neg (not_not.mpr htool)] at h
  split_ifs at h with hallowed hrisk hside hpermission hnetwork hcalls hcost happroval
  · exact ⟨.allowedTool, ⟨htool, isIn_eq_false.mp hallowed⟩, (Option.some.inj h).symm⟩
  · exact ⟨.risk, ⟨htool, hrisk⟩, (Option.some.inj h).symm⟩
  · exact ⟨.sideEffect, ⟨htool, hside⟩, (Option.some.inj h).symm⟩
  · obtain ⟨hsome, hnot⟩ := hpermission
    obtain ⟨permission, hp⟩ := Option.ne_none_iff_exists'.mp hsome
    refine ⟨.permission, ⟨htool, permission, hp, fun hmem ↦ ?_⟩, (Option.some.inj h).symm⟩
    exact isIn_eq_false.mp hnot permission hmem hp
  · obtain ⟨hsome, hempty, hnot⟩ := hnetwork
    obtain ⟨host, hh⟩ := Option.ne_none_iff_exists'.mp hsome
    refine ⟨.network, ⟨htool, host, hh, fun he ↦ hempty (he ▸ hh), fun hmem ↦ ?_⟩,
      (Option.some.inj h).symm⟩
    exact isIn_eq_false.mp hnot host hmem hh
  · exact ⟨.calls, ⟨htool, hcalls⟩, (Option.some.inj h).symm⟩
  · exact ⟨.cost, ⟨htool, hcost⟩, (Option.some.inj h).symm⟩
  · exact ⟨.approval, ⟨htool, happroval.1, isIn_eq_false.mp happroval.2⟩, (Option.some.inj h).symm⟩

/-- A candidate that violates a rule is denied. -/
theorem denial_of_violates {rule : Rule} (h : Violates rules context candidate rule) :
    denialReason candidate rules context ≠ none := by
  intro hnone
  unfold denialReason at hnone
  by_cases hnoReply : candidate.action = .noReply ∧ rules.allowNoReply = false
  · rw [if_pos hnoReply] at hnone
    cases hnone
  rw [if_neg hnoReply] at hnone
  by_cases htool : candidate.action = .tool
  swap
  · cases rule with
    | noReply => exact hnoReply h
    | _ => exact htool h.1
  rw [if_neg (not_not.mpr htool)] at hnone
  split_ifs at hnone with hallowed hrisk hside hpermission hnetwork hcalls hcost happroval
  cases rule with
  | noReply => exact hnoReply h
  | allowedTool => exact hallowed (isIn_eq_false.mpr h.2)
  | risk => exact hrisk h.2
  | sideEffect => exact hside h.2
  | permission =>
    obtain ⟨-, permission, hp, hnot⟩ := h
    refine hpermission ⟨by rw [hp]; exact Option.some_ne_none _, isIn_eq_false.mpr ?_⟩
    intro x hx he
    rw [hp] at he
    cases he
    exact hnot hx
  | network =>
    obtain ⟨-, host, hh, hempty, hnot⟩ := h
    refine hnetwork ⟨by rw [hh]; exact Option.some_ne_none _, ?_, isIn_eq_false.mpr ?_⟩
    · rw [hh]
      exact fun he ↦ hempty (Option.some.inj he)
    · intro x hx he
      rw [hh] at he
      cases he
      exact hnot hx
  | calls => exact hcalls h.2
  | cost => exact hcost h.2
  | approval => exact happroval ⟨h.2.1, isIn_eq_false.mpr h.2.2⟩

theorem denialReason_eq_none :
    denialReason candidate rules context = none ↔ ∀ rule, ¬Violates rules context candidate rule := by
  constructor
  · exact fun h rule hviolates ↦ denial_of_violates hviolates h
  · intro h
    cases hdenial : denialReason candidate rules context with
    | none => rfl
    | some reason =>
      obtain ⟨rule, hrule, -⟩ := violates_of_denial hdenial
      exact absurd hrule (h rule)

/-- What is required of a tool. -/
structure Permitted (rules : PolicyRuleSet) (context : ToolPolicyContext)
    (candidate : ActionCandidate) : Prop where
  tool : ∃ name ∈ rules.allowedTools, candidate.toolName = some name
  risk : riskOrder candidate.riskLevel ≤ riskOrder rules.maximumToolRisk
  sideEffect : candidate.hasExternalSideEffect = true → rules.allowExternalSideEffects = true
  permission : ∀ permission, candidate.requiredPermission = some permission →
    permission ∈ context.permissions
  network : ∀ host, candidate.networkHost = some host → host ≠ "" → host ∈ rules.networkAllowlist
  calls : context.toolCallsUsed < rules.maximumToolCallsPerRun
  cost : context.costUnitsUsed + candidate.estimatedCostUnits ≤ rules.maximumCostUnitsPerRun
  approval : riskOrder rules.approvalRequiredAtOrAbove ≤ riskOrder candidate.riskLevel →
    ∃ name ∈ context.approvedTools, candidate.toolName = some name

theorem permitted_of_tool (htool : candidate.action = .tool)
    (h : ∀ rule, ¬Violates rules context candidate rule) : Permitted rules context candidate where
  tool := by
    by_contra hnone
    exact h .allowedTool ⟨htool, fun name hmem hname ↦ hnone ⟨name, hmem, hname⟩⟩
  risk := by
    by_contra hrisk
    exact h .risk ⟨htool, by omega⟩
  sideEffect := by
    intro hside
    by_contra hnot
    exact h .sideEffect ⟨htool, hside, Bool.eq_false_iff.mpr hnot⟩
  permission := by
    intro permission hpermission
    by_contra hnot
    exact h .permission ⟨htool, permission, hpermission, hnot⟩
  network := by
    intro host hhost hempty
    by_contra hnot
    exact h .network ⟨htool, host, hhost, hempty, hnot⟩
  calls := by
    by_contra hcalls
    exact h .calls ⟨htool, by omega⟩
  cost := by
    by_contra hcost
    exact h .cost ⟨htool, by omega⟩
  approval := by
    intro hrisk
    by_contra hnone
    exact h .approval ⟨htool, hrisk, fun name hmem hname ↦ hnone ⟨name, hmem, hname⟩⟩

def Names (rules : PolicyRuleSet) (context : ToolPolicyContext) (candidate : ActionCandidate)
    (reason : String) : Prop :=
  ∃ rule, Violates rules context candidate rule ∧ reason = rule.text candidate

section loop

variable {α : Type} (f : α → ActionCandidate) (fallback : ActionCandidate)

/-- What the loop makes of a list: the first candidate without a violation, and the reasons of those
before it. -/
theorem firstAllowed_spec (rejected : List String) (l : List α) :
    (∃ above x below, l = above ++ x :: below ∧
      (∀ rule, ¬Violates rules context (f x) rule) ∧
      ∃ reasons, List.Forall₂ (fun y reason ↦ Names rules context (f y) reason) above reasons ∧
        firstAllowed rules context fallback rejected (l.map f) =
          ⟨f x, rejected ++ reasons, rules.version⟩) ∨
    (∃ reasons, List.Forall₂ (fun y reason ↦ Names rules context (f y) reason) l reasons ∧
      firstAllowed rules context fallback rejected (l.map f) =
        ⟨fallback, rejected ++ reasons, rules.version⟩) := by
  induction l generalizing rejected with
  | nil => exact .inr ⟨[], .nil, by rw [List.append_nil]; rfl⟩
  | cons y l ih =>
    rw [List.map_cons, firstAllowed]
    cases hdenial : denialReason (f y) rules context with
    | none =>
      left
      refine ⟨[], y, l, rfl, denialReason_eq_none.mp hdenial, [], .nil, ?_⟩
      rw [List.append_nil]
    | some denial =>
      have hnames : Names rules context (f y) denial := violates_of_denial hdenial
      rcases ih (rejected ++ [denial]) with
        ⟨above, x, below, rfl, hx, reasons, hreasons, heq⟩ | ⟨reasons, hreasons, heq⟩
      · refine .inl ⟨y :: above, x, below, rfl, hx, denial :: reasons, .cons hnames hreasons, ?_⟩
        rw [← List.append_cons] at heq
        exact heq
      · refine .inr ⟨denial :: reasons, .cons hnames hreasons, ?_⟩
        rw [← List.append_cons] at heq
        exact heq

end loop

/-- The gate selects the first candidate, by confidence and then as they came, that violates no
rule, and has a true reason for each of those before it; otherwise it falls back to waiting. -/
theorem evaluate_first_allowed (candidates : List ActionCandidate) (rules : PolicyRuleSet)
    (context : Option ToolPolicyContext) (hne : candidates ≠ []) :
    ∃ order, order.Perm candidates.zipIdx ∧ order.Pairwise (Before ActionCandidate.confidence) ∧
      ∃ evaluation, evaluate candidates rules context = .ok evaluation ∧
        (evaluation.selected.action = .tool →
          Permitted rules (context.getD {}) evaluation.selected) ∧
        ((∃ above x below, order = above ++ x :: below ∧ evaluation.selected = x.1 ∧
            (∀ rule, ¬Violates rules (context.getD {}) x.1 rule) ∧
            List.Forall₂ (fun y reason ↦ Names rules (context.getD {}) y.1 reason) above
              evaluation.rejectedReasons) ∨
          (evaluation.selected = fallbackCandidate (newIdentity candidates) ∧
            List.Forall₂ (fun y reason ↦ Names rules (context.getD {}) y.1 reason) order
              evaluation.rejectedReasons)) := by
  refine ⟨places ActionCandidate.confidence candidates, places_perm _ _, pairwise_places _ _, ?_⟩
  have heval : evaluate candidates rules context = .ok (firstAllowed rules (context.getD {})
      (fallbackCandidate (newIdentity candidates)) []
      ((places ActionCandidate.confidence candidates).map Prod.fst)) := by
    rw [map_fst_places]
    unfold evaluate
    rw [if_neg (by simpa using hne)]
    rfl
  refine ⟨_, heval, ?_⟩
  rcases @firstAllowed_spec rules (context.getD {}) _ Prod.fst
      (fallbackCandidate (newIdentity candidates)) []
      (places ActionCandidate.confidence candidates) with
    ⟨above, x, below, horder, hx, reasons, hreasons, hfirst⟩ | ⟨reasons, hreasons, hfirst⟩
  · rw [hfirst]
    exact ⟨fun htool ↦ permitted_of_tool htool hx, .inl ⟨above, x, below, horder, rfl, hx, hreasons⟩⟩
  · rw [hfirst]
    exact ⟨fun htool ↦ (nomatch htool), .inr ⟨rfl, hreasons⟩⟩

theorem reply_confident : (0 : ℚ) ≤ 3 / 4 ∧ (3 / 4 : ℚ) ≤ 1 := by decide +kernel

theorem reply_named :
    CognitiveAction.reply = .tool → ∃ name, (none : Option String) = some name ∧ name ≠ "" := nofun

theorem tool_confident : (0 : ℚ) ≤ 9 / 10 ∧ (9 / 10 : ℚ) ≤ 1 := by decide +kernel

theorem tool_named :
    CognitiveAction.tool = .tool → ∃ name, some "external_action" = some name ∧ name ≠ "" :=
  fun _ ↦ ⟨_, rfl, by decide⟩

def unknownToolThenReply : List ActionCandidate :=
  [{ identity := 1, action := .reply, confidence := 3 / 4, reasonSummary := "",
     confident := reply_confident, named := reply_named },
   { identity := 2, action := .tool, confidence := 9 / 10, reasonSummary := "",
     toolName := some "external_action", riskLevel := .high, hasExternalSideEffect := true,
     confident := tool_confident, named := tool_named }]

theorem evaluate_unknownToolThenReply :
    unknownToolThenReply ≠ [] ∧
    ∃ order, order.Perm unknownToolThenReply.zipIdx ∧
      order.Pairwise (Before ActionCandidate.confidence) ∧
      ∃ evaluation, evaluate unknownToolThenReply {} none = .ok evaluation ∧
        (evaluation.selected.action = .tool → Permitted {} {} evaluation.selected) ∧
        ((∃ above x below, order = above ++ x :: below ∧ evaluation.selected = x.1 ∧
            (∀ rule, ¬Violates {} {} x.1 rule) ∧
            List.Forall₂ (fun y reason ↦ Names {} {} y.1 reason) above
              evaluation.rejectedReasons) ∨
          (evaluation.selected = fallbackCandidate (newIdentity unknownToolThenReply) ∧
            List.Forall₂ (fun y reason ↦ Names {} {} y.1 reason) order
              evaluation.rejectedReasons)) :=
  ⟨List.cons_ne_nil _ _,
    evaluate_first_allowed unknownToolThenReply {} none (List.cons_ne_nil _ _)⟩

end CyberNetizen.Cognition.PolicyGate
