import CyberNetizen.Application.DecisionTrace
import CyberNetizen.Cognition.PolicyGate

namespace CyberNetizen.Cognition.RejectionTrace

open Application.CognitionService DeterministicPolicyGate Ranking

section ranking

variable (rules : PolicyRuleSet) (context : ToolPolicyContext)

def denied (p : ActionCandidate × ℕ) : Bool := (denialReason p.1 rules context).isSome

def rejectedEntries (candidates : List ActionCandidate) : List (ActionCandidate × ℕ) :=
  (places ActionCandidate.confidence candidates).takeWhile (denied rules context)

def selectedEntry (candidates : List ActionCandidate) : Option (ActionCandidate × ℕ) :=
  (places ActionCandidate.confidence candidates).find? fun p ↦ !denied rules context p

def reasonFor (candidates : List ActionCandidate) (p : ActionCandidate × ℕ) : Option String :=
  if p ∈ rejectedEntries rules context candidates then denialReason p.1 rules context else none

end ranking

variable {rules : PolicyRuleSet} {context : ToolPolicyContext} {candidates : List ActionCandidate}

theorem firstAllowed_eq (fallback : ActionCandidate) (rejected : List String)
    (l : List (ActionCandidate × ℕ)) :
    firstAllowed rules context fallback rejected (l.map Prod.fst) =
      ⟨((l.find? fun p ↦ !denied rules context p).map Prod.fst).getD fallback,
        rejected ++ (l.takeWhile (denied rules context)).map
          fun p ↦ (denialReason p.1 rules context).getD "", rules.version⟩ := by
  induction l generalizing rejected with
  | nil => simp [firstAllowed]
  | cons p l ih =>
    rw [List.map_cons, firstAllowed]
    cases hdenial : denialReason p.1 rules context with
    | none =>
      have hp : denied rules context p = false := by rw [denied, hdenial]; rfl
      simp [hp]
    | some denial =>
      have hp : denied rules context p = true := by rw [denied, hdenial]; rfl
      dsimp only
      rw [ih, List.find?_cons_of_neg (by simp [hp]), List.takeWhile_cons_of_pos hp, List.map_cons,
        hdenial, List.append_assoc]
      rfl

theorem evaluate_eq (given : Option ToolPolicyContext) {evaluation : PolicyEvaluation}
    (h : evaluate candidates rules given = .ok evaluation) :
    evaluation.selected = ((selectedEntry rules (given.getD {}) candidates).map Prod.fst).getD
        (fallbackCandidate (newIdentity candidates)) ∧
      evaluation.rejectedReasons = (rejectedEntries rules (given.getD {}) candidates).map
        fun p ↦ (denialReason p.1 rules (given.getD {})).getD "" := by
  unfold evaluate at h
  by_cases hempty : candidates.isEmpty = true
  · rw [if_pos hempty] at h
    cases h
  · rw [if_neg hempty, byConfidence, ← map_fst_places, firstAllowed_eq] at h
    cases h
    exact ⟨rfl, rfl⟩

theorem identity_lt_newIdentity {candidate : ActionCandidate} (h : candidate ∈ candidates) :
    candidate.identity < newIdentity candidates := by
  have hle : candidate.identity ≤ (candidates.map (·.identity)).sum :=
    List.le_sum_of_mem (List.mem_map_of_mem h)
  unfold newIdentity
  omega

theorem isSelected_iff (given : Option ToolPolicyContext) {evaluation : PolicyEvaluation}
    (h : evaluate candidates rules given = .ok evaluation) {candidate : ActionCandidate}
    (hmem : candidate ∈ candidates) :
    isSelected (some evaluation.selected) candidate = true ↔
      ∃ q ∈ selectedEntry rules (given.getD {}) candidates, q.1.identity = candidate.identity := by
  rw [(evaluate_eq given h).1]
  cases selectedEntry rules (given.getD {}) candidates with
  | none =>
    have hlt := identity_lt_newIdentity hmem
    simp only [isSelected, Option.map_none, Option.getD_none, Option.any_some, decide_eq_true_eq,
      Option.mem_def, reduceCtorEq, false_and, exists_false, iff_false, fallbackCandidate]
    omega
  | some q => simp [isSelected]

/-- The record of a candidate is true: it says whether the candidate is the selected one, and gives
for another one the reason of the gate for that very candidate, or none. -/
def Truthful (rules : PolicyRuleSet) (context : ToolPolicyContext)
    (candidates : List ActionCandidate) (evaluation : PolicyEvaluation)
    (p : ActionCandidate × ℕ) (record : ActionCandidateRecord) : Prop :=
  (record.selected = true ↔ p.1.identity = evaluation.selected.identity) ∧
    (record.selected = false → record.rejectionReason = none ∨
      record.rejectionReason = reasonFor rules context candidates p)

/-- At the places of the tuple that have a reason of the gate to take, each candidate is the
selected one, or is rejected for the reason that it takes. -/
def Aligned (rules : PolicyRuleSet) (context : ToolPolicyContext)
    (candidates : List ActionCandidate) : Prop :=
  ∀ i p candidate, (rejectedEntries rules context candidates)[i]? = some p →
    candidates[i]? = some candidate →
    (∃ q ∈ selectedEntry rules context candidates, q.1.identity = candidate.identity) ∨
      ((candidate, i) ∈ rejectedEntries rules context candidates ∧
        denialReason candidate rules context = denialReason p.1 rules context)

theorem reason_of_rejected {p : ActionCandidate × ℕ}
    (h : p ∈ rejectedEntries rules context candidates) :
    denialReason p.1 rules context = some ((denialReason p.1 rules context).getD "") := by
  have hdenied : denied rules context p = true := (List.mem_takeWhile_imp h)
  obtain ⟨reason, hreason⟩ := Option.isSome_iff_exists.mp hdenied
  rw [hreason]
  rfl

theorem candidateRecord_truthful_iff (call : DecisionCall) (given : Option ToolPolicyContext)
    {evaluation : PolicyEvaluation} (h : evaluate candidates rules given = .ok evaluation)
    {candidate : ActionCandidate} {i : ℕ} (hi : candidates[i]? = some candidate) :
    Truthful rules (given.getD {}) candidates evaluation (candidate, i)
        (candidateRecord call (some evaluation.selected) evaluation.rejectedReasons candidate i) ↔
      ∀ p, (rejectedEntries rules (given.getD {}) candidates)[i]? = some p →
        (∃ q ∈ selectedEntry rules (given.getD {}) candidates,
          q.1.identity = candidate.identity) ∨
          ((candidate, i) ∈ rejectedEntries rules (given.getD {}) candidates ∧
            denialReason candidate rules (given.getD {}) =
              denialReason p.1 rules (given.getD {})) := by
  have hselected := isSelected_iff given h (List.mem_of_getElem? hi)
  have hreason : evaluation.rejectedReasons[i]? =
      ((rejectedEntries rules (given.getD {}) candidates)[i]?).map
        fun p ↦ (denialReason p.1 rules (given.getD {})).getD "" := by
    rw [(evaluate_eq given h).2, List.getElem?_map]
  have hidentity : isSelected (some evaluation.selected) candidate = true ↔
      candidate.identity = evaluation.selected.identity := by
    rw [isSelected, Option.any_some, decide_eq_true_eq]
    exact eq_comm
  rw [← hselected]
  cases hs : isSelected (some evaluation.selected) candidate with
  | true =>
    refine iff_of_true ⟨?_, ?_⟩ fun _ _ ↦ .inl rfl
    · simpa [candidateRecord] using hidentity
    · simp [candidateRecord, hs]
  | false =>
    have hrecord : (candidateRecord call (some evaluation.selected) evaluation.rejectedReasons
        candidate i).rejectionReason = evaluation.rejectedReasons[i]? := by
      simp [candidateRecord, hs]
    have htruthful : Truthful rules (given.getD {}) candidates evaluation (candidate, i)
        (candidateRecord call (some evaluation.selected) evaluation.rejectedReasons candidate i) ↔
        evaluation.rejectedReasons[i]? = none ∨
          evaluation.rejectedReasons[i]? =
            reasonFor rules (given.getD {}) candidates (candidate, i) := by
      unfold Truthful
      rw [hrecord]
      constructor
      · exact fun ht ↦ ht.2 hs
      · exact fun ht ↦ ⟨hidentity, fun _ ↦ ht⟩
    rw [htruthful, hreason]
    cases hp : (rejectedEntries rules (given.getD {}) candidates)[i]? with
    | none => exact iff_of_true (.inl rfl) fun p hnone ↦ (nomatch hnone)
    | some p =>
      have hown := reason_of_rejected (List.mem_of_getElem? hp)
      unfold reasonFor
      constructor
      · rintro (hnone | hsome) p' hp'
        · cases hnone
        · cases hp'
          by_cases hmem : (candidate, i) ∈ rejectedEntries rules (given.getD {}) candidates
          · rw [if_pos hmem] at hsome
            exact .inr ⟨hmem, hsome.symm.trans hown.symm⟩
          · rw [if_neg hmem] at hsome
            cases hsome
      · intro hall
        rcases hall p rfl with hfalse | ⟨hmem, heq⟩
        · cases hfalse
        · right
          rw [if_pos hmem, heq]
          exact hown.symm

variable {K : Type} [Field K] [LinearOrder K] [IsStrictOrderedRing K]

/-- The records of a decision are true exactly if the tuple is aligned with the ranks. -/
theorem recordDecision_truthful_iff (call : DecisionCall) (decision : AgentDecision K)
    (rules : PolicyRuleSet) (given : Option ToolPolicyContext) (evaluation : PolicyEvaluation)
    (hdecision : decision.policyEvaluation = some evaluation)
    (h : evaluate decision.candidates rules given = .ok evaluation) :
    ((recordDecision call decision).candidates.length = decision.candidates.length ∧
      ∀ i record candidate, (recordDecision call decision).candidates[i]? = some record →
        decision.candidates[i]? = some candidate →
        Truthful rules (given.getD {}) decision.candidates evaluation (candidate, i) record) ↔
      Aligned rules (given.getD {}) decision.candidates := by
  have hrecords : (recordDecision call decision).candidates =
      decision.candidates.zipIdx.map fun p ↦ candidateRecord call (some evaluation.selected)
        evaluation.rejectedReasons p.1 p.2 := by
    unfold recordDecision
    rw [hdecision]
    rfl
  have hget : ∀ i candidate, decision.candidates[i]? = some candidate →
      (recordDecision call decision).candidates[i]? =
        some (candidateRecord call (some evaluation.selected) evaluation.rejectedReasons
          candidate i) := by
    intro i candidate hi
    rw [hrecords, List.getElem?_map, List.getElem?_zipIdx, hi]
    simp
  constructor
  · rintro ⟨-, hall⟩ i p candidate hp hi
    exact (candidateRecord_truthful_iff call given h hi).mp
      (hall i _ candidate (hget i candidate hi) hi) p hp
  · intro haligned
    refine ⟨by rw [hrecords, List.length_map, List.length_zipIdx], ?_⟩
    intro i record candidate hrecord hi
    rw [hget i candidate hi] at hrecord
    cases hrecord
    exact (candidateRecord_truthful_iff call given h hi).mpr fun p hp ↦ haligned i p candidate hp hi

theorem wait_confident : (0 : ℚ) ≤ 1 / 2 ∧ (1 / 2 : ℚ) ≤ 1 := by decide +kernel

def misplacedTool : List ActionCandidate :=
  [{ identity := 0, action := .wait, confidence := 1 / 2, reasonSummary := "",
     confident := wait_confident, named := fallback_named },
   { identity := 1, action := .reply, confidence := 3 / 4, reasonSummary := "",
     confident := PolicyGate.reply_confident, named := PolicyGate.reply_named },
   { identity := 2, action := .tool, confidence := 9 / 10, reasonSummary := "",
     toolName := some "external_action",
     confident := PolicyGate.tool_confident, named := PolicyGate.tool_named }]

theorem places_misplacedTool :
    places ActionCandidate.confidence misplacedTool = misplacedTool.zipIdx.reverse :=
  places_eq (List.reverse_perm _) (by decide +kernel)

def plainCall : DecisionCall where
  runId := 1
  tenantId := 2
  agentId := 3
  conversationId := 4
  personaVersion := 1
  now := 5
  stateId := 6
  stepId := id
  candidateId := id

def misplacedDecision : AgentDecision ℚ where
  action := .reply
  rationaleSummary := ""
  candidates := misplacedTool
  policyEvaluation := some ⟨misplacedTool[1], ["工具 external_action 未在当前策略允许列表中。"], 0⟩

theorem evaluate_misplacedTool : evaluate misplacedTool {} none =
    .ok ⟨misplacedTool[1], ["工具 external_action 未在当前策略允许列表中。"], 0⟩ := by
  unfold evaluate
  rw [byConfidence, ← map_fst_places, places_misplacedTool]
  rfl

/-- The candidate to wait, which no rule is against, is recorded with the reason against the tool. -/
theorem misplacedDecision_untruthful :
    ¬∀ (call : DecisionCall) (decision : AgentDecision ℚ) (rules : PolicyRuleSet)
      (given : Option ToolPolicyContext) (evaluation : PolicyEvaluation),
      decision.policyEvaluation = some evaluation →
      evaluate decision.candidates rules given = .ok evaluation →
      ∀ i record candidate, (recordDecision call decision).candidates[i]? = some record →
        decision.candidates[i]? = some candidate →
        Truthful rules (given.getD {}) decision.candidates evaluation (candidate, i) record := by
  intro h
  have hwait := (h plainCall misplacedDecision {} none _ rfl evaluate_misplacedTool 0 _ _ rfl rfl).2
    (by decide +kernel)
  have hnot : (misplacedTool[0], 0) ∉ rejectedEntries {} {} misplacedTool := by
    rw [rejectedEntries, places_misplacedTool]
    decide +kernel
  rcases hwait with hnone | hreason
  · exact absurd hnone (by decide +kernel)
  · have hnone : reasonFor {} {} misplacedTool (misplacedTool[0], 0) = none := if_neg hnot
    exact absurd (hreason.trans hnone) (by decide +kernel)

theorem misplacedDecision_aligned_iff :
    misplacedDecision.policyEvaluation =
        some ⟨misplacedTool[1], ["工具 external_action 未在当前策略允许列表中。"], 0⟩ ∧
      evaluate misplacedDecision.candidates {} none =
        .ok ⟨misplacedTool[1], ["工具 external_action 未在当前策略允许列表中。"], 0⟩ ∧
      (((recordDecision plainCall misplacedDecision).candidates.length =
          misplacedDecision.candidates.length ∧
        ∀ i record candidate,
          (recordDecision plainCall misplacedDecision).candidates[i]? = some record →
          misplacedDecision.candidates[i]? = some candidate →
          Truthful {} {} misplacedDecision.candidates
            ⟨misplacedTool[1], ["工具 external_action 未在当前策略允许列表中。"], 0⟩
            (candidate, i) record) ↔
        Aligned {} {} misplacedDecision.candidates) :=
  ⟨rfl, evaluate_misplacedTool,
    recordDecision_truthful_iff plainCall misplacedDecision {} none _ rfl evaluate_misplacedTool⟩

end CyberNetizen.Cognition.RejectionTrace
