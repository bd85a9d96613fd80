import CyberNetizen.Cognition.Runtime

/-! # What is kept of a decision -/

namespace CyberNetizen.Application.CognitionService

open Domain Cognition

structure PersonaStateSnapshot (K : Type) where
  id : UUID
  tenantId : UUID
  agentId : UUID
  conversationId : UUID
  runId : UUID
  personaVersion : ℕ
  valence : K
  arousal : K
  socialEnergy : K
  createdAt : Datetime

structure RunStepRecord where
  id : UUID
  tenantId : UUID
  runId : UUID
  sequence : ℕ
  stage : String
  summary : String
  detail : JsonObject
  createdAt : Datetime

structure ActionCandidateRecord where
  id : UUID
  tenantId : UUID
  runId : UUID
  sequence : ℕ
  action : String
  confidence : ℚ
  reasonSummary : String
  parameters : List (String × String)
  toolName : Option String
  riskLevel : String
  selected : Bool
  rejectionReason : Option String
  createdAt : Datetime

/-- What `save_cognitive_run` is given. -/
structure CognitiveRunRecord (K : Type) where
  personaState : PersonaStateSnapshot K
  steps : List RunStepRecord
  candidates : List ActionCandidateRecord

/-- The arguments of `record_decision`, with the clock and the ids that the call draws. -/
structure DecisionCall where
  runId : UUID
  tenantId : UUID
  agentId : UUID
  conversationId : UUID
  personaVersion : ℕ
  now : Datetime
  stateId : UUID
  stepId : ℕ → UUID
  candidateId : ℕ → UUID

/-- `candidate is selected` -/
def isSelected (selected : Option ActionCandidate) (candidate : ActionCandidate) : Bool :=
  selected.any fun s ↦ s.identity = candidate.identity

/-- The record of the candidate at a place of the decision's tuple. -/
def candidateRecord (call : DecisionCall) (selected : Option ActionCandidate)
    (rejected : List String) (candidate : ActionCandidate) (index : ℕ) : ActionCandidateRecord where
  id := call.candidateId index
  tenantId := call.tenantId
  runId := call.runId
  sequence := index + 1
  action := candidate.action.value
  confidence := candidate.confidence
  reasonSummary := candidate.reasonSummary
  parameters := candidate.parameters
  toolName := candidate.toolName
  riskLevel := candidate.riskLevel.value
  selected := isSelected selected candidate
  rejectionReason := if isSelected selected candidate then none else rejected[index]?
  createdAt := call.now

variable {K : Type} [Field K] [LinearOrder K] [IsStrictOrderedRing K]

/-- `record_decision`, up to the write. -/
def recordDecision (call : DecisionCall) (decision : AgentDecision K) : CognitiveRunRecord K :=
  let affect := decision.affect.getD (.neutral call.now)
  let selected := decision.policyEvaluation.map (·.selected)
  let rejected := (decision.policyEvaluation.map (·.rejectedReasons)).getD []
  { personaState :=
      { id := call.stateId
        tenantId := call.tenantId
        agentId := call.agentId
        conversationId := call.conversationId
        runId := call.runId
        personaVersion := call.personaVersion
        valence := affect.valence
        arousal := affect.arousal
        socialEnergy := affect.socialEnergy
        createdAt := call.now }
    steps := decision.steps.zipIdx.map fun p ↦
      { id := call.stepId p.2
        tenantId := call.tenantId
        runId := call.runId
        sequence := p.1.sequence
        stage := p.1.stage.value
        summary := p.1.summary
        detail := p.1.detail
        createdAt := call.now }
    candidates := decision.candidates.zipIdx.map fun p ↦
      candidateRecord call selected rejected p.1 p.2 }

/-- `load_affect`, of the snapshot that is found; its values must lie in their ranges. -/
def loadAffect (snapshot : PersonaStateSnapshot K) : Except String (AffectState K) :=
  if hv : -1 ≤ snapshot.valence ∧ snapshot.valence ≤ 1 then
    if ha : 0 ≤ snapshot.arousal ∧ snapshot.arousal ≤ 1 then
      if he : 0 ≤ snapshot.socialEnergy ∧ snapshot.socialEnergy ≤ 1 then
        .ok
          { valence := snapshot.valence
            arousal := snapshot.arousal
            socialEnergy := snapshot.socialEnergy
            updatedAt := snapshot.createdAt
            valence_mem := hv
            arousal_mem := ha
            energy_mem := he }
      else .error "社交能量 必须位于 0 到 1 之间"
    else .error "唤醒度 必须位于 0 到 1 之间"
  else .error "情绪效价必须位于 -1 到 1 之间"

end CyberNetizen.Application.CognitionService
