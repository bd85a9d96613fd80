import CyberNetizen.Application.TaskService
import CyberNetizen.Domain.Channel
import CyberNetizen.Domain.Evaluation
import CyberNetizen.Lib.Checks

namespace CyberNetizen.Application

open Domain Checks

inductive EvaluationError
  | notFound (message : String)
  | validation (message : String)
  | conflict (message : String)
  /-- The database refuses a row. -/
  | integrity
  deriving DecidableEq

/-- The arguments of `claim_blind_assignment`. -/
structure ClaimArgs where
  tenantId : UUID
  agentId : UUID
  reviewerId : UUID
  runId : Option UUID
  deriving DecidableEq

/-- The runs that the agent and the optional `run_id` of the claim select. -/
def ClaimArgs.inScope (args : ClaimArgs) (run : EvaluationRun) : Bool :=
  run.tenantId = args.tenantId ∧ run.agentId = args.agentId ∧
    (args.runId = none ∨ args.runId = some run.id)

/-- The arguments of `submit_blind_review`, with the agent of the service. -/
structure SubmitArgs where
  assignmentId : UUID
  tenantId : UUID
  agentId : UUID
  reviewerId : UUID
  displayedPreference : String
  responseAScore : BlindReviewScore
  responseBScore : BlindReviewScore
  note : Option String
  deriving DecidableEq

namespace EvaluationService

def validateScore (score : BlindReviewScore) : Except EvaluationError Unit :=
  require
    ([score.personaConsistency, score.naturalness, score.empathy, score.boundaryRespect].all
      fun value ↦ 1 ≤ value ∧ value ≤ 5)
    (.validation "盲评各项评分必须在 1 到 5 之间")

def sourcePreference (displayedPreference : String) (candidateIsA : Bool) : BlindReviewPreference :=
  if displayedPreference = "tie" then .tie
  else if decide (displayedPreference = "a") = candidateIsA then .candidate
  else .reference

def strippedNote (note : Option String) : Option String :=
  match note with
  | none => none
  | some text => if text = "" then none else some (strip text)

/-- `submit_blind_review` between its two calls of the repository. -/
def unblind (args : SubmitArgs) (found? : Option BlindReviewAssignment) (id : UUID)
    (now : Datetime) : Except EvaluationError BlindReview := do
  let assignment ← found found? (.notFound s!"盲评任务不存在：{uuidString args.assignmentId}")
  require (decide (args.displayedPreference ∈ ["a", "b", "tie"]))
    (.validation "盲评偏好必须为 a、b 或 tie")
  validateScore args.responseAScore
  validateScore args.responseBScore
  .ok {
    id
    tenantId := args.tenantId
    agentId := args.agentId
    assignmentId := assignment.id
    runId := assignment.runId
    resultId := assignment.resultId
    reviewerId := args.reviewerId
    preference := sourcePreference args.displayedPreference assignment.candidateIsA
    candidateScore := if assignment.candidateIsA then args.responseAScore else args.responseBScore
    referenceScore := if assignment.candidateIsA then args.responseBScore else args.responseAScore
    note := strippedNote args.note
    createdAt := now }

end EvaluationService

end CyberNetizen.Application
