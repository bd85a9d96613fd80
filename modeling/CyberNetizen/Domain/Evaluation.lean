import CyberNetizen.Domain.Task
import CyberNetizen.Lib.Cryptography

namespace CyberNetizen.Domain

open Signatures

inductive EvaluationDecisionOutcome
  | adoptCandidate | keepBaseline | waitForEvidence
  deriving DecidableEq

inductive EvaluationDecisionReason
  | qualityGain | regressionRisk | insufficientEvidence | manualReview
  deriving DecidableEq

structure EvaluationDecisionRecord where
  id : UUID
  tenantId : UUID
  agentId : UUID
  createdBy : UUID
  createdAt : Datetime
  outcome : EvaluationDecisionOutcome
  reason : EvaluationDecisionReason
  content : Bytes
  sha256 : String
  deriving DecidableEq

inductive EvaluationApprovalOutcome
  | approved | rejected
  deriving DecidableEq

def EvaluationApprovalOutcome.value : EvaluationApprovalOutcome → String
  | .approved => "approved"
  | .rejected => "rejected"

inductive EvaluationApprovalReason
  | evidenceConfirmed | riskUnresolved | governanceBlocked | releaseNotReady
  deriving DecidableEq

def EvaluationApprovalReason.value : EvaluationApprovalReason → String
  | .evidenceConfirmed => "evidence_confirmed"
  | .riskUnresolved => "risk_unresolved"
  | .governanceBlocked => "governance_blocked"
  | .releaseNotReady => "release_not_ready"

inductive EvaluationReleaseEnvironment
  | development | staging | production
  deriving DecidableEq

def EvaluationReleaseEnvironment.value : EvaluationReleaseEnvironment → String
  | .development => "development"
  | .staging => "staging"
  | .production => "production"

structure EvaluationDecisionSignature where
  algorithm : String
  keyId : String
  publicKey : Bytes
  value : Bytes
  deriving DecidableEq

structure EvaluationApprovalFacts where
  id : UUID
  decisionId : UUID
  tenantId : UUID
  agentId : UUID
  approvedBy : UUID
  approvedAt : Datetime
  outcome : EvaluationApprovalOutcome
  reason : EvaluationApprovalReason
  releaseEnvironment : Option EvaluationReleaseEnvironment
  changeReference : Option String
  deriving DecidableEq

structure EvaluationDecisionApprovalRecord extends EvaluationApprovalFacts where
  content : Bytes
  sha256 : String
  deriving DecidableEq

structure EvaluationApprovalVerification where
  valid : Bool
  contentHashValid : Bool
  canonicalContentValid : Bool
  decisionHashMatches : Bool
  signatureValid : Bool
  verifiedAt : Datetime
  deriving DecidableEq

theorem EvaluationApprovalOutcome.value_inj {a b : EvaluationApprovalOutcome}
    (h : a.value = b.value) : a = b := by
  cases a <;> cases b <;> first | rfl | exact absurd h (by decide)

theorem EvaluationApprovalReason.value_inj {a b : EvaluationApprovalReason}
    (h : a.value = b.value) : a = b := by
  cases a <;> cases b <;> first | rfl | exact absurd h (by decide)

theorem EvaluationReleaseEnvironment.value_inj {a b : EvaluationReleaseEnvironment}
    (h : a.value = b.value) : a = b := by
  cases a <;> cases b <;> first | rfl | exact absurd h (by decide)

end CyberNetizen.Domain

namespace CyberNetizen.Domain

inductive BlindReviewPreference
  | candidate | reference | tie
  deriving DecidableEq

/-- A frozen answer of a run beside the reference it is compared with. -/
structure EvaluationCaseResult where
  id : UUID
  runId : UUID
  caseKey : String
  category : String
  inputText : String
  candidateResponse : Option String
  referenceResponse : Option String
  deriving DecidableEq

structure EvaluationRun where
  id : UUID
  tenantId : UUID
  agentId : UUID
  gatePassed : Bool
  results : List EvaluationCaseResult
  createdAt : Datetime

structure BlindReviewScore where
  personaConsistency : ℤ
  naturalness : ℤ
  empathy : ℤ
  boundaryRespect : ℤ
  deriving DecidableEq

structure BlindReviewAssignment where
  id : UUID
  tenantId : UUID
  agentId : UUID
  runId : UUID
  resultId : UUID
  reviewerId : UUID
  caseKey : String
  category : String
  inputText : String
  responseA : String
  responseB : String
  candidateIsA : Bool
  createdAt : Datetime
  deriving DecidableEq

structure BlindReview where
  id : UUID
  tenantId : UUID
  agentId : UUID
  assignmentId : UUID
  runId : UUID
  resultId : UUID
  reviewerId : UUID
  preference : BlindReviewPreference
  candidateScore : BlindReviewScore
  referenceScore : BlindReviewScore
  note : Option String
  createdAt : Datetime
  deriving DecidableEq

structure EvaluationReport where
  totalRuns : ℕ
  gatePassedRuns : ℕ
  pendingReviews : ℕ
  completedReviews : ℕ
  candidateWins : ℕ
  referenceWins : ℕ
  ties : ℕ

end CyberNetizen.Domain
