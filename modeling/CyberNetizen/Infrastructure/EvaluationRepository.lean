import Mathlib.Data.List.MinMax
import Mathlib.Data.List.Sort
import CyberNetizen.Application.EvaluationService
import CyberNetizen.Lib.Table

namespace CyberNetizen.Infrastructure

open Domain Application KeyedTable

/-- The runs that were saved before any of their results is reviewed. -/
structure EvaluationArchive where
  runs : List EvaluationRun
  runIds : (runs.map EvaluationRun.id).Nodup
  resultIds : ((runs.flatMap EvaluationRun.results).map EvaluationCaseResult.id).Nodup
  owned : ∀ run ∈ runs, ∀ result ∈ run.results, result.runId = run.id

def candidateText (result : EvaluationCaseResult) : String := result.candidateResponse.getD ""

def referenceText (result : EvaluationCaseResult) : String := result.referenceResponse.getD ""

def summarize (runs : List EvaluationRun) (reviews : List BlindReview) (pendingReviews : ℕ) :
    EvaluationReport where
  totalRuns := runs.length
  gatePassedRuns := runs.countP EvaluationRun.gatePassed
  pendingReviews
  completedReviews := reviews.length
  candidateWins := reviews.countP fun review ↦ review.preference = .candidate
  referenceWins := reviews.countP fun review ↦ review.preference = .reference
  ties := reviews.countP fun review ↦ review.preference = .tie

def pendingOf (eligibleIds reviewedIds : List UUID) : ℕ :=
  (eligibleIds.dedup.filter fun id ↦ id ∉ reviewedIds).length

structure BlindReviewAssignmentRow where
  id : UUID
  tenantId : UUID
  agentId : UUID
  runId : UUID
  resultId : UUID
  reviewerId : UUID
  candidateIsA : Bool
  createdAt : Datetime
  deriving DecidableEq

def newAssignmentRow (args : ClaimArgs) (result : EvaluationCaseResult) (candidateIsA : Bool)
    (id : UUID) (now : Datetime) : BlindReviewAssignmentRow where
  id
  tenantId := args.tenantId
  agentId := args.agentId
  runId := result.runId
  resultId := result.id
  reviewerId := args.reviewerId
  candidateIsA
  createdAt := now

/-- `_assignment`: the two texts in the order that the row has drawn. -/
def assignmentOf (row : BlindReviewAssignmentRow) (result : EvaluationCaseResult) :
    BlindReviewAssignment where
  id := row.id
  tenantId := row.tenantId
  agentId := row.agentId
  runId := row.runId
  resultId := row.resultId
  reviewerId := row.reviewerId
  caseKey := result.caseKey
  category := result.category
  inputText := result.inputText
  responseA := if row.candidateIsA then candidateText result else referenceText result
  responseB := if row.candidateIsA then referenceText result else candidateText result
  candidateIsA := row.candidateIsA
  createdAt := row.createdAt

namespace MemoryEvaluationRepository

structure Store where
  assignments : Table BlindReviewAssignment.id
  reviews : Table BlindReview.id

def Store.empty : Store := ⟨.empty, .empty⟩

def eligible (result : EvaluationCaseResult) : Bool :=
  strip (candidateText result) ≠ "" ∧ strip (referenceText result) ≠ ""

def reviewed (store : Store) (assignment : BlindReviewAssignment) : Bool :=
  store.reviews.rows.any fun review ↦ review.assignmentId = assignment.id

def isOpen (store : Store) (args : ClaimArgs) (assignment : BlindReviewAssignment) : Bool :=
  assignment.tenantId = args.tenantId ∧ assignment.agentId = args.agentId ∧
    assignment.reviewerId = args.reviewerId ∧ reviewed store assignment = false ∧
    (args.runId = none ∨ args.runId = some assignment.runId)

def assigned (store : Store) (reviewerId : UUID) (result : EvaluationCaseResult) : Bool :=
  store.assignments.rows.any fun a ↦ a.reviewerId = reviewerId ∧ a.resultId = result.id

def runsInScope (archive : EvaluationArchive) (args : ClaimArgs) : List EvaluationRun :=
  (archive.runs.filter args.inScope).insertionSort fun run run' ↦ run'.createdAt ≤ run.createdAt

def unassigned (archive : EvaluationArchive) (store : Store) (args : ClaimArgs) :
    List EvaluationCaseResult :=
  ((runsInScope archive args).flatMap EvaluationRun.results).filter fun result ↦
    !assigned store args.reviewerId result && eligible result

def claimBlindAssignment (archive : EvaluationArchive) (store : Store) (args : ClaimArgs)
    (candidateIsA : Bool) (id : UUID) (now : Datetime) : Option BlindReviewAssignment × Store :=
  match store.assignments.rows.find? (isOpen store args) with
  | some existing => (some existing, store)
  | none =>
    match (unassigned archive store args).head? with
    | none => (none, store)
    | some result =>
      let assignment := assignmentOf (newAssignmentRow args result candidateIsA id now) result
      (some assignment, { store with assignments := store.assignments.put assignment })

def getBlindAssignment (store : Store) (args : SubmitArgs) : Option BlindReviewAssignment :=
  match store.assignments.find? args.assignmentId with
  | none => none
  | some item =>
    if item.tenantId ≠ args.tenantId ∨ item.agentId ≠ args.agentId
        ∨ item.reviewerId ≠ args.reviewerId then
      none
    else some item

def saveBlindReview (store : Store) (review : BlindReview) : Except EvaluationError Store :=
  if store.reviews.rows.any fun item ↦ item.assignmentId = review.assignmentId then
    .error (.conflict "该盲评任务已经提交")
  else .ok { store with reviews := store.reviews.put review }

def getReport (archive : EvaluationArchive) (store : Store) (tenantId agentId reviewerId : UUID) :
    EvaluationReport :=
  let runs := (archive.runs.filter fun run ↦ run.tenantId = tenantId ∧ run.agentId = agentId)
    |>.insertionSort fun run run' ↦ run'.createdAt ≤ run.createdAt
  let reviews := store.reviews.rows.filter fun review ↦
    review.tenantId = tenantId ∧ review.agentId = agentId
  let reviewedIds := (reviews.filter fun review ↦ review.reviewerId = reviewerId).map
    BlindReview.resultId
  let eligibleIds := ((runs.flatMap EvaluationRun.results).filter eligible).map
    EvaluationCaseResult.id
  summarize runs reviews (pendingOf eligibleIds reviewedIds)

end MemoryEvaluationRepository

namespace SqlAlchemyEvaluationRepository

structure Tables where
  assignments : Table BlindReviewAssignmentRow.id
  reviews : Table BlindReview.id

def Tables.empty : Tables := ⟨.empty, .empty⟩

def eligible (result : EvaluationCaseResult) : Bool :=
  result.candidateResponse ≠ none ∧ result.candidateResponse ≠ some "" ∧
    result.referenceResponse ≠ none ∧ result.referenceResponse ≠ some ""

def resultOf (archive : EvaluationArchive) (row : BlindReviewAssignmentRow) :
    Option EvaluationCaseResult :=
  (archive.runs.flatMap EvaluationRun.results).find? fun result ↦ result.id = row.resultId

def reviewed (tables : Tables) (row : BlindReviewAssignmentRow) : Bool :=
  tables.reviews.rows.any fun review ↦ review.assignmentId = row.id

def isOpen (tables : Tables) (args : ClaimArgs) (row : BlindReviewAssignmentRow) : Bool :=
  row.tenantId = args.tenantId ∧ row.agentId = args.agentId ∧
    row.reviewerId = args.reviewerId ∧ reviewed tables row = false ∧
    (args.runId = none ∨ args.runId = some row.runId)

/-- The first statement of `claim_blind_assignment`. -/
def existing (archive : EvaluationArchive) (tables : Tables) (args : ClaimArgs) :
    Option (BlindReviewAssignmentRow × EvaluationCaseResult) :=
  ((tables.assignments.rows.filter (isOpen tables args)).filterMap fun row ↦
    (resultOf archive row).map fun result ↦ (row, result)).argmin fun pair ↦ pair.1.createdAt

def assigned (tables : Tables) (reviewerId : UUID) (result : EvaluationCaseResult) : Bool :=
  tables.assignments.rows.any fun row ↦ row.reviewerId = reviewerId ∧ row.resultId = result.id

/-- `ORDER BY evaluation_runs.created_at DESC, evaluation_case_results.case_key`. -/
def Precedes (x y : EvaluationRun × EvaluationCaseResult) : Prop :=
  y.1.createdAt < x.1.createdAt ∨ y.1.createdAt = x.1.createdAt ∧ x.2.caseKey ≤ y.2.caseKey

instance : DecidableRel Precedes := fun _ _ ↦ inferInstanceAs (Decidable (_ ∨ _ ∧ _))

/-- The rows of the second statement of `claim_blind_assignment`, as its snapshot orders them. -/
def unassigned (archive : EvaluationArchive) (tables : Tables) (args : ClaimArgs) :
    List EvaluationCaseResult :=
  let joined := (archive.runs.filter args.inScope).flatMap fun run ↦
    run.results.map fun result ↦ (run, result)
  ((joined.filter fun pair ↦ eligible pair.2 && !assigned tables args.reviewerId pair.2)
    |>.insertionSort Precedes).map Prod.snd

/-- The primary key and the unique pair of result and reviewer. -/
def insertAssignment (tables : Tables) (row : BlindReviewAssignmentRow) :
    Except EvaluationError Tables :=
  if tables.assignments.rows.any fun r ↦
      r.resultId = row.resultId ∧ r.reviewerId = row.reviewerId then
    .error .integrity
  else
    match tables.assignments.insert? row with
    | none => .error .integrity
    | some assignments => .ok { tables with assignments }

def getBlindAssignment (archive : EvaluationArchive) (tables : Tables) (args : SubmitArgs) :
    Option BlindReviewAssignment :=
  (tables.assignments.find? args.assignmentId).bind fun row ↦
    if row.tenantId = args.tenantId ∧ row.agentId = args.agentId
        ∧ row.reviewerId = args.reviewerId then
      (resultOf archive row).map (assignmentOf row)
    else none

def hasReview (tables : Tables) (review : BlindReview) : Bool :=
  tables.reviews.rows.any fun item ↦ item.assignmentId = review.assignmentId

def getReport (archive : EvaluationArchive) (tables : Tables)
    (tenantId agentId reviewerId : UUID) : EvaluationReport :=
  let runs := (archive.runs.filter fun run ↦ run.tenantId = tenantId ∧ run.agentId = agentId)
    |>.insertionSort fun run run' ↦ run'.createdAt ≤ run.createdAt
  let reviewRows := tables.reviews.rows.filter fun review ↦
    review.tenantId = tenantId ∧ review.agentId = agentId
  let eligibleIds := (((archive.runs.filter fun run ↦
      run.tenantId = tenantId ∧ run.agentId = agentId).flatMap EvaluationRun.results).filter
    eligible).map EvaluationCaseResult.id
  let reviewedIds := (reviewRows.filter fun row ↦ row.reviewerId = reviewerId).map
    BlindReview.resultId
  summarize runs reviewRows (pendingOf eligibleIds reviewedIds)

end SqlAlchemyEvaluationRepository

end CyberNetizen.Infrastructure
