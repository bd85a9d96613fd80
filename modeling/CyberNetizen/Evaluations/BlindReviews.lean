import Mathlib.Data.List.Dedup
import Mathlib.Data.List.Flatten
import CyberNetizen.Infrastructure.EvaluationRepository
import CyberNetizen.Lib.Machine

namespace CyberNetizen.Evaluations

open Domain Application Infrastructure KeyedTable

/-- What a caller or the scheduler does: a call begins, a call takes its next step, or the
process that runs it ends. -/
inductive Action
  | claim (args : ClaimArgs)
  | submit (args : SubmitArgs)
  | advance (i : ℕ) (candidateIsA : Bool) (id : UUID) (now : Datetime)
  | abort (i : ℕ)

namespace InMemory

open MemoryEvaluationRepository

inductive Phase
  | claiming (args : ClaimArgs)
  | claimed (args : ClaimArgs) (answer : Option BlindReviewAssignment)
  | submitting (args : SubmitArgs)
  | saving (args : SubmitArgs) (review : BlindReview)
  | submitted (args : SubmitArgs) (review : BlindReview)
  | failed (error : EvaluationError)
  | aborted
  deriving DecidableEq

def Phase.over : Phase → Bool
  | .claimed .. | .submitted .. | .failed _ | .aborted => true
  | _ => false

structure World where
  store : Store
  calls : List Phase

def World.empty : World := ⟨.empty, []⟩

/-- A call up to its next release of the lock. -/
def advance (archive : EvaluationArchive) (store : Store) (candidateIsA : Bool) (id : UUID)
    (now : Datetime) : Phase → Phase × Store
  | .claiming args =>
    let (answer, store) := claimBlindAssignment archive store args candidateIsA id now
    (.claimed args answer, store)
  | .submitting args =>
    match EvaluationService.unblind args (getBlindAssignment store args) id now with
    | .error error => (.failed error, store)
    | .ok review => (.saving args review, store)
  | .saving args review =>
    match saveBlindReview store review with
    | .error error => (.failed error, store)
    | .ok store => (.submitted args review, store)
  | phase => (phase, store)

def step (archive : EvaluationArchive) (w : World) : Action → Unit × World
  | .claim args => ((), { w with calls := w.calls ++ [.claiming args] })
  | .submit args => ((), { w with calls := w.calls ++ [.submitting args] })
  | .advance i candidateIsA id now =>
    match w.calls[i]? with
    | none => ((), w)
    | some phase =>
      let (phase, store) := advance archive w.store candidateIsA id now phase
      ((), { store, calls := w.calls.set i phase })
  | .abort i =>
    match w.calls[i]? with
    | none => ((), w)
    | some phase => ((), { w with calls := w.calls.set i (if phase.over then phase else .aborted) })

def Phase.review? : Phase → Option BlindReview
  | .saving _ review | .submitted _ review => some review
  | _ => none

/-- `uuid4` gives an identifier that was not given before. -/
def Fresh (w : World) : Action → Prop
  | .advance _ _ id _ => (∀ a ∈ w.store.assignments, a.id ≠ id) ∧
      ∀ phase ∈ w.calls, phase.review?.map BlindReview.id ≠ some id
  | _ => True

instance (w : World) : ∀ a, Decidable (Fresh w a)
  | .advance _ _ id _ => inferInstanceAs (Decidable ((∀ a ∈ w.store.assignments.rows, a.id ≠ id) ∧ _))
  | .claim _ | .submit _ | .abort _ => .isTrue trivial

end InMemory

namespace Sql

open SqlAlchemyEvaluationRepository

/-- Where the transaction of a call stands. -/
inductive Phase
  | claimReading (args : ClaimArgs)
  | claimSelecting (args : ClaimArgs)
  /-- The rows of the snapshot that `FOR UPDATE SKIP LOCKED` has still to try. -/
  | claimLocking (args : ClaimArgs) (rest : List EvaluationCaseResult)
  | claimInserting (args : ClaimArgs) (result : EvaluationCaseResult)
  | claimed (args : ClaimArgs) (answer : Option BlindReviewAssignment)
  | submitReading (args : SubmitArgs)
  | submitChecking (args : SubmitArgs) (review : BlindReview)
  | submitFlushing (args : SubmitArgs) (review : BlindReview)
  | submitFlushed (args : SubmitArgs) (review : BlindReview)
  | submitted (args : SubmitArgs) (review : BlindReview)
  | failed (error : EvaluationError)
  | aborted
  deriving DecidableEq

def Phase.over : Phase → Bool
  | .claimed .. | .submitted .. | .failed _ | .aborted => true
  | _ => false

structure World where
  tables : Tables
  calls : List Phase

def World.empty : World := ⟨.empty, []⟩

/-- The result whose row the transaction holds `FOR UPDATE`. -/
def Phase.updates : Phase → Option UUID
  | .claimInserting _ result => some result.id
  | _ => none

/-- The result whose row the transaction holds in any mode: the foreign key of an uncommitted
review keeps it `FOR KEY SHARE`. -/
def Phase.locks : Phase → Option UUID
  | .submitFlushed _ review => some review.resultId
  | phase => phase.updates

def Phase.reviews (assignmentId : UUID) : Phase → Bool
  | .submitFlushed _ review => review.assignmentId = assignmentId
  | _ => false

/-- One of the calls other than the `i`-th is in such a phase. -/
def another (calls : List Phase) (i : ℕ) (p : Phase → Bool) : Bool :=
  (calls.eraseIdx i).any p

def lockedFor (calls : List Phase) (i : ℕ) (resultId : UUID) : Bool :=
  another calls i fun phase ↦ phase.locks = some resultId

/-- The next statement of the `i`-th call. A statement that waits leaves everything as it is. -/
def advance (archive : EvaluationArchive) (w : World) (i : ℕ) (candidateIsA : Bool) (id : UUID)
    (now : Datetime) : Phase → Phase × Tables
  | .claimReading args =>
    match existing archive w.tables args with
    | some (row, result) => (.claimed args (some (assignmentOf row result)), w.tables)
    | none => (.claimSelecting args, w.tables)
  | .claimSelecting args => (.claimLocking args (unassigned archive w.tables args), w.tables)
  | .claimLocking args [] => (.claimed args none, w.tables)
  | .claimLocking args (result :: rest) =>
    if lockedFor w.calls i result.id then (.claimLocking args rest, w.tables)
    else (.claimInserting args result, w.tables)
  | .claimInserting args result =>
    let row := newAssignmentRow args result candidateIsA id now
    match insertAssignment w.tables row with
    | .error error => (.failed error, w.tables)
    | .ok tables => (.claimed args (some (assignmentOf row result)), tables)
  | .submitReading args =>
    match EvaluationService.unblind args (getBlindAssignment archive w.tables args) id now with
    | .error error => (.failed error, w.tables)
    | .ok review => (.submitChecking args review, w.tables)
  | .submitChecking args review =>
    if hasReview w.tables review then (.failed (.conflict "该盲评任务已经提交"), w.tables)
    else (.submitFlushing args review, w.tables)
  | .submitFlushing args review =>
    if hasReview w.tables review then (.failed .integrity, w.tables)
    else if another w.calls i (Phase.reviews review.assignmentId) then
      (.submitFlushing args review, w.tables)
    else if another w.calls i fun phase ↦ phase.updates = some review.resultId then
      (.submitFlushing args review, w.tables)
    else (.submitFlushed args review, w.tables)
  | .submitFlushed args review =>
    match w.tables.reviews.insert? review with
    | none => (.failed .integrity, w.tables)
    | some reviews => (.submitted args review, { w.tables with reviews })
  | phase => (phase, w.tables)

def step (archive : EvaluationArchive) (w : World) : Action → Unit × World
  | .claim args => ((), { w with calls := w.calls ++ [.claimReading args] })
  | .submit args => ((), { w with calls := w.calls ++ [.submitReading args] })
  | .advance i candidateIsA id now =>
    match w.calls[i]? with
    | none => ((), w)
    | some phase =>
      let (phase, tables) := advance archive w i candidateIsA id now phase
      ((), { tables, calls := w.calls.set i phase })
  | .abort i =>
    match w.calls[i]? with
    | none => ((), w)
    | some phase => ((), { w with calls := w.calls.set i (if phase.over then phase else .aborted) })

end Sql

end CyberNetizen.Evaluations

namespace CyberNetizen.Evaluations

open Domain Application Infrastructure KeyedTable Checks

section archive

variable (archive : EvaluationArchive) (eligible : EvaluationCaseResult → Bool)

def Selected (args : ClaimArgs) (result : EvaluationCaseResult) : Prop :=
  ∃ run ∈ archive.runs, args.inScope run = true ∧ result ∈ run.results ∧ eligible result = true

/-- The assignment shows the two responses of an eligible result, in the order of its side. -/
structure Shows (a : BlindReviewAssignment) (run : EvaluationRun) (result : EvaluationCaseResult) :
    Prop where
  run_mem : run ∈ archive.runs
  result_mem : result ∈ run.results
  eligible : eligible result = true
  tenantId : a.tenantId = run.tenantId
  agentId : a.agentId = run.agentId
  resultId : a.resultId = result.id
  responseA : a.responseA = if a.candidateIsA then candidateText result else referenceText result
  responseB : a.responseB = if a.candidateIsA then referenceText result else candidateText result

variable {archive eligible} {args : ClaimArgs} {run run' : EvaluationRun}
  {result result' : EvaluationCaseResult}

theorem inScope_iff : args.inScope run = true ↔ run.tenantId = args.tenantId ∧
    run.agentId = args.agentId ∧ (args.runId = none ∨ args.runId = some run.id) := by
  simp [ClaimArgs.inScope]

theorem shows_assignmentOf (h : Selected archive eligible args result) (candidateIsA : Bool)
    (id : UUID) (now : Datetime) :
    ∃ run result', Shows archive eligible
      (assignmentOf (newAssignmentRow args result candidateIsA id now) result) run result' := by
  obtain ⟨run, hrun, hscope, hresult, heligible⟩ := h
  obtain ⟨htenant, hagent, -⟩ := inScope_iff.mp hscope
  exact ⟨run, result, hrun, hresult, heligible, htenant.symm, hagent.symm, rfl, rfl, rfl⟩

theorem mem_results (hrun : run ∈ archive.runs) (hresult : result ∈ run.results) :
    result ∈ archive.runs.flatMap EvaluationRun.results :=
  List.mem_flatMap.mpr ⟨run, hrun, hresult⟩

theorem result_eq (hrun : run ∈ archive.runs) (hresult : result ∈ run.results)
    (hrun' : run' ∈ archive.runs) (hresult' : result' ∈ run'.results)
    (hid : result.id = result'.id) : result = result' ∧ run = run' := by
  obtain rfl : result = result' := List.inj_on_of_nodup_map archive.resultIds
    (mem_results hrun hresult) (mem_results hrun' hresult') hid
  refine ⟨rfl, List.inj_on_of_nodup_map archive.runIds hrun hrun' ?_⟩
  rw [← archive.owned run hrun result hresult, ← archive.owned run' hrun' result hresult']

end archive

section submission

variable {args : SubmitArgs} {a : BlindReviewAssignment} {found? : Option BlindReviewAssignment}
  {id : UUID} {now : Datetime} {review : BlindReview}

/-- What `submit_blind_review` makes of an assignment that it has read. -/
structure Unblinded (args : SubmitArgs) (a : BlindReviewAssignment) (review : BlindReview) :
    Prop where
  displayed : args.displayedPreference ∈ ["a", "b", "tie"]
  tenantId : review.tenantId = args.tenantId
  agentId : review.agentId = args.agentId
  assignmentId : review.assignmentId = a.id
  resultId : review.resultId = a.resultId
  reviewerId : review.reviewerId = args.reviewerId
  preference : review.preference =
    EvaluationService.sourcePreference args.displayedPreference a.candidateIsA
  candidateScore : review.candidateScore =
    if a.candidateIsA then args.responseAScore else args.responseBScore
  referenceScore : review.referenceScore =
    if a.candidateIsA then args.responseBScore else args.responseAScore

theorem unblind_eq_ok (h : EvaluationService.unblind args found? id now = .ok review) :
    ∃ a, found? = some a ∧ Unblinded args a review ∧ review.id = id := by
  unfold EvaluationService.unblind at h
  obtain ⟨a, ha, h⟩ := bind_eq_ok.mp h
  obtain ⟨_, hdisplayed, h⟩ := bind_eq_ok.mp h
  obtain ⟨_, _, h⟩ := bind_eq_ok.mp h
  obtain ⟨_, _, h⟩ := bind_eq_ok.mp h
  obtain rfl := Except.ok.inj h
  have hmem := of_decide_eq_true (require_eq_ok.mp hdisplayed)
  exact ⟨a, found_eq_ok.mp ha, ⟨hmem, rfl, rfl, rfl, rfl, rfl, rfl, rfl, rfl⟩, rfl⟩

/-- The review says of the two sources what the reviewer said of the letters that showed them. -/
structure Unblinds (a : BlindReviewAssignment) (candidate reference : String) (args : SubmitArgs)
    (review : BlindReview) : Prop where
  sides :
    (a.responseA = candidate ∧ a.responseB = reference ∧
      review.candidateScore = args.responseAScore ∧ review.referenceScore = args.responseBScore ∧
      (review.preference = .candidate ↔ args.displayedPreference = "a") ∧
      (review.preference = .reference ↔ args.displayedPreference = "b")) ∨
    (a.responseA = reference ∧ a.responseB = candidate ∧
      review.candidateScore = args.responseBScore ∧ review.referenceScore = args.responseAScore ∧
      (review.preference = .candidate ↔ args.displayedPreference = "b") ∧
      (review.preference = .reference ↔ args.displayedPreference = "a"))
  tie : review.preference = .tie ↔ args.displayedPreference = "tie"

theorem Unblinded.unblinds {archive : EvaluationArchive} {eligible : EvaluationCaseResult → Bool}
    {run : EvaluationRun} {result : EvaluationCaseResult} (h : Unblinded args a review)
    (hshows : Shows archive eligible a run result) :
    Unblinds a (candidateText result) (referenceText result) args review := by
  have hA := hshows.responseA
  have hB := hshows.responseB
  have hcandidate := h.candidateScore
  have hreference := h.referenceScore
  have hpreference := h.preference
  have hdisplayed := h.displayed
  unfold EvaluationService.sourcePreference at hpreference
  simp only [List.mem_cons, List.not_mem_nil, or_false] at hdisplayed
  cases hside : a.candidateIsA with
  | true =>
    simp only [hside, if_true] at hA hB hcandidate hreference hpreference
    refine ⟨.inl ⟨hA, hB, hcandidate, hreference, ?_⟩, ?_⟩ <;> rw [hpreference] <;>
      rcases hdisplayed with hd | hd | hd <;> rw [hd] <;> decide
  | false =>
    simp only [hside, Bool.false_eq_true, if_false] at hA hB hcandidate hreference hpreference
    refine ⟨.inr ⟨hA, hB, hcandidate, hreference, ?_⟩, ?_⟩ <;> rw [hpreference] <;>
      rcases hdisplayed with hd | hd | hd <;> rw [hd] <;> decide

end submission

section records

variable (archive : EvaluationArchive) (eligible : EvaluationCaseResult → Bool)

def Made (shown : List BlindReviewAssignment) (args : SubmitArgs) (review : BlindReview) : Prop :=
  ∃ a ∈ shown, a.id = args.assignmentId ∧ a.tenantId = args.tenantId ∧
    a.agentId = args.agentId ∧ a.reviewerId = args.reviewerId ∧ Unblinded args a review

structure SoundAssignments (shown : List BlindReviewAssignment) : Prop where
  unique : ∀ a ∈ shown, ∀ b ∈ shown, a.reviewerId = b.reviewerId → a.resultId = b.resultId → a = b
  ids : ∀ a ∈ shown, ∀ b ∈ shown, a.id = b.id → a = b
  shows : ∀ a ∈ shown, ∃ run result, Shows archive eligible a run result

def Open (reviews : List BlindReview) (args : ClaimArgs) (a : BlindReviewAssignment) : Prop :=
  a.tenantId = args.tenantId ∧ a.agentId = args.agentId ∧ a.reviewerId = args.reviewerId ∧
    (args.runId = none ∨ args.runId = some a.runId) ∧
    ∀ review ∈ reviews, review.assignmentId ≠ a.id

def Free (shown : List BlindReviewAssignment) (args : ClaimArgs) (result : EvaluationCaseResult) :
    Prop :=
  Selected archive eligible args result ∧
    ∀ a ∈ shown, ¬(a.reviewerId = args.reviewerId ∧ a.resultId = result.id)

def pendingResults (reviews : List BlindReview) (tenantId agentId reviewerId : UUID) :
    List EvaluationCaseResult :=
  ((archive.runs.filter fun run ↦ run.tenantId = tenantId ∧ run.agentId = agentId).flatMap
    EvaluationRun.results).filter fun result ↦ eligible result ∧
      ∀ review ∈ reviews, ¬(review.reviewerId = reviewerId ∧ review.resultId = result.id)

variable {archive eligible} {shown : List BlindReviewAssignment} {a : BlindReviewAssignment}
  {reviews : List BlindReview}

/-- One assignment is added, of a result that its reviewer had none of. -/
theorem SoundAssignments.add {shown' : List BlindReviewAssignment}
    (h : SoundAssignments archive eligible shown) (hmem : ∀ b ∈ shown', b = a ∨ b ∈ shown)
    (hunique : ∀ b ∈ shown, ¬(b.reviewerId = a.reviewerId ∧ b.resultId = a.resultId))
    (hids : ∀ b ∈ shown, b.id ≠ a.id) (hshows : ∃ run result, Shows archive eligible a run result) :
    SoundAssignments archive eligible shown' := by
  constructor
  · intro b hb c hc hreviewer hresult
    rcases hmem b hb with rfl | hold <;> rcases hmem c hc with rfl | hold'
    · rfl
    · exact absurd ⟨hreviewer.symm, hresult.symm⟩ (hunique c hold')
    · exact absurd ⟨hreviewer, hresult⟩ (hunique b hold)
    · exact h.unique b hold c hold' hreviewer hresult
  · intro b hb c hc hid
    rcases hmem b hb with rfl | hold <;> rcases hmem c hc with rfl | hold'
    · rfl
    · exact absurd hid.symm (hids c hold')
    · exact absurd hid (hids b hold)
    · exact h.ids b hold c hold' hid
  · intro b hb
    rcases hmem b hb with rfl | hold
    · exact hshows
    · exact h.shows b hold

theorem Made.mono {shown' : List BlindReviewAssignment} {args : SubmitArgs} {review : BlindReview}
    (h : Made shown args review) (hsub : shown ⊆ shown') : Made shown' args review := by
  obtain ⟨a, ha, h⟩ := h
  exact ⟨a, hsub ha, h⟩

theorem pendingOf_map (results : List EvaluationCaseResult)
    (h : (results.map EvaluationCaseResult.id).Nodup) (reviewedIds : List UUID) :
    pendingOf ((results.filter eligible).map EvaluationCaseResult.id) reviewedIds =
      (results.filter fun result ↦ eligible result ∧ result.id ∉ reviewedIds).length := by
  have hnodup : ((results.filter eligible).map EvaluationCaseResult.id).Nodup :=
    (List.filter_sublist.map _).nodup h
  unfold pendingOf
  rw [List.Nodup.dedup hnodup, List.filter_map, List.length_map, List.filter_filter]
  congr 1
  refine List.filter_congr fun result _ ↦ ?_
  simp [Bool.and_comm]

/-- The set difference of the report counts the results that the reviewer has not reviewed: a
review of a result belongs to the agent of its run. -/
theorem pendingOf_eq (h : SoundAssignments archive eligible shown)
    (hmade : ∀ review ∈ reviews, ∃ args, Made shown args review) (tenantId agentId reviewerId : UUID)
    {runs : List EvaluationRun}
    (hruns : runs.Perm (archive.runs.filter fun run ↦
      run.tenantId = tenantId ∧ run.agentId = agentId)) :
    pendingOf (((runs.flatMap EvaluationRun.results).filter eligible).map EvaluationCaseResult.id)
        (((reviews.filter fun review ↦ review.tenantId = tenantId ∧ review.agentId = agentId).filter
          fun review ↦ review.reviewerId = reviewerId).map BlindReview.resultId) =
      (pendingResults archive eligible reviews tenantId agentId reviewerId).length := by
  have hperm := hruns.flatMap_right EvaluationRun.results
  have hids : ((runs.flatMap EvaluationRun.results).map EvaluationCaseResult.id).Nodup := by
    refine (hperm.map _).nodup_iff.mpr ?_
    exact ((List.filter_sublist.flatMap EvaluationRun.results).map _).nodup archive.resultIds
  rw [pendingOf_map _ hids, (hperm.filter _).length_eq]
  unfold pendingResults
  congr 1
  refine List.filter_congr fun result hresult ↦ ?_
  obtain ⟨run, hrun, hresult⟩ := List.mem_flatMap.mp hresult
  obtain ⟨hrun, hscope⟩ := List.mem_filter.mp hrun
  obtain ⟨htenant, hagent⟩ := of_decide_eq_true hscope
  have hagree : ∀ review ∈ reviews, review.resultId = result.id →
      review.tenantId = tenantId ∧ review.agentId = agentId := by
    intro review hreview hid
    obtain ⟨args, a, ha, -, hatenant, haagent, -, hu⟩ := hmade review hreview
    obtain ⟨run', result', hshows⟩ := h.shows a ha
    have hsame : result'.id = result.id := by
      rw [← hshows.resultId, ← hu.resultId, hid]
    obtain ⟨-, rfl⟩ := result_eq hshows.run_mem hshows.result_mem hrun hresult hsame
    rw [hu.tenantId, hu.agentId, ← hatenant, ← haagent, hshows.tenantId, hshows.agentId]
    exact ⟨htenant, hagent⟩
  refine decide_eq_decide.mpr (and_congr_right fun _ ↦ ?_)
  simp only [List.mem_map, List.mem_filter, decide_eq_true_eq, not_exists, not_and]
  constructor
  · intro hnot review hreview hreviewer hid
    exact hnot review ⟨⟨hreview, hagree review hreview hid⟩, hreviewer⟩ hid
  · intro hnot review hreview hid
    exact hnot review hreview.1.1 hreview.2 hid

/-- What the assignments and the reviews of a repository are, beside the claims that were answered
and the submissions that succeeded. -/
structure BlindReviews (archive : EvaluationArchive) (eligible : EvaluationCaseResult → Bool)
    (shown : List BlindReviewAssignment) (reviews : List BlindReview)
    (answered : ClaimArgs → BlindReviewAssignment → Prop)
    (submitted : SubmitArgs → BlindReview → Prop) : Prop where
  oneAssignment : ∀ a ∈ shown, ∀ b ∈ shown,
    a.reviewerId = b.reviewerId → a.resultId = b.resultId → a = b
  assignmentIds : ∀ a ∈ shown, ∀ b ∈ shown, a.id = b.id → a = b
  oneReview : ∀ review ∈ reviews, ∀ review' ∈ reviews,
    review.assignmentId = review'.assignmentId → review = review'
  answers : ∀ args a, answered args a → a ∈ shown ∧ a.reviewerId = args.reviewerId
  stored : ∀ review, review ∈ reviews ↔ ∃ args, submitted args review
  unblinded : ∀ args review, submitted args review → review.reviewerId = args.reviewerId ∧
    review.assignmentId = args.assignmentId ∧ ∃ a ∈ shown, a.id = args.assignmentId ∧
      a.reviewerId = args.reviewerId ∧ ∃ run ∈ archive.runs, ∃ result ∈ run.results,
        result.id = a.resultId ∧ result.id = review.resultId ∧ eligible result = true ∧
        Unblinds a (candidateText result) (referenceText result) args review

theorem SoundAssignments.blindReviews {answered : ClaimArgs → BlindReviewAssignment → Prop}
    {submitted : SubmitArgs → BlindReview → Prop} (h : SoundAssignments archive eligible shown)
    (honce : ∀ review ∈ reviews, ∀ review' ∈ reviews,
      review.assignmentId = review'.assignmentId → review = review')
    (hanswers : ∀ args a, answered args a → a ∈ shown ∧ a.reviewerId = args.reviewerId)
    (hstored : ∀ review, review ∈ reviews ↔ ∃ args, submitted args review)
    (hmade : ∀ args review, submitted args review → Made shown args review) :
    BlindReviews archive eligible shown reviews answered submitted := by
  refine ⟨h.unique, h.ids, honce, hanswers, hstored, fun args review hsubmitted ↦ ?_⟩
  obtain ⟨a, ha, hid, _, _, hreviewer, hu⟩ := hmade args review hsubmitted
  obtain ⟨run, result, hshows⟩ := h.shows a ha
  refine ⟨hu.reviewerId, hu.assignmentId.trans hid, a, ha, hid, hreviewer, run, hshows.run_mem,
    result, hshows.result_mem, hshows.resultId.symm, ?_, hshows.eligible, hu.unblinds hshows⟩
  rw [hu.resultId, hshows.resultId]

end records

end CyberNetizen.Evaluations
