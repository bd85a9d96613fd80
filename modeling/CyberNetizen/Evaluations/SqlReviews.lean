import CyberNetizen.Evaluations.BlindReviews
import CyberNetizen.Lib.Calls

namespace CyberNetizen.Evaluations.Sql

open Domain Application Infrastructure Infrastructure.SqlAlchemyEvaluationRepository KeyedTable Checks
  Calls

def shown (archive : EvaluationArchive) (tables : Tables) : List BlindReviewAssignment :=
  tables.assignments.rows.filterMap fun row ↦ (resultOf archive row).map (assignmentOf row)

def Phase.reviewedId? : Phase → Option UUID
  | .submitFlushed _ review | .submitted _ review => some review.assignmentId
  | _ => none

def Good (archive : EvaluationArchive) (tables : Tables) : Phase → Prop
  | .claimLocking args rest => ∀ result ∈ rest, Selected archive eligible args result
  | .claimInserting args result => Selected archive eligible args result
  | .claimed args (some a) => a ∈ shown archive tables ∧ a.reviewerId = args.reviewerId
  | .submitChecking args review | .submitFlushing args review | .submitFlushed args review =>
    Made (shown archive tables) args review
  | .submitted args review => Made (shown archive tables) args review ∧ review ∈ tables.reviews
  | _ => True

structure Inv (archive : EvaluationArchive) (w : World) : Prop where
  sound : SoundAssignments archive eligible (shown archive w.tables)
  results : ∀ row ∈ w.tables.assignments, ∃ result, resultOf archive row = some result
  good : ∀ phase ∈ w.calls, Good archive w.tables phase
  stored : ∀ review ∈ w.tables.reviews, ∃ args, .submitted args review ∈ w.calls
  once : TaggedOnce Phase.reviewedId? w.calls

section rows

variable {archive : EvaluationArchive} {tables : Tables} {a : BlindReviewAssignment}
  {row : BlindReviewAssignmentRow} {result : EvaluationCaseResult} {args : ClaimArgs}

theorem mem_shown : a ∈ shown archive tables ↔
    ∃ row ∈ tables.assignments, ∃ result, resultOf archive row = some result ∧
      assignmentOf row result = a := by
  unfold shown
  simp only [List.mem_filterMap, Option.map_eq_some_iff, Table.mem_rows]

theorem resultOf_selected (h : Selected archive eligible args result) (candidateIsA : Bool)
    (id : UUID) (now : Datetime) :
    resultOf archive (newAssignmentRow args result candidateIsA id now) = some result := by
  obtain ⟨run, hrun, _, hresult, _⟩ := h
  unfold resultOf
  have hmem := mem_results hrun hresult
  cases hfind : (archive.runs.flatMap EvaluationRun.results).find? fun r ↦ r.id = result.id with
  | none =>
    have hnone := List.find?_eq_none.mp hfind result hmem
    exact absurd (decide_eq_true rfl) hnone
  | some found =>
    have hid := List.find?_some hfind
    have hsame : found.id = result.id := of_decide_eq_true hid
    have heq := List.inj_on_of_nodup_map archive.resultIds (List.mem_of_find?_eq_some hfind) hmem hsame
    exact hfind.trans (congrArg some heq)

theorem isOpen_iff : isOpen tables args row = true ↔
    Open tables.reviews.rows args (assignmentOf row result) := by
  unfold isOpen Open reviewed
  simp only [Bool.decide_and, Bool.and_eq_true, decide_eq_true_eq, List.any_eq_false]
  constructor
  · rintro ⟨htenant, hagent, hreviewer, hfree, hscope⟩
    exact ⟨htenant, hagent, hreviewer, hscope, hfree⟩
  · rintro ⟨htenant, hagent, hreviewer, hscope, hfree⟩
    exact ⟨htenant, hagent, hreviewer, hfree, hscope⟩

theorem mem_opened : (row, result) ∈ ((tables.assignments.rows.filter (isOpen tables args)).filterMap
      fun row ↦ (resultOf archive row).map fun result ↦ (row, result)) ↔
    row ∈ tables.assignments ∧ isOpen tables args row = true ∧ resultOf archive row = some result := by
  simp only [List.mem_filterMap, List.mem_filter, Option.map_eq_some_iff, Prod.mk.injEq,
    Table.mem_rows]
  constructor
  · rintro ⟨_, ⟨hrow, hopen⟩, _, hresult, rfl, rfl⟩
    exact ⟨hrow, hopen, hresult⟩
  · rintro ⟨hrow, hopen, hresult⟩
    exact ⟨row, ⟨hrow, hopen⟩, result, hresult, rfl, rfl⟩

theorem existing_eq_some (h : existing archive tables args = some (row, result)) :
    assignmentOf row result ∈ shown archive tables ∧ row.reviewerId = args.reviewerId := by
  obtain ⟨hrow, hopen, hresult⟩ := mem_opened.mp (List.argmin_mem h)
  have hiff : isOpen tables args row = true ↔
      Open tables.reviews.rows args (assignmentOf row result) := isOpen_iff
  exact ⟨mem_shown.mpr ⟨row, hrow, result, hresult, rfl⟩, (hiff.mp hopen).2.2.1⟩

theorem existing_eq_none (h : existing archive tables args = none) :
    ∀ a ∈ shown archive tables, ¬Open tables.reviews.rows args a := by
  intro a ha hopen
  obtain ⟨row, hrow, result, hresult, rfl⟩ := mem_shown.mp ha
  have hmem := mem_opened.mpr ⟨hrow, isOpen_iff.mpr hopen, hresult⟩
  rw [List.argmin_eq_none.mp h] at hmem
  exact List.not_mem_nil hmem

theorem mem_unassigned (hresults : ∀ row ∈ tables.assignments, ∃ r, resultOf archive row = some r) :
    result ∈ unassigned archive tables args ↔
      Free archive eligible (shown archive tables) args result := by
  have hassigned : assigned tables args.reviewerId result = false ↔
      ∀ a ∈ shown archive tables, ¬(a.reviewerId = args.reviewerId ∧ a.resultId = result.id) := by
    rw [assigned, List.any_eq_false]
    constructor
    · intro hnone a ha hboth
      obtain ⟨row, hrow, result', _, rfl⟩ := mem_shown.mp ha
      exact hnone row hrow (decide_eq_true hboth)
    · intro hnone row hrow hboth
      obtain ⟨result', hresult'⟩ := hresults row hrow
      exact hnone _ (mem_shown.mpr ⟨row, hrow, result', hresult', rfl⟩) (of_decide_eq_true hboth)
  unfold unassigned Free Selected
  simp only [List.mem_map, List.mem_insertionSort, List.mem_filter, List.mem_flatMap,
    Bool.and_eq_true, Bool.not_eq_true']
  constructor
  · rintro ⟨_, ⟨⟨run, ⟨hrun, hscope⟩, result', hresult, rfl⟩, heligible, hfree⟩, rfl⟩
    exact ⟨⟨run, hrun, hscope, hresult, heligible⟩, hassigned.mp hfree⟩
  · rintro ⟨⟨run, hrun, hscope, hresult, heligible⟩, hfree⟩
    exact ⟨(run, result), ⟨⟨run, ⟨hrun, hscope⟩, result, hresult, rfl⟩, heligible,
      hassigned.mpr hfree⟩, rfl⟩

theorem getBlindAssignment_eq_some {args : SubmitArgs}
    (h : getBlindAssignment archive tables args = some a) : a ∈ shown archive tables ∧
      a.id = args.assignmentId ∧ a.tenantId = args.tenantId ∧ a.agentId = args.agentId ∧
      a.reviewerId = args.reviewerId := by
  unfold getBlindAssignment at h
  obtain ⟨row, hrow, h⟩ := Option.bind_eq_some_iff.mp h
  by_cases howner : row.tenantId = args.tenantId ∧ row.agentId = args.agentId
      ∧ row.reviewerId = args.reviewerId
  · rw [if_pos howner] at h
    obtain ⟨result, hresult, rfl⟩ := Option.map_eq_some_iff.mp h
    have hmem := mem_shown.mpr ⟨row, Table.mem_of_find? hrow, result, hresult, rfl⟩
    have hid : row.id = args.assignmentId := Table.key_of_find? hrow
    exact ⟨hmem, hid, howner⟩
  · rw [if_neg howner] at h
    cases h

theorem insertAssignment_eq_ok {tables' : Tables}
    (h : insertAssignment tables row = .ok tables') :
    (∀ r ∈ tables.assignments, ¬(r.resultId = row.resultId ∧ r.reviewerId = row.reviewerId)) ∧
      (∀ r ∈ tables.assignments, r.id ≠ row.id) ∧
      (∀ r, r ∈ tables'.assignments ↔ r ∈ tables.assignments ∨ r = row) ∧
      tables'.reviews = tables.reviews := by
  unfold insertAssignment at h
  cases hany : tables.assignments.rows.any fun r ↦
      r.resultId = row.resultId ∧ r.reviewerId = row.reviewerId with
  | true =>
    rw [hany, if_pos rfl] at h
    cases h
  | false =>
    rw [hany, if_neg Bool.false_ne_true] at h
    cases hinsert : tables.assignments.insert? row with
    | none => rw [hinsert] at h; cases h
    | some assignments =>
      rw [hinsert] at h
      obtain rfl := Except.ok.inj h
      refine ⟨fun r hr hboth ↦ ?_, (Table.insert?_eq_some hinsert).1,
        fun r ↦ Table.mem_insert? hinsert, rfl⟩
      exact List.any_eq_false.mp hany r hr (decide_eq_true hboth)

theorem hasReview_eq_false {review : BlindReview} (h : hasReview tables review = false) :
    ∀ item ∈ tables.reviews, item.assignmentId ≠ review.assignmentId :=
  fun item hitem hsame ↦ List.any_eq_false.mp h item hitem (decide_eq_true hsame)

end rows

/-- What the next statement of the `i`-th call does. -/
inductive Moves (archive : EvaluationArchive) (w : World) (i : ℕ) : Phase → Phase → Tables → Prop
  | stays (phase : Phase) : Moves archive w i phase phase w.tables
  | fails {phase : Phase} (error : EvaluationError) (hover : phase.over = false) :
      Moves archive w i phase (.failed error) w.tables
  | finds {args : ClaimArgs} {row : BlindReviewAssignmentRow} {result : EvaluationCaseResult}
      (h : existing archive w.tables args = some (row, result)) :
      Moves archive w i (.claimReading args) (.claimed args (some (assignmentOf row result))) w.tables
  | reads {args : ClaimArgs} (h : existing archive w.tables args = none) :
      Moves archive w i (.claimReading args) (.claimSelecting args) w.tables
  | selects (args : ClaimArgs) :
      Moves archive w i (.claimSelecting args)
        (.claimLocking args (unassigned archive w.tables args)) w.tables
  | runsOut (args : ClaimArgs) :
      Moves archive w i (.claimLocking args []) (.claimed args none) w.tables
  | skips {args : ClaimArgs} {result : EvaluationCaseResult} {rest : List EvaluationCaseResult}
      (h : lockedFor w.calls i result.id = true) :
      Moves archive w i (.claimLocking args (result :: rest)) (.claimLocking args rest) w.tables
  | takes (args : ClaimArgs) (result : EvaluationCaseResult) (rest : List EvaluationCaseResult) :
      Moves archive w i (.claimLocking args (result :: rest)) (.claimInserting args result) w.tables
  | assigns {args : ClaimArgs} {result : EvaluationCaseResult} (candidateIsA : Bool) (id : UUID)
      (now : Datetime) {tables : Tables}
      (h : insertAssignment w.tables (newAssignmentRow args result candidateIsA id now) =
        .ok tables) :
      Moves archive w i (.claimInserting args result)
        (.claimed args (some (assignmentOf (newAssignmentRow args result candidateIsA id now) result)))
        tables
  | unblinds {args : SubmitArgs} {review : BlindReview}
      (h : ∃ a, getBlindAssignment archive w.tables args = some a ∧ Unblinded args a review) :
      Moves archive w i (.submitReading args) (.submitChecking args review) w.tables
  | checks (args : SubmitArgs) (review : BlindReview) :
      Moves archive w i (.submitChecking args review) (.submitFlushing args review) w.tables
  | flushes {args : SubmitArgs} {review : BlindReview} (hstored : hasReview w.tables review = false)
      (hother : another w.calls i (Phase.reviews review.assignmentId) = false) :
      Moves archive w i (.submitFlushing args review) (.submitFlushed args review) w.tables
  | commits {args : SubmitArgs} {review : BlindReview} {reviews : Table BlindReview.id}
      (h : w.tables.reviews.insert? review = some reviews) :
      Moves archive w i (.submitFlushed args review) (.submitted args review)
        ⟨w.tables.assignments, reviews⟩

theorem advance_moves (archive : EvaluationArchive) (w : World) (i : ℕ) (candidateIsA : Bool)
    (id : UUID) (now : Datetime) (phase : Phase) :
    Moves archive w i phase (advance archive w i candidateIsA id now phase).1
      (advance archive w i candidateIsA id now phase).2 := by
  cases phase with
  | claimReading args =>
    simp only [advance]
    cases hexisting : existing archive w.tables args with
    | some pair => exact .finds hexisting
    | none => exact .reads hexisting
  | claimSelecting args => exact .selects args
  | claimLocking args rest =>
    cases rest with
    | nil => exact .runsOut args
    | cons result rest =>
      simp only [advance]
      cases hlocked : lockedFor w.calls i result.id with
      | true => exact .skips hlocked
      | false => exact .takes args result rest
  | claimInserting args result =>
    simp only [advance]
    cases hinsert : insertAssignment w.tables
        (newAssignmentRow args result candidateIsA id now) with
    | error error => exact .fails error rfl
    | ok tables => exact .assigns candidateIsA id now hinsert
  | submitReading args =>
    simp only [advance]
    cases hunblind : EvaluationService.unblind args (getBlindAssignment archive w.tables args) id
        now with
    | error error => exact .fails error rfl
    | ok review =>
      obtain ⟨a, ha, hu, _⟩ := unblind_eq_ok hunblind
      exact .unblinds ⟨a, ha, hu⟩
  | submitChecking args review =>
    simp only [advance]
    cases hasReview w.tables review with
    | true => exact .fails _ rfl
    | false => exact .checks args review
  | submitFlushing args review =>
    simp only [advance]
    cases hstored : hasReview w.tables review with
    | true => exact .fails _ rfl
    | false =>
      cases hother : another w.calls i (Phase.reviews review.assignmentId) with
      | true => exact .stays _
      | false =>
        cases another w.calls i fun phase ↦ phase.updates = some review.resultId with
        | true => exact .stays _
        | false => exact .flushes hstored hother
  | submitFlushed args review =>
    simp only [advance]
    cases hinsert : w.tables.reviews.insert? review with
    | none => exact .fails _ rfl
    | some reviews => exact .commits hinsert
  | claimed | submitted | failed | aborted => exact .stays _

/-- A step begins a call, moves one, ends one, or does nothing. -/
inductive Steps (archive : EvaluationArchive) (w : World) : World → Prop
  | claims (args : ClaimArgs) : Steps archive w { w with calls := w.calls ++ [.claimReading args] }
  | submits (args : SubmitArgs) :
      Steps archive w { w with calls := w.calls ++ [.submitReading args] }
  | moves {i : ℕ} {phase phase' : Phase} {tables : Tables} (hphase : w.calls[i]? = some phase)
      (hmoves : Moves archive w i phase phase' tables) :
      Steps archive w ⟨tables, w.calls.set i phase'⟩
  | aborts {i : ℕ} {phase : Phase} (hphase : w.calls[i]? = some phase) (hover : phase.over = false) :
      Steps archive w { w with calls := w.calls.set i .aborted }
  | idles : Steps archive w w

theorem step_steps (archive : EvaluationArchive) (w : World) (a : Action) :
    Steps archive w (step archive w a).2 := by
  cases a with
  | claim args => exact .claims args
  | submit args => exact .submits args
  | advance i candidateIsA id now =>
    simp only [step]
    cases hphase : w.calls[i]? with
    | none => exact .idles
    | some phase => exact .moves hphase (advance_moves archive w i candidateIsA id now phase)
  | abort i =>
    simp only [step]
    cases hphase : w.calls[i]? with
    | none => exact .idles
    | some phase =>
      dsimp only
      cases hover : phase.over with
      | true =>
        rw [if_pos rfl]
        obtain ⟨hlt, rfl⟩ := List.getElem?_eq_some_iff.mp hphase
        rw [List.set_getElem_self]
        exact .idles
      | false =>
        rw [if_neg Bool.false_ne_true]
        exact .aborts hphase hover

section invariant

variable {archive : EvaluationArchive} {w w' : World} {i : ℕ} {phase phase' : Phase}
  {tables tables' : Tables}

structure Grows (archive : EvaluationArchive) (tables tables' : Tables) : Prop where
  shown : shown archive tables ⊆ shown archive tables'
  reviews : ∀ review ∈ tables.reviews, review ∈ tables'.reviews

theorem Grows.refl (tables : Tables) : Grows archive tables tables :=
  ⟨fun _ h ↦ h, fun _ h ↦ h⟩

theorem Grows.good (h : Grows archive tables tables') (hgood : Good archive tables phase) :
    Good archive tables' phase := by
  cases phase with
  | claimed args answer =>
    cases answer with
    | none => trivial
    | some a => exact ⟨h.shown hgood.1, hgood.2⟩
  | submitChecking args review | submitFlushing args review | submitFlushed args review =>
    exact hgood.mono h.shown
  | submitted args review => exact ⟨hgood.1.mono h.shown, h.reviews review hgood.2⟩
  | claimLocking | claimInserting => exact hgood
  | claimReading | claimSelecting | submitReading | failed | aborted => trivial

theorem Moves.grows (h : Moves archive w i phase phase' tables) :
    Grows archive w.tables tables := by
  cases h with
  | stays | fails | finds | reads | selects | runsOut | skips | takes | unblinds | checks
  | flushes => exact .refl w.tables
  | assigns candidateIsA id now h =>
    obtain ⟨-, -, hrows, hreviews⟩ := insertAssignment_eq_ok h
    refine ⟨fun a ha ↦ ?_, fun review hreview ↦ hreviews ▸ hreview⟩
    obtain ⟨row, hrow, result, hresult, rfl⟩ := mem_shown.mp ha
    exact mem_shown.mpr ⟨row, (hrows row).mpr (.inl hrow), result, hresult, rfl⟩
  | commits h =>
    exact ⟨fun _ ha ↦ ha, fun review hreview ↦ (Table.mem_insert? h).mpr (.inl hreview)⟩

/-- The new row shows the result that the claim has locked, and is the only new assignment. -/
theorem shown_insert {args : ClaimArgs} {result : EvaluationCaseResult} {candidateIsA : Bool}
    {id : UUID} {now : Datetime}
    (h : insertAssignment tables (newAssignmentRow args result candidateIsA id now) = .ok tables')
    (hselected : Selected archive eligible args result) (a : BlindReviewAssignment) :
    a ∈ shown archive tables' ↔ a ∈ shown archive tables ∨
      a = assignmentOf (newAssignmentRow args result candidateIsA id now) result := by
  obtain ⟨-, -, hrows, -⟩ := insertAssignment_eq_ok h
  have hresult := resultOf_selected hselected candidateIsA id now
  constructor
  · intro ha
    obtain ⟨row, hrow, result', hresult', rfl⟩ := mem_shown.mp ha
    rcases (hrows row).mp hrow with hrow | rfl
    · exact .inl (mem_shown.mpr ⟨row, hrow, result', hresult', rfl⟩)
    · rw [hresult] at hresult'
      cases hresult'
      exact .inr rfl
  · rintro (ha | rfl)
    · obtain ⟨row, hrow, result', hresult', rfl⟩ := mem_shown.mp ha
      exact mem_shown.mpr ⟨row, (hrows row).mpr (.inl hrow), result', hresult', rfl⟩
    · exact mem_shown.mpr ⟨_, (hrows _).mpr (.inr rfl), result, hresult, rfl⟩

theorem Moves.good (h : Moves archive w i phase phase' tables) (hgood : Good archive w.tables phase)
    (hresults : ∀ row ∈ w.tables.assignments, ∃ r, resultOf archive row = some r) :
    Good archive tables phase' := by
  cases h with
  | stays => exact hgood
  | fails | reads | runsOut => trivial
  | finds h => exact existing_eq_some h
  | selects args => exact fun result hresult ↦ ((mem_unassigned hresults).mp hresult).1
  | skips h => exact fun result hresult ↦ hgood result (List.mem_cons_of_mem _ hresult)
  | takes args result rest => exact hgood result List.mem_cons_self
  | assigns candidateIsA id now h => exact ⟨(shown_insert h hgood _).mpr (.inr rfl), rfl⟩
  | unblinds h =>
    obtain ⟨a, ha, hu⟩ := h
    obtain ⟨hmem, hid, htenant, hagent, hreviewer⟩ := getBlindAssignment_eq_some ha
    exact ⟨a, hmem, hid, htenant, hagent, hreviewer, hu⟩
  | checks | flushes => exact hgood
  | commits h => exact ⟨hgood, (Table.mem_insert? h).mpr (.inr rfl)⟩

theorem Moves.sound (h : Moves archive w i phase phase' tables) (hgood : Good archive w.tables phase)
    (hsound : SoundAssignments archive eligible (shown archive w.tables)) :
    SoundAssignments archive eligible (shown archive tables) := by
  cases h with
  | stays | fails | finds | reads | selects | runsOut | skips | takes | unblinds | checks
  | flushes | commits => exact hsound
  | assigns candidateIsA id now h =>
    obtain ⟨hpair, hids, -, -⟩ := insertAssignment_eq_ok h
    have hshows := shows_assignmentOf hgood candidateIsA id now
    refine hsound.add (fun b hb ↦ ?_) (fun b hb hboth ↦ ?_) (fun b hb ↦ ?_) hshows
    · exact ((shown_insert h hgood b).mp hb).symm
    · obtain ⟨row, hrow, _, _, rfl⟩ := mem_shown.mp hb
      exact hpair row hrow ⟨hboth.2, hboth.1⟩
    · obtain ⟨row, hrow, _, _, rfl⟩ := mem_shown.mp hb
      exact hids row hrow

theorem Moves.results (h : Moves archive w i phase phase' tables)
    (hgood : Good archive w.tables phase)
    (hresults : ∀ row ∈ w.tables.assignments, ∃ r, resultOf archive row = some r) :
    ∀ row ∈ tables.assignments, ∃ r, resultOf archive row = some r := by
  cases h with
  | stays | fails | finds | reads | selects | runsOut | skips | takes | unblinds | checks
  | flushes | commits => exact hresults
  | assigns candidateIsA id now h =>
    intro row hrow
    obtain ⟨-, -, hrows, -⟩ := insertAssignment_eq_ok h
    rcases (hrows row).mp hrow with hrow | rfl
    · exact hresults row hrow
    · exact ⟨_, resultOf_selected hgood candidateIsA id now⟩

theorem Moves.submitted (h : Moves archive w i phase phase' tables) {args : SubmitArgs}
    {review : BlindReview} (hphase : phase = .submitted args review) : phase' = phase := by
  subst hphase
  cases h with
  | stays => rfl
  | fails _ hover => cases hover

/-- No other call has written a review of an assignment that has neither a review nor an
uncommitted one. -/
theorem Inv.unwritten (h : Inv archive w) {review : BlindReview}
    (hstored : hasReview w.tables review = false)
    (hother : another w.calls i (Phase.reviews review.assignmentId) = false) {j : ℕ} {b : Phase}
    (hji : j ≠ i) (hj : w.calls[j]? = some b) :
    b.reviewedId? ≠ some review.assignmentId := by
  intro hb
  cases b with
  | submitFlushed args review' =>
    have hany : another w.calls i (Phase.reviews review.assignmentId) = true :=
      any_eraseIdx.mpr ⟨j, _, hji, hj, decide_eq_true (Option.some.inj hb)⟩
    rw [hother] at hany
    cases hany
  | submitted args review' =>
    have hgood := h.good _ (List.mem_of_getElem? hj)
    exact hasReview_eq_false hstored review' hgood.2 (Option.some.inj hb)
  | claimReading | claimSelecting | claimLocking | claimInserting | claimed | submitReading
  | submitChecking | submitFlushing | failed | aborted => cases hb

theorem Moves.once (h : Moves archive w i phase phase' tables) (hphase : w.calls[i]? = some phase)
    (hinv : Inv archive w) : TaggedOnce Phase.reviewedId? (w.calls.set i phase') := by
  cases h with
  | stays => exact hinv.once.set_same hphase rfl
  | fails | finds | reads | selects | runsOut | skips | takes | assigns | unblinds | checks =>
    exact hinv.once.set_none rfl
  | @flushes args review hstored hother =>
    refine hinv.once.set fun k hk j b hji hj ↦ ?_
    obtain rfl : review.assignmentId = k := Option.some.inj hk
    exact hinv.unwritten hstored hother hji hj
  | commits h => exact hinv.once.set_same hphase rfl

theorem Moves.stored (h : Moves archive w i phase phase' tables) (hphase : w.calls[i]? = some phase)
    (hinv : Inv archive w) :
    ∀ review ∈ tables.reviews, ∃ args, .submitted args review ∈ w.calls.set i phase' := by
  have hold : ∀ review ∈ w.tables.reviews, ∃ args,
      .submitted args review ∈ w.calls.set i phase' := by
    intro review hreview
    obtain ⟨args, hargs⟩ := hinv.stored review hreview
    exact ⟨args, mem_set_of_mem hphase hargs fun heq ↦ (h.submitted heq).trans heq⟩
  intro review hreview
  cases h with
  | stays | fails | finds | reads | selects | runsOut | skips | takes | unblinds | checks
  | flushes => exact hold review hreview
  | assigns candidateIsA id now h =>
    obtain ⟨-, -, -, hreviews⟩ := insertAssignment_eq_ok h
    exact hold review (hreviews ▸ hreview)
  | @commits args new _ h =>
    rcases (Table.mem_insert? h).mp hreview with hreview | rfl
    · exact hold review hreview
    · exact ⟨args, List.mem_set (List.getElem?_eq_some_iff.mp hphase).1 _⟩

theorem Inv.begin (hinv : Inv archive w) (hgood : Good archive w.tables phase)
    (hnone : phase.reviewedId? = none) : Inv archive { w with calls := w.calls ++ [phase] } := by
  refine ⟨hinv.sound, hinv.results, fun x hx ↦ ?_, fun review hreview ↦ ?_, hinv.once.append hnone⟩
  · rcases List.mem_append.mp hx with hx | hx
    · exact hinv.good x hx
    · rw [List.mem_singleton.mp hx]
      exact hgood
  · obtain ⟨args, hargs⟩ := hinv.stored review hreview
    exact ⟨args, List.mem_append_left _ hargs⟩

theorem Steps.inv (h : Steps archive w w') (hinv : Inv archive w) : Inv archive w' := by
  cases h with
  | idles => exact hinv
  | claims args => exact hinv.begin trivial rfl
  | submits args => exact hinv.begin trivial rfl
  | aborts hphase hover =>
    refine ⟨hinv.sound, hinv.results, fun x hx ↦ ?_, fun review hreview ↦ ?_,
      hinv.once.set_none rfl⟩
    · rcases List.mem_or_eq_of_mem_set hx with hx | rfl
      · exact hinv.good x hx
      · trivial
    · obtain ⟨args, hargs⟩ := hinv.stored review hreview
      refine ⟨args, mem_set_of_mem hphase hargs fun heq ↦ ?_⟩
      subst heq
      cases hover
  | @moves i phase phase' tables hphase hmoves =>
    have hgood := hinv.good phase (List.mem_of_getElem? hphase)
    refine ⟨hmoves.sound hgood hinv.sound, hmoves.results hgood hinv.results, fun x hx ↦ ?_,
      hmoves.stored hphase hinv, hmoves.once hphase hinv⟩
    rcases List.mem_or_eq_of_mem_set hx with hx | rfl
    · exact hmoves.grows.good (hinv.good x hx)
    · exact hmoves.good hgood hinv.results

end invariant

section run

variable {archive : EvaluationArchive} {w : World} {events : List Action}

theorem inv_empty : Inv archive World.empty := by
  refine ⟨⟨?_, ?_, ?_⟩, ?_, ?_, ?_, TaggedOnce.nil⟩ <;>
    exact fun x hx ↦ absurd hx List.not_mem_nil

theorem run_inv : Inv archive (Machine.run (step archive) World.empty events) :=
  Machine.run_invariant_all (fun w a hinv ↦ (step_steps archive w a).inv hinv) inv_empty events

theorem Inv.blindReviews (h : Inv archive w) :
    BlindReviews archive eligible (shown archive w.tables) w.tables.reviews.rows
      (fun args a ↦ .claimed args (some a) ∈ w.calls)
      (fun args review ↦ .submitted args review ∈ w.calls) := by
  have hstored : ∀ review, review ∈ w.tables.reviews ↔ ∃ args, .submitted args review ∈ w.calls :=
    fun review ↦ ⟨h.stored review, fun ⟨args, hargs⟩ ↦ (h.good _ hargs).2⟩
  refine h.sound.blindReviews ?_ (fun args a ha ↦ h.good _ ha) hstored
    (fun args review hr ↦ (h.good _ hr).1)
  intro review hreview review' hreview' hsame
  obtain ⟨args, hargs⟩ := h.stored review hreview
  obtain ⟨args', hargs'⟩ := h.stored review' hreview'
  obtain ⟨i, hi⟩ := List.getElem?_of_mem hargs
  obtain ⟨j, hj⟩ := List.getElem?_of_mem hargs'
  obtain rfl := h.once i j _ _ hi hj review.assignmentId rfl (congrArg some hsame.symm)
  cases hi.symm.trans hj
  rfl

theorem Inv.pendingReviews (h : Inv archive w) (tenantId agentId reviewerId : UUID) :
    (getReport archive w.tables tenantId agentId reviewerId).pendingReviews =
      (pendingResults archive eligible w.tables.reviews.rows tenantId agentId reviewerId).length := by
  refine pendingOf_eq h.sound (fun review hreview ↦ ?_) tenantId agentId reviewerId (.refl _)
  obtain ⟨args, hargs⟩ := h.stored review hreview
  exact ⟨args, (h.good _ hargs).1⟩

end run

end CyberNetizen.Evaluations.Sql
