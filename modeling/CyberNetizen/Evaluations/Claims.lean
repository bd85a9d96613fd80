import Mathlib.Data.List.Infix
import CyberNetizen.Evaluations.InMemoryReviews
import CyberNetizen.Evaluations.SqlReviews

namespace CyberNetizen.Evaluations

open Domain Application Infrastructure KeyedTable Calls

namespace Sql

open SqlAlchemyEvaluationRepository

variable {archive : EvaluationArchive} {events events' : List Action} {i : ℕ} {args : ClaimArgs}

abbrev after (archive : EvaluationArchive) (events : List Action) : World :=
  Machine.run (step archive) World.empty events

def ReadNothing (archive : EvaluationArchive) (events : List Action) (i : ℕ) (args : ClaimArgs) :
    Prop :=
  ∃ reading, reading <+: events ∧ (after archive reading).calls[i]? = some (.claimReading args) ∧
    ∀ a ∈ shown archive (after archive reading).tables,
      ¬Open (after archive reading).tables.reviews.rows args a

def LockedDuring (archive : EvaluationArchive) (selecting events : List Action) (i : ℕ)
    (result : EvaluationCaseResult) : Prop :=
  ∃ trying, selecting <+: trying ∧ trying <+: events ∧
    ∃ j phase, j ≠ i ∧ (after archive trying).calls[j]? = some phase ∧
      phase.locks = some result.id

/-- After its first statement the claim took a snapshot, of which all free results but the `rest`
were locked when it tried them. -/
def Tried (archive : EvaluationArchive) (events : List Action) (i : ℕ) (args : ClaimArgs)
    (rest : List EvaluationCaseResult) : Prop :=
  ∃ selecting, selecting <+: events ∧ ReadNothing archive selecting i args ∧
    (after archive selecting).calls[i]? = some (.claimSelecting args) ∧
    ∀ result, Free archive eligible (shown archive (after archive selecting).tables) args result →
      result ∈ rest ∨ LockedDuring archive selecting events i result

theorem ReadNothing.mono (h : ReadNothing archive events i args) (hsub : events <+: events') :
    ReadNothing archive events' i args := by
  obtain ⟨reading, hreading, h⟩ := h
  exact ⟨reading, hreading.trans hsub, h⟩

theorem Tried.mono {rest : List EvaluationCaseResult} (h : Tried archive events i args rest)
    (hsub : events <+: events') : Tried archive events' i args rest := by
  obtain ⟨selecting, hselecting, hread, hphase, hfree⟩ := h
  refine ⟨selecting, hselecting.trans hsub, hread, hphase, fun result hresult ↦ ?_⟩
  rcases hfree result hresult with hrest | ⟨trying, hafter, hbefore, hlocked⟩
  · exact .inl hrest
  · exact .inr ⟨trying, hafter, hbefore.trans hsub, hlocked⟩

def Explained (archive : EvaluationArchive) (events : List Action) (i : ℕ) : Phase → Prop
  | .claimSelecting args => ReadNothing archive events i args
  | .claimLocking args rest => Tried archive events i args rest
  | .claimed args none => Tried archive events i args []
  | _ => True

theorem Explained.mono {phase : Phase} (h : Explained archive events i phase)
    (hsub : events <+: events') : Explained archive events' i phase := by
  cases phase with
  | claimSelecting args => exact ReadNothing.mono h hsub
  | claimLocking args rest => exact Tried.mono h hsub
  | claimed args answer =>
    cases answer with
    | none => exact Tried.mono h hsub
    | some a => trivial
  | claimReading | claimInserting | submitReading | submitChecking | submitFlushing
  | submitFlushed | submitted | failed | aborted => trivial

theorem Moves.explained {phase phase' : Phase} {tables : Tables}
    (h : Moves archive (after archive events) i phase phase' tables)
    (hphase : (after archive events).calls[i]? = some phase)
    (hexplained : Explained archive events i phase) : Explained archive events i phase' := by
  have hresults := (run_inv : Inv archive (after archive events)).results
  cases h with
  | stays => exact hexplained
  | fails | finds | takes | assigns | unblinds | checks | flushes | commits => trivial
  | reads h => exact ⟨events, List.prefix_rfl, hphase, existing_eq_none h⟩
  | selects args =>
    exact ⟨events, List.prefix_rfl, hexplained, hphase, fun result hfree ↦
      .inl ((mem_unassigned hresults).mpr hfree)⟩
  | runsOut args => exact hexplained
  | @skips args skipped rest h =>
    obtain ⟨selecting, hselecting, hread, hselected, hfree⟩ := hexplained
    refine ⟨selecting, hselecting, hread, hselected, fun result hresult ↦ ?_⟩
    rcases hfree result hresult with hrest | hlocked
    · rcases List.mem_cons.mp hrest with rfl | hrest
      · obtain ⟨j, phase, hji, hj, hlocks⟩ := any_eraseIdx.mp h
        exact .inr ⟨events, hselecting, List.prefix_rfl, j, phase, hji, hj, of_decide_eq_true hlocks⟩
      · exact .inl hrest
    · exact .inr hlocked

theorem explained (archive : EvaluationArchive) (events : List Action) :
    ∀ i phase, (after archive events).calls[i]? = some phase → Explained archive events i phase := by
  refine Machine.run_history (I := fun (events : List Action) (w : World) ↦ ∀ (i : ℕ) (phase : Phase),
    w.calls[i]? = some phase → Explained archive events i phase) (fun i phase h ↦ by cases h) ?_
  intro events a ih
  have hsub := List.prefix_append events [a]
  have hsteps := step_steps archive (after archive events) a
  generalize (step archive (after archive events) a).2 = w' at hsteps ⊢
  intro j phase hj
  cases hsteps with
  | idles => exact (ih j phase hj).mono hsub
  | claims | submits =>
    rcases getElem?_of_append hj with ⟨-, rfl⟩ | hj
    · trivial
    · exact (ih j phase hj).mono hsub
  | aborts hphase _ =>
    rcases getElem?_of_set hj with ⟨-, rfl⟩ | ⟨-, hj⟩
    · trivial
    · exact (ih j phase hj).mono hsub
  | moves hphase hmoves =>
    rcases getElem?_of_set hj with ⟨rfl, rfl⟩ | ⟨-, hj⟩
    · exact (hmoves.explained hphase (ih j _ hphase)).mono hsub
    · exact (ih j phase hj).mono hsub

/-- What the database and its callers keep to: the reviews are unique and correctly unblinded, the
report counts what the reviewer has not reviewed, and a claim is answered with nothing only if
nothing was open and whatever was free was locked by another transaction. -/
structure Settled (archive : EvaluationArchive) (events : List Action) : Prop where
  rows : ∀ row ∈ (after archive events).tables.assignments, ∃ result,
    resultOf archive row = some result ∧
      assignmentOf row result ∈ shown archive (after archive events).tables
  reviews : BlindReviews archive eligible (shown archive (after archive events).tables)
    (after archive events).tables.reviews.rows
    (fun args a ↦ .claimed args (some a) ∈ (after archive events).calls)
    (fun args review ↦ .submitted args review ∈ (after archive events).calls)
  pending : ∀ tenantId agentId reviewerId,
    (getReport archive (after archive events).tables tenantId agentId reviewerId).pendingReviews =
      (pendingResults archive eligible (after archive events).tables.reviews.rows tenantId agentId
        reviewerId).length
  nothing : ∀ i args, (after archive events).calls[i]? = some (.claimed args none) →
    Tried archive events i args []

end Sql

namespace InMemory

open MemoryEvaluationRepository

abbrev after (archive : EvaluationArchive) (events : List Action) : World :=
  Machine.run (step archive) World.empty events

/-- As for the database, but a claim is answered with nothing only if nothing was free. -/
structure Settled (archive : EvaluationArchive) (events : List Action) : Prop where
  reviews : BlindReviews archive eligible (after archive events).store.assignments.rows
    (after archive events).store.reviews.rows
    (fun args a ↦ .claimed args (some a) ∈ (after archive events).calls)
    (fun args review ↦ .submitted args review ∈ (after archive events).calls)
  pending : ∀ tenantId agentId reviewerId,
    (getReport archive (after archive events).store tenantId agentId reviewerId).pendingReviews =
      (pendingResults archive eligible (after archive events).store.reviews.rows tenantId agentId
        reviewerId).length
  nothing : NoneExplained archive events (after archive events)

end InMemory

theorem blind_reviews_settled (archive : EvaluationArchive) (events events' : List Action)
    (hfresh : Machine.Along (InMemory.step archive) InMemory.Fresh InMemory.World.empty events) :
    InMemory.Settled archive events ∧ Sql.Settled archive events' := by
  have hmemory := InMemory.run_inv hfresh
  have hsql : Sql.Inv archive (Sql.after archive events') := Sql.run_inv
  refine ⟨⟨hmemory.blindReviews, hmemory.pendingReviews, InMemory.none_explained⟩,
    fun row hrow ↦ ?_, hsql.blindReviews, hsql.pendingReviews, fun i args h ↦ ?_⟩
  · obtain ⟨result, hresult⟩ := hsql.results row hrow
    exact ⟨result, hresult, Sql.mem_shown.mpr ⟨row, hrow, result, hresult, rfl⟩⟩
  · exact Sql.explained archive events' i _ h

def oneResult : EvaluationArchive where
  runs := [⟨1, 2, 3, true, [⟨4, 1, "greeting", "tone", "hi", some "hello", some "hey"⟩], 0⟩]
  runIds := List.nodup_singleton _
  resultIds := List.nodup_singleton _
  owned run hrun result hresult := by
    obtain rfl := List.mem_singleton.mp hrun
    obtain rfl := List.mem_singleton.mp hresult
    rfl

def fives : BlindReviewScore := ⟨5, 5, 5, 5⟩

def ones : BlindReviewScore := ⟨1, 1, 1, 1⟩

def twoClaims : List Action :=
  [.claim ⟨2, 3, 10, none⟩, .claim ⟨2, 3, 11, none⟩,
    .advance 0 false 0 1, .advance 0 false 0 1, .advance 0 false 0 1,
    .advance 1 false 0 2, .advance 1 false 0 2, .advance 1 false 0 2, .advance 1 false 0 2,
    .advance 0 false 20 3,
    .submit ⟨20, 2, 3, 10, "a", fives, ones, none⟩,
    .advance 2 false 21 4, .advance 2 false 0 4, .advance 2 false 0 4, .advance 2 false 0 4]

def oneClaim : List Action :=
  [.claim ⟨2, 3, 10, none⟩, .advance 0 false 20 1, .submit ⟨20, 2, 3, 10, "a", fives, ones, none⟩,
    .advance 1 false 21 2, .advance 1 false 22 2]

theorem blind_reviews_settled_one :
    (∃ review ∈ (InMemory.after oneResult oneClaim).store.reviews.rows,
      review.preference = .reference ∧ review.referenceScore = fives) ∧
      InMemory.Settled oneResult oneClaim ∧ Sql.Settled oneResult twoClaims :=
  ⟨by decide +kernel, blind_reviews_settled oneResult oneClaim twoClaims (by decide +kernel)⟩

/-- A claim is answered with nothing although the only result was free for its reviewer all the
time: the row was locked for the claim of somebody else. -/
theorem locked_result_is_not_given : ¬∀ (archive : EvaluationArchive) (events : List Action) (i : ℕ)
    (args : ClaimArgs), (Sql.after archive events).calls[i]? = some (Sql.Phase.claimed args none) →
      ∃ during, during <+: events ∧
        (∀ a ∈ Sql.shown archive (Sql.after archive during).tables,
          ¬Open (Sql.after archive during).tables.reviews.rows args a) ∧
        ∀ result, ¬Free archive SqlAlchemyEvaluationRepository.eligible
          (Sql.shown archive (Sql.after archive during).tables) args result := by
  intro h
  obtain ⟨during, hduring, -, hfree⟩ :=
    h oneResult twoClaims 1 ⟨2, 3, 11, none⟩ (by decide +kernel)
  have hunassigned : ∀ during ∈ twoClaims.inits,
      ∀ a ∈ Sql.shown oneResult (Sql.after oneResult during).tables, a.reviewerId ≠ 11 := by
    decide +kernel
  refine hfree _ ⟨⟨_, List.mem_singleton_self _, by decide +kernel, List.mem_singleton_self _,
    by decide +kernel⟩, fun a ha hboth ↦ ?_⟩
  exact hunassigned during ((List.mem_inits _ _).mpr hduring) a ha hboth.1

end CyberNetizen.Evaluations
