import CyberNetizen.Evaluations.BlindReviews
import CyberNetizen.Lib.Calls

namespace CyberNetizen.Evaluations.InMemory

open Domain Application Infrastructure Infrastructure.MemoryEvaluationRepository KeyedTable Checks
  Calls

variable {archive : EvaluationArchive}

def Phase.reviewId? (phase : Phase) : Option UUID := phase.review?.map BlindReview.id

def Phase.reviewedId? : Phase → Option UUID
  | .submitted _ review => some review.assignmentId
  | _ => none

def Good (store : Store) : Phase → Prop
  | .claimed args (some a) => a ∈ store.assignments ∧ a.reviewerId = args.reviewerId
  | .saving args review => Made store.assignments.rows args review
  | .submitted args review => Made store.assignments.rows args review ∧ review ∈ store.reviews
  | _ => True

structure Inv (archive : EvaluationArchive) (w : World) : Prop where
  sound : SoundAssignments archive eligible w.store.assignments.rows
  good : ∀ phase ∈ w.calls, Good w.store phase
  stored : ∀ review ∈ w.store.reviews, ∃ args, .submitted args review ∈ w.calls
  ids : TaggedOnce Phase.reviewId? w.calls
  once : TaggedOnce Phase.reviewedId? w.calls

/-- What the next step of a call does. -/
inductive Moves (archive : EvaluationArchive) (store : Store) (id : UUID) :
    Phase → Phase → Store → Prop
  | stays (phase : Phase) : Moves archive store id phase phase store
  | ends {phase : Phase} (phase' : Phase) (hover : phase.over = false)
      (hgood : ∀ store, Good store phase') (hreview : phase'.review? = none)
      (hnone : ∀ args, phase' ≠ .claimed args none) : Moves archive store id phase phase' store
  | finds {args : ClaimArgs} {a : BlindReviewAssignment}
      (h : store.assignments.rows.find? (isOpen store args) = some a) :
      Moves archive store id (.claiming args) (.claimed args (some a)) store
  | assigns {args : ClaimArgs} {result : EvaluationCaseResult} (candidateIsA : Bool) (now : Datetime)
      (h : (unassigned archive store args).head? = some result) :
      Moves archive store id (.claiming args)
        (.claimed args (some (assignmentOf (newAssignmentRow args result candidateIsA id now) result)))
        ⟨store.assignments.put (assignmentOf (newAssignmentRow args result candidateIsA id now) result),
          store.reviews⟩
  | nothing {args : ClaimArgs} (hopen : store.assignments.rows.find? (isOpen store args) = none)
      (hnone : unassigned archive store args = []) :
      Moves archive store id (.claiming args) (.claimed args none) store
  | unblinds {args : SubmitArgs} {review : BlindReview}
      (hmade : ∃ a, getBlindAssignment store args = some a ∧ Unblinded args a review)
      (hid : review.id = id) : Moves archive store id (.submitting args) (.saving args review) store
  | saves {args : SubmitArgs} {review : BlindReview}
      (h : ∀ item ∈ store.reviews, item.assignmentId ≠ review.assignmentId) :
      Moves archive store id (.saving args review) (.submitted args review)
        ⟨store.assignments, store.reviews.put review⟩

theorem advance_moves (archive : EvaluationArchive) (store : Store) (candidateIsA : Bool)
    (id : UUID) (now : Datetime)
    (phase : Phase) :
    Moves archive store id phase (advance archive store candidateIsA id now phase).1
      (advance archive store candidateIsA id now phase).2 := by
  cases phase with
  | claiming args =>
    simp only [advance, claimBlindAssignment]
    cases hopen : store.assignments.rows.find? (isOpen store args) with
    | some a => exact .finds hopen
    | none =>
      cases hhead : (unassigned archive store args).head? with
      | some result => exact .assigns candidateIsA now hhead
      | none => exact .nothing hopen (List.head?_eq_none_iff.mp hhead)
  | submitting args =>
    simp only [advance]
    cases hunblind : EvaluationService.unblind args (getBlindAssignment store args) id now with
    | error error => exact .ends _ rfl (fun _ ↦ trivial) rfl (fun _ ↦ Phase.noConfusion)
    | ok review =>
      obtain ⟨a, ha, hu, hid⟩ := unblind_eq_ok hunblind
      exact .unblinds ⟨a, ha, hu⟩ hid
  | saving args review =>
    simp only [advance, saveBlindReview]
    cases hany : store.reviews.rows.any fun item ↦ item.assignmentId = review.assignmentId with
    | true => exact .ends _ rfl (fun _ ↦ trivial) rfl (fun _ ↦ Phase.noConfusion)
    | false =>
      refine .saves fun item hitem hsame ↦ ?_
      exact List.any_eq_false.mp hany item hitem (decide_eq_true hsame)
  | claimed | submitted | failed | aborted => exact .stays _

/-- A step begins a call, moves one, ends one, or does nothing. -/
inductive Steps (archive : EvaluationArchive) (w : World) (a : Action) : World → Prop
  | begins (phase : Phase) (hgood : ∀ store, Good store phase) (hreview : phase.review? = none)
      (hnone : ∀ args, phase ≠ .claimed args none) :
      Steps archive w a { w with calls := w.calls ++ [phase] }
  | moves {i : ℕ} {id : UUID} {phase phase' : Phase} {store : Store}
      (hphase : w.calls[i]? = some phase) (hmoves : Moves archive w.store id phase phase' store)
      (hfresh : Fresh w a → (∀ a ∈ w.store.assignments, a.id ≠ id) ∧
        ∀ phase ∈ w.calls, phase.reviewId? ≠ some id) :
      Steps archive w a ⟨store, w.calls.set i phase'⟩
  | aborts {i : ℕ} {phase : Phase} (hphase : w.calls[i]? = some phase) (hover : phase.over = false) :
      Steps archive w a { w with calls := w.calls.set i .aborted }
  | idles : Steps archive w a w

theorem step_steps (w : World) (a : Action) : Steps archive w a (step archive w a).2 := by
  cases a with
  | claim args => exact .begins _ (fun _ ↦ trivial) rfl (fun _ ↦ Phase.noConfusion)
  | submit args => exact .begins _ (fun _ ↦ trivial) rfl (fun _ ↦ Phase.noConfusion)
  | advance i candidateIsA id now =>
    simp only [step]
    cases hphase : w.calls[i]? with
    | none => exact .idles
    | some phase =>
      have hmoves := advance_moves archive w.store candidateIsA id now phase
      exact .moves hphase hmoves fun hfresh ↦ hfresh
  | abort i =>
    simp only [step]
    cases hphase : w.calls[i]? with
    | none => exact .idles
    | some phase =>
      dsimp only
      cases hover : phase.over with
      | true =>
        rw [if_pos rfl]
        obtain ⟨hlt, rfl⟩ := List.getElem?_eq_some_iff.mp hphase
        rw [List.set_getElem_self]
        exact .idles
      | false =>
        rw [if_neg Bool.false_ne_true]
        exact .aborts hphase hover

section invariant

variable {store store' : Store} {id : UUID} {phase phase' : Phase} {args : ClaimArgs}
  {w w' : World} {a : Action}

theorem unassigned_mem {result : EvaluationCaseResult}
    (h : (unassigned archive store args).head? = some result) :
    Selected archive eligible args result ∧
      ∀ a ∈ store.assignments, ¬(a.reviewerId = args.reviewerId ∧ a.resultId = result.id) := by
  have hmem := List.mem_of_head? h
  unfold unassigned at hmem
  obtain ⟨hresult, hfree⟩ := List.mem_filter.mp hmem
  obtain ⟨run, hrun, hresult⟩ := List.mem_flatMap.mp hresult
  obtain ⟨hrun, hscope⟩ := List.mem_filter.mp ((List.mem_insertionSort _).mp hrun)
  obtain ⟨hassigned, heligible⟩ := Bool.and_eq_true_iff.mp hfree
  refine ⟨⟨run, hrun, hscope, hresult, heligible⟩, fun a ha hboth ↦ ?_⟩
  have hany : assigned store args.reviewerId result = true :=
    List.any_eq_true.mpr ⟨a, ha, decide_eq_true hboth⟩
  rw [hany] at hassigned
  cases hassigned

theorem getBlindAssignment_eq_some {args : SubmitArgs} {a : BlindReviewAssignment}
    (h : getBlindAssignment store args = some a) : a ∈ store.assignments ∧
      a.id = args.assignmentId ∧ a.tenantId = args.tenantId ∧ a.agentId = args.agentId ∧
        a.reviewerId = args.reviewerId := by
  unfold getBlindAssignment at h
  cases hfind : store.assignments.find? args.assignmentId with
  | none => rw [hfind] at h; cases h
  | some item =>
    rw [hfind] at h
    dsimp only at h
    by_cases hother : item.tenantId ≠ args.tenantId ∨ item.agentId ≠ args.agentId
        ∨ item.reviewerId ≠ args.reviewerId
    · rw [if_pos hother] at h
      cases h
    · rw [if_neg hother] at h
      obtain rfl := Option.some.inj h
      simp only [not_or, not_not] at hother
      exact ⟨Table.mem_of_find? hfind, Table.key_of_find? hfind, hother⟩

structure Grows (store store' : Store) : Prop where
  assignments : ∀ a ∈ store.assignments, a ∈ store'.assignments
  reviews : ∀ review ∈ store.reviews, review ∈ store'.reviews

theorem Grows.refl (store : Store) : Grows store store := ⟨fun _ h ↦ h, fun _ h ↦ h⟩

theorem Grows.good (h : Grows store store') (hgood : Good store phase) : Good store' phase := by
  cases phase with
  | claimed args answer =>
    cases answer with
    | none => trivial
    | some a => exact ⟨h.assignments a hgood.1, hgood.2⟩
  | saving args review => exact hgood.mono h.assignments
  | submitted args review => exact ⟨hgood.1.mono h.assignments, h.reviews review hgood.2⟩
  | claiming | submitting | failed | aborted => trivial

theorem Moves.grows (h : Moves archive store id phase phase' store')
    (hassign : ∀ a ∈ store.assignments, a.id ≠ id)
    (hreview : ∀ args review, phase = .saving args review →
      ∀ item ∈ store.reviews, item.id ≠ review.id) : Grows store store' := by
  cases h with
  | stays | ends | finds | nothing | unblinds => exact .refl store
  | assigns candidateIsA now h =>
    exact ⟨fun a ha ↦ Table.mem_put.mpr (.inr ⟨ha, hassign a ha⟩), fun _ h ↦ h⟩
  | saves h =>
    exact ⟨fun _ h ↦ h, fun item hitem ↦
      Table.mem_put.mpr (.inr ⟨hitem, hreview _ _ rfl item hitem⟩)⟩

theorem isOpen_iff {a : BlindReviewAssignment} :
    isOpen store args a = true ↔ Open store.reviews.rows args a := by
  unfold isOpen Open reviewed
  simp only [Bool.decide_and, Bool.and_eq_true, decide_eq_true_eq, List.any_eq_false]
  constructor
  · rintro ⟨htenant, hagent, hreviewer, hfree, hscope⟩
    exact ⟨htenant, hagent, hreviewer, hscope, hfree⟩
  · rintro ⟨htenant, hagent, hreviewer, hscope, hfree⟩
    exact ⟨htenant, hagent, hreviewer, hfree, hscope⟩

theorem Moves.good (h : Moves archive store id phase phase' store') (hgood : Good store phase)
    (hgrows : Grows store store') : Good store' phase' := by
  cases h with
  | stays => exact hgood
  | ends _ _ hends => exact hends store
  | finds h =>
    have hopen := isOpen_iff.mp (List.find?_some h)
    exact ⟨List.mem_of_find?_eq_some h, hopen.2.2.1⟩
  | assigns candidateIsA now h => exact ⟨Table.mem_put.mpr (.inl rfl), rfl⟩
  | nothing => trivial
  | unblinds hmade _ =>
    obtain ⟨a, ha, hu⟩ := hmade
    obtain ⟨hmem, hid, htenant, hagent, hreviewer⟩ := getBlindAssignment_eq_some ha
    exact ⟨a, hmem, hid, htenant, hagent, hreviewer, hu⟩
  | saves h => exact ⟨hgood.mono hgrows.assignments, Table.mem_put.mpr (.inl rfl)⟩

theorem Moves.sound (h : Moves archive store id phase phase' store')
    (hsound : SoundAssignments archive eligible store.assignments.rows)
    (hassign : ∀ a ∈ store.assignments, a.id ≠ id) :
    SoundAssignments archive eligible store'.assignments.rows := by
  cases h with
  | stays | ends | finds | nothing | unblinds | saves => exact hsound
  | assigns candidateIsA now h =>
    obtain ⟨hselected, hfree⟩ := unassigned_mem h
    have hshows := shows_assignmentOf hselected candidateIsA id now
    refine hsound.add (fun b hb ↦ ?_) hfree hassign hshows
    rcases Table.mem_put.mp hb with rfl | ⟨hb, -⟩
    · exact .inl rfl
    · exact .inr hb

theorem Moves.submitted (h : Moves archive store id phase phase' store') {args : SubmitArgs}
    {review : BlindReview} (hphase : phase = .submitted args review) : phase' = phase := by
  subst hphase
  cases h with
  | stays => rfl
  | ends _ hover => cases hover

theorem Steps.inv (h : Steps archive w a w') (hinv : Inv archive w) (hfresh : Fresh w a) :
    Inv archive w' := by
  cases h with
  | idles => exact hinv
  | begins phase hgood hreview =>
    have hnone : phase.reviewedId? = none := by
      cases phase <;> first | rfl | cases hreview
    have hid : phase.reviewId? = none := by
      unfold Phase.reviewId?
      rw [hreview]
      rfl
    refine ⟨hinv.sound, ?_, ?_, hinv.ids.append hid, hinv.once.append hnone⟩
    · intro x hx
      rcases List.mem_append.mp hx with hx | hx
      · exact hinv.good x hx
      · rw [List.mem_singleton.mp hx]
        exact hgood w.store
    · intro review hmem
      obtain ⟨args, hargs⟩ := hinv.stored review hmem
      exact ⟨args, List.mem_append_left _ hargs⟩
  | @aborts i phase hphase hover =>
    refine ⟨hinv.sound, ?_, ?_, hinv.ids.set_none rfl, hinv.once.set_none rfl⟩
    · intro x hx
      rcases List.mem_or_eq_of_mem_set hx with hx | rfl
      · exact hinv.good x hx
      · trivial
    · intro review hmem
      obtain ⟨args, hargs⟩ := hinv.stored review hmem
      refine ⟨args, mem_set_of_mem hphase hargs fun heq ↦ ?_⟩
      subst heq
      cases hover
  | @moves i id phase phase' store' hphase hmoves hids =>
    obtain ⟨hassign, hunused⟩ := hids hfresh
    have hmem := List.mem_of_getElem? hphase
    -- a review that is being saved has an identifier of its own
    have hreview : ∀ args review, phase = .saving args review →
        ∀ item ∈ w.store.reviews, item.id ≠ review.id := by
      rintro args review rfl item hitem hsame
      obtain ⟨args', hargs'⟩ := hinv.stored item hitem
      obtain ⟨j, hj⟩ := List.getElem?_of_mem hargs'
      obtain rfl := hinv.ids i j _ _ hphase hj review.id rfl (congrArg some hsame)
      cases hphase.symm.trans hj
    have hgrows := hmoves.grows hassign hreview
    refine ⟨hmoves.sound hinv.sound hassign, ?_, ?_, ?_, ?_⟩
    · intro x hx
      rcases List.mem_or_eq_of_mem_set hx with hx | rfl
      · exact hgrows.good (hinv.good x hx)
      · exact hmoves.good (hinv.good phase hmem) hgrows
    · intro item hitem
      have hold : item ∈ w.store.reviews → ∃ args, .submitted args item ∈ w.calls.set i phase' := by
        intro hitem
        obtain ⟨args, hargs⟩ := hinv.stored item hitem
        exact ⟨args, mem_set_of_mem hphase hargs fun heq ↦ (hmoves.submitted heq).trans heq⟩
      cases hmoves with
      | stays | ends | finds | assigns | nothing | unblinds => exact hold hitem
      | @saves args review h =>
        rcases Table.mem_put.mp hitem with rfl | ⟨hitem, -⟩
        · exact ⟨args, List.mem_set (List.getElem?_eq_some_iff.mp hphase).1 _⟩
        · exact hold hitem
    · cases hmoves with
      | stays => exact hinv.ids.set_same hphase rfl
      | ends _ _ _ hnone => exact hinv.ids.set_none (by unfold Phase.reviewId?; rw [hnone]; rfl)
      | finds | assigns | nothing => exact hinv.ids.set_none rfl
      | @unblinds args review hmade hid =>
        refine hinv.ids.set fun k hk j b _ hb hkb ↦ ?_
        obtain rfl : review.id = k := Option.some.inj hk
        rw [hid] at hkb
        exact hunused b (List.mem_of_getElem? hb) hkb
      | saves h => exact hinv.ids.set_same hphase rfl
    · cases hmoves with
      | stays => exact hinv.once.set_same hphase rfl
      | ends _ _ _ hnone =>
        refine hinv.once.set_none ?_
        cases phase' <;> first | rfl | cases hnone
      | finds | assigns | nothing | unblinds => exact hinv.once.set_none rfl
      | @saves args review h =>
        refine hinv.once.set fun k hk j b _ hb hkb ↦ ?_
        obtain rfl : review.assignmentId = k := Option.some.inj hk
        cases b with
        | submitted args' review' =>
          have hgood := hinv.good _ (List.mem_of_getElem? hb)
          exact h review' hgood.2 (Option.some.inj hkb)
        | claiming | claimed | submitting | saving | failed | aborted => cases hkb

end invariant

section run

variable {w : World} {events : List Action}

theorem inv_empty : Inv archive World.empty := by
  refine ⟨⟨?_, ?_, ?_⟩, ?_, ?_, TaggedOnce.nil, TaggedOnce.nil⟩ <;>
    exact fun x hx ↦ absurd hx List.not_mem_nil

theorem run_inv (h : Machine.Along (step archive) Fresh World.empty events) :
    Inv archive (Machine.run (step archive) World.empty events) :=
  Machine.run_invariant (fun w a hinv hfresh ↦ (step_steps w a).inv hinv hfresh) inv_empty h

theorem Inv.blindReviews (h : Inv archive w) :
    BlindReviews archive eligible w.store.assignments.rows w.store.reviews.rows
      (fun args a ↦ .claimed args (some a) ∈ w.calls)
      (fun args review ↦ .submitted args review ∈ w.calls) := by
  have hstored : ∀ review, review ∈ w.store.reviews ↔ ∃ args, .submitted args review ∈ w.calls :=
    fun review ↦ ⟨h.stored review, fun ⟨args, hargs⟩ ↦ (h.good _ hargs).2⟩
  refine h.sound.blindReviews ?_ (fun args a ha ↦ h.good _ ha) hstored
    (fun args review hr ↦ (h.good _ hr).1)
  intro review hreview review' hreview' hsame
  obtain ⟨args, hargs⟩ := h.stored review hreview
  obtain ⟨args', hargs'⟩ := h.stored review' hreview'
  obtain ⟨i, hi⟩ := List.getElem?_of_mem hargs
  obtain ⟨j, hj⟩ := List.getElem?_of_mem hargs'
  obtain rfl := h.once i j _ _ hi hj review.assignmentId rfl (congrArg some hsame.symm)
  cases hi.symm.trans hj
  rfl

theorem Inv.pendingReviews (h : Inv archive w) (tenantId agentId reviewerId : UUID) :
    (getReport archive w.store tenantId agentId reviewerId).pendingReviews =
      (pendingResults archive eligible w.store.reviews.rows tenantId agentId reviewerId).length := by
  refine pendingOf_eq h.sound (fun review hreview ↦ ?_) tenantId agentId reviewerId
    (List.perm_insertionSort _ _)
  obtain ⟨args, hargs⟩ := h.stored review hreview
  exact ⟨args, (h.good _ hargs).1⟩

theorem mem_unassigned {store : Store} {args : ClaimArgs} {result : EvaluationCaseResult}
    (h : Free archive eligible store.assignments.rows args result) :
    result ∈ unassigned archive store args := by
  obtain ⟨⟨run, hrun, hscope, hresult, heligible⟩, hfree⟩ := h
  refine List.mem_filter.mpr ⟨List.mem_flatMap.mpr ⟨run, ?_, hresult⟩, ?_⟩
  · exact (List.mem_insertionSort _).mpr (List.mem_filter.mpr ⟨hrun, hscope⟩)
  · rw [heligible, Bool.and_true, Bool.not_eq_true', assigned, List.any_eq_false]
    intro a ha hboth
    exact hfree a ha (of_decide_eq_true hboth)

def FindsNothing (archive : EvaluationArchive) (i : ℕ) (args : ClaimArgs) (w : World) : Prop :=
  w.calls[i]? = some (.claiming args) ∧
    (∀ a ∈ w.store.assignments, ¬Open w.store.reviews.rows args a) ∧
    ∀ result, ¬Free archive eligible w.store.assignments.rows args result

def NoneExplained (archive : EvaluationArchive) (events : List Action) (w : World) : Prop :=
  ∀ i args, w.calls[i]? = some (.claimed args none) →
    ∃ before, before <+: events ∧
      FindsNothing archive i args (Machine.run (step archive) World.empty before)

theorem Moves.findsNothing {store store' : Store} {id : UUID} {phase : Phase} {args : ClaimArgs}
    (h : Moves archive store id phase (.claimed args none) store') :
    phase = .claimed args none ∨ phase = .claiming args ∧
      (∀ a ∈ store.assignments, ¬Open store.reviews.rows args a) ∧
      ∀ result, ¬Free archive eligible store.assignments.rows args result := by
  cases h with
  | stays => exact .inl rfl
  | ends _ _ _ _ hnone => exact absurd rfl (hnone args)
  | nothing hopen hnone =>
    refine .inr ⟨rfl, fun a ha h ↦ ?_, fun result h ↦ ?_⟩
    · exact List.find?_eq_none.mp hopen a ha (isOpen_iff.mpr h)
    · have hmem := mem_unassigned h
      rw [hnone] at hmem
      exact List.not_mem_nil hmem

theorem none_explained :
    NoneExplained archive events (Machine.run (step archive) World.empty events) := by
  refine Machine.run_history (I := NoneExplained archive) (fun i args h ↦ by cases h) ?_
  intro events a ih
  have hsteps : Steps archive _ a (step archive (Machine.run (step archive) World.empty events) a).2 :=
    step_steps (Machine.run (step archive) World.empty events) a
  have hlater : ∀ {i args}, (∃ before, before <+: events ∧
      FindsNothing archive i args (Machine.run (step archive) World.empty before)) →
      ∃ before, before <+: events ++ [a] ∧
        FindsNothing archive i args (Machine.run (step archive) World.empty before) := by
    rintro i args ⟨before, hbefore, h⟩
    exact ⟨before, hbefore.trans (List.prefix_append events [a]), h⟩
  generalize (step archive (Machine.run (step archive) World.empty events) a).2 = w' at hsteps ⊢
  intro j args hj
  cases hsteps with
  | idles => exact hlater (ih j args hj)
  | begins phase _ _ hnone =>
    rcases getElem?_of_append hj with ⟨-, heq⟩ | hj
    · exact absurd heq.symm (hnone args)
    · exact hlater (ih j args hj)
  | aborts hphase _ =>
    rcases getElem?_of_set hj with ⟨-, heq⟩ | ⟨-, hj⟩
    · cases heq
    · exact hlater (ih j args hj)
  | moves hphase hmoves _ =>
    rcases getElem?_of_set hj with ⟨rfl, rfl⟩ | ⟨-, hj⟩
    · rcases hmoves.findsNothing with rfl | ⟨rfl, hnothing⟩
      · exact hlater (ih j args hphase)
      · exact ⟨events, List.prefix_append events [a], hphase, hnothing⟩
    · exact hlater (ih j args hj)

end run

end CyberNetizen.Evaluations.InMemory
