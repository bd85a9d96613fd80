import Mathlib.Data.List.Induction

namespace Machine

universe u v w

variable {σ : Type u} {α : Type v} {β : Type w} (step : σ → α → β × σ)

def run : σ → List α → σ
  | s, [] => s
  | s, a :: as => run (step s a).2 as

def outputs : σ → List α → List β
  | _, [] => []
  | s, a :: as => (step s a).1 :: outputs (step s a).2 as

/-- Every step of the run meets `P`, a condition on the state before it and its input. -/
def Along (P : σ → α → Prop) : σ → List α → Prop
  | _, [] => True
  | s, a :: as => P s a ∧ Along P (step s a).2 as

/-- How many steps of the run meet `q`. -/
def countAlong (q : σ → α → Bool) : σ → List α → ℕ
  | _, [] => 0
  | s, a :: as => (if q s a then 1 else 0) + countAlong q (step s a).2 as

instance Along.decidable {P : σ → α → Prop} [∀ s a, Decidable (P s a)] :
    ∀ s as, Decidable (Along step P s as)
  | _, [] => .isTrue trivial
  | s, a :: as => @instDecidableAnd _ _ _ (Along.decidable (step s a).2 as)

variable {step} {s : σ} {as bs : List α}

theorem run_append : run step s (as ++ bs) = run step (run step s as) bs := by
  induction as generalizing s with
  | nil => rfl
  | cons a as ih => exact ih

theorem outputs_append :
    outputs step s (as ++ bs) = outputs step s as ++ outputs step (run step s as) bs := by
  induction as generalizing s with
  | nil => rfl
  | cons a as ih => exact congrArg _ ih

theorem along_append {P : σ → α → Prop} :
    Along step P s (as ++ bs) ↔ Along step P s as ∧ Along step P (run step s as) bs := by
  induction as generalizing s with
  | nil => exact ⟨fun h ↦ ⟨trivial, h⟩, And.right⟩
  | cons a as ih =>
    simp only [List.cons_append, Along, run, ih, and_assoc]

theorem along_true : Along step (fun _ _ ↦ True) s as := by
  induction as generalizing s with
  | nil => trivial
  | cons a as ih => exact ⟨trivial, ih⟩

theorem Along.mono {P Q : σ → α → Prop} (h : Along step P s as) (hPQ : ∀ s a, P s a → Q s a) :
    Along step Q s as := by
  induction as generalizing s with
  | nil => trivial
  | cons a as ih => exact ⟨hPQ _ _ h.1, ih h.2⟩

theorem Along.and_forall {P : σ → α → Prop} {Q : α → Prop} (h : Along step P s as)
    (hQ : ∀ a ∈ as, Q a) : Along step (fun s a ↦ P s a ∧ Q a) s as := by
  induction as generalizing s with
  | nil => trivial
  | cons a as ih =>
    exact ⟨⟨h.1, hQ a (List.mem_cons_self ..)⟩,
      ih h.2 fun b hb ↦ hQ b (List.mem_cons_of_mem a hb)⟩

theorem run_invariant {I : σ → Prop} {P : σ → α → Prop}
    (hstep : ∀ s a, I s → P s a → I (step s a).2) (hs : I s) (h : Along step P s as) :
    I (run step s as) := by
  induction as generalizing s with
  | nil => exact hs
  | cons a as ih => exact ih (hstep s a hs h.1) h.2

/-- A state predicate that good steps preserve and that is lost for good at the first bad step holds
at the end of exactly the good runs. -/
theorem run_iff_along {I K : σ → Prop} {P : σ → α → Prop}
    (hinv : ∀ s a, I s → I (step s a).2)
    (hkeep : ∀ s a, I s → K s → P s a → K (step s a).2)
    (hbreak : ∀ s a, I s → ¬P s a → ¬K (step s a).2)
    (hlost : ∀ s a, I s → ¬K s → ¬K (step s a).2)
    (hs : I s) (hk : K s) : K (run step s as) ↔ Along step P s as := by
  have hdead : ∀ as s, I s → ¬K s → ¬K (run step s as) := by
    intro as
    induction as with
    | nil => exact fun s _ h ↦ h
    | cons a as ih => exact fun s hs h ↦ ih _ (hinv s a hs) (hlost s a hs h)
  induction as generalizing s with
  | nil => exact ⟨fun _ ↦ trivial, fun _ ↦ hk⟩
  | cons a as ih =>
    by_cases hP : P s a
    · have hrest := ih (hinv s a hs) (hkeep s a hs hk hP)
      exact ⟨fun h ↦ ⟨hP, hrest.mp h⟩, fun h ↦ hrest.mpr h.2⟩
    · exact ⟨fun h ↦ absurd h (hdead as _ (hinv s a hs) (hbreak s a hs hP)),
        fun h ↦ absurd h.1 hP⟩

/-- Where a step keeps a property exactly if it is good, the property holds in every state reached
exactly if all steps are good. -/
theorem forall_prefix_iff_along {I K : σ → Prop} {P : σ → α → Prop}
    (hinv : ∀ s a, I s → I (step s a).2) (hstep : ∀ s a, I s → K s → (K (step s a).2 ↔ P s a))
    (hs : I s) (hk : K s) : (∀ bs, bs <+: as → K (run step s bs)) ↔ Along step P s as := by
  induction as generalizing s with
  | nil =>
    refine ⟨fun _ ↦ trivial, fun _ bs hbs ↦ ?_⟩
    rw [List.prefix_nil.mp hbs]
    exact hk
  | cons a as ih =>
    constructor
    · intro h
      have hnext : K (step s a).2 := h [a] (List.cons_prefix_cons.mpr ⟨rfl, List.nil_prefix⟩)
      refine ⟨(hstep s a hs hk).mp hnext, (ih (hinv s a hs) hnext).mp fun bs hbs ↦ ?_⟩
      exact h (a :: bs) (List.cons_prefix_cons.mpr ⟨rfl, hbs⟩)
    · rintro ⟨hgood, hrest⟩ bs hbs
      cases bs with
      | nil => exact hk
      | cons b bs =>
        obtain ⟨rfl, hrestbs⟩ := List.cons_prefix_cons.mp hbs
        exact (ih (hinv s b hs) ((hstep s b hs hk).mpr hgood)).mpr hrest bs hrestbs

/-- Good steps that keep a predicate or else reach a goal: a good run has been at the goal or keeps
the predicate to its end. -/
theorem run_until {I Q : σ → Prop} {P : σ → α → Prop}
    (hstep : ∀ s a, I s → P s a → Q (step s a).2 ∨ I (step s a).2) (hs : I s)
    (h : Along step P s as) : (∃ bs, bs <+: as ∧ Q (run step s bs)) ∨ I (run step s as) := by
  induction as generalizing s with
  | nil => exact .inr hs
  | cons a as ih =>
    rcases hstep s a hs h.1 with hQ | hI
    · exact .inl ⟨[a], List.cons_prefix_cons.mpr ⟨rfl, List.nil_prefix⟩, hQ⟩
    · refine (ih hI h.2).imp_left ?_
      rintro ⟨bs, hbs, hQ⟩
      exact ⟨a :: bs, List.cons_prefix_cons.mpr ⟨rfl, hbs⟩, hQ⟩

theorem along_of_invariant {I : σ → Prop} {P Q : σ → α → Prop}
    (hstep : ∀ s a, I s → P s a → I (step s a).2) (hQ : ∀ s a, I s → P s a → Q s a) (hs : I s)
    (h : Along step P s as) : Along step Q s as := by
  induction as generalizing s with
  | nil => trivial
  | cons a as ih => exact ⟨hQ s a hs h.1, ih (hstep s a hs h.1) h.2⟩

theorem run_invariant_all {I : σ → Prop} (hstep : ∀ s a, I s → I (step s a).2) (hs : I s)
    (as : List α) : I (run step s as) :=
  run_invariant (P := fun _ _ ↦ True) (fun s a h _ ↦ hstep s a h) hs along_true

theorem run_history {I : List α → σ → Prop} (hs : I [] s)
    (hstep : ∀ as a, I as (run step s as) → I (as ++ [a]) (step (run step s as) a).2) :
    I as (run step s as) := by
  induction as using List.reverseRecOn with
  | nil => exact hs
  | append_singleton as a ih =>
    rw [run_append]
    exact hstep as a ih

/-- A reflexive, transitive relation that each step from an invariant state respects
relates the two ends of a run. -/
theorem run_relates {I : σ → Prop} {P : σ → α → Prop} {R : σ → σ → Prop}
    (hinv : ∀ s a, I s → P s a → I (step s a).2)
    (hrefl : ∀ s, R s s) (htrans : ∀ s t u, R s t → R t u → R s u)
    (hstep : ∀ s a, I s → P s a → R s (step s a).2) (hs : I s) (h : Along step P s as) :
    R s (run step s as) := by
  induction as generalizing s with
  | nil => exact hrefl s
  | cons a as ih =>
    exact htrans _ _ _ (hstep s a hs h.1) (ih (hinv s a hs h.1) h.2)

theorem outputs_keep {I : σ → Prop} {Q : β → σ → Prop}
    (hinv : ∀ s a, I s → I (step s a).2) (hnew : ∀ s a, I s → Q (step s a).1 (step s a).2)
    (hkeep : ∀ b s a, I s → Q b s → Q b (step s a).2) (hs : I s) :
    ∀ b ∈ outputs step s as, Q b (run step s as) := by
  induction as generalizing s with
  | nil => exact fun b hb ↦ absurd hb List.not_mem_nil
  | cons a as ih =>
    intro b hb
    rcases List.mem_cons.mp hb with rfl | hb
    · exact run_invariant_all (I := fun t ↦ I t ∧ Q (step s a).1 t)
        (fun t a' ht ↦ ⟨hinv t a' ht.1, hkeep _ t a' ht.1 ht.2⟩)
        ⟨hinv s a hs, hnew s a hs⟩ as |>.2
    · exact ih (hinv s a hs) b hb

theorem countAlong_eq {I : σ → Prop} {q : σ → α → Bool} (f : σ → ℕ)
    (hinv : ∀ s a, I s → I (step s a).2)
    (hstep : ∀ s a, I s → f (step s a).2 = f s + if q s a then 1 else 0) (hs : I s) :
    f (run step s as) = f s + countAlong step q s as := by
  induction as generalizing s with
  | nil => rfl
  | cons a as ih =>
    rw [run, ih (hinv s a hs), hstep s a hs, countAlong, Nat.add_assoc]

theorem countAlong_eq_zero {I : σ → Prop} {P : σ → α → Prop} {q : σ → α → Bool}
    (hinv : ∀ s a, I s → P s a → I (step s a).2) (hq : ∀ s a, I s → q s a = false)
    (hs : I s) (h : Along step P s as) : countAlong step q s as = 0 := by
  induction as generalizing s with
  | nil => rfl
  | cons a as ih =>
    rw [countAlong, hq s a hs, ih (hinv s a hs h.1) h.2]
    rfl

theorem countAlong_le {q q' : σ → α → Bool} (h : ∀ s a, q s a = true → q' s a = true) :
    countAlong step q s as ≤ countAlong step q' s as := by
  induction as generalizing s with
  | nil => exact Nat.le_refl _
  | cons a as ih =>
    refine Nat.add_le_add ?_ ih
    by_cases hq : q s a = true
    · have hq' := h s a hq
      exact Nat.le_of_eq (by rw [if_pos hq, if_pos hq'])
    · rw [if_neg hq]
      exact Nat.zero_le _

/-- Two machines that agree on every good step from an invariant state agree on a good run,
outputs included. -/
theorem lockstep {step' : σ → α → β × σ} {I : σ → Prop} {P : σ → α → Prop}
    (hinv : ∀ s a, I s → P s a → I (step s a).2)
    (heq : ∀ s a, I s → P s a → step' s a = step s a) (hs : I s) (h : Along step P s as) :
    outputs step' s as = outputs step s as ∧ run step' s as = run step s as := by
  induction as generalizing s with
  | nil => exact ⟨rfl, rfl⟩
  | cons a as ih =>
    have he := heq s a hs h.1
    obtain ⟨ho, hr⟩ := ih (hinv s a hs h.1) h.2
    simp only [outputs, run, he]
    exact ⟨congrArg _ ho, hr⟩

end Machine
