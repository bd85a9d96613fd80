import Mathlib.Data.List.Induction
import Mathlib.Order.Lattice

/-! # A synchronised value under a temporary override -/

namespace TemporaryOverride

variable {ρ τ : Type}

/-- A value that stands in for another until it expires, for good without an expiry. -/
structure Override (ρ τ : Type) where
  value : ρ
  expires : Option τ
  deriving DecidableEq

/-- The value an outside source gave last and the override over it. -/
structure Register (ρ τ : Type) where
  baseline : Option ρ
  override : Option (Override ρ τ)
  deriving DecidableEq

inductive Event (ρ τ : Type)
  | sync (claim : ρ)
  | put (o : Override ρ τ)
  | revoke
  /-- The register was read at `now`; an override that has expired by then is dropped. -/
  | observe (now : τ)

def Event.claim? : Event ρ τ → Option ρ
  | .sync claim => some claim
  | _ => none

def lastClaim (history : List (Event ρ τ)) : Option ρ :=
  history.reverse.findSome? Event.claim?

theorem lastClaim_append_singleton (history : List (Event ρ τ)) (e : Event ρ τ) :
    lastClaim (history ++ [e]) = e.claim?.or (lastClaim history) := by
  unfold lastClaim
  rw [List.reverse_append, List.reverse_singleton, List.singleton_append, List.findSome?_cons]
  cases e.claim? <;> simp

theorem lastClaim_of_quiet (before after : List (Event ρ τ)) (claim : ρ)
    (h : ∀ e ∈ after, e.claim? = none) : lastClaim (before ++ .sync claim :: after) = some claim := by
  induction after using List.reverseRecOn with
  | nil =>
    rw [lastClaim_append_singleton]
    rfl
  | append_singleton after e ih =>
    have hrest : ∀ e' ∈ after, e'.claim? = none :=
      fun e' he' ↦ h e' (List.mem_append_left _ he')
    rw [← List.cons_append, ← List.append_assoc, lastClaim_append_singleton, ih hrest,
      h e (List.mem_append_right _ (List.mem_singleton_self e)), Option.none_or]

theorem exists_lastClaim {history : List (Event ρ τ)} {claim : ρ} (h : .sync claim ∈ history) :
    ∃ c, lastClaim history = some c := by
  refine Option.ne_none_iff_exists'.mp fun hnone ↦ ?_
  have hsync := List.findSome?_eq_none_iff.mp hnone (.sync claim) (List.mem_reverse.mpr h)
  exact absurd hsync (by simp [Event.claim?])

section expiry

variable [LinearOrder τ]

def Override.expired (o : Override ρ τ) (now : τ) : Bool := o.expires.any fun t ↦ decide (t ≤ now)

def Register.dropExpired (r : Register ρ τ) (now : τ) : Register ρ τ :=
  { r with override := r.override.filter fun o ↦ !o.expired now }

def Register.apply (r : Register ρ τ) : Event ρ τ → Register ρ τ
  | .sync claim => { r with baseline := some claim }
  | .put o => { r with override := some o }
  | .revoke => { r with override := none }
  | .observe now => r.dropExpired now

def replay (history : List (Event ρ τ)) : Register ρ τ :=
  history.foldl Register.apply ⟨none, none⟩

/-- The value in effect at `now`. -/
def Register.effective (r : Register ρ τ) (now : τ) : Option ρ :=
  match (r.dropExpired now).override with
  | some o => some o.value
  | none => r.baseline

/-- `e` takes the place of `o` or takes it away. -/
def Event.ends (o : Override ρ τ) : Event ρ τ → Bool
  | .sync _ => false
  | .put _ => true
  | .revoke => true
  | .observe now => o.expired now

/-- `o` was set and nothing has ended it since. -/
def InForce (history : List (Event ρ τ)) (o : Override ρ τ) : Prop :=
  ∃ before after, history = before ++ .put o :: after ∧ ∀ e ∈ after, e.ends o = false

variable {history : List (Event ρ τ)} {o : Override ρ τ} {e : Event ρ τ} {now : τ}

theorem replay_append_singleton : replay (history ++ [e]) = (replay history).apply e := by
  unfold replay
  rw [List.foldl_append]
  rfl

theorem apply_baseline (r : Register ρ τ) (e : Event ρ τ) :
    (r.apply e).baseline = e.claim?.or r.baseline := by
  cases e <;> rfl

theorem replay_baseline (history : List (Event ρ τ)) :
    (replay history).baseline = lastClaim history := by
  induction history using List.reverseRecOn with
  | nil => rfl
  | append_singleton history e ih =>
    rw [replay_append_singleton, apply_baseline, ih, lastClaim_append_singleton]

theorem dropExpired_override_iff {r : Register ρ τ} :
    (r.dropExpired now).override = some o ↔ r.override = some o ∧ o.expired now = false := by
  simp only [Register.dropExpired, Option.filter_eq_some_iff, Bool.not_eq_true']

theorem apply_override_iff {r : Register ρ τ} :
    (r.apply e).override = some o ↔ e = .put o ∨ r.override = some o ∧ e.ends o = false := by
  cases e with
  | sync claim => simp [Register.apply, Event.ends]
  | put o' => simp [Register.apply, Event.ends]
  | revoke => simp [Register.apply, Event.ends]
  | observe now => simp [Register.apply, Event.ends, dropExpired_override_iff]

theorem inForce_append_singleton :
    InForce (history ++ [e]) o ↔ e = .put o ∨ InForce history o ∧ e.ends o = false := by
  constructor
  · rintro ⟨before, after, heq, hafter⟩
    induction after using List.reverseRecOn with
    | nil =>
      obtain ⟨-, hlast⟩ := List.append_inj' heq rfl
      exact .inl (List.singleton_inj.mp hlast)
    | append_singleton after e' _ =>
      rw [← List.cons_append, ← List.append_assoc] at heq
      obtain ⟨hinit, hlast⟩ := List.append_inj' heq rfl
      obtain rfl := List.singleton_inj.mp hlast
      refine .inr ⟨⟨before, after, hinit, fun x hx ↦ ?_⟩, ?_⟩
      · exact hafter x (List.mem_append_left _ hx)
      · exact hafter e (List.mem_append_right _ (List.mem_singleton_self e))
  · rintro (rfl | ⟨⟨before, after, rfl, hafter⟩, he⟩)
    · exact ⟨history, [], rfl, fun x hx ↦ absurd hx List.not_mem_nil⟩
    · refine ⟨before, after ++ [e], by simp, fun x hx ↦ ?_⟩
      rcases List.mem_append.mp hx with hx | hx
      · exact hafter x hx
      · obtain rfl := List.mem_singleton.mp hx
        exact he

theorem replay_override_iff : (replay history).override = some o ↔ InForce history o := by
  induction history using List.reverseRecOn with
  | nil =>
    refine iff_of_false (fun h ↦ nomatch h) ?_
    rintro ⟨before, after, heq, -⟩
    simp at heq
  | append_singleton history e ih =>
    rw [replay_append_singleton, apply_override_iff, inForce_append_singleton, ih]

theorem effective_of_override (h : InForce history o) (hlive : o.expired now = false) :
    (replay history).effective now = some o.value := by
  have hstored := dropExpired_override_iff.mpr ⟨replay_override_iff.mpr h, hlive⟩
  unfold Register.effective
  rw [hstored]

theorem effective_of_none (h : ∀ o, InForce history o → o.expired now = true) :
    (replay history).effective now = lastClaim history := by
  have hnone : ((replay history).dropExpired now).override = none := by
    refine Option.eq_none_iff_forall_ne_some.mpr fun o ho ↦ ?_
    obtain ⟨hstored, hlive⟩ := dropExpired_override_iff.mp ho
    rw [h o (replay_override_iff.mp hstored)] at hlive
    exact Bool.noConfusion hlive
  unfold Register.effective
  rw [hnone, replay_baseline]

/-- An override that was ended otherwise than by another one leaves the claim in effect until the
next override is set. -/
theorem effective_after_end (now : τ) {before after : List (Event ρ τ)}
    (hend : ∀ o, InForce before o → e.ends o = true) (he : ∀ o, e ≠ .put o)
    (hafter : ∀ o, Event.put o ∉ after) :
    (replay (before ++ e :: after)).effective now = lastClaim (before ++ e :: after) := by
  have hnone : ∀ o, ¬InForce (before ++ e :: after) o := by
    induction after using List.reverseRecOn with
    | nil =>
      intro o ho
      rcases inForce_append_singleton.mp ho with h | ⟨h, hend'⟩
      · exact he o h
      · rw [hend o h] at hend'
        exact Bool.noConfusion hend'
    | append_singleton after e' ih =>
      intro o ho
      rw [← List.cons_append, ← List.append_assoc] at ho
      rcases inForce_append_singleton.mp ho with h | ⟨h, -⟩
      · exact hafter o (List.mem_append_right _ (List.mem_singleton.mpr h.symm))
      · exact ih (fun o' ho' ↦ hafter o' (List.mem_append_left _ ho')) o h
  exact effective_of_none fun o ho ↦ absurd ho (hnone o)

end expiry

end TemporaryOverride
