import CyberNetizen.Application.ModelReliability
import CyberNetizen.Lib.Machine

/-! # When a model route is kept out -/

namespace CyberNetizen.Application.ModelReliability

/-- What the runs of a process do to the breakers: they ask for a route before an attempt, and tell
how the attempt went. Each resolves the settings that it asks and tells with for itself. -/
inductive GuardCall
  | available (profile : String) (cooldownSeconds now : ℕ)
  | succeeded (profile : String)
  | failed (profile : String) (threshold now : ℕ)

def guardStep (guard : ModelReliabilityGuard) : GuardCall → Bool × ModelReliabilityGuard
  | .available profile cooldownSeconds now => guard.available profile cooldownSeconds now
  | .succeeded profile => (true, guard.succeeded profile)
  | .failed profile threshold now => (true, guard.failed profile threshold now)

def closedGuard : ModelReliabilityGuard := fun _ ↦ none

section rows

/-- A failed attempt, and the failures in a row that were enough for its run. -/
structure RouteFailure where
  threshold : ℕ
  now : ℕ
  deriving DecidableEq

/-- When the last failure happened that was enough with the ones before it. The last one of a row
stands first. -/
def openedAt : List RouteFailure → Option ℕ
  | [] => none
  | failure :: earlier =>
    if failure.threshold ≤ earlier.length + 1 then some failure.now else openedAt earlier

def KeepsOut (cooldownSeconds : ℕ) (row : List RouteFailure) (now : ℕ) : Prop :=
  ∃ opened ∈ openedAt row, now < opened + cooldownSeconds * 1000000

def Cooled (cooldownSeconds : ℕ) (row : List RouteFailure) (now : ℕ) : Prop :=
  ∃ opened ∈ openedAt row, opened + cooldownSeconds * 1000000 ≤ now

instance (cooldownSeconds : ℕ) (row : List RouteFailure) (now : ℕ) :
    Decidable (Cooled cooldownSeconds row now) :=
  inferInstanceAs (Decidable (∃ opened ∈ openedAt row, opened + cooldownSeconds * 1000000 ≤ now))

/-- The failures of a route in a row after a call: a success ends the row, and so does a question
after the cooldown. -/
def rowAfter (profile : String) (row : List RouteFailure) : GuardCall → List RouteFailure
  | .available asked cooldownSeconds now =>
    if asked = profile ∧ Cooled cooldownSeconds row now then [] else row
  | .succeeded done => if done = profile then [] else row
  | .failed failing threshold now => if failing = profile then ⟨threshold, now⟩ :: row else row

def failuresInARow (profile : String) (calls : List GuardCall) : List RouteFailure :=
  calls.foldl (rowAfter profile) []

structure Counts (state : CircuitState) (row : List RouteFailure) : Prop where
  failures : state.failures = row.length
  opened : state.openedAt = openedAt row

theorem openedAt_of_threshold {row : List RouteFailure} {threshold : ℕ}
    (h : ∀ failure ∈ row, failure.threshold = threshold) :
    openedAt row = if threshold ≤ row.length then row.head?.map (·.now) else none := by
  induction row with
  | nil => simp [openedAt]
  | cons failure earlier ih =>
    have hfirst := h failure List.mem_cons_self
    have hrest := ih fun f hf ↦ h f (List.mem_cons_of_mem failure hf)
    unfold openedAt
    rw [hfirst, List.length_cons]
    split
    · rfl
    · rename_i hfew
      rw [hrest, if_neg (by omega)]

theorem keepsOut_of_threshold {row : List RouteFailure} {threshold cooldownSeconds now : ℕ}
    (h : ∀ failure ∈ row, failure.threshold = threshold) :
    KeepsOut cooldownSeconds row now ↔
      threshold ≤ row.length ∧ ∃ last ∈ row.head?, now < last.now + cooldownSeconds * 1000000 := by
  unfold KeepsOut
  rw [openedAt_of_threshold h]
  split
  · rename_i henough
    simp [henough]
  · rename_i hfew
    simp [hfew]

end rows

section breaker

variable {guard : ModelReliabilityGuard} {profile : String} {row : List RouteFailure}
  {cooldownSeconds threshold now : ℕ}

theorem counts_nil : Counts {} [] := ⟨rfl, rfl⟩

/-- A question after the cooldown closes the breaker, and no other one changes the guard. -/
theorem available_cases (guard : ModelReliabilityGuard) (asked : String) (cooldownSeconds now : ℕ) :
    (∃ openedAt ∈ ((guard asked).getD {}).openedAt, openedAt + cooldownSeconds * 1000000 ≤ now) ∧
      guard.available asked cooldownSeconds now =
        (true, Function.update guard asked (some {})) ∨
    (¬∃ openedAt ∈ ((guard asked).getD {}).openedAt,
      openedAt + cooldownSeconds * 1000000 ≤ now) ∧
      guard.available asked cooldownSeconds now =
        (((guard asked).getD {}).openedAt.isNone, guard) := by
  unfold ModelReliabilityGuard.available
  cases hstate : guard asked with
  | none => exact .inr ⟨by simp, rfl⟩
  | some state =>
    dsimp only [Option.getD_some]
    cases hopened : state.openedAt with
    | none => exact .inr ⟨by simp, rfl⟩
    | some openedAt =>
      dsimp only
      split
      · rename_i hcooled
        exact .inl ⟨⟨openedAt, rfl, hcooled⟩, rfl⟩
      · rename_i hhot
        exact .inr ⟨by simpa using hhot, rfl⟩

/-- A route is refused exactly while its failures keep it out. -/
theorem available_eq_false_iff (h : Counts ((guard profile).getD {}) row) :
    (guard.available profile cooldownSeconds now).1 = false ↔ KeepsOut cooldownSeconds row now := by
  unfold KeepsOut
  rw [← h.opened]
  rcases available_cases guard profile cooldownSeconds now with
    ⟨⟨opened, hopened, hcooled⟩, hanswer⟩ | ⟨hhot, hanswer⟩
  · rw [hanswer]
    constructor
    · intro hrefused
      cases hrefused
    · rintro ⟨opened', hopened', hnow⟩
      obtain rfl := Option.mem_unique hopened hopened'
      omega
  · rw [hanswer, Option.isNone_eq_false_iff]
    constructor
    · intro hopen
      obtain ⟨opened, hopened⟩ := Option.isSome_iff_exists.mp hopen
      exact ⟨opened, hopened, Nat.lt_of_not_le fun hle ↦ hhot ⟨opened, hopened, hle⟩⟩
    · rintro ⟨opened, hopened, -⟩
      exact Option.isSome_of_mem hopened

theorem counts_available (h : Counts ((guard profile).getD {}) row) (asked : String) :
    Counts (((guard.available asked cooldownSeconds now).2 profile).getD {})
      (rowAfter profile row (.available asked cooldownSeconds now)) := by
  unfold rowAfter
  dsimp only
  rcases available_cases guard asked cooldownSeconds now with ⟨hcooled, hguard⟩ | ⟨hhot, hguard⟩
  · rw [hguard]
    dsimp only
    by_cases hsame : asked = profile
    · subst hsame
      rw [h.opened] at hcooled
      rw [Function.update_self, if_pos ⟨rfl, hcooled⟩]
      exact counts_nil
    · rw [Function.update_of_ne (Ne.symm hsame), if_neg fun hc ↦ hsame hc.1]
      exact h
  · rw [hguard, if_neg]
    · exact h
    · rintro ⟨rfl, hcooled⟩
      rw [h.opened] at hhot
      exact hhot hcooled

theorem counts_failed (h : Counts ((guard profile).getD {}) row) (failing : String) :
    Counts ((guard.failed failing threshold now profile).getD {})
      (rowAfter profile row (.failed failing threshold now)) := by
  unfold ModelReliabilityGuard.failed rowAfter
  dsimp only
  by_cases hsame : failing = profile
  · subst hsame
    simp only [Function.update_self, Option.getD_some, if_true]
    constructor
    · simp [h.failures]
    · simp only [h.failures, h.opened, openedAt]
  · rw [if_neg hsame, Function.update_of_ne (Ne.symm hsame)]
    exact h

theorem counts_succeeded (h : Counts ((guard profile).getD {}) row) (done : String) :
    Counts ((guard.succeeded done profile).getD {}) (rowAfter profile row (.succeeded done)) := by
  unfold ModelReliabilityGuard.succeeded rowAfter
  dsimp only
  by_cases hsame : done = profile
  · subst hsame
    rw [Function.update_self, if_pos rfl]
    exact counts_nil
  · rw [if_neg hsame, Function.update_of_ne (Ne.symm hsame)]
    exact h

theorem counts_step (h : Counts ((guard profile).getD {}) row) (call : GuardCall) :
    Counts (((guardStep guard call).2 profile).getD {}) (rowAfter profile row call) := by
  cases call with
  | available asked cooldownSeconds now => exact counts_available h asked
  | succeeded done => exact counts_succeeded h done
  | failed failing threshold now => exact counts_failed h failing

theorem counts_run (calls : List GuardCall) (h : Counts ((guard profile).getD {}) row) :
    Counts ((Machine.run guardStep guard calls profile).getD {})
      (calls.foldl (rowAfter profile) row) := by
  induction calls generalizing guard row with
  | nil => exact h
  | cons call calls ih => exact ih (counts_step h call)

end breaker

/-- Whatever the runs of a process do, and whatever settings each of them has, a route is kept out
exactly while its own failures in a row were enough for the run of one of them and the cooldown
since the last such one has not passed; the other routes do not matter. Where these runs have one
limit, that is while it is reached and the cooldown since the last failure has not passed. -/
theorem circuit_opens_exactly (calls : List GuardCall) (profile : String)
    (cooldownSeconds now : ℕ) :
    (((Machine.run guardStep closedGuard calls).available profile cooldownSeconds now).1 = false ↔
      KeepsOut cooldownSeconds (failuresInARow profile calls) now) ∧
    ∀ threshold, (∀ failure ∈ failuresInARow profile calls, failure.threshold = threshold) →
      (KeepsOut cooldownSeconds (failuresInARow profile calls) now ↔
        threshold ≤ (failuresInARow profile calls).length ∧
          ∃ last ∈ (failuresInARow profile calls).head?,
            now < last.now + cooldownSeconds * 1000000) := by
  constructor
  · apply available_eq_false_iff
    apply counts_run
    exact counts_nil
  · intro threshold h
    exact keepsOut_of_threshold h

end CyberNetizen.Application.ModelReliability
