import CyberNetizen.Application.ModelReliability
import Mathlib.Data.List.Range

/-! # Attempts of a model call do not mix

A stream that ended counts as failed when its own record of success is refused, so the laws of the
attempts hold for exactly those runs whose records are kept. -/

namespace CyberNetizen.Application.ModelReliability

open Domain

/-- The laws of a call of at most `most` attempts whose first one has the number `first`: the
attempts, the invocations that they leave, and what the caller gets. -/
structure Unmixed (first most : ℕ) (attempts : List ModelAttempt) (invocations : List Invocation)
    (result : Except Failure (Option ModelUsage)) : Prop where
  bounded : attempts.length ≤ most
  /-- Nothing was sent out before the last attempt. -/
  silent : ∀ a ∈ attempts.dropLast, a.emitted = false
  single : ∀ a ∈ attempts.dropLast, a.persisted = []
  numbered : attempts.map (·.number) = List.range' first attempts.length
  recorded : invocations.map (·.attempt) = List.range' first attempts.length
  returns : (∃ usage, result = .ok usage) ↔ ∃ a, attempts.getLast? = some a ∧ a.streamEnded = true
  completed : ∀ usage, result = .ok usage →
    ∃ row, invocations.getLast? = some row ∧ row.status = .completed

def StreamRun.Lawful (run : StreamRun) (maxAttempts : ℕ) : Prop :=
  Unmixed 1 maxAttempts run.attempts run.invocations run.result

def admission (settings : ResilienceSettings) (s : Surroundings) (route : ModelRouteProfile)
    (guard : ModelReliabilityGuard) : Bool × ModelReliabilityGuard :=
  (s.othersBefore guard).available (route.provider ++ "/" ++ route.model)
    settings.circuitBreakerCooldownSeconds s.startedAt

/-- The records are kept: that of an attempt that failed is stored, and that of a stream that ended
is stored without an error. The latter may only be lost if nothing was sent out, the attempt is then
recorded as failed, and there is another attempt for which the same holds. -/
def Kept (settings : ResilienceSettings) (surroundings : ℕ → Surroundings) :
    List ModelRouteProfile → ℕ → ModelReliabilityGuard → Prop
  | [], _, _ => True
  | route :: routes, made, guard =>
    let s := surroundings (made + 1)
    let profile := route.provider ++ "/" ++ route.model
    match admission settings s route guard with
    | (false, guard) => s.failedWrite.isStored = true ∧
        (s.failedWrite = .saved → Kept settings surroundings routes (made + 1) guard)
    | (true, guard) =>
      match s.stream with
      | (emission, .error _) => s.failedWrite.isStored = true ∧
          (s.failedWrite = .saved → emission.emitted = false →
            Kept settings surroundings routes (made + 1) ((s.othersMeanwhile guard).failed profile
              settings.circuitBreakerFailures s.failedAt))
      | (emission, .ok _) => s.completedWrite = .saved ∨
          (s.completedWrite.isStored = false ∧ s.failedWrite = .saved ∧
            emission.emitted = false ∧ routes ≠ [] ∧
            Kept settings surroundings routes (made + 1)
              (((s.othersMeanwhile guard).succeeded profile).failed profile
                settings.circuitBreakerFailures s.failedAt))

section stream

/-- What is persisted has been sent out before. -/
theorem readEvents_persisted {ending : Option Failure} (events : List (ModelStreamEvent × Write))
    {emission : Emission} (h : emission.emitted = false → emission.persisted = []) :
    (readEvents ending emission events).1.emitted = false →
      (readEvents ending emission events).1.persisted = [] := by
  induction events generalizing emission with
  | nil => exact h
  | cons event rest ih =>
    obtain ⟨event, write⟩ := event
    by_cases hdelta : event.delta = ""
    · simp only [readEvents, if_pos hdelta]
      apply ih
      exact h
    · simp only [readEvents, if_neg hdelta]
      cases write with
      | saved =>
        apply ih
        intro hemitted
        cases hemitted
      | raised stored failure =>
        intro hemitted
        cases stored <;> cases hemitted

theorem stream_persisted (s : Surroundings) (h : s.stream.1.emitted = false) :
    s.stream.1.persisted = [] := by
  unfold Surroundings.stream at *
  cases hresolve : s.resolve with
  | error failure => rfl
  | ok provider =>
    have hread : (readEvents s.ending {} s.events).1.emitted = false →
        (readEvents s.ending {} s.events).1.persisted = [] :=
      readEvents_persisted s.events (fun _ ↦ rfl)
    rw [hresolve] at h
    revert h hread
    rcases readEvents s.ending {} s.events with ⟨emission, _ | failure⟩
    · intro h hread
      exact hread h
    · intro h hread
      exact hread h

end stream

section records

variable {rows : List Invocation} {row : Invocation}

theorem recordInvocation_fresh (h : ∀ r ∈ rows, r.attempt ≠ row.attempt) (write : Write) :
    recordInvocation rows row write = match write with
      | .saved => (rows ++ [row], .ok ())
      | .raised true failure => (rows ++ [row], .error failure)
      | .raised false failure => (rows, .error failure) := by
  have hany : rows.any (fun r ↦ r.attempt = row.attempt) = false := by
    simpa using h
  unfold recordInvocation
  rw [hany]
  rfl

theorem recordInvocation_taken {r : Invocation} (hr : r ∈ rows) (h : r.attempt = row.attempt)
    (write : Write) : ∃ failure, recordInvocation rows row write = (rows, .error failure) := by
  have hany : rows.any (fun r ↦ r.attempt = row.attempt) = true := by
    simp only [List.any_eq_true, decide_eq_true_eq]
    exact ⟨r, hr, h⟩
  unfold recordInvocation
  rw [hany]
  cases write with
  | saved => exact ⟨_, rfl⟩
  | raised stored failure => exact ⟨_, rfl⟩

end records

section laws

variable {n k : ℕ} {made : ModelAttempt} {attempts : List ModelAttempt} {row : Invocation}
  {new : List Invocation} {result : Except Failure (Option ModelUsage)}

theorem unmixed_error_iff (hn : made.number = n) {failure : Failure} :
    Unmixed n (k + 1) [made] new (.error failure) ↔
      new.map (·.attempt) = [n] ∧ made.streamEnded = false := by
  constructor
  · intro h
    refine ⟨h.recorded, ?_⟩
    by_contra hended
    obtain ⟨usage, husage⟩ := h.returns.mpr ⟨made, rfl, Bool.eq_true_of_not_eq_false hended⟩
    cases husage
  · rintro ⟨hrecorded, hended⟩
    refine ⟨by simp, by simp, by simp, by simp [hn], hrecorded, ?_, nofun⟩
    simp [hended]

theorem unmixed_ok (hn : made.number = n) (hrow : row.attempt = n) (hstatus : row.status = .completed)
    (hended : made.streamEnded = true) {usage : Option ModelUsage} :
    Unmixed n (k + 1) [made] [row] (.ok usage) := by
  refine ⟨by simp, by simp, by simp, by simp [hn], by simp [hrow], ?_, ?_⟩
  · simp [hended]
  · intro _ _
    exact ⟨row, rfl, hstatus⟩

/-- A silent attempt before others, with its record before theirs. -/
theorem unmixed_cons_iff (hn : made.number = n) (hemitted : made.emitted = false)
    (hpersisted : made.persisted = []) (hrow : row.attempt = n) (hattempts : attempts ≠ []) :
    Unmixed n (k + 1) (made :: attempts) (row :: new) result ↔
      Unmixed (n + 1) k attempts new result := by
  obtain ⟨a, later, rfl⟩ := List.exists_cons_of_ne_nil hattempts
  have hlast : new.map (·.attempt) = List.range' (n + 1) (a :: later).length →
      (row :: new).getLast? = new.getLast? := by
    intro h
    cases new with
    | nil => cases h
    | cons r rest => rfl
  have hrange : List.range' n (made :: a :: later).length =
      n :: List.range' (n + 1) (a :: later).length := rfl
  constructor
  · intro h
    have hrecorded := h.recorded
    have hnumbered := h.numbered
    rw [hrange, List.map_cons] at hrecorded hnumbered
    have htail := (List.cons.inj hrecorded).2
    refine ⟨Nat.le_of_succ_le_succ h.bounded, ?_, ?_, (List.cons.inj hnumbered).2, htail, h.returns, ?_⟩
    · intro b hb
      apply h.silent
      exact List.mem_cons_of_mem _ hb
    · intro b hb
      apply h.single
      exact List.mem_cons_of_mem _ hb
    · intro usage husage
      rw [← hlast htail]
      exact h.completed usage husage
  · intro h
    refine ⟨Nat.succ_le_succ h.bounded, ?_, ?_, ?_, ?_, h.returns, ?_⟩
    · intro b hb
      rcases List.mem_cons.mp hb with rfl | hb
      · exact hemitted
      · exact h.silent b hb
    · intro b hb
      rcases List.mem_cons.mp hb with rfl | hb
      · exact hpersisted
      · exact h.single b hb
    · rw [hrange, List.map_cons, hn, h.numbered]
    · rw [hrange, List.map_cons, hrow, h.recorded]
    · intro usage husage
      rw [hlast h.recorded]
      exact h.completed usage husage

end laws

section turns

variable {settings : ResilienceSettings} {surroundings : ℕ → Surroundings}
  {routes : List ModelRouteProfile}

def after (settings : ResilienceSettings) (surroundings : ℕ → Surroundings)
    (routes : List ModelRouteProfile) (last : AttemptEnd) : StreamRun :=
  match last.exit with
  | .returned usage => ⟨[last.made], last.guard, last.invocations, .ok usage⟩
  | .raised failure => ⟨[last.made], last.guard, last.invocations, .error failure⟩
  | .again failure =>
    let later := attemptRoutes settings surroundings routes last.made.number last.guard
      last.invocations (some failure)
    { later with attempts := last.made :: later.attempts }

theorem attemptOnce_number (s : Surroundings) (route : ModelRouteProfile) (number : ℕ)
    (guard : ModelReliabilityGuard) (rows : List Invocation) :
    (attemptOnce settings s route number guard rows).made.number = number := by
  unfold attemptOnce attemptFailed
  grind

theorem attemptRoutes_cons (route : ModelRouteProfile) (made : ℕ) (guard : ModelReliabilityGuard)
    (rows : List Invocation) (lastError : Option Failure) :
    attemptRoutes settings surroundings (route :: routes) made guard rows lastError =
      after settings surroundings routes
        (attemptOnce settings (surroundings (made + 1)) route (made + 1) guard rows) := by
  dsimp only [attemptRoutes, after]
  cases hexit : (attemptOnce settings (surroundings (made + 1)) route (made + 1) guard rows).exit with
  | returned usage => rfl
  | raised failure => rfl
  | again failure => simp only [attemptOnce_number]

theorem attemptRoutes_attempts_ne_nil (h : routes ≠ []) (made : ℕ) (guard : ModelReliabilityGuard)
    (rows : List Invocation) (lastError : Option Failure) :
    (attemptRoutes settings surroundings routes made guard rows lastError).attempts ≠ [] := by
  obtain ⟨route, later, rfl⟩ := List.exists_cons_of_ne_nil h
  rw [attemptRoutes_cons, after]
  cases (attemptOnce settings (surroundings (made + 1)) route (made + 1) guard rows).exit with
  | returned usage => exact List.cons_ne_nil _ _
  | raised failure => exact List.cons_ne_nil _ _
  | again failure => exact List.cons_ne_nil _ _

def Settles (first most : ℕ) (rows : List Invocation) (run : StreamRun) (P : Prop) : Prop :=
  ∃ new, run.invocations = rows ++ new ∧ (Unmixed first most run.attempts new run.result ↔ P)

variable {rows : List Invocation} {t : AttemptEnd} {write : Write} {P : Prop}

def EndsRecorded (t : AttemptEnd) (rows : List Invocation) (write : Write) : Prop :=
  ∃ (row : Invocation) (failure : Failure), row.attempt = t.made.number ∧
    t.invocations = (recordInvocation rows row write).1 ∧
    t.exit = match (recordInvocation rows row write).2 with
      | .error failure => .raised failure
      | .ok _ => if t.made.emitted then .raised failure else .again failure

theorem attemptFailed_recorded (s : Surroundings) (route : ModelRouteProfile) (made : ModelAttempt)
    (guard : ModelReliabilityGuard) (lastError : Failure) :
    EndsRecorded (attemptFailed settings s route made guard rows lastError) rows s.failedWrite := by
  dsimp only [attemptFailed]
  generalize hrow : Invocation.mk _ _ _ _ _ _ _ _ = row
  have hattempt : row.attempt = made.number := by rw [← hrow]
  refine ⟨row, lastError, ?_⟩
  rcases recordInvocation rows row s.failedWrite with ⟨rows', _ | _⟩
  · exact ⟨hattempt, rfl, rfl⟩
  · exact ⟨hattempt, rfl, rfl⟩

theorem attemptFailed_made (s : Surroundings) (route : ModelRouteProfile) (made : ModelAttempt)
    (guard : ModelReliabilityGuard) (lastError : Failure) :
    (attemptFailed settings s route made guard rows lastError).made = made := by
  unfold attemptFailed
  grind

theorem attemptFailed_guard (s : Surroundings) (route : ModelRouteProfile) (made : ModelAttempt)
    (guard : ModelReliabilityGuard) (lastError : Failure) :
    (attemptFailed settings s route made guard rows lastError).guard =
      guard.failed (route.provider ++ "/" ++ route.model) settings.circuitBreakerFailures
        s.failedAt := by
  unfold attemptFailed
  grind

/-- A route whose breaker is open is recorded as failed. -/
theorem attemptOnce_blocked (rows : List Invocation) {s : Surroundings} {route : ModelRouteProfile}
    {number : ℕ}
    {guard guard' : ModelReliabilityGuard}
    (h : admission settings s route guard = (false, guard')) :
    EndsRecorded (attemptOnce settings s route number guard rows) rows s.failedWrite ∧
      (attemptOnce settings s route number guard rows).made = ⟨number, false, [], false⟩ ∧
      (attemptOnce settings s route number guard rows).guard = guard' := by
  unfold admission at h
  dsimp only [attemptOnce]
  rw [h]
  dsimp only
  generalize hrow : Invocation.mk _ _ _ _ _ _ _ _ = row
  have hattempt : row.attempt = number := by rw [← hrow]
  unfold EndsRecorded
  rcases hrecord : recordInvocation rows row s.failedWrite with ⟨rows', failure | _⟩
  · refine ⟨⟨row, failure, hattempt, ?_⟩, rfl, rfl⟩
    rw [hrecord]
    exact ⟨rfl, rfl⟩
  · refine ⟨⟨row, ⟨"ModelProviderConfigurationError", false⟩, hattempt, ?_⟩, rfl, rfl⟩
    rw [hrecord]
    exact ⟨rfl, rfl⟩

/-- What the laws ask for after an attempt that ends with a record of failure. -/
theorem settles_failed {made : ModelAttempt} {guard : ModelReliabilityGuard} {Q : Prop}
    (hend : EndsRecorded t rows write) (hmade : t.made = made) (hguard : t.guard = guard)
    (hfresh : ∀ r ∈ rows, r.attempt < made.number)
    (hsilent : made.emitted = false → made.persisted = [])
    (ih : ∀ invocations lastError, (∀ r ∈ invocations, r.attempt ≤ made.number) →
      Settles (made.number + 1) routes.length invocations
        (attemptRoutes settings surroundings routes made.number guard invocations lastError) P)
    (hP : routes = [] → P)
    (hQ : Q ↔ if made.streamEnded then write = .saved ∧ made.emitted = false ∧ routes ≠ [] ∧ P
      else write.isStored = true ∧ (write = .saved → made.emitted = false → P)) :
    Settles made.number (routes.length + 1) rows (after settings surroundings routes t) Q := by
  subst hmade hguard
  obtain ⟨row, failure, hrow, hinvocations, hexit⟩ := hend
  have hne : ∀ r ∈ rows, r.attempt ≠ row.attempt := by
    intro r hr
    rw [hrow]
    exact (hfresh r hr).ne
  rw [recordInvocation_fresh hne] at hinvocations hexit
  cases write with
  | raised stored failure =>
    have hrun : after settings surroundings routes t =
        ⟨[t.made], t.guard, t.invocations, .error failure⟩ := by
      cases stored <;> simp only [after, hexit]
    rw [hrun]
    refine ⟨if stored then [row] else [], ?_, ?_⟩
    · cases stored <;> simp [hinvocations]
    · dsimp only
      rw [unmixed_error_iff rfl, hQ]
      cases stored <;> cases t.made.streamEnded <;> simp [Write.isStored, hrow]
  | saved =>
    dsimp only at hinvocations hexit
    cases hemitted : t.made.emitted with
    | true =>
      have hrun : after settings surroundings routes t =
          ⟨[t.made], t.guard, t.invocations, .error failure⟩ := by
        simp only [after, hexit, hemitted, if_true]
      rw [hrun]
      refine ⟨[row], hinvocations, ?_⟩
      dsimp only
      rw [unmixed_error_iff rfl, hQ]
      cases t.made.streamEnded <;> simp [Write.isStored, hrow, hemitted]
    | false =>
      have hrows : ∀ r ∈ t.invocations, r.attempt ≤ t.made.number := by
        intro r hr
        rw [hinvocations, List.mem_append, List.mem_singleton] at hr
        rcases hr with hr | rfl
        · exact (hfresh r hr).le
        · exact hrow.le
      have hafter : after settings surroundings routes t =
          { attemptRoutes settings surroundings routes t.made.number t.guard t.invocations
              (some failure) with
            attempts := t.made :: (attemptRoutes settings surroundings routes t.made.number t.guard
              t.invocations (some failure)).attempts } := by
        simp only [after, hexit, hemitted, Bool.false_eq_true, if_false]
      obtain ⟨new, hnew, hiff⟩ := ih t.invocations (some failure) hrows
      rw [hafter]
      refine ⟨row :: new, ?_, ?_⟩
      · dsimp only
        rw [hnew, hinvocations, List.append_assoc, List.singleton_append]
      · by_cases hroutes : routes = []
        · subst hroutes
          have hnil : new = [] := by
            simpa [attemptRoutes] using hnew
          subst hnil
          simp only [attemptRoutes]
          rw [unmixed_error_iff rfl, hQ]
          cases t.made.streamEnded <;> simp [Write.isStored, hrow, hP, hemitted]
        · dsimp only
          rw [unmixed_cons_iff rfl hemitted (hsilent hemitted) hrow
            (attemptRoutes_attempts_ne_nil hroutes _ _ _ _), hiff, hQ]
          cases t.made.streamEnded <;> simp [Write.isStored, hroutes, hemitted]

/-- A stream that ended, whose record of success was stored with an error: no record of failure is
taken besides it. -/
theorem settles_taken {made : ModelAttempt} {row : Invocation} {Q : Prop}
    (hend : EndsRecorded t (rows ++ [row]) write) (hmade : t.made = made)
    (hended : made.streamEnded = true) (hrow : row.attempt = made.number) (hQ : ¬Q) :
    Settles made.number (routes.length + 1) rows (after settings surroundings routes t) Q := by
  subst hmade
  obtain ⟨row', _, hrow', hinvocations, hexit⟩ := hend
  have hmem : row ∈ rows ++ [row] := List.mem_append_right _ (List.mem_singleton_self row)
  obtain ⟨failure, htaken⟩ := recordInvocation_taken hmem (hrow.trans hrow'.symm) write
  rw [htaken] at hinvocations hexit
  have hrun : after settings surroundings routes t =
      ⟨[t.made], t.guard, t.invocations, .error failure⟩ := by
    simp only [after, hexit]
  rw [hrun]
  refine ⟨[row], hinvocations, iff_of_false ?_ hQ⟩
  rw [unmixed_error_iff rfl, hended]
  simp

/-- The laws hold of the rest of a call if and only if its records are kept. -/
theorem attemptRoutes_settles (routes : List ModelRouteProfile) (made : ℕ)
    (guard : ModelReliabilityGuard) (rows : List Invocation) (lastError : Option Failure)
    (hrows : ∀ r ∈ rows, r.attempt ≤ made) :
    Settles (made + 1) routes.length rows
      (attemptRoutes settings surroundings routes made guard rows lastError)
      (Kept settings surroundings routes made guard) := by
  induction routes generalizing made guard rows lastError with
  | nil =>
    refine ⟨[], by simp [attemptRoutes], iff_of_true ?_ trivial⟩
    refine ⟨le_rfl, by simp [attemptRoutes], by simp [attemptRoutes], rfl, rfl, ?_, nofun⟩
    simp [attemptRoutes]
  | cons route routes ih =>
    have hfresh : ∀ r ∈ rows, r.attempt < made + 1 := by
      intro r hr
      exact Nat.lt_succ_of_le (hrows r hr)
    have hkept : ∀ guard, routes = [] → Kept settings surroundings routes (made + 1) guard := by
      rintro guard rfl
      trivial
    have hlater : ∀ guard invocations lastError,
        (∀ r ∈ invocations, r.attempt ≤ made + 1) → Settles (made + 2) routes.length invocations
          (attemptRoutes settings surroundings routes (made + 1) guard invocations lastError)
          (Kept settings surroundings routes (made + 1) guard) := by
      intro guard invocations lastError
      exact ih (made + 1) guard invocations lastError
    rw [attemptRoutes_cons, List.length_cons, Kept]
    generalize surroundings (made + 1) = s
    rcases hadmission : admission settings s route guard with ⟨_ | _, guard'⟩
    · obtain ⟨hend, hmade, hguard⟩ := attemptOnce_blocked rows hadmission
      apply settles_failed hend hmade hguard hfresh (fun _ ↦ rfl) (hlater guard') (hkept guard')
      simp
    · unfold admission at hadmission
      dsimp only [attemptOnce]
      rw [hadmission]
      dsimp only
      have hsilent := stream_persisted s
      revert hsilent
      rcases s.stream with ⟨emission, failure | provider⟩
      · intro hsilent
        apply settles_failed (attemptFailed_recorded s route _ _ _) (attemptFailed_made ..)
          (attemptFailed_guard ..) hfresh hsilent (hlater _) (hkept _)
        simp
      · intro hsilent
        dsimp only
        generalize hrow : Invocation.mk _ _ _ _ _ _ _ _ = row
        have hattempt : row.attempt = made + 1 := by rw [← hrow]
        have hstatus : row.status = .completed := by rw [← hrow]
        have hne : ∀ r ∈ rows, r.attempt ≠ row.attempt := by
          intro r hr
          rw [hattempt]
          exact (hfresh r hr).ne
        rw [recordInvocation_fresh hne]
        rcases hwrite : s.completedWrite with _ | ⟨_ | _, failure⟩
        · refine ⟨[row], rfl, iff_of_true ?_ (.inl rfl)⟩
          apply unmixed_ok
          · rfl
          · exact hattempt
          · exact hstatus
          · rfl
        · apply settles_failed (attemptFailed_recorded s route _ _ _) (attemptFailed_made ..)
            (attemptFailed_guard ..) hfresh hsilent (hlater _) (hkept _)
          simp [Write.isStored]
        · apply settles_taken (attemptFailed_recorded s route _ _ _) (attemptFailed_made ..) rfl
            hattempt
          simp [Write.isStored]

end turns

section calls

theorem attemptProfiles_length {profiles routes : List ModelRouteProfile} {maxAttempts : ℕ}
    (h : attemptProfiles profiles maxAttempts = some routes) : routes.length = maxAttempts := by
  have hlength : ∀ (l : List ℕ) (routes : List ModelRouteProfile),
      l.mapM (fun index ↦ profiles[min index (profiles.length - 1)]?) = some routes →
        routes.length = l.length := by
    intro l
    induction l with
    | nil =>
      intro routes h
      cases h
      rfl
    | cons index l ih =>
      intro routes h
      rw [List.mapM_cons, Option.bind_eq_bind, Option.bind_eq_some_iff] at h
      obtain ⟨profile, _, h⟩ := h
      rw [Option.bind_eq_bind, Option.bind_eq_some_iff] at h
      obtain ⟨later, hlater, h⟩ := h
      cases h
      rw [List.length_cons, List.length_cons, ih later hlater]
  rw [hlength _ _ h, List.length_range]

variable (settings : ResilienceSettings) (surroundings : ℕ → Surroundings)
  (primary fallback : ModelRouteProfile) (routeProfiles : Option (List ModelRouteProfile))
  (routeMaxAttempts : Option ℕ) (guard : ModelReliabilityGuard)

/-- The attempts of a model call do not mix, and its result tells how its last stream ended, if and
only if the records of its attempts are kept. -/
theorem streamWithResilience_unmixed_iff :
    (streamWithResilience settings surroundings primary fallback routeProfiles routeMaxAttempts
        guard).Lawful (attemptLimit settings routeMaxAttempts) ↔
      ∀ routes, attemptProfiles (routeProfilesOr routeProfiles primary fallback)
          (attemptLimit settings routeMaxAttempts) = some routes →
        Kept settings surroundings routes 0 guard := by
  dsimp only [streamWithResilience, StreamRun.Lawful]
  cases hroutes : attemptProfiles (routeProfilesOr routeProfiles primary fallback)
      (attemptLimit settings routeMaxAttempts) with
  | none =>
    refine iff_of_true ⟨Nat.zero_le _, by simp, by simp, rfl, rfl, by simp, nofun⟩ nofun
  | some routes =>
    obtain ⟨new, hnew, hiff⟩ : Settles 1 routes.length []
        (attemptRoutes settings surroundings routes 0 guard [] none)
        (Kept settings surroundings routes 0 guard) :=
      attemptRoutes_settles routes 0 guard [] none (by simp)
    rw [attemptProfiles_length hroutes] at hiff
    dsimp only
    rw [hnew, List.nil_append, hiff]
    constructor
    · rintro h _ ⟨⟩
      exact h
    · intro h
      exact h routes rfl

def refusedRecord : Surroundings where
  resolve := .ok ⟨"openai", "gpt"⟩
  events := [(⟨"hi", none⟩, .saved)]
  completedWrite := .raised false ⟨"OperationalError", false⟩

/-- A reply that was streamed to its end counts as failed when its record is refused. -/
theorem streamWithResilience_mixed :
    ¬(streamWithResilience ⟨1, 3, 30⟩ (fun _ ↦ refusedRecord) ⟨"openai", "gpt", 0, 0, none, none⟩
        ⟨"openai", "gpt", 0, 0, none, none⟩ none none fun _ ↦ none).Lawful 1 := by
  intro h
  obtain ⟨usage, husage⟩ := h.returns.mpr ⟨⟨1, true, ["hi"], true⟩, rfl, rfl⟩
  cases husage

end calls

end CyberNetizen.Application.ModelReliability
