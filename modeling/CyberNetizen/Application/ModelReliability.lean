import CyberNetizen.Domain.Conversation
import Mathlib.Data.Rat.Defs

/-! # Model calls with fallbacks, retries and circuit breakers -/

namespace CyberNetizen.Application.ModelReliability

open Domain

structure CircuitState where
  failures : ℕ := 0
  openedAt : Option ℕ := none
  deriving DecidableEq

abbrev ModelReliabilityGuard := String → Option CircuitState

namespace ModelReliabilityGuard

variable (guard : ModelReliabilityGuard) (profile : String)

def available (cooldownSeconds now : ℕ) : Bool × ModelReliabilityGuard :=
  match guard profile with
  | none => (true, guard)
  | some state =>
    match state.openedAt with
    | none => (true, guard)
    | some openedAt =>
      if openedAt + cooldownSeconds * 1000000 ≤ now then
        (true, Function.update guard profile (some {}))
      else (false, guard)

def succeeded : ModelReliabilityGuard := Function.update guard profile none

def failed (threshold now : ℕ) : ModelReliabilityGuard :=
  let state := (guard profile).getD {}
  let failures := state.failures + 1
  Function.update guard profile
    (some ⟨failures, if threshold ≤ failures then some now else state.openedAt⟩)

end ModelReliabilityGuard

structure ModelRouteProfile where
  provider : String
  model : String
  inputUsdPerMillionTokens : ℚ := 0
  outputUsdPerMillionTokens : ℚ := 0
  profileKey : Option String := none
  profileVersion : Option ℕ := none
  deriving DecidableEq

inductive InvocationStatus
  | running
  | completed
  | failed
  | timedOut
  deriving DecidableEq

/-- The arguments of `_record_invocation`, which become a row of `model_invocations`. -/
structure Invocation where
  provider : String
  model : String
  attempt : ℕ
  status : InvocationStatus
  startedAt : ℕ
  usage : Option ModelUsage := none
  pricing : ℚ × ℚ
  errorCode : Option String := none
  deriving DecidableEq

/-- An exception: the name of its type, and whether `except TimeoutError` takes it. -/
structure Failure where
  name : String
  isTimeout : Bool := false
  deriving DecidableEq

/-- How a write ends. An error may reach the caller although the write was committed. -/
inductive Write
  | saved
  | raised (stored : Bool) (failure : Failure)
  deriving DecidableEq

def Write.isStored : Write → Bool
  | .saved => true
  | .raised stored _ => stored

/-- `uq_model_invocations_attempt` keeps a second row of the same attempt out. -/
def recordInvocation (rows : List Invocation) (row : Invocation) (write : Write) :
    List Invocation × Except Failure Unit :=
  if rows.any (·.attempt = row.attempt) then
    match write with
    | .saved => (rows, .error ⟨"IntegrityError", false⟩)
    | .raised _ failure => (rows, .error failure)
  else
    match write with
    | .saved => (rows ++ [row], .ok ())
    | .raised true failure => (rows ++ [row], .error failure)
    | .raised false failure => (rows, .error failure)

structure ModelStreamEvent where
  delta : String := ""
  usage : Option ModelUsage := none
  deriving DecidableEq

structure ResolvedProvider where
  name : String
  model : String
  deriving DecidableEq

/-- What happens to an attempt from outside: the clock, the provider, the storage, and what the
other runs of the process do to the breakers meanwhile. -/
structure Surroundings where
  startedAt : ℕ := 0
  failedAt : ℕ := 0
  /-- What resolving the provider and preparing its request give. -/
  resolve : Except Failure ResolvedProvider
  /-- The events of the stream, each with how `append_run_delta` would end for it. -/
  events : List (ModelStreamEvent × Write) := []
  /-- The error that ends the stream after its events, a timeout for instance. -/
  ending : Option Failure := none
  completedWrite : Write := .saved
  /-- How recording an attempt as failed, timed out or kept out by its breaker ends. -/
  failedWrite : Write := .saved
  othersBefore : ModelReliabilityGuard → ModelReliabilityGuard := id
  othersMeanwhile : ModelReliabilityGuard → ModelReliabilityGuard := id

/-- What an attempt has sent out, and the usage that it has been told. -/
structure Emission where
  emitted : Bool := false
  persisted : List String := []
  usage : Option ModelUsage := none
  deriving DecidableEq

/-- The body of `async for event in provider.stream(...)`, up to the end or an error. -/
def readEvents (ending : Option Failure) :
    Emission → List (ModelStreamEvent × Write) → Emission × Option Failure
  | emission, [] => (emission, ending)
  | emission, (event, write) :: rest =>
    let usage := event.usage.or emission.usage
    if event.delta = "" then readEvents ending { emission with usage } rest
    else
      match write with
      | .saved =>
        readEvents ending ⟨true, emission.persisted ++ [event.delta], usage⟩ rest
      | .raised true failure =>
        (⟨true, emission.persisted ++ [event.delta], emission.usage⟩, some failure)
      | .raised false failure => (⟨true, emission.persisted, emission.usage⟩, some failure)

/-- The provider's part of an attempt: what it sends out, and how its stream ends. -/
def Surroundings.stream (s : Surroundings) : Emission × Except Failure ResolvedProvider :=
  match s.resolve with
  | .error failure => ({}, .error failure)
  | .ok provider =>
    match readEvents s.ending {} s.events with
    | (emission, some failure) => (emission, .error failure)
    | (emission, none) => (emission, .ok provider)

structure ResilienceSettings where
  maxAttempts : ℕ
  circuitBreakerFailures : ℕ
  circuitBreakerCooldownSeconds : ℕ

structure ModelAttempt where
  number : ℕ
  emitted : Bool
  persisted : List String
  /-- The provider's stream ended without an error. -/
  streamEnded : Bool
  deriving DecidableEq

/-- How an attempt leaves the loop, or the error with which the loop goes on. -/
inductive Exit
  | returned (usage : Option ModelUsage)
  | raised (failure : Failure)
  | again (failure : Failure)
  deriving DecidableEq

structure AttemptEnd where
  made : ModelAttempt
  guard : ModelReliabilityGuard
  invocations : List Invocation
  exit : Exit

/-- The part of the loop behind the `try`: the attempt failed with `lastError`. -/
def attemptFailed (settings : ResilienceSettings) (s : Surroundings) (route : ModelRouteProfile)
    (made : ModelAttempt) (guard : ModelReliabilityGuard) (rows : List Invocation)
    (lastError : Failure) : AttemptEnd :=
  let profile := route.provider ++ "/" ++ route.model
  let guard := guard.failed profile settings.circuitBreakerFailures s.failedAt
  let row : Invocation := {
    provider := route.provider, model := route.model, attempt := made.number
    status := if lastError.isTimeout then .timedOut else .failed
    startedAt := s.startedAt
    pricing := (route.inputUsdPerMillionTokens, route.outputUsdPerMillionTokens)
    errorCode := some lastError.name }
  match recordInvocation rows row s.failedWrite with
  | (rows, .error failure) => ⟨made, guard, rows, .raised failure⟩
  | (rows, .ok ()) =>
    ⟨made, guard, rows, if made.emitted then .raised lastError else .again lastError⟩

/-- One turn of the loop. The record of success is written inside the `try`, so an error of it is
taken for one of the model. -/
def attemptOnce (settings : ResilienceSettings) (s : Surroundings) (route : ModelRouteProfile)
    (number : ℕ) (guard : ModelReliabilityGuard) (rows : List Invocation) : AttemptEnd :=
  let profile := route.provider ++ "/" ++ route.model
  let pricing := (route.inputUsdPerMillionTokens, route.outputUsdPerMillionTokens)
  match (s.othersBefore guard).available profile settings.circuitBreakerCooldownSeconds
      s.startedAt with
  | (false, guard) =>
    let made : ModelAttempt := ⟨number, false, [], false⟩
    let row : Invocation := {
      provider := route.provider, model := route.model, attempt := number, status := .failed
      startedAt := s.startedAt, pricing, errorCode := some "CircuitOpen" }
    match recordInvocation rows row s.failedWrite with
    | (rows, .error failure) => ⟨made, guard, rows, .raised failure⟩
    | (rows, .ok ()) =>
      ⟨made, guard, rows, .again ⟨"ModelProviderConfigurationError", false⟩⟩
  | (true, guard) =>
    let guard := s.othersMeanwhile guard
    match s.stream with
    | (emission, .error failure) =>
      attemptFailed settings s route ⟨number, emission.emitted, emission.persisted, false⟩ guard
        rows failure
    | (emission, .ok provider) =>
      let made : ModelAttempt := ⟨number, emission.emitted, emission.persisted, true⟩
      let guard := guard.succeeded profile
      let row : Invocation := {
        provider := provider.name, model := provider.model, attempt := number
        status := .completed, startedAt := s.startedAt, usage := emission.usage, pricing }
      match recordInvocation rows row s.completedWrite with
      | (rows, .ok ()) => ⟨made, guard, rows, .returned emission.usage⟩
      | (rows, .error failure) => attemptFailed settings s route made guard rows failure

structure StreamRun where
  attempts : List ModelAttempt
  guard : ModelReliabilityGuard
  invocations : List Invocation
  result : Except Failure (Option ModelUsage)

/-- The loop over the routes that are left, after `made` attempts. -/
def attemptRoutes (settings : ResilienceSettings) (surroundings : ℕ → Surroundings) :
    List ModelRouteProfile → ℕ → ModelReliabilityGuard → List Invocation → Option Failure →
      StreamRun
  | [], _, guard, rows, lastError =>
    ⟨[], guard, rows, .error (lastError.getD ⟨"ModelProviderConfigurationError", false⟩)⟩
  | route :: routes, made, guard, rows, _ =>
    let last := attemptOnce settings (surroundings (made + 1)) route (made + 1) guard rows
    match last.exit with
    | .returned usage => ⟨[last.made], last.guard, last.invocations, .ok usage⟩
    | .raised failure => ⟨[last.made], last.guard, last.invocations, .error failure⟩
    | .again failure =>
      let later := attemptRoutes settings surroundings routes (made + 1) last.guard
        last.invocations (some failure)
      { later with attempts := last.made :: later.attempts }

def routeProfilesOr (routeProfiles : Option (List ModelRouteProfile))
    (primary fallback : ModelRouteProfile) : List ModelRouteProfile :=
  match routeProfiles with
  | some profiles => profiles
  | none => if fallback = primary then [primary] else [primary, fallback]

def attemptProfiles (profiles : List ModelRouteProfile) (maxAttempts : ℕ) :
    Option (List ModelRouteProfile) :=
  (List.range maxAttempts).mapM fun index ↦ profiles[min index (profiles.length - 1)]?

/-- `route_max_attempts or ...` -/
def attemptLimit (settings : ResilienceSettings) (routeMaxAttempts : Option ℕ) : ℕ :=
  match routeMaxAttempts with
  | some (n + 1) => n + 1
  | _ => settings.maxAttempts

/-- `_stream_with_resilience` of a run without an invocation -/
def streamWithResilience (settings : ResilienceSettings) (surroundings : ℕ → Surroundings)
    (primary fallback : ModelRouteProfile) (routeProfiles : Option (List ModelRouteProfile))
    (routeMaxAttempts : Option ℕ) (guard : ModelReliabilityGuard) : StreamRun :=
  match attemptProfiles (routeProfilesOr routeProfiles primary fallback)
      (attemptLimit settings routeMaxAttempts) with
  | none => ⟨[], guard, [], .error ⟨"IndexError", false⟩⟩
  | some routes => attemptRoutes settings surroundings routes 0 guard [] none

end CyberNetizen.Application.ModelReliability
