import CyberNetizen.Application.ConversationService
import CyberNetizen.Conversations.InFlight
import CyberNetizen.Conversations.ModelRetries
import CyberNetizen.Conversations.RunWrites
import CyberNetizen.Infrastructure.ModelProvider

namespace CyberNetizen.Conversations

open Domain Infrastructure Infrastructure.OpenAIResponsesProvider Application.ModelReliability
  Application.ConversationService KeyedTable Checks
open Infrastructure.ConversationRepository hiding Emission

/-! ## The stream of the provider -/

section stream

variable {ending : SdkEnd} {sdk : SdkStream}

def deltaText : ResponseStreamEvent → String
  | .textDelta delta => delta
  | _ => ""

def allDeltas (sdk : SdkStream) : String := String.join (sdk.events.map deltaText)

/-- The iteration ends by itself: without an exception, a timeout, an event of failure, and an
error of closing. -/
structure EndsByItself (sdk : SdkStream) : Prop where
  ended : sdk.ending = .ended
  notFailed : .failed ∉ sdk.events
  notIncomplete : .incomplete ∉ sdk.events
  closed : sdk.closing = none

def HasCompleted (sdk : SdkStream) : Prop := ∃ usage, .completed usage ∈ sdk.events

theorem endFailure_eq_none : endFailure ending = none ↔ ending = .ended := by
  cases ending with
  | ended => exact ⟨fun _ ↦ rfl, fun _ ↦ rfl⟩
  | raised => exact ⟨nofun, nofun⟩
  | timedOut => exact ⟨nofun, nofun⟩

theorem readResponse_failure {events : List ResponseStreamEvent} :
    (readResponse ending events).2 = none ↔
      ending = .ended ∧ .failed ∉ events ∧ .incomplete ∉ events := by
  induction events with
  | nil =>
    refine endFailure_eq_none.trans ⟨fun h ↦ ⟨h, List.not_mem_nil, List.not_mem_nil⟩, fun h ↦ h.1⟩
  | cons event rest ih =>
    cases event with
    | textDelta delta => simpa [readResponse] using ih
    | completed usage =>
      cases usage with
      | none => simpa [readResponse] using ih
      | some usage => simpa [readResponse] using ih
    | failed => simp [readResponse]
    | incomplete => simp [readResponse]
    | other type => simpa [readResponse] using ih

/-- Up to the end of a stream that has no event of failure, every delta is yielded. -/
theorem readResponse_deltas {events : List ResponseStreamEvent}
    (h : (readResponse ending events).2 = none) :
    String.join ((readResponse ending events).1.map (·.delta)) =
      String.join (events.map deltaText) := by
  induction events with
  | nil => rfl
  | cons event rest ih =>
    cases event with
    | textDelta delta =>
      rw [readResponse, List.map_cons, List.map_cons, String.join_cons, String.join_cons, ih h]
      rfl
    | completed usage =>
      cases usage with
      | none =>
        rw [List.map_cons, String.join_cons, ← ih h]
        exact (String.empty_append).symm
      | some usage =>
        rw [readResponse, List.map_cons, List.map_cons, String.join_cons, String.join_cons, ih h]
        rfl
    | failed => cases h
    | incomplete => cases h
    | other type =>
      rw [List.map_cons, String.join_cons, ← ih h]
      exact (String.empty_append).symm

theorem stream_failure : (OpenAIResponsesProvider.stream sdk).2 = none ↔ EndsByItself sdk := by
  have hstream : (OpenAIResponsesProvider.stream sdk).2 =
      sdk.closing.or (readResponse sdk.ending sdk.events).2 := rfl
  rw [hstream, Option.or_eq_none_iff, readResponse_failure]
  exact ⟨fun ⟨hclosed, hended, hfailed, hincomplete⟩ ↦ ⟨hended, hfailed, hincomplete, hclosed⟩,
    fun h ↦ ⟨h.closed, h.ended, h.notFailed, h.notIncomplete⟩⟩

theorem join_filter (texts : List String) :
    String.join (texts.filter (· ≠ "")) = String.join texts := by
  induction texts with
  | nil => rfl
  | cons text texts ih =>
    by_cases htext : text = ""
    · rw [List.filter_cons_of_neg (by simpa using htext), ih, String.join_cons, htext,
        String.empty_append]
    · rw [List.filter_cons_of_pos (by simpa using htext), String.join_cons, String.join_cons, ih]

/-- A stream that is read to its end without an error has stored every delta that has a text. -/
theorem readEvents_none {failure : Option Failure} {events : List (ModelStreamEvent × Write)}
    {emission emission' : Emission} (h : readEvents failure emission events = (emission', none)) :
    failure = none ∧ emission'.persisted =
      emission.persisted ++ (events.map (·.1.delta)).filter (· ≠ "") := by
  induction events generalizing emission with
  | nil =>
    obtain ⟨rfl, rfl⟩ := Prod.mk.inj h
    exact ⟨rfl, (List.append_nil _).symm⟩
  | cons event rest ih =>
    obtain ⟨event, write⟩ := event
    rw [List.map_cons]
    by_cases hdelta : event.delta = ""
    · rw [List.filter_cons_of_neg (by simpa using hdelta)]
      simp only [readEvents, if_pos hdelta] at h
      have hrest := ih h
      exact hrest
    · rw [List.filter_cons_of_pos (by simpa using hdelta)]
      simp only [readEvents, if_neg hdelta] at h
      cases write with
      | saved =>
        obtain ⟨hnone, hpersisted⟩ := ih h
        refine ⟨hnone, ?_⟩
        rw [hpersisted, List.append_assoc, List.singleton_append]
      | raised stored failure => cases stored <;> cases h

/-- An attempt whose provider reads a stream of the SDK ends without an error only if the stream
ends by itself, and it has then stored all its deltas. -/
theorem surroundings_stream {writes : ℕ → Write} {s : Surroundings} {emission : Emission}
    {provider : ResolvedProvider}
    (h : (OpenAIResponsesProvider.surroundings sdk writes s).stream = (emission, .ok provider)) :
    EndsByItself sdk ∧ String.join emission.persisted = allDeltas sdk := by
  unfold Surroundings.stream at h
  dsimp only [OpenAIResponsesProvider.surroundings] at h
  cases hresolve : s.resolve with
  | error failure =>
    rw [hresolve] at h
    cases h
  | ok resolved =>
    rw [hresolve] at h
    dsimp only at h
    generalize hread : readEvents _ _ _ = read at h
    obtain ⟨emission', failure⟩ := read
    cases failure with
    | some failure => cases h
    | none =>
      obtain ⟨rfl, -⟩ := Prod.mk.inj h
      obtain ⟨hnone, hpersisted⟩ := readEvents_none hread
      have hends := stream_failure.mp hnone
      refine ⟨hends, ?_⟩
      have hread : (readResponse sdk.ending sdk.events).2 = none :=
        readResponse_failure.mpr ⟨hends.ended, hends.notFailed, hends.notIncomplete⟩
      have hfst : ∀ (events : List ModelStreamEvent)
          (f : ModelStreamEvent × ℕ → ModelStreamEvent × Write), (∀ x, (f x).1 = x.1) →
          (events.zipIdx.map f).map (·.1.delta) = events.map (·.delta) := by
        intro events f hf
        have hdeltas := congrArg (List.map (·.delta)) (List.zipIdx_map_fst 0 events)
        rw [List.map_map] at hdeltas ⊢
        rw [← hdeltas]
        exact List.map_congr_left fun x _ ↦ congrArg (·.delta) (hf x)
      rw [hpersisted, hfst _ _ fun _ ↦ rfl, List.nil_append, join_filter]
      exact readResponse_deltas hread

end stream

/-! ## The attempts -/

section attempts

variable {settings : ResilienceSettings} {surroundings : ℕ → Surroundings}
  {routes : List ModelRouteProfile} {rows : List Invocation} {t : AttemptEnd} {write : Write}
  {route : ModelRouteProfile} {number : ℕ} {guard : ModelReliabilityGuard} {s : Surroundings}

theorem exit_of_recorded (h : EndsRecorded t rows write) :
    (∀ usage, t.exit ≠ .returned usage) ∧
      ∀ failure, t.exit = .again failure → t.made.emitted = false := by
  obtain ⟨row, failure, -, -, hexit⟩ := h
  rw [hexit]
  cases (recordInvocation rows row write).2 with
  | error raised => exact ⟨nofun, nofun⟩
  | ok _ =>
    cases hemitted : t.made.emitted with
    | true => exact ⟨nofun, nofun⟩
    | false => exact ⟨nofun, fun _ _ ↦ rfl⟩

/-- An attempt that returns has read its stream to the end; one that leads to another attempt has
stored nothing. -/
theorem attemptOnce_exit (settings : ResilienceSettings) (s : Surroundings)
    (route : ModelRouteProfile) (number : ℕ) (guard : ModelReliabilityGuard)
    (rows : List Invocation) :
    (∀ usage, (attemptOnce settings s route number guard rows).exit = .returned usage →
      ∃ emission provider, s.stream = (emission, .ok provider) ∧
        (attemptOnce settings s route number guard rows).made.persisted = emission.persisted) ∧
    ∀ failure, (attemptOnce settings s route number guard rows).exit = .again failure →
      (attemptOnce settings s route number guard rows).made.persisted = [] := by
  rcases haccept : admission settings s route guard with ⟨admitted, guard'⟩
  cases admitted with
  | false =>
    have hblocked : EndsRecorded (attemptOnce settings s route number guard rows) rows
        s.failedWrite ∧ (attemptOnce settings s route number guard rows).made =
          ⟨number, false, [], false⟩ ∧ _ := attemptOnce_blocked rows haccept
    obtain ⟨hrecorded, hmade, -⟩ := hblocked
    exact ⟨fun usage h ↦ absurd h ((exit_of_recorded hrecorded).1 usage), fun _ _ ↦ by rw [hmade]⟩
  | true =>
    have hfailed : ∀ (emission : Emission) (ended : Bool) (guard : ModelReliabilityGuard)
        (rows : List Invocation) (failure : Failure), s.stream.1 = emission →
        ∀ t, t = attemptFailed settings s route
          ⟨number, emission.emitted, emission.persisted, ended⟩ guard rows failure →
        (∀ usage, t.exit ≠ .returned usage) ∧
          ∀ failure, t.exit = .again failure → t.made.persisted = [] := by
      rintro emission ended guard rows failure rfl t rfl
      have hend : EndsRecorded (attemptFailed settings s route
          ⟨number, s.stream.1.emitted, s.stream.1.persisted, ended⟩ guard rows failure) rows
          s.failedWrite := attemptFailed_recorded s route _ guard failure
      have hrecorded := exit_of_recorded hend
      refine ⟨hrecorded.1, fun again hagain ↦ ?_⟩
      have hsilent := hrecorded.2 again hagain
      rw [attemptFailed_made] at hsilent ⊢
      exact stream_persisted s hsilent
    unfold admission at haccept
    dsimp only [attemptOnce]
    rw [haccept]
    dsimp only
    cases hstream : s.stream with
    | mk emission outcome =>
      have hfst : s.stream.1 = emission := congrArg Prod.fst hstream
      cases outcome with
      | error failure =>
        have hend := hfailed emission false (s.othersMeanwhile guard') rows failure hfst _ rfl
        exact ⟨fun usage h ↦ absurd h (hend.1 usage), hend.2⟩
      | ok provider =>
        dsimp only
        generalize Invocation.mk _ _ _ _ _ _ _ _ = row
        cases hrecord : recordInvocation rows row s.completedWrite with
        | mk rows' result =>
          cases result with
          | ok _ => exact ⟨fun _ _ ↦ ⟨emission, provider, rfl, rfl⟩, nofun⟩
          | error failure =>
            have hend := hfailed emission true ((s.othersMeanwhile guard').succeeded
              (route.provider ++ "/" ++ route.model)) rows' failure hfst _ rfl
            exact ⟨fun usage h ↦ absurd h (hend.1 usage), hend.2⟩

/-- A call that returns has stored the deltas of its last attempt and nothing else. -/
theorem attemptRoutes_ok {made : ℕ} {lastError : Option Failure} {usage : Option ModelUsage}
    (h : (attemptRoutes settings surroundings routes made guard rows lastError).result
      = .ok usage) :
    ∃ attempts last emission provider,
      (attemptRoutes settings surroundings routes made guard rows lastError).attempts =
        attempts ++ [last] ∧
      attempts.flatMap (·.persisted) = [] ∧
      (surroundings last.number).stream = (emission, .ok provider) ∧
      last.persisted = emission.persisted := by
  induction routes generalizing made guard rows lastError with
  | nil => cases h
  | cons route routes ih =>
    obtain ⟨hreturned, hagain⟩ :=
      attemptOnce_exit settings (surroundings (made + 1)) route (made + 1) guard rows
    have hnumber : (attemptOnce settings (surroundings (made + 1)) route (made + 1) guard
        rows).made.number = made + 1 := attemptOnce_number _ _ _ _ _
    rw [attemptRoutes_cons] at h ⊢
    generalize attemptOnce settings (surroundings (made + 1)) route (made + 1) guard rows = last
      at h hreturned hagain hnumber ⊢
    unfold after at h ⊢
    cases hexit : last.exit with
    | returned usage =>
      obtain ⟨emission, provider, hstream, hpersisted⟩ := hreturned usage hexit
      rw [← hnumber] at hstream
      exact ⟨[], last.made, emission, provider, rfl, rfl, hstream, hpersisted⟩
    | raised failure =>
      rw [hexit] at h
      cases h
    | again failure =>
      rw [hexit] at h
      obtain ⟨attempts, final, emission, provider, hattempts, hnone, hstream, hpersisted⟩ := ih h
      refine ⟨last.made :: attempts, final, emission, provider, ?_, ?_, hstream, hpersisted⟩
      · dsimp only
        rw [hattempts, List.cons_append]
      · rw [List.flatMap_cons, hagain failure hexit, hnone, List.append_nil]

theorem streamWithResilience_ok {primary fallback : ModelRouteProfile}
    {routeProfiles : Option (List ModelRouteProfile)} {routeMaxAttempts : Option ℕ}
    {usage : Option ModelUsage}
    (h : (streamWithResilience settings surroundings primary fallback routeProfiles
      routeMaxAttempts guard).result = .ok usage) :
    ∃ attempts last emission provider,
      (streamWithResilience settings surroundings primary fallback routeProfiles
        routeMaxAttempts guard).attempts = attempts ++ [last] ∧
      attempts.flatMap (·.persisted) = [] ∧
      (surroundings last.number).stream = (emission, .ok provider) ∧
      last.persisted = emission.persisted := by
  unfold streamWithResilience at h ⊢
  cases hroutes : attemptProfiles (routeProfilesOr routeProfiles primary fallback)
      (attemptLimit settings routeMaxAttempts) with
  | none =>
    rw [hroutes] at h
    cases h
  | some routes =>
    rw [hroutes] at h
    exact attemptRoutes_ok h

end attempts

/-! ## The reply that is stored -/

section reply

/-- What `execute_run` does with the outcome of the stream: the deltas are appended, and the run is
completed or failed. -/
def replyChoices (run : StreamRun) : List Choice :=
  (run.attempts.flatMap (·.persisted)).map .delta ++
    [match run.result with
      | .ok usage => .finish usage false
      | .error failure => .error failure.name, .proceed]

def runChoices (clock : ℕ → Datetime) : ℕ → List Choice → Call → ConversationStore →
    Call × ConversationStore
  | _, [], c, s => (c, s)
  | i, choice :: choices, c, s =>
    let next := advance (clock i) s c choice
    runChoices clock (i + 1) choices next.1 next.2

/-- `execute_run` from the claimed run on, and the store that it leaves. -/
def executeReply (identity : DevelopmentIdentity) (runId : UUID) (clock : ℕ → Datetime)
    (s : ConversationStore) (run : StreamRun) : Call × ConversationStore :=
  runChoices clock 0 (replyChoices run) { identity, runId, phase := .streaming } s

def replyContent (runId : UUID) (s : ConversationStore) : Option String :=
  (s.runs.find? runId).bind fun run ↦ (s.messages.find? run.responseMessageId).map (·.content)

variable {clock : ℕ → Datetime} {now : Datetime} {s t : ConversationStore} {c : Call}
  {runId : UUID}

theorem runChoices_append (choices choices' : List Choice) (i : ℕ) (c : Call)
    (s : ConversationStore) : runChoices clock i (choices ++ choices') c s =
      runChoices clock (i + choices.length) choices' (runChoices clock i choices c s).1
        (runChoices clock i choices c s).2 := by
  induction choices generalizing i c s with
  | nil => rfl
  | cons choice choices ih =>
    have hlength : i + (choice :: choices).length = i + 1 + choices.length := by
      rw [List.length_cons]
      omega
    rw [hlength]
    exact ih _ _ _

theorem replyContent_of_written {w : RunWrite} {run : AgentRun} {response : Message}
    (h : RunWritten w now runId s run response t) :
    replyContent runId s = some response.content ∧
      replyContent runId t = some (w.response now response).content := by
  obtain ⟨hrun, hresponse, -, -, rfl⟩ := h
  have hid : run.id = runId := Table.key_of_find? hrun
  have hresponseId : response.id = run.responseMessageId := Table.key_of_find? hresponse
  have hrun' : (writeRun w now run response s).runs.find? runId = some (w.run now run) := by
    unfold writeRun
    rw [emitAll_runs, ← hid]
    exact Table.find?_updateWhere_self (hid.symm ▸ hrun)
  have hreply : (w.run now run).responseMessageId = run.responseMessageId := by
    cases w <;> rfl
  have hresponse' : (writeRun w now run response s).messages.find? run.responseMessageId =
      some (w.response now response) := by
    unfold writeRun
    rw [emitAll_messages, ← hresponseId]
    exact Table.find?_updateWhere_self (hresponseId.symm ▸ hresponse)
  unfold replyContent
  rw [hrun, hrun', Option.bind_some, Option.bind_some, hresponse, hreply, hresponse']
  exact ⟨rfl, rfl⟩

/-- The deltas are appended to the reply in their order, or one of them is refused. -/
theorem runChoices_deltas (clock : ℕ → Datetime) (deltas : List String) (i : ℕ) (c : Call)
    (s : ConversationStore) (hphase : c.phase = .streaming) (hrun : c.runId = runId) :
    (∀ content, replyContent runId s = some content →
      (runChoices clock i (deltas.map .delta) c s).1.phase = .streaming →
      replyContent runId (runChoices clock i (deltas.map .delta) c s).2 =
        some (content ++ String.join deltas)) ∧
    (runChoices clock i (deltas.map .delta) c s).1.runId = runId ∧
    ((runChoices clock i (deltas.map .delta) c s).1.phase = .streaming ∨
      (runChoices clock i (deltas.map .delta) c s).1.phase = .broken) := by
  induction deltas generalizing i c s with
  | nil =>
    refine ⟨fun content hcontent _ ↦ ?_, hrun, Or.inl hphase⟩
    rw [String.join_nil, String.append_empty]
    exact hcontent
  | cons delta deltas ih =>
    rw [List.map_cons, runChoices]
    cases happend : appendRunDelta c.runId (clock i) s delta with
    | ok appended =>
      obtain ⟨message, t⟩ := appended
      have hadvance : advance (clock i) s c (.delta delta) =
          ({ c with appended := c.appended ++ delta }, t) := by
        unfold advance
        rw [hphase]
        dsimp only
        rw [happend]
      rw [hadvance]
      obtain ⟨hstored, hrest⟩ := ih (i + 1) { c with appended := c.appended ++ delta } t
        hphase hrun
      refine ⟨fun content hcontent hstreaming ↦ ?_, hrest⟩
      obtain ⟨before, response, hwritten, -⟩ := appendRunDelta_eq_ok happend
      rw [hrun] at hwritten
      obtain ⟨hbefore, hafter⟩ := replyContent_of_written hwritten
      obtain rfl := Option.some.inj (hcontent.symm.trans hbefore)
      rw [String.join_cons, ← String.append_assoc]
      exact hstored _ hafter hstreaming
    | error error =>
      have hadvance : advance (clock i) s c (.delta delta) = ({ c with phase := .broken }, s) := by
        unfold advance
        rw [hphase]
        dsimp only
        rw [happend]
      -- a call whose delta was refused stays where it is
      have hbroken : ∀ (rest : List String) (j : ℕ), runChoices clock j (rest.map .delta)
          { c with phase := .broken } s = ({ c with phase := .broken }, s) := by
        intro rest
        induction rest with
        | nil => exact fun j ↦ rfl
        | cons text rest ih => exact fun j ↦ ih (j + 1)
      rw [hadvance, hbroken]
      exact ⟨fun _ _ h ↦ (nomatch h), hrun, Or.inr rfl⟩

/-- A call that has failed does not return a completed run. -/
theorem not_completed_of_failing {errorCode : String} {run : AgentRun}
    (hphase : c.phase = .failing errorCode)
    (h : (advance now s c .proceed).1.phase = .returned run) : run.status ≠ .completed := by
  unfold advance at h
  rw [hphase] at h
  dsimp only at h
  cases hfail : failRun c.runId now s errorCode with
  | error error =>
    rw [hfail] at h
    cases h
  | ok failed =>
    obtain ⟨failed, t⟩ := failed
    rw [hfail] at h
    obtain rfl := Phase.returned.inj h
    rcases failRun_eq_ok hfail with ⟨-, hcancelled, -⟩ | ⟨before, response, -, rfl⟩
    · rw [hcancelled]
      exact nofun
    · exact fun hcompleted ↦ (nomatch hcompleted)

variable {identity : DevelopmentIdentity} {run : StreamRun} {completed : AgentRun}

/-- A completed run is one whose stream has returned, and its reply ends with what was stored. -/
theorem executeReply_completed
    (hreturned : (executeReply identity runId clock s run).1.phase = .returned completed)
    (hcompleted : completed.status = .completed) :
    (∃ usage, run.result = .ok usage) ∧
      ∀ content, replyContent runId s = some content →
        replyContent runId (executeReply identity runId clock s run).2 =
          some (content ++ String.join (run.attempts.flatMap (·.persisted))) := by
  have hdeltas := @runChoices_deltas runId clock (run.attempts.flatMap (·.persisted)) 0
    { identity, runId, phase := .streaming } s rfl rfl
  obtain ⟨hstored, hid, hphase⟩ := hdeltas
  unfold executeReply replyChoices at hreturned ⊢
  rw [runChoices_append] at hreturned ⊢
  rw [List.length_map, Nat.zero_add] at hreturned ⊢
  generalize (run.attempts.flatMap (·.persisted)).length = k at hreturned ⊢
  generalize runChoices clock 0 ((run.attempts.flatMap (·.persisted)).map .delta)
    { identity, runId, phase := .streaming } s = last at hreturned hstored hid hphase ⊢
  obtain ⟨c, t⟩ := last
  dsimp only [runChoices] at *
  cases hresult : run.result with
  | error failure =>
    rw [hresult] at hreturned
    have hfailing : (advance (clock k) t c (.error failure.name)).1.phase = .failing failure.name := by
      unfold advance
      rcases hphase with hphase | hphase
      · rw [hphase]
      · rw [hphase]
    exact absurd hcompleted (not_completed_of_failing hfailing hreturned)
  | ok usage =>
    rw [hresult] at hreturned
    refine ⟨⟨usage, rfl⟩, fun content hcontent ↦ ?_⟩
    rcases hphase with hphase | hphase
    · cases hcomplete : completeRun c.runId (clock k) t usage false with
      | error error =>
        have hfailing : advance (clock k) t c (.finish usage false) =
            ({ c with phase := .failing (errorName error) }, t) := by
          unfold advance
          rw [hphase]
          dsimp only
          rw [hcomplete]
        rw [hfailing] at hreturned
        exact absurd hcompleted (not_completed_of_failing rfl hreturned)
      | ok written =>
        obtain ⟨row, t'⟩ := written
        have hscheduling : advance (clock k) t c (.finish usage false) =
            ({ c with phase := .scheduling row }, t') := by
          unfold advance
          rw [hphase]
          dsimp only
          rw [hcomplete]
        obtain ⟨before, response, hwritten, -⟩ := completeRun_eq_ok hcomplete
        rw [hid] at hwritten
        obtain ⟨hbefore, hafter⟩ := replyContent_of_written hwritten
        rw [hscheduling]
        refine hafter.trans ?_
        exact hbefore.symm.trans (hstored content hcontent hphase)
    · have hbroken : advance (clock k) t c (.finish usage false) = (c, t) := by
        unfold advance
        rw [hphase]
      have hproceed : advance (clock (k + 1)) t c .proceed = (c, t) := by
        unfold advance
        rw [hphase]
      rw [hbroken, hproceed, hphase] at hreturned
      cases hreturned

end reply

/-! ## A stream that ends by itself completes the run -/

section quiet

variable {sdk : SdkStream} {s : ConversationStore} {runId : UUID} {c : Call}

theorem readEvents_saved {events : List (ModelStreamEvent × Write)} {emission : Emission}
    (h : ∀ e ∈ events, e.2 = .saved) :
    ∃ emission', readEvents none emission events = (emission', none) := by
  induction events generalizing emission with
  | nil => exact ⟨emission, rfl⟩
  | cons event rest ih =>
    obtain ⟨event, write⟩ := event
    obtain rfl : write = .saved := h _ List.mem_cons_self
    have hrest : ∀ e ∈ rest, e.2 = .saved := fun e he ↦ h e (List.mem_cons_of_mem _ he)
    unfold readEvents
    by_cases hdelta : event.delta = ""
    · rw [if_pos hdelta]
      exact ih hrest
    · rw [if_neg hdelta]
      exact ih hrest

def firstAttempt (sdk : SdkStream) : Surroundings :=
  OpenAIResponsesProvider.surroundings sdk (fun _ ↦ .saved)
    { resolve := .ok ⟨"openai", "gpt"⟩ }

theorem firstAttempt_stream (h : EndsByItself sdk) :
    ∃ emission, (firstAttempt sdk).stream = (emission, .ok ⟨"openai", "gpt"⟩) := by
  have hsaved : ∀ e ∈ (firstAttempt sdk).events, e.2 = .saved := by
    intro e he
    obtain ⟨p, -, rfl⟩ := List.mem_map.mp he
    rfl
  have hending : (firstAttempt sdk).ending = none := stream_failure.mpr h
  obtain ⟨emission, hread⟩ := @readEvents_saved _ {} hsaved
  refine ⟨emission, ?_⟩
  unfold Surroundings.stream
  have hresolve : (firstAttempt sdk).resolve = .ok ⟨"openai", "gpt"⟩ := rfl
  rw [hresolve]
  dsimp only
  rw [hending, hread]

def openAIRoute : ModelRouteProfile where
  provider := "openai"
  model := "gpt"

def onlyAttempt (sdk : SdkStream) : StreamRun :=
  streamWithResilience ⟨1, 1, 0⟩ (fun _ ↦ firstAttempt sdk) openAIRoute openAIRoute
    (some [openAIRoute]) none fun _ ↦ none

theorem onlyAttempt_returns (h : EndsByItself sdk) :
    (∃ usage, (onlyAttempt sdk).result = .ok usage) ∧
      ∃ last, (onlyAttempt sdk).attempts.getLast? = some last := by
  obtain ⟨emission, hstream⟩ := firstAttempt_stream h
  have hroutes : attemptProfiles (routeProfilesOr (some [openAIRoute]) openAIRoute openAIRoute)
      (attemptLimit ⟨1, 1, 0⟩ none) = some [openAIRoute] := rfl
  have hguard : ModelReliabilityGuard.available ((firstAttempt sdk).othersBefore fun _ ↦ none)
      (openAIRoute.provider ++ "/" ++ openAIRoute.model) 0 (firstAttempt sdk).startedAt =
      (true, fun _ ↦ none) := rfl
  have hexit : ∃ usage, (attemptOnce ⟨1, 1, 0⟩ (firstAttempt sdk) openAIRoute (0 + 1)
      (fun _ ↦ none) []).exit = .returned usage := by
    dsimp only [attemptOnce]
    rw [hguard]
    dsimp only
    rw [hstream]
    exact ⟨emission.usage, rfl⟩
  obtain ⟨usage, hexit⟩ := hexit
  unfold onlyAttempt streamWithResilience
  rw [hroutes]
  dsimp only [attemptRoutes]
  rw [hexit]
  exact ⟨⟨usage, rfl⟩, _, rfl⟩

def Ready (runId : UUID) (s : ConversationStore) : Prop :=
  ∃ run response, s.runs.find? runId = some run ∧ run.status = .running ∧
    (s.conversations.find? run.conversationId).isSome = true ∧
    s.messages.find? run.responseMessageId = some response ∧
    response.parts.any isStreamable = true

theorem appendToParts_streamable {parts : List MessagePart} (delta : String) (now : Datetime)
    (h : parts.any isStreamable = true) : (appendToParts delta now parts).any isStreamable = true := by
  induction parts with
  | nil => exact h
  | cons part rest ih =>
    unfold appendToParts
    by_cases hpart : isStreamable part = true
    · rw [if_pos hpart, List.any_cons, Bool.or_eq_true]
      exact Or.inl hpart
    · rw [if_neg hpart, List.any_cons, Bool.or_eq_true]
      rw [List.any_cons, Bool.or_eq_true] at h
      exact Or.inr (ih (h.resolve_left hpart))

theorem Ready.append (h : Ready runId s) (now : Datetime) (delta : String) :
    ∃ message t, appendRunDelta runId now s delta = .ok (message, t) ∧ Ready runId t := by
  obtain ⟨run, response, hrun, hstatus, hconversation, hresponse, hparts⟩ := h
  obtain ⟨row, hrow⟩ := Option.isSome_iff_exists.mp hconversation
  have hid : run.id = runId := Table.key_of_find? hrun
  have hresponseId : response.id = run.responseMessageId := Table.key_of_find? hresponse
  refine ⟨(RunWrite.delta delta).response now response,
    writeRun (.delta delta) now run response s, ?_, ?_⟩
  · unfold appendRunDelta
    rw [bind_of_ok (lockedRunningRun_eq_ok.mpr ⟨hrun, hstatus⟩),
      bind_of_ok (lockedConversationById_eq_ok.mpr hrow),
      bind_of_ok (requiredMessage_eq_ok.mpr hresponse), hparts]
    rfl
  · refine ⟨run, (RunWrite.delta delta).response now response, ?_, hstatus, ?_, ?_,
      appendToParts_streamable delta now hparts⟩
    · unfold writeRun
      rw [emitAll_runs, ← hid]
      exact Table.find?_updateWhere_self (hid.symm ▸ hrun)
    · unfold writeRun
      rw [← isSome_core, core_emitAll, isSome_core]
      exact hconversation
    · unfold writeRun
      rw [emitAll_messages, ← hresponseId]
      exact Table.find?_updateWhere_self (hresponseId.symm ▸ hresponse)

theorem Ready.complete (h : Ready runId s) (now : Datetime) (usage : Option ModelUsage) :
    ∃ run t, completeRun runId now s usage false = .ok (run, t) ∧ run.status = .completed := by
  obtain ⟨run, response, hrun, hstatus, hconversation, hresponse, -⟩ := h
  obtain ⟨row, hrow⟩ := Option.isSome_iff_exists.mp hconversation
  refine ⟨(RunWrite.completed usage false).run now run,
    writeRun (.completed usage false) now run response s, ?_, rfl⟩
  unfold completeRun
  rw [bind_of_ok (lockedRunningRun_eq_ok.mpr ⟨hrun, hstatus⟩),
    bind_of_ok (lockedConversationById_eq_ok.mpr hrow),
    bind_of_ok (requiredMessage_eq_ok.mpr hresponse)]
  rfl

theorem Ready.deltas (clock : ℕ → Datetime) (deltas : List String) (i : ℕ) (c : Call)
    (s : ConversationStore) (h : Ready runId s) (hphase : c.phase = .streaming)
    (hrun : c.runId = runId) :
    (runChoices clock i (deltas.map .delta) c s).1.phase = .streaming ∧
      (runChoices clock i (deltas.map .delta) c s).1.runId = runId ∧
      Ready runId (runChoices clock i (deltas.map .delta) c s).2 := by
  induction deltas generalizing i c s with
  | nil => exact ⟨hphase, hrun, h⟩
  | cons delta deltas ih =>
    obtain ⟨message, t, happend, hready⟩ := h.append (clock i) delta
    have hadvance : advance (clock i) s c (.delta delta) =
        ({ c with appended := c.appended ++ delta }, t) := by
      unfold advance
      rw [hphase]
      dsimp only
      rw [hrun, happend]
    rw [List.map_cons, runChoices, hadvance]
    exact ih (i + 1) _ t hready hphase hrun

/-- A run that is ready is completed by a stream that returns. -/
theorem Ready.executeReply (h : Ready runId s) (identity : DevelopmentIdentity)
    (clock : ℕ → Datetime) {run : StreamRun} {usage : Option ModelUsage}
    (hresult : run.result = .ok usage) :
    ∃ completed, (executeReply identity runId clock s run).1.phase = .returned completed ∧
      completed.status = .completed := by
  have hdeltas := h.deltas clock (run.attempts.flatMap (·.persisted)) 0
    { identity, runId, phase := .streaming } s rfl rfl
  unfold Conversations.executeReply replyChoices
  rw [runChoices_append, List.length_map, Nat.zero_add, hresult]
  generalize (run.attempts.flatMap (·.persisted)).length = k
  generalize runChoices clock 0 ((run.attempts.flatMap (·.persisted)).map .delta)
    { identity, runId, phase := .streaming } s = last at hdeltas ⊢
  obtain ⟨c, t⟩ := last
  obtain ⟨hphase, hid, hready⟩ := hdeltas
  dsimp only at hphase hid hready
  obtain ⟨completed, t', hcomplete, hcompleted⟩ := hready.complete (clock k) usage
  have hscheduling : advance (clock k) t c (.finish usage false) =
      ({ c with phase := .scheduling completed }, t') := by
    unfold advance
    rw [hphase]
    dsimp only
    rw [hid, hcomplete]
  dsimp only [runChoices]
  rw [hscheduling]
  exact ⟨completed, rfl, hcompleted⟩

def answering : ConversationStore :=
  (run World.empty [.createConversation alice "chat" 10 0, sendMessage 1 "hello",
    .markRunStarted 1003 110]).store

def isReady (runId : UUID) (s : ConversationStore) : Bool :=
  match s.runs.find? runId with
  | none => false
  | some run => run.status = .running && (s.conversations.find? run.conversationId).isSome &&
      (s.messages.find? run.responseMessageId).any fun response ↦ response.parts.any isStreamable

theorem ready_of_isReady (h : isReady runId s = true) : Ready runId s := by
  unfold isReady at h
  cases hrun : s.runs.find? runId with
  | none =>
    rw [hrun] at h
    cases h
  | some run =>
    rw [hrun] at h
    simp only [Bool.and_eq_true, decide_eq_true_eq, Option.any_eq_true] at h
    obtain ⟨⟨hstatus, hconversation⟩, response, hresponse, hparts⟩ := h
    exact ⟨run, response, hrun, hstatus, hconversation, hresponse, hparts⟩

theorem answering_ready : Ready 1003 answering := ready_of_isReady (by decide +kernel)

theorem answering_content : replyContent 1003 answering = some "" := by decide +kernel

end quiet

/-! ## The reply of a queued run -/

section queued

variable {p : Allowed} {s t : ConversationStore}

def QueuedEmpty (s : ConversationStore) : Prop :=
  ∀ run ∈ s.runs, run.status = .queued →
    ∀ m ∈ s.messages, m.id = run.responseMessageId → m.content = ""

theorem Linked.ne_of_fresh (h : Linked s) {m : Message} (hfresh : ∀ x ∈ s.messages, x.id ≠ m.id)
    {r : AgentRun} (hr : r ∈ s.runs) : m.id ≠ r.responseMessageId := by
  obtain ⟨reply, hreply, hid, -⟩ := h.reply r hr
  exact fun he ↦ hfresh reply hreply (hid.trans he.symm)

theorem QueuedEmpty.opened (h : QueuedEmpty s) (hlinked : Linked s) {messages : List Message}
    {response : Message} {run : AgentRun} (hopening : IsOpening messages response run)
    (ho : Opened messages run s t) : QueuedEmpty t := by
  intro r hr hqueued m hm hid
  rcases ho.mem_runs.mp hr with hr | rfl
  · rcases ho.mem_messages.mp hm with hm | hm
    · exact h r hr hqueued m hm hid
    · exact absurd hid (hlinked.ne_of_fresh (ho.freshMessages m hm) hr)
  · have hresponse : response ∈ t.messages := ho.mem_messages.mpr (.inr hopening.mem)
    obtain rfl := Table.eq_of_key_eq hm hresponse (hid.trans hopening.id_eq.symm)
    exact hopening.empty

/-- No write leaves a run queued, and it changes the reply of no other run. -/
theorem QueuedEmpty.wrote (h : QueuedEmpty s) (hlinked : Linked s) {w : RunWrite} {now : Datetime}
    {run : AgentRun} {response : Message} (hrun : run ∈ s.runs)
    (hresponse : response.id = run.responseMessageId) (hg : Guard w run.status) :
    QueuedEmpty (writeRun w now run response s) := by
  intro a ha hqueued m' hm' hid
  obtain ⟨r, hr, rfl⟩ := mem_writeRun_runs.mp ha
  obtain ⟨m, hm, rfl⟩ := mem_writeRun_messages.mp hm'
  by_cases hk : r.id = run.id
  · obtain rfl : r = run := Table.eq_of_key_eq hr hrun hk
    rw [if_pos rfl] at hqueued
    cases w with
    | delta text =>
      have hrunning : r.status = .running := hg
      have hsame : r.status = .queued := hqueued
      rw [hrunning] at hsame
      cases hsame
    | started => cases hqueued
    | completed usage suppressResponse => cases hqueued
    | failed code => cases hqueued
    | cancelled => cases hqueued
  · rw [if_neg hk] at hqueued hid
    have hkey : (if m.id = response.id then w.response now m else m).id = m.id := by
      split
      · exact (w.response now).key_eq m
      · rfl
    rw [hkey] at hid
    have hother : m.id ≠ response.id := fun he ↦ hk ((hlinked.same_pair hrun hresponse hr hid).mp he)
    rw [if_neg hother]
    exact h r hr hqueued m hm hid

theorem QueuedEmpty.change (h : QueuedEmpty s) (hlinked : Linked s) (hc : Change p s t) :
    QueuedEmpty t := by
  cases hc with
  | row => exact h
  | feedback => exact h
  | note c e =>
    intro run hrun hqueued m hm
    rw [emit_runs] at hrun
    rw [emit_messages] at hm
    exact h run hrun hqueued m hm
  | founded row userId t hseq hi =>
    obtain ⟨conversations, members, -, -, rfl⟩ := insertConversation_eq_ok hi
    exact h
  | copied item copy t hopens hitem hcopy hc hi =>
    obtain ⟨-, messages, hinsert, rfl⟩ := insertMessage_eq_ok hi
    intro run hrun hqueued m hm hid
    rw [emit_runs] at hrun
    rw [emit_messages] at hm
    rcases (Table.mem_insert? hinsert).mp hm with hm | rfl
    · exact h run hrun hqueued m hm hid
    · exact absurd hid (hlinked.ne_of_fresh (Table.insert?_eq_some hinsert).1 hrun)
  | opened messages response run t hopens hc hopening ho => exact h.opened hlinked hopening ho
  | wrote w now run response hrun hresponse hid hc hg hfails => exact h.wrote hlinked hrun hid hg

/-- Whatever has happened before, a run that is claimed has an empty reply. -/
theorem replyContent_started {as : List Action} {runId : UUID} {now : Datetime} {started : AgentRun}
    (h : markRunStarted runId now (run World.empty as).store = .ok (started, t)) :
    replyContent runId t = some "" := by
  let I := fun s ↦ Linked s ∧ QueuedEmpty s
  have hchange : ∀ s t, I s → Change {} s t → I t := fun s t hs hc ↦
    ⟨hs.1.change hc, hs.2.change hs.1 hc⟩
  have hempty : I World.empty.store :=
    ⟨Linked.empty, fun _ hrun ↦ absurd hrun (Table.not_mem_empty _)⟩
  obtain ⟨-, hqueued⟩ := Machine.run_invariant_all (I := fun w : World ↦ I w.store)
    (fun w a hw ↦ step_keeps_all hchange w a hw) hempty as
  obtain ⟨before, response, hwritten, -⟩ := markRunStarted_eq_ok h
  obtain ⟨-, hcontent⟩ := replyContent_of_written hwritten
  have hblank : response.content = "" :=
    hqueued before (Table.mem_of_find? hwritten.foundRun) hwritten.guard response
      (Table.mem_of_find? hwritten.foundResponse) (Table.key_of_find? hwritten.foundResponse)
  rw [hcontent, ← hblank]
  rfl

end queued

/-- Whatever the settings, the attempts before, the breakers and the store: where the last attempt
of a call reads the stream and the run is completed with its reply, the model has reported that the
response is complete, and the reply goes on with all text deltas of that attempt in their order.
After the claim of a queued run, whatever has happened before, these are the whole reply. -/
def CompletesReplies (sdk : SdkStream) : Prop :=
  ∀ (settings : ResilienceSettings) (surroundings : ℕ → Surroundings)
    (primary fallback : ModelRouteProfile) (routeProfiles : Option (List ModelRouteProfile))
    (routeMaxAttempts : Option ℕ) (guard : ModelReliabilityGuard) (identity : DevelopmentIdentity)
    (runId : UUID) (clock : ℕ → Datetime) (s : ConversationStore) (last : ModelAttempt)
    (writes : ℕ → Write) (base : Surroundings) (completed : AgentRun) (content : String),
    let run := streamWithResilience settings surroundings primary fallback routeProfiles
      routeMaxAttempts guard
    run.attempts.getLast? = some last →
    surroundings last.number = OpenAIResponsesProvider.surroundings sdk writes base →
    (executeReply identity runId clock s run).1.phase = .returned completed →
    completed.status = .completed → replyContent runId s = some content →
    HasCompleted sdk ∧
      replyContent runId (executeReply identity runId clock s run).2 =
        some (content ++ allDeltas sdk) ∧
      ∀ as now started, markRunStarted runId now (Conversations.run World.empty as).store =
          .ok (started, s) →
        replyContent runId (executeReply identity runId clock s run).2 = some (allDeltas sdk)

theorem CompletesReplies.hasCompleted {sdk : SdkStream} (h : CompletesReplies sdk)
    (hends : EndsByItself sdk) : HasCompleted sdk := by
  obtain ⟨⟨usage, hresult⟩, last, hlast⟩ := onlyAttempt_returns hends
  obtain ⟨completed, hreturned, hcompleted⟩ :=
    answering_ready.executeReply alice (fun _ ↦ 200) hresult
  exact (h _ _ _ _ _ _ _ alice 1003 (fun _ ↦ 200) answering last (fun _ ↦ .saved) _ completed ""
    hlast rfl hreturned hcompleted answering_content).1

/-- A stream completes replies rightly iff it does not end by itself without the event that reports
the response as complete. -/
theorem completesReplies_iff (sdk : SdkStream) :
    CompletesReplies sdk ↔ (EndsByItself sdk → HasCompleted sdk) := by
  constructor
  · exact CompletesReplies.hasCompleted
  · intro h settings surroundings primary fallback routeProfiles routeMaxAttempts guard identity
      runId clock s last writes base completed content run hlast hreads hreturned hcompleted hcontent
    obtain ⟨⟨usage, hresult⟩, hstored⟩ := executeReply_completed hreturned hcompleted
    obtain ⟨attempts, last', emission, provider, hattempts, hnone, hstream, hpersisted⟩ :=
      streamWithResilience_ok hresult
    obtain rfl : last' = last := by
      rw [hattempts, List.getLast?_append, List.getLast?_singleton] at hlast
      exact Option.some.inj hlast
    rw [hreads] at hstream
    obtain ⟨hends, hdeltas⟩ := surroundings_stream hstream
    have hreply : replyContent runId (executeReply identity runId clock s run).2 =
        some (content ++ allDeltas sdk) := by
      rw [hstored content hcontent, hattempts, List.flatMap_append, hnone, List.nil_append,
        List.flatMap_singleton, hpersisted, hdeltas]
    refine ⟨h hends, hreply, fun as now started hclaimed ↦ ?_⟩
    obtain rfl := Option.some.inj (hcontent.symm.trans (replyContent_started hclaimed))
    rw [hreply, String.empty_append]

/-- A stream that breaks off after half of a sentence. -/
theorem not_completesReplies : ¬∀ sdk : SdkStream, CompletesReplies sdk := by
  intro h
  obtain ⟨usage, husage⟩ := (h ⟨[.textDelta "Take two"], .ended, none⟩).hasCompleted
    ⟨rfl, by decide, by decide, rfl⟩
  simp at husage

end CyberNetizen.Conversations
