import CyberNetizen.Application.ModelReliability

namespace CyberNetizen.Infrastructure

open Domain Application.ModelReliability

inductive ResponseStreamEvent
  | textDelta (delta : String)
  | completed (usage : Option ModelUsage)
  | failed
  | incomplete
  /-- An event of another type, one that reports an error for instance. -/
  | other (type : String)
  deriving DecidableEq

/-- How the iteration over the stream of the SDK ends after its events. -/
inductive SdkEnd
  | ended
  | raised
  /-- The timeout of the attempt cancels it. -/
  | timedOut
  deriving DecidableEq

/-- A stream of the SDK; where creating it fails there are no events. -/
structure SdkStream where
  events : List ResponseStreamEvent
  ending : SdkEnd := .ended
  /-- The error of closing the stream or the client. -/
  closing : Option Failure := none
  deriving DecidableEq

namespace OpenAIResponsesProvider

def runtimeError : Failure := ⟨"RuntimeError", false⟩

def endFailure : SdkEnd → Option Failure
  | .ended => none
  | .raised => some runtimeError
  | .timedOut => some ⟨"TimeoutError", true⟩

/-- The body of `async for event in stream`: what is yielded, and the error that it ends with. -/
def readResponse (ending : SdkEnd) :
    List ResponseStreamEvent → List ModelStreamEvent × Option Failure
  | [] => ([], endFailure ending)
  | event :: rest =>
    match event with
    | .textDelta delta =>
      let (events, failure) := readResponse ending rest
      ({ delta } :: events, failure)
    | .completed (some usage) =>
      let (events, failure) := readResponse ending rest
      ({ usage := some usage } :: events, failure)
    | .failed | .incomplete => ([], some runtimeError)
    | .completed none | .other _ => readResponse ending rest

def stream (sdk : SdkStream) : List ModelStreamEvent × Option Failure :=
  let (events, failure) := readResponse sdk.ending sdk.events
  (events, sdk.closing.or failure)

/-- The surroundings of an attempt whose provider reads the stream; the writes say how
`append_run_delta` would end for each event. -/
def surroundings (sdk : SdkStream) (writes : ℕ → Write) (s : Surroundings) : Surroundings :=
  { s with
    events := (stream sdk).1.zipIdx.map fun (event, i) ↦ (event, writes i)
    ending := (stream sdk).2 }

end OpenAIResponsesProvider

end CyberNetizen.Infrastructure
