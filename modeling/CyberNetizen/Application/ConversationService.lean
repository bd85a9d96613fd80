import CyberNetizen.Infrastructure.ConversationRepository

namespace CyberNetizen.Application.ConversationService

open Domain Infrastructure Infrastructure.ConversationRepository

def getConversation (identity : DevelopmentIdentity) (conversationId : UUID)
    (s : ConversationStore) : Option Conversation :=
  (s.conversations.find? conversationId).filter fun row ↦ row.agentId = identity.agentId &&
    row.deletedAt.isNone && (s.members.find? (conversationId, identity.userId)).isSome

def getConversationForRun (identity : DevelopmentIdentity) (runId : UUID)
    (s : ConversationStore) : Option Conversation :=
  (s.runs.find? runId).bind fun run ↦ getConversation identity run.conversationId s

/-- Where a call of the service stands: its next transaction is the one of its phase. -/
inductive Phase
  /-- `execute_run` is about to claim the run, of which it has a snapshot. -/
  | claiming (snapshot : AgentRun)
  | streaming
  /-- A delta was refused; the stream ends with that error. -/
  | broken
  /-- The run is completed and the reflection is being scheduled. -/
  | scheduling (run : AgentRun)
  | failing (errorCode : String)
  | cancelling
  /-- `fail_interrupted_run` before its check and before its write. -/
  | checking (conversationId : UUID)
  | interrupting
  /-- `cancel_run` before its check and before its write. -/
  | authorizing
  | revoking
  | returned (run : AgentRun)
  | raised
  deriving DecidableEq

structure Call where
  identity : DevelopmentIdentity
  runId : UUID
  /-- The call was made by `process`, which raises after it has closed an interrupted run. -/
  raises : Bool := false
  phase : Phase
  /-- The deltas that the call has stored. -/
  appended : String := ""
  deriving DecidableEq

/-- What the model, the configuration and the event loop do at an `await`. -/
inductive Choice
  | proceed
  | delta (text : String)
  | finish (usage : Option ModelUsage) (suppressResponse : Bool)
  | error (errorCode : String)
  | cancelled

def executeRun (identity : DevelopmentIdentity) (pending : PendingAgentRun)
    (resumeQueued : Bool) : Call where
  identity := identity
  runId := pending.run.id
  phase := if !pending.created && !(resumeQueued && pending.run.status = .queued) then
      .returned pending.run
    else .claiming pending.run

def failInterruptedRun (identity : DevelopmentIdentity) (pending : PendingAgentRun)
    (raises : Bool) : Call where
  identity := identity
  runId := pending.run.id
  raises := raises
  phase := if pending.run.status ≠ .running then .raised else .checking pending.conversation.id

def cancelRun (identity : DevelopmentIdentity) (runId : UUID) : Call where
  identity := identity
  runId := runId
  phase := .authorizing

/-- `process` once it has the pending run of its message. -/
def processPending (identity : DevelopmentIdentity) (pending : PendingAgentRun) : Call :=
  if !pending.created && pending.run.status = .running then
    failInterruptedRun identity pending true
  else if pending.run.status.isTerminal then
    { identity, runId := pending.run.id, phase := .returned pending.run }
  else executeRun identity pending (!pending.created)

def errorName : ConversationError → String
  | .conflict _ => "ConversationConflictError"
  | .runNotFound _ => "AgentRunNotFoundError"
  | .integrity => "IntegrityError"
  | .keyError => "KeyError"

variable (now : Datetime) (s : ConversationStore)

/-- One transaction of a call. -/
def advance (c : Call) (choice : Choice) : Call × ConversationStore :=
  match c.phase, choice with
  | .claiming snapshot, .proceed =>
    match markRunStarted c.runId now s with
    | .ok (_, t) => ({ c with phase := .streaming }, t)
    | .error (.conflict _) => ({ c with phase := .returned snapshot }, s)
    | .error _ => ({ c with phase := .raised }, s)
  | .streaming, .delta text =>
    match appendRunDelta c.runId now s text with
    | .ok (_, t) => ({ c with appended := c.appended ++ text }, t)
    | .error _ => ({ c with phase := .broken }, s)
  | .streaming, .finish usage suppressResponse =>
    match completeRun c.runId now s usage suppressResponse with
    | .ok (run, t) => ({ c with phase := .scheduling run }, t)
    | .error e => ({ c with phase := .failing (errorName e) }, s)
  | .streaming, .error errorCode => ({ c with phase := .failing errorCode }, s)
  | .streaming, .cancelled => ({ c with phase := .cancelling }, s)
  | .broken, .error errorCode => ({ c with phase := .failing errorCode }, s)
  | .broken, .cancelled => ({ c with phase := .cancelling }, s)
  | .scheduling _, .cancelled => ({ c with phase := .cancelling }, s)
  | .scheduling run, .proceed => ({ c with phase := .returned run }, s)
  | .failing errorCode, .proceed =>
    match failRun c.runId now s errorCode with
    | .ok (run, t) => ({ c with phase := .returned run }, t)
    | .error _ => ({ c with phase := .raised }, s)
  | .cancelling, .proceed =>
    match ConversationRepository.cancelRun c.runId now s c.identity.userId with
    | .ok (_, t) => ({ c with phase := .raised }, t)
    | .error _ => ({ c with phase := .raised }, s)
  | .checking conversationId, .proceed =>
    match getConversation c.identity conversationId s with
    | none => ({ c with phase := .raised }, s)
    | some _ => ({ c with phase := .interrupting }, s)
  | .interrupting, .proceed =>
    match failRun c.runId now s "InterruptedInboundRun" with
    | .ok (run, t) => ({ c with phase := if c.raises then .raised else .returned run }, t)
    | .error _ => ({ c with phase := .raised }, s)
  | .authorizing, .proceed =>
    match getConversationForRun c.identity c.runId s with
    | none => ({ c with phase := .raised }, s)
    | some _ => ({ c with phase := .revoking }, s)
  | .revoking, .proceed =>
    match ConversationRepository.cancelRun c.runId now s c.identity.userId with
    | .ok (run, t) => ({ c with phase := .returned run }, t)
    | .error _ => ({ c with phase := .raised }, s)
  | _, _ => (c, s)

end CyberNetizen.Application.ConversationService
