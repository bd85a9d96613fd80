import Mathlib.Data.List.Dedup
import CyberNetizen.Application.MemoryService
import CyberNetizen.Cognition.Reflection

namespace CyberNetizen.Application.ReflectionTaskHandler

open Domain Cognition Infrastructure SqlAlchemyMemoryRepository MemoryService

/-- The completed run a reflection is about, with the user message that triggered it. -/
structure AgentRun where
  tenantId : UUID
  agentId : UUID
  senderId : UUID
  text : ReflectionSource

def AgentRun.scope (run : AgentRun) : Scope := ⟨run.tenantId, run.agentId, run.senderId⟩

/-- Where a call of `handle` stands: what it does next, with what it has read so far. -/
inductive Phase
  | getRelationship
  | recordRelationshipEvent (context : RelationshipContext) (call : RecordCall)
  | closeEpisode
  | completed
  | raised

/-- One call of `handle`, with the configuration snapshot it resolves. -/
structure Execution where
  tenantId : UUID
  agentId : UUID
  userId : UUID
  runId : UUID
  policy : ReflectionPolicy
  phase : Phase

def Execution.scope (execution : Execution) : Scope :=
  ⟨execution.tenantId, execution.agentId, execution.userId⟩

def relationshipContext (current : Option Relationship) : RelationshipContext where
  affinity := (current.map (·.affinity)).getD 0
  trust := (current.map (·.trust)).getD 0
  familiarity := (current.map (·.familiarity)).getD 0
  interactionCount := (current.map (·.interactionCount)).getD 0
  boundaries := (current.map (·.boundaries)).getD []

/-- `dict.fromkeys`: the first of equal items stays. -/
def fromKeys (items : List String) : List String := items.reverse.dedup.reverse

@[simp] theorem mem_fromKeys {b : String} {items : List String} : b ∈ fromKeys items ↔ b ∈ items := by
  rw [fromKeys, List.mem_reverse, List.mem_dedup, List.mem_reverse]

/-- The boundaries handed on: those read earlier with the new ones, or none to leave them. -/
def boundariesArgument (context : RelationshipContext) (plan : ReflectionPlan) :
    Option (List String) :=
  if plan.boundaries.isEmpty then none
  else some (fromKeys (context.boundaries ++ plan.boundaries))

variable (uuid5 : UUID → String → UUID) (runs : UUID → Option AgentRun)

def getReflectionSource (execution : Execution) : Option AgentRun :=
  (runs execution.runId).filter fun run ↦ run.scope = execution.scope

/-- `uuid5(source.run.id, "reflection:relationship-event")`. -/
def relationshipEventId (runId : UUID) : UUID := uuid5 runId "reflection:relationship-event"

/-- The arguments for `record_relationship_event`; the actor is the sender of the message. -/
def relationshipCommand (execution : Execution) (actorId : UUID) (context : RelationshipContext)
    (plan : ReflectionPlan) (memoryId : Option UUID) : RelationshipCommand where
  tenantId := execution.tenantId
  agentId := execution.agentId
  userId := execution.userId
  eventType :=
    "conversation.reflected." ++ (plan.relationshipSignals.head?.map (·.value)).getD ""
  affinityDelta := plan.affinityDelta
  trustDelta := plan.trustDelta
  familiarityDelta := plan.familiarityDelta
  summary := plan.relationshipSummary
  boundaries := boundariesArgument context plan
  evidenceMemoryId := memoryId
  actorId
  eventId := some (relationshipEventId uuid5 execution.runId)

/-- The next step of an execution. `memoryId` is the memory stored from the plan, if any. -/
def handle (execution : Execution) (memoryId : Option UUID) (choice : Choice) (s : MemoryStore) :
    Execution × MemoryStore :=
  let goto := fun phase ↦ { execution with phase }
  match execution.phase with
  | .getRelationship =>
    match getReflectionSource runs execution with
    | none => (goto .raised, s)
    | some run =>
      let current := (getRelationshipDetail execution.scope s).map (·.relationship)
      let context := relationshipContext current
      if context.valid then
        let plan := DeterministicReflectionEngine.reflect run.text context execution.policy
        let command := relationshipCommand uuid5 execution run.senderId context plan memoryId
        (goto (.recordRelationshipEvent context ⟨command, 0, .getRelationship⟩), s)
      else (goto .raised, s)
  | .recordRelationshipEvent context call =>
    let (call, s) := record uuid5 call choice s
    match call.phase with
    | .returned _ => (goto .closeEpisode, s)
    | .raised _ => (goto .raised, s)
    | _ => (goto (.recordRelationshipEvent context call), s)
  | .closeEpisode => (goto .completed, s)
  | .completed | .raised => (execution, s)

end CyberNetizen.Application.ReflectionTaskHandler
