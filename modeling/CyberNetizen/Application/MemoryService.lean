import Mathlib.Algebra.Order.Field.Rat
import CyberNetizen.Application.TaskService
import CyberNetizen.Infrastructure.MemoryRepository

namespace CyberNetizen.Application.MemoryService

open Domain Infrastructure SqlAlchemyMemoryRepository

inductive MemoryError
  | validation (message : String)
  | notFound (message : String)
  | integrityError

def clamp (value : ℚ) : ℚ := max 0 (min 1 value)

def relationshipStage (trust familiarity : ℚ) : RelationshipStage :=
  if 75 / 100 ≤ trust ∧ 75 / 100 ≤ familiarity then .trusted
  else if 1 / 2 ≤ familiarity then .familiar
  else if 15 / 100 ≤ familiarity then .acquaintance
  else .stranger

def requiredText (value label : String) (maximum : ℕ) : Except MemoryError String :=
  let normalized := strip value
  if normalized.isEmpty then .error (.validation s!"{label}不能为空")
  else if maximum < normalized.length then
    .error (.validation s!"{label}不能超过 {maximum} 个字符")
  else .ok normalized

/-- The arguments of `record_relationship_event`. -/
structure RelationshipCommand where
  tenantId : UUID
  agentId : UUID
  userId : UUID
  eventType : String
  affinityDelta : ℚ
  trustDelta : ℚ
  familiarityDelta : ℚ
  summary : String
  boundaries : Option (List String)
  evidenceMemoryId : Option UUID
  actorId : UUID
  eventId : Option UUID

def RelationshipCommand.scope (command : RelationshipCommand) : Scope :=
  ⟨command.tenantId, command.agentId, command.userId⟩

def bounded (value : ℚ) (name : String) : Except MemoryError Unit :=
  if -1 ≤ value ∧ value ≤ 1 then .ok ()
  else .error (.validation s!"{name}必须位于 -1 到 1 之间")

/-- The checks made before anything is read: the event type and the summary to store. -/
def validate (command : RelationshipCommand) : Except MemoryError (String × String) := do
  bounded command.affinityDelta "亲和度变化"
  bounded command.trustDelta "信任度变化"
  bounded command.familiarityDelta "熟悉度变化"
  let normalizedType ← requiredText command.eventType "关系事件类型" 80
  let normalizedSummary ← requiredText command.summary "关系事件摘要" 1000
  return (normalizedType, normalizedSummary)

variable (uuid5 : UUID → String → UUID)

/-- `uuid5(agent_id, str(user_id))`. -/
def relationshipId (scope : Scope) : UUID := uuid5 scope.agentId (toString scope.userId)

/-- What an event is applied to when no relationship is stored. -/
def stranger (scope : Scope) (now : Datetime) : Relationship where
  id := relationshipId uuid5 scope
  tenantId := scope.tenantId
  agentId := scope.agentId
  userId := scope.userId
  stage := .stranger
  affinity := 0
  trust := 0
  familiarity := 0
  interactionCount := 0
  summary := "尚未形成稳定关系摘要。"
  boundaries := []
  version := 0
  createdAt := now
  updatedAt := now

/-- The relationship after the event. -/
def advanced (current : Relationship) (command : RelationshipCommand) (normalizedSummary : String)
    (boundaries : List String) (now : Datetime) : Relationship :=
  let affinity := clamp (current.affinity + command.affinityDelta)
  let trust := clamp (current.trust + command.trustDelta)
  let familiarity := clamp (current.familiarity + command.familiarityDelta)
  { current with
    stage := relationshipStage trust familiarity
    affinity
    trust
    familiarity
    interactionCount := current.interactionCount + 1
    summary := normalizedSummary
    boundaries
    version := current.version + 1
    updatedAt := now }

def boundariesOf (command : RelationshipCommand) (current : Relationship) :
    Except MemoryError (List String) :=
  match command.boundaries with
  | some boundaries => boundaries.mapM fun item ↦ requiredText item "关系边界" 300
  | none => .ok current.boundaries

/-- The arguments of `apply_relationship_event`, with the row they were computed from. -/
structure Pending where
  existing : Option Relationship
  relationship : Relationship
  event : RelationshipEvent

def relationshipEvent (command : RelationshipCommand) (normalizedType normalizedSummary : String)
    (generatedId : UUID) (now : Datetime) (relationship : Relationship) : RelationshipEvent where
  id := command.eventId.getD generatedId
  tenantId := command.tenantId
  relationshipId := relationship.id
  eventType := normalizedType
  affinityDelta := command.affinityDelta
  trustDelta := command.trustDelta
  familiarityDelta := command.familiarityDelta
  evidenceMemoryId := command.evidenceMemoryId
  summary := normalizedSummary
  createdBy := command.actorId
  createdAt := now

/-- Between the read and the write. `generatedId` is what `uuid4()` draws. -/
def prepare (command : RelationshipCommand) (normalizedType normalizedSummary : String)
    (generatedId : UUID) (now : Datetime) (existing : Option Relationship) :
    Except MemoryError Pending :=
  let current := existing.getD (stranger uuid5 command.scope now)
  match boundariesOf command current with
  | .error error => .error error
  | .ok boundaries =>
    let relationship := advanced current command normalizedSummary boundaries now
    let event :=
      relationshipEvent command normalizedType normalizedSummary generatedId now relationship
    .ok ⟨existing, relationship, event⟩

/-- Where a call of `record_relationship_event` stands: the session that comes next, with what the
call has read so far. -/
inductive Phase
  | getRelationship
  | findDuplicate (pending : Pending)
  | reloadDuplicate (pending : Pending)
  | writeEvent (pending : Pending)
  | reload (pending : Pending)
  | returned (detail : RelationshipDetail)
  | raised (error : MemoryError)

/-- One call of `record_relationship_event`. -/
structure RecordCall where
  command : RelationshipCommand
  generatedId : UUID
  phase : Phase

/-- What one session of a call meets: the time, whether the evidence memory is stored, and whether
the session is overtaken by another that commits the row first. -/
structure Choice where
  clock : Datetime
  evidenceStored : Bool := true
  raced : Bool := false

/-- The part of the call up to its first session. -/
def readRelationship (call : RecordCall) (choice : Choice) (s : MemoryStore) : Phase :=
  match validate call.command with
  | .error error => .raised error
  | .ok (normalizedType, normalizedSummary) =>
    match call.command.evidenceMemoryId, choice.evidenceStored with
    | some memoryId, false => .raised (.notFound s!"记忆不存在：{memoryId}")
    | _, _ =>
      let existing := (getRelationshipDetail call.command.scope s).map (·.relationship)
      match prepare uuid5 call.command normalizedType normalizedSummary call.generatedId
        choice.clock existing with
      | .error error => .raised error
      | .ok pending => .findDuplicate pending

/-- The next session of a call and what the call makes of the answer. -/
def record (call : RecordCall) (choice : Choice) (s : MemoryStore) : RecordCall × MemoryStore :=
  let goto := fun phase ↦ { call with phase }
  match call.phase with
  | .getRelationship => (goto (readRelationship uuid5 call choice s), s)
  | .findDuplicate pending =>
    match findDuplicate pending.event s with
    | some _ => (goto (.reloadDuplicate pending), s)
    | none => (goto (.writeEvent pending), s)
  | .reloadDuplicate pending =>
    match getRelationshipDetail pending.relationship.scope s with
    | some detail => (goto (.returned detail), s)
    | none => (goto (.writeEvent pending), s)
  | .writeEvent pending =>
    match writeEvent pending.relationship pending.event choice.raced s with
    | none => (goto (.raised .integrityError), s)
    | some s => (goto (.reload pending), s)
  | .reload pending =>
    let detail := (getRelationshipDetail pending.relationship.scope s).getD
      ⟨pending.relationship, [pending.event]⟩
    (goto (.returned detail), s)
  | .returned _ | .raised _ => (call, s)

end CyberNetizen.Application.MemoryService
