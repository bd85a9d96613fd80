import Mathlib.Data.List.Sort
import CyberNetizen.Lib.Table
import CyberNetizen.Lib.UnitOfWork
import CyberNetizen.Domain.Memory

namespace CyberNetizen.Infrastructure

open Domain KeyedTable UnitOfWork

inductive RelationshipMapper
  | relationshipEventModel
  | relationshipModel
  deriving DecidableEq

def RelationshipMapper.className : RelationshipMapper → String
  | .relationshipEventModel => "RelationshipEventModel"
  | .relationshipModel => "RelationshipModel"

/-- No `relationship()` joins these classes, so a flush takes them by the name of the class, the
event before the relationship that it belongs to. -/
def relationshipMappers : List RelationshipMapper := [.relationshipEventModel, .relationshipModel]

example : (relationshipMappers.map RelationshipMapper.className).Pairwise (· < ·) := by decide

/-- The relationship tables of the memory repository. The scope is unique,
`uq_relationships_scope`. -/
structure MemoryStore where
  relationships : Table Relationship.scope
  relationshipEvents : Table RelationshipEvent.id

namespace MemoryStore

def empty : MemoryStore := ⟨.empty, .empty⟩

/-- The primary key and `uq_relationships_scope`. -/
def insertRelationship (s : MemoryStore) (relationship : Relationship) : Option MemoryStore :=
  if s.relationships.rows.any (fun row ↦ row.id = relationship.id) then none
  else (s.relationships.insert? relationship).map fun relationships ↦ { s with relationships }

def insertEvent (s : MemoryStore) (event : RelationshipEvent) : Option MemoryStore :=
  if s.relationships.rows.all (fun row ↦ row.id ≠ event.relationshipId) then none
  else (s.relationshipEvents.insert? event).map fun relationshipEvents ↦
    { s with relationshipEvents }

variable {s s' : MemoryStore}

theorem insertRelationship_eq_none {relationship row : Relationship} (hrow : row ∈ s.relationships)
    (hid : row.id = relationship.id) : s.insertRelationship relationship = none := by
  unfold insertRelationship
  rw [if_pos]
  exact List.any_eq_true.mpr ⟨row, hrow, by simpa using hid⟩

theorem insertEvent_eq_some {event : RelationshipEvent} (h : s.insertEvent event = some s') :
    (∃ row ∈ s.relationships, row.id = event.relationshipId) ∧
      s'.relationships = s.relationships ∧
      s.relationshipEvents.insert? event = some s'.relationshipEvents := by
  unfold insertEvent at h
  split at h
  · exact absurd h (by simp)
  rename_i hroot
  obtain ⟨relationshipEvents, hinsert, rfl⟩ := Option.map_eq_some_iff.mp h
  simp only [List.all_eq_true, decide_eq_true_eq, not_forall, not_not] at hroot
  obtain ⟨row, hrow, he⟩ := hroot
  exact ⟨⟨row, hrow, he⟩, rfl, hinsert⟩

end MemoryStore

namespace SqlAlchemyMemoryRepository

/-- `ORDER BY created_at, id`. -/
def eventLe (a b : RelationshipEvent) : Bool :=
  a.createdAt < b.createdAt || (a.createdAt = b.createdAt && a.id ≤ b.id)

def eventsOf (s : MemoryStore) (relationship : Relationship) : List RelationshipEvent :=
  s.relationshipEvents.rows.filter fun row ↦
    row.tenantId = relationship.tenantId && row.relationshipId = relationship.id

def getRelationshipDetail (scope : Scope) (s : MemoryStore) : Option RelationshipDetail :=
  (s.relationships.find? scope).map fun row ↦ ⟨row, (eventsOf s row).mergeSort eventLe⟩

/-- The first session of `apply_relationship_event`. -/
def findDuplicate (event : RelationshipEvent) (s : MemoryStore) : Option RelationshipEvent :=
  s.relationshipEvents.find? event.id

/-- The columns the update writes: everything but the identity and the creation time. -/
def rewritten (relationship : Relationship) : Update Relationship.scope where
  toFun row :=
    { row with
      stage := relationship.stage
      affinity := relationship.affinity
      trust := relationship.trust
      familiarity := relationship.familiarity
      interactionCount := relationship.interactionCount
      summary := relationship.summary
      boundaries := relationship.boundaries
      version := relationship.version
      updatedAt := relationship.updatedAt }
  key_eq _ := rfl

def putRelationship (s : MemoryStore) (relationship : Relationship) : MemoryStore :=
  { s with
    relationships := s.relationships.updateWhere (fun row ↦ row.scope = relationship.scope)
      (rewritten relationship) }

def relationshipModel (relationship : Relationship) : Pending RelationshipMapper MemoryStore :=
  ⟨.relationshipModel, (·.insertRelationship relationship)⟩

def changedRelationship (relationship : Relationship) : Pending RelationshipMapper MemoryStore :=
  ⟨.relationshipModel, fun s ↦ some (putRelationship s relationship)⟩

def relationshipEventModel (event : RelationshipEvent) : Pending RelationshipMapper MemoryStore :=
  ⟨.relationshipEventModel, (·.insertEvent event)⟩

/-- The second session of `apply_relationship_event`, which locks the row; `none` is an integrity
error. `raced` says that the select ran before another transaction committed the row. -/
def writeEvent (relationship : Relationship) (event : RelationshipEvent) (raced : Bool)
    (s : MemoryStore) : Option MemoryStore :=
  let row :=
    if raced || (s.relationships.find? relationship.scope).isNone then
      relationshipModel relationship
    else changedRelationship relationship
  flush relationshipMappers [row, relationshipEventModel event] s

section write

variable {s s' : MemoryStore} {relationship : Relationship} {event : RelationshipEvent}
  {raced : Bool}

theorem writeEvent_changed (hraced : raced = false)
    (hfound : (s.relationships.find? relationship.scope).isSome) :
    writeEvent relationship event raced s =
      (s.insertEvent event).map (putRelationship · relationship) := by
  have hrow : ¬(raced || (s.relationships.find? relationship.scope).isNone) = true := by
    simp [hraced, Option.isSome_iff_ne_none.mp hfound]
  unfold writeEvent
  rw [if_neg hrow, Option.map_eq_bind]
  rfl

theorem writeEvent_refused (hid : event.relationshipId = relationship.id)
    (hnew : raced = true ∨ s.relationships.find? relationship.scope = none) :
    writeEvent relationship event raced s = none := by
  have hrow : (raced || (s.relationships.find? relationship.scope).isNone) = true := by
    rcases hnew with rfl | hnone
    · rfl
    · simp [hnone]
  unfold writeEvent
  rw [if_pos hrow]
  refine Option.bind_eq_none_iff.mpr fun t hevent ↦ ?_
  obtain ⟨⟨row, hmem, hroot⟩, hkept, -⟩ := MemoryStore.insertEvent_eq_some hevent
  refine Option.bind_eq_none_iff.mpr fun u hinsert ↦ ?_
  cases (MemoryStore.insertRelationship_eq_none (hkept ▸ hmem) (hroot.trans hid)).symm.trans hinsert

end write

end SqlAlchemyMemoryRepository

end CyberNetizen.Infrastructure
