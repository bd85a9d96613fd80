import Mathlib.Algebra.Order.Group.MinMax
import Mathlib.Algebra.Order.Ring.Rat
import Mathlib.Data.List.Induction
import Mathlib.Tactic.Positivity
import CyberNetizen.Lib.Rounding
import CyberNetizen.Memory.RelationshipEvents

namespace CyberNetizen.Memory

open Domain Cognition Infrastructure Application KeyedTable SqlAlchemyMemoryRepository
  MemoryService DeterministicReflectionEngine

section rounding

variable {x y v : ℚ}

end rounding

section clamp

variable {v d : ℚ}

theorem clamp_mem (v : ℚ) : 0 ≤ clamp v ∧ clamp v ≤ 1 :=
  ⟨le_max_left _ _, max_le zero_le_one (min_le_left _ _)⟩

end clamp

/-- All three values lie between 0 and 1. -/
structure Bond.Valid (bond : Bond) : Prop where
  affinity : 0 ≤ bond.affinity ∧ bond.affinity ≤ 1
  trust : 0 ≤ bond.trust ∧ bond.trust ≤ 1
  familiarity : 0 ≤ bond.familiarity ∧ bond.familiarity ≤ 1

section deltas

variable {context : RelationshipContext} {signals : List RelationshipSignal}
  {policy : ReflectionPolicy} {decision : MemoryWriteDecision} {source : ReflectionSource}

end deltas

/-- The state of a scope; nothing stored counts as a stranger. -/
def bondAt (s : MemoryStore) (scope : Scope) : Bond :=
  ((s.relationships.find? scope).map bondOf).getD .zero

def Bond.moved (bond : Bond) (command : RelationshipCommand) : Bond where
  affinity := clamp (bond.affinity + command.affinityDelta)
  trust := clamp (bond.trust + command.trustDelta)
  familiarity := clamp (bond.familiarity + command.familiarityDelta)

/-- A plan computed from a relationship, and the call of `record_relationship_event` it is handed
to, with what the sessions of the call meet. -/
structure PlannedEvent where
  source : ReflectionSource
  context : RelationshipContext
  valid : context.valid = true
  policy : ReflectionPolicy
  command : RelationshipCommand
  carries : (command.affinityDelta, command.trustDelta, command.familiarityDelta) =
    ((reflect source context policy).affinityDelta, (reflect source context policy).trustDelta,
      (reflect source context policy).familiarityDelta)
  generatedId : UUID
  choices : List Choice

def plannedEvent (uuid5 : UUID → String → UUID) (execution : ReflectionTaskHandler.Execution)
    (source : ReflectionSource) (context : RelationshipContext) (valid : context.valid = true)
    (actorId : UUID) (memoryId : Option UUID) (choices : List Choice) : PlannedEvent where
  source
  context
  valid
  policy := execution.policy
  command := ReflectionTaskHandler.relationshipCommand uuid5 execution actorId context
    (reflect source context execution.policy) memoryId
  carries := rfl
  generatedId := 0
  choices

def recordEvent (uuid5 : UUID → String → UUID) (event : PlannedEvent) (s : MemoryStore) :
    RecordCall × MemoryStore :=
  event.choices.foldl (fun p choice ↦ record uuid5 p.1 choice p.2)
    (⟨event.command, event.generatedId, .getRelationship⟩, s)

section call

variable {uuid5 : UUID → String → UUID} {command : RelationshipCommand} {s s' : MemoryStore}
  {p : Pending} {scope : Scope}

structure Moves (command : RelationshipCommand) (s : MemoryStore) (p : Pending) : Prop where
  own : p.event.relationshipId = p.relationship.id
  scope : p.relationship.scope = command.scope
  bond : bondOf p.relationship = (bondAt s command.scope).moved command

def Effect (command : RelationshipCommand) (s s' : MemoryStore) : Prop :=
  s' = s ∨ ∃ p, Moves command s p ∧ Written s s' p.relationship p.event

/-- Where a call stands that began with the tables `s`. -/
def Underway (command : RelationshipCommand) (s : MemoryStore) (p : RecordCall × MemoryStore) :
    Prop :=
  p.1.command = command ∧
    match p.1.phase with
    | .getRelationship => p.2 = s
    | .findDuplicate pending | .reloadDuplicate pending | .writeEvent pending =>
      p.2 = s ∧ Moves command s pending
    | .reload _ | .returned _ | .raised _ => Effect command s p.2

theorem Underway.effect {q : RecordCall × MemoryStore} (h : Underway command s q) :
    Effect command s q.2 := by
  obtain ⟨-, hstate⟩ := h
  cases hphase : q.1.phase with
  | getRelationship =>
    rw [hphase] at hstate
    exact .inl hstate
  | findDuplicate | reloadDuplicate | writeEvent =>
    rw [hphase] at hstate
    exact .inl hstate.1
  | reload | returned | raised =>
    rw [hphase] at hstate
    exact hstate

theorem Effect.bondAt (h : Effect command s s') (scope : Scope) :
    bondAt s' scope = bondAt s scope ∨ bondAt s' scope = (bondAt s scope).moved command := by
  rcases h with rfl | ⟨p, hmoves, hwritten⟩
  · exact .inl rfl
  by_cases hscope : scope = command.scope
  · subst hscope
    obtain ⟨row, hrow, -, -, hbond⟩ := hwritten.state
    rw [hmoves.scope] at hrow
    refine .inr ?_
    rw [← hmoves.bond, ← hbond, Memory.bondAt, hrow]
    rfl
  · refine .inl ?_
    unfold Memory.bondAt
    rw [hwritten.others (hmoves.scope ▸ hscope)]

end call

section range

variable {uuid5 : UUID → String → UUID} {bond : Bond} (event : PlannedEvent)

def PlannedEvent.hostile : Prop :=
  RelationshipSignal.hostility ∈
    (reflect event.source event.context event.policy).relationshipSignals

end range

theorem publishedSteps_le :
    ∀ step ∈ [(2 / 100 : ℚ), 4 / 100, 15 / 1000], 0 ≤ step ∧ step ≤ 2 / 10 := by decide +kernel

def publishedSteps : ReflectionPolicy where
  positiveRelationshipStep := 2 / 100
  negativeRelationshipStep := 4 / 100
  familiarityStep := 15 / 1000
  steps := publishedSteps_le

def reflected (folded : String) (runId : UUID) (policy : ReflectionPolicy)
    (context : RelationshipContext) (valid : context.valid = true) : PlannedEvent :=
  plannedEvent (fun space _ ↦ space) ⟨1, 2, 3, runId, policy, .getRelationship⟩
    ⟨folded, .write⟩ context valid 3 none
    [⟨5, true, false⟩, ⟨6, true, false⟩, ⟨7, true, false⟩, ⟨8, true, false⟩]

def rejected : PlannedEvent :=
  reflected "go away" 11 publishedSteps ⟨396 / 10000, 0, 29775 / 1000000, 2, []⟩ (by decide +kernel)

end CyberNetizen.Memory
