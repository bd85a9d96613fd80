import Mathlib.Data.List.Dedup
import CyberNetizen.Memory.RelationshipRun

namespace CyberNetizen.Memory

open Domain Cognition Infrastructure Application KeyedTable SqlAlchemyMemoryRepository
  MemoryService ReflectionTaskHandler

/-- Boundaries as the service stores them: trimmed, not empty and not too long. -/
def Clean (boundaries : List String) : Prop :=
  ∀ b ∈ boundaries, requiredText b "关系边界" 300 = .ok b

def eventIdOf (call : RecordCall) : UUID := call.command.eventId.getD call.generatedId

def Stored (s : MemoryStore) (eventId : UUID) : Prop :=
  ∃ event ∈ s.relationshipEvents, event.id = eventId

def Holds (s : MemoryStore) (scope : Scope) (boundaries : List String) : Prop :=
  ∀ b ∈ boundaries, ∃ row, s.relationships.find? scope = some row ∧ b ∈ row.boundaries

def readBoundaries (p : Pending) : List String := (p.existing.map (·.boundaries)).getD []

variable (uuid5 : UUID → String → UUID) (runs : UUID → Option ReflectionTaskHandler.AgentRun)

def statedBoundaries (runId : UUID) : List String :=
  ((runs runId).map fun run ↦ DeterministicReflectionEngine.boundaries run.text.folded).getD []

/-- The boundaries that a reflection writes: those on the row it read them from with those its
message states. -/
def gatheredBy (execution : Execution) (p : Pending) : List String :=
  match execution.phase with
  | .recordRelationshipEvent context _ =>
    if (statedBoundaries runs execution.runId).isEmpty then readBoundaries p
    else context.boundaries ++ statedBoundaries runs execution.runId
  | _ => readBoundaries p

def gatheredBoundaries (s : RelationshipState) (a : RelationshipAction) (p : Pending) :
    List String :=
  match a with
  | .stepReflection i _ _ =>
    ((s.reflections[i]?).map fun execution ↦ gatheredBy runs execution p).getD []
  | _ => readBoundaries p

/-- No boundary was added to the row between the read that a write goes by and the write itself,
but for those its own message states. -/
def Gathered (s : RelationshipState) (a : RelationshipAction) : Prop :=
  ∀ p ∈ s.writing a, a.raced = false → findDuplicate p.event s.store = none →
    ∀ row ∈ s.store.relationships.find? p.relationship.scope,
      ∀ b ∈ row.boundaries, b ∈ gatheredBoundaries runs s a p

instance (s : RelationshipState) (a : RelationshipAction) : Decidable (Gathered runs s a) :=
  inferInstanceAs (Decidable (∀ p ∈ s.writing a, _))

def Unreplaced : RelationshipAction → Prop
  | .record command generatedId => command.boundaries = none ∧
    ∀ runId, command.eventId.getD generatedId ≠ relationshipEventId uuid5 runId
  | _ => True

structure CallKept (s : MemoryStore) (call : RecordCall) : Prop where
  event : ∀ p, pendingOf call = some p → p.event.id = eventIdOf call
  own : ∀ p, pendingOf call = some p → p.event.relationshipId = p.relationship.id
  scope : ∀ p, pendingOf call = some p → p.relationship.scope = call.command.scope
  read : ∀ p, pendingOf call = some p → Clean (readBoundaries p)
  copied : ∀ p, pendingOf call = some p → call.command.boundaries = none →
    p.relationship.boundaries = readBoundaries p
  named : ∀ p, pendingOf call = some p → ∀ boundaries, call.command.boundaries = some boundaries →
    boundaries.mapM (fun item ↦ requiredText item "关系边界" 300) = .ok p.relationship.boundaries
  stored :
    (∃ p, call.phase = .reloadDuplicate p ∨ call.phase = .reload p) ∨
      (∃ detail, call.phase = .returned detail) → Stored s (eventIdOf call)

def ExecutionKept (s : MemoryStore) (execution : Execution) : Prop :=
  match execution.phase with
  | .recordRelationshipEvent context call =>
    Clean context.boundaries ∧ ∃ run memoryId, getReflectionSource runs execution = some run ∧
      call.command = relationshipCommand uuid5 execution run.senderId context
        (DeterministicReflectionEngine.reflect run.text context execution.policy) memoryId
  | .closeEpisode | .completed =>
    (getReflectionSource runs execution).isSome ∧
      Stored s (relationshipEventId uuid5 execution.runId)
  | .getRelationship | .raised => True

/-- The row of a user has the boundaries that the reflections on its runs have written. -/
structure BoundariesStored (s : MemoryStore) : Prop where
  clean : ∀ row ∈ s.relationships, Clean row.boundaries
  events : ∀ runId run, runs runId = some run → Stored s (relationshipEventId uuid5 runId) →
    Holds s run.scope (statedBoundaries runs runId)

structure BoundariesKept (s : RelationshipState) : Prop extends
    BoundariesStored uuid5 runs s.store where
  calls : ∀ call ∈ s.calls, CallKept s.store call
  records : ∀ call ∈ s.records, call.command.boundaries = none ∧
    ∀ runId, eventIdOf call ≠ relationshipEventId uuid5 runId
  reflections : ∀ execution ∈ s.reflections, ExecutionKept uuid5 runs s.store execution

variable {uuid5 runs} {s s' : MemoryStore}

section call

theorem mapM_clean {boundaries : List String} (h : Clean boundaries) :
    boundaries.mapM (fun item ↦ requiredText item "关系边界" 300) = .ok boundaries := by
  induction boundaries with
  | nil => rfl
  | cons b boundaries ih =>
    rw [List.mapM_cons, h b (List.mem_cons_self ..),
      ih fun x hx ↦ h x (List.mem_cons_of_mem b hx)]
    rfl

theorem clean_stated (folded : String) :
    Clean (DeterministicReflectionEngine.boundaries folded) := by
  unfold DeterministicReflectionEngine.boundaries
  intro b hb
  rcases List.mem_append.mp hb with hb | hb
  · split at hb
    · obtain rfl := List.mem_singleton.mp hb
      rfl
    · exact absurd hb List.not_mem_nil
  · split at hb
    · obtain rfl := List.mem_singleton.mp hb
      rfl
    · exact absurd hb List.not_mem_nil

theorem Stored.written {relationship : Relationship} {event : RelationshipEvent} {eventId : UUID}
    (h : Stored s eventId) (hw : Written s s' relationship event) : Stored s' eventId := by
  obtain ⟨e, he, hid⟩ := h
  exact ⟨e, (Table.mem_insert? hw.events).mpr (.inl he), hid⟩

theorem Stored.new {relationship : Relationship} {event : RelationshipEvent}
    (hw : Written s s' relationship event) : Stored s' event.id :=
  ⟨event, (Table.mem_insert? hw.events).mpr (.inr rfl), rfl⟩

theorem CallKept.mono {call : RecordCall} (h : CallKept s call)
    (hs : ∀ eventId, Stored s eventId → Stored s' eventId) : CallKept s' call :=
  { h with stored := fun hphase ↦ hs _ (h.stored hphase) }

theorem record_command (call : RecordCall) (choice : Choice) :
    (record uuid5 call choice s).1.command = call.command ∧
      eventIdOf (record uuid5 call choice s).1 = eventIdOf call := by
  unfold record
  split
  · exact ⟨rfl, rfl⟩
  · dsimp only
    split <;> exact ⟨rfl, rfl⟩
  · dsimp only
    split <;> exact ⟨rfl, rfl⟩
  · dsimp only
    split <;> exact ⟨rfl, rfl⟩
  · exact ⟨rfl, rfl⟩
  · exact ⟨rfl, rfl⟩
  · exact ⟨rfl, rfl⟩

theorem prepare_eq_ok {command : RelationshipCommand} {normalizedType normalizedSummary : String}
    {generatedId : UUID} {now : Datetime} {p : Pending}
    (h : prepare uuid5 command normalizedType normalizedSummary generatedId now
      (s.relationships.find? command.scope) = .ok p) :
    p.existing = s.relationships.find? command.scope ∧
      p.event.id = command.eventId.getD generatedId ∧
      p.event.relationshipId = p.relationship.id ∧ p.relationship.scope = command.scope ∧
      boundariesOf command (p.existing.getD (stranger uuid5 command.scope now)) =
        .ok p.relationship.boundaries := by
  unfold prepare at h
  dsimp only at h
  split at h
  · exact absurd h (by simp)
  rename_i boundaries hboundaries
  obtain rfl := Except.ok.inj h
  refine ⟨rfl, rfl, rfl, ?_, hboundaries⟩
  cases hfind : s.relationships.find? command.scope with
  | none => rfl
  | some row => exact (Table.key_of_find? hfind : row.scope = command.scope)

theorem readBoundaries_eq (p : Pending) (scope : Scope) (now : Datetime) :
    (p.existing.getD (stranger uuid5 scope now)).boundaries = readBoundaries p := by
  unfold readBoundaries
  cases p.existing <;> rfl

/-- A call that looks its event up again, or has returned, has it stored. -/
theorem record_stored {call : RecordCall} (choice : Choice) (h : CallKept s call)
    (hphase : (∃ p, (record uuid5 call choice s).1.phase = .reloadDuplicate p ∨
        (record uuid5 call choice s).1.phase = .reload p) ∨
      ∃ detail, (record uuid5 call choice s).1.phase = .returned detail) :
    Stored (record uuid5 call choice s).2 (eventIdOf call) := by
  unfold record at hphase ⊢
  cases hcall : call.phase with
  | getRelationship =>
    rw [hcall] at hphase
    dsimp only [readRelationship] at hphase
    split at hphase
    · exact absurd hphase (by simp)
    split at hphase
    · exact absurd hphase (by simp)
    split at hphase
    · exact absurd hphase (by simp)
    · exact absurd hphase (by simp)
  | findDuplicate pending =>
    rw [hcall] at hphase
    dsimp only at hphase ⊢
    cases hfind : SqlAlchemyMemoryRepository.findDuplicate pending.event s with
    | none =>
      rw [hfind] at hphase
      exact absurd hphase (by simp)
    | some duplicate =>
      refine ⟨duplicate, Table.mem_of_find? hfind, ?_⟩
      rw [← h.event pending (by rw [pendingOf, hcall])]
      exact Table.key_of_find? hfind
  | reloadDuplicate pending =>
    have hstored := h.stored (.inl ⟨pending, .inl hcall⟩)
    dsimp only
    split <;> exact hstored
  | writeEvent pending =>
    rw [hcall] at hphase
    dsimp only at hphase ⊢
    cases hwrite : SqlAlchemyMemoryRepository.writeEvent pending.relationship pending.event
        choice.raced s with
    | none =>
      rw [hwrite] at hphase
      exact absurd hphase (by simp)
    | some t =>
      have hpending : pendingOf call = some pending := by rw [pendingOf, hcall]
      rw [← h.event pending hpending]
      exact .new (writeEvent_written (h.own pending hpending) hwrite).2
  | reload pending => exact h.stored (.inl ⟨pending, .inr hcall⟩)
  | returned detail => exact h.stored (.inr ⟨detail, hcall⟩)
  | raised error =>
    rw [hcall] at hphase
    dsimp only at hphase
    rw [hcall] at hphase
    exact absurd hphase (by simp)

theorem record_kept {call : RecordCall} (choice : Choice)
    (hclean : ∀ row ∈ s.relationships, Clean row.boundaries) (h : CallKept s call) :
    CallKept (record uuid5 call choice s).2 (record uuid5 call choice s).1 := by
  obtain ⟨hcommand, hid⟩ : (record uuid5 call choice s).1.command = call.command ∧
      eventIdOf (record uuid5 call choice s).1 = eventIdOf call := record_command call choice
  -- what is about to be applied was so before or has just been prepared
  have hpending : ∀ p, pendingOf (record uuid5 call choice s).1 = some p →
      pendingOf call = some p ∨ (p.existing = s.relationships.find? call.command.scope ∧
        p.event.id = eventIdOf call ∧ p.event.relationshipId = p.relationship.id ∧
        p.relationship.scope = call.command.scope ∧
        boundariesOf call.command
          (p.existing.getD (stranger uuid5 call.command.scope choice.clock)) =
            .ok p.relationship.boundaries) := by
    intro p hp
    rcases pendingOf_record hp with hp | ⟨_, _, hprepare⟩
    · exact .inl hp
    · exact .inr (prepare_eq_ok hprepare)
  refine ⟨fun p hp ↦ ?_, fun p hp ↦ ?_, fun p hp ↦ ?_, fun p hp ↦ ?_, fun p hp hnone ↦ ?_,
    fun p hp boundaries hsome ↦ ?_, fun hphase ↦ ?_⟩
  · rw [hid]
    rcases hpending p hp with hp | ⟨-, he, -, -⟩
    · exact h.event p hp
    · exact he
  · rcases hpending p hp with hp | ⟨-, -, hown, -⟩
    · exact h.own p hp
    · exact hown
  · rw [hcommand]
    rcases hpending p hp with hp | ⟨-, -, -, hscope, -⟩
    · exact h.scope p hp
    · exact hscope
  · rcases hpending p hp with hp | ⟨hexisting, -⟩
    · exact h.read p hp
    · unfold readBoundaries
      rw [hexisting]
      cases hfind : s.relationships.find? call.command.scope with
      | none => exact fun b hb ↦ absurd hb List.not_mem_nil
      | some row => exact hclean row (Table.mem_of_find? hfind)
  · rw [hcommand] at hnone
    rcases hpending p hp with hp | ⟨-, -, -, -, hboundaries⟩
    · exact h.copied p hp hnone
    · rw [boundariesOf, hnone, readBoundaries_eq] at hboundaries
      exact (Except.ok.inj hboundaries).symm
  · rw [hcommand] at hsome
    rcases hpending p hp with hp | ⟨-, -, -, -, hboundaries⟩
    · exact h.named p hp boundaries hsome
    · rwa [boundariesOf, hsome] at hboundaries
  · rw [hid]
    exact record_stored choice h hphase

end call

section run

variable {state : RelationshipState}

theorem getReflectionSource_eq_some {execution : Execution} {run : ReflectionTaskHandler.AgentRun}
    (h : getReflectionSource runs execution = some run) :
    runs execution.runId = some run ∧ run.scope = execution.scope := by
  obtain ⟨hrun, hscope⟩ := Option.filter_eq_some_iff.mp h
  exact ⟨hrun, by simpa using hscope⟩

theorem statedBoundaries_eq {runId : UUID} {run : ReflectionTaskHandler.AgentRun}
    (h : runs runId = some run) :
    statedBoundaries runs runId = DeterministicReflectionEngine.boundaries run.text.folded := by
  rw [statedBoundaries, h]
  rfl

/-- What a reflection is about to write. -/
theorem execution_gathered {execution : Execution} {call : RecordCall} {p : Pending}
    (hk : ExecutionKept uuid5 runs s execution) (hcall : callOf execution = some call)
    (hc : CallKept s call) (hp : pendingOf call = some p) :
    (∀ b, b ∈ p.relationship.boundaries ↔ b ∈ gatheredBy runs execution p) ∧
      Clean p.relationship.boundaries ∧
      p.event.id = relationshipEventId uuid5 execution.runId ∧
      (∀ run, runs execution.runId = some run → p.relationship.scope = run.scope) ∧
      ∀ b ∈ statedBoundaries runs execution.runId, b ∈ p.relationship.boundaries := by
  unfold callOf at hcall
  unfold ExecutionKept at hk
  split at hcall
  · rename_i context old hphase
    obtain rfl := Option.some.inj hcall
    rw [hphase] at hk
    unfold gatheredBy
    rw [hphase]
    obtain ⟨hcontext, run, memoryId, hrun, hcommand⟩ := hk
    obtain ⟨hrun, hscope⟩ := getReflectionSource_eq_some hrun
    have hevent : p.event.id = relationshipEventId uuid5 execution.runId := by
      rw [hc.event p hp, eventIdOf, hcommand]
      rfl
    have hscope' : ∀ run', runs execution.runId = some run' → p.relationship.scope = run'.scope := by
      intro run' hrun'
      obtain rfl := Option.some.inj (hrun.symm.trans hrun')
      rw [hc.scope p hp, hcommand, hscope]
      rfl
    have hargument : old.command.boundaries =
        if (statedBoundaries runs execution.runId).isEmpty then none
        else some (fromKeys (context.boundaries ++ statedBoundaries runs execution.runId)) := by
      rw [hcommand, statedBoundaries_eq hrun]
      rfl
    dsimp only
    split at hargument
    · rename_i hempty
      rw [if_pos hempty]
      have hcopied := hc.copied p hp hargument
      refine ⟨fun b ↦ by rw [hcopied], hcopied ▸ hc.read p hp, hevent, hscope', fun b hb ↦ ?_⟩
      rw [List.isEmpty_iff.mp hempty] at hb
      exact absurd hb List.not_mem_nil
    · rename_i hempty
      rw [if_neg hempty]
      have hclean : Clean (fromKeys
          (context.boundaries ++ statedBoundaries runs execution.runId)) := by
        intro b hb
        rcases List.mem_append.mp (mem_fromKeys.mp hb) with hb | hb
        · exact hcontext b hb
        · rw [statedBoundaries_eq hrun] at hb
          exact clean_stated _ b hb
      have hnamed := hc.named p hp _ hargument
      rw [mapM_clean hclean] at hnamed
      rw [← Except.ok.inj hnamed]
      exact ⟨fun b ↦ mem_fromKeys, hclean, hevent, hscope',
        fun b hb ↦ mem_fromKeys.mpr (List.mem_append_right _ hb)⟩
  · exact absurd hcall (by simp)

/-- What an action is about to write. -/
theorem writing_gathered (hinj : Function.Injective (relationshipEventId uuid5))
    (h : BoundariesKept uuid5 runs state) {a : RelationshipAction} {p : Pending}
    (hwriting : state.writing a = some p) :
    (∀ b, b ∈ p.relationship.boundaries ↔ b ∈ gatheredBoundaries runs state a p) ∧
      Clean p.relationship.boundaries ∧
      ∀ runId run, runs runId = some run → p.event.id = relationshipEventId uuid5 runId →
        p.relationship.scope = run.scope ∧
          ∀ b ∈ statedBoundaries runs runId, b ∈ p.relationship.boundaries := by
  obtain ⟨call, hcall, hp⟩ := Option.bind_eq_some_iff.mp hwriting
  have hp := pendingOf_eq_of_writingOf hp
  have hc := h.calls call (advancing_mem hcall)
  cases a with
  | record | reflect => exact absurd hcall (by simp [RelationshipState.advancing])
  | stepRecord i choice =>
    obtain ⟨hnone, hid⟩ := h.records call (List.mem_of_getElem? hcall)
    have hcopied := hc.copied p hp hnone
    refine ⟨fun b ↦ by rw [hcopied]; rfl, hcopied ▸ hc.read p hp, fun runId _ _ he ↦ ?_⟩
    exact absurd ((hc.event p hp).symm.trans he) (hid runId)
  | stepReflection i memoryId choice =>
    obtain ⟨execution, hi, hcallOf⟩ := Option.bind_eq_some_iff.mp hcall
    obtain ⟨hgathered, hclean, hevent, hscope, hstated⟩ :=
      execution_gathered (h.reflections execution (List.mem_of_getElem? hi)) hcallOf hc hp
    refine ⟨fun b ↦ ?_, hclean, fun runId run hrun he ↦ ?_⟩
    · rw [hgathered, gatheredBoundaries, hi]
      rfl
    · obtain rfl := hinj (hevent.symm.trans he)
      exact ⟨hscope run hrun, hstated⟩

theorem BoundariesKept.own (h : BoundariesKept uuid5 runs state) {a : RelationshipAction}
    {p : Pending} (hwriting : state.writing a = some p) :
    p.event.relationshipId = p.relationship.id := by
  obtain ⟨call, hcall, hp⟩ := Option.bind_eq_some_iff.mp hwriting
  exact (h.calls call (advancing_mem hcall)).own p (pendingOf_eq_of_writingOf hp)

theorem step_stored (hkept : BoundariesKept uuid5 runs state) {a : RelationshipAction}
    {eventId : UUID} (h : Stored state.store eventId) :
    Stored (relationshipStep uuid5 runs state a).2.store eventId := by
  rcases relationshipStep_write uuid5 runs state a with hsame | ⟨p, hwriting, hwrite⟩
  · rwa [hsame]
  · exact h.written (writeEvent_written (hkept.own hwriting) hwrite).2

theorem write_holds {a : RelationshipAction} {p : Pending}
    (hgathered : ∀ b, b ∈ p.relationship.boundaries ↔ b ∈ gatheredBoundaries runs state a p)
    (hcondition : Gathered runs state a) (hwriting : state.writing a = some p)
    (hraced : a.raced = false) (hwritten : Written state.store s' p.relationship p.event)
    {scope : Scope} {boundaries : List String} (h : Holds state.store scope boundaries) :
    Holds s' scope boundaries := by
  intro b hb
  obtain ⟨row, hrow, hmem⟩ := h b hb
  by_cases hscope : scope = p.relationship.scope
  · subst hscope
    have hnew := Table.find?_eq_none.mpr (Table.insert?_eq_some hwritten.events).1
    have hkept := (hgathered b).mpr (hcondition p hwriting hraced hnew row hrow b hmem)
    obtain ⟨old, -, hrow'⟩ := hwritten.find?
    exact ⟨_, hrow', hkept⟩
  · exact ⟨row, (hwritten.others hscope).trans hrow, hmem⟩

theorem handle_kept {execution : Execution} {memoryId : Option UUID} {choice : Choice}
    (hclean : ∀ row ∈ s.relationships, Clean row.boundaries)
    (hcalls : ∀ call, callOf execution = some call → CallKept s call)
    (h : ExecutionKept uuid5 runs s execution) :
    ExecutionKept uuid5 runs (handle uuid5 runs execution memoryId choice s).2
      (handle uuid5 runs execution memoryId choice s).1 := by
  unfold handle
  cases hphase : execution.phase with
  | getRelationship =>
    dsimp only
    cases hrun : getReflectionSource runs execution with
    | none => trivial
    | some run =>
      dsimp only
      split
      · refine ⟨?_, run, memoryId, hrun, rfl⟩
        unfold relationshipContext
        cases hfind : s.relationships.find? execution.scope with
        | none =>
          rw [getRelationshipDetail, hfind]
          exact fun b hb ↦ absurd hb List.not_mem_nil
        | some row =>
          rw [getRelationshipDetail, hfind]
          exact hclean row (Table.mem_of_find? hfind)
      · trivial
  | recordRelationshipEvent context call =>
    unfold ExecutionKept at h
    rw [hphase] at h
    obtain ⟨hcontext, run, memoryId', hrun, hcommand⟩ := h
    have hkept := hcalls call (by rw [callOf, hphase])
    dsimp only
    split
    · rename_i detail hreturned
      have hstored : Stored (record uuid5 call choice s).2 (eventIdOf call) :=
        record_stored choice hkept (.inr ⟨detail, hreturned⟩)
      rw [eventIdOf, hcommand] at hstored
      exact ⟨Option.isSome_iff_exists.mpr ⟨run, hrun⟩, hstored⟩
    · trivial
    · exact ⟨hcontext, run, memoryId', hrun, (record_command call choice).1.trans hcommand⟩
  | closeEpisode =>
    unfold ExecutionKept at h
    rw [hphase] at h
    exact h
  | completed => exact h
  | raised => exact h

theorem ExecutionKept.mono {execution : Execution} (h : ExecutionKept uuid5 runs s execution)
    (hs : ∀ eventId, Stored s eventId → Stored s' eventId) :
    ExecutionKept uuid5 runs s' execution := by
  unfold ExecutionKept at h ⊢
  split at h
  · exact h
  · exact ⟨h.1, hs _ h.2⟩
  · exact ⟨h.1, hs _ h.2⟩
  · exact h
  · exact h

theorem Written.clean {p : Pending} (hw : Written s s' p.relationship p.event)
    (h : ∀ row ∈ s.relationships, Clean row.boundaries) (hp : Clean p.relationship.boundaries) :
    ∀ row ∈ s'.relationships, Clean row.boundaries := by
  intro row hrow
  obtain ⟨old, -, hupdate⟩ := hw.row
  rw [hupdate] at hrow
  obtain ⟨r, hr, rfl⟩ := Table.mem_updateWhere.mp hrow
  split
  · exact hp
  · exact h r hr

theorem CallKept.new {call : RecordCall} (h : call.phase = .getRelationship) : CallKept s call := by
  have hnone : ∀ p, pendingOf call ≠ some p := fun p hp ↦ by
    rw [pendingOf, h] at hp
    exact absurd hp (by simp)
  exact ⟨fun p hp ↦ absurd hp (hnone p), fun p hp ↦ absurd hp (hnone p),
    fun p hp ↦ absurd hp (hnone p), fun p hp ↦ absurd hp (hnone p), fun p hp ↦ absurd hp (hnone p),
    fun p hp ↦ absurd hp (hnone p), fun hphase ↦ by rw [h] at hphase; exact absurd hphase (by simp)⟩

variable (uuid5 runs) in
/-- The plain calls after an action, each with the command it began with. -/
theorem mem_records (a : RelationshipAction) {call : RecordCall}
    (h : call ∈ (relationshipStep uuid5 runs state a).2.records) :
    (∃ old ∈ state.records, call.command = old.command ∧ eventIdOf call = eventIdOf old) ∨
      ∃ command generatedId, a = .record command generatedId ∧
        call = ⟨command, generatedId, .getRelationship⟩ := by
  unfold relationshipStep at h
  cases a with
  | record command generatedId =>
    rcases List.mem_append.mp h with h | h
    · exact .inl ⟨call, h, rfl, rfl⟩
    · exact .inr ⟨command, generatedId, rfl, List.mem_singleton.mp h⟩
  | reflect => exact .inl ⟨call, h, rfl, rfl⟩
  | stepRecord i choice =>
    dsimp only at h
    split at h
    · exact .inl ⟨call, h, rfl, rfl⟩
    · rename_i old hi
      rcases List.mem_or_eq_of_mem_set h with h | rfl
      · exact .inl ⟨call, h, rfl, rfl⟩
      · exact .inl ⟨old, List.mem_of_getElem? hi, record_command old choice⟩
  | stepReflection i memoryId choice =>
    dsimp only at h
    split at h <;> exact .inl ⟨call, h, rfl, rfl⟩

theorem calls_kept (h : BoundariesKept uuid5 runs state) (a : RelationshipAction) :
    ∀ call ∈ (relationshipStep uuid5 runs state a).2.calls,
      CallKept (relationshipStep uuid5 runs state a).2.store call := by
  intro call hcall
  rcases mem_calls a hcall with hcall | hnew | ⟨old, hold, choice, rfl, hstore⟩
  · exact (h.calls call hcall).mono fun _ ↦ step_stored h
  · exact .new hnew
  · rw [hstore]
    exact record_kept choice h.clean (h.calls old hold)

theorem reflections_kept (h : BoundariesKept uuid5 runs state) (a : RelationshipAction) :
    ∀ execution ∈ (relationshipStep uuid5 runs state a).2.reflections,
      ExecutionKept uuid5 runs (relationshipStep uuid5 runs state a).2.store execution := by
  have hmono : ∀ execution ∈ state.reflections,
      ExecutionKept uuid5 runs (relationshipStep uuid5 runs state a).2.store execution :=
    fun execution he ↦ (h.reflections execution he).mono fun _ ↦ step_stored h
  intro execution he
  cases a with
  | record command generatedId => exact hmono execution he
  | reflect tenantId agentId userId runId policy =>
    rcases List.mem_append.mp he with he | he
    · exact hmono execution he
    · obtain rfl := List.mem_singleton.mp he
      trivial
  | stepRecord i choice =>
    refine hmono execution ?_
    unfold relationshipStep at he
    dsimp only at he
    split at he <;> exact he
  | stepReflection i memoryId choice =>
    unfold relationshipStep at he hmono ⊢
    dsimp only at he hmono ⊢
    cases hi : state.reflections[i]? with
    | none =>
      rw [hi] at he hmono
      exact hmono execution he
    | some old =>
      rw [hi] at he hmono
      have hold := List.mem_of_getElem? hi
      rcases List.mem_or_eq_of_mem_set he with he | rfl
      · exact hmono execution he
      · exact handle_kept h.clean (fun call hcall ↦ h.calls call (List.mem_append_right _
          (List.mem_filterMap.mpr ⟨old, hold, hcall⟩))) (h.reflections old hold)

theorem relationshipStep_boundariesKept
    (hinj : Function.Injective (relationshipEventId uuid5)) {a : RelationshipAction}
    (h : BoundariesKept uuid5 runs state) (hunreplaced : Unreplaced uuid5 a)
    (hgathered : Gathered runs state a) :
    BoundariesKept uuid5 runs (relationshipStep uuid5 runs state a).2 := by
  have hrecords : ∀ call ∈ (relationshipStep uuid5 runs state a).2.records,
      call.command.boundaries = none ∧
        ∀ runId, eventIdOf call ≠ relationshipEventId uuid5 runId := by
    intro call hcall
    rcases mem_records uuid5 runs a hcall with ⟨old, hold, hcommand, hid⟩ |
      ⟨command, generatedId, rfl, rfl⟩
    · rw [hcommand, hid]
      exact h.records old hold
    · exact hunreplaced
  rcases relationshipStep_write uuid5 runs state a with hsame | ⟨p, hwriting, hwrite⟩
  · exact ⟨hsame ▸ h.toBoundariesStored, calls_kept h a, hrecords, reflections_kept h a⟩
  obtain ⟨hboundaries, hclean, hnew⟩ := writing_gathered hinj h hwriting
  obtain ⟨hraced, hwritten⟩ := writeEvent_written (h.own hwriting) hwrite
  refine ⟨⟨hwritten.clean h.clean hclean, fun runId run hrun hstored ↦ ?_⟩, calls_kept h a,
    hrecords, reflections_kept h a⟩
  obtain ⟨event, hevent, hid⟩ := hstored
  rcases (Table.mem_insert? hwritten.events).mp hevent with hevent | rfl
  · exact write_holds hboundaries hgathered hwriting hraced hwritten
      (h.events runId run hrun ⟨event, hevent, hid⟩)
  · obtain ⟨hscope, hstated⟩ := hnew runId run hrun hid
    obtain ⟨old, -, hrow⟩ := hwritten.find?
    intro b hb
    rw [← hscope]
    exact ⟨_, hrow, hstated b hb⟩

theorem boundariesKept_start {store : MemoryStore} (h : BoundariesStored uuid5 runs store) :
    BoundariesKept uuid5 runs ⟨store, [], []⟩ where
  toBoundariesStored := h
  calls _ h := absurd h (by simp [RelationshipState.calls])
  records _ h := absurd h (by simp)
  reflections _ h := absurd h (by simp)

/-- Where each write gathers the boundaries there are, none that a completed reflection was told
is ever dropped. -/
theorem stated_boundaries_kept (uuid5 : UUID → String → UUID)
    (runs : UUID → Option ReflectionTaskHandler.AgentRun) (store : MemoryStore)
    (actions : List RelationshipAction)
    (hinj : Function.Injective (relationshipEventId uuid5))
    (hstored : BoundariesStored uuid5 runs store)
    (hunreplaced : ∀ a ∈ actions, Unreplaced uuid5 a)
    (hgathered : Machine.Along (relationshipStep uuid5 runs) (Gathered runs) ⟨store, [], []⟩
      actions) :
    let s := Machine.run (relationshipStep uuid5 runs) ⟨store, [], []⟩ actions
    ∀ execution ∈ s.reflections, execution.phase = .completed →
      Holds s.store execution.scope (statedBoundaries runs execution.runId) := by
  intro s execution he hphase
  have hkept : BoundariesKept uuid5 runs s :=
    Machine.run_invariant (fun _ _ h ha ↦ relationshipStep_boundariesKept hinj h ha.2 ha.1)
      (boundariesKept_start hstored) (hgathered.and_forall hunreplaced)
  have hexecution := hkept.reflections execution he
  rw [ExecutionKept, hphase] at hexecution
  obtain ⟨hrun, hstored⟩ := hexecution
  obtain ⟨run, hrun⟩ := Option.isSome_iff_exists.mp hrun
  obtain ⟨hrun, hscope⟩ := getReflectionSource_eq_some hrun
  exact hscope ▸ hkept.events execution.runId run hrun hstored

def pleaRuns (runId : UUID) : Option ReflectionTaskHandler.AgentRun :=
  some ⟨1, 2, 3, if runId = 100 then ⟨"不要主动联系我", .write⟩ else ⟨"谢谢", .skipLowSignal⟩⟩

def defaultPolicy : ReflectionPolicy where
  positiveRelationshipStep := 2 / 100
  negativeRelationshipStep := 4 / 100
  familiarityStep := 15 / 1000
  steps := by decide +kernel

def isCompleted (execution : Execution) : Bool :=
  match execution.phase with
  | .completed => true
  | _ => false

theorem isCompleted_iff {execution : Execution} :
    isCompleted execution = true ↔ execution.phase = .completed := by
  unfold isCompleted
  cases execution.phase <;> simp

def undisturbed (i : ℕ) (clock : Datetime) : RelationshipAction :=
  .stepReflection i none ⟨clock, true, false⟩

def greeted : MemoryStore where
  relationships :=
    ⟨[{ stranger (fun space _ ↦ space) ⟨1, 2, 3⟩ 0 with interactionCount := 1, version := 1 }],
      List.nodup_singleton _⟩
  relationshipEvents := ⟨[⟨9, 1, 2, "conversation.reflected.neutral", 0, 0, 0, none, "hi", 3, 0⟩],
    List.nodup_singleton _⟩

theorem greeted_boundariesStored : BoundariesStored (fun space _ ↦ space) pleaRuns greeted where
  clean row h := by
    rw [List.mem_singleton.mp h]
    exact fun b hb ↦ absurd hb List.not_mem_nil
  events runId _ _ := by
    rintro ⟨event, hevent, hid⟩ b hb
    obtain rfl := List.mem_singleton.mp hevent
    obtain rfl : 9 = runId := hid
    have hnone : statedBoundaries pleaRuns 9 = [] := by decide +kernel
    rw [hnone] at hb
    exact absurd hb List.not_mem_nil

def crossedReflections : List RelationshipAction :=
  [.reflect 1 2 3 100 defaultPolicy, .reflect 1 2 3 101 defaultPolicy,
    undisturbed 1 1, undisturbed 1 2,
    undisturbed 0 3, undisturbed 0 4, undisturbed 0 5, undisturbed 0 6, undisturbed 0 7,
    undisturbed 0 8,
    undisturbed 1 9, undisturbed 1 10, undisturbed 1 11, undisturbed 1 12]

/-- Both reflections complete, and the boundary of the first is gone. -/
theorem crossedReflections_drop_boundary :
    let s := Machine.run (relationshipStep (fun space _ ↦ space) pleaRuns) ⟨greeted, [], []⟩
      crossedReflections
    (∃ execution ∈ s.reflections, execution.runId = 100 ∧ execution.scope = ⟨1, 2, 3⟩ ∧
        execution.phase = .completed) ∧
      statedBoundaries pleaRuns 100 = ["不主动联系"] ∧
      ¬Holds s.store ⟨1, 2, 3⟩ (statedBoundaries pleaRuns 100) := by
  intro s
  obtain ⟨hcompleted, hdropped⟩ : s.reflections.any (fun execution ↦ execution.runId = 100 &&
        execution.scope = ⟨1, 2, 3⟩ && isCompleted execution) = true ∧
      (s.store.relationships.find? ⟨1, 2, 3⟩).map (·.boundaries) = some [] := by decide +kernel
  have hstated : statedBoundaries pleaRuns 100 = ["不主动联系"] := by decide +kernel
  refine ⟨?_, hstated, fun h ↦ ?_⟩
  · obtain ⟨execution, hmem, he⟩ := List.any_eq_true.mp hcompleted
    simp only [Bool.and_eq_true, decide_eq_true_eq, isCompleted_iff] at he
    exact ⟨execution, hmem, he.1.1, he.1.2, he.2⟩
  · rw [hstated] at h
    obtain ⟨row, hrow, hb⟩ := h "不主动联系" (List.mem_singleton_self _)
    rw [hrow] at hdropped
    have hnone : row.boundaries = [] := Option.some.inj hdropped
    rw [hnone] at hb
    exact absurd hb List.not_mem_nil

def serialReflections : List RelationshipAction :=
  [.reflect 1 2 3 100 defaultPolicy, .reflect 1 2 3 101 defaultPolicy,
    undisturbed 0 3, undisturbed 0 4, undisturbed 0 5, undisturbed 0 6, undisturbed 0 7,
    undisturbed 0 8,
    undisturbed 1 9, undisturbed 1 10, undisturbed 1 11, undisturbed 1 12, undisturbed 1 13,
    undisturbed 1 14]

theorem stated_boundaries_kept_serial :
    let s := Machine.run (relationshipStep (fun space _ ↦ space) pleaRuns) ⟨greeted, [], []⟩
      serialReflections
    ∃ execution ∈ s.reflections, execution.runId = 100 ∧
      statedBoundaries pleaRuns execution.runId = ["不主动联系"] ∧
      Holds s.store execution.scope (statedBoundaries pleaRuns execution.runId) := by
  intro s
  obtain ⟨hcompleted, hgathered⟩ : s.reflections.any (fun execution ↦ execution.runId = 100 &&
        isCompleted execution) = true ∧
      Machine.Along (relationshipStep (fun space _ ↦ space) pleaRuns) (Gathered pleaRuns)
        ⟨greeted, [], []⟩ serialReflections := by decide +kernel
  obtain ⟨execution, hmem, he⟩ := List.any_eq_true.mp hcompleted
  simp only [Bool.and_eq_true, decide_eq_true_eq, isCompleted_iff] at he
  refine ⟨execution, hmem, he.1, ?_, ?_⟩
  · rw [he.1]
    decide +kernel
  · exact stated_boundaries_kept (fun space _ ↦ space) pleaRuns greeted serialReflections
      (fun _ _ h ↦ h) greeted_boundariesStored
        (by simp [serialReflections, undisturbed, Unreplaced]) hgathered
      execution hmem he.2

end run

end CyberNetizen.Memory
