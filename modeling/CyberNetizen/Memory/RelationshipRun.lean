import CyberNetizen.Lib.Machine
import CyberNetizen.Application.ReflectionTaskHandler

namespace CyberNetizen.Memory

open Domain Cognition Infrastructure Application KeyedTable SqlAlchemyMemoryRepository

/-- The relationship tables with the calls and the reflections under way. -/
structure RelationshipState where
  store : MemoryStore
  records : List MemoryService.RecordCall
  reflections : List ReflectionTaskHandler.Execution

inductive RelationshipAction
  | record (command : MemoryService.RelationshipCommand) (generatedId : UUID)
  | reflect (tenantId agentId userId runId : UUID) (policy : ReflectionPolicy)
  | stepRecord (i : ℕ) (choice : MemoryService.Choice)
  | stepReflection (i : ℕ) (memoryId : Option UUID) (choice : MemoryService.Choice)

def RelationshipAction.raced : RelationshipAction → Bool
  | .stepRecord _ choice | .stepReflection _ _ choice => choice.raced
  | .record .. | .reflect .. => false

section

variable (uuid5 : UUID → String → UUID) (runs : UUID → Option ReflectionTaskHandler.AgentRun)

/-- Calls and reflections are begun and take their steps in any order; one that takes no further
step has crashed. A retry of a reflection is one more with the same run. -/
def relationshipStep (s : RelationshipState) : RelationshipAction → Unit × RelationshipState
  | .record command generatedId =>
    ((), { s with records := s.records ++ [⟨command, generatedId, .getRelationship⟩] })
  | .reflect tenantId agentId userId runId policy =>
    ((), { s with
      reflections := s.reflections ++
        [⟨tenantId, agentId, userId, runId, policy, .getRelationship⟩] })
  | .stepRecord i choice =>
    match s.records[i]? with
    | none => ((), s)
    | some call =>
      let (call, store) := MemoryService.record uuid5 call choice s.store
      ((), { s with store, records := s.records.set i call })
  | .stepReflection i memoryId choice =>
    match s.reflections[i]? with
    | none => ((), s)
    | some execution =>
      let (execution, store) :=
        ReflectionTaskHandler.handle uuid5 runs execution memoryId choice s.store
      ((), { s with store, reflections := s.reflections.set i execution })

end

def pendingOf (call : MemoryService.RecordCall) : Option MemoryService.Pending :=
  match call.phase with
  | .findDuplicate pending | .reloadDuplicate pending | .writeEvent pending => some pending
  | .getRelationship | .reload _ | .returned _ | .raised _ => none

def writingOf (call : MemoryService.RecordCall) : Option MemoryService.Pending :=
  match call.phase with
  | .writeEvent pending => some pending
  | _ => none

/-- The call of `record_relationship_event` that a reflection is in. -/
def callOf (execution : ReflectionTaskHandler.Execution) : Option MemoryService.RecordCall :=
  match execution.phase with
  | .recordRelationshipEvent _ call => some call
  | _ => none

def RelationshipState.calls (s : RelationshipState) : List MemoryService.RecordCall :=
  s.records ++ s.reflections.filterMap callOf

def RelationshipState.advancing (s : RelationshipState) :
    RelationshipAction → Option MemoryService.RecordCall
  | .stepRecord i _ => s.records[i]?
  | .stepReflection i _ _ => s.reflections[i]?.bind callOf
  | .record .. | .reflect .. => none

def RelationshipState.writing (s : RelationshipState) (a : RelationshipAction) :
    Option MemoryService.Pending :=
  (s.advancing a).bind writingOf

section store

variable {uuid5 : UUID → String → UUID} {runs : UUID → Option ReflectionTaskHandler.AgentRun}
  {s : RelationshipState}

theorem record_store (call : MemoryService.RecordCall) (choice : MemoryService.Choice)
    (t : MemoryStore) :
    (MemoryService.record uuid5 call choice t).2 =
      ((writingOf call).bind fun p ↦ writeEvent p.relationship p.event choice.raced t).getD t := by
  unfold MemoryService.record writingOf
  cases call.phase with
  | findDuplicate pending => dsimp only; split <;> rfl
  | reloadDuplicate pending => dsimp only; split <;> rfl
  | writeEvent pending =>
    dsimp only [Option.bind_some]
    cases writeEvent pending.relationship pending.event choice.raced t <;> rfl
  | getRelationship | reload _ | returned _ | raised _ => rfl

theorem handle_store (execution : ReflectionTaskHandler.Execution) (memoryId : Option UUID)
    (choice : MemoryService.Choice) (t : MemoryStore) :
    (ReflectionTaskHandler.handle uuid5 runs execution memoryId choice t).2 =
      (((callOf execution).bind writingOf).bind fun p ↦
        writeEvent p.relationship p.event choice.raced t).getD t := by
  unfold ReflectionTaskHandler.handle callOf
  cases execution.phase with
  | getRelationship =>
    dsimp only
    split
    · rfl
    · split <;> rfl
  | recordRelationshipEvent context call =>
    dsimp only [Option.bind_some]
    have hstore : (MemoryService.record uuid5 call choice t).2 = _ := record_store call choice t
    rw [← hstore]
    split <;> rfl
  | closeEpisode | completed | raised => rfl

/-- The tables change only by the write of an event. -/
theorem relationshipStep_store (a : RelationshipAction) :
    (relationshipStep uuid5 runs s a).2.store =
      ((s.writing a).bind fun p ↦ writeEvent p.relationship p.event a.raced s.store).getD
        s.store := by
  unfold relationshipStep RelationshipState.writing RelationshipState.advancing
  cases a with
  | record | reflect => rfl
  | stepRecord i choice =>
    dsimp only
    cases s.records[i]? with
    | none => rfl
    | some call => exact record_store call choice s.store
  | stepReflection i memoryId choice =>
    dsimp only
    cases s.reflections[i]? with
    | none => rfl
    | some execution => exact handle_store execution memoryId choice s.store

/-- A reflection begins its call or lets it take a step. -/
theorem callOf_handle {execution : ReflectionTaskHandler.Execution} {memoryId : Option UUID}
    {choice : MemoryService.Choice} {t : MemoryStore} {call : MemoryService.RecordCall}
    (h : callOf (ReflectionTaskHandler.handle uuid5 runs execution memoryId choice t).1 =
      some call) :
    call.phase = .getRelationship ∨ ∃ old, callOf execution = some old ∧
      call = (MemoryService.record uuid5 old choice t).1 := by
  unfold ReflectionTaskHandler.handle at h
  split at h
  · dsimp only at h
    split at h
    · exact absurd h (by simp [callOf])
    · split at h
      · obtain rfl := Option.some.inj h
        exact .inl rfl
      · exact absurd h (by simp [callOf])
  · rename_i context old hphase
    dsimp only at h
    refine .inr ⟨old, by rw [callOf, hphase], ?_⟩
    split at h
    · exact absurd h (by simp [callOf])
    · exact absurd h (by simp [callOf])
    · exact (Option.some.inj h).symm
  · exact absurd h (by simp [callOf])
  · rename_i hphase
    rw [callOf, hphase] at h
    exact absurd h (by simp)
  · rename_i hphase
    rw [callOf, hphase] at h
    exact absurd h (by simp)

/-- A call in flight after an action was so before, is new, or has taken a step. -/
theorem mem_calls (a : RelationshipAction) {call : MemoryService.RecordCall}
    (h : call ∈ (relationshipStep uuid5 runs s a).2.calls) :
    call ∈ s.calls ∨ call.phase = .getRelationship ∨
      ∃ old ∈ s.calls, ∃ choice, call = (MemoryService.record uuid5 old choice s.store).1 ∧
        (relationshipStep uuid5 runs s a).2.store =
          (MemoryService.record uuid5 old choice s.store).2 := by
  unfold relationshipStep at h ⊢
  unfold RelationshipState.calls at h ⊢
  cases a with
  | record command generatedId =>
    simp only [List.append_assoc, List.mem_append, List.mem_singleton] at h ⊢
    rcases h with h | rfl | h
    · exact .inl (.inl h)
    · exact .inr (.inl rfl)
    · exact .inl (.inr h)
  | reflect tenantId agentId userId runId policy =>
    rw [List.filterMap_append] at h
    simp only [List.mem_append] at h ⊢
    rcases h with h | h | h
    · exact .inl (.inl h)
    · exact .inl (.inr h)
    · exact absurd h (by simp [callOf])
  | stepRecord i choice =>
    dsimp only at h ⊢
    cases hi : s.records[i]? with
    | none =>
      rw [hi] at h
      exact .inl h
    | some old =>
      rw [hi] at h
      rcases List.mem_append.mp h with h | h
      · rcases List.mem_or_eq_of_mem_set h with h | rfl
        · exact .inl (List.mem_append_left _ h)
        · exact .inr (.inr
            ⟨old, List.mem_append_left _ (List.mem_of_getElem? hi), choice, rfl, rfl⟩)
      · exact .inl (List.mem_append_right _ h)
  | stepReflection i memoryId choice =>
    dsimp only at h ⊢
    cases hi : s.reflections[i]? with
    | none =>
      rw [hi] at h
      exact .inl h
    | some execution =>
      rw [hi] at h
      rcases List.mem_append.mp h with h | h
      · exact .inl (List.mem_append_left _ h)
      obtain ⟨other, hother, hcall⟩ := List.mem_filterMap.mp h
      rcases List.mem_or_eq_of_mem_set hother with hother | rfl
      · exact .inl (List.mem_append_right _ (List.mem_filterMap.mpr ⟨other, hother, hcall⟩))
      rcases callOf_handle hcall with hnew | ⟨old, hold, rfl⟩
      · exact .inr (.inl hnew)
      refine .inr (.inr ⟨old, List.mem_append_right _ ?_, choice, rfl, ?_⟩)
      · exact List.mem_filterMap.mpr ⟨execution, List.mem_of_getElem? hi, hold⟩
      · rw [record_store]
        exact (handle_store ..).trans (by rw [hold]; rfl)

theorem advancing_mem {a : RelationshipAction} {call : MemoryService.RecordCall}
    (h : s.advancing a = some call) : call ∈ s.calls := by
  unfold RelationshipState.advancing at h
  unfold RelationshipState.calls
  cases a with
  | record | reflect => exact absurd h (by simp)
  | stepRecord i choice => exact List.mem_append_left _ (List.mem_of_getElem? h)
  | stepReflection i memoryId choice =>
    obtain ⟨execution, hi, hcall⟩ := Option.bind_eq_some_iff.mp h
    exact List.mem_append_right _
      (List.mem_filterMap.mpr ⟨execution, List.mem_of_getElem? hi, hcall⟩)

theorem pendingOf_eq_of_writingOf {call : MemoryService.RecordCall} {p : MemoryService.Pending}
    (h : writingOf call = some p) : pendingOf call = some p := by
  unfold writingOf at h
  unfold pendingOf
  split at h
  · rename_i hphase
    rw [hphase]
    exact h
  · exact absurd h (by simp)

/-- What a call is about to apply after a step it was about to apply before, or has just
prepared. -/
theorem pendingOf_record {call : MemoryService.RecordCall} {choice : MemoryService.Choice}
    {t : MemoryStore} {p : MemoryService.Pending}
    (h : pendingOf (MemoryService.record uuid5 call choice t).1 = some p) :
    pendingOf call = some p ∨ ∃ normalizedType normalizedSummary,
      MemoryService.prepare uuid5 call.command normalizedType normalizedSummary call.generatedId
        choice.clock (t.relationships.find? call.command.scope) = .ok p := by
  unfold MemoryService.record at h
  split at h
  · right
    unfold MemoryService.readRelationship at h
    dsimp only at h
    split at h
    · exact absurd h (by simp [pendingOf])
    · rename_i normalizedType normalizedSummary _
      split at h
      · exact absurd h (by simp [pendingOf])
      · split at h
        · exact absurd h (by simp [pendingOf])
        · rename_i pending hprepare
          obtain rfl := Option.some.inj h
          refine ⟨normalizedType, normalizedSummary, ?_⟩
          have hexisting : (getRelationshipDetail call.command.scope t).map (·.relationship) =
              t.relationships.find? call.command.scope := by
            simp [getRelationshipDetail, Function.comp_def]
          rwa [hexisting] at hprepare
  · rename_i pending hphase
    refine .inl ?_
    rw [pendingOf, hphase]
    dsimp only at h
    split at h <;> exact h
  · rename_i pending hphase
    refine .inl ?_
    rw [pendingOf, hphase]
    dsimp only at h
    split at h
    · exact absurd h (by simp [pendingOf])
    · exact h
  · dsimp only at h
    split at h <;> exact absurd h (by simp [pendingOf])
  · exact absurd h (by simp [pendingOf])
  · exact .inl h
  · exact .inl h

variable (uuid5 runs s) in
theorem relationshipStep_write (a : RelationshipAction) :
    (relationshipStep uuid5 runs s a).2.store = s.store ∨
      ∃ p, s.writing a = some p ∧
        writeEvent p.relationship p.event a.raced s.store =
          some (relationshipStep uuid5 runs s a).2.store := by
  rw [relationshipStep_store]
  cases hp : s.writing a with
  | none => exact .inl rfl
  | some p =>
    rw [Option.bind_some]
    cases hwrite : writeEvent p.relationship p.event a.raced s.store with
    | none => exact .inl rfl
    | some t => exact .inr ⟨p, rfl, hwrite⟩

end store

section write

variable {s s' : MemoryStore} {relationship : Relationship} {event : RelationshipEvent}
  {raced : Bool}

/-- What a committed write leaves: it found a row, and rewrote it. -/
structure Written (s s' : MemoryStore) (relationship : Relationship) (event : RelationshipEvent) :
    Prop where
  row : ∃ old, s.relationships.find? relationship.scope = some old ∧
    s'.relationships = s.relationships.updateWhere (fun row ↦ row.scope = relationship.scope)
      (rewritten relationship)
  rooted : ∃ row ∈ s.relationships, row.id = event.relationshipId
  events : s.relationshipEvents.insert? event = some s'.relationshipEvents

theorem writeEvent_written (hid : event.relationshipId = relationship.id)
    (h : writeEvent relationship event raced s = some s') :
    raced = false ∧ Written s s' relationship event := by
  by_cases hnew : raced = true ∨ s.relationships.find? relationship.scope = none
  · cases (writeEvent_refused hid hnew).symm.trans h
  · rw [not_or, Bool.not_eq_true] at hnew
    obtain ⟨hraced, hfound⟩ := hnew
    obtain ⟨old, hold⟩ := Option.ne_none_iff_exists'.mp hfound
    rw [writeEvent_changed hraced (Option.isSome_iff_ne_none.mpr hfound)] at h
    obtain ⟨t, hevent, rfl⟩ := Option.map_eq_some_iff.mp h
    obtain ⟨hrooted, hkept, hinsert⟩ := MemoryStore.insertEvent_eq_some hevent
    refine ⟨hraced, ⟨old, hold, ?_⟩, hrooted, hinsert⟩
    unfold putRelationship
    rw [hkept]

theorem writeEvent_commits {old : Relationship}
    (hold : s.relationships.find? relationship.scope = some old)
    (hid : old.id = event.relationshipId) (hnew : findDuplicate event s = none) :
    ∃ s', writeEvent relationship event false s = some s' := by
  rw [writeEvent_changed rfl (Option.isSome_iff_exists.mpr ⟨old, hold⟩)]
  unfold MemoryStore.insertEvent
  rw [if_neg]
  · cases hinsert : s.relationshipEvents.insert? event with
    | some relationshipEvents => exact ⟨_, rfl⟩
    | none =>
      obtain ⟨row, hrow, he⟩ := Table.insert?_eq_none.mp hinsert
      exact absurd he (Table.find?_eq_none.mp hnew row hrow)
  · simp only [List.all_eq_true, decide_eq_true_eq, not_forall, not_not]
    exact ⟨old, Table.mem_of_find? hold, hid⟩

theorem Written.others (h : Written s s' relationship event) {scope : Scope}
    (hscope : scope ≠ relationship.scope) :
    s'.relationships.find? scope = s.relationships.find? scope := by
  obtain ⟨old, -, hupdate⟩ := h.row
  rw [hupdate, Table.find?_updateWhere_of_ne hscope]

theorem Written.find? (h : Written s s' relationship event) :
    ∃ old, s.relationships.find? relationship.scope = some old ∧
      s'.relationships.find? relationship.scope = some (rewritten relationship old) := by
  obtain ⟨old, hold, hupdate⟩ := h.row
  exact ⟨old, hold, by rw [hupdate, Table.find?_updateWhere_self hold]⟩

end write

end CyberNetizen.Memory
