import CyberNetizen.Memory.RelationshipRun

namespace CyberNetizen.Memory

open Domain Cognition Infrastructure Application KeyedTable SqlAlchemyMemoryRepository
  MemoryService

/-- The three bounded values of a relationship. -/
structure Bond where
  affinity : ℚ
  trust : ℚ
  familiarity : ℚ
  deriving DecidableEq

def Bond.zero : Bond := ⟨0, 0, 0⟩

def Bond.after (bond : Bond) (event : RelationshipEvent) : Bond where
  affinity := clamp (bond.affinity + event.affinityDelta)
  trust := clamp (bond.trust + event.trustDelta)
  familiarity := clamp (bond.familiarity + event.familiarityDelta)

def bondOf (relationship : Relationship) : Bond :=
  ⟨relationship.affinity, relationship.trust, relationship.familiarity⟩

def recorded (s : MemoryStore) (scope : Scope) : List RelationshipEvent :=
  ((s.relationships.find? scope).map (eventsOf s)).getD []

def Accounted (s : MemoryStore) (scope : Scope) : Prop :=
  ∀ row, s.relationships.find? scope = some row →
    row.interactionCount = (recorded s scope).length ∧ row.version = (recorded s scope).length ∧
    ∃ order : List RelationshipEvent, order.Perm (recorded s scope) ∧
      bondOf row = order.foldl Bond.after .zero

/-- The write of an event finds the row as its call read it, unless a unique constraint refuses
it. -/
def Fresh (scope : Scope) (s : RelationshipState) (a : RelationshipAction) : Prop :=
  ∀ p ∈ s.writing a, p.relationship.scope = scope → a.raced = false →
    findDuplicate p.event s.store = none → s.store.relationships.find? scope = p.existing

instance (scope : Scope) (s : RelationshipState) (a : RelationshipAction) :
    Decidable (Fresh scope s a) :=
  inferInstanceAs (Decidable (∀ p ∈ s.writing a, _))

/-- What the relationship tables keep. -/
structure Rooted (uuid5 : UUID → String → UUID) (s : MemoryStore) : Prop where
  rowId : ∀ row ∈ s.relationships, row.id = relationshipId uuid5 row.scope
  distinct : ∀ a ∈ s.relationships, ∀ b ∈ s.relationships, a.id = b.id → a = b
  events : ∀ event ∈ s.relationshipEvents, ∃ row ∈ s.relationships, row.id = event.relationshipId

/-- The relationship was computed from the row read. -/
structure Prepared (uuid5 : UUID → String → UUID) (p : Pending) : Prop where
  id : p.relationship.id = relationshipId uuid5 p.relationship.scope
  relationshipId : p.event.relationshipId = p.relationship.id
  tenantId : p.event.tenantId = p.relationship.tenantId
  version : p.relationship.version = (p.existing.map (·.version)).getD 0 + 1
  interactionCount :
    p.relationship.interactionCount = (p.existing.map (·.interactionCount)).getD 0 + 1
  bond : bondOf p.relationship = ((p.existing.map bondOf).getD .zero).after p.event

def Behind (s : MemoryStore) (p : Pending) : Prop :=
  let version := (p.existing.map (·.version)).getD 0
  version ≤ (recorded s p.relationship.scope).length ∧
    (s.relationships.find? p.relationship.scope ≠ p.existing →
      version < (recorded s p.relationship.scope).length)

section write

variable {uuid5 : UUID → String → UUID} {s s' : MemoryStore} {p : Pending}

theorem recorded_of_find? {scope : Scope} {row : Relationship}
    (h : s.relationships.find? scope = some row) : recorded s scope = eventsOf s row := by
  rw [recorded, h]
  rfl

theorem recorded_of_absent {scope : Scope} (h : s.relationships.find? scope = none) :
    recorded s scope = [] := by
  rw [recorded, h]
  rfl

theorem Written.eventsOf (h : Written s s' p.relationship p.event) (row : Relationship) :
    eventsOf s' row = eventsOf s row ++
      if p.event.tenantId = row.tenantId ∧ p.event.relationshipId = row.id then [p.event]
      else [] := by
  unfold SqlAlchemyMemoryRepository.eventsOf
  rw [(Table.insert?_eq_some h.events).2, List.filter_append, List.filter_singleton]
  simp only [Bool.cond_eq_ite, Bool.and_eq_true, decide_eq_true_eq]

theorem tenantId_eq {a b : Relationship} (h : a.scope = b.scope) : a.tenantId = b.tenantId :=
  congrArg Scope.tenantId h

theorem Prepared.rowId (hp : Prepared uuid5 p) (hr : Rooted uuid5 s) {row : Relationship}
    (hrow : s.relationships.find? p.relationship.scope = some row) :
    p.event.relationshipId = row.id := by
  rw [hp.relationshipId, hp.id, hr.rowId row (Table.mem_of_find? hrow), Table.key_of_find? hrow]

theorem Written.recorded (h : Written s s' p.relationship p.event) (hr : Rooted uuid5 s)
    (hp : Prepared uuid5 p) :
    Memory.recorded s' p.relationship.scope =
      Memory.recorded s p.relationship.scope ++ [p.event] := by
  obtain ⟨old, hold, hfind⟩ := h.find?
  have htenant := hp.tenantId.trans (tenantId_eq (Table.key_of_find? hold)).symm
  have hid := hp.rowId hr hold
  rw [recorded_of_find? hfind, recorded_of_find? hold, h.eventsOf, if_pos ⟨htenant, hid⟩]
  rfl

theorem Written.recorded_of_ne (h : Written s s' p.relationship p.event) (hr : Rooted uuid5 s)
    (hp : Prepared uuid5 p) {scope : Scope} (hscope : scope ≠ p.relationship.scope) :
    Memory.recorded s' scope = Memory.recorded s scope := by
  have hothers := h.others hscope
  cases hfind : s.relationships.find? scope with
  | none => rw [recorded_of_absent hfind, recorded_of_absent (hothers.trans hfind)]
  | some row =>
    rw [recorded_of_find? hfind, recorded_of_find? (hothers.trans hfind), h.eventsOf,
      if_neg, List.append_nil]
    rintro ⟨-, he⟩
    obtain ⟨old, hold, -⟩ := h.row
    have hid : row.id = old.id := he.symm.trans (hp.rowId hr hold)
    have hkey := Table.key_of_find? hfind
    rw [hr.distinct row (Table.mem_of_find? hfind) old (Table.mem_of_find? hold) hid] at hkey
    exact hscope (hkey.symm.trans (Table.key_of_find? hold))

theorem Written.rooted_after (h : Written s s' p.relationship p.event) (hr : Rooted uuid5 s) :
    Rooted uuid5 s' := by
  obtain ⟨old, -, hupdate⟩ := h.row
  have hkeep : ∀ row, row ∈ s'.relationships ↔ ∃ r ∈ s.relationships,
      (if r.scope = p.relationship.scope then rewritten p.relationship r else r) = row := by
    intro row
    rw [hupdate, Table.mem_updateWhere]
    simp only [decide_eq_true_eq]
  have hsame : ∀ r : Relationship,
      (if r.scope = p.relationship.scope then rewritten p.relationship r else r).id = r.id ∧
      (if r.scope = p.relationship.scope then rewritten p.relationship r else r).scope =
        r.scope := by
    intro r
    split <;> exact ⟨rfl, rfl⟩
  refine ⟨fun row hrow ↦ ?_, fun a ha b hb he ↦ ?_, fun event he ↦ ?_⟩
  · obtain ⟨r, hmem, rfl⟩ := (hkeep row).mp hrow
    rw [(hsame r).1, (hsame r).2]
    exact hr.rowId r hmem
  · obtain ⟨r, hmem, rfl⟩ := (hkeep a).mp ha
    obtain ⟨r', hmem', rfl⟩ := (hkeep b).mp hb
    rw [(hsame r).1, (hsame r').1] at he
    rw [hr.distinct r hmem r' hmem' he]
  · obtain ⟨row, hrow, hroot⟩ : ∃ row ∈ s.relationships, row.id = event.relationshipId := by
      rcases (Table.mem_insert? h.events).mp he with he | rfl
      · exact hr.events event he
      · exact h.rooted
    exact ⟨_, (hkeep _).mpr ⟨row, hrow, rfl⟩, (hsame row).1.trans hroot⟩

theorem Written.state (h : Written s s' p.relationship p.event) :
    ∃ row, s'.relationships.find? p.relationship.scope = some row ∧
      row.version = p.relationship.version ∧
      row.interactionCount = p.relationship.interactionCount ∧
      bondOf row = bondOf p.relationship := by
  obtain ⟨old, -, hfind⟩ := h.find?
  exact ⟨_, hfind, rfl, rfl, rfl⟩

theorem Written.length (h : Written s s' p.relationship p.event) (hr : Rooted uuid5 s)
    (hp : Prepared uuid5 p) (scope : Scope) :
    (Memory.recorded s' scope).length =
      (Memory.recorded s scope).length + if scope = p.relationship.scope then 1 else 0 := by
  split
  · rename_i he
    rw [he, h.recorded hr hp, List.length_append, List.length_singleton]
  · rename_i hne
    rw [h.recorded_of_ne hr hp hne, Nat.add_zero]

theorem Behind.written {q : Pending} (hq : Behind s q) (h : Written s s' p.relationship p.event)
    (hr : Rooted uuid5 s) (hp : Prepared uuid5 p) : Behind s' q := by
  have hlength := h.length hr hp q.relationship.scope
  obtain ⟨hle, hlt⟩ := hq
  refine ⟨by omega, fun hmoved ↦ ?_⟩
  by_cases hscope : q.relationship.scope = p.relationship.scope
  · rw [if_pos hscope] at hlength
    omega
  · rw [if_neg hscope] at hlength
    rw [h.others hscope] at hmoved
    have := hlt hmoved
    omega

/-- What is prepared from the row as it is stored. -/
theorem prepare_spec {command : RelationshipCommand} {normalizedType normalizedSummary : String}
    {generatedId : UUID} {now : Datetime} (hr : Rooted uuid5 s)
    (hversion : ∀ row, s.relationships.find? command.scope = some row →
      row.version ≤ (Memory.recorded s command.scope).length)
    (h : prepare uuid5 command normalizedType normalizedSummary generatedId now
      (s.relationships.find? command.scope) = .ok p) :
    Prepared uuid5 p ∧ Behind s p := by
  unfold prepare at h
  dsimp only at h
  split at h
  · exact absurd h (by simp)
  rename_i boundaries _
  obtain rfl := Except.ok.inj h
  unfold Behind
  cases hfind : s.relationships.find? command.scope with
  | none => exact ⟨⟨rfl, rfl, rfl, rfl, rfl, rfl⟩, Nat.zero_le _, fun hne ↦ absurd hfind hne⟩
  | some row =>
    have hscope := Table.key_of_find? hfind
    refine ⟨⟨hr.rowId row (Table.mem_of_find? hfind), rfl, (congrArg Scope.tenantId hscope).symm, rfl,
      rfl, rfl⟩, ?_⟩
    have hrow : (advanced row command normalizedSummary boundaries now).scope = command.scope :=
      hscope
    simp only [Option.getD_some, Option.map_some, hrow, hfind, ne_eq, not_true_eq_false,
      false_implies, and_true]
    exact hversion row hfind

end write

section run

variable {uuid5 : UUID → String → UUID} {runs : UUID → Option ReflectionTaskHandler.AgentRun}
  {s : RelationshipState}

/-- The invariant of every run. -/
structure Tracked (uuid5 : UUID → String → UUID) (s : RelationshipState) : Prop where
  rooted : Rooted uuid5 s.store
  version : ∀ scope row, s.store.relationships.find? scope = some row →
    row.version ≤ (recorded s.store scope).length
  pending : ∀ call ∈ s.calls, ∀ p, pendingOf call = some p →
    Prepared uuid5 p ∧ Behind s.store p

theorem Tracked.writing (h : Tracked uuid5 s) {a : RelationshipAction} {p : Pending}
    (hp : s.writing a = some p) : Prepared uuid5 p ∧ Behind s.store p := by
  obtain ⟨call, hcall, hwriting⟩ := Option.bind_eq_some_iff.mp hp
  exact h.pending call (advancing_mem hcall) p (pendingOf_eq_of_writingOf hwriting)

theorem relationshipStep_tracked (a : RelationshipAction) (h : Tracked uuid5 s) :
    Tracked uuid5 (relationshipStep uuid5 runs s a).2 := by
  have hold : ∀ call ∈ (relationshipStep uuid5 runs s a).2.calls, ∀ p,
      pendingOf call = some p → Prepared uuid5 p ∧ Behind s.store p := by
    intro call hcall p hp
    rcases mem_calls a hcall with hcall | hnew | ⟨old, hmem, choice, rfl, -⟩
    · exact h.pending call hcall p hp
    · rw [pendingOf, hnew] at hp
      exact absurd hp (by simp)
    · rcases pendingOf_record hp with hp | ⟨normalizedType, normalizedSummary, hprepare⟩
      · exact h.pending old hmem p hp
      · exact prepare_spec h.rooted (h.version _) hprepare
  rcases relationshipStep_write uuid5 runs s a with hsame | ⟨p, hwriting, hwrite⟩
  · exact ⟨hsame ▸ h.rooted, hsame ▸ h.version, hsame ▸ hold⟩
  · obtain ⟨hprepared, hle, -⟩ := h.writing hwriting
    obtain ⟨-, hwritten⟩ := writeEvent_written hprepared.relationshipId hwrite
    refine ⟨hwritten.rooted_after h.rooted, fun scope row hrow ↦ ?_,
      fun call hcall q hq ↦ ?_⟩
    · have hlength := hwritten.length h.rooted hprepared scope
      by_cases hscope : scope = p.relationship.scope
      · subst hscope
        obtain ⟨row', hrow', hversion, -⟩ := hwritten.state
        obtain rfl := Option.some.inj (hrow.symm.trans hrow')
        rw [hversion, hprepared.version, hlength, if_pos rfl]
        exact Nat.add_le_add_right hle 1
      · rw [hwritten.others hscope] at hrow
        rw [hlength, if_neg hscope]
        exact h.version scope row hrow
    · obtain ⟨hq, hbehind⟩ := hold call hcall q hq
      exact ⟨hq, hbehind.written hwritten h.rooted hprepared⟩

def Versioned (s : MemoryStore) : Prop :=
  ∀ scope row, s.relationships.find? scope = some row → row.version ≤ (recorded s scope).length

theorem tracked_start {store : MemoryStore} (hrooted : Rooted uuid5 store)
    (hversioned : Versioned store) : Tracked uuid5 ⟨store, [], []⟩ where
  rooted := hrooted
  version := hversioned
  pending _ h := absurd h (by simp [RelationshipState.calls])

def Level (scope : Scope) (s : RelationshipState) : Prop :=
  ∀ row, s.store.relationships.find? scope = some row →
    row.version = (recorded s.store scope).length

theorem level_iff (h : Tracked uuid5 s) {t : RelationshipState} {p : Pending}
    (hprepared : Prepared uuid5 p) (hwritten : Written s.store t.store p.relationship p.event) :
    Level p.relationship.scope t ↔
      (p.existing.map (·.version)).getD 0 = (recorded s.store p.relationship.scope).length := by
  obtain ⟨row, hrow, hversion, -⟩ := hwritten.state
  have hlength := hwritten.length h.rooted hprepared p.relationship.scope
  rw [if_pos rfl] at hlength
  constructor
  · intro hlevel
    have := hlevel row hrow
    rw [hversion, hprepared.version, hlength] at this
    exact Nat.succ.inj this
  · intro he row' hrow'
    obtain rfl := Option.some.inj (hrow.symm.trans hrow')
    rw [hversion, hprepared.version, hlength, he]

theorem fresh_find? (h : Tracked uuid5 s) {a : RelationshipAction} {p : Pending}
    {t : MemoryStore} (hwriting : s.writing a = some p)
    (hwrite : writeEvent p.relationship p.event a.raced s.store = some t)
    (hfresh : Fresh p.relationship.scope s a) :
    s.store.relationships.find? p.relationship.scope = p.existing := by
  obtain ⟨hraced, hwritten⟩ := writeEvent_written (h.writing hwriting).1.relationshipId hwrite
  refine hfresh p hwriting rfl hraced (Table.find?_eq_none.mpr ?_)
  exact (Table.insert?_eq_some hwritten.events).1

theorem level_of_ne (h : Tracked uuid5 s) {t : RelationshipState} {p : Pending} {scope : Scope}
    (hprepared : Prepared uuid5 p) (hwritten : Written s.store t.store p.relationship p.event)
    (hscope : scope ≠ p.relationship.scope) : Level scope t ↔ Level scope s := by
  unfold Level
  rw [hwritten.others hscope, hwritten.recorded_of_ne h.rooted hprepared hscope]

theorem level_kept {scope : Scope} {a : RelationshipAction} (h : Tracked uuid5 s)
    (hlevel : Level scope s) (hfresh : Fresh scope s a) :
    Level scope (relationshipStep uuid5 runs s a).2 := by
  rcases relationshipStep_write uuid5 runs s a with hsame | ⟨p, hwriting, hwrite⟩
  · unfold Level
    rw [hsame]
    exact hlevel
  obtain ⟨hprepared, -⟩ := h.writing hwriting
  obtain ⟨-, hwritten⟩ := writeEvent_written hprepared.relationshipId hwrite
  by_cases hscope : scope = p.relationship.scope
  · subst hscope
    rw [level_iff h hprepared hwritten, ← fresh_find? h hwriting hwrite hfresh]
    cases hfind : s.store.relationships.find? p.relationship.scope with
    | none => rw [recorded_of_absent hfind]; rfl
    | some row => exact hlevel row hfind
  · exact (level_of_ne h hprepared hwritten hscope).mpr hlevel

/-- A version that fell behind never catches up. -/
theorem level_lost {scope : Scope} {a : RelationshipAction} (h : Tracked uuid5 s)
    (hlost : ¬Level scope s) : ¬Level scope (relationshipStep uuid5 runs s a).2 := by
  rcases relationshipStep_write uuid5 runs s a with hsame | ⟨p, hwriting, hwrite⟩
  · unfold Level
    rw [hsame]
    exact hlost
  obtain ⟨hprepared, hle, hlt⟩ := h.writing hwriting
  obtain ⟨-, hwritten⟩ := writeEvent_written hprepared.relationshipId hwrite
  by_cases hscope : scope = p.relationship.scope
  · subst hscope
    rw [level_iff h hprepared hwritten]
    intro he
    by_cases hmoved : s.store.relationships.find? p.relationship.scope = p.existing
    · refine hlost fun row hrow ↦ ?_
      rw [← hmoved, hrow] at he
      exact he
    · exact absurd he (hlt hmoved).ne
  · rwa [level_of_ne h hprepared hwritten hscope]

/-- A write over a row that has moved loses an event. -/
theorem level_broken {scope : Scope} {a : RelationshipAction} (h : Tracked uuid5 s)
    (hstale : ¬Fresh scope s a) : ¬Level scope (relationshipStep uuid5 runs s a).2 := by
  unfold Fresh at hstale
  simp only [not_forall] at hstale
  obtain ⟨p, hwriting, rfl, hraced, hnew, hmoved⟩ := hstale
  obtain ⟨hprepared, hle, hlt⟩ := h.writing hwriting
  have hbehind := hlt hmoved
  obtain ⟨old, hold⟩ : ∃ old, s.store.relationships.find? p.relationship.scope = some old := by
    refine Option.ne_none_iff_exists'.mp fun habsent ↦ ?_
    rw [recorded_of_absent habsent] at hbehind
    exact absurd hbehind (Nat.not_lt_zero _)
  have hid : old.id = p.event.relationshipId := by
    rw [hprepared.relationshipId, hprepared.id, h.rooted.rowId old (Table.mem_of_find? hold),
      Table.key_of_find? hold]
  obtain ⟨t, hwrite⟩ := writeEvent_commits hold hid hnew
  have hstore : (relationshipStep uuid5 runs s a).2.store = t := by
    rw [relationshipStep_store, hwriting, Option.bind_some, hraced, hwrite, Option.getD_some]
  obtain ⟨-, hwritten⟩ := writeEvent_written hprepared.relationshipId hwrite
  rw [← hstore] at hwritten
  rw [level_iff h hprepared hwritten]
  exact hbehind.ne

theorem accounted_kept {scope : Scope} {a : RelationshipAction} (h : Tracked uuid5 s)
    (hcounted : Accounted s.store scope) (hfresh : Fresh scope s a) :
    Accounted (relationshipStep uuid5 runs s a).2.store scope := by
  rcases relationshipStep_write uuid5 runs s a with hsame | ⟨p, hwriting, hwrite⟩
  · rwa [hsame]
  obtain ⟨hprepared, -⟩ := h.writing hwriting
  obtain ⟨-, hwritten⟩ := writeEvent_written hprepared.relationshipId hwrite
  by_cases hscope : scope = p.relationship.scope
  · subst hscope
    intro row hrow
    obtain ⟨row', hrow', hversion, hcount, hbond⟩ := hwritten.state
    obtain rfl := Option.some.inj (hrow.symm.trans hrow')
    have hfind := fresh_find? h hwriting hwrite hfresh
    rw [hversion, hcount, hbond, hprepared.version, hprepared.interactionCount, hprepared.bond,
      hwritten.recorded h.rooted hprepared, List.length_append, List.length_singleton, ← hfind]
    cases hold : s.store.relationships.find? p.relationship.scope with
    | none =>
      rw [recorded_of_absent hold]
      exact ⟨rfl, rfl, [p.event], .refl _, rfl⟩
    | some old =>
      obtain ⟨hc, hv, order, hperm, hfold⟩ := hcounted old hold
      refine ⟨congrArg (· + 1) hc, congrArg (· + 1) hv, order ++ [p.event],
        hperm.append_right _, ?_⟩
      rw [List.foldl_append, ← hfold]
      rfl
  · intro row hrow
    rw [hwritten.others hscope] at hrow
    rw [hwritten.recorded_of_ne h.rooted hprepared hscope]
    exact hcounted row hrow

/-- A scope without a row never gets one: the first event of a relationship is always refused. -/
theorem unmet_run (uuid5 : UUID → String → UUID) (runs : UUID → Option ReflectionTaskHandler.AgentRun)
    {store : MemoryStore} (hrooted : Rooted uuid5 store) (hversioned : Versioned store)
    {scope : Scope} (habsent : store.relationships.find? scope = none)
    (actions : List RelationshipAction) :
    (Machine.run (relationshipStep uuid5 runs) ⟨store, [], []⟩ actions).store.relationships.find?
      scope = none := by
  refine (Machine.run_invariant_all
    (I := fun s ↦ Tracked uuid5 s ∧ s.store.relationships.find? scope = none)
    (fun s a h ↦ ⟨relationshipStep_tracked a h.1, ?_⟩) ⟨tracked_start hrooted hversioned, habsent⟩
    actions).2
  rcases relationshipStep_write uuid5 runs s a with hsame | ⟨p, hwriting, hwrite⟩
  · rw [hsame]
    exact h.2
  obtain ⟨-, hwritten⟩ := writeEvent_written (h.1.writing hwriting).1.relationshipId hwrite
  obtain ⟨old, hold, -⟩ := hwritten.row
  by_cases hscope : scope = p.relationship.scope
  · rw [hscope, hold] at h
    cases h.2
  · exact (hwritten.others hscope).trans h.2

/-- In every run a relationship accounts for all its events exactly when each write of one of
them goes over the row that its call read. -/
theorem accounted_iff_fresh (uuid5 : UUID → String → UUID)
    (runs : UUID → Option ReflectionTaskHandler.AgentRun) (store : MemoryStore)
    (actions : List RelationshipAction) (scope : Scope) (hrooted : Rooted uuid5 store)
    (hversioned : Versioned store) (hcounted : Accounted store scope) :
    Accounted (Machine.run (relationshipStep uuid5 runs) ⟨store, [], []⟩ actions).store scope ↔
      Machine.Along (relationshipStep uuid5 runs) (Fresh scope) ⟨store, [], []⟩ actions := by
  have hstart := tracked_start hrooted hversioned
  constructor
  · intro hend
    refine (Machine.run_iff_along (I := Tracked uuid5) (K := Level scope)
      (fun _ a h ↦ relationshipStep_tracked a h) (fun _ _ h ↦ level_kept h)
      (fun _ _ h ↦ level_broken h) (fun _ _ h ↦ level_lost h) hstart
      fun row hrow ↦ (hcounted row hrow).2.1).mp ?_
    exact fun row hrow ↦ (hend row hrow).2.1
  · intro hfresh
    exact (Machine.run_invariant (I := fun s ↦ Tracked uuid5 s ∧ Accounted s.store scope)
      (fun _ a h hp ↦ ⟨relationshipStep_tracked a h.1, accounted_kept h.1 h.2 hp⟩)
      ⟨hstart, hcounted⟩ hfresh).2

def hasReturned (call : RecordCall) : Bool :=
  match call.phase with
  | .returned _ => true
  | _ => false

/-- A greeting of user 3, recorded with the given id. -/
def greeting (eventId : UUID) : RelationshipCommand where
  tenantId := 1
  agentId := 2
  userId := 3
  eventType := "conversation.reflected.warmth"
  affinityDelta := 1 / 50
  trustDelta := 0
  familiarityDelta := 3 / 200
  summary := "thanks"
  boundaries := none
  evidenceMemoryId := none
  actorId := 3
  eventId := some eventId

def acquaintance : Relationship :=
  advanced (stranger (fun space _ ↦ space) ⟨1, 2, 3⟩ 0) (greeting 9) "thanks" [] 0

def acquainted : MemoryStore where
  relationships := ⟨[acquaintance], List.nodup_singleton _⟩
  relationshipEvents :=
    ⟨[relationshipEvent (greeting 9) "conversation.reflected.warmth" "thanks" 0 0 acquaintance],
      List.nodup_singleton _⟩

theorem mem_acquainted {row : Relationship} : row ∈ acquainted.relationships ↔ row = acquaintance :=
  List.mem_singleton

theorem acquainted_rooted : Rooted (fun space _ ↦ space) acquainted where
  rowId row h := by
    rw [mem_acquainted.mp h]
    rfl
  distinct a ha b hb _ := (mem_acquainted.mp ha).trans (mem_acquainted.mp hb).symm
  events event h := ⟨acquaintance, mem_acquainted.mpr rfl, by rw [List.mem_singleton.mp h]; rfl⟩

theorem acquainted_accounted (scope : Scope) : Accounted acquainted scope := by
  intro row hrow
  have hscope := Table.key_of_find? hrow
  obtain rfl := mem_acquainted.mp (Table.mem_of_find? hrow)
  subst hscope
  exact ⟨by decide +kernel, by decide +kernel, _, .refl _, by decide +kernel⟩

theorem acquainted_versioned : Versioned acquainted :=
  fun scope row hrow ↦ (acquainted_accounted scope row hrow).2.1.le

/-- Two greetings one after the other, the second counted too. -/
theorem accounted_iff_fresh_acquainted :
    let s := Machine.run (relationshipStep (fun space _ ↦ space) fun _ ↦ none)
      ⟨acquainted, [], []⟩
      [.record (greeting 10) 0, .record (greeting 11) 0,
        .stepRecord 0 ⟨5, true, false⟩, .stepRecord 0 ⟨6, true, false⟩,
        .stepRecord 0 ⟨7, true, false⟩, .stepRecord 0 ⟨8, true, false⟩,
        .stepRecord 1 ⟨9, true, false⟩, .stepRecord 1 ⟨10, true, false⟩,
        .stepRecord 1 ⟨11, true, false⟩, .stepRecord 1 ⟨12, true, false⟩]
    (recorded s.store ⟨1, 2, 3⟩).map (·.id) = [9, 10, 11] ∧ Accounted s.store ⟨1, 2, 3⟩ :=
  ⟨by decide +kernel,
    (accounted_iff_fresh (fun space _ ↦ space) (fun _ ↦ none) acquainted _ ⟨1, 2, 3⟩
      acquainted_rooted acquainted_versioned (acquainted_accounted _)).mpr (by decide +kernel)⟩

def crossedGreetings : List RelationshipAction :=
  [.record (greeting 10) 0, .record (greeting 11) 0,
    .stepRecord 0 ⟨5, true, false⟩, .stepRecord 1 ⟨6, true, false⟩,
    .stepRecord 0 ⟨7, true, false⟩, .stepRecord 1 ⟨7, true, false⟩,
    .stepRecord 0 ⟨8, true, false⟩, .stepRecord 1 ⟨8, true, false⟩,
    .stepRecord 0 ⟨9, true, false⟩, .stepRecord 1 ⟨9, true, false⟩]

/-- Both calls return and both events are stored, but the relationship counts one of them. -/
theorem crossedGreetings_lose_one :
    let s := Machine.run (relationshipStep (fun space _ ↦ space) fun _ ↦ none)
      ⟨acquainted, [], []⟩ crossedGreetings
    Accounted acquainted ⟨1, 2, 3⟩ ∧ s.records.map (·.command.eventId) = [some 10, some 11] ∧
      s.records.all hasReturned = true ∧ (recorded s.store ⟨1, 2, 3⟩).map (·.id) = [9, 10, 11] ∧
      ¬Accounted s.store ⟨1, 2, 3⟩ := by
  intro s
  have hversion : (s.store.relationships.find? ⟨1, 2, 3⟩).map (·.version) = some 2 := by
    decide +kernel
  have hstored : (recorded s.store ⟨1, 2, 3⟩).map (·.id) = [9, 10, 11] := by decide +kernel
  refine ⟨acquainted_accounted _, by decide +kernel, by decide +kernel, hstored, fun h ↦ ?_⟩
  obtain ⟨row, hrow, htwo⟩ := Option.map_eq_some_iff.mp hversion
  have hthree := congrArg List.length hstored
  rw [List.length_map, ← (h row hrow).2.1, htwo] at hthree
  exact absurd hthree (by decide)

end run

end CyberNetizen.Memory
