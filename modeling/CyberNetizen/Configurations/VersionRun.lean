import CyberNetizen.Configurations.VersionStore

/-! # Runs of the configuration repositories -/

namespace CyberNetizen.Configurations

open Domain Infrastructure KeyedTable Publication

abbrev Answer := ConfigurationCommand × Except ConfigurationError ConfigVersion

def newIds (commands : List ConfigurationCommand) : List UUID :=
  commands.filterMap ConfigurationCommand.newId

section list

variable {refuses : ConfigurationCommand → Bool} {versions : List ConfigVersion}
  {command : ConfigurationCommand} {commands : List ConfigurationCommand}

/-- The identifiers that are in use after a call. -/
theorem accept_ids (versions : List ConfigVersion) (command : ConfigurationCommand) (id : UUID)
    (h : id ∈ (accept versions command).2.map ConfigVersion.id) :
    id ∈ versions.map ConfigVersion.id ∨ command.newId = some id := by
  cases command with
  | createDraft note values newId now =>
    simp only [accept, List.map_append, List.mem_append, List.map_singleton, List.mem_singleton] at h
    exact h.imp_right fun he ↦ congrArg some he.symm
  | publish versionId now =>
    left
    dsimp only [accept] at h
    cases hfind : versions.find? fun v ↦ v.id = versionId with
    | none => rwa [hfind] at h
    | some target =>
      rw [hfind] at h
      dsimp only at h
      split at h
      · exact h
      · rw [List.map_map] at h
        refine (congrArg (id ∈ ·) (List.map_congr_left fun v _ ↦ ?_)).mp h
        rw [Function.comp_apply]
        split
        · rfl
        · exact supersedeVersion_id v
  | rollback versionId newId createdAt publishedAt =>
    dsimp only [accept] at h
    cases hfind : versions.find? fun v ↦ v.id = versionId with
    | none =>
      rw [hfind] at h
      exact .inl h
    | some target =>
      rw [hfind] at h
      dsimp only at h
      split at h
      · exact .inl h
      · rw [List.map_append, map_supersede_ids, List.mem_append] at h
        exact h.imp_right fun he ↦ congrArg some (List.mem_singleton.mp he).symm

theorem apply_ids (refuses : ConfigurationCommand → Bool) (versions : List ConfigVersion)
    (command : ConfigurationCommand) (id : UUID)
    (h : id ∈ (apply refuses versions command).2.map ConfigVersion.id) :
    id ∈ versions.map ConfigVersion.id ∨ command.newId = some id := by
  unfold apply at h
  split at h
  · exact .inl h
  · exact accept_ids versions command id h

def Unused (versions : List ConfigVersion) (commands : List ConfigurationCommand) : Prop :=
  (newIds commands).Nodup ∧ ∀ id ∈ versions.map ConfigVersion.id, id ∉ newIds commands

theorem newIds_cons (command : ConfigurationCommand) (commands : List ConfigurationCommand) :
    newIds (command :: commands) = command.newId.toList ++ newIds commands := by
  unfold newIds
  rw [List.filterMap_cons]
  cases command.newId <;> rfl

theorem Unused.fresh (h : Unused versions (command :: commands)) : Fresh versions command := by
  intro id hid hmem
  refine h.2 id hmem ?_
  rw [newIds_cons, hid]
  exact List.mem_cons_self

theorem Unused.tail (h : Unused versions (command :: commands)) :
    Unused (apply refuses versions command).2 commands := by
  obtain ⟨hnodup, hunused⟩ := h
  rw [newIds_cons] at hnodup hunused
  refine ⟨(List.nodup_append.mp hnodup).2.1, fun id hid hlater ↦ ?_⟩
  rcases apply_ids refuses versions command id hid with hold | hnew
  · exact hunused id hold (List.mem_append_right _ hlater)
  · rw [hnew] at hnodup
    exact (List.nodup_append.mp hnodup).2.2 id (List.mem_singleton_self id) id hlater rfl

theorem run_history (refuses : ConfigurationCommand → Bool) (h : Unused versions commands) :
    History Eq (versions.map entryOf)
      ((Machine.run (apply refuses) versions commands).map entryOf) := by
  induction commands generalizing versions with
  | nil => exact .refl
  | cons command commands ih =>
    have htail : Unused (apply refuses versions command).2 commands := h.tail
    have hrest := ih htail
    rw [Machine.run]
    rcases apply_change refuses h.fresh with hsame | hchange
    · rw [hsame] at hrest ⊢
      exact hrest
    · exact Relation.ReflTransGen.head hchange hrest

theorem Unused.run {later : List ConfigurationCommand} (h : Unused versions (commands ++ later)) :
    Unused (Machine.run (apply refuses) versions commands) later := by
  induction commands generalizing versions with
  | nil => exact h
  | cons command commands ih => exact ih h.tail

end list

section laws

variable {σ α : Type} (step : σ → α → Option Answer × σ) (versions : σ → List ConfigVersion)
  (start : σ)

def answers (as : List α) : List Answer := (Machine.outputs step start as).reduceOption

/-- What holds of the versions along a run that begins without any. -/
structure VersionLaws (as : List α) : Prop where
  /-- The numbers are `1` to `n`. -/
  numbered : (versions (Machine.run step start as)).map ConfigVersion.version =
    List.range' 1 (versions (Machine.run step start as)).length
  /-- At most one version is published. -/
  single : ∀ v ∈ versions (Machine.run step start as), ∀ w ∈ versions (Machine.run step start as),
    v.status = .published → w.status = .published → v = w
  /-- A version stays with its number and values, and never returns to a draft. -/
  kept : ∀ bs cs, as = bs ++ cs → ∀ v ∈ versions (Machine.run step start bs),
    ∃ w ∈ versions (Machine.run step start as), w.id = v.id ∧ w.version = v.version ∧
      w.values = v.values ∧ (v.status ≠ .draft → w.status ≠ .draft)
  /-- A rollback publishes a new version with the values of its target, and the version that was
  published is superseded. -/
  rolledBack : ∀ bs a cs, as = bs ++ a :: cs → ∀ versionId id createdAt publishedAt new,
    (step (Machine.run step start bs) a).1 =
      some (.rollback versionId id createdAt publishedAt, .ok new) →
    (∃ v ∈ versions (Machine.run step start bs), v.id = versionId ∧ v.status ≠ .draft ∧
      new.values = v.values) ∧
    new.status = .published ∧
    new.version = (versions (Machine.run step start bs)).length + 1 ∧
    versions (step (Machine.run step start bs) a).2 =
      (versions (Machine.run step start bs)).map supersedeVersion ++ [new]

def Projects (refuses : ConfigurationCommand → Bool) (as : List α) : Prop :=
  versions (Machine.run step start as) =
      Machine.run (apply refuses) [] ((answers step start as).map Prod.fst) ∧
    (answers step start as).map Prod.snd =
      Machine.outputs (apply refuses) [] ((answers step start as).map Prod.fst)

variable {step versions start} {refuses : ConfigurationCommand → Bool} {as : List α}

theorem answers_append (bs cs : List α) :
    answers step start (bs ++ cs) =
      answers step start bs ++ answers step (Machine.run step start bs) cs := by
  unfold answers
  rw [Machine.outputs_append, List.reduceOption_append]

theorem answers_singleton (s : σ) (a : α) : answers step s [a] = (step s a).1.toList := by
  unfold answers Machine.outputs
  cases (step s a).1 <;> rfl

theorem answers_cons (s : σ) (a : α) (as : List α) :
    answers step s (a :: as) = (step s a).1.toList ++ answers step (step s a).2 as := by
  unfold answers
  rw [Machine.outputs]
  cases (step s a).1 <;> rfl

theorem Projects.call {bs : List α} {a : α} {answer : Answer}
    (h : Projects step versions start refuses bs)
    (h' : Projects step versions start refuses (bs ++ [a]))
    (ha : (step (Machine.run step start bs) a).1 = some answer) :
    (apply refuses (versions (Machine.run step start bs)) answer.1).1 = answer.2 ∧
      (apply refuses (versions (Machine.run step start bs)) answer.1).2 =
        versions (step (Machine.run step start bs) a).2 := by
  obtain ⟨hrun, hout⟩ := h'
  rw [answers_append, answers_singleton, ha, Machine.run_append] at hrun
  rw [answers_append, answers_singleton, ha] at hout
  simp only [Option.toList_some, List.map_append, List.map_cons, List.map_nil, Machine.run_append,
    Machine.outputs_append, ← h.1, ← h.2] at hrun hout
  have hlast := List.append_cancel_left hout
  exact ⟨(List.cons.inj hlast).1.symm, hrun.symm⟩

/-- What the list of versions obeys, the run obeys. -/
theorem laws_of_projects (refuses : ConfigurationCommand → Bool)
    (h : ∀ bs cs, as = bs ++ cs → Projects step versions start refuses bs)
    (hunused : Unused [] ((answers step start as).map Prod.fst)) :
    VersionLaws step versions start as := by
  have hwhole := (h as [] (List.append_nil as).symm).1
  have hlawful := (run_history refuses hunused).lawful .nil
  rw [← hwhole] at hlawful
  refine ⟨?_, ?_, ?_, ?_⟩
  · have hnumbers := hlawful.numbers
    rw [List.map_map, List.length_map] at hnumbers
    exact hnumbers
  · intro v hv w hw hpv hpw
    have hentry := hlawful.single (entryOf v) (List.mem_map_of_mem hv) (entryOf w)
      (List.mem_map_of_mem hw) (by simp [entryOf, hpv, statusOf]) (by simp [entryOf, hpw, statusOf])
    have hids := hlawful.ids
    rw [entries_ids] at hids
    exact List.inj_on_of_nodup_map hids hv hw (congrArg Entry.id hentry)
  · intro bs cs hcs v hv
    obtain ⟨hbs, -⟩ := h bs cs hcs
    rw [hcs, answers_append, List.map_append] at hunused hwhole
    rw [Machine.run_append (s := []), ← hbs] at hwhole
    have hlater : Unused (Machine.run (apply refuses) [] ((answers step start bs).map Prod.fst))
      ((answers step (Machine.run step start bs) cs).map Prod.fst) := hunused.run
    rw [← hbs] at hlater
    obtain ⟨e, he, hfollows⟩ := (run_history refuses hlater).follows (List.mem_map_of_mem hv)
    rw [← hwhole, ← hcs] at he
    obtain ⟨w, hw, rfl⟩ := List.mem_map.mp he
    refine ⟨w, hw, hfollows.id, hfollows.number, hfollows.content, fun hd hd' ↦ ?_⟩
    refine hfollows.left (fun he ↦ hd (statusOf_injective he)) ?_
    simp [entryOf, hd', statusOf]
  · intro bs a cs hcs versionId id createdAt publishedAt new hout
    have hbs := h bs (a :: cs) hcs
    have hbsa := h (bs ++ [a]) cs (by rw [hcs, List.append_assoc]; rfl)
    obtain ⟨hanswer, hnext⟩ := hbs.call hbsa hout
    obtain ⟨v, hv, hid, hdraft, hnew, hversions⟩ := apply_rollback hanswer
    refine ⟨⟨v, hv, hid, hdraft, ?_⟩, ?_, ?_, ?_⟩
    · rw [hnew]
      rfl
    · rw [hnew]
      rfl
    · rw [hnew]
      rfl
    · rw [← hnext]
      exact hversions

end laws

section repository

/-- What a configuration repository does, call after call, and the list of versions behind it. -/
structure Repository where
  State : Type
  start : State
  call : State → ConfigurationCommand → Except ConfigurationError ConfigVersion × State
  getVersion : State → UUID → Option ConfigVersion
  getPublished : State → Option ConfigVersion
  versions : State → List ConfigVersion
  refuses : ConfigurationCommand → Bool
  Kept : State → Prop
  kept_start : Kept start
  versions_start : versions start = []
  getVersion_eq : ∀ s id, getVersion s id = (versions s).find? fun v ↦ v.id = id
  getPublished_eq : ∀ s, getPublished s = (versions s).find? fun v ↦ v.status = .published
  call_eq : ∀ s command, Kept s → Fresh (versions s) command →
    (call s command).1 = (apply refuses (versions s) command).1 ∧
      versions (call s command).2 = (apply refuses (versions s) command).2 ∧
      Kept (call s command).2

def memoryRepository : Repository where
  State := MemoryConfigurationRepository.Store
  start := .empty
  call := MemoryConfigurationRepository.call
  getVersion := MemoryConfigurationRepository.getVersion
  getPublished := MemoryConfigurationRepository.getPublished
  versions store := store.versions.rows
  refuses _ := false
  Kept := Counted
  kept_start := counted_empty
  versions_start := rfl
  getVersion_eq _ _ := rfl
  getPublished_eq _ := rfl
  call_eq _ _ hcount hfresh := memory_call hcount hfresh

def sqlRepository (orderBy : ConfigEntry → ConfigEntry → Bool) : Repository where
  State := SqlAlchemyConfigurationRepository.Tables
  start := .empty
  call := Exclusive.serial (SqlAlchemyConfigurationRepository.transaction orderBy)
  getVersion := SqlAlchemyConfigurationRepository.getVersion orderBy
  getPublished := SqlAlchemyConfigurationRepository.getPublished orderBy
  versions := versionsOf orderBy
  refuses := carriesValues
  Kept := Stored
  kept_start := stored_empty
  versions_start := rfl
  getVersion_eq _ versionId := (find_snapshot versionId).symm
  getPublished_eq tables := (find_published tables).symm
  call_eq _ _ h hfresh := sql_call h hfresh

variable (r : Repository) {s : r.State} {commands : List ConfigurationCommand}

theorem Repository.run_eq (hkept : r.Kept s) (hunused : Unused (r.versions s) commands) :
    r.versions (Machine.run r.call s commands) =
        Machine.run (apply r.refuses) (r.versions s) commands ∧
      Machine.outputs r.call s commands =
        Machine.outputs (apply r.refuses) (r.versions s) commands := by
  induction commands generalizing s with
  | nil => exact ⟨rfl, rfl⟩
  | cons command commands ih =>
    obtain ⟨hanswer, hversions, hkept'⟩ := r.call_eq s command hkept hunused.fresh
    have hunused' : Unused (apply r.refuses (r.versions s) command).2 commands := hunused.tail
    rw [← hversions] at hunused'
    obtain ⟨hrun, hout⟩ := ih hkept' hunused'
    rw [hversions] at hrun hout
    exact ⟨hrun, List.cons_eq_cons.mpr ⟨hanswer, hout⟩⟩

end repository

section agreement

def memoryStep (store : MemoryConfigurationRepository.Store) (command : ConfigurationCommand) :
    Option Answer × MemoryConfigurationRepository.Store :=
  (some (command, (MemoryConfigurationRepository.call store command).1),
    (MemoryConfigurationRepository.call store command).2)

theorem memory_answers (store : MemoryConfigurationRepository.Store)
    (commands : List ConfigurationCommand) :
    Machine.run memoryStep store commands =
        Machine.run MemoryConfigurationRepository.call store commands ∧
      (answers memoryStep store commands).map Prod.fst = commands ∧
      (answers memoryStep store commands).map Prod.snd =
        Machine.outputs MemoryConfigurationRepository.call store commands := by
  induction commands generalizing store with
  | nil => exact ⟨rfl, rfl, rfl⟩
  | cons command commands ih =>
    obtain ⟨hrun, hfst, hsnd⟩ := ih (MemoryConfigurationRepository.call store command).2
    rw [answers_cons, List.map_append, List.map_append]
    exact ⟨hrun, congrArg _ hfst, congrArg _ hsnd⟩

theorem unused_nil {commands : List ConfigurationCommand} (h : (newIds commands).Nodup) :
    Unused [] commands :=
  ⟨h, fun _ hid ↦ absurd hid List.not_mem_nil⟩

theorem memory_laws {commands : List ConfigurationCommand} (hfresh : (newIds commands).Nodup) :
    VersionLaws memoryStep (fun store ↦ store.versions.rows) .empty commands := by
  refine laws_of_projects memoryRepository.refuses ?_ ?_
  · intro bs cs hcs
    obtain ⟨hstore, hfst, hsnd⟩ := memory_answers .empty bs
    have hbs : (newIds bs).Sublist (newIds commands) :=
      (hcs ▸ List.sublist_append_left bs cs).filterMap ConfigurationCommand.newId
    obtain ⟨hrun, hout⟩ :=
      memoryRepository.run_eq memoryRepository.kept_start (unused_nil (hbs.nodup hfresh))
    unfold Projects
    rw [hfst, hstore]
    exact ⟨hrun, hsnd.trans hout⟩
  · rw [(memory_answers .empty commands).2.1]
    exact unused_nil hfresh

/-- The two repositories answer alike as long as no draft carries a value. -/
theorem outputs_eq_iff (versions : List ConfigVersion) (commands : List ConfigurationCommand) :
    Machine.outputs (apply fun _ ↦ false) versions commands =
        Machine.outputs (apply carriesValues) versions commands ↔
      ∀ command ∈ commands, carriesValues command = false := by
  induction commands generalizing versions with
  | nil => exact iff_of_true rfl fun _ h ↦ absurd h List.not_mem_nil
  | cons command commands ih =>
    rw [Machine.outputs, Machine.outputs, List.cons_eq_cons, List.forall_mem_cons]
    cases hcarries : carriesValues command with
    | false =>
      have hmemory : apply (fun _ ↦ false) versions command = accept versions command :=
        apply_eq_accept rfl
      rw [hmemory, apply_eq_accept hcarries, ih]
      simp
    | true =>
      refine iff_of_false (fun h ↦ ?_) (by simp)
      cases command with
      | createDraft note values id now =>
        have hrefused : (apply carriesValues versions (.createDraft note values id now)).1 =
            .error .integrity := by
          unfold apply
          rw [hcarries]
          rfl
        cases h.1.trans hrefused
      | publish versionId now => cases hcarries
      | rollback versionId id createdAt publishedAt => cases hcarries

variable {ι : Type} [DecidableEq ι]

def sqlStart : Exclusive.World SqlAlchemyConfigurationRepository.Tables ConfigurationError
    ConfigVersion ι ConfigurationCommand := ⟨.empty, none⟩

def begun (schedule : List (Exclusive.Action ι ConfigurationCommand)) : List ConfigurationCommand :=
  schedule.filterMap Exclusive.Action.request?

def sqlAnswers (orderBy : ConfigEntry → ConfigEntry → Bool)
    (schedule : List (Exclusive.Action ι ConfigurationCommand)) : List Answer :=
  Exclusive.ended (SqlAlchemyConfigurationRepository.transaction orderBy) sqlStart schedule

variable {orderBy : ConfigEntry → ConfigEntry → Bool}
  {schedule : List (Exclusive.Action ι ConfigurationCommand)}

theorem ended_begun : ((sqlAnswers orderBy schedule).map Prod.fst).Sublist (begun schedule) :=
  Exclusive.ended_sublist schedule

theorem ended_unused (hfresh : (newIds (begun schedule)).Nodup) :
    Unused [] ((sqlAnswers orderBy schedule).map Prod.fst) :=
  unused_nil ((ended_begun.filterMap ConfigurationCommand.newId).nodup hfresh)

theorem sql_projects (hfresh : (newIds (begun schedule)).Nodup) :
    Projects (Exclusive.step (SqlAlchemyConfigurationRepository.transaction orderBy))
      (fun w ↦ versionsOf orderBy w.committed) sqlStart carriesValues schedule := by
  obtain ⟨hcommitted, hended⟩ := Exclusive.run_serial
    (Exclusive.synced_start SqlAlchemyConfigurationRepository.Tables.empty) schedule
  obtain ⟨hrun, hout⟩ :=
    (sqlRepository orderBy).run_eq (sqlRepository orderBy).kept_start (ended_unused hfresh)
  exact ⟨(congrArg (versionsOf orderBy) hcommitted).trans hrun, hended.trans hout⟩

omit [DecidableEq ι] in
theorem begun_sublist {bs cs : List (Exclusive.Action ι ConfigurationCommand)}
    (h : schedule = bs ++ cs) : (begun bs).Sublist (begun schedule) := by
  unfold begun
  rw [h, List.filterMap_append]
  exact List.sublist_append_left _ _

theorem sql_laws (hfresh : (newIds (begun schedule)).Nodup) :
    VersionLaws (Exclusive.step (SqlAlchemyConfigurationRepository.transaction orderBy))
      (fun w ↦ versionsOf orderBy w.committed) sqlStart schedule := by
  refine laws_of_projects carriesValues ?_ (ended_unused hfresh)
  intro bs cs hcs
  exact sql_projects (((begun_sublist hcs).filterMap ConfigurationCommand.newId).nodup hfresh)

/-- Both repositories number their versions from one on, publish at most one of them, keep what
they have made, and roll back to a copy, in every run of calls and in every interleaving of
transactions. They answer the same calls alike exactly if no draft is to hold a value. -/
theorem repositories_agree_iff (orderBy : ConfigEntry → ConfigEntry → Bool)
    (commands : List ConfigurationCommand)
    (schedule : List (Exclusive.Action ι ConfigurationCommand))
    (hcommands : (newIds commands).Nodup) (hschedule : (newIds (begun schedule)).Nodup) :
    VersionLaws memoryStep (fun store ↦ store.versions.rows) .empty commands ∧
      VersionLaws (Exclusive.step (SqlAlchemyConfigurationRepository.transaction orderBy))
        (fun w ↦ versionsOf orderBy w.committed) sqlStart schedule ∧
      (Machine.outputs MemoryConfigurationRepository.call .empty commands =
          Machine.outputs
            (Exclusive.serial (SqlAlchemyConfigurationRepository.transaction orderBy)) .empty commands ↔
        ∀ command ∈ commands, carriesValues command = false) ∧
      ((∀ command ∈ begun schedule, carriesValues command = false) →
        Machine.outputs MemoryConfigurationRepository.call .empty
            ((sqlAnswers orderBy schedule).map Prod.fst) =
          (sqlAnswers orderBy schedule).map Prod.snd) := by
  refine ⟨memory_laws hcommands, sql_laws hschedule, ?_, fun hempty ↦ ?_⟩
  · have hmemory := (memoryRepository.run_eq memoryRepository.kept_start (unused_nil hcommands)).2
    have hsql := ((sqlRepository orderBy).run_eq (sqlRepository orderBy).kept_start
      (unused_nil hcommands)).2
    exact (Iff.of_eq (congrArg₂ Eq hmemory hsql)).trans (outputs_eq_iff [] commands)
  · have hunused : Unused [] ((sqlAnswers orderBy schedule).map Prod.fst) := ended_unused hschedule
    have hmemory := (memoryRepository.run_eq memoryRepository.kept_start hunused).2
    have hended : (sqlAnswers orderBy schedule).map Prod.snd =
        Machine.outputs (apply carriesValues) [] ((sqlAnswers orderBy schedule).map Prod.fst) :=
      (sql_projects hschedule).2
    rw [hended]
    exact hmemory.trans ((outputs_eq_iff _ _).mpr fun c hc ↦ hempty c (ended_begun.subset hc))

section sample

def draftWithValue : List ConfigurationCommand :=
  [.createDraft none [⟨"proactive.enabled", .system, .bool true, none⟩] 1 10, .publish 1 11]

def byKey (entry entry' : ConfigEntry) : Bool := entry.key ≤ entry'.key

def sampleSchedule : List (Exclusive.Action Bool ConfigurationCommand) :=
  [.begin true (.createDraft none [] 1 10), .begin false (.publish 1 11), .statement true,
    .statement true, .statement true, .finish true, .begin false (.publish 1 12), .statement false,
    .statement false, .statement false, .statement false, .finish false]

theorem repositories_agree_iff_sample :
    ((newIds draftWithValue).Nodup ∧ (newIds (begun sampleSchedule)).Nodup) ∧
      (Machine.outputs MemoryConfigurationRepository.call .empty draftWithValue =
          Machine.outputs (Exclusive.serial
            (SqlAlchemyConfigurationRepository.transaction byKey)) .empty draftWithValue ↔
        ∀ command ∈ draftWithValue, carriesValues command = false) ∧
      Machine.outputs MemoryConfigurationRepository.call .empty
          ((sqlAnswers byKey sampleSchedule).map Prod.fst) =
        (sqlAnswers byKey sampleSchedule).map Prod.snd := by
  have hcommands : (newIds draftWithValue).Nodup := by decide
  have hschedule : (newIds (begun sampleSchedule)).Nodup := by decide
  obtain ⟨-, -, hiff, hagree⟩ :=
    repositories_agree_iff byKey draftWithValue sampleSchedule hcommands hschedule
  exact ⟨⟨hcommands, hschedule⟩, hiff, hagree (by decide)⟩

def succeeded (results : List (Except ConfigurationError ConfigVersion)) : List Bool :=
  results.map fun result ↦ result.toOption.isSome

/-- In memory the draft is made and published; in the database it is refused, and then missing. -/
theorem draft_with_value_refused :
    Machine.outputs MemoryConfigurationRepository.call .empty draftWithValue ≠
      Machine.outputs (Exclusive.serial
        (SqlAlchemyConfigurationRepository.transaction byKey)) .empty draftWithValue := by
  intro h
  have hmemory : succeeded (Machine.outputs MemoryConfigurationRepository.call .empty draftWithValue) =
      [true, true] := by decide +kernel
  have hsql : succeeded (Machine.outputs (Exclusive.serial
      (SqlAlchemyConfigurationRepository.transaction byKey)) .empty draftWithValue) =
      [false, false] := by decide +kernel
  rw [h, hsql] at hmemory
  cases hmemory

end sample

end agreement

end CyberNetizen.Configurations
