import CyberNetizen.Cognition.ResourceTransactions
import CyberNetizen.Lib.Machine

/-! # Runs of the version store of cognition resources -/

namespace CyberNetizen.Cognition

open Domain Infrastructure SqlAlchemyCognitionRepository KeyedTable Publication ReadCommitted

variable {ι : Type} [DecidableEq ι]

abbrev ResourceWorld (ι : Type) :=
  World CognitionResourceVersion.id uniqueKeys CognitionError CognitionResourceVersion ι
    CognitionCommand

def resourceStep (w : ResourceWorld ι) (a : Action ι CognitionCommand) :
    Option (CognitionCommand × Except CognitionError CognitionResourceVersion) × ResourceWorld ι :=
  ReadCommitted.step transaction w a

def resourceRun (schedule : List (Action ι CognitionCommand)) : ResourceWorld ι :=
  Machine.run resourceStep (World.start .empty) schedule

def resourcesAfter (schedule : List (Action ι CognitionCommand)) : Resources :=
  (resourceRun schedule).committed

def rollbackTarget? : CognitionCommand → Option UUID
  | .rollbackResource resourceId _ _ _ _ _ _ => some resourceId
  | _ => none

/-- What holds of the versions when a schedule has been run. -/
structure ResourceLaws (schedule : List (Action ι CognitionCommand)) : Prop where
  /-- The versions of a key are `1` to `n`. -/
  numbered : ∀ scope, (versionsOf (resourcesAfter schedule) scope).map CognitionResourceVersion.version =
    List.range' 1 (versionsOf (resourcesAfter schedule) scope).length
  /-- At most one of them is published. -/
  single : ∀ v ∈ resourcesAfter schedule, ∀ w ∈ resourcesAfter schedule, v.scope = w.scope →
    v.status = .published → w.status = .published → v = w
  /-- After the first publication one always is. -/
  live : ∀ before, before <+: schedule → ∀ v ∈ resourcesAfter before, v.status = .published →
    ∃ w ∈ resourcesAfter schedule, w.scope = v.scope ∧ w.status = .published
  /-- No version goes away, changes its payload or returns to a draft. -/
  kept : ∀ before, before <+: schedule → ∀ v ∈ resourcesAfter before,
    ∃ w ∈ resourcesAfter schedule, w.id = v.id ∧ w.scope = v.scope ∧ w.version = v.version ∧
      w.payload = v.payload ∧ (v.status ≠ .draft → w.status ≠ .draft)
  /-- A version that a run has pinned is read with the same payload. -/
  readable : ∀ before, before <+: schedule → ∀ scope number v,
    getResourceVersion (resourcesAfter before) scope number = some v →
    ∃ w, getResourceVersion (resourcesAfter schedule) scope number = some w ∧ w.id = v.id ∧
      w.payload = v.payload
  /-- What is rolled back to has been published before. -/
  released : ∀ before a, before ++ [a] <+: schedule → ∀ command target new,
    (resourceStep (resourceRun before) a).1 = some (command, .ok new) →
    rollbackTarget? command = some target →
    ∃ earlier, earlier <+: before ∧ ∃ v ∈ resourcesAfter earlier, v.id = target ∧
      v.status = .published

def TargetReleased (w : ResourceWorld ι) (a : Action ι CognitionCommand) : Prop :=
  ∀ t ∈ w.txns, a = .advance t.client → (∃ row, t.body = .done row) →
    ∀ target, rollbackTarget? t.request = some target →
    ∀ r ∈ w.committed, r.id = target → r.status ≠ .draft

section run

variable {schedule before : List (Action ι CognitionCommand)} {a : Action ι CognitionCommand}

theorem start_inv : versionDiscipline.inv (.empty : Resources) := fun _ ↦ Lawful.nil

theorem start_uniq : Uniq uniqueKeys (.empty : Resources) :=
  fun r hr ↦ absurd hr (Table.not_mem_empty r)

theorem run_good (schedule : List (Action ι CognitionCommand)) :
    Good versionDiscipline (resourceRun schedule) :=
  good_run transaction_implements (good_start start_inv start_uniq) schedule

theorem run_append (schedule later : List (Action ι CognitionCommand)) :
    resourceRun (schedule ++ later) = Machine.run resourceStep (resourceRun schedule) later :=
  Machine.run_append

theorem run_concat (schedule : List (Action ι CognitionCommand)) (a : Action ι CognitionCommand) :
    resourceRun (schedule ++ [a]) = (resourceStep (resourceRun schedule) a).2 :=
  run_append schedule [a]

theorem run_shows (schedule : List (Action ι CognitionCommand)) (a : Action ι CognitionCommand) :
    Shows versionDiscipline (resourcesAfter schedule) (resourcesAfter (schedule ++ [a]))
      (resourceStep (resourceRun schedule) a).1 := by
  unfold resourcesAfter
  rw [run_concat]
  exact ((run_good schedule).step transaction_implements a).2

theorem run_change (schedule : List (Action ι CognitionCommand)) (a : Action ι CognitionCommand)
    (scope : ResourceScope) :
    entries (resourcesAfter (schedule ++ [a])) scope = entries (resourcesAfter schedule) scope ∨
      Change Eq (entries (resourcesAfter schedule) scope)
        (entries (resourcesAfter (schedule ++ [a])) scope) := by
  have hshows := run_shows schedule a
  cases hout : (resourceStep (resourceRun schedule) a).1 with
  | none =>
    rw [hout] at hshows
    exact .inl (congrArg (entries · scope) hshows)
  | some answer =>
    rw [hout] at hshows
    obtain ⟨command, result⟩ := answer
    cases result with
    | error error => exact .inl (congrArg (entries · scope) hshows)
    | ok row => exact hshows.change scope

theorem run_history (h : before <+: schedule) (scope : ResourceScope) :
    History Eq (entries (resourcesAfter before) scope) (entries (resourcesAfter schedule) scope) := by
  obtain ⟨later, rfl⟩ := h
  induction later using List.reverseRecOn with
  | nil =>
    rw [List.append_nil]
    exact .refl
  | append_singleton later a ih =>
    rw [← List.append_assoc]
    rcases run_change (before ++ later) a scope with hsame | hchange
    · rw [hsame]
      exact ih
    · exact ih.tail hchange

theorem run_lawful (schedule : List (Action ι CognitionCommand)) (scope : ResourceScope) :
    Lawful (entries (resourcesAfter schedule) scope) := (run_good schedule).inv scope

theorem run_follows (h : before <+: schedule) {v : CognitionResourceVersion}
    (hv : v ∈ resourcesAfter before) : ∃ w ∈ resourcesAfter schedule, w.scope = v.scope ∧
      Follows (entryOf v) (entryOf w) := by
  obtain ⟨e, he, hfollows⟩ := (run_history h v.scope).follows (mem_entries.mpr ⟨v, hv, rfl, rfl⟩)
  obtain ⟨w, hw, hscope, rfl⟩ := mem_entries.mp he
  exact ⟨w, hw, hscope, hfollows⟩

theorem not_draft_of_follows {v w : CognitionResourceVersion} (h : Follows (entryOf v) (entryOf w))
    (hv : v.status ≠ .draft) : w.status ≠ .draft := by
  intro hw
  refine h.left (fun he ↦ hv (statusOf_injective he)) ?_
  exact congrArg statusOf hw

/-- A version that is not a draft has been published. -/
theorem published_before (schedule : List (Action ι CognitionCommand)) {v : CognitionResourceVersion}
    (hv : v ∈ resourcesAfter schedule) (hd : v.status ≠ .draft) :
    ∃ earlier, earlier <+: schedule ∧ ∃ u ∈ resourcesAfter earlier, u.id = v.id ∧
      u.status = .published := by
  induction schedule using List.reverseRecOn generalizing v with
  | nil => exact absurd hv (Table.not_mem_empty v)
  | append_singleton schedule a ih =>
    by_cases hp : v.status = .published
    · exact ⟨schedule ++ [a], List.prefix_rfl, v, hv, rfl, hp⟩
    · -- Superseded now: published or superseded before this action.
      have hbefore : ∃ u ∈ resourcesAfter schedule, u.id = v.id ∧ u.status ≠ .draft := by
        have hve := mem_entries.mpr ⟨v, hv, rfl, rfl⟩
        have hsuperseded : (entryOf v).status = .superseded := by
          unfold entryOf
          cases hstatus : v.status with
          | draft => exact absurd hstatus hd
          | published => exact absurd hstatus hp
          | superseded => rfl
        have hold : ∃ e ∈ entries (resourcesAfter schedule) v.scope,
            e.id = v.id ∧ e.status ≠ .draft := by
          rcases run_change schedule a v.scope with hsame | hchange
          · rw [hsame] at hve
            exact ⟨entryOf v, hve, rfl, by rw [hsuperseded]; simp⟩
          · exact hchange.superseded hve hsuperseded
        obtain ⟨e, he, hid, hnot⟩ := hold
        obtain ⟨u, hu, -, rfl⟩ := mem_entries.mp he
        exact ⟨u, hu, hid, fun hdu ↦ hnot (congrArg statusOf hdu)⟩
      obtain ⟨u, hu, hid, hud⟩ := hbefore
      obtain ⟨earlier, hinitial, q, hq, hqid, hqp⟩ := ih hu hud
      exact ⟨earlier, hinitial.trans (List.prefix_append schedule [a]), q, hq, hqid.trans hid, hqp⟩

theorem rollback_target {command : CognitionCommand} {target : UUID}
    {new : CognitionResourceVersion}
    (hout : (resourceStep (resourceRun before) a).1 = some (command, .ok new))
    (htarget : rollbackTarget? command = some target) :
    ∃ r ∈ resourcesAfter before, r.id = target := by
  have hshows := run_shows before a
  rw [hout] at hshows
  cases command with
  | createResourceDraft => cases htarget
  | publishResource => cases htarget
  | rollbackResource =>
    obtain ⟨r, hr, hid, -⟩ := hshows
    exact ⟨r, hr, hid.trans (Option.some.inj htarget)⟩

/-- A call that ends well has come to its commit. -/
theorem ended_transaction {w : ResourceWorld ι} {command : CognitionCommand}
    {new : CognitionResourceVersion} (hout : (resourceStep w a).1 = some (command, .ok new)) :
    ∃ t ∈ w.txns, a = .advance t.client ∧ t.body = .done new ∧ t.request = command := by
  unfold resourceStep at hout
  cases a with
  | begin client request =>
    dsimp only [ReadCommitted.step] at hout
    cases hfind : w.txns.find? client with
    | none =>
      rw [hfind] at hout
      cases hout
    | some t =>
      rw [hfind] at hout
      cases hout
  | abort client => cases hout
  | advance client =>
    dsimp only [ReadCommitted.step] at hout
    cases hfind : w.txns.find? client with
    | none =>
      rw [hfind] at hout
      cases hout
    | some t =>
      rw [hfind] at hout
      obtain ⟨ht, rfl⟩ := Table.find?_eq_some.mp hfind
      dsimp only at hout
      cases hnext : ReadCommitted.advance w t with
      | commits result =>
        rw [hnext] at hout
        cases hout
        exact ⟨t, ht, rfl, body_of_commits hnext, rfl⟩
      | waits =>
        rw [hnext] at hout
        cases hout
      | goes data body =>
        rw [hnext] at hout
        cases hout
      | fails error =>
        rw [hnext] at hout
        cases hout

theorem committing {w : ResourceWorld ι} {t : Txn CognitionResourceVersion.id uniqueKeys CognitionError
    CognitionResourceVersion ι CognitionCommand} {row : CognitionResourceVersion} (ht : t ∈ w.txns)
    (hbody : t.body = .done row) :
    (resourceStep w (.advance t.client)).1 = some (t.request, .ok row) := by
  unfold resourceStep
  dsimp only [ReadCommitted.step]
  rw [Table.find?_key ht]
  dsimp only [ReadCommitted.advance]
  rw [hbody]

theorem ResourceLaws.targets (h : ResourceLaws schedule) (hinitial : before ++ [a] <+: schedule) :
    TargetReleased (resourceRun before) a := by
  rintro t ht rfl ⟨row, hbody⟩ target htarget r hr hid
  obtain ⟨earlier, hearlier, v, hv, hvid, hpublished⟩ :=
    h.released before _ hinitial t.request target row (committing ht hbody) htarget
  obtain ⟨w, hw, -, hfollows⟩ := run_follows hearlier hv
  obtain rfl : w = r := Table.eq_of_key_eq hw hr (hfollows.id.trans (hvid.trans hid.symm))
  exact not_draft_of_follows hfollows (by rw [hpublished]; simp)

theorem numbered_of_lawful {db : Resources} {scope : ResourceScope}
    (h : Lawful (entries db scope)) :
    (versionsOf db scope).map CognitionResourceVersion.version =
      List.range' 1 (versionsOf db scope).length := by
  have hnumbers := h.numbers
  unfold entries at hnumbers
  rwa [List.map_map, List.length_map] at hnumbers

theorem eq_of_number {db : Resources} {v w : CognitionResourceVersion} (huniq : Uniq uniqueKeys db)
    (hv : v ∈ db) (hw : w ∈ db) (hscope : v.scope = w.scope) (hnumber : v.version = w.version) :
    v = w := by
  by_contra hne
  refine huniq v hv w hw (fun hid ↦ hne (Table.eq_of_key_eq hv hw hid)) (number_mem v) ?_
  rw [hscope, hnumber]
  exact number_mem w

theorem getResourceVersion_eq_some {db : Resources} (huniq : Uniq uniqueKeys db)
    {scope : ResourceScope} {number : ℕ} {v : CognitionResourceVersion} :
    getResourceVersion db scope number = some v ↔ v ∈ db ∧ v.scope = scope ∧ v.version = number := by
  unfold getResourceVersion
  constructor
  · intro h
    refine ⟨List.mem_of_find?_eq_some h, ?_⟩
    simpa using List.find?_some h
  · rintro ⟨hv, rfl, rfl⟩
    cases hfind : db.rows.find? fun r ↦ r.scope = v.scope && r.version = v.version with
    | none =>
      have hno := List.find?_eq_none.mp hfind v hv
      simp at hno
    | some w =>
      have hw : w.scope = v.scope ∧ w.version = v.version := by simpa using List.find?_some hfind
      exact congrArg some
        (eq_of_number huniq (List.mem_of_find?_eq_some hfind) hv hw.1 hw.2)

/-- The version store keeps its laws in exactly the runs in which no draft is rolled back to. -/
theorem resource_laws_iff (schedule : List (Action ι CognitionCommand)) :
    ResourceLaws schedule ↔
      ∀ before a, before ++ [a] <+: schedule → TargetReleased (resourceRun before) a := by
  refine ⟨fun h before a hinitial ↦ h.targets hinitial, fun h ↦ ⟨?_, ?_, ?_, ?_, ?_, ?_⟩⟩
  · exact fun scope ↦ numbered_of_lawful (run_lawful schedule scope)
  · intro v hv w hw hscope hpv hpw
    have hentry := (run_lawful schedule v.scope).single (entryOf v) (mem_entries.mpr ⟨v, hv, rfl, rfl⟩)
      (entryOf w) (mem_entries.mpr ⟨w, hw, hscope.symm, rfl⟩) (congrArg statusOf hpv)
      (congrArg statusOf hpw)
    exact Table.eq_of_key_eq hv hw (congrArg Entry.id hentry)
  · intro before hinitial v hv hp
    obtain ⟨e, he, hpe⟩ := (run_history hinitial v.scope).live
      ⟨entryOf v, mem_entries.mpr ⟨v, hv, rfl, rfl⟩, congrArg statusOf hp⟩
    obtain ⟨w, hw, hscope, rfl⟩ := mem_entries.mp he
    exact ⟨w, hw, hscope, statusOf_injective hpe⟩
  · intro before hinitial v hv
    obtain ⟨w, hw, hscope, hfollows⟩ := run_follows hinitial hv
    exact ⟨w, hw, hfollows.id, hscope, hfollows.number, hfollows.content,
      not_draft_of_follows hfollows⟩
  · intro before hinitial scope number v hv
    obtain ⟨hmem, rfl, rfl⟩ := (getResourceVersion_eq_some (run_good before).uniq).mp hv
    obtain ⟨w, hw, hscope, hfollows⟩ := run_follows hinitial hmem
    exact ⟨w, (getResourceVersion_eq_some (run_good schedule).uniq).mpr ⟨hw, hscope, hfollows.number⟩,
      hfollows.id, hfollows.content⟩
  · intro before a hinitial command target new hout htarget
    obtain ⟨r, hr, hid⟩ := rollback_target hout htarget
    obtain ⟨t, ht, ha, hbody, rfl⟩ := ended_transaction hout
    have hnot := h before a hinitial t ht ha ⟨new, hbody⟩ target htarget r hr hid
    obtain ⟨earlier, hearlier, v, hv, hvid, hp⟩ := published_before before hr hnot
    exact ⟨earlier, hearlier, v, hv, hvid.trans hid, hp⟩

def draftRolledBack : List (Action ℕ CognitionCommand) :=
  [.begin 0 (.createResourceDraft ⟨1, 2, .persona, "core"⟩ "核心人格" [] none 3 4 100),
    .advance 0, .advance 0, .advance 0,
    .begin 0 (.rollbackResource 4 1 2 3 5 200 200),
    .advance 0, .advance 0, .advance 0, .advance 0, .advance 0]

def rolledBackTo (answer : Option (CognitionCommand × Except CognitionError CognitionResourceVersion)) :
    Option UUID :=
  match answer with
  | some (command, .ok _) => rollbackTarget? command
  | _ => none

theorem draft_rolled_back : ¬∀ schedule : List (Action ℕ CognitionCommand), ResourceLaws schedule := by
  intro h
  have hreleased := (h (draftRolledBack ++ [.advance 0])).targets List.prefix_rfl
  have hanswer : rolledBackTo (resourceStep (resourceRun draftRolledBack) (.advance 0)).1 = some 4 := by
    decide +kernel
  have hdraft : ∃ r ∈ (resourceRun draftRolledBack).committed.rows, r.id = 4 ∧ r.status = .draft := by
    decide +kernel
  obtain ⟨r, hr, hid, hstatus⟩ := hdraft
  cases hout : (resourceStep (resourceRun draftRolledBack) (.advance 0)).1 with
  | none =>
    rw [hout] at hanswer
    cases hanswer
  | some answer =>
    rw [hout] at hanswer
    obtain ⟨command, result⟩ := answer
    cases result with
    | error error => cases hanswer
    | ok new =>
      obtain ⟨t, ht, ha, hbody, rfl⟩ := ended_transaction hout
      exact hreleased t ht ha ⟨new, hbody⟩ 4 hanswer r hr hid hstatus

end run

end CyberNetizen.Cognition
