import CyberNetizen.Infrastructure.CognitionRepository
import CyberNetizen.Lib.Publication
import CyberNetizen.Lib.RelyGuarantee

/-! # What the calls do to the versions of a resource -/

namespace CyberNetizen.Cognition

open Domain Infrastructure SqlAlchemyCognitionRepository KeyedTable Publication ReadCommitted

def statusOf : CognitionVersionStatus → Publication.Status
  | .draft => .draft
  | .published => .published
  | .superseded => .superseded

theorem statusOf_injective : Function.Injective statusOf := by
  intro a b h
  cases a <;> cases b <;> first | rfl | cases h

def entryOf (r : CognitionResourceVersion) : Entry UUID JsonObject :=
  ⟨r.id, r.version, statusOf r.status, r.payload⟩

def versionsOf (resources : Resources) (scope : ResourceScope) : List CognitionResourceVersion :=
  resources.rows.filter fun r ↦ r.scope = scope

def entries (resources : Resources) (scope : ResourceScope) : List (Entry UUID JsonObject) :=
  (versionsOf resources scope).map entryOf

def supersedeIn (scope : ResourceScope) (r : CognitionResourceVersion) : CognitionResourceVersion :=
  if publishedIn scope r then superseded.toUpdate r else r

def Effect : CognitionCommand → CognitionResourceVersion → Resources → Resources → Prop
  | .createResourceDraft scope name payload note actorId id now, row, db, db' =>
    row = draftRow scope ((versionsOf db scope).length + 1) name payload note actorId id now ∧
      (∀ r ∈ db, r.id ≠ id) ∧ db'.rows = db.rows ++ [row]
  | .publishResource resourceId tenantId agentId now, row, db, db' =>
    ∃ r ∈ db, r.id = resourceId ∧ r.tenantId = tenantId ∧ r.agentId = agentId ∧ r.status = .draft ∧
      row = publishedRow r now ∧
      db'.rows = db.rows.map fun s ↦ if s.id = r.id then row else supersedeIn r.scope s
  | .rollbackResource resourceId tenantId agentId actorId id createdAt publishedAt, row, db, db' =>
    ∃ r ∈ db, r.id = resourceId ∧ r.tenantId = tenantId ∧ r.agentId = agentId ∧
      row = rolledBackRow ((versionsOf db r.scope).length + 1) r actorId id createdAt publishedAt ∧
      (∀ s ∈ db, s.id ≠ id) ∧ db'.rows = db.rows.map (supersedeIn r.scope) ++ [row]

section change

variable {db db' : Resources} {scope scope' : ResourceScope} {r s row : CognitionResourceVersion}

theorem mem_versionsOf : r ∈ versionsOf db scope ↔ r ∈ db ∧ r.scope = scope := by
  unfold versionsOf
  rw [List.mem_filter, decide_eq_true_eq]
  rfl

theorem mem_entries {e : Entry UUID JsonObject} :
    e ∈ entries db scope ↔ ∃ r ∈ db, r.scope = scope ∧ entryOf r = e := by
  unfold entries
  rw [List.mem_map]
  exact exists_congr fun r ↦ by rw [mem_versionsOf, and_assoc]

theorem supersedeIn_scope (scope : ResourceScope) (r : CognitionResourceVersion) :
    (supersedeIn scope r).scope = r.scope := by
  unfold supersedeIn
  split <;> rfl

theorem publishedIn_iff : publishedIn scope r = true ↔ r.scope = scope ∧ r.status = .published := by
  simp [publishedIn]

theorem supersedeIn_of_ne (h : r.scope ≠ scope) : supersedeIn scope r = r := by
  unfold supersedeIn
  exact if_neg fun hp ↦ h (publishedIn_iff.mp hp).1

theorem entryOf_supersedeIn (h : r.scope = scope) :
    entryOf (supersedeIn scope r) = supersede (entryOf r) := by
  unfold supersedeIn supersede
  by_cases hp : r.status = .published
  · rw [if_pos (publishedIn_iff.mpr ⟨h, hp⟩), if_pos (by simp [entryOf, hp, statusOf])]
    rfl
  · rw [if_neg fun h' ↦ hp (publishedIn_iff.mp h').2, if_neg]
    exact fun h' ↦ hp (statusOf_injective h')

theorem versionsOf_map {f : CognitionResourceVersion → CognitionResourceVersion}
    (hf : ∀ r ∈ db, (f r).scope = r.scope) (extra : List CognitionResourceVersion)
    (h : db'.rows = db.rows.map f ++ extra) (scope : ResourceScope) :
    versionsOf db' scope =
      (versionsOf db scope).map f ++ extra.filter fun r ↦ r.scope = scope := by
  unfold versionsOf
  rw [h, List.filter_append, List.filter_map]
  congr 2
  refine List.filter_congr fun r hr ↦ ?_
  rw [Function.comp_apply, hf r hr]

theorem not_mem_ids {id : UUID} (h : ∀ r ∈ db, r.id ≠ id) :
    id ∉ (entries db scope).map Entry.id := by
  intro hid
  obtain ⟨e, he, rfl⟩ := List.mem_map.mp hid
  obtain ⟨r, hr, -, rfl⟩ := mem_entries.mp he
  exact h r hr rfl

theorem entries_append_same (h : row.scope = scope) {l : List CognitionResourceVersion} :
    (l ++ [row].filter fun r ↦ r.scope = scope).map entryOf = l.map entryOf ++ [entryOf row] := by
  simp [h]

/-- A call drafts, publishes or rolls back under its own key, and changes no other key. -/
theorem Effect.change {command : CognitionCommand} (h : Effect command row db db')
    (scope : ResourceScope) :
    entries db' scope = entries db scope ∨ Change Eq (entries db scope) (entries db' scope) := by
  have hlen : (entries db scope).length = (versionsOf db scope).length := List.length_map _
  cases command with
  | createResourceDraft own name payload note actorId id now =>
    obtain ⟨hrow, hfresh, hrows⟩ := h
    have hown : row.scope = own := by rw [hrow]; rfl
    have hafter : versionsOf db' scope =
        (versionsOf db scope).map (fun r ↦ r) ++ [row].filter fun r ↦ r.scope = scope :=
      versionsOf_map (fun _ _ ↦ rfl) [row] (by rw [List.map_id']; exact hrows) scope
    rw [List.map_id'] at hafter
    by_cases hscope : own = scope
    · right
      have hchange : Change Eq (entries db scope) _ := Change.draft id payload (not_mem_ids hfresh)
      unfold entries at hchange ⊢
      rw [hafter, entries_append_same (hown.trans hscope)]
      convert hchange using 3
      rw [hrow, List.length_map, ← hscope]
      rfl
    · left
      unfold entries
      rw [hafter]
      simp [hown, hscope]
  | publishResource resourceId tenantId agentId now =>
    obtain ⟨r, hr, -, -, -, hdraft, hrow, hrows⟩ := h
    have hsame : ∀ s ∈ db, s.id = r.id → s = r := fun s hs he ↦ Table.eq_of_key_eq hs hr he
    have hchanged : ∀ s ∈ db,
        (if s.id = r.id then row else supersedeIn r.scope s).scope = s.scope := by
      intro s hs
      split
      · rename_i he
        rw [hrow, hsame s hs he]
        rfl
      · exact supersedeIn_scope r.scope s
    have hafter := versionsOf_map hchanged [] (by rw [List.append_nil]; exact hrows) scope
    rw [List.filter_nil, List.append_nil] at hafter
    by_cases hscope : r.scope = scope
    · right
      have hchange : Change Eq (entries db scope) _ := Change.publish (entryOf r)
        (mem_entries.mpr ⟨r, hr, hscope, rfl⟩) (by simp [entryOf, hdraft, statusOf])
      convert hchange using 1
      unfold entries
      rw [hafter, List.map_map, List.map_map]
      refine List.map_congr_left fun s hs ↦ ?_
      obtain ⟨hs, hscope'⟩ := mem_versionsOf.mp hs
      rw [Function.comp_apply, Function.comp_apply]
      unfold publishEntry
      by_cases he : s.id = r.id
      · rw [if_pos he, if_pos (show (entryOf s).id = (entryOf r).id from he), hsame s hs he, hrow]
        rfl
      · rw [if_neg he, if_neg (show ¬(entryOf s).id = (entryOf r).id from he)]
        exact entryOf_supersedeIn (hscope'.trans hscope.symm)
    · left
      unfold entries
      rw [hafter, List.map_map]
      refine List.map_congr_left fun s hs ↦ ?_
      obtain ⟨hs, hscope'⟩ := mem_versionsOf.mp hs
      rw [Function.comp_apply, if_neg, supersedeIn_of_ne]
      · rw [hscope']
        exact Ne.symm hscope
      · exact fun he ↦ hscope (hsame s hs he ▸ hscope')
  | rollbackResource resourceId tenantId agentId actorId id createdAt publishedAt =>
    obtain ⟨r, hr, -, -, -, hrow, hfresh, hrows⟩ := h
    have hown : row.scope = r.scope := by rw [hrow]; rfl
    have hafter := versionsOf_map (fun s _ ↦ supersedeIn_scope r.scope s) [row] hrows scope
    by_cases hscope : r.scope = scope
    · right
      have hchange : Change Eq (entries db scope) _ := Change.rollback id (not_mem_ids hfresh)
        (entryOf r) (mem_entries.mpr ⟨r, hr, hscope, rfl⟩) r.payload rfl
      convert hchange using 1
      unfold entries
      rw [hafter, entries_append_same (hown.trans hscope), List.map_map, List.map_map]
      congr 1
      · refine List.map_congr_left fun s hs ↦ ?_
        exact entryOf_supersedeIn ((mem_versionsOf.mp hs).2.trans hscope.symm)
      · rw [hrow, List.length_map, ← hscope]
        rfl
    · left
      unfold entries
      rw [hafter, List.map_append, List.map_map]
      have hnone : ([row].filter fun r ↦ r.scope = scope) = [] := by simp [hown, hscope]
      rw [hnone, List.map_nil, List.append_nil]
      refine List.map_congr_left fun s hs ↦ ?_
      rw [Function.comp_apply, supersedeIn_of_ne]
      rw [(mem_versionsOf.mp hs).2]
      exact Ne.symm hscope

end change

/-- Under each key the versions are lawful, and change by drafts, publications and rollbacks. -/
def versionDiscipline :
    Discipline CognitionResourceVersion.id uniqueKeys CognitionResourceVersion CognitionCommand where
  inv := fun db ↦ ∀ scope, Lawful (entries db scope)
  rely := fun db db' ↦ ∀ scope, History Eq (entries db scope) (entries db' scope)
  effect := Effect
  refl := fun _ _ ↦ .refl
  trans := fun _ _ _ h h' scope ↦ (h scope).trans (h' scope)
  keeps := by
    intro command row db db' hinv _ heffect
    have hhistory : ∀ scope, History Eq (entries db scope) (entries db' scope) := by
      intro scope
      rcases heffect.change scope with hsame | hchange
      · rw [hsame]
        exact .refl
      · exact Relation.ReflTransGen.single hchange
    exact ⟨fun scope ↦ (hhistory scope).lawful (hinv scope), hhistory⟩

end CyberNetizen.Cognition
