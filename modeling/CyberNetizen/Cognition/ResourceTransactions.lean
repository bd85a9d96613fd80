import CyberNetizen.Cognition.ResourceVersions

/-! # The transactions on versions, statement by statement -/

namespace CyberNetizen.Cognition

open Domain Infrastructure SqlAlchemyCognitionRepository KeyedTable Publication ReadCommitted

abbrev Data := Local CognitionResourceVersion.id

variable {db db' : Resources} {l : Data} {scope : ResourceScope}
  {r s row source : CognitionResourceVersion} {n : ℕ}

section numbers

/-- With the versions numbered from one on, the highest number is how many there are. -/
theorem latest_eq (h : Lawful (entries db scope)) :
    (latest scope db.rows).getD 0 = (versionsOf db scope).length := by
  have hnumbers := h.numbers
  unfold entries at hnumbers
  rw [List.map_map, List.length_map] at hnumbers
  have hmap : (versionsOf db scope).map CognitionResourceVersion.version =
      List.range' 1 (versionsOf db scope).length := hnumbers
  unfold latest
  rw [show (db.rows.filter fun r ↦ r.scope = scope) = versionsOf db scope from rfl, hmap]
  cases hlen : (versionsOf db scope).length with
  | zero => rfl
  | succ n =>
    rw [List.max?_eq_some_iff.mpr ⟨?_, ?_⟩]
    · exact Option.getD_some
    · rw [List.mem_range'_1]
      omega
    · intro k hk
      rw [List.mem_range'_1] at hk
      omega

theorem length_le_of_rely (h : versionDiscipline.rely db db') (scope : ResourceScope) :
    (versionsOf db scope).length ≤ (versionsOf db' scope).length := by
  have hle : (entries db scope).length ≤ (entries db' scope).length := (h scope).length_le
  rwa [entries, entries, List.length_map, List.length_map] at hle

theorem exists_number (h : Lawful (entries db scope)) (hpos : 0 < n)
    (hle : n ≤ (versionsOf db scope).length) : ∃ r ∈ db, r.scope = scope ∧ r.version = n := by
  have hnumbers := h.numbers
  have hmem : n ∈ (entries db scope).map Entry.number := by
    rw [hnumbers, List.mem_range'_1, entries, List.length_map]
    omega
  obtain ⟨e, he, rfl⟩ := List.mem_map.mp hmem
  obtain ⟨r, hr, hscope, rfl⟩ := mem_entries.mp he
  exact ⟨r, hr, hscope, rfl⟩

theorem number_mem (r : CognitionResourceVersion) : UniqueKey.number r.scope r.version ∈ uniqueKeys r :=
  List.mem_cons_self

theorem published_mem (h : r.status = .published) : UniqueKey.published r.scope ∈ uniqueKeys r := by
  unfold uniqueKeys
  rw [if_pos h]
  exact List.mem_cons_of_mem _ (List.mem_singleton_self _)

end numbers

def Superseding (scope : ResourceScope) (l : Data) : Prop :=
  ∀ s ∈ l.writes, ∃ r ∈ l.held, publishedIn scope r = true ∧ s = superseded.toUpdate r

theorem superseding_empty : Superseding scope (Local.empty : Data) :=
  fun _ hs ↦ absurd hs (Table.not_mem_empty _)

theorem Superseding.committed (h : Superseding scope l) (hr : r ∈ view db l)
    (hp : r.status = .published) : r ∈ db := by
  rcases mem_view.mp hr with hw | ⟨-, hr⟩
  · obtain ⟨s, -, -, rfl⟩ := h r hw
    cases hp
  · exact hr

theorem Superseding.hold (h : Superseding scope l) (id : UUID) : Superseding scope (l.hold db id) := by
  intro s hs
  rw [writes_hold] at hs
  obtain ⟨r, hr, hp, rfl⟩ := h s hs
  exact ⟨r, held_subset_hold hr, hp, rfl⟩

/-- One row of the `UPDATE`. -/
theorem Superseding.change (h : Superseding scope l) (hsound : Sound uniqueKeys db l)
    (hfind : (view db l).find? r.id = some r) (hp : publishedIn scope r = true) :
    Superseding scope ((l.hold db r.id).write (superseded.toUpdate r)) := by
  have hdb : r ∈ db := h.committed (Table.mem_of_find? hfind) (publishedIn_iff.mp hp).2
  intro s hs
  rcases Table.mem_put.mp hs with rfl | ⟨hs, -⟩
  · refine ⟨r, mem_hold.mpr ?_, hp, rfl⟩
    by_cases hheld : r.id ∈ l.held.map CognitionResourceVersion.id
    · obtain ⟨q, hq, he⟩ := List.mem_map.mp hheld
      exact .inl (Table.eq_of_key_eq (hsound.held q hq) hdb he ▸ hq)
    · exact .inr ⟨hheld, Table.find?_key hdb⟩
  · exact h.hold r.id s hs

/-- What a row becomes that is not the one written last: superseded, if it was published. -/
theorem Superseding.becomes (h : Superseding scope l) (hsound : Sound uniqueKeys db (l.write row))
    (hscope : row.scope = scope) (hp : row.status = .published) (hr : r ∈ db) (hne : r.id ≠ row.id) :
    ((l.write row).writes.find? r.id).getD r = supersedeIn scope r := by
  have hput : (l.write row).writes.find? r.id = l.writes.find? r.id := by
    unfold Local.write
    dsimp only
    rw [Table.find?_put, if_neg hne]
  unfold supersedeIn
  cases hfind : l.writes.find? r.id with
  | some s =>
    obtain ⟨hs, he⟩ := Table.find?_eq_some.mp hfind
    obtain ⟨q, hq, hpq, rfl⟩ := h s hs
    have hqr : q = r := Table.eq_of_key_eq (hsound.held q hq) hr he
    rw [hput, hfind, Option.getD_some, ← hqr, if_pos hpq]
  | none =>
    rw [hput, hfind, Option.getD_none, if_neg]
    intro hpr
    obtain ⟨hscope', hpublished⟩ := publishedIn_iff.mp hpr
    have hview : r ∈ view db (l.write row) := mem_view.mpr (.inr ⟨hput.trans hfind, hr⟩)
    have hrow : row ∈ view db (l.write row) := mem_view_write.mpr (.inl rfl)
    have hdisjoint := hsound.uniq.disjoint hview hrow hne
    refine hdisjoint (published_mem hpublished) ?_
    rw [hscope', ← hscope]
    exact published_mem hp

/-- The number that a new row has is that of the next version, or the flush would have failed. -/
theorem next_number (hlawful : Lawful (entries db scope)) (h : Superseding scope l)
    (hsound : Sound uniqueKeys db (l.write row)) (hscope : row.scope = scope)
    (hfresh : ∀ r ∈ db, r.id ≠ row.id) (hversion : row.version = n + 1)
    (hn : n ≤ (versionsOf db scope).length) : n = (versionsOf db scope).length := by
  by_contra hne
  obtain ⟨r, hr, hscope', hnumber⟩ := exists_number hlawful n.succ_pos (by omega)
  have hrow : row ∈ view db (l.write row) := mem_view_write.mpr (.inl rfl)
  -- The row with this number is still there, possibly superseded.
  have hseen : ∃ s ∈ view db (l.write row), s.id = r.id ∧ s.scope = scope ∧ s.version = n + 1 := by
    cases hfind : l.writes.find? r.id with
    | none =>
      refine ⟨r, mem_view_write.mpr (.inr ⟨hfresh r hr, mem_view.mpr (.inr ⟨hfind, hr⟩)⟩), rfl, hscope',
        hnumber⟩
    | some s =>
      obtain ⟨hs, he⟩ := Table.find?_eq_some.mp hfind
      obtain ⟨q, hq, -, rfl⟩ := h s hs
      obtain rfl : q = r := Table.eq_of_key_eq (hsound.held q hq) hr he
      exact ⟨superseded.toUpdate q, mem_view_write.mpr (.inr ⟨hfresh q hr, mem_view.mpr (.inl hs)⟩),
        rfl, hscope', hnumber⟩
  obtain ⟨s, hs, hid, hscopes, hnumbers⟩ := hseen
  have hdisjoint := hsound.uniq.disjoint hs hrow (by rw [hid]; exact hfresh r hr)
  refine hdisjoint (number_mem s) ?_
  rw [hscopes, hnumbers, ← hscope, ← hversion]
  exact number_mem row

/-- What a commit leaves that has written a new row last. -/
theorem Superseding.rows_new (h : Superseding scope l) (hsound : Sound uniqueKeys db (l.write row))
    (hfresh : ∀ r ∈ db, r.id ≠ row.id) {f : CognitionResourceVersion → CognitionResourceVersion}
    (hbecomes : ∀ r ∈ db, ((l.write row).writes.find? r.id).getD r = f r) :
    (view db (l.write row)).rows = db.rows.map f ++ [row] := by
  have hold : ∀ s ∈ l.writes, ∃ r ∈ db, r.id = s.id := by
    intro s hs
    obtain ⟨r, hr, -, rfl⟩ := h s hs
    exact ⟨r, hsound.held r hr, rfl⟩
  have hnew : row.id ∉ l.writes.rows.map CognitionResourceVersion.id := by
    intro hmem
    obtain ⟨s, hs, he⟩ := List.mem_map.mp hmem
    obtain ⟨r, hr, hrs⟩ := hold s hs
    exact hfresh r hr (hrs.trans he)
  have hwrites : (l.write row).writes.rows = l.writes.rows ++ [row] := Table.put_of_not_mem hnew
  rw [rows_view, List.map_congr_left hbecomes, hwrites, List.filter_append]
  have hnone : (l.writes.rows.filter fun w ↦ w.id ∉ db.rows.map CognitionResourceVersion.id) = [] := by
    rw [List.filter_eq_nil_iff]
    intro s hs
    obtain ⟨r, hr, he⟩ := hold s hs
    have hmem : s.id ∈ db.rows.map CognitionResourceVersion.id := List.mem_map.mpr ⟨r, hr, he⟩
    simpa using hmem
  have hone : ([row].filter fun w ↦ w.id ∉ db.rows.map CognitionResourceVersion.id) = [row] := by
    have hmem : row.id ∉ db.rows.map CognitionResourceVersion.id := by
      intro hmem
      obtain ⟨r, hr, he⟩ := List.mem_map.mp hmem
      exact hfresh r hr he
    simpa using hmem
  rw [hnone, hone, List.nil_append]

/-- What a commit leaves that has written a row last which it had locked. -/
theorem Superseding.rows_changed (h : Superseding scope l)
    (hsound : Sound uniqueKeys db (l.write row)) (hr : r ∈ db) (hid : row.id = r.id)
    (hscope : row.scope = scope) (hp : row.status = .published) :
    (view db (l.write row)).rows =
      db.rows.map fun s ↦ if s.id = r.id then row else supersedeIn scope s := by
  have hbecomes : ∀ s ∈ db, ((l.write row).writes.find? s.id).getD s =
      if s.id = r.id then row else supersedeIn scope s := by
    intro s hs
    split
    · rename_i he
      have hput : (l.write row).writes.find? s.id = some row := by
        unfold Local.write
        dsimp only
        rw [Table.find?_put, if_pos (he.trans hid.symm)]
      rw [hput, Option.getD_some]
    · rename_i hne
      exact h.becomes hsound hscope hp hs (by rwa [hid])
  have hnone : ((l.write row).writes.rows.filter
      fun w ↦ w.id ∉ db.rows.map CognitionResourceVersion.id) = [] := by
    rw [List.filter_eq_nil_iff]
    intro s hs
    have hmem : s.id ∈ db.rows.map CognitionResourceVersion.id := by
      rcases Table.mem_put.mp hs with rfl | ⟨hs, -⟩
      · exact List.mem_map.mpr ⟨r, hr, hid.symm⟩
      · obtain ⟨q, hq, -, rfl⟩ := h s hs
        exact List.mem_map.mpr ⟨q, hsound.held q hq, rfl⟩
    simpa using hmem
  rw [rows_view, List.map_congr_left hbecomes, hnone, List.append_nil]

section valid

/-- What a transaction knows while its `UPDATE` runs. -/
structure Knows (scope : ResourceScope) (source : CognitionResourceVersion) (n : ℕ) (db : Resources)
    (l : Data) : Prop where
  superseding : Superseding scope l
  held : source ∈ l.held
  bound : n ≤ (versionsOf db scope).length

theorem Knows.stable (h : Knows scope source n db l) (hs : Sees versionDiscipline db db' l) :
    Knows scope source n db' l :=
  ⟨h.superseding, h.held, h.bound.trans (length_le_of_rely hs.rely scope)⟩

theorem Knows.change (h : Knows scope source n db l) (hsound : Sound uniqueKeys db l) {id : UUID}
    (hfind : (view db l).find? id = some r) (hp : publishedIn scope r = true) :
    Knows scope source n db ((l.hold db id).write (superseded.toUpdate r)) := by
  obtain rfl : r.id = id := Table.key_of_find? hfind
  exact ⟨h.superseding.change hsound hfind hp, held_subset_hold h.held, h.bound⟩

/-- The `UPDATE`, when what follows it needs no more than is known. -/
theorem Knows.update {command : CognitionCommand} {next : Session}
    (hnext : ∀ {db l}, Knows scope source n db l → Valid versionDiscipline command next db l)
    (h : Knows scope source n db l) :
    Valid versionDiscipline command (.update (publishedIn scope) superseded next) db l :=
  fun _ hs ↦ updatingOk_of_invariant (K := Knows scope source n) (fun h hs ↦ h.stable hs)
    (fun h hsound hfind hp ↦ h.change hsound hfind hp) hnext _ (h.stable hs)

theorem knows_hold (hr : db.find? r.id = some r) (hn : n ≤ (versionsOf db scope).length) :
    Knows scope r n db ((Local.empty : Data).hold db r.id) where
  superseding := superseding_empty.hold r.id
  held := mem_hold.mpr (.inr ⟨List.not_mem_nil, hr⟩)
  bound := hn

/-- A new row is not among the committed ones until the commit. -/
theorem fresh_of_admits (hsound : Sound uniqueKeys db l)
    (hadmits : admits db l true row.id = true) (hsees : Sees versionDiscipline db db' (l.write row)) :
    ∀ r ∈ db', r.id ≠ row.id := by
  have hview : (view db l).find? row.id = none := Option.isNone_iff_eq_none.mp hadmits
  have hheld : row.id ∉ l.held.map CognitionResourceVersion.id := by
    intro hmem
    obtain ⟨r, hr, he⟩ := List.mem_map.mp hmem
    -- A held row is seen, whether it has been written over or not.
    have hseen : ((view db l).find? row.id).isSome = true := by
      rw [find?_view]
      unfold Overlay.overlaid
      rw [← he, Table.find?_key (hsound.held r hr)]
      cases l.writes.find? r.id <;> rfl
    rw [hview] at hseen
    cases hseen
  have hrow : row ∈ (l.write row).writes := Table.mem_put.mpr (.inl rfl)
  rcases hsees.sound.owned row hrow with hmem | hnone
  · exact absurd hmem hheld
  · exact Table.find?_eq_none.mp hnone

theorem create_valid (name : String)
    (payload : JsonObject) (note : Option String) (actorId id : UUID) (now : Datetime) :
    Valid versionDiscipline (.createResourceDraft scope name payload note actorId id now)
      (createResourceDraft scope name payload note actorId id now) db Local.empty := by
  intro db₁ h₁
  have hlatest : (latest scope db₁.rows).getD 0 = (versionsOf db₁ scope).length :=
    latest_eq (h₁.inv scope)
  intro db₂ h₂ hadmits db₃ h₃
  dsimp only [view_empty] at hadmits h₃ ⊢
  have hfresh := fresh_of_admits h₂.sound hadmits h₃
  have hle : (versionsOf db₁ scope).length ≤ (versionsOf db₃ scope).length :=
    (length_le_of_rely h₂.rely scope).trans (length_le_of_rely h₃.rely scope)
  rw [hlatest] at hfresh h₃ ⊢
  have hsuperseding : Superseding scope (Local.empty : Data) := superseding_empty
  have hn := next_number (h₃.inv scope) hsuperseding h₃.sound rfl hfresh rfl hle
  refine ⟨by rw [hn], hfresh, ?_⟩
  have hkeep : ∀ r ∈ db₃, ((Local.empty.write (draftRow scope ((versionsOf db₁ scope).length + 1) name
      payload note actorId id now) : Data).writes.find? r.id).getD r = r := by
    intro r hr
    have hput := Table.find?_put (.empty : Resources) (draftRow scope
      ((versionsOf db₁ scope).length + 1) name payload note actorId id now) r.id
    rw [if_neg (hfresh r hr)] at hput
    exact congrArg (fun o ↦ o.getD r) hput
  have hrows := hsuperseding.rows_new h₃.sound hfresh hkeep
  rwa [List.map_id'] at hrows

theorem publish_valid (resourceId tenantId agentId : UUID) (now : Datetime) :
    Valid versionDiscipline (.publishResource resourceId tenantId agentId now)
      (publishResource resourceId tenantId agentId now) db Local.empty := by
  intro db₁ h₁
  rw [view_empty]
  cases hfind : db₁.find? resourceId with
  | none => trivial
  | some r =>
    dsimp only
    split
    · rename_i hp
      rw [Bool.and_eq_true, decide_eq_true_eq, decide_eq_true_eq] at hp
      obtain rfl : r.id = resourceId := Table.key_of_find? hfind
      split
      · trivial
      · rename_i hdraft
        rw [not_not] at hdraft
        refine (knows_hold hfind (Nat.zero_le _)).update ?_
        intro db₂ l hknows db₃ h₃ hadmits db₄ h₄
        have hr : r ∈ db₄ := h₄.sound.held r hknows.held
        refine ⟨r, hr, rfl, hp.1, hp.2, hdraft, rfl, ?_⟩
        exact hknows.superseding.rows_changed h₄.sound hr rfl rfl rfl
    · trivial

theorem rollback_valid (resourceId tenantId agentId actorId id : UUID)
    (createdAt publishedAt : Datetime) :
    Valid versionDiscipline
      (.rollbackResource resourceId tenantId agentId actorId id createdAt publishedAt)
      (rollbackResource resourceId tenantId agentId actorId id createdAt publishedAt) db
      Local.empty := by
  intro db₁ h₁
  rw [view_empty]
  cases hfind : db₁.find? resourceId with
  | none => trivial
  | some r =>
    dsimp only
    split
    · rename_i hp
      rw [Bool.and_eq_true, decide_eq_true_eq, decide_eq_true_eq] at hp
      obtain rfl : r.id = resourceId := Table.key_of_find? hfind
      intro db₂ h₂
      have hview : view db₂ ((Local.empty : Data).hold db₁ r.id) = db₂ := view_hold db₂ db₁ .empty r.id
      have hlatest : (latest r.scope db₂.rows).getD 0 = (versionsOf db₂ r.scope).length :=
        latest_eq (h₂.inv r.scope)
      rw [hview]
      beta_reduce
      rw [hlatest]
      have hknows : Knows r.scope r (versionsOf db₂ r.scope).length db₂
          ((Local.empty : Data).hold db₁ r.id) :=
        ⟨superseding_empty.hold r.id, mem_hold.mpr (.inr ⟨List.not_mem_nil, hfind⟩), Nat.le_refl _⟩
      refine hknows.update ?_
      intro db₃ l hknows db₄ h₄ hadmits db₅ h₅
      have hfresh := fresh_of_admits h₄.sound hadmits h₅
      have hn := next_number (h₅.inv r.scope) hknows.superseding h₅.sound rfl hfresh rfl
        ((hknows.stable h₄).bound.trans (length_le_of_rely h₅.rely r.scope))
      refine ⟨r, h₅.sound.held r hknows.held, rfl, hp.1, hp.2, by rw [hn], hfresh, ?_⟩
      exact hknows.superseding.rows_new h₅.sound hfresh fun s hs ↦
        hknows.superseding.becomes h₅.sound rfl rfl hs (hfresh s hs)
    · trivial

theorem transaction_implements : Implements (D := versionDiscipline) transaction := by
  intro command db hinv _
  cases command with
  | createResourceDraft scope name payload note actorId id now =>
    exact create_valid name payload note actorId id now
  | publishResource resourceId tenantId agentId now =>
    exact publish_valid resourceId tenantId agentId now
  | rollbackResource resourceId tenantId agentId actorId id createdAt publishedAt =>
    exact rollback_valid resourceId tenantId agentId actorId id createdAt publishedAt

end valid

end CyberNetizen.Cognition
