import CyberNetizen.Infrastructure.ConfigurationRepository
import CyberNetizen.Lib.Publication

/-! # The list of versions that both configuration repositories keep -/

namespace CyberNetizen.Configurations

open Domain Infrastructure KeyedTable Publication

def statusOf : ConfigVersionStatus → Status
  | .draft => .draft
  | .published => .published
  | .superseded => .superseded

theorem statusOf_injective {a b : ConfigVersionStatus} (h : statusOf a = statusOf b) : a = b := by
  cases a <;> cases b <;> first | rfl | cases h

def entryOf (v : ConfigVersion) : Entry UUID (List ConfigEntry) where
  id := v.id
  number := v.version
  status := statusOf v.status
  content := v.values

def supersedeVersion (v : ConfigVersion) : ConfigVersion :=
  if v.status = .published then { v with status := .superseded } else v

def publishVersion (now : Datetime) (v : ConfigVersion) : ConfigVersion :=
  { v with status := .published, publishedAt := some now }

/-- What a call makes of the versions, in the order in which they were made. -/
def accept (versions : List ConfigVersion) :
    ConfigurationCommand → Except ConfigurationError ConfigVersion × List ConfigVersion
  | .createDraft note values id now =>
    let draft := draftVersion (versions.length + 1) note values id now
    (.ok draft, versions ++ [draft])
  | .publish versionId now =>
    match versions.find? fun v ↦ v.id = versionId with
    | none => (.error (versionNotFound versionId), versions)
    | some target =>
      if target.status ≠ .draft then (.error onlyDraftsPublish, versions)
      else (.ok (publishVersion now target), versions.map fun v ↦
        if v.id = versionId then publishVersion now v else supersedeVersion v)
  | .rollback versionId id createdAt publishedAt =>
    match versions.find? fun v ↦ v.id = versionId with
    | none => (.error (versionNotFound versionId), versions)
    | some target =>
      if target.status = .draft then (.error draftNoRollback, versions)
      else
        let rolledBack := rolledBackVersion (versions.length + 1) target id createdAt publishedAt
        (.ok rolledBack, versions.map supersedeVersion ++ [rolledBack])

def apply (refuses : ConfigurationCommand → Bool) (versions : List ConfigVersion)
    (command : ConfigurationCommand) : Except ConfigurationError ConfigVersion × List ConfigVersion :=
  if refuses command then (.error .integrity, versions) else accept versions command

def Fresh (versions : List ConfigVersion) (command : ConfigurationCommand) : Prop :=
  ∀ id, command.newId = some id → id ∉ versions.map ConfigVersion.id

section change

variable {refuses : ConfigurationCommand → Bool} {versions : List ConfigVersion}
  {command : ConfigurationCommand}

theorem mem_of_find {versionId : UUID} {target : ConfigVersion}
    (h : (versions.find? fun v ↦ v.id = versionId) = some target) :
    target ∈ versions ∧ target.id = versionId :=
  ⟨List.mem_of_find?_eq_some h, by simpa using List.find?_some h⟩

theorem entryOf_supersede (v : ConfigVersion) : entryOf (supersedeVersion v) = supersede (entryOf v) := by
  unfold supersedeVersion supersede entryOf
  cases h : v.status <;> simp [statusOf, h]

theorem entryOf_publish (now : Datetime) (versionId : UUID) (v : ConfigVersion) :
    entryOf (if v.id = versionId then publishVersion now v else supersedeVersion v) =
      publishEntry versionId (entryOf v) := by
  unfold publishEntry
  by_cases h : v.id = versionId
  · rw [if_pos h, if_pos (show (entryOf v).id = versionId from h)]
    rfl
  · rw [if_neg h, if_neg (show ¬(entryOf v).id = versionId from h)]
    exact entryOf_supersede v

theorem entries_ids : (versions.map entryOf).map Entry.id = versions.map ConfigVersion.id := by
  rw [List.map_map]
  rfl

/-- A call fails and changes nothing, or drafts, publishes or rolls back. -/
theorem accept_change (hfresh : Fresh versions command) :
    (accept versions command).2 = versions ∨
      Change Eq (versions.map entryOf) ((accept versions command).2.map entryOf) := by
  cases command with
  | createDraft note values id now =>
    right
    have hid : id ∉ (versions.map entryOf).map Entry.id := by
      rw [entries_ids]
      exact hfresh id rfl
    have hchange : Change Eq (versions.map entryOf) _ := Change.draft id values hid
    rw [List.length_map] at hchange
    simpa [accept, entryOf, draftVersion, statusOf] using hchange
  | publish versionId now =>
    dsimp only [accept]
    cases hfind : versions.find? fun v ↦ v.id = versionId with
    | none => exact .inl rfl
    | some target =>
      dsimp only
      obtain ⟨hmem, rfl⟩ := mem_of_find hfind
      by_cases hdraft : target.status ≠ .draft
      · rw [if_pos hdraft]
        exact .inl rfl
      · rw [if_neg hdraft]
        right
        rw [not_not] at hdraft
        have hchange : Change Eq (versions.map entryOf) _ := Change.publish (entryOf target)
          (List.mem_map_of_mem hmem) (by simp [entryOf, hdraft, statusOf])
        rw [List.map_map] at hchange
        rw [List.map_map]
        convert hchange using 2
        funext v
        exact entryOf_publish now target.id v
  | rollback versionId id createdAt publishedAt =>
    dsimp only [accept]
    cases hfind : versions.find? fun v ↦ v.id = versionId with
    | none => exact .inl rfl
    | some target =>
      dsimp only
      obtain ⟨hmem, rfl⟩ := mem_of_find hfind
      by_cases hdraft : target.status = .draft
      · rw [if_pos hdraft]
        exact .inl rfl
      · rw [if_neg hdraft]
        right
        have hid : id ∉ (versions.map entryOf).map Entry.id := by
          rw [entries_ids]
          exact hfresh id rfl
        have hchange : Change Eq (versions.map entryOf) _ := Change.rollback id hid (entryOf target)
          (List.mem_map_of_mem hmem) target.values rfl
        rw [List.length_map, List.map_map] at hchange
        rw [List.map_append, List.map_map]
        convert hchange using 2
        · refine List.map_congr_left fun v _ ↦ ?_
          exact entryOf_supersede v
        · rfl

theorem apply_eq_accept (h : refuses command = false) :
    apply refuses versions command = accept versions command := by
  unfold apply
  rw [h]
  rfl

theorem apply_change (refuses : ConfigurationCommand → Bool) (hfresh : Fresh versions command) :
    (apply refuses versions command).2 = versions ∨
      Change Eq (versions.map entryOf) ((apply refuses versions command).2.map entryOf) := by
  unfold apply
  cases refuses command with
  | true => exact .inl rfl
  | false => exact accept_change hfresh

theorem accept_of_apply {new : ConfigVersion} (h : (apply refuses versions command).1 = .ok new) :
    apply refuses versions command = accept versions command := by
  refine apply_eq_accept ?_
  unfold apply at h
  cases hrefuses : refuses command with
  | true =>
    rw [hrefuses] at h
    cases h
  | false => rfl

/-- What a successful rollback has found and made. -/
theorem apply_rollback {versionId id : UUID} {createdAt publishedAt : Datetime} {new : ConfigVersion}
    (h : (apply refuses versions (.rollback versionId id createdAt publishedAt)).1 = .ok new) :
    ∃ v ∈ versions, v.id = versionId ∧ v.status ≠ .draft ∧
      new = rolledBackVersion (versions.length + 1) v id createdAt publishedAt ∧
      (apply refuses versions (.rollback versionId id createdAt publishedAt)).2 =
        versions.map supersedeVersion ++ [new] := by
  have haccept := accept_of_apply h
  rw [haccept] at h ⊢
  dsimp only [accept] at h ⊢
  cases hfind : versions.find? fun v ↦ v.id = versionId with
  | none =>
    rw [hfind] at h
    cases h
  | some target =>
    rw [hfind] at h
    dsimp only at h ⊢
    obtain ⟨hmem, hid⟩ := mem_of_find hfind
    by_cases hdraft : target.status = .draft
    · rw [if_pos hdraft] at h
      cases h
    · rw [if_neg hdraft] at h ⊢
      obtain rfl := Except.ok.inj h
      exact ⟨target, hmem, hid, hdraft, rfl, rfl⟩

/-- What a successful publication has found and made. -/
theorem apply_publish {versionId : UUID} {now : Datetime} {new : ConfigVersion}
    (h : (apply refuses versions (.publish versionId now)).1 = .ok new) :
    ∃ v ∈ versions, v.id = versionId ∧ v.status = .draft ∧ new = publishVersion now v := by
  rw [accept_of_apply h] at h
  dsimp only [accept] at h
  cases hfind : versions.find? fun v ↦ v.id = versionId with
  | none =>
    rw [hfind] at h
    cases h
  | some target =>
    rw [hfind] at h
    dsimp only at h
    obtain ⟨hmem, hid⟩ := mem_of_find hfind
    by_cases hdraft : target.status ≠ .draft
    · rw [if_pos hdraft] at h
      cases h
    · rw [if_neg hdraft] at h
      rw [not_not] at hdraft
      exact ⟨target, hmem, hid, hdraft, (Except.ok.inj h).symm⟩

end change

section memory

open MemoryConfigurationRepository

variable {store : Store} {command : ConfigurationCommand}

theorem supersedePublished_rows (versions : Table ConfigVersion.id) :
    (MemoryConfigurationRepository.supersedePublished versions).rows =
      versions.rows.map supersedeVersion := by
  refine List.map_congr_left fun v _ ↦ ?_
  unfold supersedeVersion
  by_cases h : v.status = .published <;> simp [h, MemoryConfigurationRepository.superseded]

theorem supersedeVersion_id (v : ConfigVersion) : (supersedeVersion v).id = v.id := by
  unfold supersedeVersion
  split <;> rfl

theorem map_supersede_ids (versions : List ConfigVersion) :
    (versions.map supersedeVersion).map ConfigVersion.id = versions.map ConfigVersion.id := by
  rw [List.map_map]
  exact List.map_congr_left fun v _ ↦ supersedeVersion_id v

/-- Assigning the published target is publishing it in the list. -/
theorem put_published {versions : Table ConfigVersion.id} {target : ConfigVersion} (now : Datetime)
    (hmem : target ∈ versions.rows) :
    ((MemoryConfigurationRepository.supersedePublished versions).put (publishVersion now target)).rows =
      versions.rows.map fun v ↦
        if v.id = target.id then publishVersion now v else supersedeVersion v := by
  have hid : (publishVersion now target).id ∈
      (MemoryConfigurationRepository.supersedePublished versions).rows.map ConfigVersion.id := by
    rw [supersedePublished_rows, map_supersede_ids]
    exact List.mem_map.mpr ⟨target, hmem, rfl⟩
  rw [Table.put_of_mem hid, supersedePublished_rows, List.map_map]
  refine List.map_congr_left fun v hv ↦ ?_
  rw [Function.comp_apply, supersedeVersion_id]
  by_cases h : v.id = target.id
  · have hvt : v = target := Table.eq_of_key_eq hv hmem h
    rw [hvt, if_pos rfl]
    exact if_pos rfl
  · rw [if_neg h]
    exact if_neg h

def Counted (store : Store) : Prop := store.nextVersion = store.versions.rows.length + 1

theorem counted_empty : Counted .empty := rfl

theorem memory_call (hcount : Counted store) (hfresh : Fresh store.versions.rows command) :
    (call store command).1 = (accept store.versions.rows command).1 ∧
      (call store command).2.versions.rows = (accept store.versions.rows command).2 ∧
      Counted (call store command).2 := by
  unfold Counted at hcount ⊢
  cases command with
  | createDraft note values newId now =>
    have hput := Table.put_of_not_mem (t := store.versions)
      (r := draftVersion store.nextVersion note values newId now) (hfresh newId rfl)
    dsimp only [call, MemoryConfigurationRepository.createDraft, accept]
    rw [hput, hcount]
    refine ⟨rfl, rfl, ?_⟩
    rw [List.length_append, List.length_singleton]
  | publish versionId now =>
    dsimp only [call, MemoryConfigurationRepository.publish, accept]
    have hfind : store.versions.find? versionId =
      store.versions.rows.find? fun v ↦ v.id = versionId := rfl
    rw [hfind]
    cases ht : store.versions.rows.find? fun v ↦ v.id = versionId with
    | none => exact ⟨rfl, rfl, hcount⟩
    | some target =>
      obtain ⟨hmem, rfl⟩ := mem_of_find ht
      dsimp only
      split
      · exact ⟨rfl, rfl, hcount⟩
      · have hput := put_published now hmem
        refine ⟨rfl, hput, ?_⟩
        have hlen := congrArg List.length hput
        rw [List.length_map] at hlen
        exact hcount.trans (congrArg (· + 1) hlen.symm)
  | rollback versionId newId createdAt publishedAt =>
    dsimp only [call, MemoryConfigurationRepository.rollback, accept]
    have hfind : store.versions.find? versionId =
      store.versions.rows.find? fun v ↦ v.id = versionId := rfl
    rw [hfind]
    cases ht : store.versions.rows.find? fun v ↦ v.id = versionId with
    | none => exact ⟨rfl, rfl, hcount⟩
    | some target =>
      dsimp only
      split
      · exact ⟨rfl, rfl, hcount⟩
      · have hid : newId ∉
            (MemoryConfigurationRepository.supersedePublished store.versions).rows.map
              ConfigVersion.id := by
          rw [supersedePublished_rows, map_supersede_ids]
          exact hfresh newId rfl
        have hput := Table.put_of_not_mem
          (t := MemoryConfigurationRepository.supersedePublished store.versions)
          (r := rolledBackVersion store.nextVersion target newId createdAt publishedAt) hid
        rw [supersedePublished_rows] at hput
        rw [hput, hcount]
        refine ⟨rfl, rfl, ?_⟩
        rw [List.length_append, List.length_map, List.length_singleton]

end memory

section sql

open SqlAlchemyConfigurationRepository Exclusive

def carriesValues : ConfigurationCommand → Bool
  | .createDraft _ values _ _ => !values.isEmpty
  | .publish _ _ => false
  | .rollback _ _ _ _ => false

variable {orderBy : ConfigEntry → ConfigEntry → Bool} {tables tables' : Tables}
  {command : ConfigurationCommand} {row : VersionRow} {values : List ConfigEntry}

def versionsOf (orderBy : ConfigEntry → ConfigEntry → Bool) (tables : Tables) : List ConfigVersion :=
  tables.versions.rows.map (snapshot orderBy tables)

/-- What the tables keep: numbered versions, and no values. -/
structure Stored (tables : Tables) : Prop where
  numbers : tables.versions.rows.map VersionRow.version = List.range' 1 tables.versions.rows.length
  noValues : tables.values = []

theorem stored_empty : Stored .empty := ⟨rfl, rfl⟩

theorem versionsOf_ids (tables : Tables) :
    (versionsOf orderBy tables).map ConfigVersion.id = tables.versions.rows.map VersionRow.id := by
  unfold versionsOf
  rw [List.map_map]
  rfl

theorem max_range (n : ℕ) : (List.range' 1 n).max?.getD 0 = n := by
  cases n with
  | zero => rfl
  | succ n =>
    have hmax : (List.range' 1 (n + 1)).max? = some (n + 1) := by
      rw [List.max?_eq_some_iff]
      constructor
      · rw [List.mem_range'_1]
        omega
      · intro b hb
        rw [List.mem_range'_1] at hb
        omega
    rw [hmax]
    rfl

theorem Stored.nextVersion_eq (h : Stored tables) :
    nextVersion tables = tables.versions.rows.length + 1 := by
  unfold nextVersion
  rw [h.numbers, max_range]

theorem Stored.valuesOf_eq (h : Stored tables) (versionId : UUID) :
    valuesOf orderBy tables versionId = [] := by
  unfold valuesOf
  rw [h.noValues]
  rfl

theorem find_snapshot (versionId : UUID) :
    ((versionsOf orderBy tables).find? fun v ↦ v.id = versionId) =
      (tables.versions.find? versionId).map (snapshot orderBy tables) := by
  unfold versionsOf
  rw [List.find?_map]
  rfl

theorem find_published (tables : Tables) :
    ((versionsOf orderBy tables).find? fun v ↦ v.status = .published) =
      SqlAlchemyConfigurationRepository.getPublished orderBy tables := by
  unfold versionsOf
  rw [List.find?_map]
  rfl

section flush

theorem insertVersion_taken (h : row.id ∈ tables.versions.rows.map VersionRow.id) :
    insertVersion row tables = none := by
  obtain ⟨x, hx, hkey⟩ := List.mem_map.mp h
  unfold insertVersion
  rw [Table.insert?_eq_none.mpr ⟨x, hx, hkey⟩, Option.map_none, ite_self]

theorem insertValue_orphan {value : ValueRow}
    (h : value.versionId ∉ tables.versions.rows.map VersionRow.id) :
    insertValue value tables = none := by
  unfold insertValue
  rw [if_pos h]

theorem insertValue_versions {value : ValueRow} (h : insertValue value tables = some tables') :
    tables'.versions = tables.versions := by
  unfold insertValue at h
  split at h
  · cases h
  · split at h
    · cases h
    · obtain rfl := Option.some.inj h
      rfl

/-- A version is never stored together with a value: the value comes first and has no version to
refer to, unless the identifier is taken, and then the version is refused. -/
theorem flushVersion_values (h : values ≠ []) : flushVersion row values tables = none := by
  obtain ⟨entry, rest, rfl⟩ := List.exists_cons_of_ne_nil h
  have hvalues : ∀ r ∈ addVersion row :: (entry :: rest).map fun e ↦ addValue (valueModel row.id e),
      r.mapper = .configurationValue → ∃ e, r = addValue (valueModel row.id e) := by
    intro r hr hmapper
    rcases List.mem_cons.mp hr with rfl | hr
    · cases hmapper
    · obtain ⟨e, -, rfl⟩ := List.mem_map.mp hr
      exact ⟨e, rfl⟩
  by_cases hid : row.id ∈ tables.versions.rows.map VersionRow.id
  · refine UnitOfWork.flush_refused [.configurationValue] [] (addVersion row)
      (fun t ↦ row.id ∈ t.versions.rows.map VersionRow.id) List.mem_cons_self ?_
      (fun t ht ↦ insertVersion_taken ht) hid
    intro r hr _ t t' ht hwrite
    rcases List.mem_cons.mp hr with rfl | hr
    · cases (insertVersion_taken ht).symm.trans hwrite
    · obtain ⟨e, -, rfl⟩ := List.mem_map.mp hr
      rwa [insertValue_versions hwrite]
  · refine UnitOfWork.flush_refused [] [.configurationVersion] (addValue (valueModel row.id entry))
      (fun t ↦ row.id ∉ t.versions.rows.map VersionRow.id)
      (List.mem_cons_of_mem _ List.mem_cons_self) ?_ (fun t ht ↦ insertValue_orphan ht) hid
    intro r hr hmapper t t' ht hwrite
    obtain ⟨e, rfl⟩ := hvalues r hr (List.mem_singleton.mp hmapper)
    rwa [insertValue_versions hwrite]

/-- A version without values is stored, if its identifier is new. -/
theorem flushVersion_nil (orderBy : ConfigEntry → ConfigEntry → Bool) (row : VersionRow)
    (h : Stored tables) (hid : row.id ∉ tables.versions.rows.map VersionRow.id)
    (hversion : row.version = tables.versions.rows.length + 1) :
    ∃ tables', flushVersion row [] tables = some tables' ∧ Stored tables' ∧
      versionsOf orderBy tables' = versionsOf orderBy tables ++ [snapshot orderBy tables row] ∧
      snapshot orderBy tables' = snapshot orderBy tables := by
  have hnumber : row.version ∉ tables.versions.rows.map VersionRow.version := by
    rw [h.numbers, hversion, List.mem_range'_1]
    omega
  obtain ⟨versions, hinsert, hrows⟩ := Table.insert?_of_not_mem hid
  have hwrite : insertVersion row tables = some { tables with versions } := by
    unfold insertVersion
    rw [if_neg hnumber, hinsert]
    rfl
  refine ⟨{ tables with versions }, ?_, ⟨?_, h.noValues⟩, ?_, rfl⟩
  · calc flushVersion row [] tables = (insertVersion row tables).bind some := rfl
      _ = some { tables with versions } := by rw [hwrite, Option.bind_some]
  · rw [hrows, List.map_append, h.numbers, List.map_singleton, hversion, List.length_append,
      List.length_singleton, List.range'_concat, Nat.one_mul, Nat.add_comm 1]
  · unfold versionsOf
    rw [hrows, List.map_append]
    rfl

end flush

section update

theorem Stored.of_rows (h : Stored tables) {tables' : Tables} (hvalues : tables'.values = tables.values)
    (hids : tables'.versions.rows.map VersionRow.id = tables.versions.rows.map VersionRow.id)
    (hnumbers : tables'.versions.rows.map VersionRow.version =
      tables.versions.rows.map VersionRow.version) : Stored tables' where
  numbers := by
    have hlen := congrArg List.length hids
    rw [List.length_map, List.length_map] at hlen
    rw [hnumbers, hlen]
    exact h.numbers
  noValues := hvalues.trans h.noValues

theorem stored_supersede (h : Stored tables) :
    Stored (SqlAlchemyConfigurationRepository.supersedePublished tables) :=
  h.of_rows rfl (Table.map_updateWhere fun _ ↦ rfl) (Table.map_updateWhere fun _ ↦ rfl)

theorem stored_markPublished (h : Stored tables) (versionId : UUID) (now : Datetime) :
    Stored (markPublished versionId now tables) :=
  h.of_rows rfl (Table.map_updateWhere fun _ ↦ rfl) (Table.map_updateWhere fun _ ↦ rfl)

theorem versionsOf_of_rows (tables tables' : Tables) {f : VersionRow → VersionRow}
    (hvalues : tables'.values = tables.values)
    (hrows : tables'.versions.rows = tables.versions.rows.map f) :
    versionsOf orderBy tables' =
      tables.versions.rows.map fun row ↦ snapshot orderBy tables (f row) := by
  have hsnapshot : snapshot orderBy tables' = snapshot orderBy tables := by
    funext row
    unfold snapshot valuesOf
    rw [hvalues]
  unfold versionsOf
  rw [hsnapshot, hrows, List.map_map]
  rfl

theorem versionsOf_supersede (tables : Tables) :
    versionsOf orderBy (SqlAlchemyConfigurationRepository.supersedePublished tables) =
      (versionsOf orderBy tables).map supersedeVersion := by
  refine (versionsOf_of_rows tables
    (SqlAlchemyConfigurationRepository.supersedePublished tables) rfl rfl).trans ?_
  unfold versionsOf
  rw [List.map_map]
  refine List.map_congr_left fun row _ ↦ ?_
  unfold supersedeVersion
  by_cases h : row.status = .published
  · simp [h, snapshot, SqlAlchemyConfigurationRepository.superseded]
  · simp [h, snapshot]

/-- The two writes of `publish`. -/
theorem versionsOf_publish {row : VersionRow} (hrow : row ∈ tables.versions)
    (hdraft : row.status = .draft)
    (now : Datetime) :
    versionsOf orderBy (markPublished row.id now
        (SqlAlchemyConfigurationRepository.supersedePublished tables)) =
      (versionsOf orderBy tables).map fun v ↦
        if v.id = row.id then publishVersion now v else supersedeVersion v := by
  refine (versionsOf_of_rows tables (markPublished row.id now
    (SqlAlchemyConfigurationRepository.supersedePublished tables)) rfl List.map_map).trans ?_
  unfold versionsOf
  rw [List.map_map]
  refine List.map_congr_left fun x hx ↦ ?_
  by_cases hid : x.id = row.id
  · obtain rfl : x = row := Table.eq_of_key_eq hx hrow hid
    simp [hdraft, snapshot, publishVersion, published]
  · unfold supersedeVersion
    by_cases h : x.status = .published
    · simp [hid, h, snapshot, SqlAlchemyConfigurationRepository.superseded]
    · simp [hid, h, snapshot]

end update

theorem Fresh.not_mem (h : Fresh (versionsOf orderBy tables) command) (id : UUID)
    (hid : command.newId = some id) : id ∉ tables.versions.rows.map VersionRow.id := by
  have hmem := h id hid
  rwa [versionsOf_ids] at hmem

/-- A transaction on the tables is the call on their list of versions, drafts with values refused. -/
theorem sql_call (h : Stored tables) (hfresh : Fresh (versionsOf orderBy tables) command) :
    (serial (transaction orderBy) tables command).1 =
        (apply carriesValues (versionsOf orderBy tables) command).1 ∧
      versionsOf orderBy (serial (transaction orderBy) tables command).2 =
        (apply carriesValues (versionsOf orderBy tables) command).2 ∧
      Stored (serial (transaction orderBy) tables command).2 := by
  have hlen : (versionsOf orderBy tables).length = tables.versions.rows.length := List.length_map _
  cases command with
  | createDraft note values newId now =>
    unfold serial
    dsimp only [transaction, SqlAlchemyConfigurationRepository.createDraft]
    rw [Body.exec_select, Body.exec_flush]
    by_cases hvalues : values = []
    · subst hvalues
      have hid := hfresh.not_mem newId rfl
      obtain ⟨tables', hflush, hstored, hversions, hsnapshot⟩ := flushVersion_nil orderBy
        (newDraftRow (nextVersion tables) note newId now) h hid h.nextVersion_eq
      have hnew : snapshot orderBy tables (newDraftRow (nextVersion tables) note newId now) =
          draftVersion ((versionsOf orderBy tables).length + 1) note [] newId now := by
        unfold snapshot
        rw [h.valuesOf_eq, h.nextVersion_eq, hlen]
        rfl
      rw [hnew] at hversions
      rw [hflush]
      refine ⟨?_, hversions, hstored⟩
      rw [← hsnapshot] at hnew
      exact congrArg Except.ok hnew
    · have hrefuses : carriesValues (.createDraft note values newId now) = true := by
        simp [carriesValues, hvalues]
      rw [flushVersion_values hvalues]
      unfold apply
      rw [hrefuses]
      exact ⟨rfl, rfl, h⟩
  | publish versionId now =>
    have haccept : apply carriesValues (versionsOf orderBy tables) (.publish versionId now) =
      accept (versionsOf orderBy tables) (.publish versionId now) := apply_eq_accept rfl
    rw [haccept]
    dsimp only [accept]
    rw [find_snapshot]
    unfold serial
    dsimp only [transaction, SqlAlchemyConfigurationRepository.publish]
    rw [Body.exec_select]
    cases hfind : tables.versions.find? versionId with
    | none => exact ⟨rfl, rfl, h⟩
    | some row =>
      obtain ⟨hrow, rfl⟩ := Table.find?_eq_some.mp hfind
      rw [Option.map_some]
      dsimp only [snapshot]
      by_cases hdraft : row.status ≠ .draft
      · rw [if_pos hdraft, if_pos hdraft]
        exact ⟨rfl, rfl, h⟩
      · rw [if_neg hdraft, if_neg hdraft]
        rw [not_not] at hdraft
        exact ⟨rfl, versionsOf_publish hrow hdraft now,
          stored_markPublished (stored_supersede h) row.id now⟩
  | rollback versionId newId createdAt publishedAt =>
    have haccept : apply carriesValues (versionsOf orderBy tables)
        (.rollback versionId newId createdAt publishedAt) =
      accept (versionsOf orderBy tables) (.rollback versionId newId createdAt publishedAt) :=
        apply_eq_accept rfl
    rw [haccept]
    dsimp only [accept]
    rw [find_snapshot]
    unfold serial
    dsimp only [transaction, SqlAlchemyConfigurationRepository.rollback]
    rw [Body.exec_select]
    cases hfind : tables.versions.find? versionId with
    | none => exact ⟨rfl, rfl, h⟩
    | some row =>
      obtain ⟨hrow, rfl⟩ := Table.find?_eq_some.mp hfind
      rw [Option.map_some]
      dsimp only
      have hstatus : (snapshot orderBy tables row).status = row.status := rfl
      rw [hstatus]
      by_cases hdraft : row.status = .draft
      · rw [if_pos hdraft, if_pos hdraft]
        exact ⟨rfl, rfl, h⟩
      · rw [if_neg hdraft, if_neg hdraft]
        rw [Body.exec_select, Body.exec_execute, Body.exec_select, Body.exec_flush, h.valuesOf_eq]
        have hsuper := stored_supersede h
        have hids : (SqlAlchemyConfigurationRepository.supersedePublished tables).versions.rows.map
            VersionRow.id = tables.versions.rows.map VersionRow.id :=
          Table.map_updateWhere fun _ ↦ rfl
        have hid := hfresh.not_mem newId rfl
        rw [← hids] at hid
        have hsuperLen : (SqlAlchemyConfigurationRepository.supersedePublished tables).versions.rows.length
            = (versionsOf orderBy tables).length := (List.length_map _).trans hlen.symm
        obtain ⟨tables', hflush, hstored, hversions, hsnapshot⟩ := flushVersion_nil orderBy
          (newRollbackRow (nextVersion
            (SqlAlchemyConfigurationRepository.supersedePublished tables)) row newId createdAt
              publishedAt) hsuper hid hsuper.nextVersion_eq
        have hnew : snapshot orderBy (SqlAlchemyConfigurationRepository.supersedePublished tables)
              (newRollbackRow (nextVersion
                (SqlAlchemyConfigurationRepository.supersedePublished tables)) row newId createdAt
                publishedAt) =
            rolledBackVersion ((versionsOf orderBy tables).length + 1) (snapshot orderBy tables row)
              newId createdAt publishedAt := by
          unfold snapshot
          rw [hsuper.valuesOf_eq, h.valuesOf_eq, hsuper.nextVersion_eq, hsuperLen]
          rfl
        rw [hnew, versionsOf_supersede] at hversions
        rw [hflush]
        refine ⟨?_, hversions, hstored⟩
        rw [← hsnapshot] at hnew
        exact congrArg Except.ok hnew

end sql

end CyberNetizen.Configurations
