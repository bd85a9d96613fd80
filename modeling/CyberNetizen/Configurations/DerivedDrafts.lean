import CyberNetizen.Application.ConfigurationService
import CyberNetizen.Configurations.VersionRun

/-! # Drafts that are derived from the published version -/

namespace CyberNetizen.Configurations

open Domain Infrastructure Application KeyedTable Overlay Publication

/-- A call of `create_derived_draft` that has merged its overrides and not yet stored its draft. -/
structure Analysis where
  base : ℕ
  overrides : List ConfigEntry
  note : String
  values : List ConfigEntry

structure Derived where
  draftId : UUID
  base : ℕ
  overrides : List ConfigEntry

structure World (r : Repository) where
  store : r.State
  analyses : List Analysis
  derived : List Derived

def World.start (r : Repository) : World r := ⟨r.start, [], []⟩

/-- What the administrators' requests do next. The read and the write of `create_derived_draft` are
two calls of the repository; what `publish` and `rollback` read first cannot let more of them through
than what they read again under the lock. -/
inductive Action
  | createDraft (note : Option String) (values : List ConfigEntry) (id : UUID) (now : Datetime)
  | derive (expectedBaseVersion : ℕ) (note : String) (overrides : List ConfigEntry)
  | createDerived (index : ℕ) (id : UUID) (now : Datetime)
  | publish (versionId : UUID) (now : Datetime)
  | rollback (versionId id : UUID) (createdAt publishedAt : Datetime)

/-- The identifier that `uuid4` draws for the request. -/
def Action.newId : Action → Option UUID
  | .createDraft _ _ id _ => some id
  | .derive _ _ _ => none
  | .createDerived _ id _ => some id
  | .publish _ _ => none
  | .rollback _ id _ _ => some id

section step

variable (rules : ConfigurationService.Rules) {r : Repository}

def commit (w : World r) (command : ConfigurationCommand) :
    Except ConfigurationError ConfigVersion × World r :=
  let result := r.call w.store command
  (result.1, { w with store := result.2 })

def checked (error : Option ConfigurationError) (w : World r) (command : ConfigurationCommand) :
    Except ConfigurationError ConfigVersion × World r :=
  match error with
  | some error => (.error error, w)
  | none => commit w command

def step (w : World r) : Action → Option (Except ConfigurationError ConfigVersion) × World r
  | .createDraft note values id now =>
    let result := checked (ConfigurationService.checkDraft rules values) w
      (.createDraft (ConfigurationService.normalizedNote note) values id now)
    (some result.1, result.2)
  | .derive expectedBaseVersion note overrides =>
    match ConfigurationService.derive (r.getPublished w.store) expectedBaseVersion overrides with
    | .error error => (some (.error error), w)
    | .ok values =>
      (none, { w with analyses := w.analyses ++ [⟨expectedBaseVersion, overrides, note, values⟩] })
  | .createDerived index id now =>
    match w.analyses[index]? with
    | none => (none, w)
    | some analysis =>
      let result := checked (ConfigurationService.checkDraft rules analysis.values) w
        (.createDraft (ConfigurationService.normalizedNote (some analysis.note)) analysis.values id now)
      match result.1 with
      | .error error => (some (.error error), result.2)
      | .ok draft =>
        (some (.ok draft),
          { result.2 with derived := w.derived ++ [⟨draft.id, analysis.base, analysis.overrides⟩] })
  | .publish versionId now =>
    let result := checked
      (ConfigurationService.checkPublish rules versionId (r.getVersion w.store versionId)) w
      (.publish versionId now)
    (some result.1, result.2)
  | .rollback versionId id createdAt publishedAt =>
    let result := checked
      (ConfigurationService.checkRollback rules versionId (r.getVersion w.store versionId)) w
      (.rollback versionId id createdAt publishedAt)
    (some result.1, result.2)

end step

section reading

variable {r : Repository}

def versions (w : World r) : List ConfigVersion := r.versions w.store

def DrawsNew (w : World r) (a : Action) : Prop :=
  ∀ id ∈ a.newId, id ∉ (versions w).map ConfigVersion.id

instance (w : World r) : DecidablePred (DrawsNew w) := fun a ↦
  inferInstanceAs (Decidable (∀ id ∈ a.newId, id ∉ (versions w).map ConfigVersion.id))

def effectiveValues (w : World r) : List ConfigEntry :=
  ((r.getPublished w.store).map ConfigVersion.values).getD []

end reading

def settings (values : List ConfigEntry) : ConfigIdentity → Option ConfigEntry :=
  lookup ConfigEntry.identity values

/-- The values of the version with a number; there are none of version `0`. -/
def numberedValues (versions : List ConfigVersion) (number : ℕ) : List ConfigEntry :=
  ((versions.find? fun v ↦ v.version = number).map ConfigVersion.values).getD []

section grow

variable {versions : List ConfigVersion}

/-- A call leaves the earlier versions with their numbers and values, and adds at most one. -/
structure Grows (command : ConfigurationCommand) (versions versions' : List ConfigVersion)
    (f : ConfigVersion → ConfigVersion) (new : List ConfigVersion) : Prop where
  eq : versions' = versions.map f ++ new
  id : ∀ v, (f v).id = v.id
  version : ∀ v, (f v).version = v.version
  values : ∀ v, (f v).values = v.values
  newVersion : ∀ v ∈ new, v.version = versions.length + 1
  newId : ∀ v ∈ new, command.newId = some v.id

theorem supersedeVersion_version (v : ConfigVersion) : (supersedeVersion v).version = v.version := by
  unfold supersedeVersion
  split <;> rfl

theorem supersedeVersion_values (v : ConfigVersion) : (supersedeVersion v).values = v.values := by
  unfold supersedeVersion
  split <;> rfl

theorem Grows.same (command : ConfigurationCommand) (versions : List ConfigVersion) :
    Grows command versions versions (fun v ↦ v) [] where
  eq := by rw [List.map_id', List.append_nil]
  id _ := rfl
  version _ := rfl
  values _ := rfl
  newVersion := fun _ h ↦ absurd h List.not_mem_nil
  newId := fun _ h ↦ absurd h List.not_mem_nil

theorem accept_grows (versions : List ConfigVersion) (command : ConfigurationCommand) :
    ∃ f new, Grows command versions (accept versions command).2 f new := by
  cases command with
  | createDraft note values newId now =>
    refine ⟨_, [draftVersion (versions.length + 1) note values newId now], ?_,
      fun _ ↦ rfl, fun _ ↦ rfl, fun _ ↦ rfl, ?_, ?_⟩
    · dsimp only [accept]
      rw [List.map_id'']
      exact fun _ ↦ rfl
    · intro v hv
      rw [List.mem_singleton.mp hv]
      rfl
    · intro v hv
      rw [List.mem_singleton.mp hv]
      rfl
  | publish versionId now =>
    dsimp only [accept]
    cases hfind : versions.find? fun v ↦ v.id = versionId with
    | none => exact ⟨_, _, .same _ versions⟩
    | some target =>
      dsimp only
      split
      · exact ⟨_, _, .same _ versions⟩
      · refine ⟨_, [], (List.append_nil _).symm, ?_, ?_, ?_, fun _ h ↦ absurd h List.not_mem_nil,
          fun _ h ↦ absurd h List.not_mem_nil⟩
        · intro v
          split
          · rfl
          · exact supersedeVersion_id v
        · intro v
          split
          · rfl
          · exact supersedeVersion_version v
        · intro v
          split
          · rfl
          · exact supersedeVersion_values v
  | rollback versionId newId createdAt publishedAt =>
    dsimp only [accept]
    cases hfind : versions.find? fun v ↦ v.id = versionId with
    | none => exact ⟨_, _, .same _ versions⟩
    | some target =>
      dsimp only
      split
      · exact ⟨_, _, .same _ versions⟩
      · refine ⟨_, _, rfl, supersedeVersion_id, supersedeVersion_version, supersedeVersion_values,
          ?_, ?_⟩
        · intro v hv
          rw [List.mem_singleton.mp hv]
          rfl
        · intro v hv
          rw [List.mem_singleton.mp hv]
          rfl

theorem apply_grows (refuses : ConfigurationCommand → Bool) (versions : List ConfigVersion)
    (command : ConfigurationCommand) :
    ∃ f new, Grows command versions (apply refuses versions command).2 f new := by
  unfold apply
  cases refuses command with
  | true => exact ⟨_, _, .same command versions⟩
  | false => exact accept_grows versions command

variable {command : ConfigurationCommand} {versions' new : List ConfigVersion}
  {f : ConfigVersion → ConfigVersion}

/-- What is found under an old number stays. -/
theorem Grows.numberedValues (h : Grows command versions versions' f new) {number : ℕ}
    (hle : number ≤ versions.length) :
    numberedValues versions' number = Configurations.numberedValues versions number := by
  have hnew : (new.find? fun v ↦ v.version = number) = none := by
    refine List.find?_eq_none.mpr fun v hv ↦ ?_
    have hversion := h.newVersion v hv
    rw [decide_eq_true_eq]
    omega
  have hold : ((fun v : ConfigVersion ↦ decide (v.version = number)) ∘ f) =
      fun v ↦ decide (v.version = number) := by
    funext v
    rw [Function.comp_apply, h.version]
  unfold Configurations.numberedValues
  rw [h.eq, List.find?_append, hnew, Option.or_none, List.find?_map, hold]
  cases versions.find? fun v ↦ v.version = number with
  | none => rfl
  | some v => exact h.values v

theorem Grows.length_le (h : Grows command versions versions' f new) :
    versions.length ≤ versions'.length := by
  rw [h.eq, List.length_append, List.length_map]
  exact Nat.le_add_right _ _

theorem Grows.mem (h : Grows command versions versions' f new) {v : ConfigVersion} (hv : v ∈ versions') :
    (∃ u ∈ versions, v.id = u.id ∧ v.values = u.values) ∨ v ∈ new := by
  rw [h.eq, List.mem_append] at hv
  refine hv.imp_left fun hold ↦ ?_
  obtain ⟨u, hu, rfl⟩ := List.mem_map.mp hold
  exact ⟨u, hu, h.id u, h.values u⟩

theorem Grows.mem_ids (h : Grows command versions versions' f new) {id : UUID}
    (hid : id ∈ versions.map ConfigVersion.id) : id ∈ versions'.map ConfigVersion.id := by
  obtain ⟨u, hu, rfl⟩ := List.mem_map.mp hid
  rw [h.eq, List.map_append]
  refine List.mem_append_left _ (List.mem_map.mpr ⟨f u, List.mem_map_of_mem hu, h.id u⟩)

end grow

section invariant

def DerivedFrom (versions : List ConfigVersion) (base : ℕ) (overrides values : List ConfigEntry) :
    Prop :=
  settings values = overlaid (settings overrides) (settings (numberedValues versions base))

variable {rules : ConfigurationService.Rules} {r : Repository}

/-- What is known of the versions, of the analyses and of the derived drafts. -/
structure Inv (w : World r) : Prop where
  kept : r.Kept w.store
  lawful : Lawful ((versions w).map entryOf)
  analyses : ∀ a ∈ w.analyses, a.base ≤ (versions w).length ∧
    DerivedFrom (versions w) a.base a.overrides a.values
  derived : ∀ d ∈ w.derived, d.base ≤ (versions w).length ∧
    d.draftId ∈ (versions w).map ConfigVersion.id ∧
    ∀ v ∈ versions w, v.id = d.draftId → DerivedFrom (versions w) d.base d.overrides v.values

variable {w : World r} {command : ConfigurationCommand}

theorem inv_start (r : Repository) : Inv (.start r) where
  kept := r.kept_start
  lawful := by
    have hnone : versions (.start r) = [] := r.versions_start
    rw [hnone]
    exact .nil
  analyses := fun _ h ↦ absurd h List.not_mem_nil
  derived := fun _ h ↦ absurd h List.not_mem_nil

theorem Grows.new_ne {versions versions' new : List ConfigVersion} {f : ConfigVersion → ConfigVersion}
    (h : Grows command versions versions' f new) (hfresh : Fresh versions command)
    {v : ConfigVersion} (hv : v ∈ new) : v.id ∉ versions.map ConfigVersion.id :=
  hfresh v.id (h.newId v hv)

/-- Every call keeps what is known. -/
theorem commit_inv (h : Inv w) (hfresh : Fresh (versions w) command) : Inv (commit w command).2 := by
  obtain ⟨-, hversions, hkept⟩ := r.call_eq w.store command h.kept hfresh
  replace hversions : versions (commit w command).2 = (apply r.refuses (versions w) command).2 :=
    hversions
  obtain ⟨f, new, hgrows⟩ := apply_grows r.refuses (versions w) command
  rw [← hversions] at hgrows
  refine ⟨hkept, ?_, ?_, ?_⟩
  · rcases apply_change r.refuses hfresh with hsame | hchange
    · rw [hversions, hsame]
      exact h.lawful
    · rw [hversions]
      exact hchange.lawful h.lawful
  · intro a ha
    obtain ⟨hbase, hvalues⟩ := h.analyses a ha
    refine ⟨hbase.trans hgrows.length_le, ?_⟩
    unfold DerivedFrom
    rw [hgrows.numberedValues hbase]
    exact hvalues
  · intro d hd
    obtain ⟨hbase, hid, hvalues⟩ := h.derived d hd
    refine ⟨hbase.trans hgrows.length_le, hgrows.mem_ids hid, ?_⟩
    intro v hv hvd
    unfold DerivedFrom
    rw [hgrows.numberedValues hbase]
    rcases hgrows.mem hv with ⟨u, hu, huid, huvalues⟩ | hnew
    · rw [huvalues]
      exact hvalues u hu (huid.symm.trans hvd)
    · exact absurd (hvd ▸ hid) (hgrows.new_ne hfresh hnew)

theorem checked_inv (h : Inv w) (error : Option ConfigurationError)
    (hfresh : Fresh (versions w) command) : Inv (checked error w command).2 := by
  unfold checked
  cases error with
  | none => exact commit_inv h hfresh
  | some error => exact h

/-- A version is found under its own number. -/
theorem Inv.version_mem (h : Inv w) {v : ConfigVersion} (hv : v ∈ versions w) :
    1 ≤ v.version ∧ v.version ≤ (versions w).length ∧
      ((versions w).find? fun u ↦ u.version = v.version) = some v := by
  have hnumbers : (versions w).map ConfigVersion.version = List.range' 1 (versions w).length := by
    have hentries := h.lawful.numbers
    rw [List.map_map, List.length_map] at hentries
    exact hentries
  have hmem := List.mem_map_of_mem (f := ConfigVersion.version) hv
  rw [hnumbers, List.mem_range'_1] at hmem
  refine ⟨hmem.1, by omega, ?_⟩
  have hnodup : ((versions w).map ConfigVersion.version).Nodup := by
    rw [hnumbers]
    exact List.nodup_range'
  cases hfind : (versions w).find? fun u ↦ u.version = v.version with
  | none =>
    have hnone := List.find?_eq_none.mp hfind v hv
    simp at hnone
  | some u =>
    have hu := List.mem_of_find?_eq_some hfind
    have huv : u.version = v.version := by simpa using List.find?_some hfind
    rw [List.inj_on_of_nodup_map hnodup hu hv huv]

theorem settings_mergedValues (published overrides : List ConfigEntry) :
    settings (ConfigurationService.mergedValues published overrides) =
      overlaid (settings overrides) (settings published) := by
  have hperm := List.perm_insertionSort (fun a b ↦ ConfigurationService.byIdentity a b)
    (overrides.foldl Table.put (ConfigurationService.entryMap published)).rows
  have hrows := (overrides.foldl Table.put (ConfigurationService.entryMap published)).nodup
  unfold settings
  calc lookup ConfigEntry.identity (ConfigurationService.mergedValues published overrides)
      = lookup ConfigEntry.identity
          (overrides.foldl Table.put (ConfigurationService.entryMap published)).rows :=
        lookup_perm hrows hperm
    _ = (overrides.foldl Table.put (ConfigurationService.entryMap published)).find? := lookup_rows _
    _ = overlaid (lookup ConfigEntry.identity overrides)
          (ConfigurationService.entryMap published).find? :=
        find?_putAll _ overrides

/-- A derivation that is not refused is one from the base version. -/
theorem derive_spec (h : Inv w) {base : ℕ} {overrides values : List ConfigEntry}
    (hderive : ConfigurationService.derive (r.getPublished w.store) base overrides = .ok values) :
    base ≤ (versions w).length ∧ DerivedFrom (versions w) base overrides values := by
  unfold ConfigurationService.derive at hderive
  dsimp only at hderive
  split at hderive
  · cases hderive
  · rename_i hbase
    rw [not_not] at hbase
    obtain rfl := Except.ok.inj hderive
    have hpublished : r.getPublished w.store = (versions w).find? fun v ↦ v.status = .published :=
      r.getPublished_eq w.store
    rw [hpublished] at hbase ⊢
    cases hfind : (versions w).find? fun v ↦ v.status = .published with
    | none =>
      rw [hfind] at hbase
      obtain rfl : base = 0 := hbase.symm
      refine ⟨Nat.zero_le _, (settings_mergedValues [] overrides).trans ?_⟩
      have hzero : numberedValues (versions w) 0 = [] := by
        unfold numberedValues
        rw [List.find?_eq_none.mpr]
        · rfl
        · intro v hv
          have hpos := (h.version_mem hv).1
          rw [decide_eq_true_eq]
          omega
      rw [hzero]
    | some v =>
      rw [hfind] at hbase
      obtain rfl : v.version = base := hbase
      obtain ⟨-, hle, hnumber⟩ := h.version_mem (List.mem_of_find?_eq_some hfind)
      refine ⟨hle, (settings_mergedValues v.values overrides).trans ?_⟩
      have hvalues : numberedValues (versions w) v.version = v.values := by
        unfold numberedValues
        rw [hnumber]
        rfl
      rw [hvalues]

theorem checked_ok (h : Inv w) (hfresh : Fresh (versions w) command)
    {error : Option ConfigurationError} {v : ConfigVersion} (hok : (checked error w command).1 = .ok v) :
    (apply r.refuses (versions w) command).1 = .ok v ∧
      versions (checked error w command).2 = (apply r.refuses (versions w) command).2 := by
  unfold checked at hok ⊢
  cases error with
  | some error => cases hok
  | none =>
    obtain ⟨hanswer, hversions, -⟩ := r.call_eq w.store command h.kept hfresh
    exact ⟨hanswer.symm.trans hok, hversions⟩

theorem checked_frame (error : Option ConfigurationError) (w : World r)
    (command : ConfigurationCommand) :
    (checked error w command).2.analyses = w.analyses ∧
      (checked error w command).2.derived = w.derived := by
  unfold checked
  cases error <;> exact ⟨rfl, rfl⟩

/-- The draft that an analysis stores says what the analysis says. -/
theorem createDerived_inv (h : Inv w) {a : Analysis} (ha : a ∈ w.analyses)
    {error : Option ConfigurationError} {note : Option String} {id : UUID} {now : Datetime}
    {draft : ConfigVersion} (hfresh : Fresh (versions w) (.createDraft note a.values id now))
    (hok : (checked error w (.createDraft note a.values id now)).1 = .ok draft) :
    Inv { (checked error w (.createDraft note a.values id now)).2 with
      derived := w.derived ++ [⟨draft.id, a.base, a.overrides⟩] } := by
  have hinv := checked_inv h error hfresh
  obtain ⟨hanalyses, hderived⟩ := checked_frame error w (.createDraft note a.values id now)
  obtain ⟨hanswer, hversions⟩ := checked_ok h hfresh hok
  have haccept := accept_of_apply hanswer
  rw [haccept] at hanswer hversions
  refine ⟨hinv.kept, hinv.lawful, hinv.analyses, ?_⟩
  intro d hd
  rcases List.mem_append.mp hd with hd | hd
  · rw [← hderived] at hd
    exact hinv.derived d hd
  · obtain rfl := List.mem_singleton.mp hd
    rw [← hanalyses] at ha
    obtain ⟨hbase, hvalues⟩ := hinv.analyses a ha
    dsimp only [accept] at hanswer hversions
    obtain rfl := Except.ok.inj hanswer
    refine ⟨hbase, ?_, ?_⟩
    · have hmem : id ∈ (versions (checked error w (.createDraft note a.values id now)).2).map
          ConfigVersion.id := by
        rw [hversions, List.map_append]
        exact List.mem_append_right _ (List.mem_singleton_self _)
      exact hmem
    · intro v hv hid
      have hv' : v ∈ versions (checked error w (.createDraft note a.values id now)).2 := hv
      rw [hversions] at hv'
      rcases List.mem_append.mp hv' with hold | hnew
      · exact absurd (List.mem_map.mpr ⟨v, hold, hid⟩) (hfresh id rfl)
      · rw [List.mem_singleton.mp hnew]
        exact hvalues

/-- Every request keeps what is known. -/
theorem step_inv (h : Inv w) (a : Action) (hnew : DrawsNew w a) : Inv (step rules w a).2 := by
  cases a with
  | createDraft note values id now => exact checked_inv h _ hnew
  | derive base note overrides =>
    unfold step
    dsimp only
    cases hderive : ConfigurationService.derive (r.getPublished w.store) base overrides with
    | error error => exact h
    | ok values =>
      refine ⟨h.kept, h.lawful, ?_, h.derived⟩
      intro a ha
      rcases List.mem_append.mp ha with ha | ha
      · exact h.analyses a ha
      · obtain rfl := List.mem_singleton.mp ha
        exact derive_spec h hderive
  | createDerived index id now =>
    unfold step
    dsimp only
    cases hindex : w.analyses[index]? with
    | none => exact h
    | some analysis =>
      dsimp only
      split
      · exact checked_inv h _ hnew
      · rename_i draft hok
        exact createDerived_inv h (List.mem_of_getElem? hindex) hnew hok
  | publish versionId now => exact checked_inv h _ hnew
  | rollback versionId id createdAt publishedAt => exact checked_inv h _ hnew

end invariant

section publication

variable (rules : ConfigurationService.Rules) {r : Repository}

/-- The newly published values are those published before, with exactly the overrides of the
derived draft laid over them. -/
def OnlyOverrides (w : World r) (d : Derived) (new : ConfigVersion) : Prop :=
  settings new.values = overlaid (settings d.overrides) (settings (effectiveValues w))

/-- The published version and the base of the draft agree about every setting that the draft leaves
alone. -/
def BaseStillHolds (w : World r) (d : Derived) : Prop :=
  ∀ identity, settings d.overrides identity = none →
    settings (numberedValues (versions w) d.base) identity = settings (effectiveValues w) identity

/-- Whatever the requests before it, publishing a derived draft loses no published change exactly if
its base still holds. -/
theorem derived_publication_iff (r : Repository) (as : List Action)
    (hnew : Machine.Along (step rules) DrawsNew (.start r) as) (d : Derived)
    (hd : d ∈ (Machine.run (step rules) (.start r) as).derived) (now : Datetime) (new : ConfigVersion)
    (hpublish : (step rules (Machine.run (step rules) (.start r) as) (.publish d.draftId now)).1 =
      some (.ok new)) :
    OnlyOverrides (Machine.run (step rules) (.start r) as) d new ↔
      BaseStillHolds (Machine.run (step rules) (.start r) as) d := by
  have hinv : Inv (Machine.run (step rules) (.start r) as) :=
    Machine.run_invariant (I := Inv) (P := DrawsNew) (fun _ a h hn ↦ step_inv h a hn) (inv_start r)
      hnew
  have hfresh : Fresh (versions (Machine.run (step rules) (.start r) as)) (.publish d.draftId now) := by
    intro id hid
    cases hid
  obtain ⟨hanswer, -⟩ := checked_ok hinv hfresh (Option.some.inj hpublish)
  obtain ⟨v, hv, hid, -, rfl⟩ := apply_publish hanswer
  obtain ⟨-, -, hvalues⟩ := hinv.derived d hd
  have hfrom := hvalues v hv hid
  unfold OnlyOverrides BaseStillHolds
  rw [← overlaid_eq_iff]
  unfold DerivedFrom at hfrom
  rw [← hfrom]
  rfl

end publication

section sample

def entry (key : String) (n : ℤ) : ConfigEntry := ⟨key, .system, .int n, none⟩

def noRules : ConfigurationService.Rules := fun _ ↦ none

/-- One administrator derives a draft from the first version that changes `a`; another one publishes
a version that changes `b` before the draft is stored. -/
def lostUpdate : List Action :=
  [.createDraft none [entry "a" 1, entry "b" 1] 1 10, .publish 1 11, .derive 1 "a" [entry "a" 2],
    .createDraft none [entry "a" 1, entry "b" 9] 2 12, .publish 2 13, .createDerived 0 3 14]

def lostUpdateWorld : World memoryRepository :=
  Machine.run (step noRules) (.start memoryRepository) lostUpdate

def numberAt (values : ConfigIdentity → Option ConfigEntry) (identity : ConfigIdentity) : Option ℤ :=
  match values identity with
  | some ⟨_, _, .int n, _⟩ => some n
  | _ => none

def publication (w : World memoryRepository) (draftId : UUID) : Option ConfigVersion :=
  match (step noRules w (.publish draftId 15)).1 with
  | some (.ok new) => some new
  | _ => none

theorem publication_eq_some {w : World memoryRepository} {draftId : UUID} {new : ConfigVersion}
    (h : publication w draftId = some new) :
    (step noRules w (.publish draftId 15)).1 = some (.ok new) := by
  unfold publication at h
  split at h
  · rename_i new' hnew
    rw [hnew, Option.some.inj h]
  · cases h

theorem lostUpdate_drawsNew :
    Machine.Along (step noRules) DrawsNew (.start memoryRepository) lostUpdate := by
  decide +kernel

theorem derived_publication_iff_sample :
    ∃ d ∈ lostUpdateWorld.derived, ∃ new,
      (step noRules lostUpdateWorld (.publish d.draftId 15)).1 = some (.ok new) ∧
      (OnlyOverrides lostUpdateWorld d new ↔ BaseStillHolds lostUpdateWorld d) := by
  have hids : lostUpdateWorld.derived.map Derived.draftId = [3] := by decide +kernel
  obtain ⟨d, hd, hid⟩ := List.mem_map.mp (hids ▸ List.mem_singleton_self 3 :
    3 ∈ lostUpdateWorld.derived.map Derived.draftId)
  have hsome : (publication lostUpdateWorld 3).isSome = true := by decide +kernel
  obtain ⟨new, hnew⟩ := Option.isSome_iff_exists.mp hsome
  have hpublish := publication_eq_some hnew
  rw [← hid] at hpublish
  exact ⟨d, hd, new, hpublish, derived_publication_iff noRules memoryRepository lostUpdate
    lostUpdate_drawsNew d hd 15 new hpublish⟩

/-- The published change of `b` is taken back. -/
theorem derived_draft_reverts :
    ¬∀ (as : List Action) (d : Derived) (now : Datetime) (new : ConfigVersion),
      Machine.Along (step noRules) DrawsNew (.start memoryRepository) as →
      d ∈ (Machine.run (step noRules) (.start memoryRepository) as).derived →
      (step noRules (Machine.run (step noRules) (.start memoryRepository) as)
        (.publish d.draftId now)).1 = some (.ok new) →
      OnlyOverrides (Machine.run (step noRules) (.start memoryRepository) as) d new := by
  intro h
  have hagree : ∀ d ∈ lostUpdateWorld.derived, ∀ new, publication lostUpdateWorld d.draftId = some new →
      numberAt (settings new.values) ("b", .system, none) =
        numberAt (overlaid (settings d.overrides) (settings (effectiveValues lostUpdateWorld)))
          ("b", .system, none) := by
    intro d hd new hnew
    have honly := h lostUpdate d 15 new lostUpdate_drawsNew hd (publication_eq_some hnew)
    unfold OnlyOverrides at honly
    rw [honly]
    rfl
  have hids : (lostUpdateWorld.derived.map fun d ↦ (publication lostUpdateWorld d.draftId).map fun new ↦
      (numberAt (settings new.values) ("b", .system, none),
        numberAt (overlaid (settings d.overrides) (settings (effectiveValues lostUpdateWorld)))
          ("b", .system, none))) = [some (some 1, some 9)] := by decide +kernel
  obtain ⟨d, hd, hvalue⟩ := List.mem_map.mp (hids ▸ List.mem_singleton_self (some (some 1, some 9)) :
    some (some 1, some 9) ∈ (lostUpdateWorld.derived.map fun d ↦
      (publication lostUpdateWorld d.draftId).map fun new ↦
        (numberAt (settings new.values) ("b", .system, none),
          numberAt (overlaid (settings d.overrides) (settings (effectiveValues lostUpdateWorld)))
            ("b", .system, none))))
  obtain ⟨new, hnew, hpair⟩ := Option.map_eq_some_iff.mp hvalue
  have hequal := hagree d hd new hnew
  rw [(Prod.mk.inj hpair).1, (Prod.mk.inj hpair).2] at hequal
  cases hequal

end sample

end CyberNetizen.Configurations
