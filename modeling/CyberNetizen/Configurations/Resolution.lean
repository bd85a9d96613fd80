import CyberNetizen.Application.ConfigurationResolution

namespace CyberNetizen.Configurations.Resolution

open Domain KeyedTable Application.ConfigurationService

def rank : ConfigScope → ℕ
  | .system => 0
  | .tenant => 1
  | .agent => 2
  | .channel => 3
  | .user => 4

theorem rank_injective {a b : ConfigScope} (h : rank a = rank b) : a = b := by
  cases a <;> cases b <;> first | rfl | exact absurd h (by decide)

/-- The entry is for the target: it names the identifier of its scope. -/
def Applies (target : ResolveTarget) (entry : ConfigEntry) : Prop :=
  entry.scopeId = target.id entry.scopeType

section resolve

variable {registry : ConfigurationRegistry} {target : ResolveTarget} {stored : ConfigVersion}
  {entries : List ConfigEntry} {entry : ConfigEntry} {key : String}

def applied (target : ResolveTarget) (entries : List ConfigEntry) : List ConfigEntry :=
  ConfigScope.all.flatMap fun scope ↦ entries.filter fun entry ↦
    decide (entry.scopeType = scope ∧ entry.scopeId = target.id scope)

theorem mem_applied : entry ∈ applied target entries ↔ entry ∈ entries ∧ Applies target entry := by
  have hall : ∀ scope, scope ∈ ConfigScope.all := by
    intro scope
    cases scope <;> decide
  simp only [applied, List.mem_flatMap, List.mem_filter, decide_eq_true_eq]
  constructor
  · rintro ⟨scope, -, hmem, rfl, hid⟩
    exact ⟨hmem, hid⟩
  · exact fun ⟨hmem, hid⟩ ↦ ⟨entry.scopeType, hall _, hmem, rfl, hid⟩

theorem pairwise_applied : (applied target entries).Pairwise
    fun a b ↦ rank a.scopeType ≤ rank b.scopeType := by
  unfold applied
  rw [List.pairwise_flatMap]
  constructor
  · intro scope _
    apply List.Pairwise.imp_of_mem (R := fun _ _ ↦ True)
    · intro a b ha hb _
      have ha' := (of_decide_eq_true (List.mem_filter.mp ha).2).1
      have hb' := (of_decide_eq_true (List.mem_filter.mp hb).2).1
      rw [ha', hb']
    · exact List.pairwise_of_forall fun _ _ ↦ trivial
  · have hscopes : ConfigScope.all.Pairwise fun a b ↦ rank a ≤ rank b := by decide
    apply hscopes.imp
    intro scope scope' hle a ha b hb
    rw [(of_decide_eq_true (List.mem_filter.mp ha).2).1,
      (of_decide_eq_true (List.mem_filter.mp hb).2).1]
    exact hle

theorem resolveStored_eq : resolveStored registry target stored =
    (applied target stored.values).foldl EffectiveConfigurationSnapshot.put
      (defaultSnapshot registry stored.version) := by
  unfold resolveStored applied
  rw [List.foldl_flatMap]
  congr 1
  funext s scope
  rw [List.foldl_filter]
  congr 1
  funext s entry
  by_cases h : entry.scopeType = scope ∧ entry.scopeId = target.id scope
  · rw [if_pos h, if_pos (decide_eq_true h)]
  · rw [if_neg h, if_neg (by simpa using h)]

/-- The last entry for a key counts, with the source that it is. -/
theorem foldl_put (entries : List ConfigEntry) (s : EffectiveConfigurationSnapshot) (key : String) :
    (entries.foldl EffectiveConfigurationSnapshot.put s).values key =
        ((entries.reverse.find? fun e ↦ e.key = key).map (·.value)).or (s.values key) ∧
      (entries.foldl EffectiveConfigurationSnapshot.put s).sources key =
        ((entries.reverse.find? fun e ↦ e.key = key).map fun e ↦
          (⟨some e.scopeType, e.scopeId, s.version⟩ : EffectiveConfigSource)).or (s.sources key) := by
  induction entries generalizing s with
  | nil => exact ⟨rfl, rfl⟩
  | cons a entries ih =>
    rw [List.foldl_cons, List.reverse_cons, List.find?_append, (ih (s.put a)).1, (ih (s.put a)).2]
    cases hrest : entries.reverse.find? fun e ↦ decide (e.key = key) with
    | some e => exact ⟨rfl, rfl⟩
    | none =>
      by_cases hkey : a.key = key
      · subst hkey
        simp [EffectiveConfigurationSnapshot.put]
      · have hne : key ≠ a.key := fun h ↦ hkey h.symm
        simp [EffectiveConfigurationSnapshot.put, hkey, Function.update_of_ne hne]

/-- The most specific entry for a key is the last one that the loops take. -/
theorem last_applied (hnodup : (entries.map ConfigEntry.identity).Nodup) (hmem : entry ∈ entries)
    (happlies : Applies target entry)
    (hmost : ∀ e ∈ entries, e.key = entry.key → Applies target e →
      rank e.scopeType ≤ rank entry.scopeType) :
    (applied target entries).reverse.find? (fun e ↦ e.key = entry.key) = some entry := by
  have hentry : entry ∈ (applied target entries).reverse :=
    List.mem_reverse.mpr (mem_applied.mpr ⟨hmem, happlies⟩)
  cases hfind : (applied target entries).reverse.find? fun e ↦ decide (e.key = entry.key) with
  | none =>
    have hnone := List.find?_eq_none.mp hfind entry hentry
    simp at hnone
  | some e =>
    obtain ⟨hkey, before, after, hsplit, hbefore⟩ := List.find?_eq_some_iff_append.mp hfind
    have hkey' : e.key = entry.key := of_decide_eq_true hkey
    obtain ⟨he, heapplies⟩ := mem_applied.mp
      (List.mem_reverse.mp (hsplit ▸ List.mem_append_right before List.mem_cons_self))
    have hrank : rank entry.scopeType ≤ rank e.scopeType := by
      rw [hsplit] at hentry
      rcases List.mem_append.mp hentry with hin | hin
      · have := hbefore entry hin
        simp at this
      · rcases List.mem_cons.mp hin with rfl | hin
        · exact le_rfl
        · have happly : (applied target entries).Pairwise
              fun a b ↦ rank a.scopeType ≤ rank b.scopeType := pairwise_applied
          have hsorted := List.pairwise_reverse.mpr happly
          rw [hsplit] at hsorted
          exact (List.pairwise_cons.mp (List.pairwise_append.mp hsorted).2.1).1 entry hin
    have hscope : e.scopeType = entry.scopeType :=
      rank_injective (le_antisymm (hmost e he hkey' heapplies) hrank)
    have hid : e.identity = entry.identity := by
      have hscopeId : e.scopeId = entry.scopeId := by
        rw [heapplies, happlies, hscope]
      rw [ConfigEntry.identity, hkey', hscope, hscopeId]
      rfl
    rw [List.inj_on_of_nodup_map hnodup he hmem hid]

theorem none_applied (h : ∀ e ∈ entries, e.key = key → ¬Applies target e) :
    (applied target entries).reverse.find? (fun e ↦ e.key = key) = none := by
  rw [List.find?_eq_none]
  intro e he hkey
  obtain ⟨hmem, happlies⟩ := mem_applied.mp (List.mem_reverse.mp he)
  exact h e hmem (of_decide_eq_true hkey) happlies

/-- What each key gets. -/
theorem resolveStored_spec (registry : ConfigurationRegistry) (target : ResolveTarget)
    {stored : ConfigVersion} (hnodup : (stored.values.map ConfigEntry.identity).Nodup) :
    (∀ entry ∈ stored.values, Applies target entry →
      (∀ e ∈ stored.values, e.key = entry.key → Applies target e →
        rank e.scopeType ≤ rank entry.scopeType) →
      (resolveStored registry target stored).values entry.key = some entry.value ∧
        (resolveStored registry target stored).sources entry.key =
          some ⟨some entry.scopeType, entry.scopeId, stored.version⟩) ∧
    ∀ key, (∀ e ∈ stored.values, e.key = key → ¬Applies target e) →
      (resolveStored registry target stored).values key =
          (defaultSnapshot registry stored.version).values key ∧
        (resolveStored registry target stored).sources key =
          (defaultSnapshot registry stored.version).sources key := by
  rw [resolveStored_eq]
  constructor
  · intro entry hmem happlies hmost
    obtain ⟨hvalues, hsources⟩ := foldl_put (applied target stored.values)
      (defaultSnapshot registry stored.version) entry.key
    rw [last_applied hnodup hmem happlies hmost] at hvalues hsources
    exact ⟨hvalues, hsources⟩
  · intro key hnone
    obtain ⟨hvalues, hsources⟩ := foldl_put (applied target stored.values)
      (defaultSnapshot registry stored.version) key
    rw [none_applied hnone] at hvalues hsources
    exact ⟨hvalues, hsources⟩

theorem exists_most_specific (h : ∃ e ∈ entries, e.key = key ∧ Applies target e) :
    ∃ entry ∈ entries, entry.key = key ∧ Applies target entry ∧
      ∀ e ∈ entries, e.key = key → Applies target e → rank e.scopeType ≤ rank entry.scopeType := by
  obtain ⟨e, he, hkey, happlies⟩ := h
  induction hn : 4 - rank e.scopeType using Nat.strong_induction_on generalizing e with
  | _ n ih =>
    by_cases hmost : ∀ e' ∈ entries, e'.key = key → Applies target e' →
        rank e'.scopeType ≤ rank e.scopeType
    · exact ⟨e, he, hkey, happlies, hmost⟩
    · push Not at hmost
      obtain ⟨e', he', hkey', happlies', hlt⟩ := hmost
      have hbound : ∀ scope, rank scope ≤ 4 := by
        intro scope
        cases scope <;> decide
      have := hbound e'.scopeType
      exact ih (4 - rank e'.scopeType) (by omega) e' he' hkey' happlies' rfl

/-- The order of the entries does not matter. -/
theorem resolveStored_perm (hnodup : (stored.values.map ConfigEntry.identity).Nodup)
    {values : List ConfigEntry} (hperm : values.Perm stored.values) (key : String) :
    (resolveStored registry target { stored with values }).values key =
        (resolveStored registry target stored).values key ∧
      (resolveStored registry target { stored with values }).sources key =
        (resolveStored registry target stored).sources key := by
  have hnodup' : (values.map ConfigEntry.identity).Nodup :=
    (hperm.map ConfigEntry.identity).nodup_iff.mpr hnodup
  by_cases h : ∃ e ∈ stored.values, e.key = key ∧ Applies target e
  · obtain ⟨entry, hmem, rfl, happlies, hmost⟩ := exists_most_specific h
    obtain ⟨hv, hs⟩ := (resolveStored_spec registry target hnodup).1 entry hmem happlies
      hmost
    obtain ⟨hv', hs'⟩ := (@resolveStored_spec registry target { stored with values } hnodup').1
      entry (hperm.mem_iff.mpr hmem) happlies fun e he ↦ hmost e (hperm.mem_iff.mp he)
    exact ⟨hv'.trans hv.symm, hs'.trans hs.symm⟩
  · have hnone : ∀ e ∈ stored.values, e.key = key → ¬Applies target e :=
      fun e he hkey happlies ↦ h ⟨e, he, hkey, happlies⟩
    obtain ⟨hv, hs⟩ := (resolveStored_spec registry target hnodup).2 key hnone
    obtain ⟨hv', hs'⟩ := (@resolveStored_spec registry target { stored with values } hnodup').2
      key fun e he ↦ hnone e (hperm.mem_iff.mp he)
    exact ⟨hv'.trans hv.symm, hs'.trans hs.symm⟩

/-- A key has its default from the one definition of the registry that is not secret. -/
theorem default_of_definition {definition : ConfigDefinition} {version : ℕ}
    (hmem : definition ∈ registry.definitions) (hsecret : definition.secret = false) :
    (defaultSnapshot registry version).values definition.key = some definition.default ∧
      (defaultSnapshot registry version).sources definition.key = some ⟨none, none, 0⟩ := by
  have hshown : definition ∈ registry.definitions.filter fun d ↦ !d.secret :=
    List.mem_filter.mpr ⟨hmem, by rw [hsecret]; rfl⟩
  have hfind : (registry.definitions.filter fun d ↦ !d.secret).find?
      (fun d ↦ decide (d.key = definition.key)) = some definition := by
    cases hfind : (registry.definitions.filter fun d ↦ !d.secret).find?
        fun d ↦ decide (d.key = definition.key) with
    | none =>
      have hnone := List.find?_eq_none.mp hfind definition hshown
      simp at hnone
    | some d =>
      have hd := (List.mem_filter.mp (List.mem_of_find?_eq_some hfind)).1
      have hkey : d.key = definition.key := by simpa using List.find?_some hfind
      rw [List.inj_on_of_nodup_map registry.nodup hd hmem hkey]
  unfold defaultSnapshot
  dsimp only
  rw [hfind]
  exact ⟨rfl, rfl⟩

/-- Every version, and none, resolves each setting that is not secret: to the value of an entry that
is for the target, or to its default. -/
theorem resolveEffective_complete {published : Option ConfigVersion}
    {versionNumber : ℕ → Option ConfigVersion} {version : Option ℕ}
    {snapshot : EffectiveConfigurationSnapshot}
    (h : resolveEffective registry published versionNumber target version = .ok snapshot)
    (hstored : ∀ stored, (published = some stored ∨ ∃ n, versionNumber n = some stored) →
      (stored.values.map ConfigEntry.identity).Nodup)
    {definition : ConfigDefinition} (hmem : definition ∈ registry.definitions)
    (hsecret : definition.secret = false) :
    snapshot.values definition.key = some definition.default ∨
      ∃ stored, (published = some stored ∨ ∃ n, versionNumber n = some stored) ∧
        ∃ entry ∈ stored.values, entry.key = definition.key ∧ Applies target entry ∧
          snapshot.values definition.key = some entry.value := by
  have hresolved : ∀ stored, (published = some stored ∨ ∃ n, versionNumber n = some stored) →
      (resolveStored registry target stored).values definition.key = some definition.default ∨
        ∃ entry ∈ stored.values, entry.key = definition.key ∧ Applies target entry ∧
          (resolveStored registry target stored).values definition.key = some entry.value := by
    intro stored hread
    by_cases hentry : ∃ e ∈ stored.values, e.key = definition.key ∧ Applies target e
    · obtain ⟨entry, hin, hkey, happlies, hmost⟩ := exists_most_specific hentry
      rw [← hkey] at hmost ⊢
      obtain ⟨hvalue, -⟩ :=
        (resolveStored_spec registry target (hstored stored hread)).1 entry hin happlies hmost
      exact .inr ⟨entry, hin, rfl, happlies, hvalue⟩
    · have hnone : ∀ e ∈ stored.values, e.key = definition.key → ¬Applies target e :=
        fun e he hkey happlies ↦ hentry ⟨e, he, hkey, happlies⟩
      obtain ⟨hvalue, -⟩ :=
        (resolveStored_spec registry target (hstored stored hread)).2 definition.key hnone
      exact .inl (hvalue.trans (default_of_definition hmem hsecret).1)
  have hdefault : (defaultSnapshot registry 0).values definition.key = some definition.default :=
    (default_of_definition hmem hsecret).1
  unfold resolveEffective at h
  split at h
  · cases h
    exact .inl hdefault
  · split at h
    · cases h
      exact .inl hdefault
    · rename_i stored
      cases h
      exact (hresolved stored (.inl rfl)).imp_right fun hentry ↦ ⟨stored, .inl rfl, hentry⟩
  · split at h
    · cases h
    · rename_i n _ _ stored hn
      cases h
      exact (hresolved stored (.inr ⟨n, hn⟩)).imp_right fun hentry ↦ ⟨stored, .inr ⟨n, hn⟩, hentry⟩

end resolve

section diff

variable {base target : List ConfigEntry} {identity : ConfigIdentity}

def applyChange (m : ConfigIdentity → Option JsonValue) (change : ConfigDifference) :
    ConfigIdentity → Option JsonValue :=
  Function.update m change.identity (if change.kind = .removed then none else some change.after)

def applyChanges (m : ConfigIdentity → Option JsonValue) (changes : List ConfigDifference) :
    ConfigIdentity → Option JsonValue :=
  changes.foldl applyChange m

def SameValue (x y : JsonValue) : Prop := x = y ∨ x.equal y = true

/-- What the changes are about. -/
theorem identity_differenceAt {change : ConfigDifference}
    (h : differenceAt base target identity = some change) : change.identity = identity := by
  unfold differenceAt at h
  dsimp only at h
  cases hb : valueAt base identity with
  | none =>
    rw [hb] at h
    cases ht : valueAt target identity with
    | none => rw [ht] at h; cases h; rfl
    | some after => rw [ht] at h; cases h; rfl
  | some before =>
    rw [hb] at h
    cases ht : valueAt target identity with
    | none => rw [ht] at h; cases h; rfl
    | some after =>
      rw [ht] at h
      dsimp only at h
      split_ifs at h
      cases h
      rfl

theorem nodup_identitiesOf (base target : List ConfigEntry) : (identitiesOf base target).Nodup := by
  unfold identitiesOf
  dsimp only
  rw [(List.perm_insertionSort _ _).nodup_iff, List.nodup_append]
  refine ⟨(entryMap base).nodup, (entryMap target).nodup.filter _, ?_⟩
  rintro a ha b hb rfl
  have hnot := (List.mem_filter.mp hb).2
  simp only [Bool.not_eq_true', List.contains_eq_mem, decide_eq_false_iff_not] at hnot
  exact hnot ha

theorem valueAt_eq_none (h : identity ∉ (entryMap base).rows.map ConfigEntry.identity) :
    valueAt base identity = none := by
  have hnone : (entryMap base).find? identity = none :=
    Table.find?_eq_none.mpr fun entry he hid ↦ h (hid ▸ List.mem_map_of_mem he)
  rw [valueAt, hnone]
  rfl

theorem mem_identitiesOf (h : valueAt base identity ≠ none ∨ valueAt target identity ≠ none) :
    identity ∈ identitiesOf base target := by
  unfold identitiesOf
  dsimp only
  rw [(List.perm_insertionSort _ _).mem_iff, List.mem_append, List.mem_filter]
  by_cases hbase : identity ∈ (entryMap base).rows.map ConfigEntry.identity
  · exact .inl hbase
  · have htarget : valueAt target identity ≠ none :=
      h.resolve_left fun hne ↦ hne (valueAt_eq_none hbase)
    refine .inr ⟨?_, by simpa using hbase⟩
    by_contra hnot
    exact htarget (valueAt_eq_none hnot)

theorem shown_of_mem_identitiesOf (h : identity ∈ identitiesOf base target) :
    valueAt base identity ≠ none ∨ valueAt target identity ≠ none := by
  have hshown : ∀ values, identity ∈ (entryMap values).rows.map ConfigEntry.identity →
      valueAt values identity ≠ none := by
    intro values hmem
    obtain ⟨entry, hentry, rfl⟩ := List.mem_map.mp hmem
    rw [valueAt, Table.find?_key hentry]
    exact Option.some_ne_none _
  unfold identitiesOf at h
  dsimp only at h
  rw [(List.perm_insertionSort _ _).mem_iff, List.mem_append, List.mem_filter] at h
  exact h.imp (hshown base) fun h ↦ hshown target h.1

theorem nodup_changesOf (base target : List ConfigEntry) :
    ((changesOf base target).map ConfigDifference.identity).Nodup := by
  have hsub : ∀ l : List ConfigIdentity,
      ((l.filterMap (differenceAt base target)).map ConfigDifference.identity).Sublist l := by
    intro l
    induction l with
    | nil => exact List.Sublist.refl _
    | cons identity l ih =>
      rw [List.filterMap_cons]
      cases hd : differenceAt base target identity with
      | none => exact ih.cons identity
      | some change =>
        dsimp only
        rw [List.map_cons, identity_differenceAt hd]
        exact ih.cons_cons identity
  exact (hsub _).nodup (nodup_identitiesOf base target)

theorem applyChanges_of_not_mem {m : ConfigIdentity → Option JsonValue}
    {changes : List ConfigDifference}
    (h : ∀ change ∈ changes, change.identity ≠ identity) :
    applyChanges m changes identity = m identity := by
  unfold applyChanges
  induction changes generalizing m with
  | nil => rfl
  | cons change changes ih =>
    rw [List.foldl_cons, ih fun c hc ↦ h c (List.mem_cons_of_mem _ hc), applyChange,
      Function.update_of_ne (h change List.mem_cons_self).symm]

theorem applyChanges_of_mem {m : ConfigIdentity → Option JsonValue}
    {changes : List ConfigDifference} (hnodup : (changes.map ConfigDifference.identity).Nodup)
    {change : ConfigDifference} (h : change ∈ changes) :
    applyChanges m changes change.identity =
      if change.kind = .removed then none else some change.after := by
  induction changes generalizing m with
  | nil => exact absurd h List.not_mem_nil
  | cons c changes ih =>
    obtain ⟨hnot, hrest⟩ := List.nodup_cons.mp hnodup
    rcases List.mem_cons.mp h with rfl | h
    · have hother : ∀ c ∈ changes, c.identity ≠ change.identity :=
        fun c hc he ↦ hnot (he ▸ List.mem_map_of_mem hc)
      change applyChanges (applyChange m change) changes change.identity = _
      rw [applyChanges_of_not_mem hother, applyChange, Function.update_self]
    · exact ih hrest h

/-- A change sets what the target has. -/
theorem effect_differenceAt {change : ConfigDifference}
    (h : differenceAt base target identity = some change) :
    Option.Rel SameValue (if change.kind = .removed then none else some change.after)
      (valueAt target identity) := by
  unfold differenceAt at h
  dsimp only at h
  cases hb : valueAt base identity with
  | none =>
    rw [hb] at h
    cases ht : valueAt target identity with
    | none => rw [ht] at h; cases h; exact .none
    | some after => rw [ht] at h; cases h; exact .some (.inl rfl)
  | some before =>
    rw [hb] at h
    cases ht : valueAt target identity with
    | none => rw [ht] at h; cases h; exact .none
    | some after =>
      rw [ht] at h
      dsimp only at h
      split_ifs at h
      cases h
      exact .some (.inl rfl)

/-- Where there is no change, base and target agree. -/
theorem same_of_no_difference (h : differenceAt base target identity = none) :
    ∃ before after, valueAt base identity = some before ∧ valueAt target identity = some after ∧
      before.equal after = true := by
  unfold differenceAt at h
  dsimp only at h
  cases hb : valueAt base identity with
  | none =>
    rw [hb] at h
    cases ht : valueAt target identity <;> rw [ht] at h <;> cases h
  | some before =>
    rw [hb] at h
    cases ht : valueAt target identity with
    | none => rw [ht] at h; cases h
    | some after =>
      rw [ht] at h
      dsimp only at h
      split_ifs at h with hequal
      exact ⟨before, after, rfl, rfl, hequal⟩

/-- The changes lead from the values of the base to those of the target. -/
theorem applyChanges_changesOf (base target : List ConfigEntry) (identity : ConfigIdentity) :
    Option.Rel SameValue (applyChanges (valueAt base) (changesOf base target) identity)
      (valueAt target identity) := by
  by_cases hchange : ∃ change ∈ changesOf base target, change.identity = identity
  · obtain ⟨change, hmem, rfl⟩ := hchange
    rw [applyChanges_of_mem (nodup_changesOf base target) hmem]
    obtain ⟨identity, -, hd⟩ := List.mem_filterMap.mp hmem
    rw [identity_differenceAt hd]
    exact effect_differenceAt hd
  · rw [applyChanges_of_not_mem fun change hmem hid ↦ hchange ⟨change, hmem, hid⟩]
    by_cases hshown : valueAt base identity ≠ none ∨ valueAt target identity ≠ none
    · have hd : differenceAt base target identity = none := by
        cases hd : differenceAt base target identity with
        | none => rfl
        | some change =>
          exact absurd ⟨change, List.mem_filterMap.mpr ⟨identity, mem_identitiesOf hshown, hd⟩,
            identity_differenceAt hd⟩ hchange
      obtain ⟨before, after, hb, ht, hequal⟩ := same_of_no_difference hd
      rw [hb, ht]
      exact .some (.inr hequal)
    · rw [not_or, not_not, not_not] at hshown
      rw [hshown.1, hshown.2]
      exact .none

/-- A change that is listed tells the truth about both versions, and is no change of an entry to an
equal one. -/
theorem change_faithful {change : ConfigDifference} (h : change ∈ changesOf base target) :
    (change.kind = .added ∧ valueAt base change.identity = none ∧
        valueAt target change.identity = some change.after) ∨
      (change.kind = .removed ∧ valueAt base change.identity = some change.before ∧
        valueAt target change.identity = none) ∨
      (change.kind = .changed ∧ valueAt base change.identity = some change.before ∧
        valueAt target change.identity = some change.after ∧
        change.before.equal change.after = false) := by
  obtain ⟨identity, hmem, hd⟩ := List.mem_filterMap.mp h
  have hid := identity_differenceAt hd
  rw [hid]
  unfold differenceAt at hd
  dsimp only at hd
  cases hb : valueAt base identity with
  | none =>
    rw [hb] at hd
    cases ht : valueAt target identity with
    | none =>
      rcases shown_of_mem_identitiesOf hmem with hne | hne
      · exact absurd hb hne
      · exact absurd ht hne
    | some after => rw [ht] at hd; cases hd; exact .inl ⟨rfl, rfl, rfl⟩
  | some before =>
    rw [hb] at hd
    cases ht : valueAt target identity with
    | none => rw [ht] at hd; cases hd; exact .inr (.inl ⟨rfl, rfl, rfl⟩)
    | some after =>
      rw [ht] at hd
      dsimp only at hd
      split_ifs at hd with hequal
      cases hd
      exact .inr (.inr ⟨rfl, rfl, rfl, by simpa using hequal⟩)

theorem valueAt_of_mem {values : List ConfigEntry} {entry : ConfigEntry}
    (hnodup : (values.map ConfigEntry.identity).Nodup) (h : entry ∈ values) :
    valueAt values entry.identity = some entry.value := by
  have hfind : (entryMap values).find? entry.identity = some entry :=
    (Overlay.lookup_eq_some hnodup).mpr ⟨h, rfl⟩
  rw [valueAt, hfind]
  rfl

theorem valueAt_of_not_mem {values : List ConfigEntry}
    (hnodup : (values.map ConfigEntry.identity).Nodup)
    (h : ∀ entry ∈ values, entry.identity ≠ identity) : valueAt values identity = none := by
  have hfind : (entryMap values).find? identity = none := by
    cases hfind : (entryMap values).find? identity with
    | none => rfl
    | some entry =>
      obtain ⟨hmem, hid⟩ := (Overlay.lookup_eq_some hnodup).mp hfind
      exact absurd hid (h entry hmem)
  rw [valueAt, hfind]
  rfl

end diff

/-- The most specific entry that is for the target gives a key its value and its source, and
otherwise the default does, in whatever order the entries stand; and the changes between two
versions lead from the one to the other. -/
theorem resolution_and_diff (registry : ConfigurationRegistry) (target : ResolveTarget)
    (stored base : ConfigVersion) (hstored : (stored.values.map ConfigEntry.identity).Nodup)
    (hbase : (base.values.map ConfigEntry.identity).Nodup) :
    (∀ entry ∈ stored.values, Applies target entry →
      (∀ e ∈ stored.values, e.key = entry.key → Applies target e →
        rank e.scopeType ≤ rank entry.scopeType) →
      (resolveStored registry target stored).values entry.key = some entry.value ∧
        (resolveStored registry target stored).sources entry.key =
          some ⟨some entry.scopeType, entry.scopeId, stored.version⟩) ∧
    (∀ definition ∈ registry.definitions, definition.secret = false →
      (∀ e ∈ stored.values, e.key = definition.key → ¬Applies target e) →
      (resolveStored registry target stored).values definition.key = some definition.default ∧
        (resolveStored registry target stored).sources definition.key = some ⟨none, none, 0⟩) ∧
    (∀ values key, values.Perm stored.values →
      (resolveStored registry target { stored with values }).values key =
          (resolveStored registry target stored).values key ∧
        (resolveStored registry target { stored with values }).sources key =
          (resolveStored registry target stored).sources key) ∧
    (∀ entry ∈ base.values, valueAt base.values entry.identity = some entry.value) ∧
    (∀ identity, (∀ entry ∈ base.values, entry.identity ≠ identity) →
      valueAt base.values identity = none) ∧
    (∀ entry ∈ stored.values, ∃ value, SameValue value entry.value ∧
      applyChanges (valueAt base.values) (previewDiff stored (some base)).changes entry.identity =
        some value) ∧
    (∀ identity, (∀ entry ∈ stored.values, entry.identity ≠ identity) →
      applyChanges (valueAt base.values) (previewDiff stored (some base)).changes identity =
        none) ∧
    ∀ change ∈ (previewDiff stored (some base)).changes,
      ∀ before ∈ base.values, ∀ after ∈ stored.values, before.identity = change.identity →
        after.identity = change.identity → before.value.equal after.value = false := by
  refine ⟨(resolveStored_spec registry target hstored).1, ?_, fun values key hperm ↦
    resolveStored_perm hstored hperm key, fun entry ↦ valueAt_of_mem hbase,
    fun identity ↦ valueAt_of_not_mem hbase, ?_, ?_, ?_⟩
  · intro definition hmem hsecret hnone
    obtain ⟨hvalues, hsources⟩ :=
      (resolveStored_spec registry target hstored).2 definition.key hnone
    rw [hvalues, hsources]
    exact default_of_definition hmem hsecret
  · intro entry hmem
    have hrel := applyChanges_changesOf base.values stored.values entry.identity
    rw [valueAt_of_mem hstored hmem] at hrel
    cases happly : applyChanges (valueAt base.values) (changesOf base.values stored.values)
        entry.identity with
    | none =>
      rw [happly] at hrel
      cases hrel
    | some value =>
      rw [happly] at hrel
      cases hrel with
      | some hsame => exact ⟨value, hsame, happly⟩
  · intro identity hnone
    have hrel := applyChanges_changesOf base.values stored.values identity
    rw [valueAt_of_not_mem hstored hnone] at hrel
    cases happly : applyChanges (valueAt base.values) (changesOf base.values stored.values)
        identity with
    | none => exact happly
    | some value =>
      rw [happly] at hrel
      cases hrel
  · intro change hchange before hbefore after hafter hidb hida
    have hb := valueAt_of_mem hbase hbefore
    have ht := valueAt_of_mem hstored hafter
    rw [hidb] at hb
    rw [hida] at ht
    have hmem : change ∈ changesOf base.values stored.values := hchange
    rcases change_faithful hmem with ⟨-, hnone, -⟩ | ⟨-, -, hnone⟩ | ⟨-, hb', ht', hdiffer⟩
    · rw [hb] at hnone
      cases hnone
    · rw [ht] at hnone
      cases hnone
    · rw [hb] at hb'
      rw [ht] at ht'
      rw [Option.some.inj hb', Option.some.inj ht']
      exact hdiffer

def sampleRegistry : ConfigurationRegistry where
  definitions := [⟨"memory.recall.limit", .int 8, false⟩]
  nodup := by decide

def sampleBase : ConfigVersion where
  id := 1
  version := 1
  status := .superseded
  note := none
  createdAt := 0
  publishedAt := some 0
  values := [⟨"memory.recall.limit", .system, .int 10, none⟩]

def sampleVersion : ConfigVersion where
  id := 2
  version := 2
  status := .published
  note := none
  createdAt := 1
  publishedAt := some 1
  values := [⟨"memory.recall.limit", .user, .int 30, some 7⟩,
    ⟨"memory.recall.limit", .system, .int 20, none⟩]

theorem sample_resolution :
    (sampleVersion.values.map ConfigEntry.identity).Nodup ∧
      (sampleBase.values.map ConfigEntry.identity).Nodup ∧
      (resolveStored sampleRegistry ⟨3, none, none, some 7⟩ sampleVersion).values
        "memory.recall.limit" = some (.int 30) := by
  have hnodup : (sampleVersion.values.map ConfigEntry.identity).Nodup := by decide
  have hnodup' : (sampleBase.values.map ConfigEntry.identity).Nodup := by decide
  refine ⟨hnodup, hnodup', ?_⟩
  have hresolve := (resolution_and_diff sampleRegistry ⟨3, none, none, some 7⟩ sampleVersion
    sampleBase hnodup hnodup').1
  refine (hresolve ⟨"memory.recall.limit", .user, .int 30, some 7⟩ List.mem_cons_self rfl ?_).1
  intro e he _ _
  rcases List.mem_cons.mp he with rfl | he
  · exact le_rfl
  · rw [List.mem_singleton.mp he]
    decide

end CyberNetizen.Configurations.Resolution
