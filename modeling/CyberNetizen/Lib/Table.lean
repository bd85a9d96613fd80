import Mathlib.Data.List.Nodup
import Mathlib.Data.List.Perm.Basic

namespace KeyedTable

universe u v

/-- A finite table whose rows carry their primary key. The rows keep the order in
which they were inserted; two rows never share a key. -/
structure Table {ρ : Type u} {κ : Type v} (key : ρ → κ) where
  rows : List ρ
  nodup : (rows.map key).Nodup

structure Update {ρ : Type u} {κ : Type v} (key : ρ → κ) where
  toFun : ρ → ρ
  key_eq : ∀ r, key (toFun r) = key r

instance {ρ : Type u} {κ : Type v} {key : ρ → κ} : CoeFun (Update key) fun _ ↦ ρ → ρ :=
  ⟨Update.toFun⟩

namespace Table

variable {ρ : Type u} {κ : Type v} {key : ρ → κ}

instance : Membership ρ (Table key) := ⟨fun t r ↦ r ∈ t.rows⟩

theorem mem_rows {t : Table key} {r : ρ} : r ∈ t.rows ↔ r ∈ t := Iff.rfl

theorem ext_rows {t t' : Table key} (h : t.rows = t'.rows) : t = t' := by
  cases t; cases t'; cases h; rfl

def empty : Table key := ⟨[], List.nodup_nil⟩

@[simp] theorem not_mem_empty (r : ρ) : r ∉ (empty : Table key) := List.not_mem_nil

theorem eq_of_key_eq {t : Table key} {r r' : ρ} (h : r ∈ t) (h' : r' ∈ t)
    (hk : key r = key r') : r = r' :=
  List.inj_on_of_nodup_map t.nodup h h' hk

/-- The rows after `UPDATE … SET f WHERE p`. -/
def updateWhere (t : Table key) (p : ρ → Bool) (f : Update key) : Table key where
  rows := t.rows.map fun r ↦ if p r then f r else r
  nodup := by
    have h : (t.rows.map fun r ↦ if p r then f r else r).map key = t.rows.map key := by
      rw [List.map_map]
      refine List.map_congr_left fun r _ ↦ ?_
      by_cases hp : p r
      · simp only [Function.comp_apply, hp, if_true, f.key_eq]
      · simp only [Function.comp_apply, hp, Bool.false_eq_true, if_false]
    rw [h]
    exact t.nodup

section update

variable {t : Table key} {p : ρ → Bool} {f : Update key}

theorem key_update (p : ρ → Bool) (f : Update key) (r : ρ) :
    key (if p r then f r else r) = key r := by
  split
  · exact f.key_eq r
  · rfl

theorem mem_updateWhere {r' : ρ} :
    r' ∈ t.updateWhere p f ↔ ∃ r ∈ t, (if p r then f r else r) = r' :=
  List.mem_map

theorem updateWhere_eq_self (h : ∀ r ∈ t, p r = true → f r = r) : t.updateWhere p f = t := by
  apply ext_rows
  refine (List.map_congr_left fun r hr ↦ ?_).trans (List.map_id t.rows)
  by_cases hp : p r
  · simpa [hp] using h r hr hp
  · simp [hp]

theorem map_updateWhere {ν : Type u} {g : ρ → ν} (hg : ∀ r, g (f r) = g r) :
    (t.updateWhere p f).rows.map g = t.rows.map g := by
  unfold updateWhere
  rw [List.map_map]
  refine List.map_congr_left fun r _ ↦ ?_
  by_cases hp : p r <;> simp [hp, hg]

theorem filter_updateWhere (q : ρ → Bool) (hq : ∀ r ∈ t, p r = true → q (f r) = q r) :
    (t.updateWhere p f).rows.filter q =
      (t.rows.filter q).map fun r ↦ if p r then f r else r := by
  have h : ∀ l : List ρ, (∀ r ∈ l, p r = true → q (f r) = q r) →
      (l.map fun r ↦ if p r then f r else r).filter q =
        (l.filter q).map fun r ↦ if p r then f r else r := by
    intro l hl
    rw [List.filter_map]
    congr 1
    refine List.filter_congr fun r hr ↦ ?_
    by_cases hp : p r
    · simpa [hp] using hl r hr hp
    · simp [hp]
  exact h t.rows hq

/-- An update that makes no new row meet `q` leaves at most as many that do. -/
theorem countP_updateWhere_le {q : ρ → Bool}
    (h : ∀ r ∈ t, p r = true → q (f r) = true → q r = true) :
    (t.updateWhere p f).rows.countP q ≤ t.rows.countP q := by
  unfold updateWhere
  rw [List.countP_map]
  refine List.countP_mono_left fun r hr hq ↦ ?_
  by_cases hp : p r = true
  · simp only [Function.comp_apply, hp, if_true] at hq
    exact h r hr hp hq
  · simpa only [Function.comp_apply, hp, Bool.false_eq_true, if_false] using hq

end update

/-- The rows after `DELETE … WHERE p`. -/
def deleteWhere (t : Table key) (p : ρ → Bool) : Table key where
  rows := t.rows.filter fun r ↦ !p r
  nodup := (List.filter_sublist.map key).nodup t.nodup

theorem mem_deleteWhere {t : Table key} {p : ρ → Bool} {r : ρ} :
    r ∈ t.deleteWhere p ↔ r ∈ t ∧ p r = false := by
  rw [← mem_rows, deleteWhere, List.mem_filter, Bool.not_eq_true', mem_rows]

section lookup

variable [DecidableEq κ]

def find? (t : Table key) (k : κ) : Option ρ := t.rows.find? fun r ↦ key r = k

theorem find?_eq_some {t : Table key} {k : κ} {r : ρ} :
    t.find? k = some r ↔ r ∈ t ∧ key r = k := by
  constructor
  · intro h
    exact ⟨List.mem_of_find?_eq_some h, by simpa using List.find?_some h⟩
  · rintro ⟨hr, rfl⟩
    cases h : t.find? (key r) with
    | none =>
      have hn := List.find?_eq_none.mp h r hr
      simp at hn
    | some r' =>
      have hk : key r' = key r := by simpa using List.find?_some h
      rw [eq_of_key_eq (List.mem_of_find?_eq_some h) hr hk]

theorem find?_key {t : Table key} {r : ρ} (h : r ∈ t) : t.find? (key r) = some r :=
  find?_eq_some.mpr ⟨h, rfl⟩

theorem find?_eq_none {t : Table key} {k : κ} : t.find? k = none ↔ ∀ r ∈ t, key r ≠ k := by
  unfold find?
  rw [List.find?_eq_none]
  simp only [decide_eq_true_eq, mem_rows, ne_eq]

theorem any_find? {t : Table key} {k : κ} {q : ρ → Bool} :
    (t.find? k).any q = true ↔ ∃ r ∈ t, key r = k ∧ q r = true := by
  cases h : t.find? k with
  | none =>
    refine iff_of_false (by simp) ?_
    rintro ⟨r, hr, hk, -⟩
    exact find?_eq_none.mp h r hr hk
  | some r =>
    obtain ⟨hr, hk⟩ := find?_eq_some.mp h
    rw [Option.any_some]
    constructor
    · exact fun hq ↦ ⟨r, hr, hk, hq⟩
    · rintro ⟨r', hr', hk', hq⟩
      rwa [eq_of_key_eq hr hr' (hk.trans hk'.symm)]

theorem isSome_find? {t : Table key} {k : κ} :
    (t.find? k).isSome = true ↔ ∃ r ∈ t, key r = k := by
  rw [← Bool.not_eq_false, Option.isSome_eq_false_iff, Option.isNone_iff_eq_none, find?_eq_none]
  push Not
  rfl

theorem key_of_find? {t : Table key} {k : κ} {r : ρ} (h : t.find? k = some r) : key r = k :=
  (find?_eq_some.mp h).2

theorem mem_of_find? {t : Table key} {k : κ} {r : ρ} (h : t.find? k = some r) : r ∈ t :=
  (find?_eq_some.mp h).1

@[simp] theorem find?_empty (k : κ) : (empty : Table key).find? k = none := rfl

theorem find?_updateWhere {t : Table key} {p : ρ → Bool} {f : Update key} (k : κ) :
    (t.updateWhere p f).find? k = (t.find? k).map fun r ↦ if p r then f r else r := by
  cases h : t.find? k with
  | none =>
    rw [Option.map_none, find?_eq_none]
    intro r' hr'
    obtain ⟨r, hr, rfl⟩ := mem_updateWhere.mp hr'
    exact fun he ↦ find?_eq_none.mp h r hr ((key_update p f r).symm.trans he)
  | some r =>
    obtain ⟨hr, hk⟩ := find?_eq_some.mp h
    rw [Option.map_some, find?_eq_some]
    exact ⟨mem_updateWhere.mpr ⟨r, hr, rfl⟩, (key_update p f r).trans hk⟩

/-- An update of the row with key `k` leaves every other lookup alone. -/
theorem find?_updateWhere_of_ne {t : Table key} {f : Update key} {k k' : κ} (h : k' ≠ k) :
    (t.updateWhere (fun r ↦ key r = k) f).find? k' = t.find? k' := by
  rw [find?_updateWhere]
  cases hk : t.find? k' with
  | none => rfl
  | some r =>
    have hr : key r ≠ k := by rw [key_of_find? hk]; exact h
    simp [hr]

theorem find?_updateWhere_self {t : Table key} {f : Update key} {k : κ} {r : ρ}
    (h : t.find? k = some r) :
    (t.updateWhere (fun r ↦ key r = k) f).find? k = some (f r) := by
  rw [find?_updateWhere, h]
  simp [key_of_find? h]

def insert? (t : Table key) (r : ρ) : Option (Table key) :=
  if h : key r ∈ t.rows.map key then none
  else some ⟨t.rows ++ [r], by
    rw [List.map_append, List.map_singleton]
    exact List.nodup_append.mpr ⟨t.nodup, List.nodup_singleton _, by
      intro a ha b hb
      rw [List.mem_singleton.mp hb]
      exact fun he ↦ h (he ▸ ha)⟩⟩

theorem insert?_eq_some {t t' : Table key} {r : ρ} (h : t.insert? r = some t') :
    (∀ x ∈ t, key x ≠ key r) ∧ t'.rows = t.rows ++ [r] := by
  unfold insert? at h
  split at h
  · exact absurd h (by simp)
  · rename_i hk
    obtain rfl := Option.some.inj h
    exact ⟨fun x hx he ↦ hk (List.mem_map.mpr ⟨x, hx, he⟩), rfl⟩

theorem insert?_eq_none {t : Table key} {r : ρ} :
    t.insert? r = none ↔ ∃ x ∈ t, key x = key r := by
  unfold insert?
  split
  · rename_i hk
    exact iff_of_true rfl (List.mem_map.mp hk)
  · rename_i hk
    exact iff_of_false (by simp) fun ⟨x, hx, he⟩ ↦ hk (List.mem_map.mpr ⟨x, hx, he⟩)

theorem mem_insert? {t t' : Table key} {r x : ρ} (h : t.insert? r = some t') :
    x ∈ t' ↔ x ∈ t ∨ x = r := by
  rw [← mem_rows, (insert?_eq_some h).2, List.mem_append, List.mem_singleton, mem_rows]

theorem find?_insert? {t t' : Table key} {r : ρ} (h : t.insert? r = some t') (k : κ) :
    t'.find? k = if k = key r then some r else t.find? k := by
  split
  · rename_i hk
    exact find?_eq_some.mpr ⟨(mem_insert? h).mpr (.inr rfl), hk.symm⟩
  · rename_i hk
    cases hf : t.find? k with
    | none =>
      refine find?_eq_none.mpr fun x hx ↦ ?_
      rcases (mem_insert? h).mp hx with hx | rfl
      · exact find?_eq_none.mp hf x hx
      · exact fun he ↦ hk he.symm
    | some x =>
      obtain ⟨hx, he⟩ := find?_eq_some.mp hf
      exact find?_eq_some.mpr ⟨(mem_insert? h).mpr (.inl hx), he⟩

/-- Dictionary assignment: replace the row with the same key, or append. -/
def put (t : Table key) (r : ρ) : Table key :=
  if h : key r ∈ t.rows.map key then
    ⟨t.rows.map fun x ↦ if key x = key r then r else x, by
      have he : (t.rows.map fun x ↦ if key x = key r then r else x).map key = t.rows.map key := by
        rw [List.map_map]
        refine List.map_congr_left fun x _ ↦ ?_
        by_cases hx : key x = key r
        · simp [hx]
        · simp [hx]
      exact he ▸ t.nodup⟩
  else ⟨t.rows ++ [r], by
    rw [List.map_append, List.map_singleton]
    exact List.nodup_append.mpr ⟨t.nodup, List.nodup_singleton _, by
      intro a ha b hb
      rw [List.mem_singleton.mp hb]
      exact fun he ↦ h (he ▸ ha)⟩⟩

theorem put_of_mem {t : Table key} {r : ρ} (h : key r ∈ t.rows.map key) :
    (t.put r).rows = t.rows.map fun x ↦ if key x = key r then r else x := by
  unfold put
  rw [dif_pos h]

theorem put_of_not_mem {t : Table key} {r : ρ} (h : key r ∉ t.rows.map key) :
    (t.put r).rows = t.rows ++ [r] := by
  unfold put
  rw [dif_neg h]

theorem insert?_of_not_mem {t : Table key} {r : ρ} (h : key r ∉ t.rows.map key) :
    ∃ t', t.insert? r = some t' ∧ t'.rows = t.rows ++ [r] := by
  unfold insert?
  rw [dif_neg h]
  exact ⟨_, rfl, rfl⟩

theorem mem_put {t : Table key} {r x : ρ} :
    x ∈ t.put r ↔ x = r ∨ x ∈ t ∧ key x ≠ key r := by
  unfold put
  split
  · rename_i hmem
    constructor
    · intro hx
      obtain ⟨y, hy, rfl⟩ := List.mem_map.mp hx
      by_cases hk : key y = key r
      · exact .inl (if_pos hk)
      · rw [if_neg hk]
        exact .inr ⟨hy, hk⟩
    · rintro (rfl | ⟨hx, hk⟩)
      · obtain ⟨y, hy, he⟩ := List.mem_map.mp hmem
        exact List.mem_map.mpr ⟨y, hy, if_pos he⟩
      · exact List.mem_map.mpr ⟨x, hx, if_neg hk⟩
  · rename_i hmem
    have hne : ∀ y ∈ t, key y ≠ key r := fun y hy he ↦ hmem (List.mem_map.mpr ⟨y, hy, he⟩)
    constructor
    · intro hx
      rcases List.mem_append.mp hx with hx | hx
      · exact .inr ⟨hx, hne x hx⟩
      · exact .inl (List.mem_singleton.mp hx)
    · rintro (rfl | ⟨hx, -⟩)
      · exact List.mem_append_right _ (List.mem_singleton_self x)
      · exact List.mem_append_left _ hx

theorem find?_put (t : Table key) (r : ρ) (k : κ) :
    (t.put r).find? k = if k = key r then some r else t.find? k := by
  split
  · rename_i hk
    exact find?_eq_some.mpr ⟨mem_put.mpr (.inl rfl), hk.symm⟩
  · rename_i hk
    cases hf : t.find? k with
    | none =>
      refine find?_eq_none.mpr fun x hx ↦ ?_
      rcases mem_put.mp hx with rfl | ⟨hx, -⟩
      · exact fun he ↦ hk he.symm
      · exact find?_eq_none.mp hf x hx
    | some x =>
      obtain ⟨hx, rfl⟩ := find?_eq_some.mp hf
      exact find?_eq_some.mpr ⟨mem_put.mpr (.inr ⟨hx, hk⟩), rfl⟩

/-- Assigning a changed copy of the row found under `k` is an update of that row. -/
theorem put_eq_updateWhere {t : Table key} {k : κ} {r : ρ} (f : Update key)
    (h : t.find? k = some r) : t.put (f r) = t.updateWhere (fun x ↦ key x = k) f := by
  obtain ⟨hr, hk⟩ := find?_eq_some.mp h
  have hmem : key (f r) ∈ t.rows.map key := List.mem_map.mpr ⟨r, hr, (f.key_eq r).symm⟩
  apply ext_rows
  unfold put
  rw [dif_pos hmem]
  refine List.map_congr_left fun x hx ↦ ?_
  rw [f.key_eq r, hk]
  by_cases hxk : key x = k
  · have hxr : x = r := eq_of_key_eq hx hr (hxk.trans hk.symm)
    simp [hxr, hk]
  · simp [hxk]

theorem put_eq_of_insert? {t t' : Table key} {r : ρ} (h : t.insert? r = some t') : t.put r = t' := by
  obtain ⟨hk, hrows⟩ := insert?_eq_some h
  apply ext_rows
  have hmem : key r ∉ t.rows.map key := fun hm ↦ by
    obtain ⟨x, hx, he⟩ := List.mem_map.mp hm
    exact hk x hx he
  unfold put
  rw [dif_neg hmem, hrows]

theorem insert?_put {t : Table key} {r : ρ} (h : t.find? (key r) = none) :
    t.insert? r = some (t.put r) := by
  cases hinsert : t.insert? r with
  | none =>
    obtain ⟨x, hx, he⟩ := insert?_eq_none.mp hinsert
    exact absurd he (find?_eq_none.mp h x hx)
  | some t' => rw [put_eq_of_insert? hinsert]

/-- Update the row under `k` if there is one and it meets `q`. -/
theorem updateWhere_and_eq {t : Table key} {f : Update key} {k : κ} {q : ρ → Bool} :
    t.updateWhere (fun x ↦ key x = k && q x) f =
      match t.find? k with
      | none => t
      | some r => if q r then t.put (f r) else t := by
  cases h : t.find? k with
  | none =>
    refine updateWhere_eq_self fun r hr hp ↦ ?_
    simp only [Bool.and_eq_true, decide_eq_true_eq] at hp
    exact absurd hp.1 (find?_eq_none.mp h r hr)
  | some r =>
    obtain ⟨hr, hk⟩ := find?_eq_some.mp h
    have hunique : ∀ x ∈ t, key x = k → x = r := fun x hx hxk ↦
      eq_of_key_eq hx hr (hxk.trans hk.symm)
    dsimp only
    split
    · rename_i hq
      rw [put_eq_updateWhere f h]
      refine ext_rows (List.map_congr_left fun x hx ↦ ?_)
      by_cases hxk : key x = k
      · simp [hunique x hx hxk, hq]
      · simp [hxk]
    · rename_i hq
      refine updateWhere_eq_self fun x hx hp ↦ ?_
      simp only [Bool.and_eq_true, decide_eq_true_eq] at hp
      exact absurd (hunique x hx hp.1 ▸ hp.2) hq

theorem updateWhere_key_eq {t : Table key} {f : Update key} {k : κ} :
    t.updateWhere (fun x ↦ key x = k) f =
      match t.find? k with
      | none => t
      | some r => t.put (f r) := by
  simpa using updateWhere_and_eq (q := fun _ ↦ true) (t := t) (f := f) (k := k)

def putEach (t : Table key) (l : List ρ) (f : Update key) : Table key :=
  l.foldl (fun t r ↦ t.put (f r)) t

theorem putEach_eq_updateWhere {t : Table key} {l : List ρ} {f : Update key}
    (hnodup : (l.map key).Nodup) (hfind : ∀ r ∈ l, t.find? (key r) = some r) :
    t.putEach l f = t.updateWhere (fun x ↦ decide (key x ∈ l.map key)) f := by
  induction l generalizing t with
  | nil => exact (updateWhere_eq_self fun r _ h ↦ by simp at h).symm
  | cons r l ih =>
    obtain ⟨hr, hl⟩ := List.nodup_cons.mp hnodup
    have hput := put_eq_updateWhere f (hfind r List.mem_cons_self)
    have hrest := ih (t := t.put (f r)) hl fun x hx ↦ by
      have hne : key x ≠ key r := fun he ↦ hr (he ▸ List.mem_map_of_mem hx)
      rw [hput, find?_updateWhere_of_ne hne]
      exact hfind x (List.mem_cons_of_mem _ hx)
    refine hrest.trans ?_
    rw [hput]
    refine ext_rows ?_
    unfold updateWhere
    dsimp only
    rw [List.map_map]
    refine List.map_congr_left fun x hx ↦ ?_
    by_cases hxr : key x = key r
    · have hkey : key (f x) = key r := (f.key_eq x).trans hxr
      simp only [Function.comp_apply, hxr, decide_true, if_true, hkey, decide_eq_true_eq,
        if_neg hr, List.map_cons, List.mem_cons_self]
    · simp only [Function.comp_apply, hxr, decide_false, Bool.false_eq_true, if_false,
        List.map_cons, List.mem_cons, false_or]

theorem putEach_filter {t : Table key} {p : ρ → Bool} {f : Update key} :
    t.putEach (t.rows.filter p) f = t.updateWhere p f := by
  rw [putEach_eq_updateWhere ((List.filter_sublist.map key).nodup t.nodup)
    fun r hr ↦ find?_key (List.mem_filter.mp hr).1]
  refine ext_rows (List.map_congr_left fun x hx ↦ ?_)
  have hiff : key x ∈ (t.rows.filter p).map key ↔ p x = true := by
    constructor
    · intro h
      obtain ⟨y, hy, he⟩ := List.mem_map.mp h
      obtain ⟨hmem, hp⟩ := List.mem_filter.mp hy
      exact eq_of_key_eq hmem hx he ▸ hp
    · exact fun h ↦ List.mem_map_of_mem (List.mem_filter.mpr ⟨hx, h⟩)
  by_cases hp : p x = true <;> simp [hiff, hp]

end lookup

end Table

end KeyedTable
