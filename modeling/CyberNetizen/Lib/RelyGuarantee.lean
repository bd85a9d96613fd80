import CyberNetizen.Lib.ReadCommitted

/-! # Rely and guarantee for read-committed transactions

The rows of a transaction stay apart from those of the others, so a commit changes what another
transaction sees only as far as the rely allows. -/

namespace ReadCommitted

open KeyedTable Overlay

universe u v w x y z

variable {ρ : Type u} {κ : Type v} {ν : Type w} {ε β : Type x} {ι : Type y} {τ : Type z}
  {key : ρ → κ} {unique : ρ → List ν}

section data

variable [DecidableEq κ]

/-- A transaction holds committed rows, writes rows that it holds or makes, and sees no two rows with
one key. -/
structure Sound (unique : ρ → List ν) (db : Table key) (l : Local key) : Prop where
  held : ∀ r ∈ l.held, r ∈ db
  owned : ∀ r ∈ l.writes, key r ∈ l.held.map key ∨ db.find? (key r) = none
  uniq : Uniq unique (view db l)

/-- Two transactions hold different rows, and no row that one writes shares a key with a row that the
other writes. -/
structure Apart (unique : ρ → List ν) (l l' : Local key) : Prop where
  held : ∀ r ∈ l.held, ∀ s ∈ l'.held, key r ≠ key s
  writes : ∀ r ∈ l.writes, ∀ s ∈ l'.writes, key r ≠ key s ∧ List.Disjoint (unique r) (unique s)

variable {db : Table key} {l l' : Local key} {r : ρ} {k : κ}

omit [DecidableEq κ] in
theorem Uniq.disjoint (h : Uniq unique db) {s : ρ} (hr : r ∈ db) (hs : s ∈ db)
    (hne : key r ≠ key s) : List.Disjoint (unique r) (unique s) := h r hr s hs hne

omit [DecidableEq κ] in
theorem Apart.symm (h : Apart unique l l') : Apart unique l' l where
  held := fun r hr s hs he ↦ h.held s hs r hr he.symm
  writes := fun r hr s hs ↦
    ⟨fun he ↦ (h.writes s hs r hr).1 he.symm, List.disjoint_symm (h.writes s hs r hr).2⟩

theorem view_empty (db : Table key) : view db Local.empty = db := rfl

theorem sound_empty (h : Uniq unique db) : Sound unique db Local.empty where
  held := fun _ hr ↦ absurd hr List.not_mem_nil
  owned := fun r hr ↦ absurd hr (Table.not_mem_empty r)
  uniq := h

omit [DecidableEq κ] in
theorem apart_empty (l : Local key) : Apart unique Local.empty l where
  held := fun _ hr ↦ absurd hr List.not_mem_nil
  writes := fun r hr ↦ absurd hr (Table.not_mem_empty r)

theorem held_subset_hold : l.held ⊆ (l.hold db k).held := fun _ hr ↦ mem_hold.mpr (.inl hr)

theorem hold_owns (l : Local key) (db : Table key) (k : κ) :
    k ∈ (l.hold db k).held.map key ∨ db.find? k = none := by
  by_cases hk : k ∈ l.held.map key
  · exact .inl (List.map_subset key held_subset_hold hk)
  · cases hfind : db.find? k with
    | none => exact .inr rfl
    | some r =>
      exact .inl (List.mem_map.mpr ⟨r, mem_hold.mpr (.inr ⟨hk, hfind⟩), Table.key_of_find? hfind⟩)

theorem Sound.hold (h : Sound unique db l) (k : κ) : Sound unique db (l.hold db k) where
  held := by
    intro r hr
    rcases mem_hold.mp hr with hr | ⟨-, hr⟩
    · exact h.held r hr
    · exact Table.mem_of_find? hr
  owned := by
    rw [writes_hold]
    intro r hr
    exact (h.owned r hr).imp_left fun hk ↦ List.map_subset key held_subset_hold hk
  uniq := by
    rw [view_hold]
    exact h.uniq

theorem Apart.hold (h : Apart unique l l') (hk : k ∉ l'.held.map key) :
    Apart unique (l.hold db k) l' where
  held := by
    intro r hr s hs he
    rcases mem_hold.mp hr with hr | ⟨-, hr⟩
    · exact h.held r hr s hs he
    · refine hk (List.mem_map.mpr ⟨s, hs, ?_⟩)
      rw [← he]
      exact Table.key_of_find? hr
  writes := by
    rw [writes_hold]
    exact h.writes

theorem Sound.write (h : Sound unique db l)
    (howned : key r ∈ l.held.map key ∨ db.find? (key r) = none)
    (hdisjoint : ∀ s ∈ view db l, key s ≠ key r → List.Disjoint (unique r) (unique s)) :
    Sound unique db (l.write r) where
  held := h.held
  owned := by
    intro s hs
    rcases Table.mem_put.mp hs with rfl | ⟨hs, -⟩
    · exact howned
    · exact h.owned s hs
  uniq := by
    intro s hs t ht hne
    rcases mem_view_write.mp hs with rfl | ⟨hsr, hsv⟩
    · rcases mem_view_write.mp ht with rfl | ⟨htr, htv⟩
      · exact absurd rfl hne
      · exact hdisjoint t htv htr
    · rcases mem_view_write.mp ht with rfl | ⟨htr, htv⟩
      · exact List.disjoint_symm (hdisjoint s hsv hsr)
      · exact h.uniq.disjoint hsv htv hne

theorem Apart.write (h : Apart unique l l')
    (hr : ∀ s ∈ l'.writes, key r ≠ key s ∧ List.Disjoint (unique r) (unique s)) :
    Apart unique (l.write r) l' where
  held := h.held
  writes := by
    intro s hs t ht
    rcases Table.mem_put.mp hs with rfl | ⟨hs, -⟩
    · exact hr t ht
    · exact h.writes s hs t ht

/-- What putting rows with different keys into a table makes of it: the old rows, written over where
there is a new one, and then the rest of the new ones. -/
theorem rows_putAll (ws : List ρ) (hnodup : (ws.map key).Nodup) (db : Table key) :
    (ws.foldl Table.put db).rows =
      db.rows.map (fun r ↦ (ws.find? fun w ↦ key w = key r).getD r) ++
        ws.filter fun w ↦ key w ∉ db.rows.map key := by
  induction ws generalizing db with
  | nil => simp
  | cons w ws ih =>
    obtain ⟨hw, hnodup⟩ := List.nodup_cons.mp hnodup
    have hnone : ∀ r, key w = key r → (ws.find? fun v ↦ key v = key r) = none := by
      intro r hr
      refine List.find?_eq_none.mpr fun v hv he ↦ hw ?_
      exact List.mem_map.mpr ⟨v, hv, (of_decide_eq_true he).trans hr.symm⟩
    rw [List.foldl_cons, ih hnodup]
    by_cases hmem : key w ∈ db.rows.map key
    · rw [Table.put_of_mem hmem, List.map_map, List.filter_cons_of_neg (by simpa using hmem)]
      congr 1
      · refine List.map_congr_left fun r _ ↦ ?_
        by_cases hr : key w = key r
        · simp [hr, hnone r hr]
        · simp [hr, Ne.symm hr]
      · refine List.filter_congr fun v _ ↦ ?_
        rw [List.map_map]
        have hkeys : (db.rows.map (key ∘ fun r ↦ if key r = key w then w else r)) = db.rows.map key := by
          refine List.map_congr_left fun r _ ↦ ?_
          by_cases hr : key r = key w
          · simp [hr]
          · simp [hr]
        rw [hkeys]
    · rw [Table.put_of_not_mem hmem, List.map_append, List.filter_cons_of_pos (by simpa using hmem),
        List.append_assoc]
      congr 1
      · refine List.map_congr_left fun r hr ↦ ?_
        have hne : key w ≠ key r := fun he ↦ hmem (List.mem_map.mpr ⟨r, hr, he.symm⟩)
        simp [hne]
      · rw [List.map_singleton, hnone w rfl, Option.getD_none, List.singleton_append]
        congr 1
        refine List.filter_congr fun v hv ↦ ?_
        have hne : key v ≠ key w := fun he ↦ hw (List.mem_map.mpr ⟨v, hv, he⟩)
        simp [hne]

theorem rows_view (db : Table key) (l : Local key) :
    (view db l).rows = db.rows.map (fun r ↦ (l.writes.find? (key r)).getD r) ++
      l.writes.rows.filter fun w ↦ key w ∉ db.rows.map key :=
  rows_putAll l.writes.rows l.writes.nodup db

theorem Sound.writes_ne (h : Sound unique db l) (h' : Sound unique db l') (ha : Apart unique l l')
    {s : ρ} (hr : r ∈ l.writes) (hs : s ∈ l'.held) : key r ≠ key s := by
  intro he
  rcases h.owned r hr with hheld | hnone
  · obtain ⟨q, hq, hqr⟩ := List.mem_map.mp hheld
    exact ha.held q hq s hs (hqr.trans he)
  · exact Table.find?_eq_none.mp hnone s (h'.held s hs) he.symm

theorem find?_writes_eq_none (h : ∀ s ∈ l.writes, key s ≠ k) : l.writes.find? k = none :=
  Table.find?_eq_none.mpr h

/-- A commit leaves every other transaction sound. -/
theorem Sound.commit (h : Sound unique db l) (h' : Sound unique db l') (ha : Apart unique l l') :
    Sound unique (view db l) l' where
  held := by
    intro r hr
    refine mem_view.mpr (.inr ⟨find?_writes_eq_none fun s hs ↦ ?_, h'.held r hr⟩)
    exact h.writes_ne h' ha hs hr
  owned := by
    intro r hr
    refine (h'.owned r hr).imp_right fun hnone ↦ ?_
    have hw : l.writes.find? (key r) = none :=
      find?_writes_eq_none fun s hs ↦ (ha.writes s hs r hr).1
    rw [find?_view, overlaid_of_none hw]
    exact hnone
  uniq := by
    -- A written row of `l'` against a row that it has left alone: written by `l`, or committed.
    have hmixed : ∀ r ∈ l'.writes, ∀ s ∈ view db l, l'.writes.find? (key s) = none →
        key r ≠ key s → List.Disjoint (unique r) (unique s) := by
      intro r hr s hs hnone hne
      rcases mem_view.mp hs with hs | ⟨-, hs⟩
      · exact List.disjoint_symm (ha.writes s hs r hr).2
      · exact h'.uniq.disjoint (mem_view.mpr (.inl hr)) (mem_view.mpr (.inr ⟨hnone, hs⟩)) hne
    intro r hr s hs hne
    rcases mem_view.mp hr with hr | ⟨hrn, hr⟩
    · rcases mem_view.mp hs with hs | ⟨hsn, hs⟩
      · exact h'.uniq.disjoint (mem_view.mpr (.inl hr)) (mem_view.mpr (.inl hs)) hne
      · exact hmixed r hr s hs hsn hne
    · rcases mem_view.mp hs with hs | ⟨hsn, hs⟩
      · exact List.disjoint_symm (hmixed s hs r hr hrn hne.symm)
      · exact h.uniq.disjoint hr hs hne

/-- A row that a transaction changes shares no key with what others write, as it held none that it
does not hold already. -/
theorem disjoint_of_shrink (h' : Sound unique db l') (ha : Apart unique l l')
    (hr : r ∈ view db l) (hfree : l'.writes.find? (key r) = none) (f : Shrink key unique) :
    ∀ s ∈ l'.writes,
      key (f.toUpdate r) ≠ key s ∧ List.Disjoint (unique (f.toUpdate r)) (unique s) := by
  intro s hs
  have hne : key r ≠ key s := fun he ↦ Table.find?_eq_none.mp hfree s hs he.symm
  have hdisjoint : List.Disjoint (unique r) (unique s) := by
    rcases mem_view.mp hr with hr | ⟨-, hr⟩
    · exact (ha.writes r hr s hs).2
    · exact h'.uniq.disjoint (mem_view.mpr (.inr ⟨hfree, hr⟩)) (mem_view.mpr (.inl hs)) hne
  rw [f.key_eq]
  exact ⟨hne, fun x hx ↦ hdisjoint (f.keys_subset r hx)⟩

end data

/-- What every committed table satisfies, how it may change, and what each program's commit does to
it. -/
structure Discipline (key : ρ → κ) (unique : ρ → List ν) (β : Type x) (τ : Type z) where
  inv : Table key → Prop
  rely : Table key → Table key → Prop
  effect : τ → β → Table key → Table key → Prop
  refl : ∀ db, rely db db
  trans : ∀ db db' db'', rely db db' → rely db' db'' → rely db db''
  keeps : ∀ request result db db', inv db → Uniq unique db' → effect request result db db' →
    inv db' ∧ rely db db'

section valid

variable [DecidableEq κ] (D : Discipline key unique β τ)

/-- What may be committed when a transaction takes its next step. -/
structure Sees (db db' : Table key) (l : Local key) : Prop where
  rely : D.rely db db'
  inv : D.inv db'
  sound : Sound unique db' l

/-- The rest of an `UPDATE`, with `V` for what follows it. -/
def UpdatingOk (p : ρ → Bool) (f : Shrink key unique) (V : Table key → Local key → Prop) :
    List κ → Table key → Local key → Prop
  | [], db, l => V db l
  | k :: ks, db, l => ∀ db', Sees D db db' l →
    match (view db' l).find? k with
    | none => UpdatingOk p f V ks db' l
    | some r =>
      if p r then UpdatingOk p f V ks db' ((l.hold db' k).write (f.toUpdate r))
      else UpdatingOk p f V ks db' l

/-- Whatever the others do, the transaction has its effect if it commits. -/
def Valid (request : τ) : Body key unique ε β → Table key → Local key → Prop
  | .done result, db, l => ∀ db', Sees D db db' l → D.effect request result db' (view db' l)
  | .fail _, _, _ => True
  | .select next, db, l => ∀ db', Sees D db db' l → Valid request (next (view db' l).rows) db' l
  | .lock k p next, db, l => ∀ db', Sees D db db' l →
    match (view db' l).find? k with
    | none => Valid request (next none) db' l
    | some r =>
      if p r then Valid request (next (some r)) db' (l.hold db' k)
      else Valid request (next none) db' l
  | .update p f next, db, l => ∀ db', Sees D db db' l →
    UpdatingOk D p f (Valid request next) (((view db' l).rows.filter p).map key) db' l
  | .updating ks p f next, db, l => UpdatingOk D p f (Valid request next) ks db l
  | .write isNew r _ next, db, l => ∀ db', Sees D db db' l →
    admits db' l isNew (key r) = true → Valid request next db' (l.write r)

variable {D} {db db' db'' : Table key} {l : Local key} {request : τ}

theorem Sees.trans (h : Sees D db db' l) (h' : Sees D db' db'' l) : Sees D db db'' l :=
  ⟨D.trans db db' db'' h.rely h'.rely, h'.inv, h'.sound⟩

theorem UpdatingOk.stable {p : ρ → Bool} {f : Shrink key unique}
    {V : Table key → Local key → Prop} {ks : List κ}
    (hV : ∀ {db db' l}, V db l → Sees D db db' l → V db' l) (h : UpdatingOk D p f V ks db l)
    (hs : Sees D db db' l) : UpdatingOk D p f V ks db' l := by
  cases ks with
  | nil => exact hV h hs
  | cons k ks => exact fun db'' hs' ↦ h db'' (hs.trans hs')

theorem Valid.stable {body : Body key unique ε β} (h : Valid D request body db l)
    (hs : Sees D db db' l) : Valid D request body db' l := by
  induction body generalizing db db' l with
  | fail error => trivial
  | updating ks p f next ih => exact UpdatingOk.stable (fun hV hs ↦ ih hV hs) h hs
  | done result => exact fun db'' hs' ↦ h db'' (hs.trans hs')
  | select next _ => exact fun db'' hs' ↦ h db'' (hs.trans hs')
  | lock k p next _ => exact fun db'' hs' ↦ h db'' (hs.trans hs')
  | update p f next _ => exact fun db'' hs' ↦ h db'' (hs.trans hs')
  | write isNew r error next _ => exact fun db'' hs' ↦ h db'' (hs.trans hs')

/-- An `UPDATE` keeps what holds before it, what others leave in force and each row that it changes
keeps. -/
theorem updatingOk_of_invariant {p : ρ → Bool} {f : Shrink key unique}
    {V K : Table key → Local key → Prop}
    (hstable : ∀ {db db' l}, K db l → Sees D db db' l → K db' l)
    (hchange : ∀ {db l k r}, K db l → Sound unique db l → (view db l).find? k = some r → p r = true →
      K db ((l.hold db k).write (f.toUpdate r)))
    (hend : ∀ {db l}, K db l → V db l) (ks : List κ) (h : K db l) :
    UpdatingOk D p f V ks db l := by
  induction ks generalizing db l with
  | nil => exact hend h
  | cons k ks ih =>
    intro db' hs
    have hK : K db' l := hstable h hs
    cases hfind : (view db' l).find? k with
    | none => exact ih hK
    | some r =>
      dsimp only
      split
      · rename_i hp
        exact ih (hchange hK hs.sound hfind hp)
      · exact ih hK

end valid

section world

variable [DecidableEq κ] [DecidableEq ν] [DecidableEq ι] (D : Discipline key unique β τ)

/-- What holds whenever no transaction is in the middle of a statement. -/
structure Good (w : World key unique ε β ι τ) : Prop where
  inv : D.inv w.committed
  uniq : Uniq unique w.committed
  sound : ∀ t ∈ w.txns, Sound unique w.committed t.data
  apart : ∀ t ∈ w.txns, ∀ t' ∈ w.txns, t.client ≠ t'.client → Apart unique t.data t'.data
  valid : ∀ t ∈ w.txns, Valid D t.request t.body w.committed t.data

def Expected (w : World key unique ε β ι τ) (t : Txn key unique ε β ι τ) :
    Outcome key unique ε β → Prop
  | .waits => True
  | .goes data body => Sound unique w.committed data ∧
    (∀ t' ∈ w.txns, t'.client ≠ t.client → Apart unique data t'.data) ∧
    Valid D t.request body w.committed data
  | .commits result => D.effect t.request result w.committed (view w.committed t.data)
  | .fails _ => True

variable {D} {w : World key unique ε β ι τ} {t t' : Txn key unique ε β ι τ} {k : κ} {r : ρ}

omit [DecidableEq κ] [DecidableEq ν] in
theorem mem_others : t' ∈ others w t.client ↔ t' ∈ w.txns ∧ t'.client ≠ t.client := by
  unfold others
  rw [List.mem_filter, decide_eq_true_eq]
  rfl

omit [DecidableEq ν] in
theorem free_of_not_heldByOther (h : heldByOther w t.client k = false) (ht' : t' ∈ w.txns)
    (hne : t'.client ≠ t.client) :
    k ∉ t'.data.held.map key ∧ t'.data.writes.find? k = none := by
  unfold heldByOther at h
  have hfree := List.any_eq_false.mp h t' (mem_others.mpr ⟨ht', hne⟩)
  simpa using hfree

omit [DecidableEq κ] [DecidableEq ι] in
theorem overlaps_eq_false {xs ys : List ν} : overlaps xs ys = false ↔ List.Disjoint xs ys := by
  unfold overlaps List.Disjoint
  rw [List.any_eq_false]
  simp

omit [DecidableEq κ] in
theorem disjoint_of_not_pending (h : pendingInOther w t.client r = false) (ht' : t' ∈ w.txns)
    (hne : t'.client ≠ t.client) : ∀ s ∈ t'.data.writes, List.Disjoint (unique r) (unique s) := by
  intro s hs
  unfold pendingInOther at h
  have hnone := List.any_eq_false.mp h t' (mem_others.mpr ⟨ht', hne⟩)
  rw [Bool.not_eq_true] at hnone
  have hs' := List.any_eq_false.mp hnone s hs
  rw [Bool.not_eq_true] at hs'
  exact overlaps_eq_false.mp hs'

omit [DecidableEq ι] in
theorem disjoint_of_not_clashing {db : Table key} {l : Local key}
    (h : (clashing db unique l r).isEmpty = true) :
    ∀ s ∈ view db l, key s ≠ key r → List.Disjoint (unique r) (unique s) := by
  intro s hs hne
  unfold clashing at h
  rw [List.isEmpty_iff, List.filter_eq_nil_iff] at h
  have hs' := h s hs
  rw [Bool.and_eq_true, not_and, decide_eq_true_eq, Bool.not_eq_true] at hs'
  exact overlaps_eq_false.mp (hs' hne)

theorem owned_of_admits {db : Table key} {l : Local key} {isNew : Bool}
    (h : admits db l isNew k = true) : k ∈ l.held.map key ∨ db.find? k = none := by
  unfold admits at h
  cases isNew with
  | false => exact .inl (of_decide_eq_true h)
  | true =>
    right
    rw [if_pos rfl, Option.isNone_iff_eq_none, find?_view] at h
    cases hw : l.writes.find? k with
    | none => rwa [overlaid_of_none hw] at h
    | some r =>
      rw [overlaid_of_some hw] at h
      cases h

omit [DecidableEq ν] [DecidableEq ι] in
theorem Good.sees (h : Good D w) (ht : t ∈ w.txns) : Sees D w.committed w.committed t.data :=
  ⟨D.refl w.committed, h.inv, h.sound t ht⟩

omit [DecidableEq ν] [DecidableEq ι] in
theorem Good.goes_same (h : Good D w) (ht : t ∈ w.txns) {body : Body key unique ε β}
    (hvalid : Valid D t.request body w.committed t.data) :
    Expected D w t (.goes t.data body) :=
  ⟨h.sound t ht, fun t' ht' hne ↦ h.apart t ht t' ht' hne.symm, hvalid⟩

omit [DecidableEq ν] in
theorem Good.apart_hold (h : Good D w) (ht : t ∈ w.txns) (hfree : heldByOther w t.client k = false)
    (ht' : t' ∈ w.txns) (hne : t'.client ≠ t.client) :
    Apart unique (t.data.hold w.committed k) t'.data :=
  (h.apart t ht t' ht' hne.symm).hold (free_of_not_heldByOther hfree ht' hne).1

omit [DecidableEq ν] in
/-- One row of an `UPDATE`: held and changed. -/
theorem Good.goes_change (h : Good D w) (ht : t ∈ w.txns) (hfree : heldByOther w t.client k = false)
    (hfind : (view w.committed t.data).find? k = some r) (f : Shrink key unique)
    {body : Body key unique ε β}
    (hvalid : Valid D t.request body w.committed
      ((t.data.hold w.committed k).write (f.toUpdate r))) :
    Expected D w t (.goes ((t.data.hold w.committed k).write (f.toUpdate r)) body) := by
  obtain ⟨hr, rfl⟩ := Table.find?_eq_some.mp hfind
  have hr' : r ∈ view w.committed (t.data.hold w.committed (key r)) := by
    rw [view_hold]
    exact hr
  refine ⟨?_, ?_, hvalid⟩
  · apply ((h.sound t ht).hold (key r)).write
    · rw [f.key_eq]
      exact hold_owns t.data w.committed (key r)
    · intro s hs hne
      rw [f.key_eq] at hne
      rw [view_hold] at hs
      exact fun x hx ↦ (h.sound t ht).uniq.disjoint hr hs hne.symm (f.keys_subset r hx)
  · intro t' ht' hne
    apply (h.apart_hold ht hfree ht' hne).write
    exact disjoint_of_shrink (h.sound t' ht') (h.apart_hold ht hfree ht' hne) hr'
      (free_of_not_heldByOther hfree ht' hne).2 f

theorem Good.goes_write (h : Good D w) (ht : t ∈ w.txns) {isNew : Bool}
    (hwait : mustWait w t r = false) (hadmits : admits w.committed t.data isNew (key r) = true)
    (hclash : (clashing w.committed unique t.data r).isEmpty = true) {body : Body key unique ε β}
    (hvalid : Valid D t.request body w.committed (t.data.write r)) :
    Expected D w t (.goes (t.data.write r) body) := by
  unfold mustWait at hwait
  rw [Bool.or_eq_false_iff, Bool.or_eq_false_iff] at hwait
  obtain ⟨⟨hfree, hpending⟩, -⟩ := hwait
  refine ⟨?_, ?_, hvalid⟩
  · exact (h.sound t ht).write (owned_of_admits hadmits) (disjoint_of_not_clashing hclash)
  · intro t' ht' hne
    apply (h.apart t ht t' ht' hne.symm).write
    intro s hs
    refine ⟨fun he ↦ ?_, disjoint_of_not_pending hpending ht' hne s hs⟩
    exact Table.find?_eq_none.mp (free_of_not_heldByOther hfree ht' hne).2 s hs he.symm

/-- Each step of a transaction turns out as it should. -/
theorem Good.advance (h : Good D w) (ht : t ∈ w.txns) : Expected D w t (advance w t) := by
  have hvalid := h.valid t ht
  have hsees := h.sees ht
  unfold ReadCommitted.advance
  cases hbody : t.body with
  | done result =>
    rw [hbody] at hvalid
    exact hvalid w.committed hsees
  | fail error => trivial
  | select next =>
    rw [hbody] at hvalid
    exact h.goes_same ht (hvalid w.committed hsees)
  | lock k p next =>
    rw [hbody] at hvalid
    have hnext := hvalid w.committed hsees
    dsimp only
    cases hfree : heldByOther w t.client k with
    | true => trivial
    | false =>
      rw [if_neg Bool.false_ne_true]
      cases hfind : (view w.committed t.data).find? k with
      | none =>
        rw [hfind] at hnext
        exact h.goes_same ht hnext
      | some r =>
        rw [hfind] at hnext
        dsimp only at hnext ⊢
        cases hp : p r with
        | false =>
          rw [hp] at hnext
          exact h.goes_same ht hnext
        | true =>
          rw [hp] at hnext
          exact ⟨(h.sound t ht).hold k, fun t' ht' hne ↦ h.apart_hold ht hfree ht' hne, hnext⟩
  | update p f next =>
    rw [hbody] at hvalid
    exact h.goes_same ht (hvalid w.committed hsees)
  | updating ks p f next =>
    rw [hbody] at hvalid
    cases ks with
    | nil => exact h.goes_same ht hvalid
    | cons k ks =>
      have hnext := hvalid w.committed hsees
      dsimp only
      cases hfree : heldByOther w t.client k with
      | true => trivial
      | false =>
        rw [if_neg Bool.false_ne_true]
        cases hfind : (view w.committed t.data).find? k with
        | none =>
          rw [hfind] at hnext
          exact h.goes_same ht hnext
        | some r =>
          rw [hfind] at hnext
          dsimp only at hnext ⊢
          cases hp : p r with
          | false =>
            rw [hp] at hnext
            exact h.goes_same ht hnext
          | true =>
            rw [hp] at hnext
            exact h.goes_change ht hfree hfind f hnext
  | write isNew r error next =>
    rw [hbody] at hvalid
    have hnext := hvalid w.committed hsees
    dsimp only
    cases hwait : mustWait w t r with
    | true => trivial
    | false =>
      rw [if_neg Bool.false_ne_true]
      split
      · rename_i hok
        rw [Bool.and_eq_true] at hok
        exact h.goes_write ht hwait hok.1 hok.2 (hnext hok.1)
      · trivial

/-- Only a transaction that has nothing left to do commits. -/
theorem body_of_commits {result : β} (h : ReadCommitted.advance w t = .commits result) :
    t.body = .done result := by
  unfold ReadCommitted.advance at h
  cases hbody : t.body with
  | done other =>
    rw [hbody] at h
    rw [Outcome.commits.inj h]
  | fail error =>
    rw [hbody] at h
    cases h
  | select next =>
    rw [hbody] at h
    cases h
  | update p f next =>
    rw [hbody] at h
    cases h
  | lock k p next =>
    rw [hbody] at h
    dsimp only at h
    split at h
    · cases h
    · split at h
      · cases h
      · split at h <;> cases h
  | updating ks p f next =>
    rw [hbody] at h
    cases ks with
    | nil => cases h
    | cons k ks =>
      dsimp only at h
      split at h
      · cases h
      · split at h
        · cases h
        · split at h <;> cases h
  | write isNew r error next =>
    rw [hbody] at h
    dsimp only at h
    split at h
    · cases h
    · split at h <;> cases h

variable (program : τ → Body key unique ε β)

def Implements : Prop :=
  ∀ request db, D.inv db → Uniq unique db → Valid D request (program request) db Local.empty

def Shows (D : Discipline key unique β τ) (db db' : Table key) :
    Option (τ × Except ε β) → Prop
  | some (request, .ok result) => D.effect request result db db'
  | _ => db' = db

variable {program}

omit [DecidableEq ν] in
theorem Good.drop (h : Good D w) (client : ι) :
    Good D { w with txns := w.txns.deleteWhere fun t ↦ t.client = client } where
  inv := h.inv
  uniq := h.uniq
  sound := fun t ht ↦ h.sound t (Table.mem_deleteWhere.mp ht).1
  apart := fun t ht t' ht' ↦
    h.apart t (Table.mem_deleteWhere.mp ht).1 t' (Table.mem_deleteWhere.mp ht').1
  valid := fun t ht ↦ h.valid t (Table.mem_deleteWhere.mp ht).1

omit [DecidableEq ν] in
theorem Good.begin (hprogram : Implements (D := D) program) (h : Good D w) (client : ι)
    (request : τ) : Good D
      { w with txns := w.txns.put ⟨client, request, Local.empty, program request⟩ } where
  inv := h.inv
  uniq := h.uniq
  sound := by
    intro t ht
    rcases Table.mem_put.mp ht with rfl | ⟨ht, -⟩
    · exact sound_empty h.uniq
    · exact h.sound t ht
  apart := by
    intro t ht t' ht' hne
    rcases Table.mem_put.mp ht with rfl | ⟨ht, -⟩
    · exact apart_empty t'.data
    · rcases Table.mem_put.mp ht' with rfl | ⟨ht', -⟩
      · exact (apart_empty t.data).symm
      · exact h.apart t ht t' ht' hne
  valid := by
    intro t ht
    rcases Table.mem_put.mp ht with rfl | ⟨ht, -⟩
    · exact hprogram request w.committed h.inv h.uniq
    · exact h.valid t ht

omit [DecidableEq ν] in
theorem Good.goes (h : Good D w) {data : Local key} {body : Body key unique ε β}
    (hgoes : Expected D w t (.goes data body)) :
    Good D { w with txns := w.txns.put { t with data, body } } where
  inv := h.inv
  uniq := h.uniq
  sound := by
    intro t' ht'
    rcases Table.mem_put.mp ht' with rfl | ⟨ht', -⟩
    · exact hgoes.1
    · exact h.sound t' ht'
  apart := by
    intro t₁ ht₁ t₂ ht₂ hne
    rcases Table.mem_put.mp ht₁ with rfl | ⟨ht₁, hne₁⟩
    · rcases Table.mem_put.mp ht₂ with rfl | ⟨ht₂, hne₂⟩
      · exact absurd rfl hne
      · exact hgoes.2.1 t₂ ht₂ hne₂
    · rcases Table.mem_put.mp ht₂ with rfl | ⟨ht₂, hne₂⟩
      · exact (hgoes.2.1 t₁ ht₁ hne₁).symm
      · exact h.apart t₁ ht₁ t₂ ht₂ hne
  valid := by
    intro t' ht'
    rcases Table.mem_put.mp ht' with rfl | ⟨ht', -⟩
    · exact hgoes.2.2
    · exact h.valid t' ht'

omit [DecidableEq ν] in
theorem Good.commit (h : Good D w) (ht : t ∈ w.txns) {result : β}
    (heffect : D.effect t.request result w.committed (view w.committed t.data)) :
    Good D ⟨view w.committed t.data, w.txns.deleteWhere fun s ↦ s.client = t.client⟩ := by
  obtain ⟨hinv, hrely⟩ := D.keeps t.request result _ _ h.inv (h.sound t ht).uniq heffect
  have hother : ∀ s ∈ w.txns.deleteWhere fun s ↦ s.client = t.client,
      s ∈ w.txns ∧ t.client ≠ s.client := by
    intro s hs
    obtain ⟨hs, hne⟩ := Table.mem_deleteWhere.mp hs
    exact ⟨hs, fun he ↦ of_decide_eq_false hne he.symm⟩
  have hsound : ∀ s ∈ w.txns.deleteWhere fun s ↦ s.client = t.client,
      Sound unique (view w.committed t.data) s.data := by
    intro s hs
    obtain ⟨hs, hne⟩ := hother s hs
    exact (h.sound t ht).commit (h.sound s hs) (h.apart t ht s hs hne)
  refine ⟨hinv, (h.sound t ht).uniq, hsound, ?_, ?_⟩
  · exact fun s hs s' hs' ↦ h.apart s (hother s hs).1 s' (hother s' hs').1
  · intro s hs
    exact (h.valid s (hother s hs).1).stable ⟨hrely, hinv, hsound s hs⟩

/-- Every step keeps the transactions good and shows what it does. -/
theorem Good.step (hprogram : Implements (D := D) program) (h : Good D w) (a : Action ι τ) :
    Good D (step program w a).2 ∧
      Shows D w.committed (step program w a).2.committed (step program w a).1 := by
  cases a with
  | begin client request =>
    dsimp only [ReadCommitted.step]
    cases w.txns.find? client with
    | some t => exact ⟨h, rfl⟩
    | none => exact ⟨h.begin hprogram client request, rfl⟩
  | abort client => exact ⟨h.drop client, rfl⟩
  | advance client =>
    dsimp only [ReadCommitted.step]
    cases hfind : w.txns.find? client with
    | none => exact ⟨h, rfl⟩
    | some t =>
      obtain ⟨ht, rfl⟩ := Table.find?_eq_some.mp hfind
      have hexpected := h.advance ht
      dsimp only
      cases hout : ReadCommitted.advance w t with
      | waits => exact ⟨h, rfl⟩
      | fails error => exact ⟨h.drop t.client, rfl⟩
      | goes data body =>
        rw [hout] at hexpected
        exact ⟨h.goes hexpected, rfl⟩
      | commits result =>
        rw [hout] at hexpected
        exact ⟨h.commit ht hexpected, hexpected⟩

def World.start (db : Table key) : World key unique ε β ι τ := ⟨db, .empty⟩

omit [DecidableEq ν] [DecidableEq ι] in
theorem good_start {db : Table key} (hinv : D.inv db) (huniq : Uniq unique db) :
    Good D (World.start db : World key unique ε β ι τ) where
  inv := hinv
  uniq := huniq
  sound := fun _ ht ↦ absurd ht (Table.not_mem_empty _)
  apart := fun _ ht ↦ absurd ht (Table.not_mem_empty _)
  valid := fun _ ht ↦ absurd ht (Table.not_mem_empty _)

theorem good_run (hprogram : Implements (D := D) program) (h : Good D w) (as : List (Action ι τ)) :
    Good D (Machine.run (ReadCommitted.step program) w as) :=
  Machine.run_invariant_all (I := Good D) (fun _ a hg ↦ (hg.step hprogram a).1) h as

end world

end ReadCommitted
