import Mathlib.Data.List.Perm.Basic
import Mathlib.Order.Lattice

namespace Ranking

universe u v w

variable {α : Type u} {β : Type v} {κ : Type w}

/-- Larger values of `f` come first; equal ones are left to `r`. -/
def byDesc [LT β] [DecidableLT β] [DecidableEq β] (f : α → β) (r : α → α → Bool) (a b : α) : Bool :=
  f b < f a || (f a = f b && r a b)

/-- An order that leaves no ties between different keys. -/
structure Fixed (key : α → κ) (r : α → α → Bool) : Prop where
  trans : ∀ a b c, r a b = true → r b c = true → r a c = true
  total : ∀ a b, (r a b || r b a) = true
  antisymm : ∀ a b, r a b = true → r b a = true → key a = key b

variable [LinearOrder β] {f : α → β} {key : α → κ} {r : α → α → Bool}

theorem byDesc_iff {a b : α} : byDesc f r a b = true ↔ f b < f a ∨ f a = f b ∧ r a b = true := by
  simp [byDesc]

/-- Ties that a fixed order resolves are resolved. -/
theorem Fixed.byDesc (h : Fixed key r) (f : α → β) : Fixed key (byDesc f r) := by
  constructor
  · intro a b c hab hbc
    rw [byDesc_iff] at *
    rcases hab with hab | ⟨hab, hr⟩ <;> rcases hbc with hbc | ⟨hbc, hr'⟩
    · exact .inl (hbc.trans hab)
    · exact .inl (hbc ▸ hab)
    · exact .inl (hab ▸ hbc)
    · exact .inr ⟨hab.trans hbc, h.trans a b c hr hr'⟩
  · intro a b
    rw [Bool.or_eq_true, byDesc_iff, byDesc_iff]
    rcases lt_trichotomy (f a) (f b) with hlt | heq | hgt
    · exact .inr (.inl hlt)
    · rcases Bool.or_eq_true_iff.mp (h.total a b) with hr | hr
      · exact .inl (.inr ⟨heq, hr⟩)
      · exact .inr (.inr ⟨heq.symm, hr⟩)
    · exact .inl (.inl hgt)
  · intro a b hab hba
    rw [byDesc_iff] at hab hba
    rcases hab with hab | ⟨heq, hr⟩ <;> rcases hba with hba | ⟨heq', hr'⟩
    · exact absurd hba hab.asymm
    · exact absurd heq' hab.ne
    · exact absurd heq hba.ne
    · exact h.antisymm a b hr hr'

theorem fixed_key [LinearOrder κ] (key : α → κ) : Fixed key fun a b ↦ key a ≤ key b where
  trans a b c hab hbc := by
    rw [decide_eq_true_eq] at *
    exact hab.trans hbc
  total a b := by
    rw [Bool.or_eq_true, decide_eq_true_eq, decide_eq_true_eq]
    exact le_total _ _
  antisymm a b hab hba := by
    rw [decide_eq_true_eq] at hab hba
    exact le_antisymm hab hba

theorem Fixed.of_key {κ' : Type v} {key' : α → κ'} (h : Fixed key r)
    (hkey : ∀ a b, key a = key b → key' a = key' b) : Fixed key' r :=
  ⟨h.trans, h.total, fun a b hab hba ↦ hkey a b (h.antisymm a b hab hba)⟩

theorem Fixed.mergeSort_eq (h : Fixed key r) {l l' : List α} (hperm : l.Perm l')
    (hkey : ∀ a ∈ l, ∀ b ∈ l, key a = key b → a = b) : l.mergeSort r = l'.mergeSort r := by
  have hanti : ∀ a b, a ∈ l.mergeSort r → b ∈ l'.mergeSort r →
      r a b = true → r b a = true → a = b := by
    intro a b ha hb hab hba
    have hb' := hperm.mem_iff.mpr (List.mem_mergeSort.mp hb)
    exact hkey a (List.mem_mergeSort.mp ha) b hb' (h.antisymm a b hab hba)
  refine List.Perm.eq_of_pairwise hanti ?_ ?_ ?_
  · exact List.pairwise_mergeSort h.trans h.total l
  · exact List.pairwise_mergeSort h.trans h.total l'
  · exact ((List.mergeSort_perm l r).trans hperm).trans (List.mergeSort_perm l' r).symm

section descending

/-- `sorted(…, key=…, reverse=True)` -/
def sortedByDesc (key : α → β) (l : List α) : List α := l.mergeSort fun a b ↦ decide (key b ≤ key a)

variable {l l' : List α} {key : α → β}

theorem sortedByDesc_perm (key : α → β) (l : List α) : (sortedByDesc key l).Perm l :=
  List.mergeSort_perm _ _

theorem fixed_desc (key : α → β) : Fixed key fun a b ↦ decide (key b ≤ key a) :=
  (fixed_key fun a ↦ OrderDual.toDual (key a)).of_key fun _ _ h ↦ OrderDual.toDual.injective h

theorem sortedByDesc_eq (hperm : l.Perm l') (hkey : ∀ a ∈ l, ∀ b ∈ l, key a = key b → a = b) :
    sortedByDesc key l = sortedByDesc key l' :=
  (fixed_desc key).mergeSort_eq hperm hkey

theorem pairwise_sortedByDesc (hnodup : (l.map key).Nodup) :
    (sortedByDesc key l).Pairwise fun a b ↦ key b < key a := by
  have hsorted := List.pairwise_mergeSort (fixed_desc key).trans (fixed_desc key).total l
  have hkeys : ((sortedByDesc key l).map key).Nodup :=
    ((sortedByDesc_perm key l).map key).nodup_iff.mpr hnodup
  have hboth := List.pairwise_and_iff.mpr ⟨hsorted, List.pairwise_map.mp hkeys⟩
  apply hboth.imp
  rintro a b ⟨hle, hne⟩
  exact lt_of_le_of_ne (of_decide_eq_true hle) (Ne.symm hne)

/-- An item stands where the number of those with larger keys says. -/
theorem place_sortedByDesc {i : ℕ} {a : α} (hnodup : (l.map key).Nodup)
    (hi : (sortedByDesc key l)[i]? = some a) : i = l.countP fun b ↦ decide (key a < key b) := by
  have hsorted := pairwise_sortedByDesc hnodup
  rw [← (sortedByDesc_perm key l).countP_eq]
  generalize sortedByDesc key l = s at hi hsorted
  obtain ⟨hlt, hget⟩ := List.getElem?_eq_some_iff.mp hi
  have hsplit : s = s.take i ++ a :: s.drop (i + 1) := by
    rw [← hget, List.getElem_cons_drop, List.take_append_drop]
  have hpair := hsorted
  rw [hsplit, List.pairwise_append] at hpair
  obtain ⟨-, hafter, hbefore⟩ := hpair
  have hfirst : (s.take i).countP (fun b ↦ decide (key a < key b)) = i := by
    rw [List.countP_eq_length.mpr fun b hb ↦ decide_eq_true (hbefore b hb a List.mem_cons_self),
      List.length_take, Nat.min_eq_left (Nat.le_of_lt hlt)]
  have hlast : (a :: s.drop (i + 1)).countP (fun b ↦ decide (key a < key b)) = 0 := by
    apply List.countP_eq_zero.mpr
    intro b hb he
    rcases List.mem_cons.mp hb with rfl | hb
    · exact lt_irrefl _ (of_decide_eq_true he)
    · exact lt_asymm (of_decide_eq_true he) ((List.pairwise_cons.mp hafter).1 b hb)
  rw [hsplit, List.countP_append, hfirst, hlast, Nat.add_zero]

theorem exists_place {a : α} (hmem : a ∈ l) (hnodup : (l.map key).Nodup) :
    (sortedByDesc key l)[l.countP fun b ↦ decide (key a < key b)]? = some a := by
  obtain ⟨i, hi⟩ := List.mem_iff_getElem?.mp ((sortedByDesc_perm key l).mem_iff.mpr hmem)
  rwa [place_sortedByDesc hnodup hi] at hi

theorem place_mono {xs ys : List α} {a a' : α} (hle : key a ≤ key a') :
    ((xs ++ a' :: ys).countP fun b ↦ decide (key a' < key b)) ≤
      (xs ++ a :: ys).countP fun b ↦ decide (key a < key b) := by
  have hmono : ∀ l : List α, (l.countP fun b ↦ decide (key a' < key b)) ≤
      l.countP fun b ↦ decide (key a < key b) := by
    intro l
    apply List.countP_mono_left
    intro b _ hb
    exact decide_eq_true (hle.trans_lt (of_decide_eq_true hb))
  rw [List.countP_append, List.countP_append, List.countP_cons_of_neg (by simp),
    List.countP_cons_of_neg (by simp)]
  exact Nat.add_le_add (hmono xs) (hmono ys)

end descending

section stable

/-- An item with its place stands before another: by a larger value, or else by an earlier place. -/
def Before (f : α → β) (x y : α × ℕ) : Prop := f y.1 < f x.1 ∨ f x.1 = f y.1 ∧ x.2 < y.2

instance (f : α → β) (x y : α × ℕ) : Decidable (Before f x y) :=
  inferInstanceAs (Decidable (f y.1 < f x.1 ∨ f x.1 = f y.1 ∧ x.2 < y.2))

def places (f : α → β) (l : List α) : List (α × ℕ) :=
  l.zipIdx.mergeSort (List.zipIdxLE fun a b ↦ decide (f b ≤ f a))

theorem map_fst_places (f : α → β) (l : List α) :
    (places f l).map Prod.fst = l.mergeSort fun a b ↦ decide (f b ≤ f a) :=
  List.mergeSort_zipIdx

theorem places_perm (f : α → β) (l : List α) : (places f l).Perm l.zipIdx :=
  List.mergeSort_perm _ _

theorem eq_of_place {l : List α} {x y : α × ℕ} (hx : x ∈ l.zipIdx) (hy : y ∈ l.zipIdx)
    (h : x.2 = y.2) : x = y := by
  have hxget : l[x.2]? = some x.1 := List.mem_zipIdx_iff_getElem?.mp hx
  have hyget : l[y.2]? = some y.1 := List.mem_zipIdx_iff_getElem?.mp hy
  rw [h, hyget] at hxget
  exact Prod.ext (Option.some.inj hxget).symm h

theorem nodup_zipIdx (l : List α) : l.zipIdx.Nodup := by
  have hplaces : (l.zipIdx.map Prod.snd).Nodup := by
    rw [List.zipIdx_map_snd]
    exact List.nodup_range'
  exact List.Pairwise.of_map Prod.snd (fun x y hne he ↦ hne (congrArg Prod.snd he)) hplaces

theorem pairwise_places (f : α → β) (l : List α) : (places f l).Pairwise (Before f) := by
  have htrans : ∀ a b c : α, decide (f b ≤ f a) = true → decide (f c ≤ f b) = true →
      decide (f c ≤ f a) = true := by
    intro a b c hab hbc
    rw [decide_eq_true_eq] at *
    exact hbc.trans hab
  have htotal : ∀ a b : α, (decide (f b ≤ f a) || decide (f a ≤ f b)) = true := by
    intro a b
    rw [Bool.or_eq_true, decide_eq_true_eq, decide_eq_true_eq]
    exact le_total _ _
  have hsorted := List.pairwise_mergeSort (List.zipIdxLE_trans htrans)
    (List.zipIdxLE_total htotal) l.zipIdx
  have hnodup : (places f l).Nodup := (places_perm f l).nodup_iff.mpr (nodup_zipIdx l)
  have hboth := (List.pairwise_and_iff.mpr ⟨hsorted, hnodup⟩)
  apply hboth.imp_of_mem
  rintro x y hx hy ⟨hle, hne⟩
  unfold List.zipIdxLE at hle
  simp only [decide_eq_true_eq] at hle
  split_ifs at hle with hxy hyx
  · refine .inr ⟨le_antisymm hyx hxy, Nat.lt_of_le_of_ne (of_decide_eq_true hle) fun he ↦ hne ?_⟩
    exact eq_of_place ((places_perm f l).mem_iff.mp hx) ((places_perm f l).mem_iff.mp hy) he
  · exact .inl (lt_of_not_ge hyx)

theorem Before.asymm {x y : α × ℕ} (h : Before f x y) : ¬Before f y x := by
  rintro (h' | ⟨heq', hlt'⟩) <;> rcases h with h | ⟨heq, hlt⟩
  · exact h.asymm h'
  · exact h'.ne heq
  · exact h.ne heq'
  · omega

theorem places_eq {l : List α} {order : List (α × ℕ)} (hperm : order.Perm l.zipIdx)
    (hsorted : order.Pairwise (Before f)) : places f l = order := by
  refine @List.Perm.eq_of_pairwise _ (Before f) _ _ ?_ ?_ ?_ ?_
  · exact fun a b _ _ hab hba ↦ absurd hba hab.asymm
  · exact pairwise_places f l
  · exact hsorted
  · exact (places_perm f l).trans hperm.symm

end stable

end Ranking
