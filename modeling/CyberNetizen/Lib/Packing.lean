import Mathlib.Data.List.Nodup
import Mathlib.Data.List.Basic
import Mathlib.Algebra.BigOperators.Group.List.Basic
import Mathlib.Algebra.GroupWithZero.Nat

namespace Packing

universe u

variable {α : Type u}

/-- What becomes of an item: it is taken as it is, or made smaller, or left out. -/
inductive Fate (α : Type u)
  | kept
  | shrunk (b : α)
  | dropped

variable (cost : α → ℕ) (shrink : ℕ → α → Option α) (budget : ℕ)

/-- Take the items one after the other as long as they fit. An item that does not fit may be
shrunk to what is left. -/
def fates : ℕ → List α → List (α × Fate α)
  | _, [] => []
  | consumed, a :: as =>
    if consumed + cost a ≤ budget then (a, .kept) :: fates (consumed + cost a) as
    else
      match shrink (budget - consumed) a with
      | some b => (a, .shrunk b) :: fates (consumed + cost b) as
      | none => (a, .dropped) :: fates consumed as

def packed : α × Fate α → Option α
  | (a, .kept) => some a
  | (_, .shrunk b) => some b
  | (_, .dropped) => none

variable {cost shrink budget} {consumed : ℕ} {as : List α}

theorem map_fst_fates : (fates cost shrink budget consumed as).map Prod.fst = as := by
  induction as generalizing consumed with
  | nil => rfl
  | cons a as ih =>
    unfold fates
    split
    · rw [List.map_cons, ih]
    · split <;> rw [List.map_cons, ih]

/-- What is taken never costs more than the budget. -/
theorem cost_packed_le (hshrink : ∀ r a b, shrink r a = some b → cost b ≤ r)
    (h : consumed ≤ budget) :
    consumed + (((fates cost shrink budget consumed as).filterMap packed).map cost).sum ≤ budget := by
  induction as generalizing consumed with
  | nil => exact h
  | cons a as ih =>
    unfold fates
    split
    · rename_i hfits
      have := ih hfits
      simp only [List.filterMap_cons, packed, List.map_cons, List.sum_cons]
      omega
    · cases hb : shrink (budget - consumed) a with
      | none =>
        rw [List.filterMap_cons_none rfl]
        exact ih h
      | some b =>
        have hle := hshrink _ _ _ hb
        have hfits : consumed + cost b ≤ budget := by omega
        have := ih hfits
        simp only [List.filterMap_cons, packed, List.map_cons, List.sum_cons]
        omega

/-- An item is shrunk only where it does not fit. -/
theorem of_mem_fates (hshrink : ∀ r a b, shrink r a = some b → cost b ≤ r)
    (hle : consumed ≤ budget) {x : α × Fate α} (h : x ∈ fates cost shrink budget consumed as) :
    x.2 = .kept ∨ (∃ r b, shrink r x.1 = some b ∧ r < cost x.1 ∧ x.2 = .shrunk b) ∨
      x.2 = .dropped := by
  induction as generalizing consumed with
  | nil => exact absurd h List.not_mem_nil
  | cons a as ih =>
    unfold fates at h
    split at h
    · rename_i hfits
      rcases List.mem_cons.mp h with rfl | h
      · exact .inl rfl
      · exact ih hfits h
    · rename_i hfits
      cases hb : shrink (budget - consumed) a with
      | none =>
        rw [hb] at h
        rcases List.mem_cons.mp h with rfl | h
        · exact .inr (.inr rfl)
        · exact ih hle h
      | some b =>
        have hcost := hshrink _ _ _ hb
        rw [hb] at h
        rcases List.mem_cons.mp h with rfl | h
        · exact .inr (.inl ⟨_, b, hb, by dsimp only; omega, rfl⟩)
        · have hfits : consumed + cost b ≤ budget := by omega
          exact ih hfits h

section order

variable (cost shrink)

def leftover : ℕ → List α → ℕ
  | left, [] => left
  | left, a :: as =>
    if cost a ≤ left then leftover (left - cost a) as
    else
      match shrink left a with
      | some b => leftover (left - cost b) as
      | none => leftover left as

def AllPlaced : ℕ → List α → Prop
  | _, [] => True
  | left, a :: as =>
    if cost a ≤ left then AllPlaced (left - cost a) as
    else
      match shrink left a with
      | some b => AllPlaced (left - cost b) as
      | none => False

variable {cost shrink}

theorem leftover_le (left : ℕ) : leftover cost shrink left as ≤ left := by
  induction as generalizing left with
  | nil => exact Nat.le_refl _
  | cons a as ih =>
    rw [leftover]
    split
    · exact Nat.le_trans (ih _) (Nat.sub_le _ _)
    · split
      · exact Nat.le_trans (ih _) (Nat.sub_le _ _)
      · exact ih left

theorem mem_of_mem_fates {x : α × Fate α} (h : x ∈ fates cost shrink budget consumed as) :
    x.1 ∈ as := by
  have hmem := List.mem_map_of_mem (f := Prod.fst) h
  rwa [map_fst_fates] at hmem

theorem exists_fate {a : α} (h : a ∈ as) :
    ∃ fate, (a, fate) ∈ fates cost shrink budget consumed as := by
  have hmem : a ∈ (fates cost shrink budget consumed as).map Prod.fst := by rwa [map_fst_fates]
  obtain ⟨⟨a', fate⟩, hx, rfl⟩ := List.mem_map.mp hmem
  exact ⟨fate, hx⟩

theorem fates_append {bs : List α} (hshrink : ∀ r a b, shrink r a = some b → cost b ≤ r)
    (h : consumed ≤ budget) :
    fates cost shrink budget consumed (as ++ bs) = fates cost shrink budget consumed as ++
      fates cost shrink budget (budget - leftover cost shrink (budget - consumed) as) bs := by
  induction as generalizing consumed with
  | nil =>
    rw [List.nil_append, leftover, Nat.sub_sub_self h]
    rfl
  | cons a as ih =>
    rw [List.cons_append, fates, fates, leftover]
    by_cases hfits : consumed + cost a ≤ budget
    · rw [if_pos hfits, if_pos hfits, if_pos (by omega), ih hfits, List.cons_append, Nat.sub_sub]
    · rw [if_neg hfits, if_neg hfits, if_neg (by omega)]
      cases hb : shrink (budget - consumed) a with
      | none =>
        dsimp only
        rw [ih h, List.cons_append]
      | some b =>
        have hle := hshrink _ _ _ hb
        dsimp only
        rw [ih (by omega), List.cons_append, Nat.sub_sub]

theorem allPlaced_iff (hshrink : ∀ r a b, shrink r a = some b → cost b ≤ r) (h : consumed ≤ budget) :
    AllPlaced cost shrink (budget - consumed) as ↔
      ∀ x ∈ fates cost shrink budget consumed as, x.2 ≠ .dropped := by
  induction as generalizing consumed with
  | nil => exact iff_of_true trivial fun x hx ↦ absurd hx List.not_mem_nil
  | cons a as ih =>
    rw [fates, AllPlaced]
    by_cases hfits : consumed + cost a ≤ budget
    · rw [if_pos hfits, if_pos (by omega), Nat.sub_sub, ih hfits, List.forall_mem_cons]
      exact ⟨fun hrest ↦ ⟨fun hd ↦ (nomatch hd), hrest⟩, And.right⟩
    · rw [if_neg hfits, if_neg (by omega)]
      cases hb : shrink (budget - consumed) a with
      | none => exact iff_of_false id fun hall ↦ hall _ List.mem_cons_self rfl
      | some b =>
        have hle := hshrink _ _ _ hb
        dsimp only
        rw [Nat.sub_sub, ih (by omega), List.forall_mem_cons]
        exact ⟨fun hrest ↦ ⟨fun hd ↦ (nomatch hd), hrest⟩, And.right⟩

/-- Items that are never shrunk are all left out exactly if none of them fits at the start. -/
theorem all_dropped_iff (hnone : ∀ a ∈ as, ∀ r, shrink r a = none) (h : consumed ≤ budget) :
    (∀ x ∈ fates cost shrink budget consumed as, x.2 = .dropped) ↔
      ∀ a ∈ as, budget - consumed < cost a := by
  induction as with
  | nil =>
    exact iff_of_true (fun x hx ↦ absurd hx List.not_mem_nil) fun a ha ↦ absurd ha List.not_mem_nil
  | cons a as ih =>
    have hrest := ih fun b hb ↦ hnone b (List.mem_cons_of_mem a hb)
    rw [fates, List.forall_mem_cons]
    by_cases hfits : consumed + cost a ≤ budget
    · rw [if_pos hfits]
      refine iff_of_false (fun hall ↦ ?_) fun hall ↦ ?_
      · exact absurd (hall _ List.mem_cons_self) (nomatch ·)
      · have := hall.1
        omega
    · rw [if_neg hfits, hnone a List.mem_cons_self]
      dsimp only
      rw [List.forall_mem_cons, hrest]
      exact ⟨fun hall ↦ ⟨by omega, hall.2⟩, fun hall ↦ ⟨rfl, hall.2⟩⟩

/-- The fate of an item is decided by what those before it leave. -/
theorem fates_at {bs : List α} (a : α) (hshrink : ∀ r a b, shrink r a = some b → cost b ≤ r) :
    ∃ rest, fates cost shrink budget 0 (as ++ a :: bs) =
      fates cost shrink budget 0 as ++
        (a, if cost a ≤ leftover cost shrink budget as then .kept
          else match shrink (leftover cost shrink budget as) a with
            | some b => .shrunk b
            | none => .dropped) :: rest := by
  have hle : leftover cost shrink budget as ≤ budget := leftover_le budget
  rw [fates_append hshrink (Nat.zero_le _), Nat.sub_zero]
  generalize leftover cost shrink budget as = left at hle
  rw [fates]
  by_cases hfits : cost a ≤ left
  · rw [if_pos hfits, if_pos (by omega)]
    exact ⟨_, rfl⟩
  · rw [if_neg hfits, if_neg (by omega), Nat.sub_sub_self hle]
    cases shrink left a with
    | some b => exact ⟨_, rfl⟩
    | none => exact ⟨_, rfl⟩

end order

section count

variable {f : List (α × Fate α)}

/-- One item is taken exactly if there is one item that is not left out. -/
theorem length_packed_eq_one_iff (h : (f.map Prod.fst).Nodup) :
    (f.filterMap packed).length = 1 ↔ ∃! a, ∃ fate, (a, fate) ∈ f ∧ packed (a, fate) ≠ none := by
  have hlength : (f.filterMap packed).length =
      ((f.filter fun x ↦ (packed x).isSome).map Prod.fst).length := by
    rw [List.length_filterMap_eq_countP, List.length_map, List.countP_eq_length_filter]
  have hnodup : ((f.filter fun x ↦ (packed x).isSome).map Prod.fst).Nodup :=
    h.sublist (List.filter_sublist.map _)
  have hmem : ∀ a, a ∈ (f.filter fun x ↦ (packed x).isSome).map Prod.fst ↔
      ∃ fate, (a, fate) ∈ f ∧ packed (a, fate) ≠ none := by
    intro a
    rw [List.mem_map]
    constructor
    · rintro ⟨⟨a', fate⟩, hx, rfl⟩
      obtain ⟨hin, hsome⟩ := List.mem_filter.mp hx
      exact ⟨fate, hin, Option.isSome_iff_ne_none.mp hsome⟩
    · rintro ⟨fate, hin, hsome⟩
      exact ⟨_, List.mem_filter.mpr ⟨hin, Option.isSome_iff_ne_none.mpr hsome⟩, rfl⟩
  rw [hlength, List.length_eq_one_iff]
  simp only [← hmem]
  constructor
  · rintro ⟨a, ha⟩
    rw [ha]
    exact ⟨a, List.mem_singleton_self a, fun b hb ↦ List.mem_singleton.mp hb⟩
  · rintro ⟨a, ha, honly⟩
    refine ⟨a, List.perm_singleton.mp ?_⟩
    refine (List.perm_ext_iff_of_nodup hnodup (List.nodup_singleton a)).mpr fun b ↦ ?_
    rw [List.mem_singleton]
    exact ⟨honly b, fun hb ↦ hb ▸ ha⟩

end count

end Packing
