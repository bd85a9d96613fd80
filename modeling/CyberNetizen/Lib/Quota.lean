import Mathlib.Data.List.Count
import Mathlib.Data.List.Sublists
import Mathlib.Order.Lattice
import Mathlib.Algebra.Order.Group.Nat
import CyberNetizen.Lib.Machine

/-! # Counters that grant uses up to a limit -/

namespace Quota

universe u

variable {W : Type u} [DecidableEq W] {limit : ℕ} {w : W} {ws : List W}

/-! ## One counter that starts over at each change of the window -/

section resetting

def used (counter : Option (W × ℕ)) (w : W) : ℕ :=
  match counter with
  | some (v, n) => if v = w then n else 0
  | none => 0

def advance (counter : Option (W × ℕ)) (w : W) : Option (W × ℕ) := some (w, used counter w + 1)

@[simp] theorem used_advance (counter : Option (W × ℕ)) (v w : W) :
    used (advance counter v) w = if v = w then used counter w + 1 else 0 := by
  unfold advance used
  by_cases h : v = w
  · subst h
    simp
  · simp [h]

def granted (limit : ℕ) (w : W) : Option (W × ℕ) → List W → ℕ
  | _, [] => 0
  | counter, v :: ws =>
    (if v = w ∧ used counter v + 1 ≤ limit then 1 else 0) + granted limit w (advance counter v) ws

def Unbroken (w : W) (ws : List W) : Prop := ∀ v, [w, v, w].Sublist ws → v = w

variable {counter : Option (W × ℕ)}

theorem granted_le_count : granted limit w counter ws ≤ ws.count w := by
  induction ws generalizing counter with
  | nil => exact Nat.zero_le _
  | cons v ws ih =>
    have hrest := @ih (advance counter v)
    simp only [granted, List.count_cons, beq_iff_eq]
    by_cases hv : v = w
    · subst hv
      simp only [true_and, if_true]
      split <;> omega
    · simp only [hv, false_and, if_false]
      omega

theorem granted_append (xs ys : List W) :
    granted limit w counter (xs ++ ys) =
      granted limit w counter xs + granted limit w (xs.foldl advance counter) ys := by
  induction xs generalizing counter with
  | nil => simp [granted]
  | cons v xs ih => simp [granted, ih, Nat.add_assoc]

/-- What a window has left is granted to its calls at least. -/
theorem min_le_granted :
    min (limit - used counter w) (ws.count w) ≤ granted limit w counter ws := by
  induction ws generalizing counter with
  | nil => simp [granted]
  | cons v ws ih =>
    have hrest := @ih (advance counter v)
    rw [used_advance] at hrest
    simp only [granted, List.count_cons, beq_iff_eq]
    by_cases hv : v = w
    · subst hv
      simp only [if_true, true_and] at hrest ⊢
      by_cases hlimit : used counter v + 1 ≤ limit
      · rw [if_pos hlimit]
        omega
      · omega
    · simp only [hv, false_and, if_false] at hrest ⊢
      omega

/-- Once the window has been left and does not come back, it is granted what the counter left it. -/
theorem granted_le_left (h : ∀ v, [v, w].Sublist ws → v = w) :
    granted limit w counter ws ≤ limit - used counter w := by
  induction ws generalizing counter with
  | nil => exact Nat.zero_le _
  | cons v ws ih =>
    have hrest := @ih (advance counter v) fun v' hv' ↦ h v' (hv'.cons v)
    rw [used_advance] at hrest
    simp only [granted]
    by_cases hv : v = w
    · subst hv
      simp only [if_true, true_and] at hrest ⊢
      by_cases hlimit : used counter v + 1 ≤ limit
      · rw [if_pos hlimit]
        omega
      · rw [if_neg hlimit]
        omega
    · have hmem : w ∉ ws := fun hw ↦ hv (h v (List.Sublist.cons_cons v (List.singleton_sublist.mpr hw)))
      have hzero := @granted_le_count W _ limit w ws (advance counter v)
      rw [List.count_eq_zero_of_not_mem hmem] at hzero
      simp only [hv, false_and, if_false]
      omega

theorem granted_le_of_unbroken (hfresh : used counter w = 0) (h : Unbroken w ws) :
    granted limit w counter ws ≤ limit := by
  induction ws generalizing counter with
  | nil => exact Nat.zero_le _
  | cons v ws ih =>
    by_cases hv : v = w
    · subst hv
      have hleft := @granted_le_left W _ limit v (v :: ws) counter fun v' hv' ↦ by
        cases hv' with
        | cons _ hs => exact h v' (hs.cons_cons v)
        | cons_cons _ hs => rfl
      omega
    · have hrest := @ih (advance counter v) (by rw [used_advance, if_neg hv])
        fun v' hv' ↦ h v' (hv'.cons v)
      simp only [granted, hv, false_and, if_false, Nat.zero_add]
      exact hrest

omit [DecidableEq W] in
theorem exists_break (h : ¬ Unbroken w ws) :
    ∃ xs v ys, ws = xs ++ v :: ys ∧ v ≠ w ∧ w ∈ xs ∧ w ∈ ys := by
  unfold Unbroken at h
  push Not at h
  obtain ⟨v, hsub, hv⟩ := h
  obtain ⟨xs, ys, rfl, hxs, hys⟩ := List.cons_sublist_iff.mp hsub
  obtain ⟨xs', ys', rfl, hxs', hys'⟩ := List.cons_sublist_iff.mp hys
  obtain ⟨as, bs, rfl⟩ := List.append_of_mem hxs'
  refine ⟨xs ++ as, v, bs ++ ys', by simp, hv, List.mem_append_left _ hxs, ?_⟩
  exact List.mem_append_right _ (List.singleton_sublist.mp hys')

/-- The calls of a window keep the limit exactly if they come without a call of another window in
between or do not reach it. -/
theorem granted_le_iff (hlimit : 1 ≤ limit) (hfresh : used counter w = 0) :
    granted limit w counter ws ≤ limit ↔ Unbroken w ws ∨ ws.count w ≤ limit := by
  constructor
  · intro h
    by_contra hnot
    obtain ⟨hbroken, hcount⟩ := not_or.mp hnot
    obtain ⟨xs, v, ys, rfl, hv, hxs, hys⟩ := exists_break hbroken
    -- the counter starts over behind `v`, so both sides are granted on their own
    rw [granted_append, granted] at h
    have hbefore := @min_le_granted W _ limit w xs counter
    have hafter := @min_le_granted W _ limit w ys (advance (xs.foldl advance counter) v)
    rw [used_advance, if_neg hv] at hafter
    rw [hfresh] at hbefore
    have hone := List.one_le_count_iff.mpr hxs
    have hone' := List.one_le_count_iff.mpr hys
    rw [List.count_append, List.count_cons_of_ne hv] at hcount
    omega
  · rintro (h | h)
    · exact granted_le_of_unbroken hfresh h
    · exact le_trans granted_le_count h

end resetting

/-! ## One counter for all calls -/

section shared

open Machine

def takeUse (n limit : ℕ) : Bool × ℕ := if limit ≤ n then (false, n) else (true, n + 1)

variable {n : ℕ} {limits : List ℕ}

theorem takeUse_full (h : limit ≤ n) : takeUse n limit = (false, n) := if_pos h

theorem takeUse_room (h : n < limit) : takeUse n limit = (true, n + 1) := if_neg (by omega)

theorem count_takeUse_le (h : ∀ l ∈ limits, l ≤ limit) :
    n + (outputs takeUse n limits).count true ≤ max n limit := by
  induction limits generalizing n with
  | nil => simp [outputs]
  | cons l limits ih =>
    have hl := h l List.mem_cons_self
    have hrest := fun m ↦ @ih m fun l' hl' ↦ h l' (List.mem_cons_of_mem l hl')
    rw [outputs]
    by_cases hfull : l ≤ n
    · rw [takeUse_full hfull]
      simpa using hrest n
    · rw [takeUse_room (by omega)]
      have := hrest (n + 1)
      simp only [List.count_cons_self]
      omega

theorem count_takeUse_eq (h : ∀ l ∈ limits, l = limit) :
    (outputs takeUse n limits).count true = min (limit - n) limits.length := by
  induction limits generalizing n with
  | nil => simp [outputs]
  | cons l limits ih =>
    have hl := h l List.mem_cons_self
    have hrest := fun m ↦ @ih m fun l' hl' ↦ h l' (List.mem_cons_of_mem l hl')
    rw [outputs, List.length_cons]
    by_cases hfull : l ≤ n
    · rw [takeUse_full hfull]
      simp only [List.count_cons_of_ne Bool.false_ne_true, hrest n]
      omega
    · rw [takeUse_room (by omega)]
      simp only [List.count_cons_self, hrest (n + 1)]
      omega

end shared

end Quota
