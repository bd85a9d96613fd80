import Mathlib.Data.List.Count
import Mathlib.Data.List.Nodup
import Mathlib.Order.Monotone.Basic

namespace Sweep

universe u

variable {α : Type u}

/-- One bounded pass over a queue: of its first `limit` items those to be kept stay. -/
def pass (limit : ℕ) (keep : α → Bool) (l : List α) : List α :=
  (l.take limit).filter keep ++ l.drop limit

def passes (limit : ℕ) (keep : ℕ → α → Bool) (l : List α) : ℕ → List α
  | 0 => l
  | n + 1 => pass limit (keep n) (passes limit keep l n)

variable {limit : ℕ} {keep : α → Bool} {l : List α} {x : α}

theorem pass_sublist : (pass limit keep l).Sublist l := by
  have h := (List.filter_sublist (p := keep) (l := l.take limit)).append_right (l.drop limit)
  rwa [List.take_append_drop] at h

theorem filter_pass {keep' : α → Bool} (h : ∀ y ∈ l, keep' y = true → keep y = true) :
    (pass limit keep l).filter keep' = l.filter keep' := by
  have hfront : ((l.take limit).filter keep).filter keep' = (l.take limit).filter keep' := by
    rw [List.filter_filter]
    apply List.filter_congr
    intro y hy
    cases hk : keep' y with
    | false => simp
    | true => simp [h y (List.mem_of_mem_take hy) hk]
  rw [pass, List.filter_append, hfront, ← List.filter_append, List.take_append_drop]

theorem length_pass_lt (hfull : limit ≤ l.length) (hfew : l.countP keep < limit) :
    (pass limit keep l).length < l.length := by
  have hcount : (l.take limit).countP keep ≤ l.countP keep :=
    (List.take_sublist limit l).countP_le
  have hlen : (pass limit keep l).length = (l.take limit).countP keep + (l.length - limit) := by
    rw [pass, List.length_append, List.length_drop, List.countP_eq_length_filter]
  omega

section position

variable {a b : List α}

/-- An item that a pass does not take: what was ahead of it has passed by itself. -/
theorem pass_of_kept (h : keep x = true ∨ limit ≤ a.length) :
    ∃ b', pass limit keep (a ++ x :: b) = pass limit keep a ++ x :: b' := by
  rcases Nat.lt_or_ge a.length limit with hlt | hge
  · have hk : keep x = true := h.resolve_right (by omega)
    obtain ⟨n, hn⟩ : ∃ n, limit - a.length = n + 1 := ⟨limit - a.length - 1, by omega⟩
    refine ⟨(b.take n).filter keep ++ b.drop n, ?_⟩
    rw [pass, pass, List.take_append, List.drop_append, hn, List.take_of_length_le hlt.le,
      List.drop_of_length_le hlt.le, List.take_succ_cons, List.drop_succ_cons,
      List.filter_append, List.filter_cons_of_pos hk]
    simp
  · refine ⟨b, ?_⟩
    rw [pass, pass, List.take_append_of_le_length hge, List.drop_append_of_le_length hge,
      List.append_assoc]

theorem not_mem_pass (hnodup : (a ++ x :: b).Nodup) (hk : keep x = false)
    (hlt : a.length < limit) : x ∉ pass limit keep (a ++ x :: b) := by
  obtain ⟨n, hn⟩ : ∃ n, limit - a.length = n + 1 := ⟨limit - a.length - 1, by omega⟩
  have hb : x ∉ b := (List.nodup_cons.mp (List.nodup_append.mp hnodup).2.1).1
  intro hmem
  rw [pass, List.take_append, List.drop_append, hn, List.drop_of_length_le hlt.le,
    List.drop_succ_cons, List.nil_append] at hmem
  rcases List.mem_append.mp hmem with h | h
  · rw [(List.mem_filter.mp h).2] at hk
    cases hk
  · exact hb (List.mem_of_mem_drop h)

/-- Some item that is free is within reach if fewer than `limit` items ahead of a free one are not. -/
theorem exists_free {stuck : α → Bool} (hx : stuck x = false) (hfew : a.countP stuck < limit) :
    ∃ y ∈ (a ++ x :: b).take limit, stuck y = false ∧ (y ∈ a ∨ y = x) := by
  by_cases hlt : a.length < limit
  · obtain ⟨n, hn⟩ : ∃ n, limit - a.length = n + 1 := ⟨limit - a.length - 1, by omega⟩
    refine ⟨x, ?_, hx, .inr rfl⟩
    rw [List.take_append, hn, List.take_succ_cons]
    exact List.mem_append_right _ List.mem_cons_self
  · by_contra hnone
    push Not at hnone
    rw [List.take_append_of_le_length (Nat.le_of_not_lt hlt)] at hnone
    have hall : (a.take limit).countP stuck = (a.take limit).length := by
      rw [List.countP_eq_length]
      intro y hy
      by_contra hfree
      exact (hnone y hy (Bool.eq_false_iff.mpr hfree)).1 (List.mem_of_mem_take hy)
    have hle : (a.take limit).countP stuck ≤ a.countP stuck := (List.take_sublist limit a).countP_le
    rw [hall, List.length_take] at hle
    omega

end position

section repeated

variable {keep : ℕ → α → Bool} {a b : List α}

theorem passes_sublist (n : ℕ) : (passes limit keep l n).Sublist l := by
  induction n with
  | zero => exact List.Sublist.refl l
  | succ n ih => exact pass_sublist.trans ih

theorem keep_anti (hanti : ∀ n y, keep (n + 1) y = true → keep n y = true) {m n : ℕ} (h : m ≤ n)
    {y : α} (hy : keep n y = true) : keep m y = true := by
  induction n, h using Nat.le_induction with
  | base => exact hy
  | succ n _ ih => exact ih (hanti n y hy)

theorem filter_passes (hanti : ∀ n y, keep (n + 1) y = true → keep n y = true) {m n : ℕ}
    (h : n ≤ m) : (passes limit keep l n).filter (keep m) = l.filter (keep m) := by
  induction n with
  | zero => rfl
  | succ n ih =>
    rw [passes, filter_pass fun y _ hy ↦ keep_anti hanti (by omega) hy]
    exact ih (by omega)

theorem passes_of_unreached (n : ℕ)
    (h : ∀ m < n, keep m x = true ∨ limit ≤ (passes limit keep a m).length) :
    ∃ b', passes limit keep (a ++ x :: b) n = passes limit keep a n ++ x :: b' := by
  induction n with
  | zero => exact ⟨b, rfl⟩
  | succ n ih =>
    obtain ⟨b', hb'⟩ := ih fun m hm ↦ h m (by omega)
    rw [passes, hb']
    exact pass_of_kept (h n (by omega))

/-- Passes that always find enough ahead of an item take something away each time. -/
theorem exists_short (hanti : ∀ n y, keep (n + 1) y = true → keep n y = true) {m : ℕ}
    (hfew : a.countP (keep m) < limit) : ∃ n ≥ m, (passes limit keep a n).length < limit := by
  by_contra hnone
  have hlong : ∀ n ≥ m, limit ≤ (passes limit keep a n).length := fun n hn ↦
    Nat.le_of_not_lt fun hlt ↦ hnone ⟨n, hn, hlt⟩
  have hless : ∀ k, (passes limit keep a (m + k)).length + k ≤ (passes limit keep a m).length := by
    intro k
    induction k with
    | zero => exact Nat.le_refl _
    | succ k ih =>
      have hcount : (passes limit keep a (m + k)).countP (keep (m + k)) < limit := by
        refine Nat.lt_of_le_of_lt ?_ hfew
        refine (List.countP_mono_left fun y _ hy ↦ keep_anti hanti (Nat.le_add_right m k) hy).trans ?_
        exact (passes_sublist (m + k)).countP_le
      have hlt := length_pass_lt (hlong (m + k) (by omega)) hcount
      have hstep : passes limit keep a (m + (k + 1)) =
          pass limit (keep (m + k)) (passes limit keep a (m + k)) := rfl
      rw [hstep]
      omega
  have h := hless ((passes limit keep a m).length + 1)
  omega

/-- Repeated passes get to an item if and only if at some time it is not to be kept and fewer items
than a pass looks at are to be kept ahead of it. -/
theorem gone_iff (hanti : ∀ n y, keep (n + 1) y = true → keep n y = true)
    (hnodup : (a ++ x :: b).Nodup) :
    (∃ n, x ∉ passes limit keep (a ++ x :: b) n) ↔
      ∃ n, keep n x = false ∧ a.countP (keep n) < limit := by
  constructor
  · rintro ⟨n, hgone⟩
    by_contra hnone
    have hunreached : ∀ m < n, keep m x = true ∨ limit ≤ (passes limit keep a m).length := by
      intro m _
      cases hk : keep m x with
      | true => exact .inl rfl
      | false =>
        refine .inr ((Nat.le_of_not_lt fun hlt ↦ hnone ⟨m, hk, hlt⟩).trans ?_)
        rw [List.countP_eq_length_filter, ← filter_passes hanti (Nat.le_refl m)]
        exact List.length_filter_le _ _
    obtain ⟨b', hb'⟩ := passes_of_unreached (b := b) n hunreached
    rw [hb'] at hgone
    exact hgone (List.mem_append_right _ List.mem_cons_self)
  · rintro ⟨m, hk, hfew⟩
    obtain ⟨n, hmn, hshort⟩ := exists_short hanti hfew
    by_contra hnever
    have hstays : ∀ n, x ∈ passes limit keep (a ++ x :: b) n := fun n ↦
      not_not.mp fun h ↦ hnever ⟨n, h⟩
    have hunreached : ∀ n, keep n x = true ∨ limit ≤ (passes limit keep a n).length := by
      intro n
      induction n using Nat.strong_induction_on with
      | _ n ih =>
        obtain ⟨b', hb'⟩ := passes_of_unreached (b := b) n ih
        by_contra hreached
        obtain ⟨hfree, hlt⟩ := not_or.mp hreached
        have hnext := hstays (n + 1)
        rw [passes, hb'] at hnext
        refine not_mem_pass ?_ (Bool.eq_false_iff.mpr hfree) (Nat.lt_of_not_le hlt) hnext
        rw [← hb']
        exact (passes_sublist n).nodup hnodup
    rcases hunreached n with hkn | hle
    · rw [keep_anti hanti hmn hkn] at hk
      cases hk
    · omega

end repeated

end Sweep
