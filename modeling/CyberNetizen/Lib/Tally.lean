import Mathlib.Algebra.BigOperators.Group.List.Basic
import Mathlib.Algebra.Order.Ring.Int
import Mathlib.Data.List.Induction
import Mathlib.Data.List.Nodup
import Mathlib.Data.List.Sort
import Mathlib.Tactic.Ring

/-! # Counts of items over the cells of a partition -/

namespace Tally

universe u v

variable {α : Type u} {β : Type v}

section cells

theorem sum_countP_swap (cells : List β) (l : List α) (p : β → α → Bool) :
    (cells.map fun c ↦ l.countP (p c)).sum = (l.map fun a ↦ cells.countP fun c ↦ p c a).sum := by
  induction l with
  | nil => simp
  | cons a l ih =>
    have hfirst : (cells.map fun c ↦ (a :: l).countP (p c)).sum =
        (cells.map fun c ↦ l.countP (p c)).sum + cells.countP fun c ↦ p c a := by
      clear ih
      induction cells with
      | nil => rfl
      | cons c cells ih =>
        simp only [List.map_cons, List.sum_cons, List.countP_cons] at ih ⊢
        omega
    rw [hfirst, ih, List.map_cons, List.sum_cons, Nat.add_comm]

theorem sum_countP_cells {cells : List β} {l : List α} {p : β → α → Bool} {q : α → Bool}
    (h : ∀ a ∈ l, (cells.countP fun c ↦ p c a) = if q a then 1 else 0) :
    (cells.map fun c ↦ l.countP (p c)).sum = l.countP q := by
  rw [sum_countP_swap]
  induction l with
  | nil => rfl
  | cons a l ih =>
    have hrest := ih fun b hb ↦ h b (List.mem_cons_of_mem a hb)
    rw [List.map_cons, List.sum_cons, List.countP_cons, hrest, h a List.mem_cons_self, Nat.add_comm]

theorem sum_countP_groups [DecidableEq β] {keys : List β} {l : List α} (key : α → β)
    {q : α → Bool} (hkeys : keys.Nodup) (h : ∀ a ∈ l, q a = true → key a ∈ keys) :
    (keys.map fun k ↦ l.countP fun a ↦ decide (key a = k) && q a).sum = l.countP q := by
  apply sum_countP_cells
  intro a ha
  cases hq : q a with
  | false => simp
  | true =>
    have hone := List.count_eq_one_of_mem hkeys (h a ha hq)
    rw [List.count] at hone
    simp only [Bool.and_true, if_true]
    rw [← hone]
    apply List.countP_congr
    intro k _
    rw [decide_eq_true_eq, beq_iff_eq]
    exact eq_comm

variable {value : β → ℕ} {f : β → β}

theorem sum_map_filter {cells : List β} {p : β → Bool} (h : ∀ c ∈ cells, p c = false → value c = 0) :
    ((cells.filter p).map value).sum = (cells.map value).sum := by
  induction cells with
  | nil => rfl
  | cons c cells ih =>
    have hrest := ih fun d hd ↦ h d (List.mem_cons_of_mem c hd)
    rw [List.filter_cons, List.map_cons, List.sum_cons, ← hrest]
    cases hp : p c with
    | true => rw [if_pos rfl, List.map_cons, List.sum_cons]
    | false => rw [if_neg Bool.noConfusion, h c List.mem_cons_self hp, Nat.zero_add]

theorem sum_map_modify {cells : List β} {i : ℕ} (hf : ∀ b, value (f b) = value b + 1)
    (hi : i < cells.length) :
    ((cells.modify i f).map value).sum = (cells.map value).sum + 1 := by
  induction cells generalizing i with
  | nil => exact absurd hi (Nat.not_lt_zero i)
  | cons c cells ih =>
    cases i with
    | zero => simp only [List.modify_zero_cons, List.map_cons, List.sum_cons, hf]; omega
    | succ i =>
      have hrest := ih (Nat.lt_of_succ_lt_succ hi)
      simp only [List.modify_succ_cons, List.map_cons, List.sum_cons, hrest]
      omega

theorem sum_map_modify_of_eq {cells : List β} {i : ℕ} (hf : ∀ b, value (f b) = value b) :
    ((cells.modify i f).map value).sum = (cells.map value).sum := by
  induction cells generalizing i with
  | nil => rw [List.modify_nil]
  | cons c cells ih =>
    cases i with
    | zero => simp only [List.modify_zero_cons, List.map_cons, List.sum_cons, hf]
    | succ i => simp only [List.modify_succ_cons, List.map_cons, List.sum_cons, ih]

end cells

theorem countP_windows {start width t : ℤ} (hwidth : 0 ≤ width) (n : ℕ) :
    ((List.range n).countP fun k ↦
        decide (start - width * (k + 1 : ℕ) ≤ t ∧ t < start - width * (k : ℕ))) =
      if start - width * n ≤ t ∧ t < start then 1 else 0 := by
  induction n with
  | zero => simp
  | succ n ih =>
    have hle : 0 ≤ width * n := mul_nonneg hwidth (Int.natCast_nonneg n)
    have hnext : width * (n + 1 : ℕ) = width * n + width := by push_cast; ring
    rw [List.range_succ, List.countP_append, ih, List.countP_singleton, hnext]
    simp only [decide_eq_true_eq]
    split_ifs <;> omega

section groups

variable {κ : Type v} [DecidableEq κ] {key : α → κ} {l l' : List α} {ks : List κ}

/-- An item is appended to the group of its key; a key without one gets it at the end. -/
def appendTo (key : α → κ) : List (κ × List α) → α → List (κ × List α)
  | [], a => [(key a, [a])]
  | (k, items) :: rest, a =>
    if k = key a then (k, items ++ [a]) :: rest else (k, items) :: appendTo key rest a

def groups (key : α → κ) (l : List α) : List (κ × List α) := l.foldl (appendTo key) []

theorem appendTo_map {f g : κ → List α} {a : α} (hnodup : ks.Nodup)
    (hnew : key a ∉ ks → f (key a) = []) (hg : ∀ k, g k = if k = key a then f k ++ [a] else f k) :
    appendTo key (ks.map fun k ↦ (k, f k)) a =
      (if key a ∈ ks then ks else ks ++ [key a]).map fun k ↦ (k, g k) := by
  induction ks with
  | nil => simp [appendTo, hg, hnew]
  | cons k ks ih =>
    obtain ⟨hk, hrest⟩ := List.nodup_cons.mp hnodup
    rw [List.map_cons, appendTo]
    by_cases he : k = key a
    · subst he
      rw [if_pos rfl, if_pos List.mem_cons_self, List.map_cons, hg, if_pos rfl]
      congr 1
      apply List.map_congr_left
      intro k' hk'
      rw [hg, if_neg (ne_of_mem_of_not_mem hk' hk)]
    · have hmem : key a ∈ k :: ks ↔ key a ∈ ks := by simp [Ne.symm he]
      rw [if_neg he, ih hrest fun h ↦ hnew fun hk' ↦ h (hmem.mp hk')]
      have hkg : (k, f k) = (k, g k) := by rw [hg, if_neg he]
      rw [hkg]
      by_cases hin : key a ∈ ks
      · rw [if_pos hin, if_pos (hmem.mpr hin), List.map_cons]
      · rw [if_neg hin, if_neg fun h ↦ hin (hmem.mp h), List.cons_append, List.map_cons]

/-- Each key that occurs has one group, of all its items in their order. -/
theorem groups_spec (key : α → κ) (l : List α) :
    ∃ ks : List κ, ks.Nodup ∧ (∀ k, k ∈ ks ↔ ∃ a ∈ l, key a = k) ∧
      groups key l = ks.map fun k ↦ (k, l.filter fun a ↦ decide (key a = k)) := by
  induction l using List.reverseRecOn with
  | nil => exact ⟨[], List.nodup_nil, by simp, rfl⟩
  | append_singleton l a ih =>
    obtain ⟨ks, hnodup, hks, hgroups⟩ := ih
    have hnew : key a ∉ ks → (l.filter fun b ↦ decide (key b = key a)) = [] := by
      intro hk
      apply List.filter_eq_nil_iff.mpr
      intro b hb he
      exact hk ((hks _).mpr ⟨b, hb, of_decide_eq_true he⟩)
    have hadded : ∀ k, ((l ++ [a]).filter fun b ↦ decide (key b = k)) =
        if k = key a then (l.filter fun b ↦ decide (key b = k)) ++ [a]
        else l.filter fun b ↦ decide (key b = k) := by
      intro k
      rw [List.filter_append, List.filter_singleton]
      by_cases hk : k = key a
      · rw [if_pos hk, decide_eq_true hk.symm, cond_true]
      · rw [if_neg hk, decide_eq_false (Ne.symm hk), cond_false, List.append_nil]
    have hstep := appendTo_map hnodup hnew hadded
    have hgroups' : groups key (l ++ [a]) = appendTo key (groups key l) a := by
      unfold groups
      rw [List.foldl_append]
      rfl
    refine ⟨_, ?_, fun k ↦ ?_, (hgroups'.trans (congrArg (appendTo key · a) hgroups)).trans hstep⟩
    · split
      · exact hnodup
      · exact List.nodup_append_comm.mp (List.nodup_cons.mpr ⟨‹_›, hnodup⟩)
    · have hmem : (∃ b ∈ l ++ [a], key b = k) ↔ k ∈ ks ∨ k = key a := by
        rw [hks]
        simp only [List.mem_append, List.mem_singleton, or_and_right, exists_or, exists_eq_left]
        exact or_congr_right eq_comm
      rw [hmem]
      by_cases hin : key a ∈ ks
      · rw [if_pos hin]
        exact ⟨.inl, fun h ↦ h.elim id fun he ↦ he ▸ hin⟩
      · rw [if_neg hin, List.mem_append, List.mem_singleton]

omit [DecidableEq κ] in
theorem keys_perm {ks' : List κ} (hperm : l.Perm l') (hnodup : ks.Nodup) (hnodup' : ks'.Nodup)
    (hks : ∀ k, k ∈ ks ↔ ∃ a ∈ l, key a = k) (hks' : ∀ k, k ∈ ks' ↔ ∃ a ∈ l', key a = k) :
    ks.Perm ks' := by
  apply (List.perm_ext_iff_of_nodup hnodup hnodup').mpr
  intro k
  rw [hks, hks']
  exact exists_congr fun a ↦ and_congr_left fun _ ↦ hperm.mem_iff

/-- What is added up over the groups is what is added up over the items. -/
theorem sum_groups (f : α → ℕ) (hnodup : ks.Nodup) (h : ∀ a ∈ l, key a ∈ ks) :
    (ks.map fun k ↦ ((l.filter fun a ↦ decide (key a = k)).map f).sum).sum = (l.map f).sum := by
  induction l with
  | nil => simp
  | cons a l ih =>
    have hrest := ih fun b hb ↦ h b (List.mem_cons_of_mem a hb)
    have hone : (ks.map fun k ↦ if key a = k then f a else 0).sum = f a := by
      have hkey := h a List.mem_cons_self
      clear hrest ih h
      induction ks with
      | nil => exact absurd hkey List.not_mem_nil
      | cons k ks ih =>
        obtain ⟨hk, hks⟩ := List.nodup_cons.mp hnodup
        rw [List.map_cons, List.sum_cons]
        by_cases he : key a = k
        · have hzero : (ks.map fun k' ↦ if key a = k' then f a else 0).sum = 0 := by
            apply List.sum_eq_zero
            intro n hn
            obtain ⟨k', hk', rfl⟩ := List.mem_map.mp hn
            exact if_neg fun he' ↦ hk ((he.symm.trans he') ▸ hk')
          rw [if_pos he, hzero, Nat.add_zero]
        · rw [if_neg he, Nat.zero_add, ih hks ((List.mem_cons.mp hkey).resolve_left he)]
    rw [List.map_cons, List.sum_cons, ← hrest, ← hone, ← List.sum_map_add]
    congr 1
    apply List.map_congr_left
    intro k _
    by_cases he : key a = k
    · simp [he]
    · simp [he]

theorem sum_length_groups (hnodup : ks.Nodup) (h : ∀ a ∈ l, key a ∈ ks) :
    (ks.map fun k ↦ (l.filter fun a ↦ decide (key a = k)).length).sum = l.length := by
  have hsum := sum_groups (fun _ ↦ 1) hnodup h
  simpa using hsum

theorem modify_append_cells {n i : ℕ} (index : α → ℕ) (a : α) (hi : index a = i) :
    ((List.range n).map fun j ↦ l.filter fun b ↦ decide (index b = j)).modify i (· ++ [a]) =
      (List.range n).map fun j ↦ (l ++ [a]).filter fun b ↦ decide (index b = j) := by
  apply List.ext_getElem (by simp)
  intro j hj _
  rw [List.getElem_modify]
  simp only [List.getElem_map, List.getElem_range, List.filter_append, List.filter_singleton, hi]
  by_cases hij : i = j <;> simp [hij]

end groups

section ranks

variable [LinearOrder α]

/-- The least of the values that at least `percent` of the hundred do not exceed. -/
structure IsNearestRank (percent : ℕ) (values : List α) (x : α) : Prop where
  mem : x ∈ values
  enough : percent * values.length ≤ 100 * values.countP (· ≤ x)
  least : ∀ y ∈ values, percent * values.length ≤ 100 * values.countP (· ≤ y) → x ≤ y

variable {percent : ℕ} {values values' : List α} {x : α}

theorem IsNearestRank.of_perm (h : IsNearestRank percent values x) (hperm : values.Perm values') :
    IsNearestRank percent values' x where
  mem := hperm.mem_iff.mp h.mem
  enough := by
    rw [← hperm.length_eq, ← hperm.countP_eq]
    exact h.enough
  least y hy := by
    rw [← hperm.length_eq, ← hperm.countP_eq]
    exact h.least y (hperm.mem_iff.mpr hy)

/-- In a sorted list it stands at the rank that is rounded up. -/
theorem isNearestRank_get (hsorted : values.Pairwise (· ≤ ·)) (hpos : 0 < percent)
    {i : ℕ} (hi : i < values.length) (hrank : i = (percent * values.length + 99) / 100 - 1) :
    IsNearestRank percent values (values.get ⟨i, hi⟩) where
  mem := List.get_mem values ⟨i, hi⟩
  enough := by
    have hfirst : ∀ y ∈ values.take (i + 1), decide (y ≤ values.get ⟨i, hi⟩) = true := by
      intro y hy
      obtain ⟨j, hj, rfl⟩ := List.mem_take_iff_getElem.mp hy
      rw [decide_eq_true_eq, List.get_eq_getElem]
      rcases Nat.lt_or_ge j i with hlt | hge
      · exact List.pairwise_iff_getElem.mp hsorted j i (by omega) hi hlt
      · obtain rfl : j = i := by omega
        exact le_rfl
    have hcount : i + 1 ≤ values.countP (· ≤ values.get ⟨i, hi⟩) := by
      calc i + 1 = (values.take (i + 1)).length := by
            rw [List.length_take, Nat.min_eq_left hi]
        _ = (values.take (i + 1)).countP (· ≤ values.get ⟨i, hi⟩) :=
            (List.countP_eq_length.mpr hfirst).symm
        _ ≤ values.countP (· ≤ values.get ⟨i, hi⟩) := (List.take_sublist _ _).countP_le
    have hlength : 0 < values.length := Nat.zero_lt_of_lt hi
    have hmul : 0 < percent * values.length := Nat.mul_pos hpos hlength
    omega
  least y _ henough := by
    by_contra hlt
    rw [not_le] at hlt
    have hlater : (values.drop i).countP (· ≤ y) = 0 := by
      rw [List.countP_eq_zero]
      intro z hz
      obtain ⟨j, hj, rfl⟩ := List.mem_drop_iff_getElem.mp hz
      rw [decide_eq_true_eq, not_le]
      refine lt_of_lt_of_le hlt ?_
      rw [List.get_eq_getElem]
      rcases Nat.eq_zero_or_pos j with rfl | hj'
      · exact le_rfl
      · exact List.pairwise_iff_getElem.mp hsorted i (i + j) hi (by omega) (by omega)
    have hcount : values.countP (· ≤ y) ≤ i := by
      calc values.countP (· ≤ y)
          = (values.take i).countP (· ≤ y) + (values.drop i).countP (· ≤ y) := by
            rw [← List.countP_append, List.take_append_drop]
        _ ≤ i := by
            rw [hlater, Nat.add_zero]
            exact List.countP_le_length.trans (List.length_take_le _ _)
    have hlength : 0 < values.length := Nat.zero_lt_of_lt hi
    have hmul : 0 < percent * values.length := Nat.mul_pos hpos hlength
    omega

end ranks

end Tally
