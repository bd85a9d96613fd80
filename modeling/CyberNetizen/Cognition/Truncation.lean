import CyberNetizen.Cognition.Context

/-! # The longest cut of a text that fits a budget -/

namespace CyberNetizen.Cognition

section estimates

theorem countP_not_ascii (l : List Char) :
    l.length - l.countP isAscii = l.countP fun c ↦ !isAscii c := by
  rw [List.length_eq_countP_add_countP isAscii (l := l)]
  simp

theorem estimateChars_eq {l : List Char} (h : l ≠ []) :
    estimateChars l =
      max 1 ((l.countP isAscii + 3) / 4 + l.countP fun c ↦ !isAscii c) := by
  unfold estimateChars
  dsimp only
  rw [if_neg (by simpa using h), countP_not_ascii]

theorem estimateChars_mono {l l' : List Char} (h : l.Sublist l') :
    estimateChars l ≤ estimateChars l' := by
  by_cases hl : l = []
  · rw [hl]
    exact Nat.zero_le _
  · have hl' : l' ≠ [] := fun h' ↦ hl (List.sublist_nil.mp (h' ▸ h))
    rw [estimateChars_eq hl, estimateChars_eq hl']
    have hascii := h.countP_le (p := isAscii)
    have hother := h.countP_le (p := fun c ↦ !isAscii c)
    omega

theorem estimateChars_add (before middle after : List Char) (h : middle ≠ []) :
    estimateChars (before ++ middle ++ after) ≤
      estimateChars middle + (before.length + after.length) := by
  have hall : before ++ middle ++ after ≠ [] := by simp [h]
  rw [estimateChars_eq h, estimateChars_eq hall]
  simp only [List.countP_append]
  have hb := List.length_eq_countP_add_countP isAscii (l := before)
  have ha := List.length_eq_countP_add_countP isAscii (l := after)
  simp only [Bool.not_eq_true, Bool.decide_eq_false] at hb ha
  omega

end estimates

section cuts

def headOf (kept : ℕ) : ℕ := max 1 (kept * 3 / 5)

def tailOf (kept : ℕ) : ℕ := max 1 (kept - headOf kept)

theorem candidate_eq (content : List Char) (kept : ℕ) :
    candidate content kept = content.take (headOf kept) ++ marker.toList ++
      content.drop (content.length - tailOf kept) := rfl

theorem headOf_mono {j k : ℕ} (h : j ≤ k) : headOf j ≤ headOf k := by
  unfold headOf
  omega

theorem tailOf_mono {j k : ℕ} (h : j ≤ k) : tailOf j ≤ tailOf k := by
  unfold tailOf headOf
  omega

theorem headOf_add_tailOf {kept n : ℕ} (h : kept ≤ n) (hn : 2 ≤ n) :
    headOf kept + tailOf kept ≤ n := by
  unfold tailOf headOf
  omega

theorem candidate_sublist (content : List Char) {j k : ℕ} (h : j ≤ k) :
    (candidate content j).Sublist (candidate content k) := by
  rw [candidate_eq, candidate_eq]
  have hhead : (content.take (headOf j)).Sublist (content.take (headOf k)) :=
    (List.take_prefix_take_left (headOf_mono h)).sublist
  have htail : (content.drop (content.length - tailOf j)).Sublist
      (content.drop (content.length - tailOf k)) := by
    have hle := tailOf_mono h
    exact (List.drop_suffix_drop_left _ (by omega)).sublist
  exact (hhead.append (List.Sublist.refl _)).append htail

variable (content : List Char) (tokenBudget : ℕ)

def Fits (kept : ℕ) : Prop := estimateChars (candidate content kept) ≤ tokenBudget

variable {content tokenBudget}

theorem Fits.of_le {j k : ℕ} (h : Fits content tokenBudget k) (hjk : j ≤ k) :
    Fits content tokenBudget j :=
  (estimateChars_mono (candidate_sublist content hjk)).trans h

theorem fits_one (h : estimateTokens marker + 2 ≤ tokenBudget) : Fits content tokenBudget 1 := by
  unfold Fits
  rw [candidate_eq]
  have hle := estimateChars_add (content.take (headOf 1)) marker.toList
    (content.drop (content.length - tailOf 1)) (by decide)
  have hhead : (content.take (headOf 1)).length ≤ 1 := by
    rw [List.length_take]
    exact Nat.min_le_left _ _
  have htail : (content.drop (content.length - tailOf 1)).length ≤ 1 := by
    rw [List.length_drop]
    have : tailOf 1 = 1 := rfl
    omega
  unfold estimateTokens at h
  omega

/-- The search ends at the longest candidate that fits. -/
theorem searchKept_best {n : ℕ} (low high : ℤ) (best : List Char) (hlow : 1 ≤ low)
    (hrange : low ≤ high + 1) (hhigh : high ≤ n)
    (hfits : 1 < low → Fits content tokenBudget (low - 1).toNat ∧
      best = candidate content (low - 1).toNat)
    (hlarge : ∀ k : ℕ, high < k → k ≤ n → ¬Fits content tokenBudget k)
    (hone : Fits content tokenBudget 1) (hn : 1 ≤ n) :
    ∃ kept : ℕ, 1 ≤ kept ∧ kept ≤ n ∧ Fits content tokenBudget kept ∧
      (∀ k, kept < k → k ≤ n → ¬Fits content tokenBudget k) ∧
      searchKept content tokenBudget low high best = candidate content kept := by
  fun_induction searchKept content tokenBudget low high best with
  | case1 low high best hle kept hfit ih =>
    refine ih (by omega) (by omega) hhigh (fun _ ↦ ?_) hlarge
    have hkept : kept + 1 - 1 = kept := by omega
    rw [hkept]
    exact ⟨hfit, rfl⟩
  | case2 low high best hle kept hfit ih =>
    refine ih hlow (by omega) (by omega) hfits fun k hk hkn ↦ ?_
    by_cases hkept : k ≤ high
    · refine fun h ↦ hfit (h.of_le ?_)
      omega
    · exact hlarge k (by omega) hkn
  | case3 low high best hle =>
    -- nothing is left to try: the largest size that fits is the one below `low`
    have hbelow : 1 < low := by
      by_contra h
      exact hlarge 1 (by omega) hn hone
    obtain ⟨hfit, hbest⟩ := hfits hbelow
    refine ⟨(low - 1).toNat, by omega, by omega, hfit, fun k hk hkn ↦ ?_, hbest⟩
    exact hlarge k (by omega) hkn

end cuts

theorem truncateToTokenBudget_eq_empty {content : String} {tokenBudget : ℕ} (h : content ≠ "") :
    truncateToTokenBudget content tokenBudget = "" ↔ tokenBudget < estimateTokens marker + 2 := by
  refine ⟨fun hempty ↦ ?_, fun hlt ↦ if_pos hlt⟩
  by_contra hbudget
  have hone : Fits content.toList tokenBudget 1 := fits_one (by omega)
  have hlength : 1 ≤ content.toList.length := by
    rw [Nat.one_le_iff_ne_zero, ne_eq, List.length_eq_zero_iff, String.toList_eq_nil_iff]
    exact h
  obtain ⟨kept, -, -, -, -, hsearch⟩ := searchKept_best (n := content.toList.length) 1
    content.toList.length [] le_rfl (by omega) le_rfl (fun h ↦ absurd h (lt_irrefl _))
    (fun k hk hkn ↦ absurd hk (by omega)) hone hlength
  unfold truncateToTokenBudget at hempty
  rw [if_neg hbudget, hsearch, String.ofList_eq_empty_iff, candidate_eq] at hempty
  have hmarker : marker.toList ≠ [] := by decide
  exact hmarker (List.append_eq_nil_iff.mp (List.append_eq_nil_iff.mp hempty).1).2

/-- `truncate_to_token_budget` for any integer. -/
def truncateToBudget (content : String) (tokenBudget : ℤ) : String :=
  if tokenBudget < estimateTokens marker + 2 then ""
  else String.ofList (searchKept content.toList tokenBudget.toNat 1 content.toList.length [])

theorem truncateToBudget_natCast (content : String) (tokenBudget : ℕ) :
    truncateToBudget content tokenBudget = truncateToTokenBudget content tokenBudget := by
  unfold truncateToBudget truncateToTokenBudget
  norm_cast

/-- A text is cut to nothing only where no cut would fit; else it keeps as much of its two ends, in
the proportion three to two, as the budget admits. -/
theorem truncateToBudget_best (content : String) (tokenBudget : ℤ) (h : 2 ≤ content.toList.length) :
    (truncateToBudget content tokenBudget = "" ↔ tokenBudget < estimateTokens marker + 2) ∧
    (truncateToBudget content tokenBudget ≠ "" → ∃ kept : ℕ,
      let head := max 1 (kept * 3 / 5)
      let tail := max 1 (kept - head)
      (truncateToBudget content tokenBudget).toList = content.toList.take head ++ marker.toList ++
          content.toList.drop (content.toList.length - tail) ∧
        1 ≤ kept ∧ kept ≤ content.toList.length ∧ head + tail ≤ content.toList.length ∧
        estimateTokens (truncateToBudget content tokenBudget) ≤ tokenBudget ∧
        ∀ k, kept < k → k ≤ content.toList.length →
          tokenBudget < estimateChars (candidate content.toList k)) := by
  by_cases hbudget : tokenBudget < estimateTokens marker + 2
  · have hempty : truncateToBudget content tokenBudget = "" := if_pos hbudget
    exact ⟨iff_of_true hempty hbudget, fun hne ↦ absurd hempty hne⟩
  · have hroom : estimateTokens marker + 2 ≤ tokenBudget.toNat := by omega
    have hone : Fits content.toList tokenBudget.toNat 1 := fits_one hroom
    obtain ⟨kept, hpos, hle, hfit, hbest, hsearch⟩ := searchKept_best (n := content.toList.length) 1
      content.toList.length [] le_rfl (by omega) le_rfl (fun h ↦ absurd h (lt_irrefl _))
      (fun k hk hkn ↦ absurd hk (by omega)) hone (by omega)
    have htext : (truncateToBudget content tokenBudget).toList = candidate content.toList kept := by
      unfold truncateToBudget
      rw [if_neg hbudget, hsearch, String.toList_ofList]
    have hne : truncateToBudget content tokenBudget ≠ "" := by
      intro hempty
      have hmarker : marker.toList ≠ [] := by decide
      rw [hempty, candidate_eq] at htext
      have hnil : content.toList.take (headOf kept) ++ marker.toList ++
          content.toList.drop (content.toList.length - tailOf kept) = [] := htext.symm
      exact hmarker (List.append_eq_nil_iff.mp (List.append_eq_nil_iff.mp hnil).1).2
    refine ⟨iff_of_false hne hbudget, fun _ ↦ ⟨kept, htext, hpos, hle, headOf_add_tailOf hle h, ?_,
      fun k hk hkn ↦ ?_⟩⟩
    · unfold estimateTokens
      rw [htext]
      have hfit' : estimateChars (candidate content.toList kept) ≤ tokenBudget.toNat := hfit
      omega
    · have hlarge := hbest k hk hkn
      unfold Fits at hlarge
      omega

theorem truncateToBudget_best_six :
    ∃ kept : ℕ, 1 ≤ kept ∧ kept ≤ 6 ∧
      (truncateToBudget "一二三四五六" 16).toList = candidate "一二三四五六".toList kept ∧
      estimateTokens (truncateToBudget "一二三四五六" 16) ≤ (16 : ℤ) ∧
      ∀ k, kept < k → k ≤ 6 → (16 : ℤ) < estimateChars (candidate "一二三四五六".toList k) := by
  obtain ⟨hempty, hcut⟩ := truncateToBudget_best "一二三四五六" 16 (by decide)
  obtain ⟨kept, htext, hpos, hle, -, hfits, hbest⟩ := hcut fun h ↦ absurd (hempty.mp h) (by decide)
  exact ⟨kept, hpos, hle, htext, hfits, hbest⟩

end CyberNetizen.Cognition
