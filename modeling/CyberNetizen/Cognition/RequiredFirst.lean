import CyberNetizen.Cognition.ContextAssembler
import CyberNetizen.Cognition.Truncation

/-! # Required fragments before optional ones -/

namespace CyberNetizen.Cognition.ContextAssembler

open Packing ContextFragment

variable {fragments : List ContextFragment} {tokenBudget : ℕ}

def RequiredFirst (fragments : List ContextFragment) (a : ContextAssembly) : Prop :=
  (∃ g ∈ a.fragments, g.required = false) →
    ∀ f ∈ fragments, f.required = true →
      f ∈ a.fragments ∨ ∃ g ∈ a.fragments, IsTruncation f g

def requiredRanked (fragments : List ContextFragment) : List ContextFragment :=
  (ranked fragments).filter (·.required)

def optionalRanked (fragments : List ContextFragment) : List ContextFragment :=
  (ranked fragments).filter (!·.required)

def cut (left : ℕ) (fragment : ContextFragment) : Option ContextFragment := fragment.clip left

section ranks

theorem rankedBefore_required {a b : ContextFragment} (h : rankedBefore a b = true)
    (hb : b.required = true) : a.required = true := by
  by_contra ha
  rw [Bool.not_eq_true] at ha
  simp [rankedBefore, ha, hb] at h

theorem rankedBefore_total (a b : ContextFragment) :
    rankedBefore a b = true ∨ rankedBefore b a = true := by
  unfold rankedBefore
  by_cases hr : a.required = b.required
  · by_cases hp : a.priority = b.priority
    · simp only [hr, hp, ne_eq, not_true_eq_false, if_false, decide_eq_true_eq]
      exact le_total _ _
    · have hp' : ¬b.priority = a.priority := fun h ↦ hp h.symm
      simp only [hr, hp, hp', ne_eq, not_true_eq_false, not_false_eq_true, if_false, if_true,
        decide_eq_true_eq]
      omega
  · have hr' : ¬b.required = a.required := fun h ↦ hr h.symm
    simp only [ne_eq, hr, hr', not_false_eq_true, if_true]
    cases ha : a.required with
    | true => exact .inl rfl
    | false =>
      cases hb : b.required with
      | true => exact .inr rfl
      | false => exact absurd (ha.trans hb.symm) hr

theorem rankedBefore_trans {a b c : ContextFragment} (hab : rankedBefore a b = true)
    (hbc : rankedBefore b c = true) : rankedBefore a c = true := by
  unfold rankedBefore at *
  grind

/-- The required fragments have the first ranks. -/
theorem ranked_eq (fragments : List ContextFragment) :
    ranked fragments = requiredRanked fragments ++ optionalRanked fragments := by
  have : Std.Total fun a b : ContextFragment ↦ rankedBefore a b = true := ⟨rankedBefore_total⟩
  have : IsTrans ContextFragment fun a b ↦ rankedBefore a b = true :=
    ⟨fun _ _ _ ↦ rankedBefore_trans⟩
  have hsorted : (ranked fragments).Pairwise fun a b ↦ rankedBefore a b = true :=
    List.pairwise_insertionSort _ _
  unfold requiredRanked optionalRanked
  generalize ranked fragments = l at hsorted
  induction l with
  | nil => rfl
  | cons a l ih =>
    obtain ⟨ha, hl⟩ := List.pairwise_cons.mp hsorted
    have hrest := ih hl
    cases hreq : a.required with
    | true =>
      rw [List.filter_cons_of_pos (by simpa using hreq), List.filter_cons_of_neg (by simp [hreq]),
        List.cons_append, ← hrest]
    | false =>
      have hnone : l.filter (·.required) = [] := by
        rw [List.filter_eq_nil_iff]
        intro b hb hbreq
        rw [rankedBefore_required (ha b hb) hbreq] at hreq
        exact Bool.noConfusion hreq
      rw [hnone, List.nil_append] at hrest
      rw [List.filter_cons_of_neg (by simp [hreq]), List.filter_cons_of_pos (by simp [hreq]), hnone,
        List.nil_append, ← hrest]

end ranks

section fates

theorem clip_eq_none {f : ContextFragment} {left : ℕ} :
    f.clip left = none ↔ left < estimateTokens marker + 2 := by
  have hne : f.content ≠ "" := by
    intro h
    have hshown := f.content_shown
    rw [h] at hshown
    exact hshown rfl
  rw [← truncateToTokenBudget_eq_empty hne]
  unfold clip
  dsimp only
  split
  · rename_i h
    exact iff_of_true rfl h
  · rename_i h
    exact iff_of_false (Option.some_ne_none _) h

theorem shrink_required {f : ContextFragment} (h : f.required = true) (left : ℕ) :
    shrink left f = cut left f := by
  unfold shrink cut
  rw [h, Bool.true_and]
  split
  · rfl
  · rename_i hzero
    rw [decide_eq_true_eq, Nat.pos_iff_ne_zero, ne_eq, not_not] at hzero
    rw [hzero]
    exact (clip_eq_none.mpr (Nat.zero_lt_succ _)).symm

theorem shrink_optional {f : ContextFragment} (h : f.required = false) (left : ℕ) :
    shrink left f = none := by
  unfold shrink
  rw [h]
  rfl

theorem leftover_congr {l : List ContextFragment} (h : ∀ f ∈ l, f.required = true) (left : ℕ) :
    leftover tokens shrink left l = leftover tokens cut left l := by
  induction l generalizing left with
  | nil => rfl
  | cons f l ih =>
    have hrest := ih fun g hg ↦ h g (List.mem_cons_of_mem f hg)
    rw [leftover, leftover, shrink_required (h f List.mem_cons_self)]
    simp only [hrest]

theorem allPlaced_congr {l : List ContextFragment} (h : ∀ f ∈ l, f.required = true) (left : ℕ) :
    AllPlaced tokens shrink left l ↔ AllPlaced tokens cut left l := by
  induction l generalizing left with
  | nil => exact Iff.rfl
  | cons f l ih =>
    have hrest := ih fun g hg ↦ h g (List.mem_cons_of_mem f hg)
    rw [AllPlaced, AllPlaced, shrink_required (h f List.mem_cons_self)]
    by_cases hfits : f.tokens ≤ left
    · rw [if_pos hfits, if_pos hfits, hrest]
    · rw [if_neg hfits, if_neg hfits]
      cases cut left f with
      | none => exact Iff.rfl
      | some g => exact hrest _

theorem mem_requiredRanked {f : ContextFragment} :
    f ∈ requiredRanked fragments ↔ f ∈ fragments ∧ f.required = true := by
  unfold requiredRanked ranked
  rw [List.mem_filter, List.mem_insertionSort]

theorem mem_optionalRanked {f : ContextFragment} :
    f ∈ optionalRanked fragments ↔ f ∈ fragments ∧ f.required = false := by
  unfold optionalRanked ranked
  rw [List.mem_filter, List.mem_insertionSort, Bool.not_eq_true']

theorem fatesOf_eq (tokenBudget : ℕ) (fragments : List ContextFragment) :
    fatesOf tokenBudget fragments =
      fates tokens shrink tokenBudget 0 (requiredRanked fragments) ++
        fates tokens shrink tokenBudget
          (tokenBudget - leftover tokens cut tokenBudget (requiredRanked fragments))
          (optionalRanked fragments) := by
  have hreq : ∀ f ∈ requiredRanked fragments, f.required = true :=
    fun f hf ↦ (mem_requiredRanked.mp hf).2
  unfold fatesOf
  rw [ranked_eq, fates_append shrink_tokens_le (Nat.zero_le _), Nat.sub_zero, leftover_congr hreq]

end fates

section order

variable {a : ContextAssembly}

/-- A fragment is in the selection, whole or cut, unless its fate is to be left out. -/
theorem placed_iff (hids : (fragments.map (·.fragmentId)).Nodup) {f : ContextFragment}
    {fate : Fate ContextFragment} (hf : (f, fate) ∈ fatesOf tokenBudget fragments) :
    (f ∈ (fatesOf tokenBudget fragments).filterMap packed ∨
        ∃ g ∈ (fatesOf tokenBudget fragments).filterMap packed, IsTruncation f g) ↔
      fate ≠ .dropped := by
  constructor
  · rintro (h | ⟨g, hg, htrunc⟩) rfl
    · exact absurd ((mem_packed_self hids hf).mp h) (nomatch ·)
    · obtain ⟨x, hx, hpacked⟩ := List.mem_filterMap.mp hg
      have hid := (id_of_packed hx hpacked).1
      obtain rfl := fate_unique hids hf hx (htrunc.rest.1.symm.trans hid)
      exact absurd hpacked (nomatch ·)
  · intro hfate
    cases fate with
    | kept => exact .inl (List.mem_filterMap.mpr ⟨_, hf, rfl⟩)
    | shrunk g =>
      obtain ⟨-, ⟨-, h⟩ | ⟨-, -, htrunc, -⟩⟩ := id_of_packed hf (rfl : packed (f, .shrunk g) = some g)
      · exact absurd h (nomatch ·)
      · exact .inr ⟨g, List.mem_filterMap.mpr ⟨_, hf, rfl⟩, htrunc⟩
    | dropped => exact absurd rfl hfate

theorem required_of_packed {x : ContextFragment × Fate ContextFragment} {g : ContextFragment}
    (hx : x ∈ fatesOf tokenBudget fragments) (h : packed x = some g) : g.required = x.1.required := by
  obtain ⟨-, ⟨rfl, -⟩ | ⟨-, -, htrunc, -⟩⟩ := id_of_packed hx h
  · rfl
  · exact htrunc.rest.2.2.2.2.1

theorem optional_selected_iff :
    (∃ g ∈ (fatesOf tokenBudget fragments).filterMap packed, g.required = false) ↔
      ¬∀ f ∈ optionalRanked fragments,
        leftover tokens cut tokenBudget (requiredRanked fragments) < f.tokens := by
  have hle : leftover tokens cut tokenBudget (requiredRanked fragments) ≤ tokenBudget :=
    leftover_le tokenBudget
  generalize hleft : leftover tokens cut tokenBudget (requiredRanked fragments) = left at hle
  have hdropped : (∀ x ∈ fates tokens shrink tokenBudget (tokenBudget - left)
        (optionalRanked fragments), x.2 = .dropped) ↔
      ∀ f ∈ optionalRanked fragments, tokenBudget - (tokenBudget - left) < f.tokens :=
    all_dropped_iff (fun f hf r ↦ shrink_optional (mem_optionalRanked.mp hf).2 r) (Nat.sub_le _ _)
  have hfates := fatesOf_eq tokenBudget fragments
  rw [hleft] at hfates
  rw [Nat.sub_sub_self hle] at hdropped
  rw [← hdropped]
  constructor
  · rintro ⟨g, hg, hoptional⟩ hall
    obtain ⟨x, hx, hpacked⟩ := List.mem_filterMap.mp hg
    have hreq := required_of_packed hx hpacked
    rw [hoptional] at hreq
    rw [hfates] at hx
    rcases List.mem_append.mp hx with hx | hx
    · rw [(mem_requiredRanked.mp (mem_of_mem_fates hx)).2] at hreq
      exact Bool.noConfusion hreq
    · obtain ⟨f, fate⟩ := x
      obtain rfl : fate = .dropped := hall _ hx
      exact absurd hpacked (nomatch ·)
  · intro hnot
    push Not at hnot
    obtain ⟨⟨f, fate⟩, hx, hfate⟩ := hnot
    have hmem : f ∈ optionalRanked fragments := mem_of_mem_fates hx
    have hx' : (f, fate) ∈ fatesOf tokenBudget fragments := by
      rw [hfates]
      exact List.mem_append_right _ hx
    obtain ⟨g, hpacked⟩ : ∃ g, packed (f, fate) = some g := by
      cases fate with
      | kept => exact ⟨f, rfl⟩
      | shrunk g => exact ⟨g, rfl⟩
      | dropped => exact absurd rfl hfate
    refine ⟨g, List.mem_filterMap.mpr ⟨_, hx', hpacked⟩, ?_⟩
    rw [required_of_packed hx' hpacked]
    exact (mem_optionalRanked.mp hmem).2

/-- Every required fragment is in the selection. -/
theorem all_required_iff (hids : (fragments.map (·.fragmentId)).Nodup) :
    (∀ f ∈ fragments, f.required = true → f ∈ (fatesOf tokenBudget fragments).filterMap packed ∨
        ∃ g ∈ (fatesOf tokenBudget fragments).filterMap packed, IsTruncation f g) ↔
      AllPlaced tokens cut tokenBudget (requiredRanked fragments) := by
  have hreq : ∀ f ∈ requiredRanked fragments, f.required = true :=
    fun f hf ↦ (mem_requiredRanked.mp hf).2
  rw [← allPlaced_congr hreq, ← Nat.sub_zero tokenBudget,
    allPlaced_iff shrink_tokens_le (Nat.zero_le _), Nat.sub_zero]
  constructor
  · rintro hall ⟨f, fate⟩ hx
    have hx' : (f, fate) ∈ fatesOf tokenBudget fragments := by
      rw [fatesOf_eq]
      exact List.mem_append_left _ hx
    obtain ⟨hf, hfreq⟩ := mem_requiredRanked.mp (mem_of_mem_fates hx)
    exact (placed_iff hids hx').mp (hall f hf hfreq)
  · intro hall f hf hfreq
    obtain ⟨fate, hx⟩ : ∃ fate, (f, fate) ∈
        fates tokens shrink tokenBudget 0 (requiredRanked fragments) :=
      exists_fate (mem_requiredRanked.mpr ⟨hf, hfreq⟩)
    have hx' : (f, fate) ∈ fatesOf tokenBudget fragments := by
      rw [fatesOf_eq]
      exact List.mem_append_left _ hx
    exact (placed_iff hids hx').mpr (hall _ hx)

end order

/-- An optional fragment takes the place of a required one unless every required fragment fits, whole
or cut, into what those ranked before it leave, or no optional fragment fits into what all of them
leave. -/
theorem required_first_iff (compression : Option ContextCompressionReport)
    (hids : (fragments.map (·.fragmentId)).Nodup) (hbudget : 1 ≤ tokenBudget) :
    ∃ a, assemble fragments tokenBudget compression = .ok a ∧
      (RequiredFirst fragments a ↔
        AllPlaced tokens cut tokenBudget (requiredRanked fragments) ∨
          ∀ f ∈ optionalRanked fragments,
            leftover tokens cut tokenBudget (requiredRanked fragments) < f.tokens) := by
  refine ⟨_, assemble_eq compression hbudget, ?_⟩
  have hsorted := ((fatesOf tokenBudget fragments).filterMap packed).perm_insertionSort
    (fun a b ↦ a.ordinal ≤ b.ordinal)
  unfold RequiredFirst
  simp only [hsorted.mem_iff]
  rw [optional_selected_iff, all_required_iff hids]
  tauto

theorem required_first_sixteen :
    ∃ a, assemble [longMessage, optionalMemory] 16 none = .ok a ∧
      (RequiredFirst [longMessage, optionalMemory] a ↔
        AllPlaced tokens cut 16 (requiredRanked [longMessage, optionalMemory]) ∨
          ∀ f ∈ optionalRanked [longMessage, optionalMemory],
            leftover tokens cut 16 (requiredRanked [longMessage, optionalMemory]) < f.tokens) :=
  required_first_iff none (by decide) (by decide)

/-- With ten tokens the required message cannot even be cut, and the optional memory is taken. -/
theorem memory_without_message :
    ¬∀ (fragments : List ContextFragment) (tokenBudget : ℕ) (a : ContextAssembly),
      (fragments.map (·.fragmentId)).Nodup → 1 ≤ tokenBudget →
      assemble fragments tokenBudget none = .ok a → RequiredFirst fragments a := by
  intro h
  have hassembled : assemble [longMessage, optionalMemory] 10 none = .ok
      { fragments := [optionalMemory]
        omittedFragmentIds := ["message-1"]
        truncatedFragmentIds := []
        estimatedTokens := 1
        tokenBudget := 10 } := by
    decide +kernel
  have hfirst := h _ 10 _ (by decide) (by decide) hassembled
    ⟨optionalMemory, List.mem_singleton_self _, rfl⟩ longMessage List.mem_cons_self rfl
  rcases hfirst with hmem | ⟨g, hg, htrunc⟩
  · exact absurd (List.mem_singleton.mp hmem) (by decide)
  · obtain rfl := List.mem_singleton.mp hg
    exact absurd htrunc.rest.1 (by decide)

end CyberNetizen.Cognition.ContextAssembler
