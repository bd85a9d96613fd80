import CyberNetizen.Cognition.Context

namespace CyberNetizen.Cognition

open Packing ContextFragment

structure ContextCompressionReport where
  applied : Bool
  sourceMessageCount : ℕ
  recentMessageCount : ℕ
  summarizedMessageCount : ℕ
  summaryCoveredMessageCount : ℕ
  summaryFragmentCount : ℕ
  summaryLevels : ℕ
  estimatedSummaryTokens : ℕ
  omittedSummaryFragmentCount : ℕ
  deriving DecidableEq

structure ContextAssembly where
  fragments : List ContextFragment
  omittedFragmentIds : List String
  truncatedFragmentIds : List String
  estimatedTokens : ℕ
  tokenBudget : ℕ
  compression : Option ContextCompressionReport := none
  deriving DecidableEq

namespace ContextAssembler

/-- The order of the keys `(required, priority, ordinal)`, the greatest first. -/
def rankedBefore (a b : ContextFragment) : Bool :=
  if a.required ≠ b.required then a.required
  else if a.priority ≠ b.priority then b.priority < a.priority
  else b.ordinal ≤ a.ordinal

/-- The variables of the loop. -/
structure Selection where
  selected : List ContextFragment
  omitted : List String
  truncated : List String
  consumed : ℕ

def shrink (remaining : ℕ) (fragment : ContextFragment) : Option ContextFragment :=
  if fragment.required && decide (0 < remaining) then fragment.clip remaining else none

def select (tokenBudget : ℕ) (s : Selection) (fragment : ContextFragment) : Selection :=
  if s.consumed + fragment.tokens ≤ tokenBudget then
    { s with
      selected := s.selected ++ [fragment]
      consumed := s.consumed + fragment.tokens }
  else
    match shrink (tokenBudget - s.consumed) fragment with
    | some clipped =>
      { s with
        selected := s.selected ++ [clipped]
        consumed := s.consumed + clipped.tokens
        truncated := s.truncated ++ [fragment.fragmentId] }
    | none => { s with omitted := s.omitted ++ [fragment.fragmentId] }

def ranked (fragments : List ContextFragment) : List ContextFragment :=
  fragments.insertionSort fun a b ↦ rankedBefore a b

def assemble (fragments : List ContextFragment) (tokenBudget : ℕ)
    (compression : Option ContextCompressionReport) : Except String ContextAssembly :=
  if tokenBudget < 1 then .error "上下文 Token 预算必须大于 0"
  else
    let s := (ranked fragments).foldl (select tokenBudget) ⟨[], [], [], 0⟩
    .ok
      { fragments := s.selected.insertionSort (fun a b ↦ a.ordinal ≤ b.ordinal)
        omittedFragmentIds := (fragments.map (·.fragmentId)).filter (· ∈ s.omitted)
        truncatedFragmentIds := s.truncated
        estimatedTokens := s.consumed
        tokenBudget
        compression }

section loop

variable {tokenBudget : ℕ}

theorem shrink_eq_some {remaining : ℕ} {f g : ContextFragment} (h : shrink remaining f = some g) :
    f.required = true ∧ IsTruncation f g ∧ g.tokens ≤ remaining := by
  unfold shrink at h
  split at h
  · rename_i hcond
    exact ⟨(Bool.and_eq_true_iff.mp hcond).1, clip_eq_some h⟩
  · cases h

def omittedId : ContextFragment × Fate ContextFragment → Option String
  | (f, .dropped) => some f.fragmentId
  | _ => none

def truncatedId : ContextFragment × Fate ContextFragment → Option String
  | (f, .shrunk _) => some f.fragmentId
  | _ => none

/-- The loop packs the ranked fragments. -/
theorem foldl_select (tokenBudget : ℕ) (ranked : List ContextFragment) (s : Selection) :
    let f := fates tokens shrink tokenBudget s.consumed ranked
    ranked.foldl (select tokenBudget) s =
      { selected := s.selected ++ f.filterMap packed
        omitted := s.omitted ++ f.filterMap omittedId
        truncated := s.truncated ++ f.filterMap truncatedId
        consumed := s.consumed + ((f.filterMap packed).map tokens).sum } := by
  induction ranked generalizing s with
  | nil => simp [fates]
  | cons a ranked ih =>
    intro f
    rw [List.foldl_cons, ih]
    by_cases hfits : s.consumed + a.tokens ≤ tokenBudget
    · have hf : f = (a, .kept) :: fates tokens shrink tokenBudget (s.consumed + a.tokens) ranked :=
        if_pos hfits
      rw [hf, select, if_pos hfits]
      simp [List.filterMap_cons, packed, omittedId, truncatedId, Nat.add_assoc]
    · have hs : select tokenBudget s a = _ := if_neg hfits
      have hf : f = _ := if_neg hfits
      rw [hs, hf]
      cases hshrink : shrink (tokenBudget - s.consumed) a with
      | some b => simp [List.filterMap_cons, packed, omittedId, truncatedId, Nat.add_assoc]
      | none => simp [List.filterMap_cons, packed, omittedId, truncatedId]

variable {fragments : List ContextFragment}

def fatesOf (tokenBudget : ℕ) (fragments : List ContextFragment) :
    List (ContextFragment × Fate ContextFragment) :=
  fates tokens shrink tokenBudget 0 (ranked fragments)

theorem map_fst_fatesOf (tokenBudget : ℕ) (fragments : List ContextFragment) :
    ((fatesOf tokenBudget fragments).map Prod.fst).Perm fragments := by
  unfold fatesOf
  rw [map_fst_fates]
  exact fragments.perm_insertionSort _

theorem shrink_tokens_le (r : ℕ) (a b : ContextFragment) (h : shrink r a = some b) :
    b.tokens ≤ r := (shrink_eq_some h).2.2

theorem sum_packed_le (tokenBudget : ℕ) (fragments : List ContextFragment) :
    (((fatesOf tokenBudget fragments).filterMap packed).map tokens).sum ≤ tokenBudget := by
  have hle : 0 + (((fatesOf tokenBudget fragments).filterMap packed).map tokens).sum ≤ tokenBudget :=
    cost_packed_le shrink_tokens_le (Nat.zero_le _)
  rwa [Nat.zero_add] at hle

theorem id_of_packed {x : ContextFragment × Fate ContextFragment} {g : ContextFragment}
    (hx : x ∈ fatesOf tokenBudget fragments) (h : packed x = some g) :
    g.fragmentId = x.1.fragmentId ∧ (g = x.1 ∧ x.2 = .kept ∨
      x.2 = .shrunk g ∧ x.1.required = true ∧ IsTruncation x.1 g ∧ g.tokens < x.1.tokens) := by
  obtain ⟨f, fate⟩ := x
  rcases of_mem_fates shrink_tokens_le (Nat.zero_le _) hx with hk | ⟨r, b, hb, hr, hs⟩ | hd
  · obtain rfl : fate = .kept := hk
    obtain rfl := Option.some.inj h
    exact ⟨rfl, .inl ⟨rfl, rfl⟩⟩
  · obtain rfl : fate = .shrunk b := hs
    obtain rfl := Option.some.inj h
    obtain ⟨hreq, htrunc, hle⟩ := shrink_eq_some hb
    exact ⟨htrunc.rest.1, .inr ⟨rfl, hreq, htrunc, lt_of_le_of_lt hle hr⟩⟩
  · obtain rfl : fate = .dropped := hd
    cases h

end loop

section accounts

variable {tokenBudget : ℕ} {fragments : List ContextFragment}

/-- Every item is either taken, maybe cut, or omitted. -/
theorem ids_perm {f : List (ContextFragment × Fate ContextFragment)}
    (h : ∀ x ∈ f, ∀ g, packed x = some g → g.fragmentId = x.1.fragmentId) :
    ((f.filterMap packed).map (·.fragmentId) ++ f.filterMap omittedId).Perm
      (f.map (·.1.fragmentId)) := by
  induction f with
  | nil => exact .refl _
  | cons x f ih =>
    have hrest := ih fun y hy ↦ h y (List.mem_cons_of_mem x hy)
    obtain ⟨a, fate⟩ := x
    cases fate with
    | kept =>
      rw [List.filterMap_cons_some (show packed (a, .kept) = some a from rfl),
        List.filterMap_cons_none (show omittedId (a, .kept) = none from rfl)]
      exact hrest.cons _
    | shrunk b =>
      have hb : b.fragmentId = a.fragmentId := h _ List.mem_cons_self b rfl
      rw [List.filterMap_cons_some (show packed (a, .shrunk b) = some b from rfl),
        List.filterMap_cons_none (show omittedId (a, .shrunk b) = none from rfl), List.map_cons, hb]
      exact hrest.cons _
    | dropped =>
      rw [List.filterMap_cons_none (show packed (a, .dropped) = none from rfl),
        List.filterMap_cons_some (show omittedId (a, .dropped) = some a.fragmentId from rfl)]
      exact List.perm_middle.trans (hrest.cons _)

theorem ids_perm_fates (tokenBudget : ℕ) (fragments : List ContextFragment) :
    (((fatesOf tokenBudget fragments).filterMap packed).map (·.fragmentId) ++
      (fatesOf tokenBudget fragments).filterMap omittedId).Perm (fragments.map (·.fragmentId)) := by
  have hperm := ids_perm (f := fatesOf tokenBudget fragments) fun x hx g hg ↦ (id_of_packed hx hg).1
  have hmap := (map_fst_fatesOf tokenBudget fragments).map
    (·.fragmentId)
  rw [List.map_map] at hmap
  exact hperm.trans hmap

theorem fate_unique (hids : (fragments.map (·.fragmentId)).Nodup)
    {x y : ContextFragment × Fate ContextFragment}
    (hx : x ∈ fatesOf tokenBudget fragments)
    (hy : y ∈ fatesOf tokenBudget fragments)
    (h : x.1.fragmentId = y.1.fragmentId) : x = y := by
  have hmap : ((fatesOf tokenBudget fragments).map fun z ↦ z.1.fragmentId).Nodup := by
    have hperm := (map_fst_fatesOf tokenBudget fragments).map
      (·.fragmentId)
    rw [List.map_map] at hperm
    exact hperm.nodup_iff.mpr hids
  exact List.inj_on_of_nodup_map hmap hx hy h

theorem mem_truncated {id : String} {f : List (ContextFragment × Fate ContextFragment)} :
    id ∈ f.filterMap truncatedId ↔ ∃ a b, (a, .shrunk b) ∈ f ∧ a.fragmentId = id := by
  rw [List.mem_filterMap]
  constructor
  · rintro ⟨⟨a, fate⟩, hmem, hid⟩
    cases fate with
    | shrunk b => exact ⟨a, b, hmem, Option.some.inj hid⟩
    | kept => cases hid
    | dropped => cases hid
  · rintro ⟨a, b, hmem, rfl⟩
    exact ⟨_, hmem, rfl⟩

theorem mem_omitted {id : String} {f : List (ContextFragment × Fate ContextFragment)} :
    id ∈ f.filterMap omittedId ↔ ∃ a, (a, .dropped) ∈ f ∧ a.fragmentId = id := by
  rw [List.mem_filterMap]
  constructor
  · rintro ⟨⟨a, fate⟩, hmem, hid⟩
    cases fate with
    | dropped => exact ⟨a, hmem, Option.some.inj hid⟩
    | kept => cases hid
    | shrunk b => cases hid
  · rintro ⟨a, hmem, rfl⟩
    exact ⟨_, hmem, rfl⟩

theorem mem_packed_self (hids : (fragments.map (·.fragmentId)).Nodup) {f : ContextFragment}
    {fate : Fate ContextFragment} (hf : (f, fate) ∈ fatesOf tokenBudget fragments) :
    f ∈ (fatesOf tokenBudget fragments).filterMap packed ↔ fate = .kept := by
  constructor
  · intro h
    obtain ⟨x, hx, hpacked⟩ := List.mem_filterMap.mp h
    obtain ⟨hid, hcase⟩ := id_of_packed hx hpacked
    obtain rfl := fate_unique hids hf hx hid
    rcases hcase with ⟨-, hkept⟩ | ⟨-, -, -, hlt⟩
    · exact hkept
    · exact absurd hlt (lt_irrefl _)
  · rintro rfl
    exact List.mem_filterMap.mpr ⟨_, hf, rfl⟩

theorem mem_truncated_self (hids : (fragments.map (·.fragmentId)).Nodup) {f : ContextFragment}
    {fate : Fate ContextFragment} (hf : (f, fate) ∈ fatesOf tokenBudget fragments) :
    f.fragmentId ∈ (fatesOf tokenBudget fragments).filterMap truncatedId ↔
      ∃ b, fate = .shrunk b := by
  rw [mem_truncated]
  constructor
  · rintro ⟨a, b, hmem, hid⟩
    exact ⟨b, congrArg Prod.snd (fate_unique hids hf hmem hid.symm)⟩
  · rintro ⟨b, rfl⟩
    exact ⟨f, b, hf, rfl⟩

theorem mem_omitted_self (hids : (fragments.map (·.fragmentId)).Nodup) {f : ContextFragment}
    {fate : Fate ContextFragment} (hf : (f, fate) ∈ fatesOf tokenBudget fragments) :
    f.fragmentId ∈ (fatesOf tokenBudget fragments).filterMap omittedId ↔
      fate = .dropped := by
  rw [mem_omitted]
  constructor
  · rintro ⟨a, hmem, hid⟩
    exact congrArg Prod.snd (fate_unique hids hf hmem hid.symm)
  · rintro rfl
    exact ⟨f, hf, rfl⟩

/-- What `assemble` answers, said by the fates of the fragments. -/
theorem assemble_eq (compression : Option ContextCompressionReport) (hbudget : 1 ≤ tokenBudget) :
    let f := fatesOf tokenBudget fragments
    assemble fragments tokenBudget compression = .ok
      { fragments := (f.filterMap packed).insertionSort (fun a b ↦ a.ordinal ≤ b.ordinal)
        omittedFragmentIds := (fragments.map (·.fragmentId)).filter (· ∈ f.filterMap omittedId)
        truncatedFragmentIds := f.filterMap truncatedId
        estimatedTokens := ((f.filterMap packed).map tokens).sum
        tokenBudget
        compression } := by
  have hloop := foldl_select tokenBudget (ranked fragments) ⟨[], [], [], 0⟩
  simp only [List.nil_append, Nat.zero_add] at hloop
  unfold assemble
  rw [if_neg (by omega : ¬tokenBudget < 1)]
  dsimp only
  rw [hloop]
  rfl

theorem omitted_perm (hids : (fragments.map (·.fragmentId)).Nodup) :
    ((fragments.map (·.fragmentId)).filter
        (· ∈ (fatesOf tokenBudget fragments).filterMap omittedId)).Perm
      ((fatesOf tokenBudget fragments).filterMap omittedId) := by
  have hall := ids_perm_fates tokenBudget fragments
  have homitted := (hall.nodup_iff.mpr hids).of_append_right
  refine (List.perm_ext_iff_of_nodup (hids.filter _) homitted).mpr fun id ↦ ?_
  rw [List.mem_filter, decide_eq_true_eq]
  exact ⟨And.right, fun h ↦ ⟨hall.mem_iff.mp (List.mem_append_right _ h), h⟩⟩

end accounts

def ExactlyOne (p q r : Prop) : Prop := p ∧ ¬q ∧ ¬r ∨ ¬p ∧ q ∧ ¬r ∨ ¬p ∧ ¬q ∧ r

/-- The selection stays within its budget, and each fragment is selected, selected and cut, or
omitted. -/
theorem assemble_accounts {fragments : List ContextFragment} {tokenBudget : ℕ}
    (compression : Option ContextCompressionReport)
    (hids : (fragments.map (·.fragmentId)).Nodup) (hbudget : 1 ≤ tokenBudget) :
    ∃ a, assemble fragments tokenBudget compression = .ok a ∧
      a.estimatedTokens = (a.fragments.map tokens).sum ∧ a.estimatedTokens ≤ tokenBudget ∧
      (∀ f ∈ fragments, ExactlyOne (f ∈ a.fragments)
        (f.required = true ∧ f.fragmentId ∈ a.truncatedFragmentIds ∧
          ∃ g ∈ a.fragments, IsTruncation f g)
        (f.fragmentId ∈ a.omittedFragmentIds)) ∧
      (∀ g ∈ a.fragments, g ∈ fragments ∨
        ∃ f ∈ fragments, f.fragmentId ∈ a.truncatedFragmentIds ∧ IsTruncation f g) ∧
      (a.fragments.map (·.fragmentId) ++ a.omittedFragmentIds).Perm
        (fragments.map (·.fragmentId)) ∧
      a.truncatedFragmentIds ⊆ a.fragments.map (·.fragmentId) ∧
      a.fragments.Pairwise fun f g ↦ f.ordinal ≤ g.ordinal := by
  have hsorted := ((fatesOf tokenBudget fragments).filterMap packed).perm_insertionSort
    (fun a b ↦ a.ordinal ≤ b.ordinal)
  have hfates := map_fst_fatesOf tokenBudget fragments
  refine ⟨_, assemble_eq compression hbudget, ?_, ?_, ?_, ?_, ?_, ?_, ?_⟩
  · exact ((hsorted.map tokens).sum_eq).symm
  · exact sum_packed_le tokenBudget fragments
  · intro f hmem
    obtain ⟨⟨f', fate⟩, hf, rfl⟩ := List.mem_map.mp (hfates.mem_iff.mpr hmem)
    have hkept := mem_packed_self hids hf
    have htruncated := mem_truncated_self hids hf
    have homitted := mem_omitted_self hids hf
    dsimp only
    rw [hsorted.mem_iff, hkept, htruncated, List.mem_filter, decide_eq_true_eq, homitted]
    have hid : f'.fragmentId ∈ fragments.map (·.fragmentId) := List.mem_map_of_mem hmem
    cases fate with
    | kept => exact .inl ⟨rfl, fun ⟨_, ⟨_, h⟩, _⟩ ↦ (nomatch h), fun ⟨_, h⟩ ↦ (nomatch h)⟩
    | shrunk b =>
      have hb : packed (f', Fate.shrunk b) = some b := rfl
      obtain ⟨-, ⟨-, h⟩ | ⟨-, hreq, htrunc, -⟩⟩ := id_of_packed hf hb
      · cases h
      · exact .inr (.inl ⟨fun h ↦ (nomatch h), ⟨hreq, ⟨b, rfl⟩, b,
          hsorted.mem_iff.mpr (List.mem_filterMap.mpr ⟨_, hf, hb⟩), htrunc⟩, fun ⟨_, h⟩ ↦ (nomatch h)⟩)
    | dropped => exact .inr (.inr ⟨fun h ↦ (nomatch h), fun ⟨_, ⟨_, h⟩, _⟩ ↦ (nomatch h), hid, rfl⟩)
  · intro g hg
    obtain ⟨x, hx, hpacked⟩ := List.mem_filterMap.mp (hsorted.mem_iff.mp hg)
    have hmem : x.1 ∈ fragments := hfates.mem_iff.mp (List.mem_map_of_mem hx)
    obtain ⟨-, ⟨rfl, -⟩ | ⟨hshrunk, -, htrunc, -⟩⟩ := id_of_packed hx hpacked
    · exact .inl hmem
    · exact .inr ⟨x.1, hmem, mem_truncated.mpr ⟨x.1, g, hshrunk ▸ hx, rfl⟩, htrunc⟩
  · exact ((hsorted.map _).append (omitted_perm hids)).trans (ids_perm_fates tokenBudget fragments)
  · intro id hid
    obtain ⟨a, b, hmem, rfl⟩ := mem_truncated.mp hid
    have hb : packed (a, Fate.shrunk b) = some b := rfl
    rw [← (id_of_packed hmem hb).1]
    exact List.mem_map_of_mem (hsorted.mem_iff.mpr (List.mem_filterMap.mpr ⟨_, hmem, hb⟩))
  · exact List.pairwise_insertionSort _ _

/-- A required message that is longer than the budget. -/
def longMessage : ContextFragment where
  fragmentId := "message-1"
  kind := .recentMessage
  role := .user
  content := "一二三四五六七八九十一二三四五六七八九十"
  priority := 99
  required := true
  id_shown := message_one_shown
  content_shown := by decide
  priority_le := by decide
  estimate_pos := by decide
  source_pos := by decide
  level_pos := recentMessage_level

def optionalMemory : ContextFragment where
  fragmentId := "memory-1"
  kind := .longTermMemory
  role := .user
  content := "tea"
  priority := 40
  ordinal := -1
  id_shown := by decide
  content_shown := by decide
  priority_le := by decide
  estimate_pos := by decide
  source_pos := by decide
  level_pos := by decide

theorem assemble_accounts_two :
    ∃ a, assemble [longMessage, optionalMemory] 16 none = .ok a ∧
      a.estimatedTokens = (a.fragments.map tokens).sum ∧ a.estimatedTokens ≤ 16 := by
  have hids : ([longMessage, optionalMemory].map (·.fragmentId)).Nodup := by decide
  obtain ⟨a, ha, hsum, hle, -⟩ := assemble_accounts none hids (by decide : 1 ≤ 16)
  exact ⟨a, ha, hsum, hle⟩

end ContextAssembler

end CyberNetizen.Cognition
