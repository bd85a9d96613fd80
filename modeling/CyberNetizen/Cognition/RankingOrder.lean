import Mathlib.Analysis.SpecialFunctions.Log.Basic
import CyberNetizen.Cognition.MemoryRanker
import CyberNetizen.Lib.WireText

/-! # The order of the hybrid recall over the reals -/

namespace CyberNetizen.Cognition.HybridMemoryRanker

open Domain Ranking

noncomputable def realMath (round6 : ℝ → ℝ) : ExactMath ℝ := ⟨Real.exp, Real.log, round6⟩

/-- What the store promises of a memory: a UUID, and the checks `ck_memories_confidence` and
`ck_memories_importance`. -/
structure StoredMemory (memory : Memory) : Prop where
  uuid : memory.id < 2 ^ 128
  confidence : 0 ≤ memory.confidence ∧ memory.confidence ≤ 1
  importance : 0 ≤ memory.importance ∧ memory.importance ≤ 1

structure Retrieved (candidates : List RawMemoryCandidate) : Prop where
  stored : ∀ candidate ∈ candidates, StoredMemory candidate.memory
  distinct : (candidates.map fun candidate ↦ candidate.memory.id).Nodup

/-- Some components of a candidate have been raised, and nothing else that is ranked has changed. A
later event is a larger recency. -/
structure Raises (candidate candidate' : RawMemoryCandidate) : Prop where
  id : candidate'.memory.id = candidate.memory.id
  confidence : candidate'.memory.confidence = candidate.memory.confidence
  confirmation : candidate'.memory.confirmation = candidate.memory.confirmation
  fullText : candidate.fullTextScore ≤ candidate'.fullTextScore
  semantic : candidate.semanticScore ≤ candidate'.semanticScore
  recency : candidate.memory.eventAt ≤ candidate'.memory.eventAt
  importance : candidate.memory.importance ≤ candidate'.memory.importance
  relationship : candidate.relationshipScore ≤ candidate'.relationshipScore

variable {round6 : ℝ → ℝ} {evaluatedAt : Datetime} {halfLife : ℚ} {weights : HybridRecallWeights}
  {candidate candidate' : RawMemoryCandidate}

section score

theorem exactUnit_mem (value : ℝ) : 0 ≤ exactUnit value ∧ exactUnit value ≤ 1 :=
  ⟨le_max_left _ _, max_le zero_le_one (min_le_left _ _)⟩

theorem exactUnit_mono {value value' : ℝ} (h : value ≤ value') :
    exactUnit value ≤ exactUnit value' := max_le_max le_rfl (min_le_min le_rfl h)

theorem exactRecency_mono (hhalf : 0 < halfLife) {eventAt eventAt' : Datetime}
    (h : eventAt ≤ eventAt') :
    exactRecency (realMath round6) evaluatedAt eventAt halfLife ≤
      exactRecency (realMath round6) evaluatedAt eventAt' halfLife := by
  have hlog : 0 < Real.log 2 := Real.log_pos one_lt_two
  have hpos : (0 : ℝ) < halfLife := by exact_mod_cast hhalf
  have hage : max 0 (((evaluatedAt : ℝ) - (eventAt' : ℝ)) / (1000000 * 86400)) ≤
      max 0 (((evaluatedAt : ℝ) - (eventAt : ℝ)) / (1000000 * 86400)) := by
    have hcast : (eventAt : ℝ) ≤ (eventAt' : ℝ) := by exact_mod_cast h
    gcongr
  unfold exactRecency realMath
  dsimp only
  apply Real.exp_le_exp.mpr
  apply div_le_div_of_nonneg_right _ hpos.le
  rw [neg_mul, neg_mul, neg_le_neg_iff]
  exact mul_le_mul_of_nonneg_left hage hlog.le

theorem exactRecency_mem (hhalf : 0 < halfLife) (eventAt : Datetime) :
    0 ≤ exactRecency (realMath round6) evaluatedAt eventAt halfLife ∧
      exactRecency (realMath round6) evaluatedAt eventAt halfLife ≤ 1 := by
  have hlog : 0 < Real.log 2 := Real.log_pos one_lt_two
  have hpos : (0 : ℝ) < halfLife := by exact_mod_cast hhalf
  unfold exactRecency realMath
  dsimp only
  refine ⟨(Real.exp_pos _).le, Real.exp_le_one_iff.mpr ?_⟩
  apply div_nonpos_of_nonpos_of_nonneg _ hpos.le
  rw [neg_mul]
  exact neg_nonpos.mpr (mul_nonneg hlog.le (le_max_left _ _))

/-- A mean of values of the unit interval. -/
theorem exactWeighted_mem (hhalf : 0 < halfLife) (h : StoredMemory candidate.memory) :
    0 ≤ exactWeighted (realMath round6) evaluatedAt halfLife weights candidate ∧
      exactWeighted (realMath round6) evaluatedAt halfLife weights candidate ≤ 1 := by
  have hf := exactUnit_mem (candidate.fullTextScore : ℝ)
  have hs := exactUnit_mem (candidate.semanticScore : ℝ)
  have hr := exactUnit_mem (candidate.relationshipScore : ℝ)
  have ht := @exactRecency_mem round6 evaluatedAt halfLife hhalf candidate.memory.eventAt
  have hi : 0 ≤ (candidate.memory.importance : ℝ) ∧ (candidate.memory.importance : ℝ) ≤ 1 := by
    exact_mod_cast h.importance
  have hw : 0 ≤ (weights.fullText : ℝ) ∧ 0 ≤ (weights.semantic : ℝ) ∧ 0 ≤ (weights.recency : ℝ) ∧
      0 ≤ (weights.importance : ℝ) ∧ 0 ≤ (weights.relationship : ℝ) := by
    exact_mod_cast weights.nonnegative
  have hpos : 0 < (weights.fullText : ℝ) + weights.semantic + weights.recency + weights.importance
      + weights.relationship := by exact_mod_cast weights.positive
  obtain ⟨hw₁, hw₂, hw₃, hw₄, hw₅⟩ := hw
  unfold exactWeighted
  constructor
  · apply div_nonneg _ hpos.le
    have h₁ := mul_nonneg hf.1 hw₁
    have h₂ := mul_nonneg hs.1 hw₂
    have h₃ := mul_nonneg ht.1 hw₃
    have h₄ := mul_nonneg hi.1 hw₄
    have h₅ := mul_nonneg hr.1 hw₅
    linarith only [h₁, h₂, h₃, h₄, h₅]
  · apply (div_le_one hpos).mpr
    have h₁ := mul_le_of_le_one_left hw₁ hf.2
    have h₂ := mul_le_of_le_one_left hw₂ hs.2
    have h₃ := mul_le_of_le_one_left hw₃ ht.2
    have h₄ := mul_le_of_le_one_left hw₄ hi.2
    have h₅ := mul_le_of_le_one_left hw₅ hr.2
    linarith only [h₁, h₂, h₃, h₄, h₅]

theorem exactWeighted_mono (hhalf : 0 < halfLife) (h : Raises candidate candidate') :
    exactWeighted (realMath round6) evaluatedAt halfLife weights candidate ≤
      exactWeighted (realMath round6) evaluatedAt halfLife weights candidate' := by
  have hw : 0 ≤ (weights.fullText : ℝ) ∧ 0 ≤ (weights.semantic : ℝ) ∧ 0 ≤ (weights.recency : ℝ) ∧
      0 ≤ (weights.importance : ℝ) ∧ 0 ≤ (weights.relationship : ℝ) := by
    exact_mod_cast weights.nonnegative
  have hpos : 0 < (weights.fullText : ℝ) + weights.semantic + weights.recency + weights.importance
      + weights.relationship := by exact_mod_cast weights.positive
  obtain ⟨hw₁, hw₂, hw₃, hw₄, hw₅⟩ := hw
  have hf : exactUnit (candidate.fullTextScore : ℝ) ≤ exactUnit (candidate'.fullTextScore : ℝ) :=
    exactUnit_mono (by exact_mod_cast h.fullText)
  have hs : exactUnit (candidate.semanticScore : ℝ) ≤ exactUnit (candidate'.semanticScore : ℝ) :=
    exactUnit_mono (by exact_mod_cast h.semantic)
  have hr : exactUnit (candidate.relationshipScore : ℝ) ≤
      exactUnit (candidate'.relationshipScore : ℝ) :=
    exactUnit_mono (by exact_mod_cast h.relationship)
  have ht := @exactRecency_mono round6 evaluatedAt halfLife hhalf _ _ h.recency
  have hi : (candidate.memory.importance : ℝ) ≤ (candidate'.memory.importance : ℝ) := by
    exact_mod_cast h.importance
  unfold exactWeighted
  apply div_le_div_of_nonneg_right _ hpos.le
  have h₁ := mul_le_mul_of_nonneg_right hf hw₁
  have h₂ := mul_le_mul_of_nonneg_right hs hw₂
  have h₃ := mul_le_mul_of_nonneg_right ht hw₃
  have h₄ := mul_le_mul_of_nonneg_right hi hw₄
  have h₅ := mul_le_mul_of_nonneg_right hr hw₅
  linarith only [h₁, h₂, h₃, h₄, h₅]

theorem confidenceFactor_nonneg (h : StoredMemory candidate.memory) :
    0 ≤ 45 / 100 + (candidate.memory.confidence : ℝ) * (55 / 100) := by
  have hc : 0 ≤ (candidate.memory.confidence : ℝ) := by exact_mod_cast h.confidence.1
  positivity

theorem exactScore_mem (hhalf : 0 < halfLife) (h : StoredMemory candidate.memory) :
    0 ≤ exactScore (realMath round6) evaluatedAt halfLife weights candidate ∧
      exactScore (realMath round6) evaluatedAt halfLife weights candidate ≤ 1 := by
  have hweighted := @exactWeighted_mem round6 evaluatedAt halfLife weights candidate hhalf h
  unfold exactScore
  refine ⟨le_min zero_le_one (add_nonneg ?_ ?_), min_le_left _ _⟩
  · exact mul_nonneg hweighted.1 (confidenceFactor_nonneg h)
  · split <;> positivity

theorem exactScore_mono (hhalf : 0 < halfLife) (hstored : StoredMemory candidate.memory)
    (h : Raises candidate candidate') :
    exactScore (realMath round6) evaluatedAt halfLife weights candidate ≤
      exactScore (realMath round6) evaluatedAt halfLife weights candidate' := by
  have hweighted := @exactWeighted_mono round6 evaluatedAt halfLife weights _ _ hhalf h
  unfold exactScore
  rw [h.confidence, h.confirmation]
  apply min_le_min le_rfl
  apply add_le_add _ le_rfl
  exact mul_le_mul_of_nonneg_right hweighted (confidenceFactor_nonneg hstored)

end score

section order

theorem rankKey_id {a b : ExactRecall ℝ} (ha : a.memory.id < 2 ^ 128) (hb : b.memory.id < 2 ^ 128)
    (h : rankKey a = rankKey b) : a.memory.id = b.memory.id := by
  unfold rankKey at h
  have htext : uuidString a.memory.id = uuidString b.memory.id :=
    (Prod.mk.inj (toLex.injective (Prod.mk.inj (toLex.injective h)).2)).2
  exact WireText.uuidText_inj ha hb (String.ofList_injective htext)

theorem rankKey_mono (hhalf : 0 < halfLife) (hstored : StoredMemory candidate.memory)
    (h : Raises candidate candidate') :
    rankKey (exactRecallOf (realMath round6) evaluatedAt halfLife weights candidate) ≤
      rankKey (exactRecallOf (realMath round6) evaluatedAt halfLife weights candidate') := by
  have hscore := @exactScore_mono round6 evaluatedAt halfLife weights _ _ hhalf hstored h
  have hid : uuidString candidate'.memory.id = uuidString candidate.memory.id := by rw [h.id]
  unfold rankKey exactRecallOf
  dsimp only
  rw [Prod.Lex.toLex_le_toLex, Prod.Lex.toLex_le_toLex]
  rcases hscore.lt_or_eq with hlt | heq
  · exact .inl hlt
  · refine .inr ⟨heq, ?_⟩
    rcases h.recency.lt_or_eq with hlt | heq'
    · exact .inl hlt
    · exact .inr ⟨heq', hid.ge⟩

theorem nodup_rankKey {candidates : List RawMemoryCandidate} (h : Retrieved candidates) :
    ((candidates.map (exactRecallOf (realMath round6) evaluatedAt halfLife weights)).map
      rankKey).Nodup := by
  rw [List.map_map]
  apply List.Nodup.map_on _ h.distinct.of_map
  intro a ha b hb hkey
  have hid := rankKey_id (h.stored a ha).uuid (h.stored b hb).uuid hkey
  exact List.inj_on_of_nodup_map h.distinct ha hb hid

theorem exactRank_ok {math : ExactMath ℝ} {candidates : List RawMemoryCandidate} {limit : ℤ}
    (hlimit : 1 ≤ limit) (hhalf : 0 < halfLife) :
    exactRank math candidates evaluatedAt limit halfLife weights =
      .ok ((sortedByDesc rankKey (candidates.map
        (exactRecallOf math evaluatedAt halfLife weights))).take limit.toNat) := by
  unfold exactRank
  rw [if_neg (by omega), if_neg (not_le.mpr hhalf)]

theorem Retrieved.replace {xs ys : List RawMemoryCandidate}
    (h : Retrieved (xs ++ candidate :: ys)) (hid : candidate'.memory.id = candidate.memory.id)
    (hstored : StoredMemory candidate'.memory) : Retrieved (xs ++ candidate' :: ys) where
  stored c hc := by
    rcases List.mem_append.mp hc with hc | hc
    · exact h.stored c (List.mem_append_left _ hc)
    · rcases List.mem_cons.mp hc with rfl | hc
      · exact hstored
      · exact h.stored c (List.mem_append_right _ (List.mem_cons_of_mem _ hc))
  distinct := by
    have hsame : (xs ++ candidate' :: ys).map (fun c ↦ c.memory.id) =
        (xs ++ candidate :: ys).map fun c ↦ c.memory.id := by
      simp [hid]
    rw [hsame]
    exact h.distinct

/-- The recall of stored memories has scores in the unit interval, it is the first part of all
candidates in one strict order, it does not depend on the order of the candidates, and a candidate
whose components are raised moves to no later place. -/
theorem exactRank_order (round6 : ℝ → ℝ) (evaluatedAt : Datetime) (halfLife : ℚ)
    (weights : HybridRecallWeights) {limit : ℤ} {candidates : List RawMemoryCandidate}
    (hcandidates : Retrieved candidates) (hlimit : 1 ≤ limit) (hhalf : 0 < halfLife) :
    ∃ items,
      exactRank (realMath round6) candidates evaluatedAt limit halfLife weights = .ok items ∧
      (∀ item ∈ items, 0 ≤ item.score ∧ item.score ≤ 1) ∧
      (∃ rest, (items ++ rest).Perm
          (candidates.map (exactRecallOf (realMath round6) evaluatedAt halfLife weights)) ∧
        (items ++ rest).Pairwise (fun a b ↦ rankKey b < rankKey a) ∧
        items.length = min limit.toNat candidates.length) ∧
      (∀ candidates', candidates.Perm candidates' →
        exactRank (realMath round6) candidates' evaluatedAt limit halfLife weights = .ok items) ∧
      ∀ xs candidate candidate' ys, candidates = xs ++ candidate :: ys →
        Raises candidate candidate' → StoredMemory candidate'.memory →
        ∃ items', exactRank (realMath round6) (xs ++ candidate' :: ys) evaluatedAt limit halfLife
            weights = .ok items' ∧
          ∀ i : ℕ, items[i]? = some
              (exactRecallOf (realMath round6) evaluatedAt halfLife weights candidate) →
            ∃ j ≤ i, items'[j]? = some
              (exactRecallOf (realMath round6) evaluatedAt halfLife weights candidate') := by
  have hnodup := @nodup_rankKey round6 evaluatedAt halfLife weights _ hcandidates
  refine ⟨_, exactRank_ok hlimit hhalf, ?_, ?_, ?_, ?_⟩
  · intro item hitem
    have hmem := (sortedByDesc_perm _ _).mem_iff.mp (List.mem_of_mem_take hitem)
    obtain ⟨candidate, hcandidate, rfl⟩ := List.mem_map.mp hmem
    exact exactScore_mem hhalf (hcandidates.stored candidate hcandidate)
  · refine ⟨(sortedByDesc rankKey (candidates.map
      (exactRecallOf (realMath round6) evaluatedAt halfLife weights))).drop limit.toNat, ?_, ?_, ?_⟩
    · rw [List.take_append_drop]
      exact sortedByDesc_perm _ _
    · rw [List.take_append_drop]
      exact pairwise_sortedByDesc hnodup
    · rw [List.length_take, (sortedByDesc_perm _ _).length_eq, List.length_map]
  · intro candidates' hperm
    rw [exactRank_ok hlimit hhalf]
    have hsorted := sortedByDesc_eq (hperm.map
      (exactRecallOf (realMath round6) evaluatedAt halfLife weights)) fun a ha b hb hkey ↦
        List.inj_on_of_nodup_map hnodup ha hb hkey
    rw [hsorted]
  · rintro xs candidate candidate' ys rfl hraises hstored'
    have hstored := hcandidates.stored candidate (by simp)
    have hnodup' := @nodup_rankKey round6 evaluatedAt halfLife weights _
      (hcandidates.replace hraises.id hstored')
    refine ⟨_, exactRank_ok hlimit hhalf, fun i hi ↦ ?_⟩
    rw [List.getElem?_take] at hi
    by_cases hlt : i < limit.toNat
    · rw [if_pos hlt] at hi
      have hplace := place_sortedByDesc hnodup hi
      have hplace' := exists_place (List.mem_map_of_mem (f :=
        exactRecallOf (realMath round6) evaluatedAt halfLife weights)
          (List.mem_append_right xs (List.mem_cons_self (a := candidate') (l := ys)))) hnodup'
      have hle := @place_mono _ _ _ rankKey
        (xs.map (exactRecallOf (realMath round6) evaluatedAt halfLife weights))
        (ys.map (exactRecallOf (realMath round6) evaluatedAt halfLife weights)) _ _
        (@rankKey_mono round6 evaluatedAt halfLife weights _ _ hhalf hstored hraises)
      rw [← List.map_cons, ← List.map_append, ← List.map_cons, ← List.map_append, ← hplace] at hle
      refine ⟨_, hle, ?_⟩
      rw [List.getElem?_take, if_pos (lt_of_le_of_lt hle hlt)]
      exact hplace'
    · rw [if_neg hlt] at hi
      exact nomatch hi

def memoryOf (id : UUID) (eventAt : Datetime) : Memory where
  id
  lineageId := id
  tenantId := 1
  agentId := 1
  userId := none
  conversationId := none
  episodeId := none
  kind := .semantic
  visibility := .tenant
  content := some "m"
  eventAt
  confidence := 1
  importance := 1 / 2
  emotionalWeight := 0
  sensitivity := .normal
  confirmation := .confirmed
  status := .active
  version := 1
  embeddingVersion := none
  createdBy := 1
  createdAt := eventAt
  updatedAt := eventAt

theorem textOnly_nonnegative :
    (0 : ℚ) ≤ 1 ∧ (0 : ℚ) ≤ 0 ∧ (0 : ℚ) ≤ 0 ∧ (0 : ℚ) ≤ 0 ∧ (0 : ℚ) ≤ 0 := by norm_num

theorem textOnly_positive : (0 : ℚ) < 1 + 0 + 0 + 0 + 0 := by norm_num

def textOnly : HybridRecallWeights := ⟨1, 0, 0, 0, 0, textOnly_nonnegative, textOnly_positive⟩

def memoryPair (score : ℚ) : List RawMemoryCandidate :=
  [⟨memoryOf 1 0, 1, 0, 0⟩, ⟨memoryOf 2 5, score, 1, 0⟩]

/-- Both are recalled, the better one first, and a raised one comes no later. -/
theorem exactRank_order_pair :
    ∃ items items', exactRank (realMath id) (memoryPair 0) 10 2 7 textOnly = .ok items ∧
      exactRank (realMath id) (memoryPair 1) 10 2 7 textOnly = .ok items' ∧
      (∀ item ∈ items, 0 ≤ item.score ∧ item.score ≤ 1) ∧
      items.Pairwise (fun a b ↦ rankKey b < rankKey a) ∧ items.length = 2 ∧
      ∀ i : ℕ, items[i]? =
          some (exactRecallOf (realMath id) 10 7 textOnly ⟨memoryOf 2 5, 0, 1, 0⟩) →
        ∃ j ≤ i, items'[j]? =
          some (exactRecallOf (realMath id) 10 7 textOnly ⟨memoryOf 2 5, 1, 1, 0⟩) := by
  have hstored : ∀ id eventAt, id < 2 ^ 128 → StoredMemory (memoryOf id eventAt) :=
    fun id eventAt hid ↦ ⟨hid, by norm_num [memoryOf], by norm_num [memoryOf]⟩
  have hretrieved : Retrieved (memoryPair 0) := by
    refine ⟨?_, by simp [memoryPair, memoryOf]⟩
    rintro candidate (_ | ⟨_, _ | ⟨_, h⟩⟩)
    · exact hstored 1 0 (by norm_num)
    · exact hstored 2 5 (by norm_num)
    · exact nomatch h
  obtain ⟨items, hitems, hscores, ⟨rest, -, hordered, hlength⟩, -, hraised⟩ :=
    exactRank_order id 10 7 textOnly hretrieved (by norm_num : (1 : ℤ) ≤ 2) (by norm_num)
  obtain ⟨items', hitems', hplace⟩ := hraised [⟨memoryOf 1 0, 1, 0, 0⟩] ⟨memoryOf 2 5, 0, 1, 0⟩
    ⟨memoryOf 2 5, 1, 1, 0⟩ [] rfl
      ⟨rfl, rfl, rfl, by norm_num, le_refl _, le_refl _, le_refl _, le_refl _⟩
    (hstored 2 5 (by norm_num))
  exact ⟨items, items', hitems, hitems', hscores, hordered.sublist (List.sublist_append_left _ _),
    hlength, hplace⟩

end order

end CyberNetizen.Cognition.HybridMemoryRanker
