import CyberNetizen.Cognition.RequiredFirst
import CyberNetizen.Cognition.Runtime
import CyberNetizen.Lib.Checks

/-! # The message of the event in the assembled context -/

namespace CyberNetizen.Cognition.CurrentMessage

open Application (strip)
open Checks (bind_eq_ok bind_of_ok)
open AnthropomorphicCognitiveRuntime ContextAssembler ContextFragment Domain
  HierarchicalContextCompressor Packing

section statement

variable {K : Type} [Field K] [LinearOrder K]

structure Limits (context : CognitiveContext K) : Prop where
  halfLife : 1 ≤ context.affectHalfLifeSeconds
  recent : 1 ≤ context.contextRecentMessageLimit
  chunk : 2 ≤ context.contextSummaryChunkSize ∧ context.contextSummaryChunkSize ≤ 64
  levels : 1 ≤ context.contextSummaryMaxLevels ∧ context.contextSummaryMaxLevels ≤ 8
  summary : 1 ≤ context.contextSummaryTokenBudget
  budget : 1 ≤ context.contextTokenBudget

def asFragment : GivenFragment → Option ContextFragment
  | .fragment fragment => some fragment
  | .text _ => none

def callerFragments (context : CognitiveContext K) : List ContextFragment :=
  context.contextFragments.filterMap asFragment

def carriers (event : AgentEvent) (context : CognitiveContext K) : List ContextFragment :=
  (callerFragments context).filter (isEventMessage event.eventId)

def Blank (event : AgentEvent) : Prop :=
  ∃ text, event.text = some text ∧ text ≠ "" ∧ strip text = ""

/-- Where the message of the event has to be in the context. -/
structure Asked (event : AgentEvent) (context : CognitiveContext K) : Prop where
  shown : shownText event ≠ ""
  ids : ((callerFragments context).map (·.fragmentId)).Nodup
  required : ∀ f ∈ callerFragments context, f.required = true →
    isEventMessage event.eventId f = true
  one : ((callerFragments context).filter (·.required)).length ≤ 1
  budget : 64 ≤ context.contextTokenBudget

/-- The assembled context has one fragment with the source of the event, and this is one of the
given fragments with that source, whole or cut. -/
def Once (event : AgentEvent) (fragments : List ContextFragment) (a : ContextAssembly) : Prop :=
  ∃ g, a.fragments.filter (isEventMessage event.eventId) = [g] ∧
    ∃ f ∈ fragments, isEventMessage event.eventId f = true ∧ (g = f ∨ IsTruncation f g)

def handedOn (context : CognitiveContext K) (fragments : List ContextFragment)
    (f : ContextFragment) : Bool :=
  !context.contextSummaryEnabled || !isMessage f ||
    decide (f.fragmentId ∈ (recent fragments context.contextRecentMessageLimit).map (·.fragmentId))

variable (unicode : Unicode) (sha256Hex : String → String)

def compressed (context : CognitiveContext K) (fragments : List ContextFragment) :
    List ContextFragment :=
  match compress sha256Hex (redactCredentials unicode) fragments context.contextSummaryEnabled
    context.contextRecentMessageLimit context.contextSummaryChunkSize
    context.contextSummaryMaxLevels context.contextSummaryTokenBudget with
  | .ok compression => compression.fragments
  | .error _ => []

/-- The compressor hands the fragment on, and it is required or fits into what those ranked before
it leave of the budget. -/
def Survives (context : CognitiveContext K) (fragments : List ContextFragment)
    (f : ContextFragment) : Prop :=
  handedOn context fragments f = true ∧
    (f.required = true ∨
      f.tokens ≤ leftover tokens shrink context.contextTokenBudget
        ((ranked (compressed unicode sha256Hex context fragments)).takeWhile (· ≠ f)))

variable [IsStrictOrderedRing K] (round6 : ℚ → ℚ) (decay : Decay K)

def KeepsCurrentMessage (event : AgentEvent) (context : CognitiveContext K) : Prop :=
  (∃ d, run unicode sha256Hex round6 decay event context = .ok d) ∧
    (Asked event context → ∃ d a fragments,
      run unicode sha256Hex round6 decay event context = .ok d ∧ d.context = some a ∧
        normalizeFragments event context.contextFragments = .ok fragments ∧
        Once event fragments a)

end statement

section summaries

variable {sha256Hex redact : String → String} {chunkSize level : ℕ} {hchunk : 0 < chunkSize}
  {fragments : List ContextFragment}

def SummaryLike (f : ContextFragment) : Prop :=
  f.required = false ∧ ∃ source, f.sourceId = some source ∧ source.toList.length ≤ 20

theorem node_summaryLike (hlevel : 0 < level) (ids highlights : List String)
    (hids : 0 < ids.length) (ordinal : ℤ) :
    SummaryLike (node sha256Hex level hlevel ids highlights hids ordinal).fragment := by
  refine ⟨rfl, _, rfl, ?_⟩
  unfold nodeDigest
  rw [String.toList_ofList]
  exact List.length_take_le _ _

theorem levelNodes_summaryLike {n : SummaryNode}
    (h : n ∈ levelNodes sha256Hex redact chunkSize hchunk fragments level) :
    SummaryLike n.fragment := by
  cases level with
  | zero => exact absurd h List.not_mem_nil
  | succ level =>
    cases level with
    | zero =>
      obtain ⟨group, _, rfl⟩ := List.mem_pmap.mp h
      apply node_summaryLike
    | succ level =>
      obtain ⟨group, _, rfl⟩ := List.mem_pmap.mp h
      apply node_summaryLike

theorem emitted_summaryLike {tokenBudget : ℕ} {emitted : List SummaryNode} {n : SummaryNode}
    (h : Emits tokenBudget (levelNodes sha256Hex redact chunkSize hchunk fragments level) emitted)
    (hn : n ∈ emitted) : SummaryLike n.fragment := by
  rcases h with hsub | ⟨-, latest, hlast, fragment, htrunc, rfl⟩
  · exact levelNodes_summaryLike (hsub.subset hn)
  · obtain ⟨hrequired, source, hsource, hlength⟩ :=
      levelNodes_summaryLike (List.mem_of_getLast? hlast)
    rw [List.mem_singleton.mp hn]
    obtain ⟨-, -, -, -, hreq, -, hsrc, -⟩ := htrunc.rest
    exact ⟨hreq.trans hrequired, source, hsrc.trans hsource, hlength⟩

theorem SummaryLike.not_event {f : ContextFragment} (h : SummaryLike f) (eventId : UUID) :
    isEventMessage eventId f = false := by
  obtain ⟨-, source, hsource, hlength⟩ := h
  unfold isEventMessage
  rw [decide_eq_false_iff_not, hsource]
  intro heq
  obtain rfl := Option.some.inj heq
  unfold uuidString at hlength
  rw [String.toList_ofList, WireText.length_uuidText] at hlength
  omega

end summaries

section compression

variable {K : Type} [Field K] [LinearOrder K] (unicode : Unicode) (sha256Hex : String → String)
  {context : CognitiveContext K}

/-- The fragments that are not handed on make room for summaries. -/
theorem compress_ok (h : Limits context) (fragments : List ContextFragment) :
    ∃ out, compress sha256Hex (redactCredentials unicode) fragments context.contextSummaryEnabled
        context.contextRecentMessageLimit context.contextSummaryChunkSize
        context.contextSummaryMaxLevels context.contextSummaryTokenBudget = .ok out ∧
      ∃ nodes, out.fragments.Perm (fragments.filter (handedOn context fragments) ++ nodes) ∧
        ∀ n ∈ nodes, SummaryLike n := by
  have hrecent := h.recent
  have hsummary := h.summary
  unfold compress
  rw [if_neg (by omega : ¬context.contextRecentMessageLimit < 1), dif_pos h.chunk,
    if_neg (not_not.mpr h.levels), if_neg (by omega : ¬context.contextSummaryTokenBudget < 1)]
  dsimp only
  have hfilter : context.contextSummaryEnabled = true →
      fragments.filter (handedOn context fragments) =
        passthrough fragments (recent fragments context.contextRecentMessageLimit) := by
    intro henabled
    unfold handedOn passthrough
    rw [henabled]
    rfl
  by_cases hoff : (!context.contextSummaryEnabled ||
      decide ((fragments.filter isMessage).length ≤ context.contextRecentMessageLimit)) = true
  · rw [if_pos hoff]
    refine ⟨_, rfl, [], ?_, fun n hn ↦ absurd hn List.not_mem_nil⟩
    rw [List.append_nil]
    dsimp only
    cases henabled : context.contextSummaryEnabled with
    | true =>
      rw [henabled, Bool.not_true, Bool.false_or, decide_eq_true_eq] at hoff
      rw [hfilter henabled, passthrough_all hoff]
    | false =>
      rw [List.filter_eq_self.mpr]
      intro f _
      unfold handedOn
      rw [henabled]
      rfl
  · rw [if_neg hoff]
    rw [Bool.or_eq_true, not_or, Bool.not_eq_true, Bool.not_eq_false'] at hoff
    refine ⟨_, rfl, ?_⟩
    rw [hfilter hoff.1]
    have hleaf : leafNodes sha256Hex (redactCredentials unicode) context.contextSummaryChunkSize
        (Nat.lt_of_lt_of_le Nat.zero_lt_two h.chunk.1)
        (historical fragments context.contextRecentMessageLimit) = levelNodes sha256Hex
          (redactCredentials unicode) context.contextSummaryChunkSize
          (Nat.lt_of_lt_of_le Nat.zero_lt_two h.chunk.1)
          (historical fragments context.contextRecentMessageLimit) 1 := rfl
    obtain ⟨-, -, hraised⟩ := raiseLevels_eq context.contextSummaryTokenBudget Nat.one_pos
      h.levels.1 hleaf
    unfold compressHistory
    dsimp only
    rw [hraised]
    refine ⟨_, List.perm_insertionSort _ _, ?_⟩
    intro f hf
    obtain ⟨n, hn, rfl⟩ := List.mem_map.mp hf
    exact emitted_summaryLike (fitNodes_spec _ _).1 hn

theorem compressed_perm (h : Limits context) (fragments : List ContextFragment) :
    ∃ nodes, (compressed unicode sha256Hex context fragments).Perm
        (fragments.filter (handedOn context fragments) ++ nodes) ∧
      ∀ n ∈ nodes, SummaryLike n := by
  obtain ⟨out, hout, hnodes⟩ := compress_ok unicode sha256Hex h fragments
  unfold compressed
  rw [hout]
  exact hnodes

end compression

section given

variable {K : Type} [Field K] [LinearOrder K] {event : AgentEvent} {context : CognitiveContext K}

/-- A bare text carries no source. -/
theorem filter_normalizeFragment (eventId : UUID) (given : List GivenFragment) (start : ℕ) :
    ((given.zipIdx start).filterMap fun p ↦ normalizeFragment p.2 p.1).filter
        (isEventMessage eventId) =
      (given.filterMap asFragment).filter (isEventMessage eventId) := by
  induction given generalizing start with
  | nil => rfl
  | cons g given ih =>
    have hrest := ih (start + 1)
    rw [List.zipIdx_cons, List.filterMap_cons, List.filterMap_cons]
    cases g with
    | fragment f =>
      have hnormal : normalizeFragment start (.fragment f) = some f := rfl
      dsimp only [asFragment]
      rw [hnormal]
      dsimp only
      rw [List.filter_cons, List.filter_cons, hrest]
    | text text =>
      dsimp only [asFragment]
      rw [← hrest]
      cases hnormal : normalizeFragment start (.text text) with
      | none => rfl
      | some f =>
        dsimp only
        rw [List.filter_cons_of_neg]
        unfold normalizeFragment at hnormal
        dsimp only at hnormal
        split at hnormal
        · cases hnormal
        · obtain rfl := Option.some.inj hnormal
          exact Bool.noConfusion

theorem filter_givenFragments :
    (givenFragments context.contextFragments).filter (isEventMessage event.eventId) =
      carriers event context :=
  filter_normalizeFragment event.eventId context.contextFragments 0

theorem required_givenFragments {f : ContextFragment}
    (h : f ∈ givenFragments context.contextFragments) (hrequired : f.required = true) :
    f ∈ callerFragments context := by
  obtain ⟨⟨g, index⟩, hg, hnormal⟩ := List.mem_filterMap.mp h
  have hmem : g ∈ context.contextFragments := List.fst_mem_of_mem_zipIdx hg
  cases g with
  | fragment f' =>
    obtain rfl := Option.some.inj hnormal
    exact List.mem_filterMap.mpr ⟨_, hmem, rfl⟩
  | text text =>
    dsimp only [normalizeFragment] at hnormal
    split at hnormal
    · cases hnormal
    · obtain rfl := Option.some.inj hnormal
      exact absurd hrequired Bool.noConfusion

theorem any_givenFragments :
    (givenFragments context.contextFragments).any (isEventMessage event.eventId) = false ↔
      carriers event context = [] := by
  rw [← filter_givenFragments, List.filter_eq_nil_iff, List.any_eq_false]

theorem normalize_of_carriers (h : carriers event context ≠ []) :
    normalizeFragments event context.contextFragments =
      .ok (givenFragments context.contextFragments) := by
  have hany : (givenFragments context.contextFragments).any (isEventMessage event.eventId) ≠ false :=
    fun hnone ↦ h (any_givenFragments.mp hnone)
  unfold normalizeFragments
  dsimp only
  cases event.text with
  | none => rfl
  | some text =>
    dsimp only
    rw [if_neg fun hcond ↦ hany hcond.2]

theorem normalize_of_blank (h : carriers event context = []) (hblank : Blank event) :
    normalizeFragments event context.contextFragments = .error "上下文片段 ID 与内容不能为空" := by
  obtain ⟨text, htext, hne, hstrip⟩ := hblank
  unfold normalizeFragments
  dsimp only
  rw [htext]
  dsimp only
  rw [if_pos ⟨hne, any_givenFragments.mpr h⟩]
  unfold eventFragment
  rw [dif_pos hstrip]
  rfl

theorem normalize_of_empty (htext : event.text.getD "" = "") :
    normalizeFragments event context.contextFragments =
      .ok (givenFragments context.contextFragments) := by
  unfold normalizeFragments
  dsimp only
  cases hcase : event.text with
  | none => rfl
  | some text =>
    rw [hcase, Option.getD_some] at htext
    dsimp only
    rw [if_neg fun hcond ↦ hcond.1 htext]

/-- Without a carrier the text of the event becomes a required message at the end. -/
theorem normalize_of_shown (h : carriers event context = []) (hshown : shownText event ≠ "") :
    ∃ f, normalizeFragments event context.contextFragments =
        .ok (givenFragments context.contextFragments ++ [f]) ∧
      isEventMessage event.eventId f = true ∧ f.required = true ∧ isMessage f = true := by
  unfold shownText at hshown
  unfold normalizeFragments
  dsimp only
  cases hcase : event.text with
  | none =>
    rw [hcase] at hshown
    exact absurd rfl hshown
  | some text =>
    rw [hcase, Option.getD_some] at hshown
    dsimp only
    rw [if_pos]
    · unfold eventFragment
      rw [dif_neg hshown]
      exact ⟨_, rfl, decide_eq_true rfl, rfl, rfl⟩
    · refine ⟨?_, any_givenFragments.mpr h⟩
      rintro rfl
      exact hshown rfl

/-- Normalization fails only on a blank text without a carrier. -/
theorem normalize_ok_iff :
    (∃ fragments, normalizeFragments event context.contextFragments = .ok fragments) ↔
      (Blank event → carriers event context ≠ []) := by
  by_cases hcarriers : carriers event context = []
  · by_cases hblank : Blank event
    · rw [normalize_of_blank hcarriers hblank]
      exact iff_of_false (fun ⟨_, h⟩ ↦ (nomatch h)) fun h ↦ h hblank hcarriers
    · refine iff_of_true ?_ fun h ↦ absurd h hblank
      by_cases hshown : shownText event = ""
      · refine ⟨_, normalize_of_empty ?_⟩
        by_contra hne
        refine hblank ⟨event.text.getD "", ?_, hne, hshown⟩
        cases hcase : event.text with
        | none =>
          rw [hcase] at hne
          exact absurd rfl hne
        | some text => rfl
      · obtain ⟨f, hf, -⟩ := normalize_of_shown hcarriers hshown
        exact ⟨_, hf⟩
  · exact iff_of_true ⟨_, normalize_of_carriers hcarriers⟩ fun _ ↦ hcarriers

end given

section assembly

variable {tokenBudget : ℕ} {l : List ContextFragment}

/-- Whether a fragment is placed is decided by what those ranked before it leave. -/
theorem placed_iff_leftover {c : ContextFragment} (hc : l.count c = 1) :
    (∃ fate, (c, fate) ∈ fatesOf tokenBudget l ∧ packed (c, fate) ≠ none) ↔
      c.tokens ≤ leftover tokens shrink tokenBudget ((ranked l).takeWhile (· ≠ c)) ∨
        shrink (leftover tokens shrink tokenBudget ((ranked l).takeWhile (· ≠ c))) c ≠ none := by
  have hperm : (ranked l).Perm l := l.perm_insertionSort _
  have hmem : c ∈ ranked l := hperm.mem_iff.mpr (List.count_pos_iff.mp (by omega))
  have hcount : (ranked l).count c = 1 := (hperm.count_eq c).trans hc
  obtain ⟨after, hsplit⟩ : ∃ after, ranked l = (ranked l).takeWhile (· ≠ c) ++ c :: after := by
    have hdrop := List.takeWhile_append_dropWhile (p := fun f ↦ decide (f ≠ c)) (l := ranked l)
    have hne : (ranked l).dropWhile (· ≠ c) ≠ [] := by
      intro hnil
      rw [List.dropWhile_eq_nil_iff] at hnil
      exact absurd (hnil c hmem) (by simp)
    have hhead := List.head_dropWhile_not (fun f ↦ decide (f ≠ c)) hne
    refine ⟨((ranked l).dropWhile (· ≠ c)).tail, ?_⟩
    rw [decide_eq_false_iff_not, not_not] at hhead
    conv_lhs => rw [← hdrop, ← List.cons_head_tail hne, hhead]
  have hbefore : c ∉ (ranked l).takeWhile (· ≠ c) := by
    intro hin
    exact absurd (List.mem_takeWhile_imp hin) (by simp)
  generalize (ranked l).takeWhile (· ≠ c) = before at hsplit hbefore ⊢
  have hafter : c ∉ after := by
    intro hin
    rw [hsplit, List.count_append, List.count_cons_self] at hcount
    have := List.count_pos_iff.mpr hin
    omega
  obtain ⟨rest, hrest⟩ := @fates_at ContextFragment tokens shrink tokenBudget before after c
    shrink_tokens_le
  have hfates := hrest
  rw [← hsplit] at hfates
  have hlater : rest.map Prod.fst = after := by
    have hmap := congrArg (List.map Prod.fst) hrest
    rw [map_fst_fates, List.map_append, map_fst_fates, List.map_cons] at hmap
    exact (List.cons.inj (List.append_cancel_left hmap)).2.symm
  unfold fatesOf
  rw [hfates]
  generalize leftover tokens shrink tokenBudget before = left
  constructor
  · rintro ⟨fate, hin, hpacked⟩
    rcases List.mem_append.mp hin with hin | hin
    · exact absurd (mem_of_mem_fates hin) hbefore
    · rcases List.mem_cons.mp hin with heq | hin
      · by_cases hfits : c.tokens ≤ left
        · exact .inl hfits
        · refine .inr fun hnone ↦ hpacked ?_
          rw [if_neg hfits, hnone] at heq
          rw [heq]
          rfl
      · exact absurd (hlater ▸ List.mem_map_of_mem (f := Prod.fst) hin) hafter
  · intro hroom
    refine ⟨_, List.mem_append_right _ List.mem_cons_self, ?_⟩
    by_cases hfits : c.tokens ≤ left
    · rw [if_pos hfits]
      exact Option.some_ne_none c
    · rw [if_neg hfits]
      cases hshrink : shrink left c with
      | some b => exact Option.some_ne_none b
      | none => exact absurd hshrink (hroom.resolve_left hfits)

theorem takeWhile_required {c : ContextFragment} (hc : c ∈ l) (hrequired : c.required = true)
    (honly : ∀ f ∈ l, f.required = true → f = c) : (ranked l).takeWhile (· ≠ c) = [] := by
  have hmem : c ∈ requiredRanked l := mem_requiredRanked.mpr ⟨hc, hrequired⟩
  rw [ranked_eq]
  cases hranked : requiredRanked l with
  | nil =>
    rw [hranked] at hmem
    exact absurd hmem List.not_mem_nil
  | cons f rest =>
    have hf : f ∈ requiredRanked l := hranked ▸ List.mem_cons_self
    obtain ⟨hin, hreq⟩ := mem_requiredRanked.mp hf
    obtain rfl := honly f hin hreq
    rw [List.cons_append, List.takeWhile_cons_of_neg (by simp)]

variable {p : ContextFragment → Bool}

/-- One fragment of a kind is selected exactly if one of them is placed. -/
theorem length_selected_eq_one_iff (tokenBudget : ℕ) (hcut : ∀ f g, IsTruncation f g → p g = p f)
    (hnodup : (l.filter p).Nodup) :
    (((fatesOf tokenBudget l).filterMap packed).filter p).length = 1 ↔
      ∃! c, (c ∈ l ∧ p c = true) ∧
        ∃ fate, (c, fate) ∈ fatesOf tokenBudget l ∧ packed (c, fate) ≠ none := by
  have hkind : ∀ x ∈ fatesOf tokenBudget l, ∀ g, packed x = some g → p g = p x.1 := by
    intro x hx g hg
    obtain ⟨-, ⟨rfl, -⟩ | ⟨-, -, htrunc, -⟩⟩ := id_of_packed hx hg
    · rfl
    · exact hcut _ _ htrunc
  have hswap : ((fatesOf tokenBudget l).filterMap packed).filter p =
      ((fatesOf tokenBudget l).filter fun x ↦ p x.1).filterMap packed := by
    generalize fatesOf tokenBudget l = f at hkind
    induction f with
    | nil => rfl
    | cons x f ih =>
      have hrest := ih fun y hy ↦ hkind y (List.mem_cons_of_mem x hy)
      have hx := hkind x List.mem_cons_self
      cases hpacked : packed x with
      | none =>
        rw [List.filterMap_cons_none hpacked, hrest, List.filter_cons]
        split
        · rw [List.filterMap_cons_none hpacked]
        · rfl
      | some g =>
        rw [List.filterMap_cons_some hpacked, List.filter_cons, List.filter_cons, hx g hpacked, hrest]
        split
        · rw [List.filterMap_cons_some hpacked]
        · rfl
  have hitems : (((fatesOf tokenBudget l).filter fun x ↦ p x.1).map Prod.fst).Nodup := by
    have hfilter : ((fatesOf tokenBudget l).filter fun x ↦ p x.1).map Prod.fst =
        ((fatesOf tokenBudget l).map Prod.fst).filter p := by
      rw [List.filter_map]
      rfl
    rw [hfilter]
    exact ((map_fst_fatesOf tokenBudget l).filter p).nodup_iff.mpr hnodup
  rw [hswap, length_packed_eq_one_iff hitems]
  refine existsUnique_congr fun c ↦ ?_
  simp only [List.mem_filter]
  constructor
  · rintro ⟨fate, ⟨hin, hp⟩, hpacked⟩
    exact ⟨⟨(map_fst_fatesOf tokenBudget l).mem_iff.mp (List.mem_map_of_mem (f := Prod.fst) hin), hp⟩,
      fate, hin, hpacked⟩
  · rintro ⟨⟨-, hp⟩, fate, hin, hpacked⟩
    exact ⟨fate, ⟨hin, hp⟩, hpacked⟩

end assembly

section survival

variable {K : Type} [Field K] [LinearOrder K] (unicode : Unicode) (sha256Hex : String → String)
  {event : AgentEvent} {context : CognitiveContext K} {fragments : List ContextFragment}

theorem carriers_compressed (h : Limits context) (eventId : UUID) :
    ((compressed unicode sha256Hex context fragments).filter (isEventMessage eventId)).Perm
      ((fragments.filter (isEventMessage eventId)).filter (handedOn context fragments)) := by
  obtain ⟨nodes, hperm, hnodes⟩ := compressed_perm unicode sha256Hex h fragments
  have hnone : nodes.filter (isEventMessage eventId) = [] := by
    rw [List.filter_eq_nil_iff]
    intro n hn
    rw [(hnodes n hn).not_event]
    exact Bool.noConfusion
  have hfilter := hperm.filter (isEventMessage eventId)
  rw [List.filter_append, hnone, List.append_nil, List.filter_filter] at hfilter
  rw [List.filter_filter]
  simpa only [Bool.and_comm] using hfilter

theorem required_compressed (h : Limits context) {f : ContextFragment}
    (hf : f ∈ compressed unicode sha256Hex context fragments) (hrequired : f.required = true) :
    f ∈ fragments := by
  obtain ⟨nodes, hperm, hnodes⟩ := compressed_perm unicode sha256Hex h fragments
  rcases List.mem_append.mp (hperm.mem_iff.mp hf) with hin | hin
  · exact (List.mem_filter.mp hin).1
  · rw [(hnodes f hin).1] at hrequired
    cases hrequired

theorem mem_carriers_compressed (h : Limits context) {c : ContextFragment} :
    c ∈ compressed unicode sha256Hex context fragments ∧ isEventMessage event.eventId c = true ↔
      c ∈ fragments.filter (isEventMessage event.eventId) ∧
        handedOn context fragments c = true := by
  rw [← List.mem_filter, (carriers_compressed unicode sha256Hex h event.eventId).mem_iff, List.mem_filter]

variable (hcarriers : (fragments.filter (isEventMessage event.eventId)).Nodup)
  (hone : ∀ f ∈ fragments, f.required = true → ∀ g ∈ fragments, g.required = true → g = f)
  (hbudget : 64 ≤ context.contextTokenBudget)

include hcarriers hone hbudget in
/-- A carrier is selected from what the compressor hands on exactly if it survives. -/
theorem placed_iff_survives (h : Limits context) (c : ContextFragment) :
    ((c ∈ compressed unicode sha256Hex context fragments ∧
        isEventMessage event.eventId c = true) ∧
      ∃ fate, (c, fate) ∈ fatesOf context.contextTokenBudget
        (compressed unicode sha256Hex context fragments) ∧ packed (c, fate) ≠ none) ↔
      c ∈ fragments.filter (isEventMessage event.eventId) ∧
        Survives unicode sha256Hex context fragments c := by
  rw [mem_carriers_compressed unicode sha256Hex h, and_assoc]
  refine and_congr_right fun hc ↦ ?_
  unfold Survives
  refine and_congr_right fun hhanded ↦ ?_
  obtain ⟨hin, hevent⟩ := mem_carriers_compressed unicode sha256Hex h
    |>.mpr ⟨hc, hhanded⟩
  have hcount : (compressed unicode sha256Hex context fragments).count c = 1 := by
    have hnodup := (carriers_compressed unicode sha256Hex h event.eventId).nodup_iff.mpr
      (hcarriers.filter _)
    rw [← List.count_filter hevent]
    exact List.count_eq_one_of_mem hnodup (List.mem_filter.mpr ⟨hin, hevent⟩)
  rw [placed_iff_leftover hcount]
  cases hrequired : c.required with
  | true =>
    refine iff_of_true (.inr ?_) (.inl rfl)
    have honly : ∀ f ∈ compressed unicode sha256Hex context fragments, f.required = true → f = c :=
      fun f hf hreq ↦ hone c (List.mem_filter.mp hc).1 hrequired f
        (required_compressed unicode sha256Hex h hf hreq) hreq
    rw [takeWhile_required hin hrequired honly, leftover, shrink_required hrequired]
    unfold cut
    rw [ne_eq, clip_eq_none]
    have hmarker : estimateTokens marker + 2 ≤ 64 := by decide
    omega
  | false =>
    rw [shrink_optional hrequired]
    simp

include hcarriers hone hbudget in
/-- The message is in the selection once exactly if one carrier survives. -/
theorem once_iff (h : Limits context) {a : ContextAssembly}
    (ha : a.fragments.Perm ((fatesOf context.contextTokenBudget
      (compressed unicode sha256Hex context fragments)).filterMap packed)) :
    Once event fragments a ↔ ∃! c, c ∈ fragments.filter (isEventMessage event.eventId) ∧
      Survives unicode sha256Hex context fragments c := by
  have hcut : ∀ f g, IsTruncation f g →
      isEventMessage event.eventId g = isEventMessage event.eventId f := by
    intro f g htrunc
    obtain ⟨-, -, -, -, -, -, hsource, -⟩ := htrunc.rest
    unfold isEventMessage
    rw [hsource]
  have hnodup := (carriers_compressed unicode sha256Hex h event.eventId).nodup_iff.mpr
    (hcarriers.filter _)
  have hlength := length_selected_eq_one_iff context.contextTokenBudget hcut hnodup
  have hperm := ha.filter (isEventMessage event.eventId)
  rw [existsUnique_congr fun c ↦ placed_iff_survives unicode sha256Hex hcarriers hone hbudget h c,
    ← hperm.length_eq] at hlength
  rw [← hlength]
  constructor
  · rintro ⟨g, hg, -⟩
    rw [hg]
    rfl
  · intro hlen
    obtain ⟨g, hg⟩ := List.length_eq_one_iff.mp hlen
    have hmem : g ∈ a.fragments.filter (isEventMessage event.eventId) := hg ▸ List.mem_cons_self
    obtain ⟨hselected, hevent⟩ := List.mem_filter.mp hmem
    obtain ⟨⟨f, fate⟩, hx, hpacked⟩ := List.mem_filterMap.mp (ha.mem_iff.mp hselected)
    have hf : f ∈ compressed unicode sha256Hex context fragments :=
      (map_fst_fatesOf _ _).mem_iff.mp (List.mem_map_of_mem (f := Prod.fst) hx)
    have hkind : isEventMessage event.eventId f = true ∧ (g = f ∨ IsTruncation f g) := by
      obtain ⟨-, ⟨rfl, -⟩ | ⟨-, -, htrunc, -⟩⟩ := id_of_packed hx hpacked
      · exact ⟨hevent, .inl rfl⟩
      · exact ⟨(hcut f g htrunc) ▸ hevent, .inr htrunc⟩
    have hgiven := (mem_carriers_compressed unicode sha256Hex h).mp ⟨hf, hkind.1⟩
    exact ⟨g, hg, f, (List.mem_filter.mp hgiven.1).1, hkind⟩

end survival

section run

variable {K : Type} [Field K] [LinearOrder K] [IsStrictOrderedRing K] (unicode : Unicode)
  (sha256Hex : String → String) (round6 : ℚ → ℚ) (decay : Decay K) (event : AgentEvent)
  {context : CognitiveContext K}

theorem updateAffect_ok (h : Limits context) (perception : Perception) :
    ∃ affect, updateAffect decay event context perception = .ok affect := by
  have hlife := h.halfLife
  unfold updateAffect AffectState.decayed
  dsimp only
  rw [if_neg (by omega)]
  exact ⟨_, rfl⟩

theorem evaluate_deliberate_ok (perception : Perception)
    (hconfidence : 0 ≤ perception.confidence ∧ perception.confidence ≤ 1) (rules : PolicyRuleSet) :
    ∃ evaluation, DeterministicPolicyGate.evaluate (deliberate event perception hconfidence) rules
      none = .ok evaluation := by
  have hsome : (deliberate event perception hconfidence).isEmpty = false := by
    unfold deliberate
    split_ifs <;> rfl
  unfold DeterministicPolicyGate.evaluate
  rw [hsome]
  exact ⟨_, rfl⟩

/-- A run goes through once the fragments are there. -/
theorem run_ok {event : AgentEvent} {fragments : List ContextFragment} (h : Limits context)
    (hfragments : normalizeFragments event context.contextFragments = .ok fragments) :
    ∃ d a, run unicode sha256Hex round6 decay event context = .ok d ∧ d.context = some a ∧
      a.fragments.Perm ((fatesOf context.contextTokenBudget
        (compressed unicode sha256Hex context fragments)).filterMap packed) := by
  obtain ⟨affect, haffect⟩ := updateAffect_ok decay event h
    (perceive unicode.casefold event)
  obtain ⟨compression, hcompression, -⟩ :=
    compress_ok unicode sha256Hex h fragments
  obtain ⟨evaluation, hevaluation⟩ := evaluate_deliberate_ok event
    (perceive unicode.casefold event) (perceive_confident unicode.casefold event) context.policy
  have hassembly := @assemble_eq context.contextTokenBudget compression.fragments
    (some compression.report) h.budget
  have hcompressed : compressed unicode sha256Hex context fragments = compression.fragments := by
    unfold compressed
    rw [hcompression]
  unfold run
  dsimp only
  rw [bind_of_ok haffect, bind_of_ok hfragments, bind_of_ok hcompression, bind_of_ok hassembly,
    bind_of_ok hevaluation, hcompressed]
  exact ⟨_, _, rfl, rfl, List.perm_insertionSort _ _⟩

theorem run_ok_iff {event : AgentEvent} (h : Limits context) :
    (∃ d, run unicode sha256Hex round6 decay event context = .ok d) ↔
      ∃ fragments, normalizeFragments event context.contextFragments = .ok fragments := by
  constructor
  · rintro ⟨d, hd⟩
    unfold run at hd
    dsimp only at hd
    obtain ⟨affect, -, hd⟩ := bind_eq_ok.mp hd
    obtain ⟨fragments, hfragments, -⟩ := bind_eq_ok.mp hd
    exact ⟨fragments, hfragments⟩
  · rintro ⟨fragments, hfragments⟩
    obtain ⟨d, -, hd, -⟩ := run_ok unicode sha256Hex round6 decay h hfragments
    exact ⟨d, hd⟩

omit [IsStrictOrderedRing K] in
theorem handedOn_last (h : Limits context) {given : List ContextFragment} {f : ContextFragment}
    (hmessage : isMessage f = true) : handedOn context (given ++ [f]) f = true := by
  have hrecent := h.recent
  have hin : f ∈ recent (given ++ [f]) context.contextRecentMessageLimit := by
    unfold recent
    dsimp only
    rw [List.filter_append, List.filter_cons_of_pos hmessage, List.filter_nil, List.length_append,
      List.length_singleton, List.drop_append_of_le_length (by omega)]
    exact List.mem_append_right _ (List.mem_singleton_self f)
  unfold handedOn
  rw [decide_eq_true (List.mem_map_of_mem (f := ContextFragment.fragmentId) hin), Bool.or_true]

/-- The current message is in the context, once, exactly if a blank text comes with a carrier, and
one of the carriers, if there are any, survives the compression and the budget. -/
theorem keepsCurrentMessage_iff (context : CognitiveContext K) (h : Limits context) :
    KeepsCurrentMessage unicode sha256Hex round6 decay event context ↔
      (Blank event → carriers event context ≠ []) ∧
        (Asked event context → carriers event context = [] ∨
          ∃! c, c ∈ carriers event context ∧
            Survives unicode sha256Hex context (givenFragments context.contextFragments) c) := by
  unfold KeepsCurrentMessage
  rw [run_ok_iff unicode sha256Hex round6 decay h, normalize_ok_iff]
  refine and_congr_right fun _ ↦ forall_congr' fun hasked ↦ ?_
  have hnodup : (carriers event context).Nodup := hasked.ids.of_map.filter _
  have hrequired : ∀ f ∈ callerFragments context, f.required = true →
      ∀ g ∈ callerFragments context, g.required = true → g = f := by
    intro f hf hfreq g hg hgreq
    have hone := hasked.one
    have hfin := List.mem_filter.mpr ⟨hf, hfreq⟩
    have hgin := List.mem_filter.mpr ⟨hg, hgreq⟩
    obtain ⟨c, hc⟩ := List.length_eq_one_iff.mp
      (le_antisymm hone (List.length_pos_of_mem hfin))
    rw [hc] at hfin hgin
    rw [List.mem_singleton.mp hfin, List.mem_singleton.mp hgin]
  -- What the run assembles of the normalized fragments.
  have hrun : ∀ fragments, normalizeFragments event context.contextFragments = .ok fragments →
      (fragments.filter (isEventMessage event.eventId)).Nodup →
      (∀ f ∈ fragments, f.required = true → ∀ g ∈ fragments, g.required = true → g = f) →
      ((∃ d a fragments, run unicode sha256Hex round6 decay event context = .ok d ∧
          d.context = some a ∧ normalizeFragments event context.contextFragments = .ok fragments ∧
          Once event fragments a) ↔
        ∃! c, c ∈ fragments.filter (isEventMessage event.eventId) ∧
          Survives unicode sha256Hex context fragments c) := by
    intro fragments hfragments hfilter hone
    obtain ⟨d, a, hd, ha, hselected⟩ := run_ok unicode sha256Hex round6 decay h hfragments
    rw [← once_iff unicode sha256Hex hfilter hone hasked.budget h hselected]
    constructor
    · rintro ⟨d', a', fragments', hd', ha', hfragments', honce⟩
      obtain rfl := Except.ok.inj (hd.symm.trans hd')
      obtain rfl := Option.some.inj (ha.symm.trans ha')
      obtain rfl := Except.ok.inj (hfragments.symm.trans hfragments')
      exact honce
    · exact fun honce ↦ ⟨d, a, fragments, hd, ha, hfragments, honce⟩
  by_cases hcarriers : carriers event context = []
  · obtain ⟨f, hf, hevent, hfreq, hmessage⟩ := normalize_of_shown hcarriers hasked.shown
    have hfilter : (givenFragments context.contextFragments ++ [f]).filter
        (isEventMessage event.eventId) = [f] := by
      rw [List.filter_append, filter_givenFragments, hcarriers, List.filter_cons_of_pos hevent]
      rfl
    have hnone : ∀ g ∈ givenFragments context.contextFragments, g.required ≠ true := by
      intro g hg hgreq
      have hcaller := required_givenFragments hg hgreq
      have hcarrier : g ∈ carriers event context :=
        List.mem_filter.mpr ⟨hcaller, hasked.required g hcaller hgreq⟩
      rw [hcarriers] at hcarrier
      exact absurd hcarrier List.not_mem_nil
    have honly : ∀ g ∈ givenFragments context.contextFragments ++ [f], g.required = true →
        g = f := by
      intro g hg hgreq
      rcases List.mem_append.mp hg with hg | hg
      · exact absurd hgreq (hnone g hg)
      · exact List.mem_singleton.mp hg
    refine iff_of_true ((hrun _ hf ?_ ?_).mpr ⟨f, ⟨?_, handedOn_last h hmessage, .inl hfreq⟩, ?_⟩)
      (.inl hcarriers)
    · rw [hfilter]
      exact List.nodup_singleton f
    · intro g hg hgreq g' hg' hgreq'
      rw [honly g hg hgreq, honly g' hg' hgreq']
    · rw [hfilter]
      exact List.mem_singleton_self f
    · rintro g ⟨hg, -⟩
      rw [hfilter] at hg
      exact List.mem_singleton.mp hg
  · rw [hrun _ (normalize_of_carriers hcarriers) (by rwa [filter_givenFragments]) ?_,
      filter_givenFragments]
    · rw [or_iff_right hcarriers]
    · intro f hf hfreq g hg hgreq
      exact hrequired f (required_givenFragments hf hfreq) hfreq g
        (required_givenFragments hg hgreq) hgreq

end run

section examples

def greeting : AgentEvent where
  eventId := 1
  occurredAt := 0
  eventType := "message.received"
  text := some "ok"

def plainTable : Unicode where
  isWord _ := false
  isDecimal _ := false
  casefold := id

def noDecay : Decay ℚ where
  factor _ _ := 1
  mem _ _ := ⟨by decide, by decide⟩

def answeredMessage : ContextFragment :=
  { shortMessage "message-1" 0 message_one_shown with
    required := true
    sourceId := some (uuidString 1) }

def followed : CognitiveContext ℚ where
  contextFragments :=
    [.fragment answeredMessage, .fragment (shortMessage "message-2" 1 message_two_shown)]
  contextRecentMessageLimit := 2

theorem keepsCurrentMessage_followed :
    Asked greeting followed ∧
      KeepsCurrentMessage plainTable firstDigest id noDecay greeting followed := by
  have hlimits : Limits followed := by constructor <;> decide
  have hcarriers : carriers greeting followed = [answeredMessage] := by decide +kernel
  refine ⟨by constructor <;> decide +kernel,
    (keepsCurrentMessage_iff plainTable firstDigest id noDecay greeting followed hlimits).mpr
      ⟨fun ⟨text, htext, _, hstrip⟩ ↦ ?_, fun _ ↦ .inr ⟨answeredMessage, ⟨?_, ?_, .inl rfl⟩, ?_⟩⟩⟩
  · obtain rfl := Option.some.inj htext
    exact absurd hstrip (by decide)
  · rw [hcarriers]
    exact List.mem_singleton_self _
  · decide +kernel
  · rintro c ⟨hc, -⟩
    rw [hcarriers] at hc
    exact List.mem_singleton.mp hc

def overtaken : CognitiveContext ℚ where
  contextFragments :=
    [.fragment answeredMessage, .fragment (shortMessage "message-2" 1 message_two_shown)]
  contextRecentMessageLimit := 1

theorem asked_overtaken : Asked greeting overtaken := by
  constructor <;> decide +kernel

/-- The message that is answered is compressed away, though it is required. -/
theorem current_message_compressed_away :
    ¬∃ (unicode : Unicode) (sha256Hex : String → String) (round6 : ℚ → ℚ) (decay : Decay ℚ),
      ∀ event context, Limits context →
        KeepsCurrentMessage unicode sha256Hex round6 decay event context := by
  rintro ⟨unicode, sha256Hex, round6, decay, hall⟩
  have hlimits : Limits overtaken := by constructor <;> decide
  obtain ⟨d, a, fragments, hd, ha, hfragments, honce⟩ :=
    (hall greeting overtaken hlimits).2 asked_overtaken
  obtain rfl : [answeredMessage, shortMessage "message-2" 1 (by decide)] = fragments :=
    Except.ok.inj hfragments
  obtain ⟨d', a', hd', ha', hselected⟩ := run_ok unicode sha256Hex round6 decay hlimits hfragments
  obtain rfl := Except.ok.inj (hd.symm.trans hd')
  obtain rfl := Option.some.inj (ha.symm.trans ha')
  obtain ⟨c, ⟨hc, hhanded, -⟩, -⟩ := (once_iff unicode sha256Hex (by decide +kernel)
    (by decide +kernel) (by decide) hlimits hselected).mp honce
  have hcarrier : [answeredMessage, shortMessage "message-2" 1 (by decide)].filter
      (isEventMessage greeting.eventId) = [answeredMessage] := by decide +kernel
  rw [hcarrier] at hc
  rw [List.mem_singleton.mp hc] at hhanded
  exact absurd hhanded (by decide +kernel)

end examples

end CyberNetizen.Cognition.CurrentMessage
