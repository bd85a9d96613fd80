import Mathlib.Analysis.SpecialFunctions.Log.Basic
import CyberNetizen.Application.DecisionTrace

namespace CyberNetizen.Cognition.AffectDecay

open Application.CognitionService
open Domain Relaxation

/-- `exp(-log(2) * elapsed / half_life_seconds)` over the reals. -/
noncomputable def realFactor (elapsed halfLifeSeconds : ℕ) : ℝ :=
  Real.exp (-Real.log (2 : ℕ) * (elapsed / (1000000 : ℕ)) / halfLifeSeconds)

section factor

variable {elapsed elapsed' halfLife : ℕ}

theorem log_two_pos : 0 < Real.log (2 : ℕ) := Real.log_pos (by norm_num)

theorem realFactor_zero : realFactor 0 halfLife = 1 := by
  unfold realFactor
  simp

theorem realFactor_add :
    realFactor elapsed halfLife * realFactor elapsed' halfLife =
      realFactor (elapsed + elapsed') halfLife := by
  unfold realFactor
  rw [← Real.exp_add]
  congr 1
  push_cast
  ring

theorem realFactor_mem : 0 ≤ realFactor elapsed halfLife ∧ realFactor elapsed halfLife ≤ 1 := by
  refine ⟨(Real.exp_pos _).le, Real.exp_le_one_iff.mpr ?_⟩
  apply div_nonpos_of_nonpos_of_nonneg
  · apply mul_nonpos_of_nonpos_of_nonneg
    · linarith [log_two_pos]
    · positivity
  · positivity

theorem realFactor_eq_one (hh : 1 ≤ halfLife) : realFactor elapsed halfLife = 1 ↔ elapsed = 0 := by
  constructor
  · intro h
    have hzero := Real.exp_eq_one_iff _ |>.mp h
    have hhalf : (halfLife : ℝ) ≠ 0 := by
      have : halfLife ≠ 0 := by omega
      exact_mod_cast this
    rw [div_eq_zero_iff, or_iff_left hhalf, mul_eq_zero,
      or_iff_right (neg_ne_zero.mpr log_two_pos.ne'), div_eq_zero_iff] at hzero
    have := hzero.resolve_right (by norm_num)
    exact_mod_cast this
  · rintro rfl
    exact realFactor_zero

end factor

noncomputable def realDecay : Decay ℝ where
  factor := realFactor
  mem _ _ := realFactor_mem

noncomputable def baseline : AffectState ℝ := .neutral 0

section course

variable {s x y : AffectState ℝ} {t t' halfLife : ℕ}

noncomputable def course (s : AffectState ℝ) (halfLife t : ℕ) : ℝ × ℝ × ℝ :=
  let f := realFactor (t - s.updatedAt) halfLife
  (toward 0 f s.valence, toward baseline.arousal f s.arousal,
    toward baseline.socialEnergy f s.socialEnergy)

def values (s : AffectState ℝ) : ℝ × ℝ × ℝ := (s.valence, s.arousal, s.socialEnergy)

/-- What `decayed` makes of a mood. -/
theorem decayed_eq (hh : 1 ≤ halfLife) (s : AffectState ℝ) (t : Datetime) :
    ∃ s', s.decayed realDecay t halfLife = .ok s' ∧ values s' = course s halfLife t ∧
      s'.updatedAt = t := by
  unfold AffectState.decayed
  rw [if_neg (by omega)]
  refine ⟨_, rfl, ?_, rfl⟩
  exact Prod.ext toward_zero_baseline.symm rfl

theorem eq_of_values (h : values x = values y) (ht : x.updatedAt = y.updatedAt) : x = y := by
  obtain ⟨hv, hrest⟩ := Prod.mk.inj h
  obtain ⟨ha, he⟩ := Prod.mk.inj hrest
  exact AffectState.ext hv ha he ht

theorem decayed_eq_iff (hh : 1 ≤ halfLife) :
    x.decayed realDecay t halfLife = y.decayed realDecay t halfLife ↔
      course x halfLife t = course y halfLife t := by
  obtain ⟨x', hx, hvx, htx⟩ := decayed_eq hh x t
  obtain ⟨y', hy, hvy, hty⟩ := decayed_eq hh y t
  rw [hx, hy, Except.ok.injEq, ← hvx, ← hvy]
  exact ⟨fun h ↦ h ▸ rfl, fun h ↦ eq_of_values h (htx.trans hty.symm)⟩

theorem course_of_decayed (hvalues : values y = course x halfLife y.updatedAt)
    (hle : x.updatedAt ≤ y.updatedAt) (ht : y.updatedAt ≤ t) :
    course y halfLife t = course x halfLife t := by
  obtain ⟨hv, hrest⟩ := Prod.mk.inj hvalues
  obtain ⟨ha, he⟩ := Prod.mk.inj hrest
  have hfactor : realFactor (y.updatedAt - x.updatedAt) halfLife *
      realFactor (t - y.updatedAt) halfLife = realFactor (t - x.updatedAt) halfLife := by
    rw [realFactor_add, Nat.add_comm, Nat.sub_add_sub_cancel ht hle]
  unfold course
  dsimp only
  rw [hv, ha, he, toward_toward, toward_toward, toward_toward, hfactor]

theorem course_mem_uIcc (h : t ≤ t') :
    (course s halfLife t').1 ∈ Set.uIcc 0 (course s halfLife t).1 ∧
      (course s halfLife t').2.1 ∈ Set.uIcc (1 / 4) (course s halfLife t).2.1 ∧
      (course s halfLife t').2.2 ∈ Set.uIcc (3 / 4) (course s halfLife t).2.2 := by
  have hfactor : realFactor (t' - s.updatedAt) halfLife =
      realFactor (t - s.updatedAt) halfLife *
        realFactor ((t' - s.updatedAt) - (t - s.updatedAt)) halfLife := by
    rw [realFactor_add]
    congr 1
    omega
  unfold course
  dsimp only
  rw [hfactor, ← toward_toward, ← toward_toward, ← toward_toward]
  exact ⟨toward_mem_uIcc realFactor_mem, toward_mem_uIcc realFactor_mem,
    toward_mem_uIcc realFactor_mem⟩

end course

def AtBaseline (s : AffectState ℝ) : Prop :=
  s.valence = 0 ∧ s.arousal = baseline.arousal ∧ s.socialEnergy = baseline.socialEnergy

/-- What is asked of decaying a mood to one time and then to another one. -/
structure DecaysWell (s : AffectState ℝ) (t₁ t₂ : Datetime) (halfLife : ℕ) : Prop where
  path : (s.decayed realDecay t₁ halfLife >>= fun s₁ ↦ s₁.decayed realDecay t₂ halfLife) =
    s.decayed realDecay (max t₁ t₂) halfLife
  forward : ∀ s₁ s₂, s.decayed realDecay t₁ halfLife = .ok s₁ →
    s₁.decayed realDecay t₂ halfLife = .ok s₂ →
    s.updatedAt ≤ s₁.updatedAt ∧ s₁.updatedAt ≤ s₂.updatedAt
  bounded : ∀ t s', s.decayed realDecay t halfLife = .ok s' →
    (-1 ≤ s'.valence ∧ s'.valence ≤ 1) ∧ (0 ≤ s'.arousal ∧ s'.arousal ≤ 1) ∧
      0 ≤ s'.socialEnergy ∧ s'.socialEnergy ≤ 1
  monotone : ∀ t t' a b, t ≤ t' → s.decayed realDecay t halfLife = .ok a →
    s.decayed realDecay t' halfLife = .ok b →
    b.valence ∈ Set.uIcc 0 a.valence ∧ b.arousal ∈ Set.uIcc (1 / 4) a.arousal ∧
      b.socialEnergy ∈ Set.uIcc (3 / 4) a.socialEnergy

theorem decaysWell_iff {s : AffectState ℝ} {t₁ t₂ : Datetime} {halfLife : ℕ} (hh : 1 ≤ halfLife)
    (h₁ : s.updatedAt ≤ t₁) : DecaysWell s t₁ t₂ halfLife ↔ t₁ ≤ t₂ := by
  obtain ⟨s₁, hs₁, hv₁, ht₁⟩ := decayed_eq hh s t₁
  obtain ⟨s₂, hs₂, hv₂, ht₂⟩ := decayed_eq hh s₁ t₂
  constructor
  · intro h
    have hforward := (h.forward s₁ s₂ hs₁ hs₂).2
    rwa [ht₁, ht₂] at hforward
  · intro hle
    refine ⟨?_, ?_, ?_, ?_⟩
    · rw [hs₁, max_eq_right hle]
      apply (decayed_eq_iff hh).mpr
      apply course_of_decayed
      · rw [hv₁, ht₁]
      · rwa [ht₁]
      · rwa [ht₁]
    · rintro a b ha hb
      rw [hs₁] at ha
      cases ha
      rw [hs₂] at hb
      cases hb
      rw [ht₁, ht₂]
      exact ⟨h₁, hle⟩
    · exact fun t s' _ ↦ ⟨s'.valence_mem, s'.arousal_mem, s'.energy_mem⟩
    · intro t t' a b htt ha hb
      obtain ⟨a', ha', hva, -⟩ := decayed_eq hh s t
      obtain ⟨b', hb', hvb, -⟩ := decayed_eq hh s t'
      rw [ha'] at ha
      cases ha
      rw [hb'] at hb
      cases hb
      have hmem := @course_mem_uIcc s t t' halfLife htt
      rw [← hva, ← hvb] at hmem
      exact hmem

section loading

variable {halfLife : ℕ} {x y : AffectState ℝ}

def SameCourse (x y : AffectState ℝ) (halfLife : ℕ) : Prop :=
  course x halfLife (max x.updatedAt y.updatedAt) = course y halfLife (max x.updatedAt y.updatedAt)

theorem course_congr {t t' : Datetime} (h : course x halfLife t = course y halfLife t)
    (hx : x.updatedAt ≤ t) (hy : y.updatedAt ≤ t) (hle : t ≤ t') (hh : 1 ≤ halfLife) :
    course x halfLife t' = course y halfLife t' := by
  obtain ⟨x', -, hvx, htx⟩ := decayed_eq hh x t
  obtain ⟨y', -, hvy, hty⟩ := decayed_eq hh y t
  have hxy : x' = y' := eq_of_values (hvx.trans (h.trans hvy.symm)) (htx.trans hty.symm)
  subst htx
  calc course x halfLife t' = course x' halfLife t' := (course_of_decayed hvx hx hle).symm
    _ = course y' halfLife t' := by rw [hxy]
    _ = course y halfLife t' := by
      apply course_of_decayed
      · rw [hvy, hty]
      · rwa [hty]
      · rwa [hty]

theorem sameCourse_iff (hh : 1 ≤ halfLife) :
    (∀ t, x.updatedAt ≤ t → y.updatedAt ≤ t →
      x.decayed realDecay t halfLife = y.decayed realDecay t halfLife) ↔
      SameCourse x y halfLife := by
  constructor
  · intro h
    exact (decayed_eq_iff hh).mp (h _ (le_max_left _ _) (le_max_right _ _))
  · intro h t hx hy
    exact (decayed_eq_iff hh).mpr
      (course_congr h (le_max_left _ _) (le_max_right _ _) (max_le hx hy) hh)

/-- A mood with another time is on the same course only at the baseline. -/
theorem sameCourse_of_values (hh : 1 ≤ halfLife) (hvalues : values x = values y) :
    SameCourse x y halfLife ↔ x.updatedAt = y.updatedAt ∨ AtBaseline y := by
  obtain ⟨hv, hrest⟩ := Prod.mk.inj hvalues
  obtain ⟨ha, he⟩ := Prod.mk.inj hrest
  have hfactors : realFactor (max x.updatedAt y.updatedAt - x.updatedAt) halfLife =
      realFactor (max x.updatedAt y.updatedAt - y.updatedAt) halfLife ↔
      x.updatedAt = y.updatedAt := by
    rcases Nat.le_total x.updatedAt y.updatedAt with hle | hle
    · rw [max_eq_right hle, Nat.sub_self, realFactor_zero, realFactor_eq_one hh,
        Nat.sub_eq_zero_iff_le]
      exact ⟨fun h ↦ le_antisymm hle h, fun h ↦ h.ge⟩
    · rw [max_eq_left hle, Nat.sub_self, realFactor_zero, eq_comm, realFactor_eq_one hh,
        Nat.sub_eq_zero_iff_le]
      exact ⟨fun h ↦ le_antisymm h hle, fun h ↦ h.le⟩
  unfold SameCourse course AtBaseline
  dsimp only
  rw [Prod.mk.injEq, Prod.mk.injEq, hv, ha, he, toward_eq_iff, toward_eq_iff, toward_eq_iff,
    hfactors]
  tauto

noncomputable def affectOf (e : DecisionCall × AgentDecision ℝ) : AffectState ℝ :=
  e.2.affect.getD (.neutral e.1.now)

noncomputable def keptAffect (e : DecisionCall × AgentDecision ℝ) : AffectState ℝ :=
  { affectOf e with updatedAt := e.1.now }

theorem loadAffect_recordDecision (e : DecisionCall × AgentDecision ℝ) :
    loadAffect (recordDecision e.1 e.2).personaState = .ok (keptAffect e) := by
  have hv : -1 ≤ (recordDecision e.1 e.2).personaState.valence ∧
      (recordDecision e.1 e.2).personaState.valence ≤ 1 := (affectOf e).valence_mem
  have ha : 0 ≤ (recordDecision e.1 e.2).personaState.arousal ∧
      (recordDecision e.1 e.2).personaState.arousal ≤ 1 := (affectOf e).arousal_mem
  have he : 0 ≤ (recordDecision e.1 e.2).personaState.socialEnergy ∧
      (recordDecision e.1 e.2).personaState.socialEnergy ≤ 1 := (affectOf e).energy_mem
  unfold loadAffect
  rw [dif_pos hv, dif_pos ha, dif_pos he]
  rfl

def SameConversation (a b : DecisionCall) : Prop :=
  a.tenantId = b.tenantId ∧ a.agentId = b.agentId ∧ a.conversationId = b.conversationId

def Found (history : List (DecisionCall × AgentDecision ℝ)) (call : DecisionCall)
    (snapshot : PersonaStateSnapshot ℝ) : Prop :=
  ∃ e ∈ history, SameConversation e.1 call ∧
    snapshot = (recordDecision e.1 e.2).personaState ∧
    ∀ e' ∈ history, SameConversation e'.1 call → e'.1.now ≤ e.1.now

def LoadsAlike (history : List (DecisionCall × AgentDecision ℝ))
    (last : DecisionCall × AgentDecision ℝ) (halfLife : ℕ) : Prop :=
  ∀ snapshot, Found (history ++ [last]) last.1 snapshot →
    ∃ loaded, loadAffect snapshot = .ok loaded ∧
      ∀ t, loaded.updatedAt ≤ t → (affectOf last).updatedAt ≤ t →
        loaded.decayed realDecay t halfLife = (affectOf last).decayed realDecay t halfLife

/-- The last decision is recorded at the very time of its mood, or at the baseline; and another
snapshot of the conversation that is not older is on the same course. -/
def RestoredAlike (history : List (DecisionCall × AgentDecision ℝ))
    (last : DecisionCall × AgentDecision ℝ) (halfLife : ℕ) : Prop :=
  ((∀ e ∈ history, SameConversation e.1 last.1 → e.1.now ≤ last.1.now) →
    last.1.now = (affectOf last).updatedAt ∨ AtBaseline (affectOf last)) ∧
  ∀ e ∈ history, SameConversation e.1 last.1 → last.1.now ≤ e.1.now →
    (∀ e' ∈ history, SameConversation e'.1 last.1 → e'.1.now ≤ e.1.now) →
    SameCourse (keptAffect e) (affectOf last) halfLife

theorem loadsAlike_iff (hh : 1 ≤ halfLife) (history : List (DecisionCall × AgentDecision ℝ))
    (last : DecisionCall × AgentDecision ℝ) :
    LoadsAlike history last halfLife ↔ RestoredAlike history last halfLife := by
  have hself : SameConversation last.1 last.1 := ⟨rfl, rfl, rfl⟩
  have halike : ∀ e, (∃ loaded, loadAffect (recordDecision e.1 e.2).personaState = .ok loaded ∧
      ∀ t, loaded.updatedAt ≤ t → (affectOf last).updatedAt ≤ t →
        loaded.decayed realDecay t halfLife = (affectOf last).decayed realDecay t halfLife) ↔
      SameCourse (keptAffect e) (affectOf last) halfLife := by
    intro e
    rw [loadAffect_recordDecision, ← sameCourse_iff hh]
    constructor
    · rintro ⟨loaded, hloaded, h⟩
      cases hloaded
      exact h
    · exact fun h ↦ ⟨_, rfl, h⟩
  have hlast : SameCourse (keptAffect last) (affectOf last) halfLife ↔
      last.1.now = (affectOf last).updatedAt ∨ AtBaseline (affectOf last) :=
    sameCourse_of_values hh rfl
  constructor
  · intro h
    constructor
    · intro hnewest
      rw [← hlast, ← halike]
      refine h _ ⟨last, List.mem_append_right _ List.mem_cons_self, hself, rfl, ?_⟩
      intro e' he' hsame
      rcases List.mem_append.mp he' with he' | he'
      · exact hnewest e' he' hsame
      · rw [List.mem_singleton.mp he']
    · intro e he hsame hnow hnewest
      rw [← halike]
      refine h _ ⟨e, List.mem_append_left _ he, hsame, rfl, ?_⟩
      intro e' he' hsame'
      rcases List.mem_append.mp he' with he' | he'
      · exact hnewest e' he' hsame'
      · rw [List.mem_singleton.mp he']
        exact hnow
  · rintro ⟨hown, hothers⟩ snapshot ⟨e, he, hsame, rfl, hnewest⟩
    rw [halike]
    rcases List.mem_append.mp he with hmem | hmem
    · refine hothers e hmem hsame ?_ fun e' he' ↦ hnewest e' (List.mem_append_left _ he')
      exact hnewest last (List.mem_append_right _ List.mem_cons_self) hself
    · obtain rfl := List.mem_singleton.mp hmem
      exact hlast.mpr (hown fun e' he' ↦ hnewest e' (List.mem_append_left _ he'))

end loading

/-- Decaying keeps its promises exactly if the times come in order, and loading exactly if the mood
is recorded at its own time or at the baseline. -/
theorem decay_and_load_iff (s : AffectState ℝ) (t₁ t₂ : Datetime) (halfLife : ℕ)
    (history : List (DecisionCall × AgentDecision ℝ)) (last : DecisionCall × AgentDecision ℝ)
    (hh : 1 ≤ halfLife) (h₁ : s.updatedAt ≤ t₁) :
    (DecaysWell s t₁ t₂ halfLife ↔ t₁ ≤ t₂) ∧
      (LoadsAlike history last halfLife ↔ RestoredAlike history last halfLife) :=
  ⟨decaysWell_iff hh h₁, loadsAlike_iff hh history last⟩

noncomputable def glad : AffectState ℝ where
  valence := 1
  arousal := baseline.arousal
  socialEnergy := baseline.socialEnergy
  updatedAt := 0
  valence_mem := ⟨by linarith, le_rfl⟩
  arousal_mem := baseline.arousal_mem
  energy_mem := baseline.energy_mem

noncomputable def gladDecision : AgentDecision ℝ where
  action := .reply
  rationaleSummary := ""
  affect := some glad

def lateCall : DecisionCall where
  runId := 1
  tenantId := 2
  agentId := 3
  conversationId := 4
  personaVersion := 1
  now := seconds 2
  stateId := 5
  stepId := id
  candidateId := id

theorem decay_and_load_glad :
    1 ≤ 3600 ∧ glad.updatedAt ≤ seconds 2 ∧
      (DecaysWell glad (seconds 2) (seconds 1) 3600 ↔ seconds 2 ≤ seconds 1) ∧
      (LoadsAlike [] (lateCall, gladDecision) 3600 ↔
        RestoredAlike [] (lateCall, gladDecision) 3600) :=
  ⟨by decide, Nat.zero_le _,
    decay_and_load_iff glad (seconds 2) (seconds 1) 3600 [] (lateCall, gladDecision) (by decide)
      (Nat.zero_le _)⟩

/-- An observation that comes late sets the time of the mood back, and a mood that is recorded late
is loaded as fresh. -/
theorem glad_decay_broken :
    ¬(∀ (s : AffectState ℝ) (t₁ t₂ : Datetime) (halfLife : ℕ), 1 ≤ halfLife → s.updatedAt ≤ t₁ →
        s.updatedAt ≤ t₂ → DecaysWell s t₁ t₂ halfLife) ∧
    ¬(∀ (history : List (DecisionCall × AgentDecision ℝ)) (last : DecisionCall × AgentDecision ℝ)
        (halfLife : ℕ), 1 ≤ halfLife → LoadsAlike history last halfLife) := by
  constructor
  · intro h
    have hwell := h glad (seconds 2) (seconds 1) 3600 (by decide) (Nat.zero_le _) (Nat.zero_le _)
    exact absurd ((decaysWell_iff (by decide) (Nat.zero_le _)).mp hwell) (by decide)
  · intro h
    have halike := h [] (lateCall, gladDecision) 3600 (by decide)
    rcases ((loadsAlike_iff (by decide) _ _).mp halike).1 (fun _ he ↦ absurd he List.not_mem_nil)
      with htime | hbase
    · have hzero : seconds 2 = 0 := htime
      exact absurd hzero (by decide)
    · exact one_ne_zero hbase.1

end CyberNetizen.Cognition.AffectDecay
