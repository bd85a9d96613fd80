import Mathlib.Data.List.Basic

universe u

structure Attempt (ε β α : Type u) where
  trail : List β
  result : Except ε α

namespace Attempt

variable {ε β β' α γ σ : Type u}

instance : Monad (Attempt ε β) where
  pure a := ⟨[], .ok a⟩
  bind x f := match x.result with
    | .error e => ⟨x.trail, .error e⟩
    | .ok a => ⟨x.trail ++ (f a).trail, (f a).result⟩

def leave (b : β) : Attempt ε β PUnit := ⟨[b], .ok ⟨⟩⟩

def ofExcept (r : Except ε α) : Attempt ε β α := ⟨[], r⟩

def mapTrail (f : β → β') (x : Attempt ε β α) : Attempt ε β' α := ⟨x.trail.map f, x.result⟩

theorem bind_of_ok {x : Attempt ε β α} {f : α → Attempt ε β γ} {a : α} (h : x.result = .ok a) :
    x >>= f = ⟨x.trail ++ (f a).trail, (f a).result⟩ := by
  show (match x.result with
    | .error e => (⟨x.trail, .error e⟩ : Attempt ε β γ)
    | .ok a => ⟨x.trail ++ (f a).trail, (f a).result⟩) = _
  rw [h]

theorem bind_of_error {x : Attempt ε β α} {f : α → Attempt ε β γ} {e : ε} (h : x.result = .error e) :
    x >>= f = ⟨x.trail, .error e⟩ := by
  show (match x.result with
    | .error e => (⟨x.trail, .error e⟩ : Attempt ε β γ)
    | .ok a => ⟨x.trail ++ (f a).trail, (f a).result⟩) = _
  rw [h]

/-- An effect of two computations in turn is one of the first, or one of the second after the first
has succeeded. -/
theorem mem_bind {x : Attempt ε β α} {f : α → Attempt ε β γ} {b : β} (h : b ∈ (x >>= f).trail) :
    b ∈ x.trail ∨ ∃ a, x.result = .ok a ∧ b ∈ (f a).trail := by
  cases hx : x.result with
  | error e =>
    rw [bind_of_error hx] at h
    exact .inl h
  | ok a =>
    rw [bind_of_ok hx] at h
    exact (List.mem_append.mp h).imp_right fun hb ↦ ⟨a, rfl, hb⟩

/-- If only the rest can have an effect, and it has it at its end, then a computation with this
effect has succeeded. -/
theorem ok_of_mem_bind {x : Attempt ε β α} {f : α → Attempt ε β γ} {b : β} (hx : b ∉ x.trail)
    (hf : ∀ a, b ∈ (f a).trail → ∃ c, (f a).result = .ok c) (h : b ∈ (x >>= f).trail) :
    ∃ c, (x >>= f).result = .ok c := by
  rcases mem_bind h with h | ⟨a, ha, h⟩
  · exact absurd h hx
  · rw [bind_of_ok ha]
    exact hf a h

/-- The computation succeeds if and only if `good` holds, and then these are its effects. -/
structure Performs (x : Attempt ε β α) (good : Prop) (effects : List β) : Prop where
  ok : (∃ a, x.result = .ok a) ↔ good
  trail : good → x.trail = effects

namespace Performs

variable {x : Attempt ε β α} {f : α → Attempt ε β γ} {good good' : Prop} {bs bs' : List β}

theorem pure (a : α) : Performs (pure a : Attempt ε β α) True [] :=
  ⟨iff_of_true ⟨a, rfl⟩ trivial, fun _ ↦ rfl⟩

theorem leave (b : β) : Performs (leave b : Attempt ε β PUnit) True [b] :=
  ⟨iff_of_true ⟨_, rfl⟩ trivial, fun _ ↦ rfl⟩

theorem ofExcept (r : Except ε α) :
    Performs (ofExcept r : Attempt ε β α) (∃ a, r = .ok a) [] :=
  ⟨Iff.rfl, fun _ ↦ rfl⟩

theorem congr (h : x.Performs good bs) (hgood : good ↔ good') (hbs : good' → bs = bs') :
    x.Performs good' bs' :=
  ⟨h.ok.trans hgood, fun hg ↦ (h.trail (hgood.mpr hg)).trans (hbs hg)⟩

theorem mapTrail (h : x.Performs good bs) (g : β → β') :
    (x.mapTrail g).Performs good (bs.map g) :=
  ⟨h.ok, fun hg ↦ congrArg (List.map g) (h.trail hg)⟩

/-- Two computations in turn succeed if both do. -/
theorem bind (h : x.Performs good bs)
    (h' : ∀ a, x.result = .ok a → (f a).Performs good' bs') :
    (x >>= f).Performs (good ∧ good') (bs ++ bs') := by
  cases hx : x.result with
  | error e =>
    have hbad : ¬good := by
      rw [← h.ok, hx]
      rintro ⟨a, ha⟩
      cases ha
    rw [bind_of_error hx]
    refine ⟨⟨?_, fun hg ↦ absurd hg.1 hbad⟩, fun hg ↦ absurd hg.1 hbad⟩
    rintro ⟨a, ha⟩
    cases ha
  | ok a =>
    have hgood : good := h.ok.mp ⟨a, hx⟩
    rw [bind_of_ok hx]
    constructor
    · rw [(h' a hx).ok]
      exact ⟨fun hg ↦ ⟨hgood, hg⟩, And.right⟩
    · intro hg
      dsimp only
      rw [h.trail hg.1, (h' a hx).trail hg.2]

/-- The rest of a computation is known once the value it starts with is. -/
theorem ofExcept_bind {r : Except ε α} {good : α → Prop}
    (h : ∀ a, r = .ok a → (f a).Performs (good a) bs) :
    (Attempt.ofExcept r >>= f).Performs (∃ a, r = .ok a ∧ good a) bs := by
  cases r with
  | error e =>
    have hbad : ¬∃ a, (Except.error e : Except ε α) = .ok a ∧ good a := by
      rintro ⟨a, ha, -⟩
      cases ha
    refine ⟨⟨?_, fun hg ↦ absurd hg hbad⟩, fun hg ↦ absurd hg hbad⟩
    rintro ⟨a, ha⟩
    cases ha
  | ok a =>
    have hboth : (Attempt.ofExcept (.ok a) >>= f).Performs
        ((∃ b, (Except.ok a : Except ε α) = .ok b) ∧ good a) ([] ++ bs) := by
      apply (ofExcept (.ok a)).bind
      intro a' ha
      cases ha
      exact h a rfl
    refine hboth.congr ⟨fun hg ↦ ⟨a, rfl, hg.2⟩, ?_⟩ fun _ ↦ List.nil_append bs
    rintro ⟨a', ha, hg⟩
    cases ha
    exact ⟨⟨a, rfl⟩, hg⟩

theorem foldlM {g : σ → γ → Attempt ε β σ} {good : γ → Prop} {effects : γ → List β}
    (h : ∀ s c, (g s c).Performs (good c) (effects c)) (l : List γ) (s : σ) :
    (l.foldlM g s).Performs (∀ c ∈ l, good c) (l.flatMap effects) := by
  induction l generalizing s with
  | nil => exact (pure s).congr (iff_of_true trivial fun c hc ↦ absurd hc List.not_mem_nil) fun _ ↦ rfl
  | cons c l ih =>
    rw [List.foldlM_cons, List.flatMap_cons]
    refine ((h s c).bind fun s' _ ↦ ih s').congr ?_ fun _ ↦ rfl
    rw [List.forall_mem_cons]

theorem forM {g : γ → Attempt ε β PUnit} {good : γ → Prop} {effects : γ → List β}
    (h : ∀ c, (g c).Performs (good c) (effects c)) (l : List γ) :
    (l.forM g).Performs (∀ c ∈ l, good c) (l.flatMap effects) := by
  induction l with
  | nil => exact (pure _).congr (iff_of_true trivial fun c hc ↦ absurd hc List.not_mem_nil) fun _ ↦ rfl
  | cons c l ih =>
    rw [List.flatMap_cons]
    refine ((h c).bind fun _ _ ↦ ih).congr ?_ fun _ ↦ rfl
    rw [List.forall_mem_cons]

end Performs

theorem mem_forM {g : γ → Attempt ε β PUnit} {l : List γ} {b : β} (h : b ∈ (l.forM g).trail) :
    ∃ c ∈ l, b ∈ (g c).trail := by
  induction l with
  | nil => exact absurd h List.not_mem_nil
  | cons c l ih =>
    rcases mem_bind h with h | ⟨_, -, h⟩
    · exact ⟨c, List.mem_cons_self, h⟩
    · obtain ⟨c', hc', hb⟩ := ih h
      exact ⟨c', List.mem_cons_of_mem c hc', hb⟩

end Attempt
