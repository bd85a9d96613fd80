import Mathlib.Data.List.Basic

namespace Checks

universe u v

variable {ε : Type u} {α β : Type v}

theorem bind_eq_ok {x : Except ε α} {f : α → Except ε β} {b : β} :
    (x >>= f) = .ok b ↔ ∃ a, x = .ok a ∧ f a = .ok b := by
  cases x with
  | error e => exact ⟨fun h ↦ (nomatch h), fun ⟨_, h, _⟩ ↦ (nomatch h)⟩
  | ok a => exact ⟨fun h ↦ ⟨a, rfl, h⟩, fun ⟨_, ha, h⟩ ↦ Except.ok.inj ha ▸ h⟩

theorem bind_eq_error {x : Except ε α} {f : α → Except ε β} {e : ε} :
    (x >>= f) = .error e ↔ x = .error e ∨ ∃ a, x = .ok a ∧ f a = .error e := by
  cases x with
  | error e' => simp [bind, Except.bind]
  | ok a => simp [bind, Except.bind]

theorem bind_of_ok {x : Except ε α} {f : α → Except ε β} {a : α} (h : x = .ok a) :
    (x >>= f) = f a := by
  rw [h]
  rfl

/-- A check that raises `error` unless it is met. -/
def require (good : Bool) (error : ε) : Except ε Unit := if good then .ok () else .error error

theorem require_eq_ok {good : Bool} {error : ε} {u : Unit} :
    require good error = .ok u ↔ good = true := by
  unfold require
  cases good <;> simp

/-- A lookup that raises `error` where nothing is found. -/
def found (o : Option α) (error : ε) : Except ε α :=
  match o with
  | none => .error error
  | some a => .ok a

theorem found_eq_ok {o : Option α} {error : ε} {a : α} : found o error = .ok a ↔ o = some a := by
  unfold found
  cases o <;> simp

/-- A list is read back from its written form exactly if each of its elements is. -/
theorem mapM_map_eq_ok {f : β → Except ε α} {g : α → β} {l : List α} :
    (l.map g).mapM f = .ok l ↔ ∀ a ∈ l, f (g a) = .ok a := by
  induction l with
  | nil => exact iff_of_true rfl fun a ha ↦ absurd ha List.not_mem_nil
  | cons a l ih =>
    rw [List.map_cons, List.mapM_cons, bind_eq_ok]
    constructor
    · rintro ⟨b, hb, h⟩
      rw [bind_eq_ok] at h
      obtain ⟨l', hl', h⟩ := h
      obtain ⟨rfl, rfl⟩ := List.cons.inj (Except.ok.inj h)
      intro x hx
      rcases List.mem_cons.mp hx with rfl | hx
      · exact hb
      · exact ih.mp hl' x hx
    · intro h
      refine ⟨a, h a List.mem_cons_self, ?_⟩
      rw [ih.mpr fun x hx ↦ h x (List.mem_cons_of_mem a hx)]
      rfl

theorem of_mapM_eq_ok {f : α → Except ε β} {l : List α} {l' : List β} (h : l.mapM f = .ok l') :
    List.Forall₂ (fun a b ↦ f a = .ok b) l l' := by
  induction l generalizing l' with
  | nil =>
    cases h
    exact .nil
  | cons a l ih =>
    rw [List.mapM_cons, bind_eq_ok] at h
    obtain ⟨b, hb, h⟩ := h
    rw [bind_eq_ok] at h
    obtain ⟨bs, hbs, h⟩ := h
    cases h
    exact .cons hb (ih hbs)

theorem exists_mapM_eq_ok {f : α → Except ε β} {l : List α} (h : ∀ a ∈ l, ∃ b, f a = .ok b) :
    ∃ l', l.mapM f = .ok l' := by
  induction l with
  | nil => exact ⟨[], rfl⟩
  | cons a l ih =>
    obtain ⟨b, hb⟩ := h a List.mem_cons_self
    obtain ⟨bs, hbs⟩ := ih fun x hx ↦ h x (List.mem_cons_of_mem a hx)
    refine ⟨b :: bs, ?_⟩
    rw [List.mapM_cons, bind_of_ok hb, bind_of_ok hbs]
    rfl

theorem mapM_eq_ok_map {f : α → Except ε β} {g : α → β} {l : List α}
    (h : ∀ a ∈ l, f a = .ok (g a)) : l.mapM f = .ok (l.map g) := by
  induction l with
  | nil => rfl
  | cons a l ih =>
    rw [List.mapM_cons, bind_of_ok (h a List.mem_cons_self),
      bind_of_ok (ih fun x hx ↦ h x (List.mem_cons_of_mem a hx))]
    rfl

end Checks
