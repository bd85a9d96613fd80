import Mathlib.Data.List.Basic

namespace Calls

universe u v

variable {α : Type u} {κ : Type v} {l : List α} {a b : α} {i j : ℕ}

theorem getElem?_of_set (h : (l.set i a)[j]? = some b) :
    (j = i ∧ b = a) ∨ (j ≠ i ∧ l[j]? = some b) := by
  by_cases hji : j = i
  · subst hji
    have hlt : j < l.length := by
      rw [List.getElem?_eq_some_iff] at h
      obtain ⟨hj, -⟩ := h
      simpa using hj
    rw [List.getElem?_set_self hlt] at h
    exact .inl ⟨rfl, (Option.some.inj h).symm⟩
  · rw [List.getElem?_set_ne (Ne.symm hji)] at h
    exact .inr ⟨hji, h⟩

theorem getElem?_of_append (h : (l ++ [a])[j]? = some b) :
    (j = l.length ∧ b = a) ∨ l[j]? = some b := by
  rcases Nat.lt_trichotomy j l.length with hj | hj | hj
  · rw [List.getElem?_append_left hj] at h
    exact .inr h
  · subst hj
    rw [List.getElem?_concat_length] at h
    exact .inl ⟨rfl, (Option.some.inj h).symm⟩
  · rw [List.getElem?_eq_none (by simp; omega)] at h
    cases h

theorem mem_set_of_mem (hi : l[i]? = some a) (hb : b ∈ l) {c : α} (hc : a = b → c = b) :
    b ∈ l.set i c := by
  obtain ⟨j, hj⟩ := List.getElem?_of_mem hb
  by_cases hji : j = i
  · subst hji
    obtain rfl := Option.some.inj (hi.symm.trans hj)
    rw [hc rfl]
    exact List.mem_set (List.getElem?_eq_some_iff.mp hi).1 a
  · rw [← List.getElem?_set_ne (Ne.symm hji) (a := c)] at hj
    exact List.mem_of_getElem? hj

def TaggedOnce (tag : α → Option κ) (l : List α) : Prop :=
  ∀ (i j : ℕ) (a b : α), l[i]? = some a → l[j]? = some b →
    ∀ k, tag a = some k → tag b = some k → i = j

variable {tag : α → Option κ}

theorem TaggedOnce.nil : TaggedOnce tag [] := by
  intro i j a b h
  rw [List.getElem?_nil] at h
  cases h

theorem TaggedOnce.append (h : TaggedOnce tag l) (ha : tag a = none) :
    TaggedOnce tag (l ++ [a]) := by
  intro i j x y hx hy k hkx hky
  rcases getElem?_of_append hx with ⟨rfl, rfl⟩ | hx
  · rw [ha] at hkx
    cases hkx
  · rcases getElem?_of_append hy with ⟨rfl, rfl⟩ | hy
    · rw [ha] at hky
      cases hky
    · exact h i j x y hx hy k hkx hky

theorem TaggedOnce.set (h : TaggedOnce tag l)
    (hnew : ∀ k, tag a = some k → ∀ j b, j ≠ i → l[j]? = some b → tag b ≠ some k) :
    TaggedOnce tag (l.set i a) := by
  intro m n x y hx hy k hkx hky
  rcases getElem?_of_set hx with ⟨rfl, rfl⟩ | ⟨hmi, hold⟩
  · rcases getElem?_of_set hy with ⟨rfl, rfl⟩ | ⟨hni, hold⟩
    · rfl
    · exact absurd hky (hnew k hkx n y hni hold)
  · rcases getElem?_of_set hy with ⟨rfl, rfl⟩ | ⟨hni, hold'⟩
    · exact absurd hkx (hnew k hky m x hmi hold)
    · exact h m n x y hold hold' k hkx hky

theorem TaggedOnce.set_none (h : TaggedOnce tag l) (ha : tag a = none) :
    TaggedOnce tag (l.set i a) :=
  h.set fun k hk ↦ by rw [ha] at hk; cases hk

theorem TaggedOnce.set_same (h : TaggedOnce tag l) (hb : l[i]? = some b) (hab : tag a = tag b) :
    TaggedOnce tag (l.set i a) := by
  refine h.set fun k hk j c hji hc hkc ↦ hji ?_
  exact h j i c b hc hb k hkc (hab ▸ hk)

/-- Some entry other than the `i`-th meets `p`. -/
theorem any_eraseIdx {p : α → Bool} :
    (l.eraseIdx i).any p = true ↔ ∃ j a, j ≠ i ∧ l[j]? = some a ∧ p a = true := by
  rw [List.any_eq_true]
  constructor
  · rintro ⟨a, ha, hp⟩
    obtain ⟨j, hji, hj⟩ := List.mem_eraseIdx_iff_getElem?.mp ha
    exact ⟨j, a, hji, hj, hp⟩
  · rintro ⟨j, a, hji, hj, hp⟩
    exact ⟨a, List.mem_eraseIdx_iff_getElem?.mpr ⟨j, hji, hj⟩, hp⟩

end Calls
