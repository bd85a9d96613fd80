import Mathlib.Data.List.Pairwise

/-! # Bindings that are entered once and lost only with an owner -/

namespace Registry

universe u v w

variable {β : Type u} {ι : Type v} {κ : Type w}

/-- The bindings held now, those ever entered, and the owners that are gone for good. -/
structure Register (β : Type u) (ι : Type v) where
  held : List β
  entered : List β
  gone : List ι

namespace Register

def enter (r : Register β ι) (b : β) : Register β ι :=
  { r with held := r.held ++ [b], entered := r.entered ++ [b] }

def retire [DecidableEq ι] (owners : β → List ι) (os : List ι) (r : Register β ι) : Register β ι where
  held := r.held.filter fun b ↦ ∀ o ∈ owners b, o ∉ os
  entered := r.entered
  gone := r.gone ++ os

end Register

/-- A binding is lost only with one of its owners, and held only while none of them is gone. -/
structure Valid (owners : β → List ι) (r : Register β ι) : Prop where
  entered : ∀ b ∈ r.held, b ∈ r.entered
  lost : ∀ b ∈ r.entered, b ∈ r.held ∨ ∃ o ∈ owners b, o ∈ r.gone
  owned : ∀ b ∈ r.held, ∀ o ∈ owners b, o ∉ r.gone

variable {owners : β → List ι} {r : Register β ι} {b : β}

theorem Valid.enter (h : Valid owners r) (hb : ∀ o ∈ owners b, o ∉ r.gone) :
    Valid owners (r.enter b) where
  entered := by
    intro a ha
    rcases List.mem_append.mp ha with ha | ha
    · exact List.mem_append_left _ (h.entered a ha)
    · exact List.mem_append_right _ ha
  lost := by
    intro a ha
    rcases List.mem_append.mp ha with ha | ha
    · exact (h.lost a ha).imp_left (List.mem_append_left _)
    · exact .inl (List.mem_append_right _ ha)
  owned := by
    intro a ha
    rcases List.mem_append.mp ha with ha | ha
    · exact h.owned a ha
    · rw [List.mem_singleton.mp ha]
      exact hb

theorem Valid.retire [DecidableEq ι] {os : List ι} (h : Valid owners r) :
    Valid owners (r.retire owners os) where
  entered a ha := h.entered a (List.mem_filter.mp ha).1
  lost := by
    intro a ha
    rcases h.lost a ha with hheld | ⟨o, ho, hgone⟩
    · by_cases hstay : ∀ o ∈ owners a, o ∉ os
      · exact .inl (List.mem_filter.mpr ⟨hheld, decide_eq_true hstay⟩)
      · simp only [not_forall, not_not] at hstay
        obtain ⟨o, ho, hos⟩ := hstay
        exact .inr ⟨o, ho, List.mem_append_right _ hos⟩
    · exact .inr ⟨o, ho, List.mem_append_left _ hgone⟩
  owned := by
    intro a ha o ho hgone
    obtain ⟨hheld, hstay⟩ := List.mem_filter.mp ha
    rcases List.mem_append.mp hgone with hgone | hos
    · exact h.owned a hheld o ho hgone
    · exact of_decide_eq_true hstay o ho hos

section keys

variable {key : β → κ}

def Replaced (owners : β → List ι) (key : β → κ) (r : Register β ι) : Prop :=
  r.entered.Pairwise fun a b ↦ key a = key b → ∃ o ∈ owners a, o ∈ r.gone ∧ o ∉ owners b

theorem Valid.replaced_enter (hv : Valid owners r) (hr : Replaced owners key r)
    (hnew : ∀ a ∈ r.held, key a ≠ key b) (hb : ∀ o ∈ owners b, o ∉ r.gone) :
    Replaced owners key (r.enter b) := by
  refine List.pairwise_append.mpr ⟨hr, List.pairwise_singleton .., ?_⟩
  intro a ha c hc hkey
  rw [List.mem_singleton.mp hc] at hkey ⊢
  rcases hv.lost a ha with hheld | ⟨o, ho, hgone⟩
  · exact absurd hkey (hnew a hheld)
  · exact ⟨o, ho, hgone, fun hob ↦ hb o hob hgone⟩

theorem Replaced.retire [DecidableEq ι] {os : List ι} (h : Replaced owners key r) :
    Replaced owners key (r.retire owners os) := by
  refine h.imp fun hab hkey ↦ ?_
  obtain ⟨o, ho, hgone, hb⟩ := hab hkey
  exact ⟨o, ho, List.mem_append_left _ hgone, hb⟩

/-- Two bindings of one key are one and the same, or an owner of one that the other has not is
gone. -/
theorem Replaced.eq_or_gone (h : Replaced owners key r) {a b : β} (ha : a ∈ r.entered)
    (hb : b ∈ r.entered) (hkey : key a = key b) :
    a = b ∨ (∃ o ∈ owners a, o ∈ r.gone ∧ o ∉ owners b) ∨
      ∃ o ∈ owners b, o ∈ r.gone ∧ o ∉ owners a := by
  have hsymm : Std.Symm fun a b ↦ key a = key b →
      (∃ o ∈ owners a, o ∈ r.gone ∧ o ∉ owners b) ∨
        ∃ o ∈ owners b, o ∈ r.gone ∧ o ∉ owners a :=
    ⟨fun a b hab hkey ↦ (hab hkey.symm).symm⟩
  by_cases hne : a = b
  · exact .inl hne
  · have hpairs : r.entered.Pairwise fun a b ↦ key a = key b →
        (∃ o ∈ owners a, o ∈ r.gone ∧ o ∉ owners b) ∨
          ∃ o ∈ owners b, o ∈ r.gone ∧ o ∉ owners a :=
      h.imp fun hab hkey ↦ .inl (hab hkey)
    exact .inr (hpairs.forall ha hb hne hkey)

theorem Replaced.eq_of_owners_eq (h : Replaced owners key r) {a b : β} (ha : a ∈ r.entered)
    (hb : b ∈ r.entered) (hkey : key a = key b) (howners : owners a = owners b) : a = b := by
  rcases h.eq_or_gone ha hb hkey with heq | ⟨o, ho, -, hnot⟩ | ⟨o, ho, -, hnot⟩
  · exact heq
  · exact absurd (howners ▸ ho) hnot
  · exact absurd (howners ▸ ho) hnot

end keys

end Registry
