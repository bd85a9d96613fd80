import Mathlib.Algebra.BigOperators.Group.List.Basic
import Mathlib.Algebra.GroupWithZero.Nat

/-! # Looking at all that a stack of items leads to -/

namespace Worklist

universe u v

variable {α : Type u} {ε : Type v}

/-- How one item is looked at: it is refused, or else smaller ones are put on the stack. -/
structure Visitor (α : Type u) (ε : Type v) where
  visit : α → Except ε (List α)
  smaller : ∃ size : α → ℕ, ∀ a pushed, visit a = .ok pushed → (pushed.map size).sum < size a

variable (w : Visitor α ε)

def Visitor.run : List α → Except ε Unit
  | [] => .ok ()
  | a :: pending =>
    match _h : w.visit a with
    | .error e => .error e
    | .ok pushed => Visitor.run (pushed.reverse ++ pending)
  termination_by pending => (pending.map w.smaller.choose).sum
  decreasing_by
    have hsmaller := w.smaller.choose_spec a pushed _h
    rw [List.unattach_reverse, List.unattach_attach, List.map_append, List.sum_append,
      List.map_reverse, List.sum_reverse, List.map_cons, List.sum_cons]
    omega

/-- The items that come to lie on the stack. -/
inductive Visitor.Reaches (pending : List α) : α → Prop
  | start {a : α} (h : a ∈ pending) : Reaches pending a
  | pushed {a b : α} {l : List α} (h : Reaches pending a) (hvisit : w.visit a = .ok l)
      (hb : b ∈ l) : Reaches pending b

variable {w} {pending pending' : List α} {a b : α} {e : ε}

theorem run_nil : w.run [] = .ok () := by
  rw [Visitor.run]

theorem run_cons_error (h : w.visit a = .error e) : w.run (a :: pending) = .error e := by
  rw [Visitor.run]
  split <;> rename_i h' <;> rw [h] at h' <;> cases h'
  rfl

theorem run_cons_ok {pushed : List α} (h : w.visit a = .ok pushed) :
    w.run (a :: pending) = w.run (pushed.reverse ++ pending) := by
  rw [Visitor.run]
  split <;> rename_i h' <;> rw [h] at h' <;> cases h'
  rfl

theorem not_reaches_nil : ¬w.Reaches [] a := by
  intro h
  induction h with
  | start hmem => exact List.not_mem_nil hmem
  | pushed _ _ _ ih => exact ih

theorem Visitor.Reaches.trans (h : w.Reaches pending' b)
    (hsub : ∀ c ∈ pending', w.Reaches pending c) : w.Reaches pending b := by
  induction h with
  | start hmem => exact hsub _ hmem
  | pushed _ hvisit hb ih => exact .pushed ih hvisit hb

theorem reaches_cons {pushed : List α} (hvisit : w.visit a = .ok pushed)
    (h : w.Reaches (a :: pending) b) : b = a ∨ w.Reaches (pushed.reverse ++ pending) b := by
  induction h with
  | start hmem =>
    rcases List.mem_cons.mp hmem with rfl | hmem
    · exact .inl rfl
    · exact .inr (.start (List.mem_append_right _ hmem))
  | pushed hreach hvisit' hb ih =>
    apply Or.inr
    rcases ih with rfl | ih
    · rw [hvisit] at hvisit'
      cases hvisit'
      exact .start (List.mem_append_left _ (List.mem_reverse.mpr hb))
    · exact .pushed ih hvisit' hb

theorem reaches_of_pushed {pushed : List α} (hvisit : w.visit a = .ok pushed)
    (h : w.Reaches (pushed.reverse ++ pending) b) : w.Reaches (a :: pending) b := by
  apply h.trans
  intro c hc
  rcases List.mem_append.mp hc with hc | hc
  · exact .pushed (.start List.mem_cons_self) hvisit (List.mem_reverse.mp hc)
  · exact .start (List.mem_cons_of_mem a hc)

/-- The run succeeds exactly if nothing that the stack leads to is refused. -/
theorem run_eq_ok (w : Visitor α ε) (pending : List α) :
    w.run pending = .ok () ↔ ∀ a, w.Reaches pending a → ∃ pushed, w.visit a = .ok pushed := by
  induction pending using Visitor.run.induct w with
  | case1 =>
    exact iff_of_true run_nil fun a h ↦ absurd h not_reaches_nil
  | case2 a pending e h =>
    rw [run_cons_error h]
    refine iff_of_false (nofun) fun hall ↦ ?_
    obtain ⟨pushed, hok⟩ := hall a (.start List.mem_cons_self)
    rw [h] at hok
    cases hok
  | case3 a pending pushed h ih =>
    rw [List.unattach_reverse, List.unattach_attach] at ih
    rw [run_cons_ok h, ih]
    constructor
    · intro hall b hb
      rcases reaches_cons h hb with rfl | hb
      · exact ⟨pushed, h⟩
      · exact hall b hb
    · exact fun hall b hb ↦ hall b (reaches_of_pushed h hb)

theorem of_run_eq_error (w : Visitor α ε) (pending : List α) (h : w.run pending = .error e) :
    ∃ a, w.Reaches pending a ∧ w.visit a = .error e := by
  induction pending using Visitor.run.induct w with
  | case1 =>
    rw [run_nil] at h
    cases h
  | case2 a pending e' h' =>
    rw [run_cons_error h'] at h
    cases h
    exact ⟨a, .start List.mem_cons_self, h'⟩
  | case3 a pending pushed h' ih =>
    rw [List.unattach_reverse, List.unattach_attach] at ih
    rw [run_cons_ok h'] at h
    obtain ⟨b, hreach, hb⟩ := ih h
    exact ⟨b, reaches_of_pushed h' hreach, hb⟩

end Worklist
