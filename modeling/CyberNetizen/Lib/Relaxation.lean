import Mathlib.Algebra.Order.Field.Basic
import Mathlib.Order.Interval.Set.UnorderedInterval
import Mathlib.Tactic.Linarith
import Mathlib.Tactic.Ring

/-! # Moving towards a baseline by a factor -/

namespace Relaxation

universe u

variable {K : Type u} [Field K]

def toward (baseline factor value : K) : K := baseline + (value - baseline) * factor

variable {baseline value f g : K}

theorem toward_toward :
    toward baseline g (toward baseline f value) = toward baseline (f * g) value := by
  unfold toward
  ring

theorem toward_zero_baseline : toward 0 f value = value * f := by
  unfold toward
  ring

theorem toward_eq_iff : toward baseline f value = toward baseline g value ↔
    value = baseline ∨ f = g := by
  unfold toward
  rw [add_right_inj, mul_eq_mul_left_iff, sub_eq_zero]
  exact or_comm

variable [LinearOrder K] [IsStrictOrderedRing K]

/-- A value stays in an interval around the baseline. -/
theorem toward_mem {low high : K} (hbase : low ≤ baseline ∧ baseline ≤ high)
    (hvalue : low ≤ value ∧ value ≤ high) (hfactor : 0 ≤ f ∧ f ≤ 1) :
    low ≤ toward baseline f value ∧ toward baseline f value ≤ high := by
  have heq : toward baseline f value = baseline * (1 - f) + value * f := by
    unfold toward
    ring
  have hrest : 0 ≤ 1 - f := by linarith [hfactor.2]
  rw [heq]
  constructor
  · calc low = low * (1 - f) + low * f := by ring
      _ ≤ baseline * (1 - f) + value * f :=
        add_le_add (mul_le_mul_of_nonneg_right hbase.1 hrest)
          (mul_le_mul_of_nonneg_right hvalue.1 hfactor.1)
  · calc baseline * (1 - f) + value * f
        ≤ high * (1 - f) + high * f :=
          add_le_add (mul_le_mul_of_nonneg_right hbase.2 hrest)
            (mul_le_mul_of_nonneg_right hvalue.2 hfactor.1)
      _ = high := by ring

theorem toward_mem_uIcc (hfactor : 0 ≤ f ∧ f ≤ 1) :
    toward baseline f value ∈ Set.uIcc baseline value := by
  have h : min baseline value ≤ toward baseline f value ∧
      toward baseline f value ≤ max baseline value :=
    toward_mem ⟨min_le_left baseline value, le_max_left baseline value⟩
      ⟨min_le_right baseline value, le_max_right baseline value⟩ hfactor
  exact h

end Relaxation
