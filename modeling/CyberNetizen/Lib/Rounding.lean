import Mathlib.Algebra.Order.Field.Basic
import Mathlib.Algebra.Ring.Int.Parity
import Mathlib.Algebra.Order.Floor.Ring
import Mathlib.Tactic.Linarith

/-! # Rounding to an integer, ties to the even neighbour -/

namespace Rounding

universe u

variable {K : Type u} [Field K] [LinearOrder K] [IsStrictOrderedRing K]

/-- `n` is nearest to `x`, and even if another integer is as near. -/
structure HalfEven (x : K) (n : ℤ) : Prop where
  below : (n : K) - 1 / 2 ≤ x
  above : x ≤ n + 1 / 2
  low : x = n - 1 / 2 → Even n
  high : x = n + 1 / 2 → Even n

namespace HalfEven

variable {x y : K} {n m : ℤ}

theorem mono (hx : HalfEven x n) (hy : HalfEven y m) (h : x ≤ y) : n ≤ m := by
  by_contra hlt
  have hnext : m + 1 ≤ n := by omega
  have hcast : (m : K) + 1 ≤ n := by exact_mod_cast hnext
  have hbelow := hx.below
  have habove := hy.above
  have hxn : x = n - 1 / 2 := by linarith
  have hym : y = m + 1 / 2 := by linarith
  have hnm : (n : K) = (m + 1 : ℤ) := by
    push_cast
    linarith
  have hsucc : n = m + 1 := by exact_mod_cast hnm
  have hm := hy.high hym
  have hn := hx.low hxn
  rw [hsucc] at hn
  exact (Int.even_add_one.mp hn) hm

theorem unique (hn : HalfEven x n) (hm : HalfEven x m) : n = m :=
  le_antisymm (hn.mono hm le_rfl) (hm.mono hn le_rfl)

end HalfEven

end Rounding
