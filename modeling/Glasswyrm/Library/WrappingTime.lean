import Mathlib.Algebra.Order.Ring.Int
import Mathlib.Order.Basic
import Mathlib.Data.List.Chain

namespace Glasswyrm.Library

/-! Times of 32 bits that wrap around. -/

/-- The first time is less than half a turn after the second one. -/
def laterTime (lhs rhs : UInt32) : Bool :=
  decide (0 < (lhs - rhs).toInt32)

theorem laterTime_self (time : UInt32) : laterTime time time = false := by
  rw [laterTime, UInt32.sub_self]
  rfl

theorem laterTime_iff (lhs rhs : UInt32) :
    laterTime lhs rhs = true ↔
      0 < (lhs - rhs).toNat ∧ (lhs - rhs).toNat < 2 ^ 31 := by
  rw [laterTime, decide_eq_true_eq, Int32.lt_iff_toInt_lt]
  generalize lhs - rhs = span
  have bound := span.toNat_lt
  rw [show span.toInt32.toInt = span.toBitVec.toInt from rfl,
    BitVec.toInt_eq_toNat_cond]
  simp only [UInt32.toNat_toBitVec]
  split
  · simp
    omega
  · simp
    omega

end Glasswyrm.Library
