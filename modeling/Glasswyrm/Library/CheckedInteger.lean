import Mathlib.Algebra.Order.Group.Int

namespace Glasswyrm.Library

/-! Signed arithmetic that has no result where the machine's would overflow. -/

def checkedInt (limit value : Int) : Option Int :=
  if -limit ≤ value ∧ value < limit then some value else none

def int32 (value : Int) : Option Int := checkedInt (2 ^ 31) value

def int64 (value : Int) : Option Int := checkedInt (2 ^ 63) value

theorem checkedInt_eq_some {limit value : Int} (low : -limit ≤ value)
    (high : value < limit) : checkedInt limit value = some value :=
  if_pos ⟨low, high⟩

theorem checkedInt_eq_some_iff {limit value result : Int} :
    checkedInt limit value = some result ↔
      (-limit ≤ value ∧ value < limit) ∧ result = value := by
  unfold checkedInt
  split
  · rename_i fits
    simp only [Option.some.injEq, fits, and_self, true_and]
    exact eq_comm
  · rename_i outside
    simp only [reduceCtorEq, outside, false_and]

theorem int64_eq_some {value : Int} (low : -2 ^ 63 ≤ value)
    (high : value < 2 ^ 63) : int64 value = some value :=
  checkedInt_eq_some low high

theorem int32_eq_some {value : Int} (low : -2 ^ 31 ≤ value)
    (high : value < 2 ^ 31) : int32 value = some value :=
  checkedInt_eq_some low high

/-! Conversions keep what fits and wrap what does not. -/

def castInt32 (value : Int) : Int := Int.bmod value 4294967296

def castUint32 (value : Int) : Nat := (value % 4294967296).toNat

theorem castInt32_of_fits (value : Int) (low : -2 ^ 31 ≤ value)
    (high : value < 2 ^ 31) : castInt32 value = value := by
  apply Int.bmod_eq_of_le <;> omega

theorem castUint32_of_fits (value : Int) (low : 0 ≤ value)
    (high : value < 2 ^ 32) : (castUint32 value : Int) = value := by
  unfold castUint32
  omega

end Glasswyrm.Library
