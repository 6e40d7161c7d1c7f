import Mathlib.Algebra.Order.Ring.Int
import Mathlib.Tactic.Linarith
import Mathlib.Tactic.Ring

namespace Glasswyrm.Library

/-! The lattice points nearest to a line that rises `minor` over `major`, no
steeper than the diagonal: half a unit is rounded up. -/

def nearestRise (major minor run : Nat) : Nat :=
  (2 * minor * run + major) / (2 * major)

/-- How far the lattice point lies above the line, times `major`. -/
def riseError (major minor run : Nat) : Int :=
  major * nearestRise major minor run - minor * run

variable {major minor : Nat}

theorem riseError_bounds (minor : Nat) (positive : 0 < major) (run : Nat) :
    -(major : Int) < 2 * riseError major minor run ∧
      2 * riseError major minor run ≤ major := by
  have split := Nat.div_add_mod (2 * minor * run + major) (2 * major)
  have rest := Nat.mod_lt (2 * minor * run + major)
    (Nat.mul_pos Nat.two_pos positive)
  unfold riseError nearestRise
  generalize (2 * minor * run + major) / (2 * major) = quotient at *
  generalize (2 * minor * run + major) % (2 * major) = remainder at *
  have nonneg := Int.natCast_nonneg remainder
  zify at split rest
  constructor <;> linarith

/-- The rise is the only one within the bounds. -/
theorem nearestRise_unique {run rise : Nat}
    (low : -(major : Int) < 2 * (major * rise - minor * run : Int))
    (high : 2 * (major * rise - minor * run : Int) ≤ major) :
    nearestRise major minor run = rise := by
  unfold nearestRise
  apply Nat.div_eq_of_lt_le
  · zify
    linarith
  · zify
    linarith

@[simp] theorem nearestRise_zero (positive : 0 < major) :
    nearestRise major minor 0 = 0 := by
  apply nearestRise_unique <;> push_cast <;> omega

theorem nearestRise_end (positive : 0 < major) :
    nearestRise major minor major = minor := by
  apply nearestRise_unique <;> linarith

/-- One step along the line: the rise grows by one if the error would
otherwise fall below what is rounded up. -/
theorem nearestRise_succ (positive : 0 < major) (flat : minor ≤ major)
    (run : Nat) :
    nearestRise major minor (run + 1) =
      if 2 * (riseError major minor run - minor) ≤ -(major : Int) then
        nearestRise major minor run + 1
      else nearestRise major minor run := by
  obtain ⟨low, high⟩ := riseError_bounds minor positive run
  unfold riseError at *
  split
  · rename_i rises
    apply nearestRise_unique <;> push_cast <;> linarith
  · rename_i stays
    apply nearestRise_unique <;> push_cast <;> linarith

theorem riseError_succ (positive : 0 < major) (flat : minor ≤ major)
    (run : Nat) :
    riseError major minor (run + 1) =
      if 2 * (riseError major minor run - minor) ≤ -(major : Int) then
        riseError major minor run - minor + major
      else riseError major minor run - minor := by
  rw [riseError, nearestRise_succ positive flat run]
  split <;> rw [riseError] <;> push_cast <;> ring

theorem nearestRise_le (positive : 0 < major) {run : Nat}
    (within : run ≤ major) : nearestRise major minor run ≤ minor :=
  calc nearestRise major minor run
      ≤ nearestRise major minor major := Nat.div_le_div_right
        (Nat.add_le_add_right (Nat.mul_le_mul_left (2 * minor) within) major)
    _ = minor := nearestRise_end positive

end Glasswyrm.Library
