import Mathlib.Logic.Function.Basic
import Mathlib.Tactic.Common

namespace Glasswyrm.Library

/-! Numbers given out one after another, each to one object and for good. -/

variable {α : Type*}

/-- The objects that have a number have different ones, from `start` on and
below `next`. -/
structure Numbering (start next : Nat) (assigned : α → Option Nat) : Prop where
  started : start ≤ next
  within : ∀ object number, assigned object = some number →
    start ≤ number ∧ number < next
  distinct : ∀ first second number, assigned first = some number →
    assigned second = some number → first = second

namespace Numbering

variable {start next : Nat} {assigned : α → Option Nat}

theorem empty (start : Nat) : Numbering start start fun _ : α => none where
  started := Nat.le_refl start
  within := by
    intro object number found
    cases found
  distinct := by
    intro first second number found
    cases found

/-- The next number is free. -/
theorem assign [DecidableEq α] (numbering : Numbering start next assigned)
    (object : α) :
    Numbering start (next + 1)
      (Function.update assigned object (some next)) where
  started := Nat.le_succ_of_le numbering.started
  within := by
    intro other number found
    rw [Function.update_apply] at found
    split at found
    · obtain rfl := Option.some.inj found
      exact ⟨numbering.started, Nat.lt_succ_self next⟩
    · obtain ⟨above, below⟩ := numbering.within other number found
      exact ⟨above, Nat.lt_succ_of_lt below⟩
  distinct := by
    intro first second number left right
    rw [Function.update_apply] at left right
    split at left <;> split at right
    · rename_i here there
      exact here.trans there.symm
    · obtain rfl := Option.some.inj left
      exact absurd (numbering.within second next right).2 (Nat.lt_irrefl next)
    · obtain rfl := Option.some.inj right
      exact absurd (numbering.within first next left).2 (Nat.lt_irrefl next)
    · exact numbering.distinct first second number left right

end Numbering

/-- What an object was given stays its own. -/
def Retains (earlier later : α → Option Nat) : Prop :=
  ∀ object number, earlier object = some number → later object = some number

namespace Retains

variable {first second third : α → Option Nat}

theorem refl (assigned : α → Option Nat) : Retains assigned assigned :=
  fun _ _ found => found

theorem trans (early : Retains first second) (late : Retains second third) :
    Retains first third :=
  fun object number found => late object number (early object number found)

theorem assign [DecidableEq α] {object : α} (new : first object = none)
    (number : Nat) :
    Retains first (Function.update first object (some number)) := by
  intro other kept found
  rw [Function.update_of_ne, found]
  rintro rfl
  rw [new] at found
  cases found

theorem isSome (retains : Retains first second) {object : α}
    (given : (first object).isSome = true) :
    (second object).isSome = true := by
  obtain ⟨number, found⟩ := Option.isSome_iff_exists.mp given
  exact Option.isSome_iff_exists.mpr
    ⟨number, retains object number found⟩

end Retains

end Glasswyrm.Library
