import Mathlib.Algebra.Order.Ring.Int
import Mathlib.Data.Prod.Lex
import Mathlib.Data.Set.Basic
import Mathlib.Order.Lattice
import Mathlib.Order.Nat

namespace Glasswyrm.Geometry

/-- Coordinates are `int32_t`, extents `uint32_t`; edges are formed in 64
bits. -/
structure Rectangle where
  x : Int := 0
  y : Int := 0
  width : Nat := 0
  height : Nat := 0
deriving DecidableEq, Repr

namespace Rectangle

def right (rectangle : Rectangle) : Int := rectangle.x + rectangle.width

def bottom (rectangle : Rectangle) : Int := rectangle.y + rectangle.height

def empty (rectangle : Rectangle) : Bool :=
  rectangle.width = 0 || rectangle.height = 0

def Contains (rectangle : Rectangle) (x y : Int) : Prop :=
  rectangle.x ≤ x ∧ x < rectangle.right ∧
    rectangle.y ≤ y ∧ y < rectangle.bottom

instance (rectangle : Rectangle) (x y : Int) :
    Decidable (rectangle.Contains x y) :=
  inferInstanceAs (Decidable (_ ∧ _ ∧ _ ∧ _))

/-- The values that the fields of a rectangle hold. -/
def Representable (rectangle : Rectangle) : Prop :=
  (-2 ^ 31 ≤ rectangle.x ∧ rectangle.x < 2 ^ 31) ∧
    (-2 ^ 31 ≤ rectangle.y ∧ rectangle.y < 2 ^ 31) ∧
    rectangle.width < 2 ^ 32 ∧ rectangle.height < 2 ^ 32

instance (rectangle : Rectangle) : Decidable rectangle.Representable :=
  inferInstanceAs (Decidable (_ ∧ _ ∧ _ ∧ _))

def points (rectangle : Rectangle) : Set (Int × Int) :=
  {point | rectangle.Contains point.1 point.2}

@[simp] theorem mem_points {rectangle : Rectangle} {x y : Int} :
    (x, y) ∈ rectangle.points ↔ rectangle.Contains x y := Iff.rfl

theorem Contains.not_empty {rectangle : Rectangle} {x y : Int}
    (contains : rectangle.Contains x y) : rectangle.empty = false := by
  obtain ⟨left, right, top, bottom⟩ := contains
  unfold Rectangle.right at right
  unfold Rectangle.bottom at bottom
  simp only [empty, Bool.or_eq_false_iff, decide_eq_false_iff_not]
  omega

theorem points_of_empty {rectangle : Rectangle}
    (nothing : rectangle.empty = true) : rectangle.points = ∅ := by
  ext point
  refine ⟨fun inside => ?_, False.elim⟩
  exact absurd (Contains.not_empty inside) (by simp [nothing])

/-- What lies within a rectangle is no larger. -/
theorem extents_le_of_points_subset {inner outer : Rectangle}
    (inhabited : inner.empty = false) (within : inner.points ⊆ outer.points) :
    outer.x ≤ inner.x ∧ inner.right ≤ outer.right ∧
      outer.y ≤ inner.y ∧ inner.bottom ≤ outer.bottom := by
  simp only [empty, Bool.or_eq_false_iff, decide_eq_false_iff_not]
    at inhabited
  have first : (inner.x, inner.y) ∈ outer.points := within (by
    simp only [mem_points, Contains, right, bottom]
    omega)
  have last : (inner.right - 1, inner.bottom - 1) ∈ outer.points := within (by
    simp only [mem_points, Contains, right, bottom]
    omega)
  simp only [mem_points, Contains] at first last
  omega

end Rectangle

def intersect (left other : Rectangle) : Option Rectangle :=
  let x1 := max left.x other.x
  let y1 := max left.y other.y
  let x2 := min left.right other.right
  let y2 := min left.bottom other.bottom
  if x2 ≤ x1 ∨ y2 ≤ y1 then none
  else some {
    x := x1
    y := y1
    width := (x2 - x1).toNat
    height := (y2 - y1).toNat }

/-- The edges of an intersection. -/
theorem intersect_some {left other both : Rectangle}
    (met : intersect left other = some both) :
    both.x = max left.x other.x ∧ both.y = max left.y other.y ∧
      both.right = min left.right other.right ∧
      both.bottom = min left.bottom other.bottom ∧
      0 < both.width ∧ 0 < both.height := by
  unfold intersect at met
  simp only at met
  split at met
  · cases met
  · rename_i meets
    obtain rfl := Option.some.inj met
    simp only [Rectangle.right, Rectangle.bottom, not_or, not_le] at meets ⊢
    refine ⟨trivial, trivial, ?_⟩
    omega

theorem intersect_contains {left other both : Rectangle}
    (met : intersect left other = some both) (x y : Int) :
    both.Contains x y ↔ left.Contains x y ∧ other.Contains x y := by
  obtain ⟨x1, y1, x2, y2, _, _⟩ := intersect_some met
  unfold Rectangle.Contains
  omega

theorem intersect_points {left other both : Rectangle}
    (met : intersect left other = some both) :
    both.points = left.points ∩ other.points := by
  ext point
  exact intersect_contains met point.1 point.2

theorem intersect_none {left other : Rectangle}
    (apart : intersect left other = none) (x y : Int) :
    ¬(left.Contains x y ∧ other.Contains x y) := by
  unfold intersect at apart
  simp only at apart
  split at apart
  · unfold Rectangle.Contains
    omega
  · cases apart

/-! The order in which lists of rectangles are kept. -/

def sortKey (rectangle : Rectangle) : Int ×ₗ Int ×ₗ Nat ×ₗ Nat :=
  toLex (rectangle.y, toLex (rectangle.x,
    toLex (rectangle.height, rectangle.width)))

def Before (left right : Rectangle) : Prop := sortKey left ≤ sortKey right

instance : DecidableRel Before :=
  fun left right => inferInstanceAs (Decidable (sortKey left ≤ sortKey right))

instance : Std.Total Before := ⟨fun left right =>
  le_total (sortKey left) (sortKey right)⟩

instance : IsTrans Rectangle Before := ⟨fun _ _ _ => le_trans⟩

end Glasswyrm.Geometry
