import Mathlib.Order.Lattice

namespace Glasswyrm.Compositor

/-- Coordinates are `int32_t`, extents `uint32_t`; sums are formed in 64 bits. -/
structure Rectangle where
  x : Int := 0
  y : Int := 0
  width : Nat := 0
  height : Nat := 0
deriving DecidableEq, Repr

def int32Minimum : Int := -2147483648
def int32Maximum : Int := 2147483647

def coordinateFits (value : Int) : Bool :=
  int32Minimum ≤ value && value ≤ int32Maximum

namespace Rectangle

def right (rectangle : Rectangle) : Int := rectangle.x + rectangle.width

def bottom (rectangle : Rectangle) : Int := rectangle.y + rectangle.height

def empty (rectangle : Rectangle) : Bool :=
  rectangle.width = 0 || rectangle.height = 0

def hasValidExtents (rectangle : Rectangle) : Bool :=
  coordinateFits rectangle.right && coordinateFits rectangle.bottom

def intersection (left other : Rectangle) : Option Rectangle :=
  if left.empty || other.empty || !left.hasValidExtents ||
      !other.hasValidExtents then none
  else
    let x1 := max left.x other.x
    let y1 := max left.y other.y
    let x2 := min left.right other.right
    let y2 := min left.bottom other.bottom
    if x1 ≥ x2 ∨ y1 ≥ y2 then none
    else
      some {
        x := x1
        y := y1
        width := (x2 - x1).toNat
        height := (y2 - y1).toNat }

def translate (rectangle : Rectangle) (dx dy : Int) : Option Rectangle :=
  if !rectangle.hasValidExtents then none
  else if !coordinateFits (rectangle.x + dx) ||
      !coordinateFits (rectangle.y + dy) ||
      !coordinateFits (rectangle.right + dx) ||
      !coordinateFits (rectangle.bottom + dy) then none
  else some { rectangle with x := rectangle.x + dx, y := rectangle.y + dy }

def overlapsOrIsCompatiblyAdjacent (left other : Rectangle) : Bool :=
  if left.empty || other.empty || !left.hasValidExtents ||
      !other.hasValidExtents then false
  else
    let overlaps := left.x < other.right && other.x < left.right &&
      left.y < other.bottom && other.y < left.bottom
    let horizontal := left.y = other.y && left.height = other.height &&
      left.right ≥ other.x && other.right ≥ left.x
    let vertical := left.x = other.x && left.width = other.width &&
      left.bottom ≥ other.y && other.bottom ≥ left.y
    overlaps || horizontal || vertical

def boundingUnion (left other : Rectangle) : Option Rectangle :=
  if !left.hasValidExtents || !other.hasValidExtents then none
  else if left.empty then some other
  else if other.empty then some left
  else
    let x1 := min left.x other.x
    let y1 := min left.y other.y
    let x2 := max left.right other.right
    let y2 := max left.bottom other.bottom
    if !coordinateFits x1 || !coordinateFits y1 || !coordinateFits x2 ||
        !coordinateFits y2 then none
    else
      some {
        x := x1
        y := y1
        width := (x2 - x1).toNat
        height := (y2 - y1).toNat }

theorem coordinateFits_iff (value : Int) :
    coordinateFits value = true ↔ int32Minimum ≤ value ∧ value ≤ int32Maximum :=
  by simp [coordinateFits]

theorem hasValidExtents_iff (rectangle : Rectangle) :
    rectangle.hasValidExtents = true ↔
      int32Minimum ≤ rectangle.right ∧ rectangle.right ≤ int32Maximum ∧
        int32Minimum ≤ rectangle.bottom ∧
          rectangle.bottom ≤ int32Maximum := by
  simp [hasValidExtents, coordinateFits, and_assoc]

/-! ## The points of a rectangle -/

def Contains (rectangle : Rectangle) (x y : Int) : Prop :=
  rectangle.x ≤ x ∧ x < rectangle.right ∧
    rectangle.y ≤ y ∧ y < rectangle.bottom

instance (rectangle : Rectangle) (x y : Int) :
    Decidable (rectangle.Contains x y) :=
  inferInstanceAs (Decidable (_ ∧ _ ∧ _ ∧ _))

theorem Contains.not_empty {rectangle : Rectangle} {x y : Int}
    (contains : rectangle.Contains x y) : rectangle.empty = false := by
  obtain ⟨left, right, top, bottom⟩ := contains
  unfold Rectangle.right at right
  unfold Rectangle.bottom at bottom
  simp only [empty, Bool.or_eq_false_iff, decide_eq_false_iff_not]
  omega

theorem intersection_contains {left other result : Rectangle}
    (meets : left.intersection other = some result) (x y : Int) :
    result.Contains x y ↔ left.Contains x y ∧ other.Contains x y := by
  unfold intersection at meets
  split at meets
  · simp at meets
  · simp only at meets
    split at meets
    · simp at meets
    · rename_i ordered
      obtain rfl := Option.some.inj meets
      simp only [Contains, right, bottom] at ordered ⊢
      omega

theorem intersection_comm (left other : Rectangle) :
    left.intersection other = other.intersection left := by
  unfold intersection
  rw [Bool.or_comm left.empty, Bool.or_assoc, Bool.or_comm (!_),
    ← Bool.or_assoc]
  simp only [max_comm left.x, max_comm left.y, min_comm left.right,
    min_comm left.bottom, Bool.or_assoc]

/-- Two well-formed rectangles with a common point have an intersection. -/
theorem intersection_isSome {left other : Rectangle} {x y : Int}
    (leftValid : left.hasValidExtents = true)
    (otherValid : other.hasValidExtents = true)
    (inLeft : left.Contains x y) (inOther : other.Contains x y) :
    ∃ result, left.intersection other = some result := by
  have leftFull := inLeft.not_empty
  have otherFull := inOther.not_empty
  unfold intersection
  simp only [leftFull, otherFull, leftValid, otherValid, Bool.not_true,
    Bool.or_self, Bool.false_eq_true, if_false]
  split
  · rename_i apart
    simp only [Contains] at inLeft inOther
    omega
  · exact ⟨_, rfl⟩

theorem intersection_some {left other result : Rectangle}
    (meets : left.intersection other = some result) :
    left.hasValidExtents = true ∧ other.hasValidExtents = true ∧
      result.hasValidExtents = true ∧ result.empty = false ∧
      left.x ≤ result.x ∧ other.x ≤ result.x ∧ left.y ≤ result.y ∧
      other.y ≤ result.y := by
  unfold intersection at meets
  split at meets
  · simp at meets
  · rename_i valid
    simp only [Bool.or_eq_true, Bool.not_eq_true', not_or,
      Bool.not_eq_false] at valid
    simp only at meets
    split at meets
    · simp at meets
    · rename_i ordered
      obtain rfl := Option.some.inj meets
      obtain ⟨⟨_, leftValid⟩, otherValid⟩ := valid
      refine ⟨leftValid, otherValid, ?_, ?_, ?_⟩
      · rw [hasValidExtents_iff] at leftValid otherValid ⊢
        simp only [right, bottom] at leftValid otherValid ordered ⊢
        omega
      · simp only [empty, Bool.or_eq_false_iff, decide_eq_false_iff_not]
        omega
      · simp only
        omega

theorem translate_contains {rectangle result : Rectangle} {dx dy : Int}
    (placed : rectangle.translate dx dy = some result) (x y : Int) :
    result.Contains x y ↔ rectangle.Contains (x - dx) (y - dy) := by
  unfold translate at placed
  split at placed
  · simp at placed
  · split at placed
    · simp at placed
    · obtain rfl := Option.some.inj placed
      simp only [Contains, right, bottom]
      omega

theorem translate_some {rectangle result : Rectangle} {dx dy : Int}
    (placed : rectangle.translate dx dy = some result) :
    result = { rectangle with x := rectangle.x + dx, y := rectangle.y + dy } ∧
      result.hasValidExtents = true := by
  unfold translate at placed
  split at placed
  · simp at placed
  · split at placed
    · simp at placed
    · rename_i valid fits
      obtain rfl := Option.some.inj placed
      simp only [Bool.or_eq_true, Bool.not_eq_true', not_or,
        Bool.not_eq_false] at fits
      refine ⟨rfl, ?_⟩
      obtain ⟨⟨_, rightFits⟩, bottomFits⟩ := fits
      rw [coordinateFits_iff] at rightFits bottomFits
      rw [hasValidExtents_iff]
      simp only [right, bottom] at rightFits bottomFits ⊢
      omega

theorem boundingUnion_contains {left other result : Rectangle}
    (united : left.boundingUnion other = some result) {x y : Int}
    (inside : left.Contains x y ∨ other.Contains x y) :
    result.Contains x y := by
  unfold boundingUnion at united
  split at united
  · simp at united
  · split at united
    · rename_i leftEmpty
      obtain rfl := Option.some.inj united
      rcases inside with inside | inside
      · simp [inside.not_empty] at leftEmpty
      · exact inside
    · split at united
      · rename_i otherEmpty
        obtain rfl := Option.some.inj united
        rcases inside with inside | inside
        · exact inside
        · simp [inside.not_empty] at otherEmpty
      · simp only at united
        split at united
        · simp at united
        · obtain rfl := Option.some.inj united
          simp only [Contains, right, bottom] at inside ⊢
          omega

/-! ## Rectangles within a rectangle -/

structure Within (inner outer : Rectangle) : Prop where
  left : outer.x ≤ inner.x
  right : inner.right ≤ outer.right
  top : outer.y ≤ inner.y
  bottom : inner.bottom ≤ outer.bottom

theorem Within.refl (rectangle : Rectangle) : rectangle.Within rectangle :=
  ⟨Int.le_refl _, Int.le_refl _, Int.le_refl _, Int.le_refl _⟩

theorem Within.contains {inner outer : Rectangle} (within : inner.Within outer)
    {x y : Int} (inside : inner.Contains x y) : outer.Contains x y := by
  obtain ⟨left, right, top, bottom⟩ := within
  simp only [Contains] at inside ⊢
  omega

theorem intersection_within {left other result : Rectangle}
    (meets : left.intersection other = some result) :
    result.Within left ∧ result.Within other := by
  unfold intersection at meets
  split at meets
  · simp at meets
  · simp only at meets
    split at meets
    · simp at meets
    · rename_i ordered
      obtain rfl := Option.some.inj meets
      constructor <;> constructor <;>
        simp only [Rectangle.right, Rectangle.bottom] at ordered ⊢ <;> omega

/-- A rectangle is what it has in common with one around it. -/
theorem intersection_of_within {inner outer : Rectangle}
    (within : inner.Within outer)
    (valid : inner.hasValidExtents = true) (solid : inner.empty = false)
    (outerValid : outer.hasValidExtents = true) :
    inner.intersection outer = some inner := by
  obtain ⟨left, right, top, bottom⟩ := within
  have outerSolid : outer.empty = false := by
    simp only [empty, Bool.or_eq_false_iff, decide_eq_false_iff_not] at solid ⊢
    simp only [Rectangle.right, Rectangle.bottom] at right bottom
    omega
  unfold intersection
  simp only [valid, solid, outerValid, outerSolid, Bool.not_true,
    Bool.or_self, Bool.false_eq_true, if_false, max_eq_left left,
    max_eq_left top, min_eq_left right, min_eq_left bottom]
  simp only [empty, Bool.or_eq_false_iff, decide_eq_false_iff_not] at solid
  have width : (inner.right - inner.x).toNat = inner.width := by
    simp only [Rectangle.right]
    omega
  have height : (inner.bottom - inner.y).toNat = inner.height := by
    simp only [Rectangle.bottom]
    omega
  rw [if_neg (by simp only [Rectangle.right, Rectangle.bottom]; omega), width,
    height]

theorem boundingUnion_within {left other result outer : Rectangle}
    (united : left.boundingUnion other = some result)
    (leftWithin : left.Within outer) (otherWithin : other.Within outer) :
    result.Within outer := by
  unfold boundingUnion at united
  split at united
  · simp at united
  · split at united
    · obtain rfl := Option.some.inj united
      exact otherWithin
    · split at united
      · obtain rfl := Option.some.inj united
        exact leftWithin
      · simp only at united
        split at united
        · simp at united
        · obtain rfl := Option.some.inj united
          obtain ⟨left, right, top, bottom⟩ := leftWithin
          obtain ⟨otherLeft, otherRight, otherTop, otherBottom⟩ := otherWithin
          constructor <;>
            simp only [Rectangle.right, Rectangle.bottom] at * <;> omega

theorem boundingUnion_solid {left other result : Rectangle}
    (united : left.boundingUnion other = some result)
    (leftSolid : left.empty = false) (otherSolid : other.empty = false) :
    result.empty = false := by
  unfold boundingUnion at united
  simp only [leftSolid, otherSolid, Bool.false_eq_true, if_false] at united
  split at united
  · cases united
  · split at united
    · cases united
    · obtain rfl := Option.some.inj united
      simp only [empty, Bool.or_eq_false_iff, decide_eq_false_iff_not]
        at leftSolid otherSolid ⊢
      simp only [right, bottom]
      omega

end Rectangle

end Glasswyrm.Compositor
