import Mathlib.Data.Nat.GCD.Basic
import Glasswyrm.Output.Types

namespace Glasswyrm.Output

/-! Logical desktop coordinates and the native pixels of one output.
Unsigned values are natural numbers; the checks against the 32- and 64-bit
ranges are those of the source. -/

def uint32Maximum : Nat := 4294967295
def wideMaximum : Nat := 9223372036854775807
def kMaximumScaleDenominator : Nat := 120

structure PhysicalExtent where
  width : Nat := 0
  height : Nat := 0
deriving DecidableEq, Repr

structure LogicalExtent where
  width : Nat := 0
  height : Nat := 0
deriving DecidableEq, Repr

structure LogicalPoint where
  x : Int := 0
  y : Int := 0
deriving DecidableEq, Repr

structure PhysicalPoint where
  x : Nat := 0
  y : Nat := 0
deriving DecidableEq, Repr

structure PhysicalRectangle where
  x : Nat := 0
  y : Nat := 0
  width : Nat := 0
  height : Nat := 0
deriving DecidableEq, Repr

def PhysicalRectangle.empty (rectangle : PhysicalRectangle) : Bool :=
  rectangle.width = 0 || rectangle.height = 0

def LogicalRectangle.empty (rectangle : LogicalRectangle) : Bool :=
  rectangle.width = 0 || rectangle.height = 0

/-! ## Scales -/

namespace RationalScale

def isReduced (scale : RationalScale) : Bool :=
  scale.numerator ≠ 0 && scale.denominator ≠ 0 &&
    Nat.gcd scale.numerator scale.denominator = 1

def inRange (value minimum maximum : RationalScale) : Bool :=
  value.numerator ≠ 0 && value.denominator ≠ 0 && minimum.numerator ≠ 0 &&
    minimum.denominator ≠ 0 && maximum.numerator ≠ 0 &&
    maximum.denominator ≠ 0 &&
    minimum.numerator * value.denominator ≤
      value.numerator * minimum.denominator &&
    value.numerator * maximum.denominator ≤
      maximum.numerator * value.denominator

def validOutputScale (scale : RationalScale) : Bool :=
  scale.denominator ≤ kMaximumScaleDenominator && scale.isReduced &&
    scale.inRange { numerator := 1, denominator := 1 }
      { numerator := 4, denominator := 1 }

end RationalScale

def deriveLogicalDimension (transformedPhysicalExtent : Nat)
    (scale : RationalScale) : Option Nat :=
  if !scale.isReduced then none
  else
    let product := transformedPhysicalExtent * scale.denominator
    let rounded := product / scale.numerator +
      if product % scale.numerator ≠ 0 then 1 else 0
    if uint32Maximum < rounded then none else some rounded

def deriveLogicalExtent (transformed : PhysicalExtent)
    (scale : RationalScale) : Option LogicalExtent := do
  let width ← deriveLogicalDimension transformed.width scale
  let height ← deriveLogicalDimension transformed.height scale
  return { width, height }

/-! ## Transforms -/

def transformSwapsAxes : OutputTransform → Bool
  | .rotate90 | .rotate270 | .flipped90 | .flipped270 => true
  | _ => false

def transformedPhysicalExtent (native : PhysicalExtent)
    (transform : OutputTransform) : PhysicalExtent :=
  if transformSwapsAxes transform then
    { width := native.height, height := native.width }
  else native

def containsBoundary (extent : PhysicalExtent) (point : PhysicalPoint) :
    Bool :=
  point.x ≤ extent.width && point.y ≤ extent.height

def containsRectangle (extent : PhysicalExtent)
    (rectangle : PhysicalRectangle) : Bool :=
  rectangle.x + rectangle.width ≤ extent.width &&
    rectangle.y + rectangle.height ≤ extent.height

/-- The image of a boundary point, case by case as in the source. -/
def boundaryImage (point : PhysicalPoint) (native : PhysicalExtent) :
    OutputTransform → PhysicalPoint
  | .normal => { x := point.x, y := point.y }
  | .rotate90 => { x := native.width - point.y, y := point.x }
  | .rotate180 =>
      { x := native.width - point.x, y := native.height - point.y }
  | .rotate270 => { x := point.y, y := native.height - point.x }
  | .flipped => { x := native.width - point.x, y := point.y }
  | .flipped90 =>
      { x := native.width - point.y, y := native.height - point.x }
  | .flipped180 => { x := point.x, y := native.height - point.y }
  | .flipped270 => { x := point.y, y := point.x }

def transformBoundary (point : PhysicalPoint) (native : PhysicalExtent)
    (transform : OutputTransform) : Option PhysicalPoint :=
  if !containsBoundary (transformedPhysicalExtent native transform) point then
    none
  else some (boundaryImage point native transform)

def inverseBoundaryImage (point : PhysicalPoint) (native : PhysicalExtent) :
    OutputTransform → PhysicalPoint
  | .normal => { x := point.x, y := point.y }
  | .rotate90 => { x := point.y, y := native.width - point.x }
  | .rotate180 =>
      { x := native.width - point.x, y := native.height - point.y }
  | .rotate270 => { x := native.height - point.y, y := point.x }
  | .flipped => { x := native.width - point.x, y := point.y }
  | .flipped90 =>
      { x := native.height - point.y, y := native.width - point.x }
  | .flipped180 => { x := point.x, y := native.height - point.y }
  | .flipped270 => { x := point.y, y := point.x }

def inverseTransformBoundary (point : PhysicalPoint)
    (native : PhysicalExtent) (transform : OutputTransform) :
    Option PhysicalPoint :=
  if !containsBoundary native point then none
  else some (inverseBoundaryImage point native transform)

/-- The rectangle spanned by the images of the four corners. -/
def mapRectangleCorners (rectangle : PhysicalRectangle)
    (mapper : PhysicalPoint → Option PhysicalPoint) :
    Option PhysicalRectangle := do
  let x1 := rectangle.x + rectangle.width
  let y1 := rectangle.y + rectangle.height
  let first ← mapper { x := rectangle.x, y := rectangle.y }
  let second ← mapper { x := x1, y := rectangle.y }
  let third ← mapper { x := rectangle.x, y := y1 }
  let fourth ← mapper { x := x1, y := y1 }
  let minimumX := min (min first.x second.x) (min third.x fourth.x)
  let maximumX := max (max first.x second.x) (max third.x fourth.x)
  let minimumY := min (min first.y second.y) (min third.y fourth.y)
  let maximumY := max (max first.y second.y) (max third.y fourth.y)
  return {
    x := minimumX
    y := minimumY
    width := maximumX - minimumX
    height := maximumY - minimumY }

def transformRectangle (rectangle : PhysicalRectangle)
    (native : PhysicalExtent) (transform : OutputTransform) :
    Option PhysicalRectangle :=
  if !containsRectangle (transformedPhysicalExtent native transform)
      rectangle then none
  else
    mapRectangleCorners rectangle (transformBoundary · native transform)

def inverseTransformRectangle (rectangle : PhysicalRectangle)
    (native : PhysicalExtent) (transform : OutputTransform) :
    Option PhysicalRectangle :=
  if !containsRectangle native rectangle then none
  else
    mapRectangleCorners rectangle
      (inverseTransformBoundary · native transform)

/-! ## Mappings -/

structure OutputMapping where
  logicalOrigin : LogicalPoint := {}
  logicalExtent : LogicalExtent := {}
  physicalExtent : PhysicalExtent := {}
  scale : RationalScale := {}
  transform : OutputTransform := .normal
deriving DecidableEq, Repr

/-- An exact logical sampling position over a common denominator. -/
structure LogicalSamplePoint where
  xNumerator : Int := 0
  yNumerator : Int := 0
  denominator : Nat := 1
deriving DecidableEq, Repr

inductive DamageFilterFootprint
  | point
  | bilinear
deriving DecidableEq, Repr

namespace OutputMapping

def right (mapping : OutputMapping) : Int :=
  mapping.logicalOrigin.x + mapping.logicalExtent.width

def bottom (mapping : OutputMapping) : Int :=
  mapping.logicalOrigin.y + mapping.logicalExtent.height

/-- The result of `logical_bounds`; the edges are the fields above. -/
def logicalBounds (mapping : OutputMapping) : Bool :=
  0 ≤ mapping.logicalOrigin.x && 0 ≤ mapping.logicalOrigin.y &&
    mapping.right ≤ 2147483647 && mapping.bottom ≤ 2147483647

def valid (mapping : OutputMapping) : Bool :=
  mapping.logicalExtent.width ≠ 0 && mapping.logicalExtent.height ≠ 0 &&
    mapping.physicalExtent.width ≠ 0 && mapping.physicalExtent.height ≠ 0 &&
    mapping.scale.validOutputScale && mapping.logicalBounds &&
    deriveLogicalExtent
        (transformedPhysicalExtent mapping.physicalExtent mapping.transform)
        mapping.scale =
      some mapping.logicalExtent

end OutputMapping

def scaledFloor (logical : Nat) (scale : RationalScale) : Option Nat :=
  if scale.numerator = 0 || scale.denominator = 0 ||
      18446744073709551615 / scale.numerator < logical then none
  else
    let value := logical * scale.numerator / scale.denominator
    if uint32Maximum < value then none else some value

def scaledCeil (logical : Nat) (scale : RationalScale) : Option Nat :=
  if scale.numerator = 0 || scale.denominator = 0 ||
      18446744073709551615 / scale.numerator < logical then none
  else
    let product := logical * scale.numerator
    let value := product / scale.denominator +
      if product % scale.denominator ≠ 0 then 1 else 0
    if uint32Maximum < value then none else some value

def expandBilinear (rectangle : PhysicalRectangle)
    (bounds : PhysicalExtent) : Option PhysicalRectangle :=
  if rectangle.empty || bounds.width < rectangle.x ||
      bounds.height < rectangle.y || !containsRectangle bounds rectangle then
    none
  else
    let left := if rectangle.x = 0 then 0 else rectangle.x - 1
    let top := if rectangle.y = 0 then 0 else rectangle.y - 1
    let right := min bounds.width (rectangle.x + rectangle.width + 1)
    let bottom := min bounds.height (rectangle.y + rectangle.height + 1)
    some {
      x := left
      y := top
      width := right - left
      height := bottom - top }

/-- The rectangle is clipped to the output's logical rectangle, its lower
bounds are floored and its upper bounds ceiled, and the output transform is
applied. -/
def mapLogicalRectangleToNative (mapping : OutputMapping)
    (rectangle : LogicalRectangle) : Option PhysicalRectangle :=
  if !mapping.valid || rectangle.empty then none
  else
    let left := max rectangle.x mapping.logicalOrigin.x
    let top := max rectangle.y mapping.logicalOrigin.y
    let right := min (rectangle.x + rectangle.width) mapping.right
    let bottom := min (rectangle.y + rectangle.height) mapping.bottom
    if left ≥ right ∨ top ≥ bottom then none
    else do
      let extent := transformedPhysicalExtent mapping.physicalExtent
        mapping.transform
      let x0 ← scaledFloor (left - mapping.logicalOrigin.x).toNat mapping.scale
      let y0 ← scaledFloor (top - mapping.logicalOrigin.y).toNat mapping.scale
      let x1 ← scaledCeil (right - mapping.logicalOrigin.x).toNat mapping.scale
      let y1 ← scaledCeil (bottom - mapping.logicalOrigin.y).toNat mapping.scale
      let clippedX0 := min x0 extent.width
      let clippedY0 := min y0 extent.height
      let clippedX1 := min x1 extent.width
      let clippedY1 := min y1 extent.height
      if clippedX0 ≥ clippedX1 ∨ clippedY0 ≥ clippedY1 then none
      else
        transformRectangle
          { x := clippedX0
            y := clippedY0
            width := clippedX1 - clippedX0
            height := clippedY1 - clippedY0 }
          mapping.physicalExtent mapping.transform

def mapLogicalDamageToNative (mapping : OutputMapping)
    (damage : LogicalRectangle) (footprint : DamageFilterFootprint) :
    Option PhysicalRectangle :=
  match mapLogicalRectangleToNative mapping damage, footprint with
  | none, _ => none
  | some mapped, .point => some mapped
  | some mapped, .bilinear => expandBilinear mapped mapping.physicalExtent

def mapNativePixelCenterToLogical (mapping : OutputMapping)
    (pixel : PhysicalPoint) : Option LogicalSamplePoint :=
  if !mapping.valid || mapping.physicalExtent.width ≤ pixel.x ||
      mapping.physicalExtent.height ≤ pixel.y then none
  else
    match inverseTransformRectangle
        { x := pixel.x, y := pixel.y, width := 1, height := 1 }
        mapping.physicalExtent mapping.transform with
    | none => none
    | some transformed =>
        if uint32Maximum / 2 < mapping.scale.numerator then none
        else
          let denominator := mapping.scale.numerator * 2
          let xTwice := transformed.x * 2 + 1
          let yTwice := transformed.y * 2 + 1
          if wideMaximum / mapping.scale.denominator < xTwice ∨
              wideMaximum / mapping.scale.denominator < yTwice then none
          else
            some {
              xNumerator := mapping.logicalOrigin.x * denominator +
                (xTwice * mapping.scale.denominator : Nat)
              yNumerator := mapping.logicalOrigin.y * denominator +
                (yTwice * mapping.scale.denominator : Nat)
              denominator }

/-! ## Mapped rectangles lie on the output -/

/-- Within the native extent, and with an area. -/
structure PhysicalRectangle.On (rectangle : PhysicalRectangle)
    (extent : PhysicalExtent) : Prop where
  width : rectangle.width ≠ 0
  height : rectangle.height ≠ 0
  right : rectangle.x + rectangle.width ≤ extent.width
  bottom : rectangle.y + rectangle.height ≤ extent.height

theorem transformRectangle_on {rectangle result : PhysicalRectangle}
    {native : PhysicalExtent} {transform : OutputTransform}
    (width : rectangle.width ≠ 0) (height : rectangle.height ≠ 0)
    (mapped : transformRectangle rectangle native transform = some result) :
    result.On native := by
  unfold transformRectangle at mapped
  split at mapped
  · cases mapped
  · rename_i within
    simp only [containsRectangle, Bool.not_eq_true', Bool.not_eq_false,
      Bool.and_eq_true, decide_eq_true_eq] at within
    obtain ⟨right, bottom⟩ := within
    have corner : ∀ x y, x ≤ rectangle.x + rectangle.width →
        y ≤ rectangle.y + rectangle.height →
          transformBoundary { x, y } native transform =
            some (boundaryImage { x, y } native transform) := by
      intro x y left top
      have inside : containsBoundary
          (transformedPhysicalExtent native transform) { x, y } = true := by
        simp only [containsBoundary, Bool.and_eq_true, decide_eq_true_eq]
        omega
      simp only [transformBoundary, inside, Bool.not_true,
        Bool.false_eq_true, if_false]
    simp only [mapRectangleCorners, Option.bind_eq_bind,
      corner rectangle.x rectangle.y (by omega) (by omega),
      corner (rectangle.x + rectangle.width) rectangle.y (by omega) (by omega),
      corner rectangle.x (rectangle.y + rectangle.height) (by omega)
        (by omega),
      corner (rectangle.x + rectangle.width)
        (rectangle.y + rectangle.height) (by omega) (by omega),
      Option.bind_some, Option.pure_def, Option.some.injEq] at mapped
    subst mapped
    cases transform <;>
      simp only [transformedPhysicalExtent, transformSwapsAxes,
        Bool.false_eq_true, if_false, if_true] at right bottom <;>
      constructor <;> simp only [boundaryImage] <;> omega

theorem mapLogicalRectangleToNative_on {mapping : OutputMapping}
    {rectangle : LogicalRectangle} {native : PhysicalRectangle}
    (mapped : mapLogicalRectangleToNative mapping rectangle = some native) :
    native.On mapping.physicalExtent := by
  unfold mapLogicalRectangleToNative at mapped
  split at mapped
  · cases mapped
  · simp only at mapped
    split at mapped
    · cases mapped
    · obtain ⟨x0, _, mapped⟩ := Option.bind_eq_some_iff.mp mapped
      obtain ⟨y0, _, mapped⟩ := Option.bind_eq_some_iff.mp mapped
      obtain ⟨x1, _, mapped⟩ := Option.bind_eq_some_iff.mp mapped
      obtain ⟨y1, _, mapped⟩ := Option.bind_eq_some_iff.mp mapped
      split at mapped
      · cases mapped
      · rename_i ordered
        refine transformRectangle_on ?_ ?_ mapped <;> simp only <;> omega

/-- A point of the physical rectangle. -/
def PhysicalRectangle.Holds (rectangle : PhysicalRectangle) (x y : Int) :
    Prop :=
  rectangle.x ≤ x ∧ x < rectangle.x + rectangle.width ∧
    rectangle.y ≤ y ∧ y < rectangle.y + rectangle.height

theorem expandBilinear_on {rectangle : PhysicalRectangle}
    {extent : PhysicalExtent} (on : rectangle.On extent) :
    ∃ expanded, expandBilinear rectangle extent = some expanded ∧
      expanded.On extent ∧
        ∀ x y, rectangle.Holds x y → expanded.Holds x y := by
  obtain ⟨width, height, right, bottom⟩ := on
  have full : rectangle.empty = false := by
    simp [PhysicalRectangle.empty, width, height]
  have within : containsRectangle extent rectangle = true := by
    simp [containsRectangle, right, bottom]
  unfold expandBilinear
  rw [if_neg (by
    simp only [full, within, Bool.not_true, Bool.false_or, Bool.or_false,
      Bool.or_eq_true, decide_eq_true_eq]
    omega)]
  refine ⟨_, rfl, ?_, ?_⟩
  · constructor <;> simp only <;> split <;> omega
  · intro x y holds
    simp only [PhysicalRectangle.Holds] at holds ⊢
    split <;> split <;> omega

/-- The damage of a rectangle is on the output and covers its native image. -/
theorem mapLogicalDamageToNative_covers {mapping : OutputMapping}
    {rectangle : LogicalRectangle} {native : PhysicalRectangle}
    (mapped : mapLogicalRectangleToNative mapping rectangle = some native)
    (footprint : DamageFilterFootprint) :
    ∃ damage, mapLogicalDamageToNative mapping rectangle footprint =
        some damage ∧ damage.On mapping.physicalExtent ∧
          ∀ x y, native.Holds x y → damage.Holds x y := by
  have on := mapLogicalRectangleToNative_on mapped
  unfold mapLogicalDamageToNative
  rw [mapped]
  cases footprint with
  | point => exact ⟨native, rfl, on, fun _ _ => id⟩
  | bilinear => exact expandBilinear_on on

/-! ## Outputs without scale and transform -/

theorem scaledFloor_unit {logical : Nat} (small : logical ≤ uint32Maximum) :
    scaledFloor logical {} = some logical := by
  have fits : ¬18446744073709551615 < logical := by
    simp only [uint32Maximum] at small
    omega
  simp [scaledFloor, fits, Nat.not_lt.mpr small]

theorem scaledCeil_unit {logical : Nat} (small : logical ≤ uint32Maximum) :
    scaledCeil logical {} = some logical := by
  have fits : ¬18446744073709551615 < logical := by
    simp only [uint32Maximum] at small
    omega
  simp [scaledCeil, fits, Nat.not_lt.mpr small, Nat.mod_one]

theorem transformRectangle_normal {rectangle : PhysicalRectangle}
    {native : PhysicalExtent}
    (right : rectangle.x + rectangle.width ≤ native.width)
    (bottom : rectangle.y + rectangle.height ≤ native.height) :
    transformRectangle rectangle native .normal = some rectangle := by
  have left : rectangle.x ≤ native.width := by omega
  have top : rectangle.y ≤ native.height := by omega
  have kept : ∀ x y, x ≤ native.width → y ≤ native.height →
      transformBoundary { x, y } native .normal = some { x, y } := by
    intro x y inside below
    simp [transformBoundary, transformedPhysicalExtent, transformSwapsAxes,
      containsBoundary, boundaryImage, inside, below]
  have contained : containsRectangle
      (transformedPhysicalExtent native .normal) rectangle = true := by
    simp [containsRectangle, transformedPhysicalExtent, transformSwapsAxes,
      right, bottom]
  rw [transformRectangle, contained, mapRectangleCorners, kept _ _ left top,
    kept _ _ right top, kept _ _ left bottom, kept _ _ right bottom]
  obtain ⟨x, y, width, height⟩ := rectangle
  refine congrArg some ?_
  simp only [PhysicalRectangle.mk.injEq]
  refine ⟨?_, ?_, ?_, ?_⟩ <;> omega

/-- On an unscaled, untransformed output at the origin a rectangle within the
output is its own native rectangle. -/
theorem mapLogicalRectangleToNative_unit (mapping : OutputMapping)
    (rectangle : PhysicalRectangle) (valid : mapping.valid = true)
    (origin : mapping.logicalOrigin = {})
    (scale : mapping.scale = {}) (transform : mapping.transform = .normal)
    (extent : mapping.physicalExtent.width = mapping.logicalExtent.width ∧
      mapping.physicalExtent.height = mapping.logicalExtent.height)
    (solid : rectangle.empty = false)
    (right : rectangle.x + rectangle.width ≤ mapping.physicalExtent.width)
    (bottom : rectangle.y + rectangle.height ≤
      mapping.physicalExtent.height)
    (width : mapping.physicalExtent.width ≤ uint32Maximum)
    (height : mapping.physicalExtent.height ≤ uint32Maximum) :
    mapLogicalRectangleToNative mapping
        { x := rectangle.x
          y := rectangle.y
          width := rectangle.width
          height := rectangle.height } = some rectangle := by
  have full : LogicalRectangle.empty
      { x := rectangle.x
        y := rectangle.y
        width := rectangle.width
        height := rectangle.height } = false := solid
  simp only [PhysicalRectangle.empty, Bool.or_eq_false_iff,
    decide_eq_false_iff_not] at solid
  unfold mapLogicalRectangleToNative
  simp only [valid, full, Bool.not_true, Bool.or_self, Bool.false_eq_true,
    if_false, origin, scale, transform, OutputMapping.right,
    OutputMapping.bottom, Int.sub_zero]
  have rightEdge : min ((rectangle.x : Int) + rectangle.width)
      (0 + mapping.logicalExtent.width) =
        (rectangle.x + rectangle.width : Nat) := by omega
  have bottomEdge : min ((rectangle.y : Int) + rectangle.height)
      (0 + mapping.logicalExtent.height) =
        (rectangle.y + rectangle.height : Nat) := by omega
  have leftEdge : max (rectangle.x : Int) 0 = rectangle.x := by omega
  have topEdge : max (rectangle.y : Int) 0 = rectangle.y := by omega
  rw [rightEdge, bottomEdge, leftEdge, topEdge, if_neg (by omega)]
  simp only [Int.toNat_natCast, transformedPhysicalExtent, transformSwapsAxes,
    Bool.false_eq_true, if_false]
  rw [scaledFloor_unit (by omega), scaledFloor_unit (by omega),
    scaledCeil_unit (by omega), scaledCeil_unit (by omega)]
  simp only [Option.bind_eq_bind, Option.bind_some, min_eq_left right,
    min_eq_left bottom,
    min_eq_left (show rectangle.x ≤ mapping.physicalExtent.width by omega),
    min_eq_left (show rectangle.y ≤ mapping.physicalExtent.height by omega),
    Nat.add_sub_cancel_left]
  rw [if_neg (by omega)]
  exact transformRectangle_normal right bottom

end Glasswyrm.Output
