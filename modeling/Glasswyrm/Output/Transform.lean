import Glasswyrm.Output.Mapping

namespace Glasswyrm.Output

/-! The eight output transforms as bijections on the rectangles of an
extent. -/

/-- The transform that leads back. -/
def inverseTransform : OutputTransform → OutputTransform
  | .rotate90 => .rotate270
  | .rotate270 => .rotate90
  | transform => transform

@[simp] theorem inverseTransform_involutive (transform : OutputTransform) :
    inverseTransform (inverseTransform transform) = transform := by
  cases transform <;> rfl

@[simp] theorem transformedPhysicalExtent_back (native : PhysicalExtent)
    (transform : OutputTransform) :
    transformedPhysicalExtent (transformedPhysicalExtent native transform)
      (inverseTransform transform) = native := by
  cases transform <;> rfl

/-- The inverse of a transform is itself one of the transforms, from the
transformed extent. -/
theorem inverseTransformBoundary_eq (native : PhysicalExtent)
    (transform : OutputTransform) :
    (inverseTransformBoundary · native transform) =
      (transformBoundary · (transformedPhysicalExtent native transform)
        (inverseTransform transform)) := by
  funext point
  have image : inverseBoundaryImage point native transform =
      boundaryImage point (transformedPhysicalExtent native transform)
        (inverseTransform transform) := by
    cases transform <;> rfl
  simp only [inverseTransformBoundary, transformBoundary,
    transformedPhysicalExtent_back, image]

theorem inverseTransformRectangle_eq (rectangle : PhysicalRectangle)
    (native : PhysicalExtent) (transform : OutputTransform) :
    inverseTransformRectangle rectangle native transform =
      transformRectangle rectangle
        (transformedPhysicalExtent native transform)
        (inverseTransform transform) := by
  simp only [inverseTransformRectangle, transformRectangle,
    transformedPhysicalExtent_back, inverseTransformBoundary_eq]

theorem transformRectangle_eq_inverse (rectangle : PhysicalRectangle)
    (native : PhysicalExtent) (transform : OutputTransform) :
    transformRectangle rectangle native transform =
      inverseTransformRectangle rectangle
        (transformedPhysicalExtent native transform)
        (inverseTransform transform) := by
  rw [inverseTransformRectangle_eq, transformedPhysicalExtent_back,
    inverseTransform_involutive]

/-! ## The image of a rectangle -/

/-- The image of a rectangle of the transformed extent: its edges in the order
in which the transform lays them. -/
def rectangleImage (rectangle : PhysicalRectangle) (native : PhysicalExtent) :
    OutputTransform → PhysicalRectangle
  | .normal => rectangle
  | .rotate90 =>
      { x := native.width - (rectangle.y + rectangle.height), y := rectangle.x
        width := rectangle.height, height := rectangle.width }
  | .rotate180 =>
      { x := native.width - (rectangle.x + rectangle.width)
        y := native.height - (rectangle.y + rectangle.height)
        width := rectangle.width, height := rectangle.height }
  | .rotate270 =>
      { x := rectangle.y, y := native.height - (rectangle.x + rectangle.width)
        width := rectangle.height, height := rectangle.width }
  | .flipped =>
      { x := native.width - (rectangle.x + rectangle.width), y := rectangle.y
        width := rectangle.width, height := rectangle.height }
  | .flipped90 =>
      { x := native.width - (rectangle.y + rectangle.height)
        y := native.height - (rectangle.x + rectangle.width)
        width := rectangle.height, height := rectangle.width }
  | .flipped180 =>
      { x := rectangle.x, y := native.height - (rectangle.y + rectangle.height)
        width := rectangle.width, height := rectangle.height }
  | .flipped270 =>
      { x := rectangle.y, y := rectangle.x
        width := rectangle.height, height := rectangle.width }

theorem containsRectangle_iff {extent : PhysicalExtent}
    {rectangle : PhysicalRectangle} :
    containsRectangle extent rectangle = true ↔
      rectangle.x + rectangle.width ≤ extent.width ∧
        rectangle.y + rectangle.height ≤ extent.height := by
  simp [containsRectangle]

theorem transformBoundary_corner {rectangle : PhysicalRectangle}
    {native : PhysicalExtent} {transform : OutputTransform}
    (within : containsRectangle (transformedPhysicalExtent native transform)
      rectangle = true) (x y : Nat) (left : x ≤ rectangle.x + rectangle.width)
    (top : y ≤ rectangle.y + rectangle.height) :
    transformBoundary { x, y } native transform =
      some (boundaryImage { x, y } native transform) := by
  obtain ⟨right, bottom⟩ := containsRectangle_iff.mp within
  have inside : containsBoundary
      (transformedPhysicalExtent native transform) { x, y } = true := by
    simp only [containsBoundary, Bool.and_eq_true, decide_eq_true_eq]
    omega
  simp only [transformBoundary, inside, Bool.not_true, Bool.false_eq_true,
    if_false]

theorem transformRectangle_image {rectangle : PhysicalRectangle}
    {native : PhysicalExtent} {transform : OutputTransform}
    (within : containsRectangle (transformedPhysicalExtent native transform)
      rectangle = true) :
    transformRectangle rectangle native transform =
      some (rectangleImage rectangle native transform) := by
  have corner := transformBoundary_corner within
  obtain ⟨right, bottom⟩ := containsRectangle_iff.mp within
  simp only [transformRectangle, within, Bool.not_true, Bool.false_eq_true,
    if_false, mapRectangleCorners, Option.bind_eq_bind,
    corner rectangle.x rectangle.y (by omega) (by omega),
    corner (rectangle.x + rectangle.width) rectangle.y (by omega) (by omega),
    corner rectangle.x (rectangle.y + rectangle.height) (by omega) (by omega),
    corner (rectangle.x + rectangle.width) (rectangle.y + rectangle.height)
      (by omega) (by omega), Option.bind_some, Option.pure_def,
    Option.some.injEq]
  obtain ⟨x, y, width, height⟩ := rectangle
  cases transform <;>
    simp only [transformedPhysicalExtent, transformSwapsAxes,
      Bool.false_eq_true, if_false, if_true] at right bottom <;>
    simp only [boundaryImage, rectangleImage, PhysicalRectangle.mk.injEq] <;>
    omega

theorem rectangleImage_contained {rectangle : PhysicalRectangle}
    {native : PhysicalExtent} {transform : OutputTransform}
    (within : containsRectangle (transformedPhysicalExtent native transform)
      rectangle = true) :
    containsRectangle native (rectangleImage rectangle native transform) =
      true := by
  obtain ⟨right, bottom⟩ := containsRectangle_iff.mp within
  apply containsRectangle_iff.mpr
  cases transform <;>
    simp only [transformedPhysicalExtent, transformSwapsAxes,
      Bool.false_eq_true, if_false, if_true] at right bottom <;>
    simp only [rectangleImage] <;>
    omega

theorem rectangleImage_back {rectangle : PhysicalRectangle}
    {native : PhysicalExtent} {transform : OutputTransform}
    (within : containsRectangle (transformedPhysicalExtent native transform)
      rectangle = true) :
    rectangleImage (rectangleImage rectangle native transform)
      (transformedPhysicalExtent native transform)
      (inverseTransform transform) = rectangle := by
  obtain ⟨right, bottom⟩ := containsRectangle_iff.mp within
  obtain ⟨x, y, width, height⟩ := rectangle
  cases transform <;>
    simp only [transformedPhysicalExtent, transformSwapsAxes,
      Bool.false_eq_true, if_false, if_true] at right bottom ⊢ <;>
    simp only [rectangleImage, inverseTransform,
      PhysicalRectangle.mk.injEq, and_true, true_and] <;>
    omega

def PhysicalRectangle.area (rectangle : PhysicalRectangle) : Nat :=
  rectangle.width * rectangle.height

theorem rectangleImage_area (rectangle : PhysicalRectangle)
    (native : PhysicalExtent) (transform : OutputTransform) :
    (rectangleImage rectangle native transform).area = rectangle.area := by
  cases transform <;>
    simp only [rectangleImage, PhysicalRectangle.area, Nat.mul_comm]

/-! ## Overlapping rectangles -/

/-- Two rectangles that share a pixel. -/
def PhysicalRectangle.Overlaps (first second : PhysicalRectangle) : Prop :=
  ∃ x y, first.Holds x y ∧ second.Holds x y

theorem PhysicalRectangle.overlaps_iff {first second : PhysicalRectangle} :
    first.Overlaps second ↔
      max first.x second.x <
          min (first.x + first.width) (second.x + second.width) ∧
        max first.y second.y <
          min (first.y + first.height) (second.y + second.height) := by
  constructor
  · rintro ⟨x, y, inFirst, inSecond⟩
    simp only [PhysicalRectangle.Holds] at inFirst inSecond
    omega
  · rintro ⟨columns, rows⟩
    refine ⟨max first.x second.x, max first.y second.y, ?_, ?_⟩ <;>
      simp only [PhysicalRectangle.Holds] <;> omega

/-- Two spans within an extent share as much as their mirror images do. -/
theorem mirrored_overlap {extent a width b other : Nat}
    (first : a + width ≤ extent) (second : b + other ≤ extent) :
    max (extent - (a + width)) (extent - (b + other)) <
        min (extent - (a + width) + width) (extent - (b + other) + other) ↔
      max a b < min (a + width) (b + other) := by
  omega

theorem rectangleImage_overlaps {first second : PhysicalRectangle}
    {native : PhysicalExtent} {transform : OutputTransform}
    (firstWithin : containsRectangle
      (transformedPhysicalExtent native transform) first = true)
    (secondWithin : containsRectangle
      (transformedPhysicalExtent native transform) second = true) :
    (rectangleImage first native transform).Overlaps
        (rectangleImage second native transform) ↔ first.Overlaps second := by
  obtain ⟨right, bottom⟩ := containsRectangle_iff.mp firstWithin
  obtain ⟨right', bottom'⟩ := containsRectangle_iff.mp secondWithin
  rw [PhysicalRectangle.overlaps_iff, PhysicalRectangle.overlaps_iff]
  cases transform <;>
    simp only [transformedPhysicalExtent, transformSwapsAxes,
      Bool.false_eq_true, if_false, if_true] at right bottom right' bottom' <;>
    simp only [rectangleImage, mirrored_overlap right right',
      mirrored_overlap bottom bottom', and_comm]

/-! ## The bijection -/

/-- A partial map that is an exact bijection from the rectangles of one extent
to those of another, with its inverse. -/
structure RectangleBijection (source target : PhysicalExtent)
    (forward backward : PhysicalRectangle → Option PhysicalRectangle) :
    Prop where
  image : ∀ rectangle, containsRectangle source rectangle = true →
    ∃ mapped, forward rectangle = some mapped ∧
      containsRectangle target mapped = true ∧
        mapped.area = rectangle.area ∧ backward mapped = some rectangle
  overlap : ∀ first second firstImage secondImage,
    forward first = some firstImage → forward second = some secondImage →
      (first.Overlaps second ↔ firstImage.Overlaps secondImage)

theorem transformRectangle_bijective (native : PhysicalExtent)
    (transform : OutputTransform) :
    RectangleBijection (transformedPhysicalExtent native transform) native
      (transformRectangle · native transform)
      (inverseTransformRectangle · native transform) := by
  constructor
  case image =>
    intro rectangle within
    have contained := rectangleImage_contained within
    refine ⟨_, transformRectangle_image within, contained,
      rectangleImage_area rectangle native transform, ?_⟩
    have back : containsRectangle (transformedPhysicalExtent
        (transformedPhysicalExtent native transform)
        (inverseTransform transform))
          (rectangleImage rectangle native transform) = true := by
      rw [transformedPhysicalExtent_back]
      exact contained
    rw [inverseTransformRectangle_eq, transformRectangle_image back,
      rectangleImage_back within]
  case overlap =>
    intro first second firstImage secondImage firstMapped secondMapped
    have within : ∀ {rectangle image : PhysicalRectangle},
        transformRectangle rectangle native transform = some image →
          containsRectangle (transformedPhysicalExtent native transform)
            rectangle = true := by
      intro rectangle image mapped
      by_contra outside
      rw [Bool.not_eq_true] at outside
      simp [transformRectangle, outside] at mapped
    have firstWithin := within firstMapped
    have secondWithin := within secondMapped
    rw [transformRectangle_image firstWithin] at firstMapped
    rw [transformRectangle_image secondWithin] at secondMapped
    rw [← Option.some.inj firstMapped, ← Option.some.inj secondMapped]
    exact (rectangleImage_overlaps firstWithin secondWithin).symm

theorem inverseTransformRectangle_bijective (native : PhysicalExtent)
    (transform : OutputTransform) :
    RectangleBijection native (transformedPhysicalExtent native transform)
      (inverseTransformRectangle · native transform)
      (transformRectangle · native transform) := by
  have bijective := transformRectangle_bijective
    (transformedPhysicalExtent native transform) (inverseTransform transform)
  rw [transformedPhysicalExtent_back] at bijective
  simpa only [← inverseTransformRectangle_eq,
    ← transformRectangle_eq_inverse] using bijective

/-- The transform and its inverse are exact bijections, each the other's
inverse. -/
theorem transforms_bijective (native : PhysicalExtent)
    (transform : OutputTransform) :
    RectangleBijection (transformedPhysicalExtent native transform) native
        (transformRectangle · native transform)
        (inverseTransformRectangle · native transform) ∧
      RectangleBijection native (transformedPhysicalExtent native transform)
        (inverseTransformRectangle · native transform)
        (transformRectangle · native transform) :=
  ⟨transformRectangle_bijective native transform,
    inverseTransformRectangle_bijective native transform⟩

end Glasswyrm.Output
