import Mathlib.Tactic.Linarith
import Glasswyrm.Output.Transform

namespace Glasswyrm.Output

/-! Where the centres of native pixels lie, and which logical rectangles are
mapped over them. -/

/-- The sampling position lies in the half-open rectangle. -/
def LogicalSamplePoint.Within (point : LogicalSamplePoint)
    (rectangle : LogicalRectangle) : Prop :=
  rectangle.x * point.denominator ≤ point.xNumerator ∧
    point.xNumerator < (rectangle.x + rectangle.width) * point.denominator ∧
    rectangle.y * point.denominator ≤ point.yNumerator ∧
    point.yNumerator < (rectangle.y + rectangle.height) * point.denominator

namespace OutputMapping

/-- The part of the desktop that the output shows. -/
def logicalRectangle (mapping : OutputMapping) : LogicalRectangle :=
  { x := mapping.logicalOrigin.x
    y := mapping.logicalOrigin.y
    width := mapping.logicalExtent.width
    height := mapping.logicalExtent.height }

def transformedExtent (mapping : OutputMapping) : PhysicalExtent :=
  transformedPhysicalExtent mapping.physicalExtent mapping.transform

/-- What a valid mapping promises about its numbers. -/
structure Bounded (mapping : OutputMapping) : Prop where
  denominator : 0 < mapping.scale.denominator
  small : mapping.scale.denominator ≤ kMaximumScaleDenominator
  magnifies : mapping.scale.denominator ≤ mapping.scale.numerator
  limited : mapping.scale.numerator ≤ 4 * mapping.scale.denominator
  left : 0 ≤ mapping.logicalOrigin.x
  top : 0 ≤ mapping.logicalOrigin.y
  right : mapping.right ≤ 2147483647
  bottom : mapping.bottom ≤ 2147483647
  width : deriveLogicalDimension mapping.transformedExtent.width
    mapping.scale = some mapping.logicalExtent.width
  height : deriveLogicalDimension mapping.transformedExtent.height
    mapping.scale = some mapping.logicalExtent.height

theorem bounded {mapping : OutputMapping} (valid : mapping.valid = true) :
    mapping.Bounded := by
  simp only [OutputMapping.valid, RationalScale.validOutputScale,
    RationalScale.isReduced, RationalScale.inRange,
    OutputMapping.logicalBounds, Bool.and_eq_true, decide_eq_true_eq,
    Nat.one_mul, Nat.mul_one] at valid
  obtain ⟨⟨⟨_, ⟨small, ⟨_, nonzero⟩, _⟩, ⟨⟨_, _⟩, magnifies⟩, limited⟩, ⟨⟨⟨left,
    top⟩, right⟩, bottom⟩⟩, derived⟩ := valid
  obtain ⟨width, widthDerived, derived⟩ := Option.bind_eq_some_iff.mp derived
  obtain ⟨height, heightDerived, derived⟩ := Option.bind_eq_some_iff.mp derived
  have extent := Option.some.inj derived
  refine
    { denominator := Nat.pos_of_ne_zero nonzero
      small
      magnifies
      limited
      left
      top
      right
      bottom
      width := ?_
      height := ?_ }
  · rw [← extent]
    exact widthDerived
  · rw [← extent]
    exact heightDerived

end OutputMapping

/-- A derived dimension is the physical one scaled down and rounded up. -/
theorem deriveLogicalDimension_bounds {extent logical : Nat}
    {scale : RationalScale} (positive : 0 < scale.numerator)
    (derived : deriveLogicalDimension extent scale = some logical) :
    extent * scale.denominator ≤ logical * scale.numerator := by
  unfold deriveLogicalDimension at derived
  split at derived
  · cases derived
  · simp only [Option.ite_none_left_eq_some, Option.some.injEq] at derived
    obtain ⟨_, rfl⟩ := derived
    have divided := Nat.div_add_mod' (extent * scale.denominator)
      scale.numerator
    have remainder := Nat.mod_lt (extent * scale.denominator) positive
    rw [Nat.add_mul]
    split <;> omega

/-! ## Scaling one edge -/

/-- A scaled edge rounded up. -/
def ceiling (logical : Nat) (scale : RationalScale) : Nat :=
  logical * scale.numerator / scale.denominator +
    if logical * scale.numerator % scale.denominator ≠ 0 then 1 else 0

section Edges

variable {scale : RationalScale} {logical : Nat}

theorem scaledFloor_eq (numerator : 0 < scale.numerator)
    (denominator : 0 < scale.denominator)
    (wide : logical * scale.numerator ≤ 18446744073709551615)
    (fits : logical * scale.numerator / scale.denominator ≤ uint32Maximum) :
    scaledFloor logical scale =
      some (logical * scale.numerator / scale.denominator) := by
  have inside : ¬18446744073709551615 / scale.numerator < logical :=
    Nat.not_lt.mpr ((Nat.le_div_iff_mul_le numerator).mpr wide)
  simp [scaledFloor, numerator.ne', denominator.ne', inside,
    Nat.not_lt.mpr fits]

theorem scaledCeil_eq (numerator : 0 < scale.numerator)
    (denominator : 0 < scale.denominator)
    (wide : logical * scale.numerator ≤ 18446744073709551615) :
    scaledCeil logical scale =
      if ceiling logical scale ≤ uint32Maximum then
        some (ceiling logical scale)
      else none := by
  have inside : ¬18446744073709551615 / scale.numerator < logical :=
    Nat.not_lt.mpr ((Nat.le_div_iff_mul_le numerator).mpr wide)
  simp only [scaledCeil, numerator.ne', denominator.ne', inside,
    decide_false, Bool.or_self, Bool.false_eq_true, if_false]
  change (if uint32Maximum < ceiling logical scale then none
    else some (ceiling logical scale)) = _
  by_cases fits : ceiling logical scale ≤ uint32Maximum
  · rw [if_pos fits, if_neg (Nat.not_lt.mpr fits)]
  · rw [if_neg fits, if_pos (Nat.not_le.mp fits)]

theorem ceiling_le_iff {bound : Nat} (denominator : 0 < scale.denominator) :
    ceiling logical scale ≤ bound ↔
      logical * scale.numerator ≤ bound * scale.denominator := by
  have divided := Nat.div_add_mod' (logical * scale.numerator)
    scale.denominator
  have remainder := Nat.mod_lt (logical * scale.numerator) denominator
  constructor
  · intro below
    have scaled := Nat.mul_le_mul_right scale.denominator below
    rw [ceiling, Nat.add_mul] at scaled
    split at scaled <;> omega
  · intro below
    have quotient : logical * scale.numerator / scale.denominator ≤ bound := by
      apply Nat.div_le_of_le_mul
      rw [Nat.mul_comm scale.denominator]
      exact below
    rw [ceiling]
    split
    · rename_i remains
      by_contra above
      have same : logical * scale.numerator / scale.denominator = bound := by
        omega
      rw [same] at divided
      omega
    · exact quotient

/-! ## The edges around a pixel centre -/

/-- The centre of a transformed pixel, in units of half a scaled pixel. -/
def centre (scale : RationalScale) (origin : Int) (pixel : Nat) : Int :=
  origin * (scale.numerator * 2 : Nat) +
    ((pixel * 2 + 1) * scale.denominator : Nat)

variable {origin edge : Int} {pixel : Nat}

theorem floor_le_pixel (denominator : 0 < scale.denominator)
    (after : origin ≤ edge)
    (lower : edge * (scale.numerator * 2 : Nat) ≤
      centre scale origin pixel) :
    (edge - origin).toNat * scale.numerator / scale.denominator ≤ pixel := by
  obtain ⟨distance, rfl⟩ := Int.le.dest after
  have gap : (origin + distance - origin).toNat = distance := by omega
  rw [centre, Int.add_mul] at lower
  have scaled : distance * (scale.numerator * 2) ≤
      (pixel * 2 + 1) * scale.denominator := by
    exact_mod_cast Int.le_of_add_le_add_left lower
  have twice : 2 * (distance * scale.numerator) <
      2 * ((pixel + 1) * scale.denominator) := by
    nlinarith
  rw [gap]
  exact Nat.lt_succ_iff.mp ((Nat.div_lt_iff_lt_mul denominator).mpr
    (Nat.lt_of_mul_lt_mul_left twice))

theorem pixel_lt_ceiling (denominator : 0 < scale.denominator)
    (after : origin ≤ edge)
    (upper : centre scale origin pixel <
      edge * (scale.numerator * 2 : Nat)) :
    pixel < ceiling (edge - origin).toNat scale := by
  obtain ⟨distance, rfl⟩ := Int.le.dest after
  have gap : (origin + distance - origin).toNat = distance := by omega
  rw [centre, Int.add_mul] at upper
  have scaled : (pixel * 2 + 1) * scale.denominator <
      distance * (scale.numerator * 2) := by
    exact_mod_cast Int.lt_of_add_lt_add_left upper
  rw [gap, ← Nat.not_le, ceiling_le_iff denominator]
  nlinarith

end Edges

/-! ## The centre of a native pixel -/

def pixelRectangle (x y : Nat) : PhysicalRectangle :=
  { x, y, width := 1, height := 1 }

theorem pixelRectangle_overlaps {rectangle : PhysicalRectangle} {x y : Nat} :
    (pixelRectangle x y).Overlaps rectangle ↔ rectangle.Holds x y := by
  simp only [PhysicalRectangle.overlaps_iff, pixelRectangle,
    PhysicalRectangle.Holds]
  omega

/-- Where the output transform finds a native pixel. -/
structure Found (mapping : OutputMapping) (pixel place : PhysicalPoint) :
    Prop where
  right : place.x < mapping.transformedExtent.width
  bottom : place.y < mapping.transformedExtent.height
  inverse : inverseTransformRectangle (pixelRectangle pixel.x pixel.y)
    mapping.physicalExtent mapping.transform =
      some (pixelRectangle place.x place.y)
  forward : transformRectangle (pixelRectangle place.x place.y)
    mapping.physicalExtent mapping.transform =
      some (pixelRectangle pixel.x pixel.y)

theorem found (mapping : OutputMapping) {pixel : PhysicalPoint}
    (right : pixel.x < mapping.physicalExtent.width)
    (bottom : pixel.y < mapping.physicalExtent.height) :
    ∃ place, Found mapping pixel place := by
  have within : containsRectangle mapping.physicalExtent
      (pixelRectangle pixel.x pixel.y) = true :=
    containsRectangle_iff.mpr ⟨right, bottom⟩
  obtain ⟨place, inverse, contained, _, forward⟩ :=
    (inverseTransformRectangle_bijective mapping.physicalExtent
      mapping.transform).image _ within
  have square : place = pixelRectangle place.x place.y := by
    have back : containsRectangle (transformedPhysicalExtent
        (transformedPhysicalExtent mapping.physicalExtent mapping.transform)
        (inverseTransform mapping.transform))
          (pixelRectangle pixel.x pixel.y) = true := by
      rw [transformedPhysicalExtent_back]
      exact within
    simp only [inverseTransformRectangle_eq, transformRectangle_image back,
      Option.some.injEq] at inverse
    rw [← inverse]
    cases mapping.transform <;> rfl
  obtain ⟨right, bottom⟩ := containsRectangle_iff.mp contained
  rw [square] at inverse forward right bottom
  exact ⟨{ x := place.x, y := place.y }, right, bottom, inverse, forward⟩

/-- Physical dimensions stay within four times the logical ones. -/
theorem OutputMapping.Bounded.extent_le {mapping : OutputMapping}
    (bounded : mapping.Bounded) {extent logical : Nat}
    (derived : deriveLogicalDimension extent mapping.scale = some logical) :
    extent ≤ 4 * logical := by
  have positive : 0 < mapping.scale.numerator :=
    Nat.lt_of_lt_of_le bounded.denominator bounded.magnifies
  have scaled := deriveLogicalDimension_bounds positive derived
  have limited := Nat.mul_le_mul_left logical bounded.limited
  have widened : extent * mapping.scale.denominator ≤
      4 * logical * mapping.scale.denominator := by
    nlinarith
  exact Nat.le_of_mul_le_mul_right widened bounded.denominator

theorem mapNativePixelCenterToLogical_found {mapping : OutputMapping}
    (valid : mapping.valid = true) {pixel place : PhysicalPoint}
    (right : pixel.x < mapping.physicalExtent.width)
    (bottom : pixel.y < mapping.physicalExtent.height)
    (found : Found mapping pixel place) :
    mapNativePixelCenterToLogical mapping pixel = some
      { xNumerator := centre mapping.scale mapping.logicalOrigin.x place.x
        yNumerator := centre mapping.scale mapping.logicalOrigin.y place.y
        denominator := mapping.scale.numerator * 2 } := by
  have bounded := OutputMapping.bounded valid
  have widthBound := bounded.extent_le bounded.width
  have heightBound := bounded.extent_le bounded.height
  have rightEdge := bounded.right
  have bottomEdge := bounded.bottom
  have left := bounded.left
  have top := bounded.top
  have small := bounded.small
  have limited := bounded.limited
  have positive := bounded.denominator
  have onRight := found.right
  have onBottom := found.bottom
  simp only [OutputMapping.right, OutputMapping.bottom,
    kMaximumScaleDenominator] at rightEdge bottomEdge small
  have scale : ¬uint32Maximum / 2 < mapping.scale.numerator := by
    simp only [uint32Maximum]
    omega
  have wide : ∀ value, value < 17179869184 →
      ¬wideMaximum / mapping.scale.denominator < value := by
    intro value below
    rw [Nat.not_lt, Nat.le_div_iff_mul_le positive]
    have product := Nat.mul_le_mul (Nat.le_of_lt below) small
    simp only [wideMaximum]
    omega
  have inverse := found.inverse
  simp only [pixelRectangle] at inverse
  unfold mapNativePixelCenterToLogical
  simp only [valid, Nat.not_le.mpr right, Nat.not_le.mpr bottom, inverse,
    scale, wide _ (show place.x * 2 + 1 < 17179869184 by omega),
    wide _ (show place.y * 2 + 1 < 17179869184 by omega), centre,
    Bool.not_true, decide_false, Bool.or_self, Bool.false_eq_true, or_self,
    if_false]

theorem centre_after (scale : RationalScale) (origin : Int) (pixel : Nat) :
    origin * (scale.numerator * 2 : Nat) ≤ centre scale origin pixel := by
  rw [centre]
  omega

theorem centre_before {scale : RationalScale} {extent logical pixel : Nat}
    (origin : Int) (denominator : 0 < scale.denominator)
    (numerator : 0 < scale.numerator) (within : pixel < extent)
    (derived : deriveLogicalDimension extent scale = some logical) :
    centre scale origin pixel <
      (origin + logical) * (scale.numerator * 2 : Nat) := by
  have scaled := deriveLogicalDimension_bounds numerator derived
  have covered := Nat.mul_le_mul_right scale.denominator
    (Nat.succ_le_of_lt within)
  have below : (pixel * 2 + 1) * scale.denominator <
      logical * (scale.numerator * 2) := by
    nlinarith
  rw [centre, Int.add_mul]
  exact Int.add_lt_add_left (by exact_mod_cast below) _

/-! ## The rectangle around a pixel centre -/

/-- The far edges of the clipped rectangle, scaled and rounded up, are 32-bit
numbers. -/
def ScaledEdgesFit (mapping : OutputMapping) (rectangle : LogicalRectangle) :
    Prop :=
  ceiling (min (rectangle.x + rectangle.width) mapping.right -
      mapping.logicalOrigin.x).toNat mapping.scale ≤ uint32Maximum ∧
    ceiling (min (rectangle.y + rectangle.height) mapping.bottom -
      mapping.logicalOrigin.y).toNat mapping.scale ≤ uint32Maximum

section Axis

variable {scale : RationalScale} {origin near far limit : Int} {pixel : Nat}

/-- What a pixel centre between two edges says about the scaled edges. -/
structure Around (scale : RationalScale) (origin near far limit : Int)
    (pixel : Nat) : Prop where
  ordered : max near origin < min far limit
  floor : (max near origin - origin).toNat * scale.numerator /
    scale.denominator ≤ pixel
  ceiling : pixel < ceiling (min far limit - origin).toNat scale

theorem around (denominator : 0 < scale.denominator)
    (numerator : 0 < scale.numerator)
    (lower : near * (scale.numerator * 2 : Nat) ≤ centre scale origin pixel)
    (upper : centre scale origin pixel < far * (scale.numerator * 2 : Nat))
    (limited : centre scale origin pixel <
      limit * (scale.numerator * 2 : Nat)) :
    Around scale origin near far limit pixel := by
  have start := centre_after scale origin pixel
  have below : max near origin * (scale.numerator * 2 : Nat) ≤
      centre scale origin pixel := by
    rcases max_choice near origin with same | same <;> rw [same] <;> assumption
  have above : centre scale origin pixel <
      min far limit * (scale.numerator * 2 : Nat) := by
    rcases min_choice far limit with same | same <;> rw [same] <;> assumption
  have positive : (0 : Int) ≤ (scale.numerator * 2 : Nat) := by omega
  have ordered : max near origin < min far limit :=
    lt_of_mul_lt_mul_right (lt_of_le_of_lt below above) positive
  exact
    { ordered
      floor := floor_le_pixel denominator (le_max_right _ _) below
      ceiling := pixel_lt_ceiling denominator
        (le_trans (le_max_right _ _) (le_of_lt ordered)) above }

end Axis

section Rectangles

variable {mapping : OutputMapping} {rectangle : LogicalRectangle}
  {place : PhysicalPoint}

/-- The transformed pixels of a rectangle, when its far edges fit. -/
def scaledRectangle (mapping : OutputMapping)
    (rectangle : LogicalRectangle) : PhysicalRectangle :=
  let x := min ((max rectangle.x mapping.logicalOrigin.x -
    mapping.logicalOrigin.x).toNat * mapping.scale.numerator /
      mapping.scale.denominator) mapping.transformedExtent.width
  let y := min ((max rectangle.y mapping.logicalOrigin.y -
    mapping.logicalOrigin.y).toNat * mapping.scale.numerator /
      mapping.scale.denominator) mapping.transformedExtent.height
  { x
    y
    width := min (ceiling (min (rectangle.x + rectangle.width) mapping.right -
      mapping.logicalOrigin.x).toNat mapping.scale)
        mapping.transformedExtent.width - x
    height := min (ceiling (min (rectangle.y + rectangle.height)
      mapping.bottom - mapping.logicalOrigin.y).toNat mapping.scale)
        mapping.transformedExtent.height - y }

/-- The centre of a transformed pixel lies in the rectangle and in the part of
the desktop that the output shows. -/
structure Surrounds (mapping : OutputMapping) (rectangle : LogicalRectangle)
    (place : PhysicalPoint) : Prop where
  right : place.x < mapping.transformedExtent.width
  bottom : place.y < mapping.transformedExtent.height
  columns : Around mapping.scale mapping.logicalOrigin.x rectangle.x
    (rectangle.x + rectangle.width) mapping.right place.x
  rows : Around mapping.scale mapping.logicalOrigin.y rectangle.y
    (rectangle.y + rectangle.height) mapping.bottom place.y

theorem Surrounds.scaledRectangle
    (surrounds : Surrounds mapping rectangle place) :
    containsRectangle mapping.transformedExtent
        (scaledRectangle mapping rectangle) = true ∧
      (Output.scaledRectangle mapping rectangle).Holds place.x place.y := by
  obtain ⟨right, bottom, ⟨_, left, beyond⟩, ⟨_, top, below⟩⟩ := surrounds
  constructor
  · apply containsRectangle_iff.mpr
    simp only [Output.scaledRectangle]
    omega
  · simp only [PhysicalRectangle.Holds, Output.scaledRectangle]
    omega

theorem OutputMapping.Bounded.wide (bounded : mapping.Bounded)
    {edge origin : Int} (after : 0 ≤ origin) (before : edge ≤ 2147483647) :
    (edge - origin).toNat * mapping.scale.numerator ≤
      18446744073709551615 := by
  have limited := bounded.limited
  have small := bounded.small
  simp only [kMaximumScaleDenominator] at small
  have product := Nat.mul_le_mul
    (show (edge - origin).toNat ≤ 2147483647 by omega)
    (show mapping.scale.numerator ≤ 480 by omega)
  omega

/-- One axis of the mapping: the two scaled edges, when the far one fits. -/
theorem scaledEdges (bounded : mapping.Bounded)
    {origin near far limit : Int} {pixel : Nat} (after : 0 ≤ origin)
    (before : limit ≤ 2147483647)
    (edges : Around mapping.scale origin near far limit pixel) :
    scaledCeil (min far limit - origin).toNat mapping.scale =
        (if ceiling (min far limit - origin).toNat mapping.scale ≤
            uint32Maximum then
          some (ceiling (min far limit - origin).toNat mapping.scale)
        else none) ∧
      (ceiling (min far limit - origin).toNat mapping.scale ≤ uint32Maximum →
        scaledFloor (max near origin - origin).toNat mapping.scale =
          some ((max near origin - origin).toNat * mapping.scale.numerator /
            mapping.scale.denominator)) := by
  have numerator : 0 < mapping.scale.numerator :=
    Nat.lt_of_lt_of_le bounded.denominator bounded.magnifies
  have ordered := edges.ordered
  constructor
  · apply scaledCeil_eq numerator bounded.denominator
    exact bounded.wide after (by omega)
  · intro fits
    apply scaledFloor_eq numerator bounded.denominator
    · exact bounded.wide after (by omega)
    · have floor := edges.floor
      have ceiling := edges.ceiling
      omega

theorem mapLogicalRectangleToNative_fits (valid : mapping.valid = true)
    (solid : rectangle.empty = false)
    (surrounds : Surrounds mapping rectangle place)
    (fits : ScaledEdgesFit mapping rectangle) :
    mapLogicalRectangleToNative mapping rectangle =
      transformRectangle (scaledRectangle mapping rectangle)
        mapping.physicalExtent mapping.transform := by
  have bounded := OutputMapping.bounded valid
  obtain ⟨farX, nearX⟩ := scaledEdges bounded bounded.left bounded.right
    surrounds.columns
  obtain ⟨farY, nearY⟩ := scaledEdges bounded bounded.top bounded.bottom
    surrounds.rows
  rw [if_pos fits.1] at farX
  rw [if_pos fits.2] at farY
  have ordered : ¬(max rectangle.x mapping.logicalOrigin.x ≥
      min (rectangle.x + rectangle.width) mapping.right ∨
        max rectangle.y mapping.logicalOrigin.y ≥
          min (rectangle.y + rectangle.height) mapping.bottom) := by
    have columns := surrounds.columns.ordered
    have rows := surrounds.rows.ordered
    omega
  have holds := surrounds.scaledRectangle.2
  simp only [PhysicalRectangle.Holds, scaledRectangle,
    OutputMapping.transformedExtent] at holds
  unfold mapLogicalRectangleToNative
  simp only [valid, solid, Bool.not_true, Bool.or_self, Bool.false_eq_true,
    if_false, if_neg ordered, farX, farY, nearX fits.1, nearY fits.2,
    Option.bind_eq_bind, Option.bind_some]
  rw [if_neg (by omega)]
  rfl

theorem mapLogicalRectangleToNative_overflows (valid : mapping.valid = true)
    (surrounds : Surrounds mapping rectangle place)
    (overflows : ¬ScaledEdgesFit mapping rectangle) :
    mapLogicalRectangleToNative mapping rectangle = none := by
  have bounded := OutputMapping.bounded valid
  have farX := (scaledEdges bounded bounded.left bounded.right
    surrounds.columns).1
  have farY := (scaledEdges bounded bounded.top bounded.bottom
    surrounds.rows).1
  rw [Option.eq_none_iff_forall_ne_some]
  intro native mapped
  unfold mapLogicalRectangleToNative at mapped
  simp only [Option.ite_none_left_eq_some] at mapped
  obtain ⟨_, _, mapped⟩ := mapped
  obtain ⟨x0, _, mapped⟩ := Option.bind_eq_some_iff.mp mapped
  obtain ⟨y0, _, mapped⟩ := Option.bind_eq_some_iff.mp mapped
  obtain ⟨x1, right, mapped⟩ := Option.bind_eq_some_iff.mp mapped
  obtain ⟨y1, bottom, _⟩ := Option.bind_eq_some_iff.mp mapped
  rw [farX] at right
  rw [farY] at bottom
  simp only [Option.ite_none_right_eq_some] at right bottom
  exact overflows ⟨right.1, bottom.1⟩

/-- The centre of the found pixel. -/
def centreOf (mapping : OutputMapping) (place : PhysicalPoint) :
    LogicalSamplePoint :=
  { xNumerator := centre mapping.scale mapping.logicalOrigin.x place.x
    yNumerator := centre mapping.scale mapping.logicalOrigin.y place.y
    denominator := mapping.scale.numerator * 2 }

theorem surrounds_of_within (valid : mapping.valid = true)
    {pixel : PhysicalPoint} (found : Found mapping pixel place)
    (within : (centreOf mapping place).Within rectangle) :
    Surrounds mapping rectangle place := by
  have bounded := OutputMapping.bounded valid
  have numerator : 0 < mapping.scale.numerator :=
    Nat.lt_of_lt_of_le bounded.denominator bounded.magnifies
  obtain ⟨left, right, top, bottom⟩ := within
  exact
    { right := found.right
      bottom := found.bottom
      columns := around bounded.denominator numerator left right
        (centre_before _ bounded.denominator numerator found.right
          bounded.width)
      rows := around bounded.denominator numerator top bottom
        (centre_before _ bounded.denominator numerator found.bottom
          bounded.height) }

theorem within_solid {point : LogicalSamplePoint}
    (within : point.Within rectangle) : rectangle.empty = false := by
  obtain ⟨left, right, top, bottom⟩ := within
  simp only [LogicalRectangle.empty, Bool.or_eq_false_iff,
    decide_eq_false_iff_not]
  constructor
  · intro none_wide
    rw [none_wide, Nat.cast_zero, Int.add_zero] at right
    omega
  · intro none_high
    rw [none_high, Nat.cast_zero, Int.add_zero] at bottom
    omega

theorem centreOf_within (valid : mapping.valid = true)
    {pixel : PhysicalPoint} (found : Found mapping pixel place) :
    (centreOf mapping place).Within mapping.logicalRectangle := by
  have bounded := OutputMapping.bounded valid
  have numerator : 0 < mapping.scale.numerator :=
    Nat.lt_of_lt_of_le bounded.denominator bounded.magnifies
  exact ⟨centre_after _ _ _,
    centre_before _ bounded.denominator numerator found.right bounded.width,
    centre_after _ _ _,
    centre_before _ bounded.denominator numerator found.bottom bounded.height⟩

/-- The image of a surrounding rectangle contains the pixel. -/
theorem transformRectangle_surrounds {pixel : PhysicalPoint}
    (found : Found mapping pixel place)
    (surrounds : Surrounds mapping rectangle place) :
    ∃ native, transformRectangle (scaledRectangle mapping rectangle)
        mapping.physicalExtent mapping.transform = some native ∧
      native.Holds pixel.x pixel.y := by
  obtain ⟨contained, holds⟩ := surrounds.scaledRectangle
  have bijective := transformRectangle_bijective mapping.physicalExtent
    mapping.transform
  obtain ⟨native, mapped, _⟩ := bijective.image _ contained
  refine ⟨native, mapped, pixelRectangle_overlaps.mp ?_⟩
  exact (bijective.overlap _ _ _ _ found.forward mapped).mp
    (pixelRectangle_overlaps.mpr holds)

end Rectangles

/-! ## Conservative damage -/

/-- Every pixel centre is mapped into the output's own logical rectangle, and
a rectangle around the centre is mapped over the pixel, unless a scaled edge
leaves the 32-bit range. -/
theorem damage_mapping_conservative (mapping : OutputMapping)
    (valid : mapping.valid = true) :
    (∀ pixel : PhysicalPoint, pixel.x < mapping.physicalExtent.width →
      pixel.y < mapping.physicalExtent.height →
        ∃ point, mapNativePixelCenterToLogical mapping pixel = some point ∧
          point.Within mapping.logicalRectangle) ∧
      ∀ rectangle pixel point,
        mapNativePixelCenterToLogical mapping pixel = some point →
          point.Within rectangle →
            (∀ native, mapLogicalRectangleToNative mapping rectangle =
                some native → native.Holds pixel.x pixel.y) ∧
              ((mapLogicalRectangleToNative mapping rectangle).isSome ↔
                ScaledEdgesFit mapping rectangle) := by
  constructor
  · intro pixel right bottom
    obtain ⟨place, found⟩ := found mapping right bottom
    exact ⟨_, mapNativePixelCenterToLogical_found valid right bottom found,
      centreOf_within valid found⟩
  · intro rectangle pixel point centred within
    have inside : pixel.x < mapping.physicalExtent.width ∧
        pixel.y < mapping.physicalExtent.height := by
      by_contra outside
      have beyond : mapping.physicalExtent.width ≤ pixel.x ∨
          mapping.physicalExtent.height ≤ pixel.y := by omega
      rcases beyond with beyond | beyond <;>
        simp [mapNativePixelCenterToLogical, beyond] at centred
    obtain ⟨place, found⟩ := found mapping inside.1 inside.2
    rw [mapNativePixelCenterToLogical_found valid inside.1 inside.2 found]
      at centred
    obtain rfl := Option.some.inj centred
    have surrounds := surrounds_of_within valid found within
    obtain ⟨image, mapped, holds⟩ := transformRectangle_surrounds found
      surrounds
    by_cases fits : ScaledEdgesFit mapping rectangle
    · rw [mapLogicalRectangleToNative_fits valid (within_solid within)
        surrounds fits, mapped]
      refine ⟨?_, fun _ => fits, fun _ => rfl⟩
      intro native same
      rw [← Option.some.inj same]
      exact holds
    · rw [mapLogicalRectangleToNative_overflows valid surrounds fits]
      refine ⟨fun native mapped => ?_, fun present => ?_, fun fits' => ?_⟩
      · cases mapped
      · cases present
      · exact absurd fits' fits

/-- A rotated output of three by two pixels at the scale 3/2. -/
theorem damage_mapping_conservative_rotated :
    ∃ point, mapNativePixelCenterToLogical
        { logicalOrigin := { x := 10, y := 20 }
          logicalExtent := { width := 2, height := 2 }
          physicalExtent := { width := 3, height := 2 }
          scale := { numerator := 3, denominator := 2 }
          transform := .rotate90 } { x := 2, y := 1 } = some point ∧
      point.Within { x := 10, y := 20, width := 2, height := 2 } :=
  (damage_mapping_conservative
    { logicalOrigin := { x := 10, y := 20 }
      logicalExtent := { width := 2, height := 2 }
      physicalExtent := { width := 3, height := 2 }
      scale := { numerator := 3, denominator := 2 }
      transform := .rotate90 } (by decide)).1 { x := 2, y := 1 } (by decide)
    (by decide)

/-- At the greatest physical width and the scale 4 the whole desktop rectangle
of the output is mapped nowhere. -/
theorem widest_output_mapped_nowhere :
    ∃ mapping : OutputMapping, ∃ rectangle pixel point,
      mapping.valid = true ∧ mapping.physicalExtent.width ≤ uint32Maximum ∧
        mapNativePixelCenterToLogical mapping pixel = some point ∧
          point.Within rectangle ∧
            mapLogicalRectangleToNative mapping rectangle = none := by
  refine ⟨
    { logicalExtent := { width := 1073741824, height := 1 }
      physicalExtent := { width := 4294967295, height := 1 }
      scale := { numerator := 4, denominator := 1 } },
    { width := 1073741824, height := 1 },
    { x := 4294967294, y := 0 },
    { xNumerator := 8589934589, yNumerator := 1, denominator := 8 },
    by decide, by decide, by decide, ?_, by decide⟩
  simp only [LogicalSamplePoint.Within]
  decide

end Glasswyrm.Output
