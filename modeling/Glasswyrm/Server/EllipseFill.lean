import Glasswyrm.Library.CheckedInteger
import Glasswyrm.Server.RasterOps
import Mathlib.Algebra.Order.Ring.Abs
import Mathlib.Tactic.Linarith
import Mathlib.Tactic.Positivity
import Mathlib.Tactic.Ring

namespace Glasswyrm.Server

open Library
open Glasswyrm.Geometry (Rectangle)

/-! Filled ellipses, in the 64-bit arithmetic of the code: a sum or product
that overflows has no value. -/

structure RasterEllipse where
  x : Int := 0
  y : Int := 0
  width : Nat := 0
  height : Nat := 0
deriving DecidableEq, Repr

/-- The colour that a point has after it is plotted. -/
def plot (destination : PixelStorage) (foreground planeMask : UInt32)
    (x y : Int) (pixel : UInt32) : UInt32 :=
  if x < 0 ∨ y < 0 ∨ destination.width ≤ x ∨ destination.height ≤ y then pixel
  else applyPlanes foreground pixel planeMask

namespace RasterEllipse

def minimumX (ellipse : RasterEllipse) : Int := max ellipse.x 0

def minimumY (ellipse : RasterEllipse) : Int := max ellipse.y 0

def maximumX (ellipse : RasterEllipse) (destination : PixelStorage) : Int :=
  min (ellipse.x + ellipse.width) destination.width

def maximumY (ellipse : RasterEllipse) (destination : PixelStorage) : Int :=
  min (ellipse.y + ellipse.height) destination.height

end RasterEllipse

/-- Twice the distance of a pixel's centre from the centre of a span. -/
def centreOffset (position origin : Int) (extent : Nat) : Option Int := do
  let distance ← int64 (position - origin)
  let doubled ← int64 (2 * distance)
  let centre ← int64 (doubled + 1)
  int64 (centre - extent)

/-- `first * first * second * second`, from left to right. -/
def squaredProduct (first : Int) (second : Nat) : Option Int := do
  let square ← int64 (first * first)
  let product ← int64 (square * second)
  int64 (product * second)

/-- The body of the inner loop. -/
def ellipsePixel (destination : PixelStorage) (ellipse : RasterEllipse)
    (foreground planeMask : UInt32) (rhs dy x y : Int) (pixel : UInt32) :
    Option UInt32 := do
  let dx ← centreOffset x ellipse.x ellipse.width
  let horizontal ← squaredProduct dx ellipse.height
  let vertical ← squaredProduct dy ellipse.width
  let lhs ← int64 (horizontal + vertical)
  return if lhs ≤ rhs then plot destination foreground planeMask x y pixel
    else pixel

def fillEllipse (destination : PixelStorage) (ellipse : RasterEllipse)
    (foreground planeMask : UInt32) : Option PixelStorage :=
  if ellipse.width = 0 || ellipse.height = 0 then some destination
  else do
    let rhs ← squaredProduct ellipse.width ellipse.height
    let minimumX := ellipse.minimumX
    let minimumY := ellipse.minimumY
    let columns := (ellipse.maximumX destination - minimumX).toNat
    let rows := (ellipse.maximumY destination - minimumY).toNat
    let pixels ← Raster.paintM
      (fun y => centreOffset y ellipse.y ellipse.height)
      (ellipsePixel destination ellipse foreground planeMask rhs)
      minimumX minimumY columns rows destination.pixels
    return { destination with pixels }

/-! ## The arithmetic -/

theorem centreOffset_eq {position origin : Int} {extent : Nat}
    (low : origin ≤ position) (high : position < origin + extent)
    (small : extent < 2 ^ 16) :
    centreOffset position origin extent =
      some (2 * (position - origin) + 1 - extent) := by
  unfold centreOffset
  simp only [Option.bind_eq_bind]
  rw [int64_eq_some (by omega) (by omega), Option.bind_some,
    int64_eq_some (by omega) (by omega), Option.bind_some,
    int64_eq_some (by omega) (by omega), Option.bind_some,
    int64_eq_some (by omega) (by omega)]

/-- Every factor after the first two only makes the product greater. -/
theorem squaredProduct_eq_some_iff {first result : Int} {second : Nat}
    (extent : 0 < second) :
    squaredProduct first second = some result ↔
      result = (first * second) ^ 2 ∧ (first * second) ^ 2 < 2 ^ 63 := by
  have whole : first * first * second * second = (first * second) ^ 2 := by
    ring
  have square : 0 ≤ first * first := mul_self_nonneg first
  have one : (1 : Int) ≤ second := by omega
  have product : first * first ≤ first * first * second :=
    le_mul_of_one_le_right square one
  have last : first * first * second ≤ first * first * second * second :=
    le_mul_of_one_le_right (square.trans product) one
  unfold squaredProduct int64
  simp only [Option.bind_eq_bind, Option.bind_eq_some_iff,
    checkedInt_eq_some_iff]
  rw [← whole]
  constructor
  · rintro ⟨_, ⟨_, rfl⟩, _, ⟨_, rfl⟩, ⟨_, less⟩, rfl⟩
    exact ⟨rfl, less⟩
  · rintro ⟨rfl, less⟩
    refine ⟨_, ⟨⟨?_, ?_⟩, rfl⟩, _, ⟨⟨?_, ?_⟩, rfl⟩, ⟨?_, less⟩, rfl⟩ <;> omega

namespace RasterEllipse

/-- Twice the distance of a pixel's centre from the centre of the ellipse. -/
def offsetX (ellipse : RasterEllipse) (x : Int) : Int :=
  2 * (x - ellipse.x) + 1 - ellipse.width

def offsetY (ellipse : RasterEllipse) (y : Int) : Int :=
  2 * (y - ellipse.y) + 1 - ellipse.height

/-- The inequality of the ellipse at the centre of a pixel, twice over; an
ellipse without extent has no points. -/
def CentreInside (ellipse : RasterEllipse) (x y : Int) : Prop :=
  0 < ellipse.width ∧ 0 < ellipse.height ∧
    ellipse.offsetX x ^ 2 * ellipse.height ^ 2 +
      ellipse.offsetY y ^ 2 * ellipse.width ^ 2 ≤
        (ellipse.width : Int) ^ 2 * ellipse.height ^ 2

instance (ellipse : RasterEllipse) (x y : Int) :
    Decidable (ellipse.CentreInside x y) :=
  inferInstanceAs (Decidable (_ ∧ _ ∧ _))

/-- The greatest offset in the columns that are visited. -/
def farthestX (ellipse : RasterEllipse) (destination : PixelStorage) : Int :=
  max |ellipse.offsetX ellipse.minimumX|
    |ellipse.offsetX (ellipse.maximumX destination - 1)|

def farthestY (ellipse : RasterEllipse) (destination : PixelStorage) : Int :=
  max |ellipse.offsetY ellipse.minimumY|
    |ellipse.offsetY (ellipse.maximumY destination - 1)|

/-- Both sides of the inequality stay below the limit at the farthest pixel. -/
def Fits (ellipse : RasterEllipse) (destination : PixelStorage) : Prop :=
  ellipse.width = 0 ∨ ellipse.height = 0 ∨
    ((ellipse.width * ellipse.height : Int) ^ 2 < 2 ^ 63 ∧
      (ellipse.minimumX < ellipse.maximumX destination →
        ellipse.minimumY < ellipse.maximumY destination →
          (ellipse.farthestX destination * ellipse.height) ^ 2 +
            (ellipse.farthestY destination * ellipse.width) ^ 2 < 2 ^ 63))

/-- Positions and extents have 16 bits in a request. -/
structure Requested (ellipse : RasterEllipse) : Prop where
  x : -2 ^ 15 ≤ ellipse.x ∧ ellipse.x < 2 ^ 15
  y : -2 ^ 15 ≤ ellipse.y ∧ ellipse.y < 2 ^ 15
  width : ellipse.width < 2 ^ 16
  height : ellipse.height < 2 ^ 16

variable {ellipse : RasterEllipse} {destination : PixelStorage}

theorem offsetX_le_farthest {x : Int} (first : ellipse.minimumX ≤ x)
    (last : x < ellipse.maximumX destination) :
    |ellipse.offsetX x| ≤ ellipse.farthestX destination := by
  apply abs_le_max_abs_abs
  · simp only [offsetX]
    omega
  · simp only [offsetX]
    omega

theorem offsetY_le_farthest {y : Int} (first : ellipse.minimumY ≤ y)
    (last : y < ellipse.maximumY destination) :
    |ellipse.offsetY y| ≤ ellipse.farthestY destination := by
  apply abs_le_max_abs_abs
  · simp only [offsetY]
    omega
  · simp only [offsetY]
    omega

theorem farthestX_reached
    (visited : ellipse.minimumX < ellipse.maximumX destination) :
    ∃ x, ellipse.minimumX ≤ x ∧ x < ellipse.maximumX destination ∧
      |ellipse.offsetX x| = ellipse.farthestX destination := by
  rcases le_total |ellipse.offsetX ellipse.minimumX|
    |ellipse.offsetX (ellipse.maximumX destination - 1)| with less | less
  · exact ⟨_, by omega, by omega, (max_eq_right less).symm⟩
  · exact ⟨_, le_refl _, visited, (max_eq_left less).symm⟩

theorem farthestY_reached
    (visited : ellipse.minimumY < ellipse.maximumY destination) :
    ∃ y, ellipse.minimumY ≤ y ∧ y < ellipse.maximumY destination ∧
      |ellipse.offsetY y| = ellipse.farthestY destination := by
  rcases le_total |ellipse.offsetY ellipse.minimumY|
    |ellipse.offsetY (ellipse.maximumY destination - 1)| with less | less
  · exact ⟨_, by omega, by omega, (max_eq_right less).symm⟩
  · exact ⟨_, le_refl _, visited, (max_eq_left less).symm⟩

/-- A pixel whose centre is inside lies in the box around the ellipse. -/
theorem CentreInside.box {x y : Int} (inside : ellipse.CentreInside x y) :
    ellipse.x ≤ x ∧ x < ellipse.x + ellipse.width ∧
      ellipse.y ≤ y ∧ y < ellipse.y + ellipse.height := by
  obtain ⟨width, height, less⟩ := inside
  have w : (0 : Int) < (ellipse.width : Int) ^ 2 := by positivity
  have h : (0 : Int) < (ellipse.height : Int) ^ 2 := by positivity
  have horizontal : |ellipse.offsetX x| ≤ ellipse.width := by
    have square : ellipse.offsetX x ^ 2 ≤ (ellipse.width : Int) ^ 2 := by
      have part : 0 ≤ ellipse.offsetY y ^ 2 * (ellipse.width : Int) ^ 2 := by
        positivity
      exact le_of_mul_le_mul_right (by linarith) h
    exact abs_le_of_sq_le_sq square (by omega)
  have vertical : |ellipse.offsetY y| ≤ ellipse.height := by
    have square : ellipse.offsetY y ^ 2 ≤ (ellipse.height : Int) ^ 2 := by
      have part : 0 ≤ ellipse.offsetX x ^ 2 * (ellipse.height : Int) ^ 2 := by
        positivity
      refine le_of_mul_le_mul_right ?_ w
      linarith
    exact abs_le_of_sq_le_sq square (by omega)
  rw [abs_le] at horizontal vertical
  simp only [offsetX] at horizontal
  simp only [offsetY] at vertical
  omega

/-- The left-hand side at a pixel. -/
def reach (ellipse : RasterEllipse) (x y : Int) : Int :=
  (ellipse.offsetX x * ellipse.height) ^ 2 +
    (ellipse.offsetY y * ellipse.width) ^ 2

theorem reach_le_farthest {x y : Int} (left : ellipse.minimumX ≤ x)
    (right : x < ellipse.maximumX destination) (top : ellipse.minimumY ≤ y)
    (bottom : y < ellipse.maximumY destination) :
    ellipse.reach x y ≤
      (ellipse.farthestX destination * ellipse.height) ^ 2 +
        (ellipse.farthestY destination * ellipse.width) ^ 2 := by
  have horizontal : ellipse.offsetX x ^ 2 ≤
      ellipse.farthestX destination ^ 2 :=
    sq_le_sq.mpr ((offsetX_le_farthest left right).trans (le_abs_self _))
  have vertical : ellipse.offsetY y ^ 2 ≤
      ellipse.farthestY destination ^ 2 :=
    sq_le_sq.mpr ((offsetY_le_farthest top bottom).trans (le_abs_self _))
  simp only [reach, mul_pow]
  gcongr

theorem reach_farthest
    (columns : ellipse.minimumX < ellipse.maximumX destination)
    (rows : ellipse.minimumY < ellipse.maximumY destination) :
    ∃ x y, (ellipse.minimumX ≤ x ∧ x < ellipse.maximumX destination) ∧
      (ellipse.minimumY ≤ y ∧ y < ellipse.maximumY destination) ∧
      ellipse.reach x y =
        (ellipse.farthestX destination * ellipse.height) ^ 2 +
          (ellipse.farthestY destination * ellipse.width) ^ 2 := by
  obtain ⟨x, left, right, isX⟩ := farthestX_reached columns
  obtain ⟨y, top, bottom, isY⟩ := farthestY_reached rows
  refine ⟨x, y, ⟨left, right⟩, ⟨top, bottom⟩, ?_⟩
  simp only [reach, mul_pow, ← isX, ← isY, sq_abs]

theorem centreInside_iff (width : 0 < ellipse.width)
    (height : 0 < ellipse.height) (x y : Int) :
    ellipse.CentreInside x y ↔
      ellipse.reach x y ≤ (ellipse.width * ellipse.height : Int) ^ 2 := by
  simp only [CentreInside, width, height, true_and, reach, mul_pow]

/-- At a pixel of the box neither offset is greater than the extent. -/
theorem offset_squares {x y : Int}
    (left : ellipse.x ≤ x) (right : x < ellipse.x + ellipse.width)
    (top : ellipse.y ≤ y) (bottom : y < ellipse.y + ellipse.height) :
    (ellipse.offsetX x * ellipse.height) ^ 2 ≤
        (ellipse.width * ellipse.height : Int) ^ 2 ∧
      (ellipse.offsetY y * ellipse.width) ^ 2 ≤
        (ellipse.width * ellipse.height : Int) ^ 2 := by
  have horizontal : ellipse.offsetX x ^ 2 ≤ (ellipse.width : Int) ^ 2 := by
    apply sq_le_sq'
    · simp only [offsetX]
      omega
    · simp only [offsetX]
      omega
  have vertical : ellipse.offsetY y ^ 2 ≤ (ellipse.height : Int) ^ 2 := by
    apply sq_le_sq'
    · simp only [offsetY]
      omega
    · simp only [offsetY]
      omega
  constructor
  · simp only [mul_pow]
    gcongr
  · rw [mul_comm (ellipse.width : Int)]
    simp only [mul_pow]
    gcongr

end RasterEllipse

section

variable {destination : PixelStorage} {ellipse : RasterEllipse}
  (requested : ellipse.Requested) {foreground planeMask : UInt32}
  {x y : Int} (left : ellipse.x ≤ x) (right : x < ellipse.x + ellipse.width)
  (top : ellipse.y ≤ y) (bottom : y < ellipse.y + ellipse.height)
  (square : (ellipse.width * ellipse.height : Int) ^ 2 < 2 ^ 63)

include requested left right top bottom square

/-- With the right-hand side in range only the sum of the left-hand side may
overflow. -/
theorem ellipsePixel_eq (rhs : Int) (pixel : UInt32) :
    ellipsePixel destination ellipse foreground planeMask rhs
      (ellipse.offsetY y) x y pixel =
      (int64 (ellipse.reach x y)).map fun lhs =>
        if lhs ≤ rhs then plot destination foreground planeMask x y pixel
        else pixel := by
  obtain ⟨horizontal, vertical⟩ :=
    RasterEllipse.offset_squares left right top bottom
  have wide : 0 < ellipse.width := by omega
  have high : 0 < ellipse.height := by omega
  have first : squaredProduct (ellipse.offsetX x) ellipse.height =
      some ((ellipse.offsetX x * ellipse.height) ^ 2) :=
    (squaredProduct_eq_some_iff high).mpr ⟨rfl, by omega⟩
  have second : squaredProduct (ellipse.offsetY y) ellipse.width =
      some ((ellipse.offsetY y * ellipse.width) ^ 2) :=
    (squaredProduct_eq_some_iff wide).mpr ⟨rfl, by omega⟩
  have offset : centreOffset x ellipse.x ellipse.width =
      some (ellipse.offsetX x) := centreOffset_eq left right requested.width
  unfold ellipsePixel
  simp only [Option.bind_eq_bind, offset, Option.bind_some, first, second]
  rw [Option.map_eq_bind]
  rfl

end

/-- No intermediate overflows, and exactly the pixels of the drawable whose
centres are inside are plotted. -/
def EllipseFilled (destination : PixelStorage) (ellipse : RasterEllipse)
    (foreground planeMask : UInt32) (filled : Option PixelStorage) : Prop :=
  ∃ result, filled = some result ∧ result.width = destination.width ∧
    result.height = destination.height ∧
    ∀ x y, result.pixels x y =
      if destination.bounds.Contains x y ∧ ellipse.CentreInside x y then
        applyPlanes foreground (destination.pixels x y) planeMask
      else destination.pixels x y

section

variable {destination : PixelStorage} {ellipse : RasterEllipse}
  (requested : ellipse.Requested) {foreground planeMask : UInt32}

include requested

theorem fillEllipse_fits
    (filled : (fillEllipse destination ellipse foreground planeMask).isSome) :
    ellipse.Fits destination := by
  unfold fillEllipse at filled
  split at filled
  · rename_i flat
    simp only [Bool.or_eq_true, decide_eq_true_eq] at flat
    exact flat.imp_right Or.inl
  · rename_i solid
    simp only [Bool.or_eq_true, decide_eq_true_eq, not_or] at solid
    have wide : 0 < ellipse.width := by omega
    have high : 0 < ellipse.height := by omega
    obtain ⟨result, filled⟩ := Option.isSome_iff_exists.mp filled
    obtain ⟨rhs, isRhs, filled⟩ := Option.bind_eq_some_iff.mp filled
    obtain ⟨rfl, square⟩ := (squaredProduct_eq_some_iff high).mp isRhs
    obtain ⟨pixels, painted, _⟩ := Option.bind_eq_some_iff.mp filled
    refine Or.inr (Or.inr ⟨square, fun columns rows => ?_⟩)
    obtain ⟨x, y, ⟨left, right⟩, ⟨top, bottom⟩, far⟩ :=
      RasterEllipse.reach_farthest columns rows
    obtain ⟨dy, before, after, isRow, valued⟩ := Raster.paintM_takes painted
      left (by omega) top (by omega)
    rw [centreOffset_eq (by simp only [RasterEllipse.minimumY] at top; omega)
      (by simp only [RasterEllipse.maximumY] at bottom; omega)
      requested.height] at isRow
    obtain rfl := Option.some.inj isRow
    have inner := @ellipsePixel_eq destination ellipse requested foreground
      planeMask x y (by simp only [RasterEllipse.minimumX] at left; omega)
      (by simp only [RasterEllipse.maximumX] at right; omega)
      (by simp only [RasterEllipse.minimumY] at top; omega)
      (by simp only [RasterEllipse.maximumY] at bottom; omega) square
    rw [RasterEllipse.offsetY] at inner
    rw [inner] at valued
    obtain ⟨lhs, fits, _⟩ := Option.map_eq_some_iff.mp valued
    rw [← far]
    exact (checkedInt_eq_some_iff.mp fits).1.2

theorem fillEllipse_filled (fits : ellipse.Fits destination) :
    EllipseFilled destination ellipse foreground planeMask
      (fillEllipse destination ellipse foreground planeMask) := by
  unfold fillEllipse
  split
  · rename_i flat
    simp only [Bool.or_eq_true, decide_eq_true_eq] at flat
    refine ⟨destination, rfl, rfl, rfl, fun x y => ?_⟩
    rw [if_neg]
    rintro ⟨_, wide, high, _⟩
    omega
  · rename_i solid
    simp only [Bool.or_eq_true, decide_eq_true_eq, not_or] at solid
    have wide : 0 < ellipse.width := by omega
    have high : 0 < ellipse.height := by omega
    obtain ⟨square, reach⟩ : (ellipse.width * ellipse.height : Int) ^ 2 <
        2 ^ 63 ∧ _ := by
      rcases fits with flat | flat | fits
      · exact absurd flat solid.1
      · exact absurd flat solid.2
      · exact fits
    rw [(squaredProduct_eq_some_iff high).mpr ⟨rfl, square⟩]
    simp only [Option.bind_eq_bind, Option.bind_some]
    have painted := @Raster.paintM_eq_some UInt32 Int
      (fun y => centreOffset y ellipse.y ellipse.height)
      (ellipsePixel destination ellipse foreground planeMask
        ((ellipse.width * ellipse.height : Int) ^ 2))
      ellipse.offsetY
      (fun x y pixel =>
        if ellipse.reach x y ≤ (ellipse.width * ellipse.height : Int) ^ 2 then
          plot destination foreground planeMask x y pixel
        else pixel)
      ellipse.minimumX ellipse.minimumY
      (ellipse.maximumX destination - ellipse.minimumX).toNat
      (ellipse.maximumY destination - ellipse.minimumY).toNat ?_ ?_
      destination.pixels
    · rw [painted]
      refine ⟨_, rfl, rfl, rfl, fun x y => ?_⟩
      simp only [Raster.paint_apply, PixelStorage.bounds_contains,
        ← RasterEllipse.centreInside_iff wide high]
      by_cases inside : ellipse.CentreInside x y
      · have box := inside.box
        simp only [inside, if_true, and_true, RasterEllipse.minimumX,
          RasterEllipse.minimumY, RasterEllipse.maximumX,
          RasterEllipse.maximumY, plot]
        split
        · rw [if_neg (by omega), if_pos (by omega)]
        · rw [if_neg (by omega)]
      · simp only [inside, if_false, and_false, ite_self]
    · intro y top bottom
      apply centreOffset_eq
      · simp only [RasterEllipse.minimumY] at top
        omega
      · simp only [RasterEllipse.maximumY] at bottom
        omega
      · exact requested.height
    · intro x y left right top bottom pixel
      have lastX : x < ellipse.maximumX destination := by omega
      have lastY : y < ellipse.maximumY destination := by omega
      have less := RasterEllipse.reach_le_farthest left lastX top lastY
      have bound := reach (by omega) (by omega)
      have some : 0 ≤ ellipse.reach x y := by
        unfold RasterEllipse.reach
        positivity
      rw [ellipsePixel_eq requested
        (by simp only [RasterEllipse.minimumX] at left; omega)
        (by simp only [RasterEllipse.maximumX] at lastX; omega)
        (by simp only [RasterEllipse.minimumY] at top; omega)
        (by simp only [RasterEllipse.maximumY] at lastY; omega) square,
        int64_eq_some (by omega) (by omega)]
      rfl

/-- An ellipse is filled as its inequality says exactly when both sides of the
inequality fit into 64 bits. -/
theorem fillEllipse_exact_iff :
    EllipseFilled destination ellipse foreground planeMask
      (fillEllipse destination ellipse foreground planeMask) ↔
        ellipse.Fits destination := by
  constructor
  · rintro ⟨result, filled, _⟩
    exact fillEllipse_fits requested (by rw [filled]; rfl)
  · exact fillEllipse_filled requested

end

theorem fillEllipse_exact_iff_small :
    EllipseFilled ⟨4, 4, fun _ _ => 0xff000000⟩ ⟨0, 0, 4, 4⟩ 1 0xffffff
      (fillEllipse ⟨4, 4, fun _ _ => 0xff000000⟩ ⟨0, 0, 4, 4⟩ 1 0xffffff) ↔
      RasterEllipse.Fits ⟨0, 0, 4, 4⟩ ⟨4, 4, fun _ _ => 0xff000000⟩ :=
  fillEllipse_exact_iff ⟨by decide, by decide, by decide, by decide⟩

/-- The largest ellipse that a request can ask for. -/
theorem fillEllipse_overflows :
    ¬EllipseFilled ⟨4, 4, fun _ _ => 0xff000000⟩ ⟨0, 0, 65535, 65535⟩ 1 0xffffff
      (fillEllipse ⟨4, 4, fun _ _ => 0xff000000⟩ ⟨0, 0, 65535, 65535⟩ 1
        0xffffff) := by
  rintro ⟨result, filled, _⟩
  cases filled

end Glasswyrm.Server
