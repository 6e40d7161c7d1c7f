import Glasswyrm.Wm.Stacked

namespace Glasswyrm.Wm

open Lifecycle Output Library

/-! Which windows reach the output that they are assigned to. -/

variable {raw : RawState}

/-! ## Rectangles -/

/-- One axis of the intersection. -/
theorem overlap_pos_iff {left right : Int} {leftExtent rightExtent : Nat} :
    0 < max 0 (min (left + leftExtent) (right + rightExtent) -
        max left right) ↔
      0 < leftExtent ∧ 0 < rightExtent ∧ left < right + rightExtent ∧
        right < left + leftExtent := by
  omega

theorem intersectionArea_ne_zero_iff {left right : Rectangle} :
    intersectionArea left right ≠ 0 ↔
      (0 < left.width ∧ 0 < right.width ∧ left.x < right.x + right.width ∧
        right.x < left.x + left.width) ∧
      (0 < left.height ∧ 0 < right.height ∧ left.y < right.y + right.height ∧
        right.y < left.y + left.height) := by
  rw [← overlap_pos_iff, ← overlap_pos_iff, intersectionArea,
    Nat.mul_ne_zero_iff]
  omega

theorem intersectionArea_comm (left right : Rectangle) :
    intersectionArea left right = intersectionArea right left := by
  unfold intersectionArea
  simp only [min_comm, max_comm]

theorem contains_iff {outer inner : Rectangle} :
    contains outer inner = true ↔
      (outer.x ≤ inner.x ∧ inner.x + inner.width ≤ outer.x + outer.width) ∧
      outer.y ≤ inner.y ∧ inner.y + inner.height ≤ outer.y + outer.height := by
  simp only [contains, Bool.and_eq_true, decide_eq_true_eq]
  omega

theorem contains_trans {outer middle inner : Rectangle}
    (first : contains outer middle = true)
    (second : contains middle inner = true) : contains outer inner = true := by
  rw [contains_iff] at first second ⊢
  omega

/-- The limits of a valid rectangle. -/
theorem validRectangle_bounds {rectangle : Rectangle}
    (valid : validRectangle rectangle = true) :
    (0 ≤ rectangle.x ∧ 0 < rectangle.width ∧
      rectangle.x + rectangle.width - 1 ≤ 2147483647) ∧
    0 ≤ rectangle.y ∧ 0 < rectangle.height ∧
      rectangle.y + rectangle.height - 1 ≤ 2147483647 := by
  simp only [validRectangle, extentFits, Bool.and_eq_true, decide_eq_true_eq]
    at valid
  unfold int32Maximum at valid
  omega

/-- A clamped coordinate leaves a pixel of the window on the output. -/
theorem visibleCoordinate_bounds {origin : Int} {extent window : Nat}
    (coordinate : Int) (low : 0 ≤ origin) (some : 0 < extent)
    (fits : origin + extent - 1 ≤ 2147483647) (shown : 0 < window)
    (small : window ≤ maximumWindowExtent) :
    visibleCoordinate coordinate origin extent window < origin + extent ∧
      origin < visibleCoordinate coordinate origin extent window + window := by
  have bounds := @clamp_bounds coordinate (origin - window + 1)
    (origin + extent - 1) (by omega)
  unfold maximumWindowExtent at small
  rw [visibleCoordinate, toInt32_of_fits (by omega) (by omega)]
  omega

/-! ## Outputs -/

/-- Whether a rectangle meets the enabled output of this identifier. -/
def meetsOutput (raw : RawState) (id : Nat) (geometry : Rectangle) : Bool :=
  raw.outputs[id]?.any fun output =>
    output.enabled && intersectionArea output.logical geometry ≠ 0

theorem meetsOutput_iff {id : Nat} {output : OutputContext}
    {geometry : Rectangle} (found : raw.outputs[id]? = some output)
    (enabled : output.enabled = true) :
    meetsOutput raw id geometry = true ↔
      intersectionArea output.logical geometry ≠ 0 := by
  simp [meetsOutput, found, enabled]

theorem meetsOutput_found {id : Nat} {geometry : Rectangle}
    (meets : meetsOutput raw id geometry = true) :
    ∃ output, raw.outputs[id]? = some output ∧ output.enabled = true ∧
      intersectionArea output.logical geometry ≠ 0 := by
  cases found : raw.outputs[id]? with
  | none =>
      rw [meetsOutput, found] at meets
      cases meets
  | some output =>
      have both : output.enabled = true ∧
          intersectionArea output.logical geometry ≠ 0 := by
        simpa [meetsOutput, found] using meets
      exact ⟨output, rfl, both⟩

/-- The enabled output of this identifier. -/
theorem RawState.output_found {id : Nat}
    (enabled : enabledOutput raw.outputs id = true) :
    raw.outputs[id]? = some (raw.output id) ∧
      (raw.output id).enabled = true := by
  obtain ⟨output, found, on⟩ := enabledOutput_iff.mp enabled
  rw [RawState.output, found, Option.getD_some]
  exact ⟨rfl, on⟩

section

variable (valid : Valid raw) {id : Nat}
  (enabled : enabledOutput raw.outputs id = true)

include valid enabled

theorem Valid.usable : UsableOutput (raw.output id) := by
  obtain ⟨found, on⟩ := RawState.output_found enabled
  exact (valid.output found).2.2.2 on

omit valid in
theorem meetsOutput_contained {geometry : Rectangle}
    (width : 0 < geometry.width) (height : 0 < geometry.height)
    (inside : contains (raw.output id).logical geometry = true) :
    meetsOutput raw id geometry = true := by
  obtain ⟨found, on⟩ := RawState.output_found enabled
  rw [meetsOutput_iff found on, intersectionArea_ne_zero_iff]
  rw [contains_iff] at inside
  omega

/-- What lies in the work area meets the output. -/
theorem meetsOutput_inside {geometry : Rectangle}
    (width : 0 < geometry.width) (height : 0 < geometry.height)
    (inside : contains (raw.output id).work geometry = true) :
    meetsOutput raw id geometry = true :=
  meetsOutput_contained enabled width height
    (contains_trans (valid.usable enabled).inside inside)

theorem meetsOutput_work :
    meetsOutput raw id (raw.output id).work = true := by
  have bounds := validRectangle_bounds (valid.usable enabled).work
  refine meetsOutput_inside valid enabled bounds.1.2.1 bounds.2.2.1 ?_
  simp [contains]

theorem initialPlacement_inside (width height slot : Nat) :
    contains (raw.output id).work
      (initialPlacement (raw.output id) width height slot) = true := by
  have limits : (raw.output id).work.width ≤ maximumRootExtent ∧
      (raw.output id).work.height ≤ maximumRootExtent := by
    have work := (valid.usable enabled).work
    simp only [validRectangle, Bool.and_eq_true, decide_eq_true_eq] at work
    unfold maximumWorkExtent at work
    unfold maximumRootExtent
    omega
  have alongX := @cascadeOffset_bounds slot ((raw.output id).work.width -
    min width (raw.output id).work.width) (by omega)
  have alongY := @cascadeOffset_bounds slot ((raw.output id).work.height -
    min height (raw.output id).work.height) (by omega)
  simp only [contains, Bool.and_eq_true, decide_eq_true_eq]
  simp only [initialPlacement]
  omega

theorem initialPlacement_meets {width height : Nat} (wide : 0 < width)
    (high : 0 < height) (slot : Nat) :
    meetsOutput raw id
      (initialPlacement (raw.output id) width height slot) = true := by
  have bounds := validRectangle_bounds (valid.usable enabled).work
  refine meetsOutput_inside valid enabled ?_ ?_
    (initialPlacement_inside valid enabled width height slot)
  · simp only [initialPlacement]
    omega
  · simp only [initialPlacement]
    omega

theorem clampToOutput_meets {geometry : Rectangle}
    (wide : 0 < geometry.width) (high : 0 < geometry.height)
    (narrow : geometry.width ≤ maximumWindowExtent)
    (low : geometry.height ≤ maximumWindowExtent) :
    meetsOutput raw id
      (clampToOutput (raw.output id).logical geometry) = true := by
  obtain ⟨found, on⟩ := RawState.output_found enabled
  obtain ⟨alongX, alongY⟩ :=
    validRectangle_bounds (valid.usable enabled).logical
  have x := visibleCoordinate_bounds geometry.x alongX.1 alongX.2.1 alongX.2.2
    wide narrow
  have y := visibleCoordinate_bounds geometry.y alongY.1 alongY.2.1 alongY.2.2
    high low
  rw [meetsOutput_iff found on, intersectionArea_ne_zero_iff]
  simp only [clampToOutput]
  omega

omit valid in
/-- A rectangle is moved to the output if it meets none. -/
theorem retainVisiblePixel_eq (geometry : Rectangle) :
    retainVisiblePixel raw.outputs id geometry =
      if intersectsAny raw.outputs geometry then geometry
      else clampToOutput (raw.output id).logical geometry := by
  obtain ⟨found, on⟩ := RawState.output_found enabled
  rw [retainVisiblePixel, found]
  simp [on]

end

theorem intersectsAny_iff {geometry : Rectangle} :
    intersectsAny raw.outputs geometry = true ↔
      ∃ id, meetsOutput raw id geometry = true := by
  simp only [intersectsAny, List.any_eq_true, Prod.exists, KeyMap.mem_toList]
  refine exists_congr fun id => ?_
  rw [meetsOutput]
  cases raw.outputs[id]? <;> simp

end Glasswyrm.Wm
