import Glasswyrm.Wm.Admission

namespace Glasswyrm.Wm

open Lifecycle Output Library

/-! What requests keep transients on the outputs of their parents: a transient
is centred on its parent, so it covers the middle pixel of its parent. -/

variable {raw : RawState}

/-! ## Rectangles -/

/-- The middle pixel, the left or upper one of two. -/
def middlePixel (area : Rectangle) : Rectangle where
  x := area.x + (area.width - 1) / 2
  y := area.y + (area.height - 1) / 2
  width := 1
  height := 1

theorem contains_middlePixel {area : Rectangle} (wide : 0 < area.width)
    (high : 0 < area.height) : contains area (middlePixel area) = true := by
  rw [contains_iff]
  simp only [middlePixel]
  omega

/-- A rectangle lies in another exactly if all of its area does. -/
theorem contains_iff_area {area outer : Rectangle} (wide : 0 < area.width)
    (high : 0 < area.height) :
    contains outer area = true ↔
      area.width * area.height ≤ intersectionArea area outer := by
  rw [contains_iff]
  simp only [intersectionArea]
  generalize across : (max 0 (min (area.x + area.width)
    (outer.x + outer.width) - max area.x outer.x)).toNat = across'
  generalize down : (max 0 (min (area.y + area.height)
    (outer.y + outer.height) - max area.y outer.y)).toNat = down'
  have narrower : across' ≤ area.width := by omega
  have lower : down' ≤ area.height := by omega
  constructor
  · intro inside
    have whole : across' = area.width := by omega
    have full : down' = area.height := by omega
    rw [whole, full]
  · intro large
    have whole : across' = area.width := by
      by_contra short
      have less : across' * down' < area.width * area.height :=
        Nat.mul_lt_mul_of_lt_of_le (by omega) lower high
      omega
    have full : down' = area.height := by
      by_contra short
      have less : across' * down' < area.width * area.height :=
        Nat.mul_lt_mul_of_le_of_lt narrower (by omega) wide
      omega
    omega

/-- Half of a difference is rounded towards zero. -/
theorem tdiv_two (value : Int) :
    (0 ≤ value → 2 * Int.tdiv value 2 ≤ value ∧
        value ≤ 2 * Int.tdiv value 2 + 1) ∧
      (value < 0 → value ≤ 2 * Int.tdiv value 2 ∧
        2 * Int.tdiv value 2 ≤ value + 1) := by
  constructor
  · intro positive
    rw [Int.tdiv_eq_ediv_of_nonneg positive]
    omega
  · intro negative
    have flipped : Int.tdiv value 2 = -Int.tdiv (-value) 2 := by
      rw [Int.neg_tdiv, Int.neg_neg]
    rw [flipped, Int.tdiv_eq_ediv_of_nonneg (by omega)]
    omega

/-- A stretch that is centred over another covers its middle. -/
theorem centred_middle (start : Int) {inner outer : Nat} (some : 0 < inner)
    (wide : 0 < outer) :
    let centred := start + Int.tdiv ((outer : Int) - inner) 2
    centred ≤ start + ((outer : Int) - 1) / 2 ∧
      start + ((outer : Int) - 1) / 2 + 1 ≤ centred + inner := by
  have half := tdiv_two ((outer : Int) - inner)
  constructor <;> omega

/-- A stretch that is centred over a longer one lies in it. -/
theorem centred_inside (start : Int) {inner outer : Nat}
    (narrow : inner ≤ outer) :
    let centred := start + Int.tdiv ((outer : Int) - inner) 2
    start ≤ centred ∧ centred + inner ≤ start + outer := by
  have half := tdiv_two ((outer : Int) - inner)
  constructor <;> omega

theorem meetsOutput_of_pixel {id : Nat} {area inner : Rectangle}
    (enabled : enabledOutput raw.outputs id = true)
    (held : contains (raw.output id).logical (middlePixel inner) = true)
    (covers : contains area (middlePixel inner) = true) :
    meetsOutput raw id area = true := by
  obtain ⟨found, on⟩ := RawState.output_found enabled
  rw [meetsOutput_iff found on, intersectionArea_ne_zero_iff]
  rw [contains_iff] at held covers
  simp only [middlePixel] at held covers
  omega

/-! ## What the requests say -/

/-- The request keeps the window inside of one output: it fills the output or
is placed by the policy, it asks for an area of one output, or it is a
transient no larger than a parent that is kept inside. -/
inductive KeptInside (raw : RawState) : Nat → Prop
  | fills {id : Nat} (known : id ∈ raw.windows)
      (fills : fillsOutput (raw.window id) = true) : KeptInside raw id
  | unplaced {id : Nat} (root : raw.IsRoot id)
      (managed : (raw.window id).overrideRedirect = false)
      (unplaced : (raw.window id).geometrySerial = 0) : KeptInside raw id
  | placed {id outputId : Nat} {output : OutputContext} (root : raw.IsRoot id)
      (managed : (raw.window id).overrideRedirect = false)
      (found : raw.outputs[outputId]? = some output)
      (enabled : output.enabled = true)
      (inside : contains output.logical
        (requestedGeometry (raw.window id)) = true) : KeptInside raw id
  | within {id : Nat} (isTransient : raw.IsTransient id)
      (above : KeptInside raw (raw.window id).transientFor)
      (fits : fillsOutput (raw.window (raw.window id).transientFor) = true ∨
        (raw.window id).requestedWidth ≤
            (raw.window (raw.window id).transientFor).requestedWidth ∧
          (raw.window id).requestedHeight ≤
            (raw.window (raw.window id).transientFor).requestedHeight) :
      KeptInside raw id

/-- The requests keep the middle pixel of the window on its output. -/
inductive MiddleKept (raw : RawState) (id : Nat) : Prop
  | inside (kept : KeptInside raw id)
  | leading (root : raw.IsRoot id)
      (holds : ∀ (outputId : Nat) output,
        raw.outputs[outputId]? = some output → output.enabled = true →
        Leads raw output (requestedGeometry (raw.window id)) →
        contains output.logical
          (middlePixel (requestedGeometry (raw.window id))) = true)

/-- No two outputs are enabled. -/
def OneOutput (raw : RawState) : Prop :=
  ∀ id other, enabledOutput raw.outputs id = true →
    enabledOutput raw.outputs other = true → id = other

/-! ## Where such windows are put -/

theorem retainVisiblePixel_extents (id : Nat) (area : Rectangle) :
    (retainVisiblePixel raw.outputs id area).width = area.width ∧
      (retainVisiblePixel raw.outputs id area).height = area.height := by
  rw [retainVisiblePixel]
  split
  · exact ⟨rfl, rfl⟩
  · split
    · exact ⟨rfl, rfl⟩
    · split <;> exact ⟨rfl, rfl⟩

theorem PlacedAt.fills {id : Nat} {spot : WindowState}
    (placed : PlacedAt raw id spot)
    (fills : fillsOutput (raw.window id) = true) :
    spot.geometry = (raw.output spot.outputId).work := by
  simp only [fillsOutput, Bool.or_eq_true, decide_eq_true_eq] at fills
  cases placed with
  | root root =>
      rw [placedIn, applyGeometry_geometry, rootGeometry]
      rcases fills with state | state <;> rw [state] <;> rfl
  | transient isTransient above =>
      rw [placedIn, applyGeometry_geometry, transientGeometry]
      rcases fills with state | state <;> rw [state] <;> rfl

/-- A window is at least as large as it asks to be, or as the work area. -/
theorem PlacedAt.extents {id : Nat} {spot : WindowState}
    (placed : PlacedAt raw id spot) :
    min (raw.window id).requestedWidth (raw.output spot.outputId).work.width ≤
        spot.geometry.width ∧
      min (raw.window id).requestedHeight
        (raw.output spot.outputId).work.height ≤ spot.geometry.height := by
  cases placed with
  | root root =>
      rw [placedIn, applyGeometry_geometry]
      simp only [applyGeometry]
      fun_cases rootGeometry raw (raw.window id) (assignedRoot raw id)
        (outputSlot raw id) with
      | case1 => exact ⟨Nat.min_le_right _ _, Nat.min_le_right _ _⟩
      | case2 => exact ⟨Nat.min_le_right _ _, Nat.min_le_right _ _⟩
      | case3 => exact ⟨Nat.min_le_left _ _, Nat.min_le_left _ _⟩
      | case4 => exact ⟨Nat.le_refl _, Nat.le_refl _⟩
      | case5 =>
          obtain ⟨width, height⟩ := @retainVisiblePixel_extents raw
            (assignedRoot raw id) (requestedGeometry (raw.window id))
          rw [width, height]
          exact ⟨Nat.min_le_left _ _, Nat.min_le_left _ _⟩
  | @transient _ parent isTransient above =>
      rw [placedIn, applyGeometry_geometry]
      simp only [applyGeometry]
      fun_cases transientGeometry raw (raw.window id) parent with
      | case1 => exact ⟨Nat.min_le_right _ _, Nat.min_le_right _ _⟩
      | case2 => exact ⟨Nat.min_le_right _ _, Nat.min_le_right _ _⟩
      | case3 output =>
          obtain ⟨width, height⟩ := @retainVisiblePixel_extents raw
            parent.outputId (centeredGeometry (raw.window id)
              (raw.output parent.outputId) parent)
          rw [width, height]
          exact ⟨Nat.le_refl _, Nat.le_refl _⟩

section

variable (valid : Valid raw) (multiOutput : raw.outputs.isEmpty = false)

include valid multiOutput

theorem PlacedAt.positive {id : Nat} {spot : WindowState}
    (known : id ∈ raw.windows) (placed : PlacedAt raw id spot) :
    0 < spot.geometry.width ∧ 0 < spot.geometry.height := by
  have work := validRectangle_bounds
    (valid.usable (placed.enabled valid multiOutput)).work
  have requested := valid.requestedExtents known
  have extents := placed.extents
  omega

/-- A root that is placed by its request is assigned to an output that holds
as much of the request as any. -/
theorem assignedRoot_leads {id : Nat}
    (free : fillsOutput (raw.window id) = false)
    (placed : (raw.window id).geometrySerial ≠ 0) :
    raw.outputs[assignedRoot raw id]? = some (raw.output (assignedRoot raw id)) ∧
      (raw.output (assignedRoot raw id)).enabled = true ∧
      Leads raw (raw.output (assignedRoot raw id))
        (requestedGeometry (raw.window id)) := by
  have stays : cascadeCandidate (raw.window id) = false := by
    simp [cascadeCandidate, placed]
  have assigned : assignedRoot raw id =
      selectOutput raw.outputs raw.context.outputId
        (rootSelection (raw.window id) (hintFor raw id)) := by
    rw [assignedRoot, assignRoot, stays, if_neg Bool.false_ne_true]
  obtain ⟨output, found, enabled, leads⟩ :=
    @selectOutput_leads raw valid multiOutput
      (rootSelection (raw.window id) (hintFor raw id)) rfl free
  rw [← assigned] at found
  have same : raw.output (assignedRoot raw id) = output := by
    rw [RawState.output, found, Option.getD_some]
  rw [same]
  exact ⟨found, enabled, leads⟩

omit valid multiOutput in
theorem retainVisiblePixel_stays {id : Nat} {area : Rectangle}
    (enabled : enabledOutput raw.outputs id = true)
    (meets : meetsOutput raw id area = true) :
    retainVisiblePixel raw.outputs id area = area := by
  rw [retainVisiblePixel_eq enabled, if_pos (intersectsAny_iff.mpr ⟨id, meets⟩)]

/-- A root that is placed by its request is where it asks to be, if that meets
its output. -/
theorem PlacedAt.requested {id : Nat} {spot : WindowState}
    (placed : PlacedAt raw id spot) (root : raw.IsRoot id)
    (free : fillsOutput (raw.window id) = false)
    (serial : (raw.window id).geometrySerial ≠ 0)
    (meets : meetsOutput raw (assignedRoot raw id)
      (requestedGeometry (raw.window id)) = true) :
    spot.outputId = assignedRoot raw id ∧
      spot.geometry = requestedGeometry (raw.window id) := by
  have enabled := placed.enabled valid multiOutput
  cases placed with
  | transient isTransient above => exact absurd isTransient root.not_isTransient
  | root _ =>
      refine ⟨rfl, ?_⟩
      rw [placedIn, applyGeometry_geometry]
      simp only [fillsOutput, Bool.or_eq_false_iff,
        decide_eq_false_iff_not] at free
      fun_cases rootGeometry raw (raw.window id) (assignedRoot raw id)
        (outputSlot raw id) with
      | case1 output state => exact absurd state free.1
      | case2 output state => exact absurd state free.2
      | case3 => rfl
      | case4 _ _ unplaced => exact absurd unplaced serial
      | case5 => exact retainVisiblePixel_stays enabled meets

omit valid multiOutput in
/-- Centring leaves the coordinates within 32 bits over an output. -/
theorem centeredGeometry_coordinates {window : RawWindow}
    {output : OutputContext} {parent : WindowState}
    (logical : validRectangle output.logical = true)
    (work : validRectangle output.work = true)
    (held : contains output.logical (middlePixel parent.geometry) = true)
    (wide : 0 < parent.geometry.width) (high : 0 < parent.geometry.height)
    (some : 0 < window.requestedWidth ∧ 0 < window.requestedHeight) :
    let area := centeredGeometry window output parent
    area.x = parent.finalX +
        Int.tdiv ((parent.finalWidth : Int) - area.width) 2 ∧
      area.y = parent.finalY +
        Int.tdiv ((parent.finalHeight : Int) - area.height) 2 := by
  have bounds := validRectangle_bounds logical
  simp only [validRectangle, Bool.and_eq_true, decide_eq_true_eq] at work
  unfold maximumWorkExtent at work
  rw [contains_iff] at held
  simp only [middlePixel, WindowState.geometry] at held wide high
  simp only [centeredGeometry]
  have across := tdiv_two ((parent.finalWidth : Int) -
    (min window.requestedWidth output.work.width : Nat))
  have down := tdiv_two ((parent.finalHeight : Int) -
    (min window.requestedHeight output.work.height : Nat))
  constructor
  · apply toInt32_of_fits <;> omega
  · apply toInt32_of_fits <;> omega

omit valid multiOutput in
/-- A transient covers the middle pixel of its parent, however large it is. -/
theorem centeredGeometry_middle {window : RawWindow} {output : OutputContext}
    {parent : WindowState} (logical : validRectangle output.logical = true)
    (work : validRectangle output.work = true)
    (held : contains output.logical (middlePixel parent.geometry) = true)
    (wide : 0 < parent.geometry.width) (high : 0 < parent.geometry.height)
    (some : 0 < window.requestedWidth ∧ 0 < window.requestedHeight) :
    contains (centeredGeometry window output parent)
      (middlePixel parent.geometry) = true := by
  obtain ⟨x, y⟩ := @centeredGeometry_coordinates window output parent logical
    work held wide high some
  have extents := validRectangle_bounds work
  have wider : 0 < min window.requestedWidth output.work.width :=
    Nat.lt_min.mpr ⟨some.1, extents.1.2.1⟩
  have higher : 0 < min window.requestedHeight output.work.height :=
    Nat.lt_min.mpr ⟨some.2, extents.2.2.1⟩
  rw [contains_iff, x, y]
  exact ⟨centred_middle parent.finalX wider wide,
    centred_middle parent.finalY higher high⟩

omit valid multiOutput in
/-- A transient no larger than its parent is inside of it. -/
theorem centeredGeometry_inside {window : RawWindow} {output : OutputContext}
    {parent : WindowState} (logical : validRectangle output.logical = true)
    (work : validRectangle output.work = true)
    (held : contains output.logical (middlePixel parent.geometry) = true)
    (wide : 0 < parent.geometry.width) (high : 0 < parent.geometry.height)
    (some : 0 < window.requestedWidth ∧ 0 < window.requestedHeight)
    (narrow : min window.requestedWidth output.work.width ≤
      parent.geometry.width)
    (low : min window.requestedHeight output.work.height ≤
      parent.geometry.height) :
    contains parent.geometry (centeredGeometry window output parent) =
      true := by
  obtain ⟨x, y⟩ := @centeredGeometry_coordinates window output parent logical
    work held wide high some
  rw [contains_iff, x, y]
  exact ⟨centred_inside parent.finalX narrow,
    centred_inside parent.finalY low⟩

theorem unplaced_contained {id : Nat} (root : raw.IsRoot id)
    (managed : (raw.window id).overrideRedirect = false)
    (unplaced : (raw.window id).geometrySerial = 0) {spot : WindowState}
    (placed : PlacedAt raw id spot) :
    contains (raw.output spot.outputId).logical spot.geometry = true := by
  have enabled := placed.enabled valid multiOutput
  have usable := valid.usable enabled
  cases placed with
  | transient isTransient above => exact absurd isTransient root.not_isTransient
  | root _ =>
      rw [placedIn, applyGeometry_geometry]
      fun_cases rootGeometry raw (raw.window id) (assignedRoot raw id)
        (outputSlot raw id) with
      | case1 => exact usable.inside
      | case2 => exact usable.inside
      | case3 override => cases managed.symm.trans override
      | case4 =>
          exact contains_trans usable.inside
            (initialPlacement_inside valid enabled _ _ _)
      | case5 _ placed => exact absurd unplaced placed

/-- A window that its requests keep inside is put inside of its output, by
induction on the windows above it. -/
theorem KeptInside.contained {id : Nat} (kept : KeptInside raw id)
    {spot : WindowState} (placed : PlacedAt raw id spot) :
    contains (raw.output spot.outputId).logical spot.geometry = true := by
  induction kept generalizing spot with
  | fills known fills =>
      rw [placed.fills fills]
      exact (valid.usable (placed.enabled valid multiOutput)).inside
  | unplaced root managed unplaced =>
      exact unplaced_contained valid multiOutput root managed unplaced placed
  | @placed id outputId output root managed found on inside =>
      cases free : fillsOutput (raw.window id) with
      | true =>
          rw [placed.fills free]
          exact (valid.usable (placed.enabled valid multiOutput)).inside
      | false =>
          by_cases serial : (raw.window id).geometrySerial = 0
          · exact unplaced_contained valid multiOutput root managed serial
              placed
          · obtain ⟨⟨wide, _⟩, high, _⟩ := valid.requestedExtents root.1
            obtain ⟨_, _, leads⟩ :=
              assignedRoot_leads valid multiOutput free serial
            -- no output holds more than one that holds the whole request
            have whole : contains (raw.output (assignedRoot raw id)).logical
                (requestedGeometry (raw.window id)) = true :=
              (contains_iff_area wide high).mpr
                (Nat.le_trans ((contains_iff_area wide high).mp inside)
                  (leads outputId output found on))
            obtain ⟨assigned, geometry⟩ := placed.requested valid multiOutput
              root free serial (meetsOutput_contained
                (assignRoot_enabled (valid.assignable multiOutput) _ _)
                wide high whole)
            rw [assigned, geometry]
            exact whole
  | @within id isTransient above fits ih =>
      cases placed with
      | root root => exact absurd isTransient root.not_isTransient
      | @transient _ parent _ there =>
          have enabled := there.enabled valid multiOutput
          have usable := valid.usable enabled
          obtain ⟨wide, high⟩ :=
            there.positive valid multiOutput (valid.parent isTransient).1
          obtain ⟨⟨wider, _⟩, higher, _⟩ :=
            valid.requestedExtents isTransient.1
          have inside := ih there
          have held := contains_trans inside (contains_middlePixel wide high)
          have extents := there.extents
          have smaller : min (raw.window id).requestedWidth
                (raw.output parent.outputId).work.width ≤
                parent.geometry.width ∧
              min (raw.window id).requestedHeight
                (raw.output parent.outputId).work.height ≤
                parent.geometry.height := by
            rcases fits with fills | ⟨narrow, low⟩
            · rw [there.fills fills]
              exact ⟨Nat.min_le_right _ _, Nat.min_le_right _ _⟩
            · omega
          have nested := contains_trans inside
            (centeredGeometry_inside usable.logical usable.work held wide high
              ⟨wider, higher⟩ smaller.1 smaller.2)
          obtain ⟨⟨some, _⟩, more, _⟩ :=
            centeredGeometry_extents valid isTransient.1 enabled parent
          have meets := meetsOutput_contained enabled some more nested
          rw [placedIn, applyGeometry_geometry]
          fun_cases transientGeometry raw (raw.window id) parent with
          | case1 => exact usable.inside
          | case2 => exact usable.inside
          | case3 =>
              rw [retainVisiblePixel_stays enabled meets]
              exact nested

/-- The middle pixel is on the output if the requests keep it there. -/
theorem MiddleKept.held {id : Nat} (kept : MiddleKept raw id)
    (managed : (raw.window id).overrideRedirect = false)
    {spot : WindowState} (placed : PlacedAt raw id spot) :
    contains (raw.output spot.outputId).logical (middlePixel spot.geometry) =
      true := by
  have inner : ∀ {id : Nat}, id ∈ raw.windows → KeptInside raw id →
      ∀ {spot : WindowState}, PlacedAt raw id spot →
        contains (raw.output spot.outputId).logical
          (middlePixel spot.geometry) = true := by
    intro id known kept spot placed
    obtain ⟨wide, high⟩ := placed.positive valid multiOutput known
    exact contains_trans (kept.contained valid multiOutput placed)
      (contains_middlePixel wide high)
  have known : id ∈ raw.windows := by
    cases placed with
    | root root => exact root.1
    | transient isTransient above => exact isTransient.1
  cases kept with
  | inside kept => exact inner known kept placed
  | leading root holds =>
      cases free : fillsOutput (raw.window id) with
      | true => exact inner known (.fills known free) placed
      | false =>
          by_cases serial : (raw.window id).geometrySerial = 0
          · exact inner known (.unplaced root managed serial) placed
          · obtain ⟨⟨wide, _⟩, high, _⟩ := valid.requestedExtents known
            have enabled : enabledOutput raw.outputs (assignedRoot raw id) =
                true := assignRoot_enabled (valid.assignable multiOutput) _ _
            obtain ⟨found, on, leads⟩ :=
              assignedRoot_leads valid multiOutput free serial
            have held := holds _ _ found on leads
            have meets : meetsOutput raw (assignedRoot raw id)
                (requestedGeometry (raw.window id)) = true :=
              meetsOutput_of_pixel enabled held
                (contains_middlePixel wide high)
            obtain ⟨assigned, geometry⟩ := placed.requested valid multiOutput
              root free serial meets
            rw [assigned, geometry]
            exact held

/-- A transient over a parent whose middle pixel is kept meets the output of
its parent. -/
theorem MiddleKept.stays {id : Nat} (isTransient : raw.IsTransient id)
    (kept : MiddleKept raw (raw.window id).transientFor)
    {parent : WindowState}
    (above : PlacedAt raw (raw.window id).transientFor parent) :
    StaysWithParent raw id parent := by
  intro _
  obtain ⟨known, managed⟩ := valid.parent isTransient
  have enabled := above.enabled valid multiOutput
  have usable := valid.usable enabled
  have held := kept.held valid multiOutput managed above
  obtain ⟨wide, high⟩ := above.positive valid multiOutput known
  obtain ⟨⟨wider, _⟩, higher, _⟩ := valid.requestedExtents isTransient.1
  exact meetsOutput_of_pixel enabled held
    (centeredGeometry_middle usable.logical usable.work held wide high
      ⟨wider, higher⟩)

omit valid multiOutput in
theorem OneOutput.stays (one : OneOutput raw) {id : Nat}
    {parent : WindowState}
    (enabled : enabledOutput raw.outputs parent.outputId = true) :
    StaysWithParent raw id parent := by
  intro meets
  obtain ⟨other, reached⟩ := intersectsAny_iff.mp meets
  obtain ⟨output, found, on, _⟩ := meetsOutput_found reached
  have same := one _ _ (enabledOutput_iff.mpr ⟨output, found, on⟩) enabled
  rw [same] at reached
  exact reached

end

end Glasswyrm.Wm
