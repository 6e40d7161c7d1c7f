import Glasswyrm.Wm.Admission
import Glasswyrm.Wm.WorkArea

namespace Glasswyrm.Wm

open Lifecycle Output Library

/-! Managed windows stay where they can be reached, and the arithmetic that
puts them there stays in range. -/

variable {raw : RawState}

/-! ## 32-bit arithmetic -/

def IsInt32 (value : Int) : Prop :=
  -2147483648 ≤ value ∧ value ≤ 2147483647

def IsUint32 (value : Int) : Prop := 0 ≤ value ∧ value ≤ 4294967295

/-- A value as the geometry code computes it before it is stored in 32 bits,
or the bounds of a `std::clamp`. -/
inductive Step
  | signed (value : Int)
  | unsigned (value : Int)
  | clamped (low high : Int)

def Step.Fits : Step → Prop
  | .signed value => IsInt32 value
  | .unsigned value => IsUint32 value
  | .clamped low high => low ≤ high

/-- One axis of a cascade: the span, its successor, the offset and the
coordinate. -/
def cascadeSteps (origin : Int) (available extent slot : Nat) : List Step :=
  let span : Int := (available : Int) - extent
  let offset : Int := if span = 0 then 0 else (slot * 32 : Nat) % (span + 1)
  [.unsigned span, .unsigned (span + 1), .signed offset,
    .signed (origin + offset)]

/-- `clamp_coordinate` and `visible_coordinate`. -/
def clampSteps (value low high : Int) : List Step :=
  [.clamped low high, .signed (clamp value low high)]

theorem cascadeSteps_fit {origin : Int} {available extent : Nat}
    (fits : extent ≤ available) (small : available ≤ maximumRootExtent)
    (low : IsInt32 origin)
    (high : origin + available - extent ≤ 2147483647) (slot : Nat) :
    ∀ step ∈ cascadeSteps origin available extent slot, step.Fits := by
  unfold maximumRootExtent at small
  have offset : 0 ≤ (if (available : Int) - extent = 0 then 0
      else (slot * 32 : Nat) % ((available : Int) - extent + 1)) ∧
      (if (available : Int) - extent = 0 then 0
        else (slot * 32 : Nat) % ((available : Int) - extent + 1)) ≤
          (available : Int) - extent := by
    split
    · omega
    · have positive : (0 : Int) < (available : Int) - extent + 1 := by omega
      have lower := Int.emod_nonneg (slot * 32 : Nat) positive.ne'
      have upper := Int.emod_lt_of_pos (slot * 32 : Nat) positive
      omega
  unfold IsInt32 at low
  simp only [cascadeSteps, List.forall_mem_cons, Step.Fits, IsUint32, IsInt32]
  refine ⟨by omega, by omega, by omega, by omega, ?_⟩
  exact List.forall_mem_nil _

theorem clampSteps_fit {value low high : Int} (ordered : low ≤ high)
    (least : IsInt32 low) (most : high ≤ 2147483647) :
    ∀ step ∈ clampSteps value low high, step.Fits := by
  have bounds := @clamp_bounds value low high ordered
  unfold IsInt32 at least
  simp only [clampSteps, List.forall_mem_cons, Step.Fits, IsInt32]
  exact ⟨ordered, by omega, List.forall_mem_nil _⟩

theorem tdiv_two_bounds {value bound : Int} (low : -bound ≤ value)
    (high : value ≤ bound) :
    -bound ≤ Int.tdiv value 2 ∧ Int.tdiv value 2 ≤ bound := by
  rw [Int.tdiv_eq_ediv]
  split
  · omega
  · have sign : Int.sign 2 = 1 := rfl
    omega

/-! ## The single output -/

def workArea (raw : RawState) : Rectangle where
  x := raw.context.workX
  y := raw.context.workY
  width := raw.context.workWidth
  height := raw.context.workHeight

/-- What validation and the 32-bit context say about the work area. -/
structure BoundedWorkArea (raw : RawState) : Prop where
  width : 0 < raw.context.workWidth ∧
    raw.context.workWidth ≤ maximumRootExtent
  height : 0 < raw.context.workHeight ∧
    raw.context.workHeight ≤ maximumRootExtent
  left : IsInt32 raw.context.workX
  top : IsInt32 raw.context.workY
  right : raw.context.workX + raw.context.workWidth - 1 ≤ 2147483647
  bottom : raw.context.workY + raw.context.workHeight - 1 ≤ 2147483647

theorem Valid.workArea (valid : Valid raw) (left : IsInt32 raw.context.workX)
    (top : IsInt32 raw.context.workY) : BoundedWorkArea raw := by
  have context := valid.context
  simp only [refusesContext, extentFits, Bool.or_eq_false_iff,
    decide_eq_false_iff_not, Bool.not_eq_false', Bool.and_eq_true,
    decide_eq_true_eq] at context
  unfold int32Maximum at context
  have extents : raw.context.workWidth ≤ maximumRootExtent ∧
      raw.context.workHeight ≤ maximumRootExtent := by
    unfold maximumRootExtent maximumWorkExtent at *
    split at context <;> omega
  exact
    { width := ⟨by omega, extents.1⟩
      height := ⟨by omega, extents.2⟩
      left
      top
      right := by omega
      bottom := by omega }

/-! The extents of a managed window before it is placed. -/

def placedWidth (raw : RawState) (window : RawWindow) : Nat :=
  if fillsOutput window then raw.context.workWidth
  else min window.requestedWidth raw.context.workWidth

def placedHeight (raw : RawState) (window : RawWindow) : Nat :=
  if fillsOutput window then raw.context.workHeight
  else min window.requestedHeight raw.context.workHeight

/-- The computations of `place_root`. -/
def placeRootSteps (raw : RawState) (id slot : Nat) : List Step :=
  let context := raw.context
  let window := raw.window id
  let width := placedWidth raw window
  let height := placedHeight raw window
  if window.overrideRedirect || fillsOutput window then []
  else if window.transientFor = 0 && window.geometrySerial ≠ 0 then
    clampSteps window.requestedX context.workX
        (context.workX + context.workWidth - width) ++
      clampSteps window.requestedY context.workY
        (context.workY + context.workHeight - height)
  else if window.transientFor = 0 then
    cascadeSteps context.workX context.workWidth width slot ++
      cascadeSteps context.workY context.workHeight height slot
  else []

/-- The computations of `place_transient`. -/
def centerTransientSteps (raw : RawState) (id : Nat) (parent : WindowState) :
    List Step :=
  let context := raw.context
  let width := placedWidth raw (raw.window id)
  let height := placedHeight raw (raw.window id)
  clampSteps (parent.finalX + Int.tdiv ((parent.finalWidth : Int) - width) 2)
      context.workX (context.workX + context.workWidth - width) ++
    clampSteps
      (parent.finalY + Int.tdiv ((parent.finalHeight : Int) - height) 2)
      context.workY (context.workY + context.workHeight - height)

theorem clampCoordinate_bounds {value low high : Int} (ordered : low ≤ high)
    (least : IsInt32 low) (most : high ≤ 2147483647) :
    low ≤ clampCoordinate value low high ∧
      clampCoordinate value low high ≤ high := by
  have bounds := @clamp_bounds value low high ordered
  unfold IsInt32 at least
  rw [clampCoordinate, toInt32_of_fits (by omega) (by omega)]
  exact bounds

/-- Where a managed root is put. -/
def rootPlace (raw : RawState) (window : RawWindow) : Rectangle :=
  let context := raw.context
  let width := placedWidth raw window
  let height := placedHeight raw window
  if fillsOutput window then workArea raw
  else if window.geometrySerial ≠ 0 then
    { x := clampCoordinate window.requestedX context.workX
        (context.workX + context.workWidth - width)
      y := clampCoordinate window.requestedY context.workY
        (context.workY + context.workHeight - height)
      width
      height }
  else
    { x := context.workX + cascadeOffset (cascadeSlot raw window.windowId)
        (context.workWidth - width)
      y := context.workY + cascadeOffset (cascadeSlot raw window.windowId)
        (context.workHeight - height)
      width
      height }

theorem placedState_root {id : Nat} {window : RawWindow}
    (managed : window.overrideRedirect = false)
    (top : window.transientFor = 0) :
    (placedState raw id window).geometry = rootPlace raw window := by
  simp only [placedState, managed, Bool.false_eq_true, if_false]
  cases fills : fillsOutput window with
  | true =>
      have filled : (appliedState window = .fullscreen || appliedState window =
          .maximized) = true := fills
      simp only [placeRoot, managed, initialState, filled, rootPlace, fills,
        Bool.false_eq_true, if_false, if_true]
      rfl
  | false =>
      have free : (appliedState window = .fullscreen || appliedState window =
          .maximized) = false := fills
      simp only [placeRoot, managed, initialState, free, rootPlace, fills, top,
        placedWidth, placedHeight, Bool.false_eq_true, if_false, if_true,
        decide_true, Bool.true_and, decide_eq_true_eq]
      split <;> rfl

/-- The extents of a managed window, which its place does not change. -/
theorem placedState_extents {id : Nat} {window : RawWindow}
    (managed : window.overrideRedirect = false) :
    (placedState raw id window).finalWidth = placedWidth raw window ∧
      (placedState raw id window).finalHeight =
        placedHeight raw window := by
  simp only [placedState, managed, Bool.false_eq_true, if_false]
  cases fills : fillsOutput window with
  | true =>
      have filled : (appliedState window = .fullscreen || appliedState window =
          .maximized) = true := fills
      simp only [placeRoot, managed, initialState, filled, placedWidth,
        placedHeight, fills, Bool.false_eq_true, if_false, if_true, and_self]
  | false =>
      have free : (appliedState window = .fullscreen || appliedState window =
          .maximized) = false := fills
      simp only [placeRoot, managed, initialState, free, placedWidth,
        placedHeight, fills,
        Bool.false_eq_true, if_false]
      split
      · exact ⟨rfl, rfl⟩
      · split <;> exact ⟨rfl, rfl⟩

section

variable (valid : Valid raw) (area : BoundedWorkArea raw)

include valid area

theorem placedExtents_bounds {id : Nat} (known : id ∈ raw.windows) :
    (0 < placedWidth raw (raw.window id) ∧
      placedWidth raw (raw.window id) ≤ raw.context.workWidth) ∧
    0 < placedHeight raw (raw.window id) ∧
      placedHeight raw (raw.window id) ≤ raw.context.workHeight := by
  have requested := valid.requestedExtents known
  have width := area.width
  have height := area.height
  unfold placedWidth placedHeight
  split <;> omega

theorem rootPlace_inside {id : Nat} (known : id ∈ raw.windows) :
    contains (workArea raw) (rootPlace raw (raw.window id)) = true := by
  have extents := placedExtents_bounds valid area known
  obtain ⟨widths, heights, left, top, right, bottom⟩ := area
  simp only [contains, Bool.and_eq_true, decide_eq_true_eq]
  unfold rootPlace
  split
  · simp only [ge_iff_le, Int.le_refl, and_self]
  · split
    · have x := @clampCoordinate_bounds (raw.window id).requestedX
        raw.context.workX (raw.context.workX + raw.context.workWidth -
          placedWidth raw (raw.window id)) (by omega) left (by omega)
      have y := @clampCoordinate_bounds (raw.window id).requestedY
        raw.context.workY (raw.context.workY + raw.context.workHeight -
          placedHeight raw (raw.window id)) (by omega) top (by omega)
      simp only [workArea]
      omega
    · have x := @cascadeOffset_bounds
        (cascadeSlot raw (raw.window id).windowId)
        (raw.context.workWidth - placedWidth raw (raw.window id)) (by omega)
      have y := @cascadeOffset_bounds
        (cascadeSlot raw (raw.window id).windowId)
        (raw.context.workHeight - placedHeight raw (raw.window id)) (by omega)
      simp only [workArea]
      omega

theorem centeredTransient_inside {id : Nat} (known : id ∈ raw.windows)
    (managed : (raw.window id).overrideRedirect = false)
    (parent : WindowState) :
    contains (workArea raw) (centeredTransient raw id
      (placedState raw id (raw.window id)) parent).geometry = true := by
  have extents := placedExtents_bounds valid area known
  obtain ⟨width, height⟩ := @placedState_extents raw id _ managed
  obtain ⟨widths, heights, left, top, right, bottom⟩ := area
  simp only [contains, Bool.and_eq_true, decide_eq_true_eq]
  simp only [centeredTransient, WindowState.geometry, width, height]
  have x := @clampCoordinate_bounds (parent.finalX +
    Int.tdiv ((parent.finalWidth : Int) - placedWidth raw (raw.window id)) 2)
    raw.context.workX (raw.context.workX + raw.context.workWidth -
      placedWidth raw (raw.window id)) (by omega) left (by omega)
  have y := @clampCoordinate_bounds (parent.finalY +
    Int.tdiv ((parent.finalHeight : Int) - placedHeight raw (raw.window id)) 2)
    raw.context.workY (raw.context.workY + raw.context.workHeight -
      placedHeight raw (raw.window id)) (by omega) top (by omega)
  simp only [workArea]
  omega

/-- A managed window lies in the work area. -/
theorem placement_inside {id : Nat} {state : WindowState}
    (found : (applyPlacementAndFullscreenGeometry raw)[id]? = some state)
    (managed : (raw.window id).overrideRedirect = false) :
    contains (workArea raw) state.geometry = true ∧
      state.finalWidth = placedWidth raw (raw.window id) ∧
        state.finalHeight = placedHeight raw (raw.window id) := by
  have known := (placement_known id).mp (KeyMap.mem_of_lookup found)
  have extents := @placedState_extents raw id _ managed
  rcases isTransient_or_isRoot known with isTransient | root
  · rw [placement_transient valid isTransient] at found
    rw [← Option.some.inj found]
    exact ⟨centeredTransient_inside valid area known managed _, extents⟩
  · rw [placement_root root] at found
    rw [← Option.some.inj found]
    refine ⟨?_, extents⟩
    have top : (raw.window id).transientFor = 0 := by
      rcases root.2 with override | top
      · cases managed.symm.trans override
      · exact top
    rw [placedState_root managed top]
    exact rootPlace_inside valid area known

omit valid area in
theorem eq_of_contains {outer inner : Rectangle}
    (inside : contains outer inner = true) (width : inner.width = outer.width)
    (height : inner.height = outer.height) : inner = outer := by
  simp only [contains, Bool.and_eq_true, decide_eq_true_eq] at inside
  obtain ⟨x, y, _, _⟩ := inner
  obtain ⟨x', y', _, _⟩ := outer
  simp only [LogicalRectangle.mk.injEq] at *
  omega

/-- A window that fills the output has the work area. -/
theorem placement_fills {id : Nat} {state : WindowState}
    (found : (applyPlacementAndFullscreenGeometry raw)[id]? = some state)
    (managed : (raw.window id).overrideRedirect = false)
    (fills : fillsOutput (raw.window id) = true) :
    state.geometry = workArea raw := by
  obtain ⟨inside, width, height⟩ := placement_inside valid area found managed
  apply eq_of_contains inside
  · exact width.trans (if_pos fills)
  · exact height.trans (if_pos fills)

/-! ## The arithmetic of the single output -/

theorem placeRootSteps_fit {id : Nat} (known : id ∈ raw.windows)
    (slot : Nat) : ∀ step ∈ placeRootSteps raw id slot, step.Fits := by
  have extents := placedExtents_bounds valid area known
  obtain ⟨widths, heights, left, top, right, bottom⟩ := area
  unfold placeRootSteps
  simp only
  split
  · exact List.forall_mem_nil _
  · split
    · rw [List.forall_mem_append]
      exact ⟨clampSteps_fit (by omega) left (by omega),
        clampSteps_fit (by omega) top (by omega)⟩
    · split
      · rw [List.forall_mem_append]
        exact ⟨cascadeSteps_fit extents.1.2 widths.2 left (by omega) slot,
          cascadeSteps_fit extents.2.2 heights.2 top (by omega) slot⟩
      · exact List.forall_mem_nil _

theorem centerTransientSteps_fit {id : Nat} (known : id ∈ raw.windows)
    (parent : WindowState) :
    ∀ step ∈ centerTransientSteps raw id parent, step.Fits := by
  have extents := placedExtents_bounds valid area known
  obtain ⟨widths, heights, left, top, right, bottom⟩ := area
  unfold centerTransientSteps
  simp only
  rw [List.forall_mem_append]
  exact ⟨clampSteps_fit (by omega) left (by omega),
    clampSteps_fit (by omega) top (by omega)⟩

end

/-! ## Several outputs -/

/-- The computations of `retain_visible_pixel`. -/
def retainSteps (raw : RawState) (outputId : Nat) (geometry : Rectangle) :
    List Step :=
  let logical := (raw.output outputId).logical
  if intersectsAny raw.outputs geometry then []
  else
    clampSteps geometry.x (logical.x - geometry.width + 1)
        (logical.x + logical.width - 1) ++
      clampSteps geometry.y (logical.y - geometry.height + 1)
        (logical.y + logical.height - 1)

/-- The computations of `root_geometry`. -/
def rootGeometrySteps (raw : RawState) (id outputId slot : Nat) : List Step :=
  let window := raw.window id
  let work := (raw.output outputId).work
  if fillsOutput window || window.overrideRedirect then []
  else if window.geometrySerial = 0 then
    cascadeSteps work.x work.width (min window.requestedWidth work.width)
        slot ++
      cascadeSteps work.y work.height
        (min window.requestedHeight work.height) slot
  else retainSteps raw outputId (requestedGeometry window)

/-- The computations of `place_transient` with several outputs. -/
def placeTransientSteps (raw : RawState) (id : Nat) (parent : WindowState) :
    List Step :=
  let window := raw.window id
  let output := raw.output parent.outputId
  let width := min window.requestedWidth output.work.width
  let height := min window.requestedHeight output.work.height
  if fillsOutput window then []
  else
    [.signed (parent.finalX +
        Int.tdiv ((parent.finalWidth : Int) - width) 2),
      .signed (parent.finalY +
        Int.tdiv ((parent.finalHeight : Int) - height) 2)] ++
      retainSteps raw parent.outputId
        (centeredGeometry window output parent)

section

variable (valid : Valid raw) (multiOutput : raw.outputs.isEmpty = false)

include valid multiOutput

/-- The outputs lie on the root window. -/
theorem Valid.outputEdges {id : Nat}
    (enabled : enabledOutput raw.outputs id = true) :
    (raw.output id).logical.x + (raw.output id).logical.width ≤ 32767 ∧
      (raw.output id).logical.y + (raw.output id).logical.height ≤ 32767 := by
  obtain ⟨found, on⟩ := RawState.output_found enabled
  have listed : raw.output id ∈ enabledOutputs raw := by
    rw [enabledOutputs, List.mem_filterMap]
    exact ⟨(id, raw.output id), KeyMap.mem_toList.mpr found, if_pos on⟩
  have context := valid.context
  have outputs := valid.outputs multiOutput
  simp only [refusesContext, multiOutput, Bool.false_eq_true, if_false,
    maximumRootExtent, Bool.or_eq_false_iff, decide_eq_false_iff_not]
    at context
  simp only [validateOutputs] at outputs
  split at outputs
  · cases outputs
  · split at outputs
    · cases outputs
    · split at outputs
      · cases outputs
      · split at outputs
        · cases outputs
        · rename_i edges
          simp only [Bool.or_eq_true, decide_eq_true_eq, not_or, ne_eq,
            Decidable.not_not] at edges
          have edge : ∀ edge : OutputContext → Int,
              edge (raw.output id) ≤
                maximumExtent edge (enabledOutputs raw) := fun edge =>
            (le_foldl_max (enabledOutputs raw) edge 0).2 _ listed
          have right := edge fun output =>
            output.logical.x + output.logical.width
          have bottom := edge fun output =>
            output.logical.y + output.logical.height
          have width := edges.1.2
          have height := edges.2
          omega

omit multiOutput in
theorem retainVisiblePixel_reaches {id : Nat} {geometry : Rectangle}
    (enabled : enabledOutput raw.outputs id = true)
    (wide : 0 < geometry.width) (high : 0 < geometry.height)
    (narrow : geometry.width ≤ maximumWindowExtent)
    (low : geometry.height ≤ maximumWindowExtent) :
    intersectsAny raw.outputs
      (retainVisiblePixel raw.outputs id geometry) = true := by
  rw [retainVisiblePixel_eq enabled]
  split
  · assumption
  · exact intersectsAny_iff.mpr
      ⟨id, clampToOutput_meets valid enabled wide high narrow low⟩

/-- A rectangle that a window may have. -/
def Sized (geometry : Rectangle) : Prop :=
  (0 < geometry.width ∧ geometry.width ≤ maximumWindowExtent) ∧
    0 < geometry.height ∧ geometry.height ≤ maximumWindowExtent

omit valid multiOutput in
theorem retainVisiblePixel_sized {id : Nat} {geometry : Rectangle}
    (sized : Sized geometry) :
    Sized (retainVisiblePixel raw.outputs id geometry) := by
  fun_cases retainVisiblePixel raw.outputs id geometry <;> exact sized

omit multiOutput in
theorem work_sized {id : Nat} (enabled : enabledOutput raw.outputs id = true) :
    Sized (raw.output id).work := by
  have work := (valid.usable enabled).work
  simp only [validRectangle, Bool.and_eq_true, decide_eq_true_eq, ne_eq,
    decide_not, Bool.not_eq_true', decide_eq_false_iff_not] at work
  unfold maximumWorkExtent at work
  unfold Sized maximumWindowExtent
  omega

omit multiOutput in
/-- A rectangle for a window of its requested extents, or less. -/
theorem rootGeometry_sized {id outputId : Nat} (known : id ∈ raw.windows)
    (enabled : enabledOutput raw.outputs outputId = true) (slot : Nat) :
    Sized (rootGeometry raw (raw.window id) outputId slot) := by
  have requested := valid.requestedExtents known
  have work := work_sized valid enabled
  fun_cases rootGeometry raw (raw.window id) outputId slot with
  | case1 => exact work
  | case2 => exact work
  | case3 => exact requested
  | case4 output =>
      simp only [Sized, initialPlacement, output] at work ⊢
      omega
  | case5 => exact retainVisiblePixel_sized requested

omit multiOutput in
theorem transientGeometry_sized {id : Nat} {parent : WindowState}
    (known : id ∈ raw.windows)
    (enabled : enabledOutput raw.outputs parent.outputId = true) :
    Sized (transientGeometry raw (raw.window id) parent) := by
  have work := work_sized valid enabled
  fun_cases transientGeometry raw (raw.window id) parent with
  | case1 => exact work
  | case2 => exact work
  | case3 =>
      exact retainVisiblePixel_sized
        (centeredGeometry_extents valid known enabled parent)

omit multiOutput in
theorem transientGeometry_reaches {id : Nat} {parent : WindowState}
    (known : id ∈ raw.windows)
    (enabled : enabledOutput raw.outputs parent.outputId = true) :
    intersectsAny raw.outputs
      (transientGeometry raw (raw.window id) parent) = true := by
  have onWork := intersectsAny_iff.mpr ⟨_, meetsOutput_work valid enabled⟩
  fun_cases transientGeometry raw (raw.window id) parent with
  | case1 => exact onWork
  | case2 => exact onWork
  | case3 =>
      obtain ⟨⟨wide, narrow⟩, high, low⟩ :=
        centeredGeometry_extents valid known enabled parent
      exact retainVisiblePixel_reaches valid enabled wide high narrow low

/-- What the geometry promises of a managed window. -/
structure Reached (raw : RawState) (state : WindowState) : Prop where
  enabled : enabledOutput raw.outputs state.outputId = true
  meets : intersectsAny raw.outputs state.geometry = true
  sized : Sized state.geometry

theorem multiOutput_reached {id : Nat} {state : WindowState}
    (found : (applyMultiOutputGeometry raw)[id]? = some state)
    (managed : (raw.window id).overrideRedirect = false) :
    Reached raw state := by
  -- A parent has less depth than its transients.
  induction depth : raw.depth id using Nat.strong_induction_on
    generalizing id state with
  | _ depth ih =>
      have known := (multiOutput_known id).mp (KeyMap.mem_of_lookup found)
      rcases isTransient_or_isRoot known with isTransient | root
      · obtain ⟨present, parentManaged⟩ := valid.parent isTransient
        have deeper := valid.depth_parent isTransient
        have parent := (multiOutput_describes valid).lookup present
        have reached := ih _ (by omega) parent parentManaged rfl
        rw [geometry_transient valid isTransient] at found
        rw [← Option.some.inj found]
        exact
          { enabled := reached.enabled
            meets := transientGeometry_reaches valid known reached.enabled
            sized := transientGeometry_sized valid known reached.enabled }
      · obtain ⟨slot, placed⟩ := geometry_root root
        rw [placed] at found
        rw [← Option.some.inj found]
        have enabled : enabledOutput raw.outputs (assignedRoot raw id) =
            true := assignRoot_enabled (valid.assignable multiOutput) _ _
        exact
          { enabled
            meets := intersectsAny_iff.mpr
              ⟨_, rootGeometry_meets valid multiOutput root managed slot⟩
            sized := rootGeometry_sized valid known enabled slot }

omit valid multiOutput in
theorem meetsOutput_enabled {id : Nat} {geometry : Rectangle}
    (meets : meetsOutput raw id geometry = true) :
    enabledOutput raw.outputs id = true := by
  unfold meetsOutput at meets
  unfold enabledOutput
  cases found : raw.outputs[id]? with
  | none =>
      rw [found] at meets
      cases meets
  | some output =>
      rw [found, Option.any_some, Bool.and_eq_true] at meets
      exact meets.1

/-- A managed window of some output lies on the root window or near it. -/
theorem Reached.near {state : WindowState} (reached : Reached raw state) :
    (-16384 < state.finalX ∧ state.finalX < 32767) ∧
      -16384 < state.finalY ∧ state.finalY < 32767 := by
  obtain ⟨id, meets⟩ := intersectsAny_iff.mp reached.meets
  have enabled := meetsOutput_enabled meets
  obtain ⟨found, on⟩ := RawState.output_found enabled
  have edges := valid.outputEdges multiOutput enabled
  obtain ⟨alongX, alongY⟩ :=
    validRectangle_bounds (valid.usable enabled).logical
  obtain ⟨meetX, meetY⟩ :=
    intersectionArea_ne_zero_iff.mp ((meetsOutput_iff found on).mp meets)
  have sized := reached.sized
  simp only [Sized, WindowState.geometry, maximumWindowExtent] at sized
  simp only [WindowState.geometry] at meetX meetY
  omega

/-! ## The arithmetic of several outputs -/

theorem retainSteps_fit {outputId : Nat} {geometry : Rectangle}
    (enabled : enabledOutput raw.outputs outputId = true)
    (sized : Sized geometry) :
    ∀ step ∈ retainSteps raw outputId geometry, step.Fits := by
  have edges := valid.outputEdges multiOutput enabled
  obtain ⟨alongX, alongY⟩ :=
    validRectangle_bounds (valid.usable enabled).logical
  simp only [Sized, maximumWindowExtent] at sized
  unfold retainSteps
  simp only
  split
  · exact List.forall_mem_nil _
  · rw [List.forall_mem_append]
    exact ⟨clampSteps_fit (by omega) (by unfold IsInt32; omega) (by omega),
      clampSteps_fit (by omega) (by unfold IsInt32; omega) (by omega)⟩

theorem rootGeometrySteps_fit {id outputId : Nat} (known : id ∈ raw.windows)
    (enabled : enabledOutput raw.outputs outputId = true) (slot : Nat) :
    ∀ step ∈ rootGeometrySteps raw id outputId slot, step.Fits := by
  have requested : Sized (requestedGeometry (raw.window id)) :=
    valid.requestedExtents known
  obtain ⟨alongX, alongY⟩ :=
    validRectangle_bounds (valid.usable enabled).work
  have work := work_sized valid enabled
  have positive := requested
  simp only [Sized, requestedGeometry, maximumWindowExtent] at work positive
  unfold rootGeometrySteps
  simp only
  split
  · exact List.forall_mem_nil _
  · split
    · rw [List.forall_mem_append]
      constructor <;> apply cascadeSteps_fit <;>
        first | omega | (unfold maximumRootExtent; omega) |
          (unfold IsInt32; omega)
    · exact retainSteps_fit valid multiOutput enabled requested

theorem placeTransientSteps_fit {id : Nat} {parent : WindowState}
    (known : id ∈ raw.windows) (reached : Reached raw parent) :
    ∀ step ∈ placeTransientSteps raw id parent, step.Fits := by
  have sized := centeredGeometry_extents valid known reached.enabled parent
  have near := reached.near valid multiOutput
  have extents := reached.sized
  obtain ⟨requestedWidth, requestedHeight⟩ := valid.requestedExtents known
  simp only [Sized, WindowState.geometry, maximumWindowExtent] at extents
  unfold maximumWindowExtent at requestedWidth requestedHeight
  unfold placeTransientSteps
  simp only
  split
  · exact List.forall_mem_nil _
  · rw [List.forall_mem_append]
    refine ⟨?_, retainSteps_fit valid multiOutput reached.enabled sized⟩
    have alongX := @tdiv_two_bounds ((parent.finalWidth : Int) -
      (min (raw.window id).requestedWidth
        (raw.output parent.outputId).work.width : Nat)) 16384 (by omega)
      (by omega)
    have alongY := @tdiv_two_bounds ((parent.finalHeight : Int) -
      (min (raw.window id).requestedHeight
        (raw.output parent.outputId).work.height : Nat)) 16384 (by omega)
      (by omega)
    simp only [List.forall_mem_cons, Step.Fits, IsInt32]
    exact ⟨by omega, by omega, List.forall_mem_nil _⟩

end

/-! ## Either profile -/

/-- The 32-bit computations that give a window its geometry, with its place in
the cascade. -/
def geometrySteps (raw : RawState) (id slot : Nat) : List Step :=
  let window := raw.window id
  let parent :=
    (applyGeometryProfile raw)[window.transientFor]?.getD {}
  let transient : Bool := !window.overrideRedirect && window.transientFor ≠ 0
  if raw.outputs.isEmpty then
    placeRootSteps raw id slot ++
      if transient then centerTransientSteps raw id parent else []
  else if transient then placeTransientSteps raw id parent
  else rootGeometrySteps raw id (assignedRoot raw id) slot

theorem geometrySteps_fit (valid : Valid raw)
    (left : IsInt32 raw.context.workX) (top : IsInt32 raw.context.workY)
    {id : Nat} (known : id ∈ raw.windows) (slot : Nat) :
    ∀ step ∈ geometrySteps raw id slot, step.Fits := by
  unfold geometrySteps
  simp only
  cases multiOutput : raw.outputs.isEmpty with
  | true =>
      have area := valid.workArea left top
      rw [if_pos rfl, List.forall_mem_append]
      refine ⟨placeRootSteps_fit valid area known slot, ?_⟩
      split
      · exact centerTransientSteps_fit valid area known _
      · exact List.forall_mem_nil _
  | false =>
      rw [if_neg Bool.false_ne_true]
      split
      · rename_i transient
        simp only [ne_eq, decide_not, Bool.and_eq_true, Bool.not_eq_true',
          decide_eq_false_iff_not] at transient
        obtain ⟨present, managed⟩ := valid.parent ⟨known, transient⟩
        have parent := (multiOutput_describes valid).lookup present
        have reached := multiOutput_reached valid multiOutput parent managed
        rw [applyGeometryProfile, if_neg (Bool.eq_false_iff.mp multiOutput)]
        exact placeTransientSteps_fit valid multiOutput known reached
      · exact rootGeometrySteps_fit valid multiOutput known
          (assignRoot_enabled (valid.assignable multiOutput) _ _) slot

theorem managed_windows_reachable (raw : RawState)
    (accepted : validate raw = .none)
    (left : IsInt32 raw.context.workX) (top : IsInt32 raw.context.workY)
    (id : Nat) (state : WindowState)
    (found : (evaluateWindows raw).windows[id]? = some state)
    (managed : state.managed = true) :
    (raw.outputs.isEmpty = true →
      contains (workArea raw) state.geometry = true ∧
        (state.appliedState = .fullscreen ∨ state.appliedState = .maximized →
          state.geometry = workArea raw)) ∧
    (raw.outputs.isEmpty = false →
      intersectsAny raw.outputs state.geometry = true) ∧
    ∀ slot, ∀ step ∈ geometrySteps raw id slot, step.Fits := by
  have valid := validate_none_iff.mp accepted
  have describes := evaluated_describes valid
  have known : id ∈ raw.windows :=
    (describes.known id).mp (KeyMap.mem_of_lookup found)
  have identity := describes.identity id state found
  have ordinary : (raw.window id).overrideRedirect = false := by
    have same : state.managed = !(raw.window id).overrideRedirect :=
      congrArg WindowState.managed identity
    rw [managed] at same
    exact Bool.not_eq_true' _ ▸ same.symm
  have applied : state.appliedState = appliedState (raw.window id) :=
    congrArg WindowState.appliedState identity
  -- Focus, visibility and stacking move nothing.
  obtain ⟨earlier, placed, same⟩ :=
    (evaluated_placement valid).symm.found found
  have unmoved : earlier.placement.geometry = state.placement.geometry :=
    congrArg WindowState.geometry same
  have geometry : earlier.geometry = state.geometry := unmoved
  refine ⟨fun single => ?_, fun multiOutput => ?_,
    geometrySteps_fit valid left top known⟩
  · rw [applyGeometryProfile, if_pos single, assignOutputs,
      Std.ExtTreeMap.getElem?_map, Option.map_eq_some_iff] at placed
    obtain ⟨central, there, assigned⟩ := placed
    have here : central.geometry = state.geometry := by
      rw [← geometry, ← assigned]
      rfl
    rw [← here, applied]
    have area := valid.workArea left top
    refine ⟨(placement_inside valid area there ordinary).1, fun fills => ?_⟩
    apply placement_fills valid area there ordinary
    unfold fillsOutput
    rw [Bool.or_eq_true, decide_eq_true_eq, decide_eq_true_eq]
    exact fills
  · rw [applyGeometryProfile, if_neg (Bool.eq_false_iff.mp multiOutput)]
      at placed
    rw [← geometry]
    exact (multiOutput_reached valid multiOutput placed ordinary).meets

/-- A maximized window, a dialog of it and a window half outside, on two
outputs. -/
def reachableState : RawState :=
  { spanningState with
    outputHints := ∅
    windows :=
      let window : RawWindow :=
        { parentWindowId := 1
          requestedWidth := 60
          requestedHeight := 40
          wantsMap := true
          mapSerial := 1 }
      let maximized : RawWindow :=
        { window with
          windowId := 5, maximizedRequested := true, creationSerial := 1 }
      let dialog : RawWindow :=
        { window with
          windowId := 6
          windowType := .dialog
          transientFor := 5
          creationSerial := 2 }
      let outside : RawWindow :=
        { window with
          windowId := 7
          requestedX := -200
          requestedY := 300
          geometrySerial := 1
          creationSerial := 3 }
      (((∅ : KeyMap RawWindow).insert 5 maximized).insert 6
        dialog).insert 7 outside }

theorem managed_windows_reachable_outside :
    (evaluateWindows reachableState).windows[7]?.map (·.geometry) =
        some { x := -59, y := 99, width := 60, height := 40 } ∧
      ∃ state, (evaluateWindows reachableState).windows[7]? = some state ∧
        intersectsAny reachableState.outputs state.geometry = true := by
  have placed : (evaluateWindows reachableState).windows[7]?.any
      (·.managed) = true := by decide +kernel
  obtain ⟨state, found, managed⟩ := (Option.any_eq_true _ _).mp placed
  exact ⟨by decide +kernel, state, found,
    (managed_windows_reachable reachableState (by decide +kernel)
      ⟨by decide, by decide⟩ ⟨by decide, by decide⟩ 7 state found
      managed).2.1 (by decide)⟩

end Glasswyrm.Wm
