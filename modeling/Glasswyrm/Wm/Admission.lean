import Glasswyrm.Lifecycle.Evaluation
import Glasswyrm.Wm.OutputReach
import Glasswyrm.Wm.Stability

namespace Glasswyrm.Wm

open Lifecycle Output Library
open Compositor (SurfaceScaleMode)
open Server (SurfaceOutputProjection intersects projectSurfaceOutputs stateOf
  stateOf_lookup)

/-! Which evaluated windows reach the output that they are assigned to, as the
surface states made of them have to. -/

variable {raw : RawState}

/-! ## Places

Where a window is put, told from the raw state alone: a root by its own
request and the cascade slots taken before it, a transient by its parent. -/

def takesSlot (raw : RawState) (id : Nat) : Bool :=
  cascadeCandidate (raw.window id) && (raw.window id).wantsMap

/-- The slots that the given roots take on an output. -/
def takenSlots (raw : RawState) (outputId : Nat) (ids : List Nat) : Nat :=
  ids.countP fun id => takesSlot raw id && assignedRoot raw id = outputId

def outputSlot (raw : RawState) (id : Nat) : Nat :=
  if takesSlot raw id then
    takenSlots raw (assignedRoot raw id)
      ((rootOrder raw).takeWhile fun other => other ≠ id)
  else 0

/-- A state that only says where the window is. -/
def placedIn (outputId : Nat) (area : Rectangle) : WindowState :=
  applyGeometry { outputId } area

inductive PlacedAt (raw : RawState) : Nat → WindowState → Prop
  | root {id : Nat} (root : raw.IsRoot id) :
      PlacedAt raw id (placedIn (assignedRoot raw id)
        (rootGeometry raw (raw.window id) (assignedRoot raw id)
          (outputSlot raw id)))
  | transient {id : Nat} {parent : WindowState}
      (isTransient : raw.IsTransient id)
      (above : PlacedAt raw (raw.window id).transientFor parent) :
      PlacedAt raw id (placedIn parent.outputId
        (transientGeometry raw (raw.window id) parent))

/-- What two states have in common if they put a window in one place. -/
def SamePlace (first second : WindowState) : Prop :=
  first.outputId = second.outputId ∧ first.geometry = second.geometry

theorem SamePlace.centered {first second : WindowState}
    (same : SamePlace first second) (window : RawWindow)
    (output : OutputContext) :
    centeredGeometry window output first =
      centeredGeometry window output second := by
  have x : first.finalX = second.finalX :=
    congrArg LogicalRectangle.x same.2
  have y : first.finalY = second.finalY :=
    congrArg LogicalRectangle.y same.2
  have width : first.finalWidth = second.finalWidth :=
    congrArg LogicalRectangle.width same.2
  have height : first.finalHeight = second.finalHeight :=
    congrArg LogicalRectangle.height same.2
  simp only [centeredGeometry, x, y, width, height]

theorem SamePlace.transient {first second : WindowState}
    (same : SamePlace first second) (raw : RawState) (window : RawWindow) :
    transientGeometry raw window first =
      transientGeometry raw window second := by
  simp only [transientGeometry, same.1, same.centered]

/-! ## Cascade slots -/

theorem placeRootWindow_slots (raw : RawState) (placed : RootPlacement)
    (id outputId : Nat) :
    (placeRootWindow raw placed id).cascadeSlots[outputId]?.getD 0 =
      placed.cascadeSlots[outputId]?.getD 0 +
        takenSlots raw outputId [id] := by
  simp only [takenSlots, List.countP_singleton, takesSlot, assignedRoot]
  fun_cases placeRootWindow raw placed id with
  | case1 window state assigned slot taken =>
      have here : cascadeCandidate (raw.window id) &&
          (raw.window id).wantsMap := taken
      rw [KeyMap.lookup_insert, here]
      by_cases same : assigned = outputId
      · have other : assignRoot raw (raw.window id) (hintFor raw id) =
            outputId := same
        simp [same, other, slot]
      · have other : assignRoot raw (raw.window id) (hintFor raw id) ≠
            outputId := same
        simp [same, other]
  | case2 window state assigned free =>
      have here : ¬(cascadeCandidate (raw.window id) &&
          (raw.window id).wantsMap) := free
      simp [here]

theorem foldl_placeRootWindow_slots (ids : List Nat)
    (placed : RootPlacement) (outputId : Nat) :
    (ids.foldl (placeRootWindow raw) placed).cascadeSlots[outputId]?.getD 0 =
      placed.cascadeSlots[outputId]?.getD 0 + takenSlots raw outputId ids := by
  induction ids generalizing placed with
  | nil => rfl
  | cons id rest ih =>
      rw [List.foldl_cons, ih, placeRootWindow_slots, Nat.add_assoc]
      congr 1
      simp only [takenSlots]
      rw [← List.countP_append, List.singleton_append]

theorem placeRootWindow_here (raw : RawState) (placed : RootPlacement)
    (id : Nat) :
    (placeRootWindow raw placed id).windows[id]? =
      some (placedRoot raw id
        (if takesSlot raw id then
          placed.cascadeSlots[assignedRoot raw id]?.getD 0 else 0)
        (placed.windows[id]?.getD {})) := by
  fun_cases placeRootWindow raw placed id with
  | case1 window state assigned slot taken =>
      have here : takesSlot raw id = true := taken
      rw [if_pos here, KeyMap.lookup_insert, if_pos rfl]
      rfl
  | case2 window state assigned free =>
      have here : ¬takesSlot raw id = true := free
      rw [if_neg here, KeyMap.lookup_insert, if_pos rfl]
      rfl

/-- A root is placed in the slot left by the roots before it. -/
theorem geometry_rootSlot {id : Nat} (root : raw.IsRoot id) :
    (applyMultiOutputGeometry raw)[id]? =
      some (placedRoot raw id (outputSlot raw id)
        (initialState raw id (raw.window id))) := by
  have absent : id ∉ transientParentFirst raw := fun member =>
    root.not_isTransient (mem_transientParentFirst.mp member)
  obtain ⟨before, after, order, fresh⟩ :=
    List.eq_append_cons_of_mem (mem_rootOrder.mpr root)
  have earlier : (rootOrder raw).takeWhile (fun other => other ≠ id) =
      before := by
    rw [order, List.takeWhile_append_of_pos, List.takeWhile_cons_of_neg,
      List.append_nil]
    · simp
    · intro other member
      simpa using fun same : other = id => fresh (same ▸ member)
  have distinct : id ∉ after := by
    have nodup := @rootOrder_nodup raw
    rw [order] at nodup
    exact (List.nodup_cons.mp (List.nodup_append.mp nodup).2.1).1
  rw [applyMultiOutputGeometry, placeTransient_eq,
    foldl_propagate_absent absent, placeRoots, order, List.foldl_append,
    List.foldl_cons, foldl_placeRootWindow_absent distinct,
    placeRootWindow_here, foldl_placeRootWindow_absent fresh, outputSlot,
    earlier, foldl_placeRootWindow_slots]
  simp [RawState.window_known root.1]

/-! ## Every window is in its place -/

theorem PlacedAt.evaluated (valid : Valid raw) {id : Nat}
    {spot : WindowState} (placed : PlacedAt raw id spot) :
    ∃ state, (applyMultiOutputGeometry raw)[id]? = some state ∧
      SamePlace state spot := by
  induction placed with
  | root root => exact ⟨_, geometry_rootSlot root, rfl, rfl⟩
  | transient isTransient above ih =>
      obtain ⟨parent, found, same⟩ := ih
      have placed := geometry_transient valid isTransient
      rw [found, Option.getD_some] at placed
      exact ⟨_, placed, same.1, same.transient raw _⟩

theorem placedAt_exists (valid : Valid raw) {id : Nat}
    (known : id ∈ raw.windows) : ∃ spot, PlacedAt raw id spot := by
  -- along the transient parents
  generalize depth : raw.depth id = length
  induction length using Nat.strong_induction_on generalizing id with
  | _ length ih =>
      rcases isTransient_or_isRoot known with isTransient | root
      · have deeper := valid.depth_parent isTransient
        obtain ⟨parent, above⟩ := ih
          (raw.depth (raw.window id).transientFor) (by omega)
          (valid.parent isTransient).1 rfl
        exact ⟨_, .transient isTransient above⟩
      · exact ⟨_, .root root⟩

/-! ## Which windows meet their output -/

/-- No enabled output holds more of the area. -/
def Leads (raw : RawState) (output : OutputContext) (area : Rectangle) :
    Prop :=
  ∀ (id : Nat) other, raw.outputs[id]? = some other → other.enabled = true →
    intersectionArea area other.logical ≤ intersectionArea area output.logical

section

variable (valid : Valid raw) (multiOutput : raw.outputs.isEmpty = false)

include valid multiOutput

theorem PlacedAt.enabled {id : Nat} {spot : WindowState}
    (placed : PlacedAt raw id spot) :
    enabledOutput raw.outputs spot.outputId = true := by
  induction placed with
  | root root => exact assignRoot_enabled (valid.assignable multiOutput) _ _
  | transient isTransient above ih => exact ih

/-- A root that is assigned by its geometry is assigned to an output that holds
as much of it as any. -/
theorem selectOutput_leads {selection : OutputSelection}
    (roots : selection.inheritedOutputId = 0)
    (free : selection.retainPrevious = false) :
    ∃ output, raw.outputs[selectOutput raw.outputs raw.context.outputId
        selection]? = some output ∧
      output.enabled = true ∧ Leads raw output selection.geometry := by
  have assignable := valid.assignable multiOutput
  have inherits : enabledOutput raw.outputs 0 = false := by
    cases enabled : enabledOutput raw.outputs 0 with
    | false => rfl
    | true => exact absurd rfl (assignable.nonzero 0 enabled)
  have sound := largestOutputs_sound raw.outputs selection.geometry
  have member := AreaTie.choose_mem
    (assignable.largest selection.geometry).1 selection.previousOutputId
    selection.preferredOutputId raw.context.outputId
  rw [selectOutput, roots, inherits, free, Bool.false_and,
    if_neg Bool.false_ne_true, if_neg Bool.false_ne_true]
  obtain ⟨output, known, enabled, area⟩ := sound.tied _ member
  refine ⟨output, KeyMap.mem_toList.mp known, enabled, ?_⟩
  intro other met found on
  rw [area]
  exact sound.bound (other, met) (KeyMap.mem_toList.mpr found) on

/-- If it meets some output, it meets the one that it is assigned to. -/
theorem selectOutput_meets {selection : OutputSelection}
    (roots : selection.inheritedOutputId = 0)
    (free : selection.retainPrevious = false)
    (meets : intersectsAny raw.outputs selection.geometry = true) :
    meetsOutput raw
      (selectOutput raw.outputs raw.context.outputId selection)
      selection.geometry = true := by
  obtain ⟨output, found, enabled, leads⟩ :=
    selectOutput_leads valid multiOutput roots free
  obtain ⟨other, overlaps⟩ := intersectsAny_iff.mp meets
  obtain ⟨met, known, on, shared⟩ := meetsOutput_found overlaps
  rw [meetsOutput_iff found enabled, intersectionArea_comm]
  rw [intersectionArea_comm] at shared
  have bound := leads other met known on
  omega

omit multiOutput in
theorem Valid.requestedExtents {id : Nat} (known : id ∈ raw.windows) :
    (0 < (raw.window id).requestedWidth ∧
      (raw.window id).requestedWidth ≤ maximumWindowExtent) ∧
    0 < (raw.window id).requestedHeight ∧
      (raw.window id).requestedHeight ≤ maximumWindowExtent := by
  have record := (valid.windows id _ (RawState.window_known known)).record
  simp only [refusesWindow, Bool.or_eq_false_iff,
    decide_eq_false_iff_not] at record
  omega

omit multiOutput in
theorem retainVisiblePixel_meets {id : Nat} {geometry : Rectangle}
    (enabled : enabledOutput raw.outputs id = true)
    (wide : 0 < geometry.width) (high : 0 < geometry.height)
    (narrow : geometry.width ≤ maximumWindowExtent)
    (low : geometry.height ≤ maximumWindowExtent)
    (own : intersectsAny raw.outputs geometry = true →
      meetsOutput raw id geometry = true) :
    meetsOutput raw id
      (retainVisiblePixel raw.outputs id geometry) = true := by
  rw [retainVisiblePixel_eq enabled]
  split
  · exact own ‹_›
  · exact clampToOutput_meets valid enabled wide high narrow low

theorem rootGeometry_meets {id : Nat} (root : raw.IsRoot id)
    (managed : (raw.window id).overrideRedirect = false) (slot : Nat) :
    meetsOutput raw (assignedRoot raw id)
      (rootGeometry raw (raw.window id) (assignedRoot raw id) slot) =
        true := by
  have enabled : enabledOutput raw.outputs (assignedRoot raw id) = true :=
    assignRoot_enabled (valid.assignable multiOutput) _ _
  obtain ⟨⟨wide, narrow⟩, high, low⟩ :=
    valid.requestedExtents root.1
  fun_cases rootGeometry raw (raw.window id) (assignedRoot raw id) slot with
  | case1 => exact meetsOutput_work valid enabled
  | case2 => exact meetsOutput_work valid enabled
  | case3 override => cases managed.symm.trans override
  | case4 => exact initialPlacement_meets valid enabled wide high slot
  | case5 _ placed fullscreen maximized =>
      refine retainVisiblePixel_meets valid enabled wide high narrow
        low fun meets => ?_
      have stays : cascadeCandidate (raw.window id) = false := by
        simp [cascadeCandidate, placed]
      have free : (rootSelection (raw.window id)
          (hintFor raw id)).retainPrevious = false := by
        simpa [rootSelection] using ⟨fullscreen, maximized⟩
      rw [assignedRoot, assignRoot, stays, if_neg Bool.false_ne_true]
      exact selectOutput_meets valid multiOutput rfl free meets

omit multiOutput in
theorem centeredGeometry_extents {id : Nat} (known : id ∈ raw.windows)
    {outputId : Nat} (enabled : enabledOutput raw.outputs outputId = true)
    (parent : WindowState) :
    let area := centeredGeometry (raw.window id) (raw.output outputId) parent
    (0 < area.width ∧ area.width ≤ maximumWindowExtent) ∧
      0 < area.height ∧ area.height ≤ maximumWindowExtent := by
  have work := validRectangle_bounds (valid.usable enabled).work
  have requested := valid.requestedExtents known
  simp only [centeredGeometry]
  omega

/-- A window in normal state over the middle of its parent reaches the
parent's output, unless it reaches no output at all. -/
def StaysWithParent (raw : RawState) (id : Nat) (parent : WindowState) :
    Prop :=
  let area := centeredGeometry (raw.window id) (raw.output parent.outputId)
    parent
  intersectsAny raw.outputs area = true →
    meetsOutput raw parent.outputId area = true

theorem transientGeometry_meets {id : Nat} {parent : WindowState}
    (known : id ∈ raw.windows)
    (above : PlacedAt raw (raw.window id).transientFor parent)
    (stays : appliedState (raw.window id) = .normal ∨
      appliedState (raw.window id) = .minimized →
        StaysWithParent raw id parent) :
    meetsOutput raw parent.outputId
      (transientGeometry raw (raw.window id) parent) = true := by
  have enabled := above.enabled valid multiOutput
  obtain ⟨⟨wide, narrow⟩, high, low⟩ :=
    centeredGeometry_extents valid known enabled parent
  fun_cases transientGeometry raw (raw.window id) parent with
  | case1 => exact meetsOutput_work valid enabled
  | case2 => exact meetsOutput_work valid enabled
  | case3 output notFullscreen notMaximized =>
      refine retainVisiblePixel_meets valid enabled wide high narrow low
        (stays ?_)
      cases state : appliedState (raw.window id) with
      | normal => exact .inl rfl
      | minimized => exact .inr rfl
      | fullscreen => exact absurd state notFullscreen
      | maximized => exact absurd state notMaximized

end

/-! ## Admission -/

def MeetsAssigned (raw : RawState) (state : WindowState) : Prop :=
  intersectsAny raw.outputs state.geometry = true →
    meetsOutput raw state.outputId state.geometry = true

/-- The layout of which the outputs of a raw state were made. -/
structure LayoutOf (raw : RawState) (layout : OutputLayout) : Prop where
  outputs : ∀ id : Nat,
    raw.outputs[id]? = layout.states[id]?.map (policyOutput id)
  order : ∀ id, id ∈ layout.outputOrder ↔ id ∈ layout.states

/-- The memberships of the surface made of a visible window are none, or
contain the primary output. -/
def PrimaryIncluded (raw : RawState) (state : WindowState) : Prop :=
  ∀ (layout : OutputLayout) (clientBufferScale : Nat)
    (scaleMode : SurfaceScaleMode) (projected : SurfaceOutputProjection),
    LayoutOf raw layout →
    projectSurfaceOutputs layout state.outputId state.finalX state.finalY
      state.finalWidth state.finalHeight true clientBufferScale scaleMode =
        some projected →
    projected.outputIds ≠ [] →
    projected.primaryOutputId ∈ projected.outputIds

/-- The two tests for an intersection agree on rectangles with an inside. -/
theorem intersects_iff_area {id : Nat} {state : OutputState}
    {geometry : Rectangle}
    (some : validRectangle (policyOutput id state).logical = true)
    (wide : geometry.width ≠ 0) (high : geometry.height ≠ 0) :
    intersects geometry.x geometry.y geometry.width geometry.height state =
        true ↔
      intersectionArea (policyOutput id state).logical geometry ≠ 0 := by
  obtain ⟨alongX, alongY⟩ := validRectangle_bounds some
  rw [intersectionArea_ne_zero_iff]
  simp only [intersects, policyOutput, Bool.and_eq_true,
    decide_eq_true_eq] at alongX alongY ⊢
  omega

theorem LayoutOf.meets_iff {layout : OutputLayout}
    (describes : LayoutOf raw layout) (valid : Valid raw) {id : Nat}
    {geometry : Rectangle} (wide : geometry.width ≠ 0)
    (high : geometry.height ≠ 0) :
    meetsOutput raw id geometry = true ↔
      ((stateOf layout id).enabled && intersects geometry.x geometry.y
        geometry.width geometry.height (stateOf layout id)) = true := by
  have output := describes.outputs id
  cases found : layout.states[id]? with
  | none => simp [meetsOutput, output, found, stateOf]
  | some state =>
      rw [stateOf_lookup found]
      rw [found, Option.map_some] at output
      cases enabled : state.enabled with
      | false => simp [meetsOutput, output, policyOutput, enabled]
      | true =>
          have usable := (valid.output output).2.2.2 enabled
          rw [meetsOutput_iff output enabled,
            ← intersects_iff_area usable.logical wide high, Bool.true_and]

theorem MeetsAssigned.primaryIncluded (valid : Valid raw)
    {state : WindowState} (meets : MeetsAssigned raw state) :
    PrimaryIncluded raw state := by
  intro layout scale mode projected describes success nonempty
  unfold projectSurfaceOutputs at success
  split at success
  · cases success
  · split at success
    · cases success
    · rename_i primary found admitted
      simp only [Bool.or_eq_true, decide_eq_true_eq, not_or] at admitted
      obtain ⟨⟨⟨⟨_, wide⟩, high⟩, _⟩, _⟩ := admitted
      obtain rfl := Option.some.inj success
      have meetsIff : ∀ id, meetsOutput raw id state.geometry = true ↔ _ :=
        fun id => @LayoutOf.meets_iff raw layout describes valid id
          state.geometry wide high
      simp only [if_true] at nonempty ⊢
      obtain ⟨other, member⟩ := List.exists_mem_of_ne_nil _ nonempty
      obtain ⟨_, overlaps⟩ := List.mem_filter.mp member
      have own := meets (intersectsAny_iff.mpr
        ⟨other, (meetsIff other).mpr overlaps⟩)
      exact List.mem_filter.mpr
        ⟨(describes.order _).mpr (KeyMap.mem_of_lookup found),
          (meetsIff _).mp own⟩

theorem Shown.not_minimized {id : Nat} (shown : Shown raw id)
    (managed : (raw.window id).overrideRedirect = false) :
    appliedState (raw.window id) ≠ .minimized := by
  have asks := shown.asks
  simp only [asksToShow, managed, Bool.false_or, Bool.and_eq_true,
    decide_eq_true_eq] at asks
  exact asks.2

/-- Every managed visible window that meets an output meets its own exactly
when the transients in normal state stay with their parents. -/
theorem admissible_iff (raw : RawState) (generation : Nat)
    (accepted : validate raw = .none)
    (multiOutput : raw.outputs.isEmpty = false) (numbered : generation ≠ 0) :
    (∀ (id : Nat) state,
      (evaluate raw generation).policy.windows[id]? = some state →
      state.managed = true → state.visible = true →
        MeetsAssigned raw state ∧ PrimaryIncluded raw state) ↔
    ∀ id parent, raw.IsTransient id → Shown raw id →
      appliedState (raw.window id) = .normal →
      PlacedAt raw (raw.window id).transientFor parent →
        StaysWithParent raw id parent := by
  have valid := validate_none_iff.mp accepted
  obtain ⟨_, windows, _⟩ := evaluate_of_valid valid numbered
  rw [windows]
  constructor
  · intro admissible id parent isTransient shown normal above meets
    obtain ⟨placed, there, same⟩ :=
      (PlacedAt.transient isTransient above).evaluated valid
    obtain ⟨state, found, _⟩ :=
      (evaluateWindows_placement valid multiOutput).found there
    obtain ⟨other, again, _, outputId, geometry, managed, visible⟩ :=
      evaluateWindows_found valid multiOutput found
    obtain rfl := Option.some.inj (there.symm.trans again)
    have reached := (admissible id state found
      (by rw [managed, isTransient.2.1]; rfl) (visible.mpr shown)).1
    have enabled := above.enabled valid multiOutput
    have centered : state.geometry = centeredGeometry (raw.window id)
        (raw.output parent.outputId) parent := by
      rw [geometry, same.2, placedIn, applyGeometry_geometry,
        transientGeometry, normal]
      simp only [retainVisiblePixel_eq enabled, meets, if_true]
    have assigned : state.outputId = parent.outputId := outputId.trans same.1
    rw [MeetsAssigned, centered, assigned] at reached
    exact reached meets
  · intro stays id state found managed visible
    obtain ⟨placed, there, known, outputId, geometry, isManaged, shown⟩ :=
      evaluateWindows_found valid multiOutput found
    have plain : (raw.window id).overrideRedirect = false := by
      simpa [isManaged] using managed
    have shows := shown.mp visible
    have meets : MeetsAssigned raw state := by
      intro _
      rw [outputId, geometry]
      rcases isTransient_or_isRoot known with isTransient | root
      · obtain ⟨parent, above⟩ := placedAt_exists valid
          (valid.parent isTransient).1
        obtain ⟨other, again, same⟩ :=
          (PlacedAt.transient isTransient above).evaluated valid
        obtain rfl := Option.some.inj (there.symm.trans again)
        rw [same.1, same.2]
        refine transientGeometry_meets valid multiOutput known above ?_
        rintro (normal | minimized)
        · exact stays id parent isTransient shows normal above
        · exact absurd minimized (shows.not_minimized plain)
      · obtain rfl := Option.some.inj
          (there.symm.trans (geometry_rootSlot root))
        exact rootGeometry_meets valid multiOutput root plain _
    exact ⟨meets, meets.primaryIncluded valid⟩

end Glasswyrm.Wm
