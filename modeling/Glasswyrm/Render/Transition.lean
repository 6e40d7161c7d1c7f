import Glasswyrm.Compositor.DamageCoverage
import Glasswyrm.Compositor.Stacking
import Glasswyrm.Render.MultiPainting

namespace Glasswyrm.Render.MultiOutput

open Library Compositor Compositor.Rectangle Output

/-! Two scenes one after the other: outside the computed damage of an output of
unchanged shape, they compose to the same pixel. -/

theorem outputMapping_sameShape {left right : OutputUpsert}
    (same : sameShape left right = true) :
    outputMapping left = outputMapping right := by
  simp only [sameShape, Bool.and_eq_true, decide_eq_true_eq] at same
  obtain ⟨⟨⟨⟨⟨⟨⟨⟨⟨_, x⟩, y⟩, width⟩, height⟩, physicalWidth⟩, physicalHeight⟩,
    numerator⟩, denominator⟩, transform⟩ := same
  simp only [outputMapping, outputScale, x, y, width, height, physicalWidth,
    physicalHeight, numerator, denominator, transform]

theorem physicalBounds_sameShape {left right : OutputUpsert}
    (same : sameShape left right = true) :
    physicalBounds left = physicalBounds right := by
  simp only [sameShape, Bool.and_eq_true, decide_eq_true_eq] at same
  obtain ⟨⟨⟨⟨⟨_, physicalWidth⟩, physicalHeight⟩, _⟩, _⟩, _⟩ := same
  simp only [physicalBounds, physicalWidth, physicalHeight]

/-- Strokes depend on the output through its mapping alone. -/
theorem dueStroke_outputMapping (request : FrameSetRequest) (outputId : Nat)
    {left right : OutputUpsert}
    (same : outputMapping left = outputMapping right) (x y : Int)
    (surfaceId : Nat) :
    dueStroke request outputId left x y surfaceId =
      dueStroke request outputId right x y surfaceId := by
  have scale : outputScale left = outputScale right :=
    congrArg OutputMapping.scale same
  unfold dueStroke shownStroke shownAt nativeStroke
  simp only [same, scale]

theorem composition_outputMapping (request : FrameSetRequest) (outputId : Nat)
    {left right : OutputUpsert}
    (same : outputMapping left = outputMapping right) (x y : Int) :
    composition request outputId left x y =
      composition request outputId right x y := by
  unfold composition
  simp only [dueStroke_outputMapping request outputId same]

/-! ## Surfaces that did not change -/

/-- What `sameSurface` compares, field by field. -/
theorem sameSurface_fields {left right : SurfaceUpsert}
    (same : sameSurface left right = true) :
    left.logicalX = right.logicalX ∧ left.logicalY = right.logicalY ∧
      left.stacking = right.stacking ∧ left.visible = right.visible ∧
      left.opacity = right.opacity ∧
      left.scaleNumerator = right.scaleNumerator ∧
      left.logicalWidth = right.logicalWidth ∧
      left.logicalHeight = right.logicalHeight ∧
      cursorSurface left = cursorSurface right ∧
      metadataSurface left = metadataSurface right ∧
      placedPart left = placedPart right := by
  simp only [sameSurface, Bool.and_eq_true, decide_eq_true_eq] at same
  obtain ⟨⟨⟨⟨⟨⟨⟨⟨⟨⟨⟨⟨⟨⟨x, y⟩, width⟩, height⟩, stacking⟩, visible⟩, clipping⟩,
    clipX⟩, clipY⟩, clipWidth⟩, clipHeight⟩, opacity⟩, numerator⟩, _⟩, flags⟩ :=
    same
  refine ⟨x, y, stacking, visible, opacity, numerator, width, height, ?_, ?_,
    ?_⟩
  · simp only [cursorSurface, flags]
  · simp only [metadataSurface, flags]
  · simp only [placedPart, visiblePart, extentRectangle, clipRectangle, x, y,
      width, height, clipping, clipX, clipY, clipWidth, clipHeight]

theorem shownStroke_sameSurface {before after : FrameSetRequest}
    {old now : SurfaceUpsert} (same : sameSurface old now = true)
    (attached : attachedMapping before old.surfaceId =
      attachedMapping after now.surfaceId) (outputId : Nat)
    (output : OutputUpsert) (membership : SurfaceOutputMembership)
    (x y : Int) :
    shownStroke before outputId output old membership x y =
      shownStroke after outputId output now membership x y := by
  obtain ⟨logicalX, logicalY, _, visible, opacity, scale, width, height, _,
    metadata, placed⟩ := sameSurface_fields same
  have shown : shownAt outputId output old membership =
      shownAt outputId output now membership := by
    simp only [shownAt, visible, opacity, metadata, placed]
  have image : surfaceImage before old = surfaceImage after now := by
    simp only [surfaceImage, attached, sourceImage, width, height, scale]
  have strokes : ∀ view bounds, nativeStroke output old view
      bounds x y = nativeStroke output now view bounds x y := by
    intro view bounds
    delta nativeStroke
    simp only [sample, logicalX, logicalY, opacity, scale]
  simp only [shownStroke, shown, image, strokes]

/-! ## Undamaged pixels -/

/-- Two requests for scenes the output model accepts, and the surfaces whose
content or attachment differs. -/
structure Successive (before after : FrameSetRequest)
    (contentChanged : List Nat) : Prop where
  former : AcceptedScene before.scene
  latter : AcceptedScene after.scene
  content : ∀ surfaceId ∈ before.scene.surfaces,
    surfaceId ∈ after.scene.surfaces → surfaceId ∉ contentChanged →
      attachedMapping before surfaceId = attachedMapping after surfaceId

section

variable {before after : FrameSetRequest} {contentChanged : List Nat}
  {outputId : Nat} {previousOutput output : OutputUpsert}

/-- A surface that the comparison finds unchanged is in both scenes, with the
same fields and the same outputs. -/
theorem unchanged_lookup {old now : Scene} {surfaceId : Nat}
    (unchanged : surfaceChanged old now contentChanged surfaceId = false) :
    surfaceId ∉ contentChanged ∧
      ∃ former latter membership, old.surfaces[surfaceId]? = some former ∧
        now.surfaces[surfaceId]? = some latter ∧
        sameSurface former latter = true ∧
        old.surfaceOutputs[surfaceId]? = some membership ∧
        now.surfaceOutputs[surfaceId]? = some membership := by
  simp only [surfaceChanged, Bool.or_eq_false_iff] at unchanged
  obtain ⟨⟨content, surfaces⟩, memberships⟩ := unchanged
  refine ⟨by simpa using content, ?_⟩
  split at surfaces
  · rename_i former latter foundFormer foundLatter
    split at memberships
    · rename_i first second foundFirst foundSecond
      obtain rfl : first = second := by simpa using memberships
      exact ⟨former, latter, first, foundFormer, foundLatter,
        by simpa using surfaces, foundFirst, foundSecond⟩
    · cases memberships
  · cases surfaces

/-- A stroke is due only within the rectangle that the surface damages. -/
theorem dueStroke_damages {request : FrameSetRequest} (bounded : Bounded output)
    (named : outputId = output.outputId) {x y : Int} {surfaceId : Nat}
    (due : (dueStroke request outputId output x y surfaceId).isSome = true) :
    (physicalBounds output).Contains x y ∧
      ∃ native, Damages request.scene surfaceId output native ∧
        native.Contains x y := by
  unfold dueStroke at due
  rw [Option.isSome_bind, Option.any_eq_true] at due
  obtain ⟨surface, found, due⟩ := due
  rw [Option.isSome_bind, Option.any_eq_true] at due
  obtain ⟨membership, assigned, due⟩ := due
  unfold shownStroke at due
  rw [Option.isSome_bind, Option.any_eq_true] at due
  obtain ⟨⟨logicalBounds, physical⟩, shown, due⟩ := due
  split at due
  · rename_i within
    obtain ⟨visible, member, placed, native, mapped, rfl⟩ :=
      shownAt_some shown
    obtain ⟨damage, damaged, on, covers⟩ :=
      mapLogicalDamageToNative_covers mapped (footprint output surface)
    have inside : (nativeRectangle native).Contains x y := within
    have held : damage.Holds x y := covers x y inside
    refine ⟨?_, nativeRectangle damage, ⟨?_, nativeRectangle_valid bounded on⟩,
      held⟩
    · obtain ⟨_, _, onRight, onBottom⟩ := on
      simp only [PhysicalRectangle.Holds] at held
      simp only [outputMapping] at onRight onBottom
      simp only [physicalBounds, Contains, right, bottom]
      omega
    · simp only [surfaceDamage, found, memberOf, assigned, visible,
        Option.any_some, ← named, member, placed, damaged, Option.bind_some,
        Option.map_some, Bool.not_true, Bool.or_self, Bool.false_eq_true,
        if_false]
  · cases due

/-- Whether the pixel lies in the damage of an output of unchanged shape. -/
def Touched (before after : FrameSetRequest) (contentChanged : List Nat)
    (previousOutput output : OutputUpsert) (x y : Int) : Prop :=
  (changedRegion before.scene after.scene contentChanged previousOutput
    output).Covers x y

theorem physicalBounds_valid (bounded : Bounded output) :
    (physicalBounds output).hasValidExtents = true := by
  obtain ⟨width, height⟩ := bounded
  simp only [maximumOutputPhysicalExtent] at width height
  rw [hasValidExtents_iff]
  simp only [physicalBounds, right, bottom, int32Minimum, int32Maximum]
  omega

/-- Outside the damage a changed surface has no stroke to give, and an
unchanged one gives the same stroke as before. -/
theorem dueStroke_untouched
    (successive : Successive before after contentChanged)
    (bounded : Bounded output) (former : outputId = previousOutput.outputId)
    (latter : outputId = output.outputId)
    (shape : sameShape previousOutput output = true) {x y : Int}
    (untouched : ¬Touched before after contentChanged previousOutput output x y)
    (surfaceId : Nat) :
    dueStroke before outputId output x y surfaceId =
        dueStroke after outputId output x y surfaceId ∧
      ((dueStroke after outputId output x y surfaceId).isSome = true →
        surfaceChanged before.scene after.scene contentChanged surfaceId =
          false) := by
  have mapping := outputMapping_sameShape shape
  have extent := physicalBounds_sameShape shape
  have previousBounded : Bounded previousOutput := by
    obtain ⟨width, height⟩ := bounded
    have widths := congrArg Rectangle.width extent
    have heights := congrArg Rectangle.height extent
    simp only [physicalBounds] at widths heights
    exact ⟨widths ▸ width, heights ▸ height⟩
  cases changed :
      surfaceChanged before.scene after.scene contentChanged surfaceId with
  | true =>
      have none_before :
          dueStroke before outputId output x y surfaceId = none := by
        rw [← Option.not_isSome_iff_eq_none,
          ← dueStroke_outputMapping before outputId mapping]
        intro due
        obtain ⟨within, native, damages, inside⟩ :=
          dueStroke_damages previousBounded former due
        exact untouched (changedRegion_covers (physicalBounds_valid bounded)
          changed (.inl damages) inside (extent ▸ within))
      have none_after :
          dueStroke after outputId output x y surfaceId = none := by
        rw [← Option.not_isSome_iff_eq_none]
        intro due
        obtain ⟨within, native, damages, inside⟩ :=
          dueStroke_damages bounded latter due
        exact untouched (changedRegion_covers (physicalBounds_valid bounded)
          changed (.inr damages) inside within)
      simp [none_before, none_after]
  | false =>
      obtain ⟨content, old, now, membership, foundOld, foundNow, same,
        assignedOld, assignedNow⟩ := unchanged_lookup changed
      have attached := successive.content surfaceId
        (KeyMap.mem_of_lookup foundOld) (KeyMap.mem_of_lookup foundNow) content
      refine ⟨?_, fun _ => rfl⟩
      have oldId := (successive.former.surfaces surfaceId old foundOld).1
      have nowId := (successive.latter.surfaces surfaceId now foundNow).1
      simp only [dueStroke, foundOld, foundNow, assignedOld, assignedNow,
        Option.bind_some]
      exact shownStroke_sameSurface same (by rw [← oldId, ← nowId, attached])
        outputId output membership x y

/-- Unchanged surfaces keep their order. -/
theorem below_unchanged (successive : Successive before after contentChanged)
    {left right : Nat}
    (leftUnchanged : surfaceChanged before.scene after.scene contentChanged
      left = false)
    (rightUnchanged : surfaceChanged before.scene after.scene contentChanged
      right = false)
    (below : before.scene.Below left right) :
    after.scene.Below left right := by
  obtain ⟨lower, upper, foundLower, foundUpper, stacked⟩ := below
  obtain ⟨_, oldLower, nowLower, _, foundOldLower, foundNowLower, sameLower,
    _⟩ := unchanged_lookup leftUnchanged
  obtain ⟨_, oldUpper, nowUpper, _, foundOldUpper, foundNowUpper, sameUpper,
    _⟩ := unchanged_lookup rightUnchanged
  obtain rfl := Option.some.inj (foundLower.symm.trans foundOldLower)
  obtain rfl := Option.some.inj (foundUpper.symm.trans foundOldUpper)
  refine ⟨nowLower, nowUpper, foundNowLower, foundNowUpper, ?_⟩
  obtain ⟨_, _, lowerStacking, _, _, _, _, _, lowerCursor, _⟩ :=
    sameSurface_fields sameLower
  obtain ⟨_, _, upperStacking, _, _, _, _, _, upperCursor, _⟩ :=
    sameSurface_fields sameUpper
  have lowerIds : lower.surfaceId = nowLower.surfaceId :=
    (successive.former.keyed left lower foundLower).trans
      (successive.latter.keyed left nowLower foundNowLower).symm
  have upperIds : upper.surfaceId = nowUpper.surfaceId :=
    (successive.former.keyed right upper foundUpper).trans
      (successive.latter.keyed right nowUpper foundNowUpper).symm
  unfold StackedBefore at stacked ⊢
  rwa [lowerCursor, upperCursor, lowerStacking, upperStacking, lowerIds,
    upperIds] at stacked

theorem mem_stackingOrder_unchanged
    (successive : Successive before after contentChanged) {surfaceId : Nat}
    (unchanged : surfaceChanged before.scene after.scene contentChanged
      surfaceId = false) :
    surfaceId ∈ before.sceneModel.stackingOrder ↔
      surfaceId ∈ after.sceneModel.stackingOrder := by
  obtain ⟨_, old, now, _, foundOld, foundNow, _⟩ := unchanged_lookup unchanged
  rw [SceneModel.mem_stackingOrder successive.former.keyed,
    SceneModel.mem_stackingOrder successive.latter.keyed]
  exact iff_of_true (KeyMap.mem_of_lookup foundOld)
    (KeyMap.mem_of_lookup foundNow)

/-- The composition of a pixel outside the damage is the one it had. -/
theorem composition_untouched
    (successive : Successive before after contentChanged)
    (bounded : Bounded output) (former : outputId = previousOutput.outputId)
    (latter : outputId = output.outputId)
    (shape : sameShape previousOutput output = true) {x y : Int}
    (untouched :
      ¬Touched before after contentChanged previousOutput output x y) :
    composition before outputId previousOutput x y =
      composition after outputId output x y := by
  have untouchedStroke :=
    dueStroke_untouched successive bounded former latter shape untouched
  have alike : dueStroke before outputId output x y =
      dueStroke after outputId output x y :=
    funext fun surfaceId => (untouchedStroke surfaceId).1
  rw [composition_outputMapping before outputId
    (outputMapping_sameShape shape)]
  unfold composition
  rw [alike]
  congr 1
  refine filterMap_eq_of_sorted
    (SceneModel.stackingOrder_nodup successive.former.keyed)
    (SceneModel.stackingOrder_nodup successive.latter.keyed)
    (fun surfaceId due => mem_stackingOrder_unchanged successive
      ((untouchedStroke surfaceId).2 due))
    (fun left right _ _ first second =>
      Scene.Below.antisymm successive.latter.keyed first second) ?_ ?_
  · refine (SceneModel.stackingOrder_sorted successive.former.keyed).imp ?_
    intro left right below leftDue rightDue
    exact below_unchanged successive ((untouchedStroke left).2 leftDue)
      ((untouchedStroke right).2 rightDue) below
  · refine (SceneModel.stackingOrder_sorted successive.latter.keyed).imp ?_
    intro left right below _ _
    exact below

end

end Glasswyrm.Render.MultiOutput
