import Glasswyrm.Compositor.Types

namespace Glasswyrm.Compositor

open Output Wm

def srgb (color : SdrColorMetadata) : Bool :=
  color.colorSpace = .srgb && color.transferFunction = .srgb &&
    color.primaries = .srgb

def transformSwapsExtents (transform : OutputTransform) : Bool :=
  transform = .rotate90 || transform = .rotate270 ||
    transform = .flipped90 || transform = .flipped270

def validScale (numerator denominator : Nat) : Bool :=
  denominator ≠ 0 && denominator ≤ maximumOutputScaleDenominator &&
    Nat.gcd numerator denominator = 1 && denominator ≤ numerator &&
    numerator ≤ maximumOutputScaleNumerator * denominator

def logicalDimension (physical numerator denominator : Nat) : Nat :=
  let scaled := physical * denominator
  scaled / numerator + if scaled % numerator ≠ 0 then 1 else 0

def outputRectangle (output : OutputUpsert) : Rectangle :=
  { x := output.logicalX
    y := output.logicalY
    width := output.logicalWidth
    height := output.logicalHeight }

def surfaceRectangle (surface : SurfaceUpsert) : Rectangle :=
  { x := surface.logicalX
    y := surface.logicalY
    width := surface.logicalWidth
    height := surface.logicalHeight }

/-- The order of `geometric_memberships`: by row, column and identifier. -/
def MembershipBefore (left right : Nat × OutputUpsert) : Prop :=
  if left.2.logicalY ≠ right.2.logicalY then
    left.2.logicalY < right.2.logicalY
  else if left.2.logicalX ≠ right.2.logicalX then
    left.2.logicalX < right.2.logicalX
  else left.1 ≤ right.1

instance : DecidableRel MembershipBefore := fun _ _ => by
  unfold MembershipBefore
  infer_instance

def geometricMemberships (scene : Scene) (surface : SurfaceUpsert) :
    List Nat :=
  if !surface.visible then []
  else
    let meeting := scene.outputs.toList.filter fun entry =>
      entry.2.enabled && ((surfaceRectangle surface).intersection
        (outputRectangle entry.2)).isSome
    (meeting.insertionSort MembershipBefore).map (·.1)

def overlappingOutputs (scene : Scene) : Bool :=
  let enabled := scene.outputs.toList.filter (·.2.enabled)
  !enabled.Pairwise fun left right =>
    (outputRectangle left.2).intersection (outputRectangle right.2) = none

/-- The historical profile has one unscaled output at the origin. -/
def validHistoricalOutput (output : OutputUpsert) : Bool :=
  output.logicalX = 0 && output.logicalY = 0 && output.scaleNumerator = 1 &&
    output.scaleDenominator = 1 && output.transform = .normal &&
    if !output.enabled then
      output.logicalWidth = 0 && output.logicalHeight = 0 &&
        output.physicalPixelWidth = 0 && output.physicalPixelHeight = 0
    else
      output.logicalWidth ≠ 0 && output.logicalHeight ≠ 0 &&
        output.logicalWidth ≤ maximumOutputPhysicalExtent &&
        output.logicalHeight ≤ maximumOutputPhysicalExtent &&
        output.logicalWidth = output.physicalPixelWidth &&
        output.logicalHeight = output.physicalPixelHeight &&
        output.logicalWidth * output.logicalHeight ≤
          maximumOutputPhysicalPixels

def disabledOutput (output : OutputUpsert) : Bool :=
  output.logicalX = 0 && output.logicalY = 0 && output.logicalWidth = 0 &&
    output.logicalHeight = 0 && output.physicalPixelWidth = 0 &&
    output.physicalPixelHeight = 0 && output.refreshMillihertz = 0

def boundedOutput (output : OutputUpsert) : Bool :=
  0 ≤ output.logicalX && 0 ≤ output.logicalY && output.logicalWidth ≠ 0 &&
    output.logicalHeight ≠ 0 && output.physicalPixelWidth ≠ 0 &&
    output.physicalPixelHeight ≠ 0 && output.refreshMillihertz ≠ 0 &&
    output.physicalPixelWidth ≤ maximumOutputPhysicalExtent &&
    output.physicalPixelHeight ≤ maximumOutputPhysicalExtent &&
    output.physicalPixelWidth * output.physicalPixelHeight ≤
      maximumOutputPhysicalPixels &&
    checkedExtent output.logicalX output.logicalWidth &&
    checkedExtent output.logicalY output.logicalHeight &&
    output.logicalX + output.logicalWidth ≤ maximumRootLogicalWidth &&
    output.logicalY + output.logicalHeight ≤ maximumRootLogicalHeight

/-- The logical extent is the one the mode, scale and transform give. -/
def derivedExtent (output : OutputUpsert) : Bool :=
  let swaps := transformSwapsExtents output.transform
  let physicalWidth :=
    if swaps then output.physicalPixelHeight else output.physicalPixelWidth
  let physicalHeight :=
    if swaps then output.physicalPixelWidth else output.physicalPixelHeight
  output.logicalWidth = logicalDimension physicalWidth
      output.scaleNumerator output.scaleDenominator &&
    output.logicalHeight = logicalDimension physicalHeight
      output.scaleNumerator output.scaleDenominator

def validModelOutput (output : OutputUpsert) : Bool :=
  validScale output.scaleNumerator output.scaleDenominator &&
    if !output.enabled then disabledOutput output
    else boundedOutput output && derivedExtent output

def validSceneOutput (output : OutputUpsert) (profile : SceneProfile) :
    Bool :=
  output.outputId ≠ 0 && srgb output.color &&
    match profile with
    | .historical => validHistoricalOutput output
    | .outputModel => validModelOutput output

def validClientScale (surface : SurfaceUpsert) : SceneProfile → Bool
  | .historical =>
      surface.scaleNumerator = 1 && surface.scaleDenominator = 1
  | .outputModel =>
      1 ≤ surface.scaleNumerator && surface.scaleNumerator ≤ 4 &&
        surface.scaleDenominator = 1

def validSurfaceRecord (surface : SurfaceUpsert) (profile : SceneProfile) :
    Bool :=
  surface.surfaceId ≠ 0 &&
    !(metadataSurface surface && surface.x11WindowId = 0) &&
    surface.parentSurfaceId = 0 && surface.outputId ≠ 0 &&
    surface.transform = .normal && validClientScale surface profile &&
    srgb surface.color &&
    (surface.presentationFlags = 0 || metadataSurface surface ||
      cursorSurface surface) &&
    surface.opacity ≤ opacityOne &&
    checkedExtent surface.logicalX surface.logicalWidth &&
    checkedExtent surface.logicalY surface.logicalHeight

def validCursor (surface : SurfaceUpsert) : Bool :=
  surface.x11WindowId = 0 && surface.logicalWidth ≤ maximumCursorExtent &&
    surface.logicalHeight ≤ maximumCursorExtent && !surface.clipping &&
    surface.opacity = opacityOne && surface.fullscreenEligible = .unknown &&
    surface.directScanoutEligible = .unknown

def validClip (surface : SurfaceUpsert) : Bool :=
  if !surface.clipping then
    surface.clipX = 0 && surface.clipY = 0 && surface.clipWidth = 0 &&
      surface.clipHeight = 0
  else
    checkedExtent surface.clipX surface.clipWidth &&
      checkedExtent surface.clipY surface.clipHeight

def validSceneSurface (surface : SurfaceUpsert) (profile : SceneProfile) :
    Bool :=
  validSurfaceRecord surface profile &&
    (!cursorSurface surface || validCursor surface) && validClip surface

def validSurfaceOutputState (state : SurfaceOutputState) : Bool :=
  state.surfaceId ≠ 0 && state.primaryOutputId ≠ 0 &&
    state.outputIds.length ≤ maximumOutputs &&
    state.preferredScaleNumerator ≠ 0 &&
    state.preferredScaleDenominator ≠ 0 && state.clientBufferScale ≠ 0 &&
    state.clientBufferScale ≤ 4 && state.layoutGeneration ≠ 0 &&
    state.flags = 0 &&
    (state.scaleMode ≠ .legacy || state.clientBufferScale = 1) &&
    state.outputIds.all (· ≠ 0) && state.outputIds.Nodup

def inferHistoricalOutputState (scene : Scene) : Scene :=
  match scene.output with
  | none =>
      { scene with
        outputs := ∅
        surfaceOutputs := ∅
        primaryOutputId := 0
        configurationGeneration := 0 }
  | some output =>
      { scene with
        outputs := (∅ : KeyMap OutputUpsert).insert output.outputId output
        surfaceOutputs := scene.surfaces.filterMap fun _ surface =>
          if metadataSurface surface then none
          else
            some {
              primaryOutputId := surface.outputId
              outputIds := [surface.outputId]
              preferredScaleNumerator := 1
              preferredScaleDenominator := 1
              clientBufferScale := 1 }
        primaryOutputId := output.outputId
        configurationGeneration := 0 }

/-- One round of the loop that checks the outputs and adds up the pixels of
the enabled ones. -/
def validateOutput (id : Nat) (output : OutputUpsert) (totalPixels : Nat) :
    Option Nat :=
  if id ≠ output.outputId || !validSceneOutput output .outputModel then none
  else if !output.enabled then some totalPixels
  else
    let pixels := output.physicalPixelWidth * output.physicalPixelHeight
    if maximumTotalOutputPixels - totalPixels < pixels then none
    else some (totalPixels + pixels)

/-- One round of the loop that checks the surfaces. -/
def validateSurface (scene : Scene) (id : Nat) (surface : SurfaceUpsert) :
    FrameResult :=
  if id ≠ surface.surfaceId || !validSceneSurface surface .outputModel then
    .rejectedIncompleteMetadata
  else
    match scene.outputs[surface.outputId]? with
    | none => .rejectedUnknownSurface
    | some assigned =>
        if !assigned.enabled then .rejectedUnknownSurface
        else if metadataSurface surface then
          if id ∈ scene.surfaceOutputs then .rejectedIncompleteMetadata
          else .accepted
        else
          match scene.surfaceOutputs[id]? with
          | none => .rejectedIncompleteMetadata
          | some state =>
              if state.primaryOutputId ≠ surface.outputId ||
                  state.layoutGeneration ≠ scene.configurationGeneration ||
                  state.preferredScaleNumerator ≠ assigned.scaleNumerator ||
                  state.preferredScaleDenominator ≠
                    assigned.scaleDenominator ||
                  state.clientBufferScale ≠ surface.scaleNumerator ||
                  state.outputIds ≠ geometricMemberships scene surface then
                .rejectedIncompleteMetadata
              else if state.outputIds ≠ [] &&
                  !state.outputIds.contains state.primaryOutputId then
                .rejectedIncompleteMetadata
              else .accepted

/-- The first result other than acceptance ends the loop. -/
def firstRejection (results : List FrameResult) : FrameResult :=
  (results.find? (· ≠ .accepted)).getD .accepted

def validateOutputModelScene (scene : Scene) : FrameResult :=
  if scene.output.isSome || scene.outputs.isEmpty ||
      maximumOutputs < scene.outputs.size || scene.primaryOutputId = 0 ||
      scene.configurationGeneration = 0 || overlappingOutputs scene then
    .rejectedIncompleteMetadata
  else
    match scene.outputs.toList.foldlM
        (fun total entry => validateOutput entry.1 entry.2 total) 0 with
    | none => .rejectedIncompleteMetadata
    | some _ =>
        match scene.outputs[scene.primaryOutputId]? with
        | none => .rejectedIncompleteMetadata
        | some primary =>
            if !primary.enabled then .rejectedIncompleteMetadata
            else if maximumSurfaces < scene.surfaces.size then
              .rejectedIncompleteMetadata
            else
              match firstRejection (scene.surfaces.toList.map fun entry =>
                  validateSurface scene entry.1 entry.2) with
              | .accepted =>
                  if scene.surfaceOutputs.keys.all
                      (scene.surfaces.contains ·) then .accepted
                  else .rejectedUnknownSurface
              | rejection => rejection

/-! ## What an accepted scene guarantees -/

theorem firstRejection_accepted {results : List FrameResult}
    (accepted : firstRejection results = .accepted) :
    ∀ result ∈ results, result = .accepted := by
  unfold firstRejection at accepted
  intro result member
  by_contra rejected
  cases found : results.find? (· ≠ .accepted) with
  | none =>
      have all := List.find?_eq_none.mp found result member
      simp only [ne_eq, decide_not, Bool.not_eq_true',
        decide_eq_false_iff_not, not_not] at all
      exact rejected all
  | some first =>
      rw [found, Option.getD_some] at accepted
      have differs := List.find?_some found
      simp [accepted] at differs

theorem firstRejection_of_accepted {results : List FrameResult}
    (accepted : ∀ result ∈ results, result = .accepted) :
    firstRejection results = .accepted := by
  unfold firstRejection
  rw [List.find?_eq_none.mpr fun result member => by
    simp [accepted result member]]
  rfl

theorem validateOutput_some {id total next : Nat} {output : OutputUpsert}
    (valid : validateOutput id output total = some next) :
    id = output.outputId ∧ validSceneOutput output .outputModel = true := by
  unfold validateOutput at valid
  split at valid
  · cases valid
  · rename_i sound
    simpa using sound

theorem outputs_foldlM_some {outputs : List (Nat × OutputUpsert)}
    {start final : Nat}
    (valid : outputs.foldlM
      (fun total entry => validateOutput entry.1 entry.2 total) start =
        some final) :
    ∀ entry ∈ outputs, entry.1 = entry.2.outputId ∧
      validSceneOutput entry.2 .outputModel = true := by
  induction outputs generalizing start with
  | nil => simp
  | cons head rest ih =>
      rw [List.foldlM_cons] at valid
      obtain ⟨next, sound, remaining⟩ := Option.bind_eq_some_iff.mp valid
      intro entry member
      rcases List.mem_cons.mp member with rfl | later
      · exact validateOutput_some sound
      · exact ih remaining entry later

/-- Outputs and surfaces are valid and filed under their own identifiers. -/
structure AcceptedScene (scene : Scene) : Prop where
  outputs : ∀ (id : Nat) output, scene.outputs[id]? = some output →
    id = output.outputId ∧ validSceneOutput output .outputModel = true
  surfaces : ∀ (id : Nat) surface, scene.surfaces[id]? = some surface →
    id = surface.surfaceId ∧ validSceneSurface surface .outputModel = true

theorem validateSurface_accepted {scene : Scene} {id : Nat}
    {surface : SurfaceUpsert}
    (accepted : validateSurface scene id surface = .accepted) :
    id = surface.surfaceId ∧
      validSceneSurface surface .outputModel = true := by
  unfold validateSurface at accepted
  split at accepted
  · cases accepted
  · rename_i sound
    simpa using sound

theorem acceptedScene_of_validate {scene : Scene}
    (accepted : validateOutputModelScene scene = .accepted) :
    AcceptedScene scene := by
  unfold validateOutputModelScene at accepted
  split at accepted
  · cases accepted
  · split at accepted
    · cases accepted
    · rename_i pixels counted
      split at accepted
      · cases accepted
      · split at accepted
        · cases accepted
        · split at accepted
          · cases accepted
          · split at accepted
            · rename_i passed
              refine ⟨fun id output found => ?_, fun id surface found => ?_⟩
              · exact outputs_foldlM_some counted (id, output)
                  (KeyMap.mem_toList.mpr found)
              · have sound : validateSurface scene id surface = .accepted :=
                  firstRejection_accepted passed _ (List.mem_map.mpr
                    ⟨(id, surface), KeyMap.mem_toList.mpr found, rfl⟩)
                exact validateSurface_accepted sound
            · rename_i rejected
              exact absurd accepted rejected

/-- The extents of an enabled output of the output model. -/
theorem validSceneOutput_extent {output : OutputUpsert}
    (valid : validSceneOutput output .outputModel = true)
    (enabled : output.enabled = true) :
    output.physicalPixelWidth ≠ 0 ∧ output.physicalPixelHeight ≠ 0 ∧
      output.physicalPixelWidth ≤ maximumOutputPhysicalExtent ∧
      output.physicalPixelHeight ≤ maximumOutputPhysicalExtent := by
  simp only [validSceneOutput, validModelOutput, boundedOutput, enabled,
    Bool.not_true, Bool.false_eq_true, if_false, Bool.and_eq_true,
    decide_eq_true_eq] at valid
  tauto

end Glasswyrm.Compositor
