import Glasswyrm.Library.Run
import Glasswyrm.Render.MultiOutput
import Glasswyrm.Render.Painting

namespace Glasswyrm.Render.MultiOutput

open Library Compositor Compositor.Rectangle Output

/-! What the renderer leaves at one native pixel: inside a damage rectangle the
composition of the scene, outside what was there before. -/

def attachedMapping (request : FrameSetRequest) (surfaceId : Nat) :
    Option BufferMapping :=
  request.attachments[surfaceId]?.bind (request.mappings[·]?)

def surfaceImage (request : FrameSetRequest) (surface : SurfaceUpsert) :
    Option ImageView :=
  (attachedMapping request surface.surfaceId).bind fun mapping =>
    (sourceImage mapping surface).toOption

theorem loadImage_ok_iff {request : FrameSetRequest}
    {surface : SurfaceUpsert} {image : ImageView} :
    loadImage request surface = .ok image ↔
      surfaceImage request surface = some image := by
  unfold loadImage surfaceImage attachedMapping
  cases request.attachments[surface.surfaceId]? with
  | none => simp
  | some bufferId =>
      simp only [Option.bind_some]
      cases request.mappings[bufferId]? with
      | none => simp
      | some mapping =>
          simp only [Option.bind_some]
          cases sourceImage mapping surface <;>
            simp [Except.mapError, Except.toOption]

/-- The stroke a surface is due at a native pixel of an output. -/
def shownStroke (request : FrameSetRequest) (outputId : Nat)
    (output : OutputUpsert) (surface : SurfaceUpsert)
    (membership : SurfaceOutputMembership) (x y : Int) : Option Stroke :=
  (shownAt outputId output surface membership).bind fun shown =>
    if shown.2.Contains x y then
      (surfaceImage request surface).bind fun image =>
        nativeStroke output surface image shown.1 x y
    else none

def dueStroke (request : FrameSetRequest) (outputId : Nat)
    (output : OutputUpsert) (x y : Int) (surfaceId : Nat) : Option Stroke :=
  (request.scene.surfaces[surfaceId]?).bind fun surface =>
    (request.scene.surfaceOutputs[surfaceId]?).bind fun membership =>
      shownStroke request outputId output surface membership x y

def composition (request : FrameSetRequest) (outputId : Nat)
    (output : OutputUpsert) (x y : Int) : UInt32 :=
  (request.sceneModel.stackingOrder.filterMap
    (dueStroke request outputId output x y)).foldl stroke clearPixel

/-- The native extent of the output is within the limits of the model. -/
structure Bounded (output : OutputUpsert) : Prop where
  width : output.physicalPixelWidth ≤ maximumOutputPhysicalExtent
  height : output.physicalPixelHeight ≤ maximumOutputPhysicalExtent

section

variable {request : FrameSetRequest} {outputId : Nat} {output : OutputUpsert}

theorem nativeRectangle_valid (bounded : Bounded output)
    {native : PhysicalRectangle}
    (on : native.On (outputMapping output).physicalExtent) :
    (nativeRectangle native).hasValidExtents = true := by
  obtain ⟨width, height⟩ := bounded
  obtain ⟨_, _, onRight, onBottom⟩ := on
  simp only [outputMapping, maximumOutputPhysicalExtent] at *
  rw [hasValidExtents_iff]
  simp only [nativeRectangle, right, bottom, int32Minimum, int32Maximum]
  omega

theorem validDamage_extents (bounded : Bounded output) {damage : Rectangle}
    (valid : validDamage (outputSpec outputId output) damage = true) :
    damage.hasValidExtents = true := by
  obtain ⟨width, height⟩ := bounded
  simp only [validDamage, Bool.and_eq_true, decide_eq_true_eq] at valid
  simp only [maximumOutputPhysicalExtent] at width height
  rw [hasValidExtents_iff]
  simp only [outputSpec, right, bottom, int32Minimum,
    int32Maximum] at valid ⊢
  omega

/-- The bounds a surface is shown at are those of its placed part, and lie on
the output. -/
theorem shownAt_some {surface : SurfaceUpsert}
    {membership : SurfaceOutputMembership} {logicalBounds physicalBounds :
      Rectangle}
    (shown : shownAt outputId output surface membership =
      some (logicalBounds, physicalBounds)) :
    surface.visible = true ∧
      membership.outputIds.contains outputId = true ∧
      placedPart surface = some logicalBounds ∧
      ∃ native, mapLogicalRectangleToNative (outputMapping output)
          (logicalRectangle logicalBounds) = some native ∧
        physicalBounds = nativeRectangle native := by
  unfold shownAt at shown
  split at shown
  · cases shown
  · rename_i visible
    simp only [Bool.or_eq_true, Bool.not_eq_true', not_or,
      Bool.not_eq_false] at visible
    obtain ⟨bounds, placed, mapped⟩ := Option.bind_eq_some_iff.mp shown
    obtain ⟨native, found, same⟩ := Option.map_eq_some_iff.mp mapped
    obtain ⟨rfl, rfl⟩ := Prod.mk.inj same
    exact ⟨visible.1.1.1, visible.2, placed, native, found, rfl⟩

/-- A damage rectangle that contains a point of the surface meets it. -/
theorem intersection_shown (bounded : Bounded output) {damage : Rectangle}
    (valid : validDamage (outputSpec outputId output) damage = true)
    {surface : SurfaceUpsert} {membership : SurfaceOutputMembership}
    {logicalBounds physicalBounds : Rectangle}
    (shown : shownAt outputId output surface membership =
      some (logicalBounds, physicalBounds)) {x y : Int}
    (damaged : damage.Contains x y) (within : physicalBounds.Contains x y) :
    ∃ painted, damage.intersection physicalBounds = some painted := by
  obtain ⟨_, _, _, native, mapped, rfl⟩ := shownAt_some shown
  exact intersection_isSome (validDamage_extents bounded valid)
    (nativeRectangle_valid bounded (mapLogicalRectangleToNative_on mapped))
    damaged within

theorem renderSurface_apply (bounded : Bounded output) {damage : Rectangle}
    (valid : validDamage (outputSpec outputId output) damage = true)
    {pixels next : Raster UInt32} {surface : SurfaceUpsert}
    {membership : SurfaceOutputMembership}
    (rendered : renderSurface request outputId output damage pixels surface
      membership = .ok next) (x y : Int) :
    next x y =
      if damage.Contains x y then
        (shownStroke request outputId output surface membership x y).elim
          (pixels x y) (stroke (pixels x y))
      else pixels x y := by
  unfold renderSurface at rendered
  unfold shownStroke
  cases shown : shownAt outputId output surface membership with
  | none =>
      simp only [shown, Except.ok.injEq] at rendered
      subst rendered
      simp
  | some bounds =>
      obtain ⟨logicalBounds, physicalBounds⟩ := bounds
      simp only [shown] at rendered
      simp only [Option.bind_some]
      cases painting : damage.intersection physicalBounds with
      | none =>
          simp only [painting, Except.ok.injEq] at rendered
          subst rendered
          by_cases damaged : damage.Contains x y
          · by_cases within : physicalBounds.Contains x y
            · obtain ⟨painted, meets⟩ :=
                intersection_shown bounded valid shown damaged within
              simp [painting] at meets
            · simp [within]
          · simp [damaged]
      | some painted =>
          simp only [painting] at rendered
          cases loaded : loadImage request surface with
          | error failure => simp [loaded, Except.map] at rendered
          | ok image =>
              simp only [loaded, Except.map, Except.ok.injEq] at rendered
              subst rendered
              rw [paint_rectangle, loadImage_ok_iff.mp loaded]
              have both := intersection_contains painting x y
              by_cases damaged : damage.Contains x y
              · by_cases within : physicalBounds.Contains x y
                · have covered : inside (some painted) x y = true :=
                    (inside_some painted x y).mpr
                      (both.mpr ⟨damaged, within⟩)
                  simp [covered, damaged, within]
                · have apart : ¬inside (some painted) x y = true := fun h =>
                    within (both.mp ((inside_some painted x y).mp h)).2
                  simp [apart, within]
              · have apart : ¬inside (some painted) x y = true := fun h =>
                  damaged (both.mp ((inside_some painted x y).mp h)).1
                simp [apart, damaged]

theorem renderStacked_apply (bounded : Bounded output) {damage : Rectangle}
    (valid : validDamage (outputSpec outputId output) damage = true)
    {pixels next : Raster UInt32} {surfaceId : Nat}
    (rendered : renderStacked request outputId output damage pixels surfaceId =
      .ok next) (x y : Int) :
    next x y =
      if damage.Contains x y then
        (dueStroke request outputId output x y surfaceId).elim
          (pixels x y) (stroke (pixels x y))
      else pixels x y := by
  unfold renderStacked at rendered
  unfold dueStroke
  split at rendered
  · rename_i surface membership found assigned
    rw [found, assigned]
    exact renderSurface_apply bounded valid rendered x y
  · rename_i missing
    obtain rfl := Except.ok.inj rendered
    cases found : request.scene.surfaces[surfaceId]? with
    | none => simp
    | some surface =>
        cases assigned : request.scene.surfaceOutputs[surfaceId]? with
        | none => simp
        | some membership => exact absurd assigned (missing _ _ found)

theorem fill_apply (rectangle : Rectangle) (pixels : Raster UInt32)
    (x y : Int) :
    fill rectangle pixels x y =
      if rectangle.Contains x y then clearPixel else pixels x y := by
  unfold fill
  rw [paint_rectangle]
  simp only [inside_some]

/-- A damage rectangle is left with the composition of the scene, the rest of
the frame as it was. -/
theorem renderRectangle_apply (bounded : Bounded output)
    {rectangle : Rectangle} {pixels next : Raster UInt32}
    (rendered : renderRectangle request outputId output pixels rectangle =
      .ok next) (x y : Int) :
    next x y =
      if rectangle.Contains x y then composition request outputId output x y
      else pixels x y := by
  unfold renderRectangle at rendered
  split at rendered
  · cases rendered
  · rename_i valid
    rw [Bool.not_eq_true', Bool.not_eq_false] at valid
    obtain ⟨_, observed⟩ := foldlM_observes (fun _ => True)
      (fun pixels : Raster UInt32 => pixels x y)
      (fun word surfaceId =>
        if rectangle.Contains x y then
          (dueStroke request outputId output x y surfaceId).elim word
            (stroke word)
        else word)
      (fun state _ _ _ taken =>
        ⟨trivial, renderStacked_apply bounded valid taken x y⟩)
      trivial rendered
    rw [observed, fill_apply]
    by_cases damaged : rectangle.Contains x y
    · simp only [damaged, if_true, composition, List.foldl_filterMap]
      congr 1
      funext word surfaceId
      cases dueStroke request outputId output x y surfaceId <;> rfl
    · simp only [damaged, if_false]
      induction request.sceneModel.stackingOrder with
      | nil => rfl
      | cons _ _ ih => exact ih

theorem foldl_damaged {damage : List Rectangle} (colour : UInt32) (x y : Int)
    (start : UInt32) :
    damage.foldl (fun word rectangle =>
        if rectangle.Contains x y then colour else word) start =
      if ∃ rectangle ∈ damage, rectangle.Contains x y then colour
      else start := by
  induction damage generalizing start with
  | nil => simp
  | cons rectangle rest ih =>
      rw [List.foldl_cons, ih]
      by_cases here : rectangle.Contains x y
      · simp [here]
      · simp [here]

/-- Damaged pixels of an output hold the composition of the scene, the others
what they started from. -/
theorem renderOutput_apply (bounded : Bounded output)
    {rendered : OutputFrameResult}
    (complete : renderOutput request outputId output = .ok rendered) :
    ∃ frame pixels, SoftwareFrame.configure outputId
        output.physicalPixelWidth output.physicalPixelHeight = .ok frame ∧
      rendered = outputFrame request outputId output frame pixels ∧
      ∀ x y, pixels x y =
        if ∃ rectangle ∈ frameDamage request outputId output,
            rectangle.Contains x y then
          composition request outputId output x y
        else startPixels request output frame.pixels x y := by
  unfold renderOutput at complete
  split at complete
  · cases complete
  · cases configured : SoftwareFrame.configure outputId
        output.physicalPixelWidth output.physicalPixelHeight with
    | error error => simp [configured] at complete
    | ok frame =>
        simp only [configured] at complete
        split at complete
        · cases complete
        · cases painted : (frameDamage request outputId output).foldlM
              (renderRectangle request outputId output)
              (startPixels request output frame.pixels) with
          | error failure => simp [painted, Except.map] at complete
          | ok pixels =>
              simp only [painted, Except.map, Except.ok.injEq] at complete
              refine ⟨frame, pixels, rfl, complete.symm, fun x y => ?_⟩
              obtain ⟨_, observed⟩ := foldlM_observes (fun _ => True)
                (fun pixels : Raster UInt32 => pixels x y)
                (fun word rectangle =>
                  if rectangle.Contains x y then
                    composition request outputId output x y
                  else word)
                (fun _ _ _ _ taken =>
                  ⟨trivial, renderRectangle_apply bounded taken x y⟩)
                trivial painted
              rw [← foldl_damaged]
              exact observed

end

end Glasswyrm.Render.MultiOutput
