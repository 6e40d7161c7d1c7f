import Glasswyrm.Render.Incremental

namespace Glasswyrm.Render

open Library Compositor Compositor.Rectangle

/-! A frame that is damaged as a whole: where each surface is painted, and with
which of its pixels. -/

variable {request : RenderFrameRequest} {output : OutputUpsert}

/-! ## The area of a surface -/

/-- A point of the output within the rectangle of the surface and within its
clip, which moves with the surface. -/
structure InArea (output : OutputUpsert) (surface : SurfaceUpsert)
    (x y : Int) : Prop where
  extent : (surfaceRectangle surface).Contains x y
  clip : surface.clipping = true →
    (clipRectangle surface).Contains (x - surface.logicalX)
      (y - surface.logicalY)
  shown : (outputBounds output).Contains x y

/-- The positions of a surface and of its clip are 32-bit fields. -/
structure Int32Position (surface : SurfaceUpsert) : Prop where
  logicalX : coordinateFits surface.logicalX = true
  logicalY : coordinateFits surface.logicalY = true
  clipX : coordinateFits surface.clipX = true
  clipY : coordinateFits surface.clipY = true

theorem validSceneSurface_extents {surface : SurfaceUpsert}
    {profile : SceneProfile}
    (valid : validSceneSurface surface profile = true) :
    checkedExtent surface.logicalX surface.logicalWidth = true ∧
      checkedExtent surface.logicalY surface.logicalHeight = true := by
  simp only [validSceneSurface, validSurfaceRecord, Bool.and_eq_true] at valid
  obtain ⟨⟨⟨⟨_, x⟩, y⟩, _⟩, _⟩ := valid
  exact ⟨x, y⟩

theorem visiblePart_contains {surface : SurfaceUpsert} {part : Rectangle}
    (visible : visiblePart surface = some part) (x y : Int) :
    part.Contains x y ↔ (extentRectangle surface).Contains x y ∧
      (surface.clipping = true → (clipRectangle surface).Contains x y) := by
  unfold visiblePart at visible
  split at visible
  · rename_i clipping
    rw [intersection_contains visible]
    simp only [clipping, true_implies]
  · rename_i whole
    obtain rfl := Option.some.inj visible
    exact ⟨fun contains => ⟨contains, fun clipping => absurd clipping whole⟩,
      And.left⟩

theorem extentRectangle_contains (surface : SurfaceUpsert) (x y : Int) :
    (extentRectangle surface).Contains (x - surface.logicalX)
        (y - surface.logicalY) ↔ (surfaceRectangle surface).Contains x y := by
  simp only [extentRectangle, surfaceRectangle, Contains, right, bottom]
  omega

/-- The visible part lies within the extent, so that it can be placed. -/
theorem visiblePart_placed {surface : SurfaceUpsert} {part : Rectangle}
    (valid : validSceneSurface surface .historical = true)
    (position : Int32Position surface)
    (extent : (extentRectangle surface).hasValidExtents = true)
    (visible : visiblePart surface = some part) :
    (part.translate surface.logicalX surface.logicalY).isSome = true := by
  have within : part.hasValidExtents = true ∧
      part.Within (extentRectangle surface) := by
    unfold visiblePart at visible
    split at visible
    · have some := intersection_some visible
      exact ⟨some.2.2.1, (intersection_within visible).1⟩
    · obtain rfl := Option.some.inj visible
      exact ⟨extent, .refl _⟩
  obtain ⟨partValid, left, rightmost, top, lowest⟩ := within
  obtain ⟨alongX, alongY⟩ := validSceneSurface_extents valid
  obtain ⟨_, _, endX⟩ := (checkedExtent_iff _ _).mp alongX
  obtain ⟨_, _, endY⟩ := (checkedExtent_iff _ _).mp alongY
  have startX := (coordinateFits_iff _).mp position.logicalX
  have startY := (coordinateFits_iff _).mp position.logicalY
  simp only [extentRectangle, right, bottom] at left rightmost top lowest
  unfold Rectangle.translate
  simp only [partValid, Bool.not_true, Bool.false_eq_true, if_false]
  rw [if_neg]
  · rfl
  · simp only [Bool.or_eq_true, Bool.not_eq_true', not_or, Bool.not_eq_false,
      coordinateFits_iff, right, bottom]
    omega

theorem surfaceBounds_contains {surface : SurfaceUpsert}
    (shape : (outputBounds output).hasValidExtents = true)
    (valid : validSceneSurface surface .historical = true)
    (extent : (extentRectangle surface).hasValidExtents = true)
    (position : Int32Position surface) (x y : Int) :
    inside (surfaceBounds surface output) x y = true ↔
      InArea output surface x y := by
  unfold surfaceBounds placedPart
  constructor
  · intro contains
    cases visible : visiblePart surface with
    | none =>
        rw [visible] at contains
        cases contains
    | some part =>
        rw [visible, Option.bind_some] at contains
        obtain ⟨placed, there⟩ := Option.isSome_iff_exists.mp
          (visiblePart_placed valid position extent visible)
        rw [there, Option.bind_some] at contains
        cases shown : placed.intersection (outputBounds output) with
        | none =>
            rw [shown] at contains
            cases contains
        | some result =>
            rw [shown, inside_some, intersection_contains shown,
              translate_contains there, visiblePart_contains visible,
              extentRectangle_contains] at contains
            exact ⟨contains.1.1, contains.1.2, contains.2⟩
  · rintro ⟨within, clip, shown⟩
    rw [← extentRectangle_contains] at within
    obtain ⟨part, visible⟩ : ∃ part, visiblePart surface = some part := by
      unfold visiblePart
      split
      · rename_i clipping
        exact intersection_isSome extent (validSceneSurface_clip valid clipping)
          within (clip clipping)
      · exact ⟨_, rfl⟩
    obtain ⟨placed, there⟩ := Option.isSome_iff_exists.mp
      (visiblePart_placed valid position extent visible)
    have contains : placed.Contains x y := by
      rw [translate_contains there, visiblePart_contains visible]
      exact ⟨within, clip⟩
    obtain ⟨result, meets⟩ := intersection_isSome (translate_some there).2
      shape contains shown
    rw [visible, Option.bind_some, there, Option.bind_some, meets, inside_some,
      intersection_contains meets]
    exact ⟨contains, shown⟩

/-! ## The pixels that a full frame paints -/

/-- The position in its buffer of the pixel that a full frame paints at a
point of the output. -/
def paintedSource (request : RenderFrameRequest) (output : OutputUpsert)
    (x y : Int) (surfaceId : Nat) : Option (Int × Int) :=
  redrawnSource request output (outputBounds output) x y surfaceId

def paintedStroke (request : RenderFrameRequest) (output : OutputUpsert)
    (x y : Int) (surfaceId : Nat) : Option Stroke :=
  (paintedSource request output x y surfaceId).bind
    (positionStroke request surfaceId)

/-- A full frame is the strokes of its surfaces on a cleared output. -/
theorem full_frame_pixel (valid : ValidScene request output)
    (whole : request.damage = [outputBounds output])
    (complete : (render request).complete = true) {x y : Int}
    (within : (outputBounds output).Contains x y) :
    (render request).frame.pixels x y =
      (request.stackingOrder.filterMap
        (paintedStroke request output x y)).foldl stroke clearPixel := by
  have bounds := outputBounds_valid valid
  have clears : inside ((outputBounds output).intersection
      (outputBounds output)) x y = true := by
    obtain ⟨common, meets⟩ := intersection_isSome bounds bounds within within
    rw [meets, inside_some, intersection_contains meets]
    exact ⟨within, within⟩
  have laid : damagePass request output x y (outputBounds output) =
      { clears := true
        strokes := request.stackingOrder.filterMap
          (paintedStroke request output x y) } := by
    rw [damagePass, clears]
    congr 1
    exact congrArg (List.filterMap · request.stackingOrder)
      (funext (redrawnStroke_source (outputBounds output) x y))
  rw [(render_pixel valid.present complete x y).2, pixelHistory, whole,
    List.map_cons, List.map_nil, laid]
  rfl

/-- The surface paints its own pixels, over the whole of its area and nowhere
else. -/
def PaintsOwnArea (request : RenderFrameRequest) (output : OutputUpsert)
    (surfaceId : Nat) (surface : SurfaceUpsert) : Prop :=
  ∀ x y, (outputBounds output).Contains x y → ∀ position,
    paintedSource request output x y surfaceId = some position ↔
      drawn surface = true ∧ InArea output surface x y ∧
        position = (x - surface.logicalX, y - surface.logicalY)

/-! ## Where the clip origin displaces the surface -/

theorem int32Sum_eq_left {value shift : Int}
    (shiftFits : coordinateFits shift = true)
    (same : int32Sum value shift = value) : shift = 0 := by
  rw [coordinateFits_iff] at shiftFits
  unfold int32Minimum int32Maximum at shiftFits
  have congruent : int32Sum value shift % 4294967296 =
      (value + shift) % 4294967296 := Int.bmod_emod
  omega

/-- Each painted pixel is as far off as the clip origin. -/
theorem surfaceSource_shift {bounds : Rectangle} {surface : SurfaceUpsert}
    {mapping : BufferMapping} {x y : Int} {position : Int × Int}
    (painted : surfaceSource bounds surface mapping x y = some position) :
    position =
      (x - int32Sum surface.logicalX (localRectangle surface).x,
        y - int32Sum surface.logicalY (localRectangle surface).y) := by
  unfold surfaceSource compositeSource at painted
  obtain ⟨sampled, _, painted⟩ := Option.bind_eq_some_iff.mp painted
  obtain ⟨translated, placed, painted⟩ := Option.bind_eq_some_iff.mp painted
  obtain ⟨rfl, _⟩ := translate_some placed
  split at painted
  · rw [← Option.some.inj painted]
    exact Prod.ext (by simp only; omega) (by simp only; omega)
  · cases painted

theorem effectiveBounds_drawn (valid : ValidScene request output)
    (surface : SurfaceUpsert) :
    effectiveBounds surface output =
      if drawn surface then surfaceBounds surface output else none := by
  unfold effectiveBounds drawn
  rw [valid.enabled]
  cases surface.visible <;> cases metadataSurface surface <;>
    by_cases opacity : surface.opacity = 0 <;> simp [opacity]

/-- The clip origin is the origin of what is handed to `composite`. -/
theorem localRectangle_origin {surface : SurfaceUpsert}
    (valid : validSceneSurface surface .historical = true) :
    (localRectangle surface).x = surface.clipX ∧
      (localRectangle surface).y = surface.clipY := by
  unfold localRectangle
  split
  · exact ⟨rfl, rfl⟩
  · rename_i whole
    simp only [validSceneSurface, validClip, whole, Bool.not_false, if_true,
      Bool.and_eq_true, decide_eq_true_eq] at valid
    obtain ⟨_, ⟨⟨x, y⟩, _⟩, _⟩ := valid
    exact ⟨x.symm, y.symm⟩

section

variable {surfaceId : Nat} {surface : SurfaceUpsert}
  (valid : ValidScene request output)
  (found : request.scene.surfaces[surfaceId]? = some surface)

include valid found

theorem paintedSource_hidden (hidden : effectiveBounds surface output = none)
    (x y : Int) : paintedSource request output x y surfaceId = none := by
  have unpainted : redrawn output (outputBounds output) surface = false := by
    rw [effectiveBounds_drawn valid] at hidden
    unfold redrawn
    split at hidden
    · rw [hidden]
      exact Bool.and_false _
    · rename_i undrawn
      rw [Bool.eq_false_iff.mpr undrawn, Bool.false_and]
  unfold paintedSource redrawnSource
  rw [found]
  simp only [Option.bind_eq_bind, Option.bind_some, unpainted,
    Bool.false_eq_true, if_false]
  cases attachedMapping request surfaceId <;> rfl

theorem paintedSource_drawn {mapping : BufferMapping} {bounds : Rectangle}
    (shown : effectiveBounds surface output = some bounds)
    (attached : attachedMapping request surfaceId = some mapping)
    (x y : Int) :
    paintedSource request output x y surfaceId =
      surfaceSource (outputBounds output) surface mapping x y := by
  have painted : redrawn output (outputBounds output) surface = true := by
    rw [effectiveBounds_drawn valid] at shown
    split at shown
    · rename_i drawn
      have meets : (bounds.intersection (outputBounds output)).isSome =
          true := by
        obtain ⟨placed, _, shown⟩ := Option.bind_eq_some_iff.mp shown
        obtain ⟨_, shape, extents, full, _⟩ := intersection_some shown
        have within := (intersection_within shown).2
        rw [intersection_of_within within extents full shape]
        rfl
      rw [redrawn, drawn, shown, Option.bind_some, meets]
      rfl
    · cases shown
  unfold paintedSource redrawnSource
  rw [found, attached]
  simp only [Option.bind_eq_bind, Option.bind_some, painted, if_true]

omit found in
/-- The bounds of a surface hold its upper left painted pixel. -/
theorem effectiveBounds_point {bounds : Rectangle}
    (shown : effectiveBounds surface output = some bounds) :
    drawn surface = true ∧
      inside (surfaceBounds surface output) bounds.x bounds.y = true := by
  rw [effectiveBounds_drawn valid] at shown
  split at shown
  · rename_i drawn
    refine ⟨drawn, ?_⟩
    rw [shown, inside_some]
    obtain ⟨placed, _, shown⟩ := Option.bind_eq_some_iff.mp shown
    obtain ⟨_, _, _, full, _⟩ := intersection_some shown
    simp only [empty, Bool.or_eq_false_iff, decide_eq_false_iff_not] at full
    simp only [Contains, right, bottom]
    omega
  · cases shown

/-- A surface paints its own area with its own pixels if its clip begins at its
origin, or if nothing of it is to be seen. -/
theorem paintsOwnArea_iff (position : Int32Position surface) :
    PaintsOwnArea request output surfaceId surface ↔
      (surface.clipX = 0 ∧ surface.clipY = 0) ∨
        effectiveBounds surface output = none := by
  have surfaceValid := valid.surfaces surfaceId surface found
  have shape := outputBounds_valid valid
  have area : drawn surface = true → ∀ x y,
      inside (surfaceBounds surface output) x y = true ↔
        InArea output surface x y := by
    intro shown
    obtain ⟨mapping, _, buffer⟩ := valid.buffers surfaceId surface found shown
    exact surfaceBounds_contains shape surfaceValid buffer.extent position
  cases shown : effectiveBounds surface output with
  | none =>
      refine iff_of_true (fun x y _ source => ?_) (.inr rfl)
      rw [paintedSource_hidden valid found shown]
      constructor
      · exact fun painted => absurd painted.symm (Option.some_ne_none _)
      · rintro ⟨drawn, within, _⟩
        rw [effectiveBounds_drawn valid, if_pos drawn] at shown
        rw [← area drawn, shown] at within
        cases within
  | some bounds =>
      obtain ⟨drawn, corner⟩ := effectiveBounds_point valid shown
      obtain ⟨mapping, attached, buffer⟩ :=
        valid.buffers surfaceId surface found drawn
      obtain ⟨originX, originY⟩ := localRectangle_origin surfaceValid
      have painted := paintedSource_drawn valid found shown attached
      constructor
      · intro owns
        have within := (area drawn _ _).mp corner
        have own := (owns bounds.x bounds.y within.shown _).mpr
          ⟨drawn, within, rfl⟩
        rw [painted] at own
        obtain ⟨x, y⟩ := Prod.mk.inj (surfaceSource_shift own)
        rw [originX] at x
        rw [originY] at y
        exact .inl
          ⟨@int32Sum_eq_left surface.logicalX _ position.clipX (by omega),
            @int32Sum_eq_left surface.logicalY _ position.clipY (by omega)⟩
      · rintro (⟨x, y⟩ | hidden)
        · intro column row _ source
          have unshifted : Unshifted surface :=
            { x := originX.trans x
              y := originY.trans y
              fitsX := position.logicalX
              fitsY := position.logicalY }
          rw [painted, surfaceSource_unshifted buffer unshifted]
          rw [← area drawn]
          split
          · rename_i within
            rw [Option.some.injEq, eq_comm]
            exact ⟨fun same => ⟨drawn, within, same⟩, fun due => due.2.2⟩
          · rename_i outside
            exact ⟨fun painted => absurd painted.symm (Option.some_ne_none _),
              fun due => absurd due.2.1 outside⟩
        · cases hidden

end

/-- The frame is rendered, from the strokes of its surfaces and nothing else,
and this surface lays its own pixels over its own area. -/
structure RendersOwnArea (request : RenderFrameRequest)
    (output : OutputUpsert) (surfaceId : Nat) (surface : SurfaceUpsert) :
    Prop where
  complete : (render request).complete = true
  pixels : ∀ x y, (outputBounds output).Contains x y →
    (render request).frame.pixels x y =
      (request.stackingOrder.filterMap
        (paintedStroke request output x y)).foldl stroke clearPixel
  own : PaintsOwnArea request output surfaceId surface

/-- A surface whose clip begins at its origin has a place. -/
theorem placed_unshifted {surface : SurfaceUpsert} {mapping : BufferMapping}
    (surfaceValid : validSceneSurface surface .historical = true)
    (buffer : ValidBuffer surface mapping) (position : Int32Position surface)
    (x : surface.clipX = 0) (y : surface.clipY = 0) :
    placed surface mapping = true := by
  obtain ⟨originX, originY⟩ := localRectangle_origin surfaceValid
  unfold placed
  rw [sourceBounds_eq buffer, sampledPart buffer, originX, originY, x, y,
    int32Sum_zero position.logicalX, int32Sum_zero position.logicalY]
  cases visible : visiblePart surface with
  | none => rfl
  | some part =>
      exact visiblePart_placed surfaceValid position buffer.extent visible

/-- A full frame shows each surface over its own area, but for one that has no
place and for a clip that does not begin at the origin of its surface. -/
theorem full_frame_paints_iff (request : RenderFrameRequest)
    (output : OutputUpsert) (valid : ValidScene request output)
    (whole : request.damage = [outputBounds output]) :
    (∀ surfaceId ∈ request.stackingOrder, ∀ surface,
      request.scene.surfaces[surfaceId]? = some surface →
        Int32Position surface →
          (RendersOwnArea request output surfaceId surface ↔
            Placeable request output ∧
              ((surface.clipX = 0 ∧ surface.clipY = 0) ∨
                effectiveBounds surface output = none))) ∧
    ((∀ surfaceId ∈ request.stackingOrder, ∀ surface,
      request.scene.surfaces[surfaceId]? = some surface →
        Int32Position surface ∧ ((surface.clipX = 0 ∧ surface.clipY = 0) ∨
          effectiveBounds surface output = none)) →
        Placeable request output) := by
  have completes := render_complete_iff valid
  constructor
  · intro surfaceId _ surface found position
    rw [← completes, ← paintsOwnArea_iff valid found position]
    constructor
    · exact fun renders => ⟨renders.complete, renders.own⟩
    · rintro ⟨complete, own⟩
      exact ⟨complete,
        fun x y within => full_frame_pixel valid whole complete within, own⟩
  · intro all rectangle damaged id ordered surface mapping found attached shown
    obtain ⟨position, ⟨x, y⟩ | hidden⟩ := all id ordered surface found
    · have drawn := (Bool.and_eq_true_iff.mp shown).1
      obtain ⟨other, isOther, buffer⟩ := valid.buffers id surface found drawn
      rw [attached] at isOther
      obtain rfl := Option.some.inj isOther
      exact placed_unshifted (valid.surfaces id surface found) buffer position
        x y
    · have bare := effectiveBounds_drawn valid surface
      rw [hidden] at bare
      obtain ⟨drawn, meets⟩ := Bool.and_eq_true_iff.mp shown
      rw [if_pos drawn] at bare
      rw [← bare, Option.bind_none] at meets
      cases meets

/-! ## Two pixels of which the clip leaves one -/

/-- The surface of two pixels with one of them clipped. -/
def clippedPair (clipX : Int) : SurfaceUpsert :=
  { pairSurface with
    opacity := opacityOne
    clipping := true
    clipX
    clipWidth := 1
    clipHeight := 1 }

def clippedRequest (clipX : Int) : RenderFrameRequest :=
  { pairRequest 0x00ff00 [{ width := 2, height := 1 }] none with
    scene :=
      { output := some pairOutput
        surfaces := (∅ : KeyMap SurfaceUpsert).insert 10 (clippedPair clipX) } }

theorem clippedRequest_surface {clipX : Int} {id : Nat}
    {surface : SurfaceUpsert}
    (found : (clippedRequest clipX).scene.surfaces[id]? = some surface) :
    id = 10 ∧ surface = clippedPair clipX := by
  simp only [clippedRequest, KeyMap.lookup_insert] at found
  split at found
  · rename_i same
    exact ⟨same.symm, (Option.some.inj found).symm⟩
  · simp at found

theorem clippedRequest_valid {clipX : Int}
    (clip : validSceneSurface (clippedPair clipX) .historical = true) :
    ValidScene (clippedRequest clipX) pairOutput where
  present := rfl
  enabled := rfl
  shape := by decide
  surfaces := by
    intro id surface found
    obtain ⟨_, rfl⟩ := clippedRequest_surface found
    exact clip
  order := by
    intro id ordered
    obtain rfl := List.mem_singleton.mp ordered
    simp [clippedRequest]
  buffers := by
    intro id surface found _
    obtain ⟨rfl, rfl⟩ := clippedRequest_surface found
    refine ⟨pairMapping 0x00ff00 0xff0000, ?_, ?_, rfl, rfl, ?_⟩
    · simp [attachedMapping, clippedRequest, pairRequest]
    · constructor <;> simp [pairMapping, maximumMappingBytes]
    · intro format
      cases format

/-- A clip at the origin of the surface keeps its left pixel. -/
theorem full_frame_paints_left :
    RendersOwnArea (clippedRequest 0) pairOutput 10 (clippedPair 0) := by
  have found : (clippedRequest 0).scene.surfaces[10]? =
      some (clippedPair 0) := by simp [clippedRequest]
  have position : Int32Position (clippedPair 0) := by
    constructor <;> decide
  obtain ⟨each, placeable⟩ := full_frame_paints_iff (clippedRequest 0)
    pairOutput (clippedRequest_valid (by decide)) rfl
  apply (each 10 List.mem_cons_self _ found position).mpr
  refine ⟨placeable ?_, .inl ⟨rfl, rfl⟩⟩
  intro id _ surface present
  obtain ⟨_, rfl⟩ := clippedRequest_surface present
  exact ⟨position, .inl ⟨rfl, rfl⟩⟩

/-- A clip that keeps the right pixel leaves nothing painted. -/
theorem right_pixel_unpainted :
    ValidScene (clippedRequest 1) pairOutput ∧
      (clippedRequest 1).damage = [outputBounds pairOutput] ∧
      surfaceBounds (clippedPair 1) pairOutput =
        some { x := 1, width := 1, height := 1 } ∧
      (render (clippedRequest 1)).complete = true ∧
      (render (clippedRequest 1)).frame.pixels 1 0 = clearPixel ∧
      ¬RendersOwnArea (clippedRequest 1) pairOutput 10 (clippedPair 1) := by
  refine ⟨clippedRequest_valid (by decide), rfl, by decide, by decide,
    by decide, fun renders => ?_⟩
  have painted := (renders.own 1 0 (by decide) (1, 0)).mpr
    ⟨by decide, ⟨by decide, fun _ => by decide, by decide⟩, rfl⟩
  revert painted
  decide

end Glasswyrm.Render
