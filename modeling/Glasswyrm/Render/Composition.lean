import Glasswyrm.Render.Painting

namespace Glasswyrm.Render

open Library Compositor Compositor.Rectangle

/-! The full composition of a historical scene, and when the incremental
renderer arrives at it. -/

/-- The stroke a surface is due at a point of the output: its own pixel there,
if it is drawn and its clipped bounds contain the point. -/
def dueStroke (request : RenderFrameRequest) (output : OutputUpsert)
    (x y : Int) (surfaceId : Nat) : Option Stroke := do
  let surface ← request.scene.surfaces[surfaceId]?
  let mapping ← attachedMapping request surfaceId
  if drawn surface && inside (surfaceBounds surface output) x y then
    some {
      source := (imageView mapping).pixel (x - surface.logicalX)
        (y - surface.logicalY)
      opacity := surface.opacity }
  else none

def dueStrokes (request : RenderFrameRequest) (output : OutputUpsert)
    (x y : Int) : List Stroke :=
  request.stackingOrder.filterMap (dueStroke request output x y)

def composition (request : RenderFrameRequest) (output : OutputUpsert)
    (x y : Int) : UInt32 :=
  (dueStrokes request output x y).foldl stroke clearPixel

structure ValidBuffer (surface : SurfaceUpsert) (mapping : BufferMapping) :
    Prop where
  wellformed : mapping.Wellformed
  width : mapping.width = surface.logicalWidth
  height : mapping.height = surface.logicalHeight
  premultiplied : mapping.pixelFormat = .argb8888 → ∀ x y,
    (extentRectangle surface).Contains x y →
      isPremultiplied ((imageView mapping).pixel x y) = true

/-- What an accepted commit guarantees of the scene it renders. -/
structure ValidScene (request : RenderFrameRequest) (output : OutputUpsert) :
    Prop where
  present : request.scene.output = some output
  enabled : output.enabled = true
  shape : validSceneOutput output .historical = true
  surfaces : ∀ (id : Nat) surface,
    request.scene.surfaces[id]? = some surface →
    validSceneSurface surface .historical = true
  order : ∀ id ∈ request.stackingOrder, id ∈ request.scene.surfaces
  buffers : ∀ (id : Nat) surface,
    request.scene.surfaces[id]? = some surface →
    drawn surface = true → ∃ mapping,
      attachedMapping request id = some mapping ∧ ValidBuffer surface mapping

/-- The frame holds the full composition of a scene. -/
structure Shows (frame : SoftwareFrame) (scene : RenderFrameRequest)
    (output : OutputUpsert) : Prop where
  id : frame.id = output.outputId
  width : frame.width = output.logicalWidth
  height : frame.height = output.logicalHeight
  pixels : ∀ x y, (outputBounds output).Contains x y →
    frame.pixels x y = composition scene output x y

def DamageCovers (damage : List Rectangle) (x y : Int) : Prop :=
  ∃ rectangle ∈ damage, rectangle.hasValidExtents = true ∧
    rectangle.Contains x y

def RendersComposition (request : RenderFrameRequest)
    (output : OutputUpsert) : Prop :=
  (render request).complete = true ∧
    ∀ x y, (outputBounds output).Contains x y →
      (render request).frame.pixels x y = composition request output x y

/-! ## Where the surfaces are placed -/

/-- `composite` finds a place for the surface, or nothing of it to draw. -/
def placed (surface : SurfaceUpsert) (mapping : BufferMapping) : Bool :=
  match (localRectangle surface).intersection
      (sourceBounds (imageView mapping)) with
  | none => true
  | some sampled =>
      (sampled.translate (int32Sum surface.logicalX (localRectangle surface).x)
        (int32Sum surface.logicalY (localRectangle surface).y)).isSome

def Placeable (request : RenderFrameRequest) (output : OutputUpsert) : Prop :=
  ∀ rectangle ∈ request.damage, ∀ id ∈ request.stackingOrder,
    ∀ surface mapping, request.scene.surfaces[id]? = some surface →
      attachedMapping request id = some mapping →
        redrawn output rectangle surface = true →
          placed surface mapping = true

theorem intersection_inside {left other sampled : Rectangle} {x y : Int}
    (meets : left.intersection other = some sampled)
    (contains : sampled.Contains x y) : other.Contains x y :=
  ((intersection_contains meets x y).mp contains).2

theorem allPremultiplied_of_source {source : ImageView}
    {sourceRectangle sampled translated painted bounds : Rectangle}
    {destinationX destinationY : Int}
    (premultiplied : ∀ x y, (sourceBounds source).Contains x y →
      isPremultiplied (source.pixel x y) = true)
    (sampling : sourceRectangle.intersection (sourceBounds source) =
      some sampled)
    (placing : sampled.translate destinationX destinationY = some translated)
    (painting : translated.intersection bounds = some painted) :
    allPremultiplied source sampled translated painted = true := by
  simp only [allPremultiplied, List.all_eq_true, List.mem_range]
  intro dy lower dx left
  apply premultiplied
  apply intersection_inside sampling
  have within : painted.Contains (painted.x + dx) (painted.y + dy) := by
    simp only [Contains, right, bottom]
    omega
  have moved := ((intersection_contains painting _ _).mp within).1
  rw [translate_contains placing] at moved
  obtain ⟨rfl, _⟩ := translate_some placing
  simp only [Contains, right, bottom] at moved ⊢
  omega

theorem composite_succeeds_iff {frame : SoftwareFrame} {source : ImageView}
    {sourceRectangle : Rectangle} {destinationX destinationY : Int}
    {opacity : Nat} (valid : validImage source = true)
    (extents : sourceRectangle.hasValidExtents = true)
    (premultiplied : source.format = .argb8888Premultiplied → ∀ x y,
      (sourceBounds source).Contains x y →
        isPremultiplied (source.pixel x y) = true) :
    (∃ next, composite frame source sourceRectangle destinationX destinationY
        opacity = .ok next) ↔
      ∀ sampled, sourceRectangle.intersection (sourceBounds source) =
        some sampled →
          (sampled.translate destinationX destinationY).isSome = true := by
  unfold composite
  simp only [valid, extents, Bool.not_true, Bool.or_self, Bool.false_eq_true,
    if_false]
  cases sampling : sourceRectangle.intersection (sourceBounds source) with
  | none => simp
  | some sampled =>
      cases placing : sampled.translate destinationX destinationY with
      | none => simp [placing]
      | some translated =>
          simp only [Option.some.injEq, forall_eq', placing,
            Option.isSome_some, iff_true]
          cases painting : translated.intersection frame.bounds with
          | none => exact ⟨frame, rfl⟩
          | some painted =>
              simp only
              split
              · rename_i broken
                rw [Bool.and_eq_true, decide_eq_true_eq,
                  Bool.not_eq_true'] at broken
                have sound := allPremultiplied_of_source
                  (premultiplied broken.1) sampling placing painting
                rw [broken.2] at sound
                exact absurd sound Bool.false_ne_true
              · exact ⟨_, rfl⟩

theorem validSceneSurface_clip {surface : SurfaceUpsert}
    {profile : SceneProfile} (valid : validSceneSurface surface profile = true)
    (clipping : surface.clipping = true) :
    (clipRectangle surface).hasValidExtents = true := by
  unfold validSceneSurface at valid
  rw [Bool.and_eq_true, validClip, clipping] at valid
  simp only [Bool.not_true, Bool.false_eq_true, if_false, Bool.and_eq_true,
    checkedExtent_iff] at valid
  obtain ⟨_, ⟨_, rightLow, rightHigh⟩, _, bottomLow, bottomHigh⟩ := valid
  rw [hasValidExtents_iff]
  exact ⟨rightLow, rightHigh, bottomLow, bottomHigh⟩

/-- The rows of a mapping bound the extent of its surface. -/
theorem ValidBuffer.extent {surface : SurfaceUpsert} {mapping : BufferMapping}
    (valid : ValidBuffer surface mapping) :
    (extentRectangle surface).hasValidExtents = true := by
  obtain ⟨⟨width, height, stride, rows, size⟩, sameWidth, sameHeight, _⟩ :=
    valid
  rw [sameWidth, sameHeight] at rows
  rw [sameWidth] at stride width
  rw [sameHeight] at height
  have product : surface.logicalHeight - 1 ≤
      (surface.logicalHeight - 1) * mapping.stride :=
    Nat.le_mul_of_pos_right _ (by omega)
  rw [hasValidExtents_iff]
  simp only [extentRectangle, right, bottom, int32Minimum, int32Maximum]
  simp only [maximumMappingBytes] at size
  omega

theorem localRectangle_valid {surface : SurfaceUpsert}
    {mapping : BufferMapping}
    (surfaceValid : validSceneSurface surface .historical = true)
    (buffer : ValidBuffer surface mapping) :
    (localRectangle surface).hasValidExtents = true := by
  unfold localRectangle
  split
  · rename_i clipping
    exact validSceneSurface_clip surfaceValid clipping
  · exact buffer.extent

theorem sourceBounds_eq {surface : SurfaceUpsert} {mapping : BufferMapping}
    (valid : ValidBuffer surface mapping) :
    sourceBounds (imageView mapping) = extentRectangle surface := by
  simp only [sourceBounds, imageView, extentRectangle, valid.width,
    valid.height]

theorem compositeSurface_succeeds_iff (frame : SoftwareFrame)
    {surface : SurfaceUpsert} {mapping : BufferMapping}
    (surfaceValid : validSceneSurface surface .historical = true)
    (buffer : ValidBuffer surface mapping) :
    (∃ next, compositeSurface frame surface mapping = .ok next) ↔
      placed surface mapping = true := by
  unfold compositeSurface placed
  rw [composite_succeeds_iff (imageView_valid buffer.wellformed)
    (localRectangle_valid surfaceValid buffer)]
  · cases (localRectangle surface).intersection
      (sourceBounds (imageView mapping)) <;> simp
  · intro format x y contains
    rw [sourceBounds_eq buffer] at contains
    refine buffer.premultiplied ?_ x y contains
    simp only [imageView, imageFormat] at format
    split at format
    · cases format
    · assumption

end Glasswyrm.Render
