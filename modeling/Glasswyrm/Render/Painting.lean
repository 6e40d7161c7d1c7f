import Glasswyrm.Library.Run
import Glasswyrm.Render.SceneRenderer

namespace Glasswyrm.Render

open Library Compositor Compositor.Rectangle

/-! What the renderer leaves at one pixel: a pass for each damage rectangle,
which clears the pixel or not and lays the strokes of the surfaces it redraws. -/

/-- Whether a rectangle that may not exist contains a point. -/
def inside (rectangle : Option Rectangle) (x y : Int) : Bool :=
  rectangle.any fun rectangle => rectangle.Contains x y

@[simp] theorem inside_none (x y : Int) : inside none x y = false := rfl

@[simp] theorem inside_some (rectangle : Rectangle) (x y : Int) :
    inside (some rectangle) x y = true ↔ rectangle.Contains x y := by
  simp [inside]

theorem paint_rectangle (value : Int → Int → UInt32 → UInt32)
    (rectangle : Rectangle) (pixels : Raster UInt32) (x y : Int) :
    Raster.paint value rectangle.x rectangle.y rectangle.width
        rectangle.height pixels x y =
      if inside (some rectangle) x y then value x y (pixels x y)
      else pixels x y := by
  rw [Raster.paint_apply]
  simp only [inside_some, Contains, right, bottom]

/-- The stroke that `composite` lays at a point, if any. -/
def compositeStroke (bounds : Rectangle) (source : ImageView)
    (sourceRectangle : Rectangle) (destinationX destinationY : Int)
    (opacity : Nat) (x y : Int) : Option Stroke := do
  let sampled ← sourceRectangle.intersection (sourceBounds source)
  let translated ← sampled.translate destinationX destinationY
  if inside (translated.intersection bounds) x y then
    some (strokeAt source sampled translated opacity x y)
  else none

def surfaceStroke (bounds : Rectangle) (surface : SurfaceUpsert)
    (mapping : BufferMapping) (x y : Int) : Option Stroke :=
  compositeStroke bounds (imageView mapping) (localRectangle surface)
    (int32Sum surface.logicalX (localRectangle surface).x)
    (int32Sum surface.logicalY (localRectangle surface).y) surface.opacity x y

/-- The position of the source pixel that `composite` lays at a point. -/
def compositeSource (bounds sourceBounds sourceRectangle : Rectangle)
    (destinationX destinationY : Int) (x y : Int) : Option (Int × Int) := do
  let sampled ← sourceRectangle.intersection sourceBounds
  let translated ← sampled.translate destinationX destinationY
  if inside (translated.intersection bounds) x y then
    some (sampled.x + x - translated.x, sampled.y + y - translated.y)
  else none

def surfaceSource (bounds : Rectangle) (surface : SurfaceUpsert)
    (mapping : BufferMapping) (x y : Int) : Option (Int × Int) :=
  compositeSource bounds (sourceBounds (imageView mapping))
    (localRectangle surface)
    (int32Sum surface.logicalX (localRectangle surface).x)
    (int32Sum surface.logicalY (localRectangle surface).y) x y

/-- The stroke of a source pixel of the surface. -/
def bufferStroke (surface : SurfaceUpsert) (mapping : BufferMapping)
    (position : Int × Int) : Stroke :=
  { source := (imageView mapping).pixel position.1 position.2
    opacity := surface.opacity }

theorem surfaceStroke_source (bounds : Rectangle) (surface : SurfaceUpsert)
    (mapping : BufferMapping) (x y : Int) :
    surfaceStroke bounds surface mapping x y =
      (surfaceSource bounds surface mapping x y).map
        (bufferStroke surface mapping) := by
  unfold surfaceStroke surfaceSource compositeStroke compositeSource
  simp only [Option.bind_eq_bind]
  cases (localRectangle surface).intersection
      (sourceBounds (imageView mapping)) with
  | none => rfl
  | some sampled =>
      simp only [Option.bind_some]
      cases sampled.translate
          (int32Sum surface.logicalX (localRectangle surface).x)
          (int32Sum surface.logicalY (localRectangle surface).y) with
      | none => rfl
      | some translated =>
          simp only [Option.bind_some]
          split <;> rfl

def attachedMapping (request : RenderFrameRequest) (surfaceId : Nat) :
    Option BufferMapping :=
  request.attachments[surfaceId]?.bind (request.mappings[·]?)

/-- Whether the surface is redrawn for the damage rectangle. -/
def redrawn (output : OutputUpsert) (rectangle : Rectangle)
    (surface : SurfaceUpsert) : Bool :=
  drawn surface && ((surfaceBounds surface output).bind
    (·.intersection rectangle)).isSome

def redrawnStroke (request : RenderFrameRequest) (output : OutputUpsert)
    (rectangle : Rectangle) (x y : Int) (surfaceId : Nat) : Option Stroke := do
  let surface ← request.scene.surfaces[surfaceId]?
  let mapping ← attachedMapping request surfaceId
  if redrawn output rectangle surface then
    surfaceStroke (outputBounds output) surface mapping x y
  else none

/-- What one damage rectangle does to a pixel. -/
def damagePass (request : RenderFrameRequest) (output : OutputUpsert)
    (x y : Int) (rectangle : Rectangle) : Pass Stroke :=
  { clears := inside (rectangle.intersection (outputBounds output)) x y
    strokes := request.stackingOrder.filterMap
      (redrawnStroke request output rectangle x y) }

/-! ## The primitives -/

theorem clear_apply (frame : SoftwareFrame) (rectangle : Rectangle)
    (x y : Int) :
    (clear frame rectangle).bounds = frame.bounds ∧
      (clear frame rectangle).pixels x y =
        if inside (rectangle.intersection frame.bounds) x y then clearPixel
        else frame.pixels x y := by
  unfold clear
  cases clipped : rectangle.intersection frame.bounds with
  | none => exact ⟨rfl, rfl⟩
  | some common => exact ⟨rfl, paint_rectangle _ common _ x y⟩

theorem composite_apply {frame next : SoftwareFrame} {source : ImageView}
    {sourceRectangle : Rectangle} {destinationX destinationY : Int}
    {opacity : Nat}
    (composited : composite frame source sourceRectangle destinationX
      destinationY opacity = .ok next) (x y : Int) :
    next.bounds = frame.bounds ∧
      next.pixels x y =
        (compositeStroke frame.bounds source sourceRectangle destinationX
          destinationY opacity x y).elim (frame.pixels x y)
            (stroke (frame.pixels x y)) := by
  unfold composite at composited
  unfold compositeStroke
  split at composited
  · cases composited
  · cases sampling : sourceRectangle.intersection (sourceBounds source) with
    | none =>
        simp only [sampling, Except.ok.injEq] at composited
        subst composited
        exact ⟨rfl, rfl⟩
    | some sampled =>
        simp only [sampling] at composited
        cases placing : sampled.translate destinationX destinationY with
        | none => simp [placing] at composited
        | some translated =>
            simp only [placing] at composited
            simp only [placing, Option.bind_eq_bind, Option.bind_some]
            cases painting : translated.intersection frame.bounds with
            | none =>
                simp only [painting, Except.ok.injEq] at composited
                subst composited
                exact ⟨rfl, rfl⟩
            | some painted =>
                simp only [painting] at composited
                split at composited
                · cases composited
                · obtain rfl := Except.ok.inj composited
                  refine ⟨rfl, ?_⟩
                  simp only
                  rw [paint_rectangle]
                  by_cases covered : inside (some painted) x y = true
                  · simp [covered]
                  · simp [covered]

theorem renderSurface_apply {request : RenderFrameRequest}
    {output : OutputUpsert} {rectangle : Rectangle}
    {frame next : SoftwareFrame} {surfaceId : Nat}
    (shape : frame.bounds = outputBounds output)
    (rendered : renderSurface request output rectangle frame surfaceId =
      .ok next) (x y : Int) :
    next.bounds = outputBounds output ∧
      next.pixels x y =
        (redrawnStroke request output rectangle x y surfaceId).elim
          (frame.pixels x y) (stroke (frame.pixels x y)) := by
  unfold renderSurface at rendered
  unfold redrawnStroke attachedMapping redrawn
  cases found : request.scene.surfaces[surfaceId]? with
  | none => simp [found] at rendered
  | some surface =>
      simp only [found] at rendered
      simp only [Option.bind_eq_bind, Option.bind_some]
      split at rendered
      · rename_i hidden
        obtain rfl := Except.ok.inj rendered
        refine ⟨shape, ?_⟩
        rw [Bool.not_eq_true'] at hidden
        simp only [hidden, Bool.false_and, Bool.false_eq_true, if_false]
        cases (request.attachments[surfaceId]?).bind (request.mappings[·]?) <;>
          rfl
      · split at rendered
        · rename_i apart
          obtain rfl := Except.ok.inj rendered
          refine ⟨shape, ?_⟩
          rw [Option.isNone_iff_eq_none] at apart
          simp only [apart, Option.isSome_none, Bool.and_false,
            Bool.false_eq_true, if_false]
          cases (request.attachments[surfaceId]?).bind
            (request.mappings[·]?) <;> rfl
        · rename_i shown meets
          rw [Bool.not_eq_true', Bool.not_eq_false] at shown
          rw [Option.isNone_iff_eq_none, ← ne_eq, Option.ne_none_iff_isSome]
            at meets
          cases attached : request.attachments[surfaceId]? with
          | none => simp [attached] at rendered
          | some bufferId =>
              simp only [attached] at rendered
              simp only [Option.bind_some]
              cases mapped : request.mappings[bufferId]? with
              | none => simp [mapped] at rendered
              | some mapping =>
                  simp only [mapped] at rendered
                  simp only [shown, meets, Bool.and_self, if_true,
                    Option.bind_some]
                  split at rendered
                  · rename_i composed composited
                    obtain rfl := Except.ok.inj rendered
                    rw [← shape]
                    exact composite_apply composited x y
                  · cases rendered
                  · cases rendered

/-! ## The loops -/

theorem renderRectangle_apply {request : RenderFrameRequest}
    {output : OutputUpsert} {rectangle : Rectangle}
    {frame next : SoftwareFrame} (shape : frame.bounds = outputBounds output)
    (rendered : renderRectangle request output frame rectangle = .ok next)
    (x y : Int) :
    next.bounds = outputBounds output ∧
      next.pixels x y = lay stroke clearPixel (frame.pixels x y)
        (damagePass request output x y rectangle) := by
  obtain ⟨clearedShape, cleared⟩ := clear_apply frame rectangle x y
  obtain ⟨nextShape, observed⟩ := foldlM_observes _
    (fun frame : SoftwareFrame => frame.pixels x y)
    (fun word surfaceId =>
      (redrawnStroke request output rectangle x y surfaceId).elim word
        (stroke word))
    (fun state _ _ kept taken => renderSurface_apply kept taken x y)
    (clearedShape.trans shape) rendered
  refine ⟨nextShape, ?_⟩
  rw [observed, cleared, shape]
  simp only [lay, damagePass, List.foldl_filterMap]
  congr 1
  funext word surfaceId
  cases redrawnStroke request output rectangle x y surfaceId <;> rfl

/-- The pixels the rendering starts from count as cleared unless the previous
frame was copied. -/
def copied (request : RenderFrameRequest) (output : OutputUpsert) : Bool :=
  request.previous.any fun previous =>
    previous.enabled && previous.id = output.outputId &&
      previous.width = output.logicalWidth &&
      previous.height = output.logicalHeight

/-- Everything that happens to a pixel, oldest first. -/
def pixelHistory (request : RenderFrameRequest) (output : OutputUpsert)
    (x y : Int) : List (Pass Stroke) :=
  { clears := !copied request output, strokes := [] } ::
    request.damage.map (damagePass request output x y)

def previousPixel (request : RenderFrameRequest) (x y : Int) : UInt32 :=
  request.previous.elim clearPixel fun previous => previous.pixels x y

theorem startFrame_apply (request : RenderFrameRequest)
    (output : OutputUpsert) (x y : Int) :
    let frame : SoftwareFrame :=
      { id := output.outputId
        width := output.logicalWidth
        height := output.logicalHeight
        enabled := true
        pixels := fun _ _ => clearPixel }
    (startFrame request frame).bounds = outputBounds output ∧
      (startFrame request frame).pixels x y =
        if copied request output then previousPixel request x y
        else clearPixel := by
  intro frame
  unfold startFrame copied previousPixel
  cases request.previous with
  | none => exact ⟨rfl, rfl⟩
  | some previous =>
      simp only [Option.any_some, Option.elim_some]
      split
      · rename_i same
        exact ⟨rfl, rfl⟩
      · rename_i different
        exact ⟨rfl, rfl⟩

/-- A complete frame holds, at every pixel, what the history of the pixel
leaves on the previous colour. -/
theorem render_pixel {request : RenderFrameRequest} {output : OutputUpsert}
    (present : request.scene.output = some output)
    (complete : (render request).complete = true) (x y : Int) :
    (render request).frame.bounds = outputBounds output ∧
      (render request).frame.pixels x y =
        lay stroke clearPixel (previousPixel request x y)
          (residue (pixelHistory request output x y)) := by
  unfold render at complete ⊢
  simp only [present] at complete ⊢
  split at complete
  · simp [RenderFrameResult.complete] at complete
  · rename_i enabled
    simp only [enabled, Bool.false_eq_true, if_false]
    cases configured : SoftwareFrame.configure output.outputId
        output.logicalWidth output.logicalHeight with
    | error error =>
        simp [configured, RenderFrameResult.complete] at complete
    | ok frame =>
        simp only [configured] at complete ⊢
        obtain rfl := SoftwareFrame.configure_ok configured
        obtain ⟨startShape, started⟩ := startFrame_apply request output x y
        cases finished : request.damage.foldlM (renderRectangle request output)
            (startFrame request _) with
        | error error =>
            simp [finished, RenderFrameResult.complete] at complete
        | ok final =>
            simp only
            obtain ⟨finalShape, observed⟩ := foldlM_observes _
              (fun frame : SoftwareFrame => frame.pixels x y)
              (fun word rectangle => lay stroke clearPixel word
                (damagePass request output x y rectangle))
              (fun state _ _ kept taken =>
                renderRectangle_apply kept taken x y)
              startShape finished
            refine ⟨finalShape, ?_⟩
            rw [observed, ← foldl_lay_residue, pixelHistory,
              List.foldl_cons, List.foldl_map, started]
            congr 1
            simp only [lay, List.foldl_nil]
            cases copied request output <;> rfl

end Glasswyrm.Render
