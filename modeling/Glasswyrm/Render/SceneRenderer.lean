import Glasswyrm.Compositor.Scene
import Glasswyrm.Render.SoftwareFrame

namespace Glasswyrm.Render

open Library Compositor Compositor.Rectangle

inductive RenderDisposition
  | complete
  | invalidFrame
  | invalidBuffer
  | fatal
deriving DecidableEq, Repr

abbrev BufferMappingMap := KeyMap BufferMapping
abbrev SurfaceAttachmentMap := KeyMap Nat

structure RenderFrameRequest where
  scene : Scene := {}
  stackingOrder : List Nat := []
  mappings : BufferMappingMap := ∅
  attachments : SurfaceAttachmentMap := ∅
  damage : List Rectangle := []
  previous : Option SoftwareFrame := none
  commitId : Nat := 0
  generation : Nat := 0
  ordinal : Nat := 0

structure RenderFrameResult where
  disposition : RenderDisposition := .invalidFrame
  frame : SoftwareFrame := {}
  error : String := ""

def RenderFrameResult.complete (result : RenderFrameResult) : Bool :=
  result.disposition = .complete

/-! ## The scalar primitives -/

inductive RenderResult
  | success
  | invalidView
  | invalidPremultipliedPixel
deriving DecidableEq, Repr

def SoftwareFrame.bounds (frame : SoftwareFrame) : Rectangle :=
  { width := frame.width, height := frame.height }

/-- The framebuffer of a configured frame is always a valid view. -/
def clear (frame : SoftwareFrame) (rectangle : Rectangle) : SoftwareFrame :=
  match rectangle.intersection frame.bounds with
  | none => frame
  | some clipped =>
      { frame with
        pixels := Raster.paint (fun _ _ _ => clearPixel) clipped.x clipped.y
          clipped.width clipped.height frame.pixels }

def sourceBounds (source : ImageView) : Rectangle :=
  { width := source.width, height := source.height }

/-- The stroke that a source pixel lays at a point, when the sampled rectangle
has been translated to its destination. -/
def strokeAt (source : ImageView) (sampled translated : Rectangle)
    (opacity : Nat) (x y : Int) : Stroke :=
  { source := source.pixel (sampled.x + x - translated.x)
      (sampled.y + y - translated.y)
    opacity }

/-- The first loop of `composite`. -/
def allPremultiplied (source : ImageView) (sampled translated painted :
    Rectangle) : Bool :=
  (List.range painted.height).all fun (dy : Nat) =>
    (List.range painted.width).all fun (dx : Nat) =>
      isPremultiplied (strokeAt source sampled translated 0 (painted.x + dx)
        (painted.y + dy)).source

def composite (frame : SoftwareFrame) (source : ImageView)
    (sourceRectangle : Rectangle) (destinationX destinationY : Int)
    (opacity : Nat) : Except RenderResult SoftwareFrame :=
  if !validImage source || !sourceRectangle.hasValidExtents then
    .error .invalidView
  else
    match sourceRectangle.intersection (sourceBounds source) with
    | none => .ok frame
    | some sampled =>
        match sampled.translate destinationX destinationY with
        | none => .error .invalidView
        | some translated =>
            match translated.intersection frame.bounds with
            | none => .ok frame
            | some painted =>
                if source.format = .argb8888Premultiplied &&
                    !allPremultiplied source sampled translated painted then
                  .error .invalidPremultipliedPixel
                else
                  .ok { frame with
                    pixels := Raster.paint (fun x y word =>
                      stroke word
                        (strokeAt source sampled translated opacity x y))
                      painted.x painted.y painted.width painted.height
                      frame.pixels }

/-! ## The renderer -/

/-- A sum of two `int32_t` values, kept to 32 bits. -/
def int32Sum (left right : Int) : Int :=
  Int.bmod (left + right) 4294967296

/-- What the renderer draws at all. -/
def drawn (surface : SurfaceUpsert) : Bool :=
  surface.visible && surface.opacity ≠ 0 && !metadataSurface surface

/-- The rectangle handed to `composite`: the clip when there is one. -/
def localRectangle (surface : SurfaceUpsert) : Rectangle :=
  if surface.clipping then clipRectangle surface else extentRectangle surface

def compositeSurface (frame : SoftwareFrame) (surface : SurfaceUpsert)
    (mapping : BufferMapping) : Except RenderResult SoftwareFrame :=
  composite frame (imageView mapping) (localRectangle surface)
    (int32Sum surface.logicalX (localRectangle surface).x)
    (int32Sum surface.logicalY (localRectangle surface).y) surface.opacity

def renderSurface (request : RenderFrameRequest) (output : OutputUpsert)
    (rectangle : Rectangle) (frame : SoftwareFrame) (surfaceId : Nat) :
    Except String SoftwareFrame :=
  match request.scene.surfaces[surfaceId]? with
  | none => .error "renderer stacking order is invalid"
  | some surface =>
      if !drawn surface then .ok frame
      else if ((surfaceBounds surface output).bind
          (·.intersection rectangle)).isNone then .ok frame
      else
        match request.attachments[surfaceId]? with
        | none => .error "visible surface has no renderer attachment"
        | some bufferId =>
            match request.mappings[bufferId]? with
            | none => .error "renderer attachment has no buffer mapping"
            | some mapping =>
                match compositeSurface frame surface mapping with
                | .ok frame => .ok frame
                | .error .invalidPremultipliedPixel =>
                    .error "ARGB buffer contains a non-premultiplied pixel"
                | .error _ => .error "buffer view is invalid"

def renderRectangle (request : RenderFrameRequest) (output : OutputUpsert)
    (frame : SoftwareFrame) (rectangle : Rectangle) :
    Except String SoftwareFrame :=
  request.stackingOrder.foldlM (renderSurface request output rectangle)
    (clear frame rectangle)

/-- The previous pixels are kept when the frame has the same shape. -/
def startFrame (request : RenderFrameRequest) (frame : SoftwareFrame) :
    SoftwareFrame :=
  match request.previous with
  | some previous =>
      if previous.enabled && previous.id = frame.id &&
          previous.width = frame.width && previous.height = frame.height then
        { frame with pixels := previous.pixels }
      else frame
  | none => frame

def render (request : RenderFrameRequest) : RenderFrameResult :=
  match request.scene.output with
  | none => { error := "renderer requires one enabled output" }
  | some output =>
      if !output.enabled then
        { error := "renderer requires one enabled output" }
      else
        match SoftwareFrame.configure output.outputId output.logicalWidth
            output.logicalHeight with
        | .error error => { error }
        | .ok frame =>
            match request.damage.foldlM (renderRectangle request output)
                (startFrame request frame) with
            | .error error => { disposition := .invalidBuffer, error }
            | .ok frame => { disposition := .complete, frame }

end Glasswyrm.Render
