import Glasswyrm.Render.FrameSet

namespace Glasswyrm.Render.MultiOutput

open Library Compositor Output

structure FrameSetRequest where
  sceneModel : SceneModel := {}
  mappings : BufferMappingMap := ∅
  attachments : SurfaceAttachmentMap := ∅
  damage : PhysicalOutputDamage := ∅
  previous : Option SoftwareFrameSet := none
  commitId : Nat := 0
  generation : Nat := 0
  ordinal : Nat := 0

def FrameSetRequest.scene (request : FrameSetRequest) : Scene :=
  request.sceneModel.committed

/-- A rejected frame: how it was rejected, and the error. -/
structure RenderFailure where
  disposition : RenderDisposition := .invalidFrame
  error : String := ""
deriving DecidableEq, Repr

def invalidFrame (error : String) : RenderFailure := { error }

def invalidBuffer (error : String) : RenderFailure :=
  { disposition := .invalidBuffer, error }

/-- The image of a surface.  The source keeps it in a cache for the frame. -/
def loadImage (request : FrameSetRequest) (surface : SurfaceUpsert) :
    Except RenderFailure ImageView :=
  match request.attachments[surface.surfaceId]? with
  | none => .error (invalidBuffer "visible surface has no renderer attachment")
  | some bufferId =>
      match request.mappings[bufferId]? with
      | none =>
          .error (invalidBuffer "renderer attachment has no buffer mapping")
      | some mapping => (sourceImage mapping surface).mapError invalidBuffer

/-- The native pixels that may show the surface on an output, with the logical
rectangle they are sampled from. -/
def shownAt (outputId : Nat) (output : OutputUpsert)
    (surface : SurfaceUpsert) (membership : SurfaceOutputMembership) :
    Option (Rectangle × Rectangle) :=
  if !surface.visible || surface.opacity = 0 || metadataSurface surface ||
      !membership.outputIds.contains outputId then none
  else
    (placedPart surface).bind fun logicalBounds =>
      (mapLogicalRectangleToNative (outputMapping output)
        (logicalRectangle logicalBounds)).map fun physical =>
          (logicalBounds, nativeRectangle physical)

/-- The stroke of the surface at a native pixel: none where the centre of the
pixel falls outside the logical rectangle. -/
def nativeStroke (output : OutputUpsert) (surface : SurfaceUpsert)
    (image : ImageView) (logicalBounds : Rectangle) (x y : Int) :
    Option Stroke :=
  match mapNativePixelCenterToLogical (outputMapping output)
      { x := x.toNat, y := y.toNat } with
  | none => none
  | some logical =>
      if samples logical logicalBounds then
        some {
          source := sample image surface logical
            (selectSamplingFilter (outputScale output) surface.scaleNumerator)
          opacity := surface.opacity }
      else none

/-! The loops write nothing of a frame but its pixels. -/

def renderSurface (request : FrameSetRequest) (outputId : Nat)
    (output : OutputUpsert) (damage : Rectangle) (pixels : Raster UInt32)
    (surface : SurfaceUpsert) (membership : SurfaceOutputMembership) :
    Except RenderFailure (Raster UInt32) :=
  match shownAt outputId output surface membership with
  | none => .ok pixels
  | some (logicalBounds, physicalBounds) =>
      match damage.intersection physicalBounds with
      | none => .ok pixels
      | some painted =>
          (loadImage request surface).map fun image =>
            Raster.paint (fun x y word =>
              (nativeStroke output surface image logicalBounds x y).elim
                word (stroke word))
              painted.x painted.y painted.width painted.height pixels

/-- One round of the loop over the stacking order. -/
def renderStacked (request : FrameSetRequest) (outputId : Nat)
    (output : OutputUpsert) (damage : Rectangle) (pixels : Raster UInt32)
    (surfaceId : Nat) : Except RenderFailure (Raster UInt32) :=
  match request.scene.surfaces[surfaceId]?,
      request.scene.surfaceOutputs[surfaceId]? with
  | some surface, some membership =>
      renderSurface request outputId output damage pixels surface membership
  | _, _ => .ok pixels

def outputSpec (outputId : Nat) (output : OutputUpsert) : OutputSpec :=
  { outputId
    width := output.physicalPixelWidth
    height := output.physicalPixelHeight
    refreshMillihz := output.refreshMillihertz }

def fill (rectangle : Rectangle) (pixels : Raster UInt32) : Raster UInt32 :=
  Raster.paint (fun _ _ _ => clearPixel) rectangle.x rectangle.y
    rectangle.width rectangle.height pixels

def renderRectangle (request : FrameSetRequest) (outputId : Nat)
    (output : OutputUpsert) (pixels : Raster UInt32) (rectangle : Rectangle) :
    Except RenderFailure (Raster UInt32) :=
  if !validDamage (outputSpec outputId output) rectangle then
    .error (invalidFrame "physical damage is outside its output")
  else
    request.sceneModel.stackingOrder.foldlM
      (renderStacked request outputId output rectangle) (fill rectangle pixels)

/-- The frame of the previous set that can be copied. -/
def compatiblePrevious (previous : Option SoftwareFrameSet)
    (output : OutputUpsert) : Option OutputFrameResult :=
  match previous with
  | none => none
  | some frames =>
      if !frames.finalized then none
      else
        (frames.outputs[output.outputId]?).filter fun candidate =>
          candidate.output.width = output.physicalPixelWidth &&
            candidate.output.height = output.physicalPixelHeight &&
            candidate.scale = outputScale output &&
            candidate.transform = output.transform

def frameDamage (request : FrameSetRequest) (outputId : Nat)
    (output : OutputUpsert) : List Rectangle :=
  if (compatiblePrevious request.previous output).isNone then
    [physicalBounds output]
  else (request.damage[outputId]?).getD []

def startPixels (request : FrameSetRequest) (output : OutputUpsert)
    (clear : Raster UInt32) : Raster UInt32 :=
  (compatiblePrevious request.previous output).elim clear (·.frame.pixels)

/-- The result for an output, with the pixels that were rendered. -/
def outputFrame (request : FrameSetRequest) (outputId : Nat)
    (output : OutputUpsert) (frame : SoftwareFrame)
    (pixels : Raster UInt32) : OutputFrameResult :=
  { output := outputSpec outputId output
    logical :=
      { x := output.logicalX
        y := output.logicalY
        width := output.logicalWidth
        height := output.logicalHeight }
    scale := outputScale output
    transform := output.transform
    frame := { frame with pixels }
    damage := frameDamage request outputId output }

def renderOutput (request : FrameSetRequest) (outputId : Nat)
    (output : OutputUpsert) : Except RenderFailure OutputFrameResult :=
  if !(outputMapping output).valid then
    .error (invalidFrame "output has invalid software mapping metadata")
  else
    match SoftwareFrame.configure outputId output.physicalPixelWidth
        output.physicalPixelHeight with
    | .error error => .error (invalidFrame error)
    | .ok frame =>
        let damage := frameDamage request outputId output
        if maximumDamageRectangles < damage.length then
          .error
            (invalidFrame "software output frame exceeds the damage limit")
        else
          (damage.foldlM (renderRectangle request outputId output)
            (startPixels request output frame.pixels)).map
              (outputFrame request outputId output frame)

def stageOutput (request : FrameSetRequest) (frames : SoftwareFrameSet)
    (entry : Nat × OutputUpsert) : Except RenderFailure SoftwareFrameSet :=
  if !entry.2.enabled then .ok frames
  else
    match renderOutput request entry.1 entry.2 with
    | .error failure => .error failure
    | .ok rendered => (frames.append rendered).mapError invalidFrame

/-- The checks made before any output is rendered. -/
def requestError (request : FrameSetRequest) : Option String :=
  firstError [
    (request.sceneModel.profile ≠ .outputModel ||
        !request.sceneModel.initialSnapshotReceived ||
        request.commitId = 0 || request.generation = 0 ||
        request.ordinal = 0 ||
        validateOutputModelScene request.scene ≠ .accepted,
      "renderer requires a committed output-model scene"),
    (request.previous.any (!·.finalized),
      "previous software frame set is not finalized"),
    (!request.damage.keys.all (fun outputId =>
        (request.scene.outputs[outputId]?).any (·.enabled)),
      "physical damage names an unavailable output")]

def render (request : FrameSetRequest) :
    Except RenderFailure SoftwareFrameSet :=
  match requestError request with
  | some error => .error (invalidFrame error)
  | none =>
      match request.scene.outputs.toList.foldlM (stageOutput request) {} with
      | .error failure => .error failure
      | .ok staged =>
          (staged.finalize request.scene.configurationGeneration
            request.scene.primaryOutputId request.commitId
            request.generation request.ordinal).mapError invalidFrame

end Glasswyrm.Render.MultiOutput
