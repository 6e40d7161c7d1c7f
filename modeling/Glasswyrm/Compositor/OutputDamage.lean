import Glasswyrm.Compositor.Scene
import Glasswyrm.Render.Sampling

namespace Glasswyrm.Compositor

open Output Render

abbrev PhysicalOutputDamage := KeyMap (List Rectangle)

def outputScale (output : OutputUpsert) : RationalScale :=
  { numerator := output.scaleNumerator, denominator := output.scaleDenominator }

def outputMapping (output : OutputUpsert) : OutputMapping :=
  { logicalOrigin := { x := output.logicalX, y := output.logicalY }
    logicalExtent :=
      { width := output.logicalWidth, height := output.logicalHeight }
    physicalExtent :=
      { width := output.physicalPixelWidth
        height := output.physicalPixelHeight }
    scale := outputScale output
    transform := output.transform }

def sameShape (left right : OutputUpsert) : Bool :=
  left.enabled = right.enabled && left.logicalX = right.logicalX &&
    left.logicalY = right.logicalY &&
    left.logicalWidth = right.logicalWidth &&
    left.logicalHeight = right.logicalHeight &&
    left.physicalPixelWidth = right.physicalPixelWidth &&
    left.physicalPixelHeight = right.physicalPixelHeight &&
    left.scaleNumerator = right.scaleNumerator &&
    left.scaleDenominator = right.scaleDenominator &&
    left.transform = right.transform

def sameSurface (left right : SurfaceUpsert) : Bool :=
  left.logicalX = right.logicalX && left.logicalY = right.logicalY &&
    left.logicalWidth = right.logicalWidth &&
    left.logicalHeight = right.logicalHeight &&
    left.stacking = right.stacking && left.visible = right.visible &&
    left.clipping = right.clipping && left.clipX = right.clipX &&
    left.clipY = right.clipY && left.clipWidth = right.clipWidth &&
    left.clipHeight = right.clipHeight && left.opacity = right.opacity &&
    left.scaleNumerator = right.scaleNumerator &&
    left.scaleDenominator = right.scaleDenominator &&
    left.presentationFlags = right.presentationFlags

/-- The logical rectangle that the mapping functions take. -/
def logicalRectangle (rectangle : Rectangle) : LogicalRectangle :=
  { x := rectangle.x
    y := rectangle.y
    width := rectangle.width
    height := rectangle.height }

/-- Native coordinates as those of a damage rectangle. -/
def nativeRectangle (rectangle : PhysicalRectangle) : Rectangle :=
  { x := rectangle.x
    y := rectangle.y
    width := rectangle.width
    height := rectangle.height }

def memberOf (scene : Scene) (surfaceId outputId : Nat) : Bool :=
  (scene.surfaceOutputs[surfaceId]?).any fun membership =>
    membership.outputIds.contains outputId

def footprint (output : OutputUpsert) (surface : SurfaceUpsert) :
    DamageFilterFootprint :=
  match selectSamplingFilter (outputScale output) surface.scaleNumerator with
  | .bilinear => .bilinear
  | _ => .point

/-- The native rectangle that a surface damages on an output. -/
def surfaceDamage (scene : Scene) (surfaceId : Nat) (output : OutputUpsert) :
    Option Rectangle :=
  match scene.surfaces[surfaceId]? with
  | none => none
  | some surface =>
      if !surface.visible || !memberOf scene surfaceId output.outputId then
        none
      else
        (placedPart surface).bind fun bounds =>
          (mapLogicalDamageToNative (outputMapping output)
            (logicalRectangle bounds) (footprint output surface)).map
              nativeRectangle

def addSurface (damage : DamageRegion) (scene : Scene) (surfaceId : Nat)
    (output : OutputUpsert) : DamageRegion :=
  match surfaceDamage scene surfaceId output with
  | none => damage
  | some native => damage.add native

/-- Whether anything about the surface differs between the two scenes. -/
def surfaceChanged (before after : Scene) (contentChanged : List Nat)
    (surfaceId : Nat) : Bool :=
  contentChanged.contains surfaceId ||
    (match before.surfaces[surfaceId]?, after.surfaces[surfaceId]? with
      | some old, some now => !sameSurface old now
      | _, _ => true) ||
    (match before.surfaceOutputs[surfaceId]?,
        after.surfaceOutputs[surfaceId]? with
      | some old, some now => old ≠ now
      | _, _ => true)

def sceneIds (before after : Scene) (contentChanged : List Nat) : List Nat :=
  ((before.surfaces.keys ++ after.surfaces.keys) ++ contentChanged).dedup
    |>.insertionSort (· ≤ ·)

def physicalBounds (output : OutputUpsert) : Rectangle :=
  { width := output.physicalPixelWidth, height := output.physicalPixelHeight }

/-- The region that gathers what changed on an output of unchanged shape. -/
def changedRegion (before after : Scene) (contentChanged : List Nat)
    (previousOutput output : OutputUpsert) : DamageRegion :=
  ((sceneIds before after contentChanged).filter
    (surfaceChanged before after contentChanged)).foldl
    (fun damage surfaceId =>
      addSurface (addSurface damage before surfaceId previousOutput) after
        surfaceId output)
    { outputBounds := physicalBounds output }

def damageOfOutput (before after : Scene) (contentChanged : List Nat)
    (outputId : Nat) (output : OutputUpsert) : Option (List Rectangle) :=
  if !output.enabled then none
  else
    match before.outputs[outputId]? with
    | none =>
        some (DamageRegion.addFullOutput
          { outputBounds := physicalBounds output }).rectangles
    | some previousOutput =>
        if !sameShape previousOutput output then
          some (DamageRegion.addFullOutput
            { outputBounds := physicalBounds output }).rectangles
        else
          let damage :=
            changedRegion before after contentChanged previousOutput output
          if damage.rectangles = [] then none else some damage.rectangles

def calculateOutputDamage (before after : Scene)
    (contentChanged : List Nat) : PhysicalOutputDamage :=
  after.outputs.filterMap (damageOfOutput before after contentChanged)

end Glasswyrm.Compositor
