import Glasswyrm.Compositor.DamageRegion
import Glasswyrm.Wm.Types

namespace Glasswyrm.Compositor

open Output Wm

/-! The records of the composition contract.  A wire enumeration is an
inductive type, so a decoded record holds one of its known values. -/

def maximumDamageRectangles : Nat := 1024
def opacityOne : Nat := 65536
def maximumOutputPhysicalExtent : Nat := 4096
def maximumOutputPhysicalPixels : Nat := 16777216
def maximumTotalOutputPixels : Nat := 67108864
def maximumRootLogicalWidth : Nat := 32767
def maximumRootLogicalHeight : Nat := 32767
def maximumOutputScaleNumerator : Nat := 4
def maximumOutputScaleDenominator : Nat := 120
def maximumSurfaces : Nat := 4096
def maximumCursorExtent : Nat := 64

def surfacePresentationMetadataOnly : Nat := 1
def surfacePresentationCursor : Nat := 2

inductive ColorSpace
  | srgb
  | displayP3
deriving DecidableEq, Repr

inductive TransferFunction
  | srgb
  | linear
deriving DecidableEq, Repr

inductive ColorPrimaries
  | srgb
  | displayP3
deriving DecidableEq, Repr

structure SdrColorMetadata where
  colorSpace : ColorSpace := .srgb
  transferFunction : TransferFunction := .srgb
  primaries : ColorPrimaries := .srgb
  luminanceAvailable : Bool := false
  minimumLuminanceMillinit : Nat := 0
  maximumLuminanceMillinit : Nat := 0
  maxFrameAverageLuminanceMillinit : Nat := 0
deriving DecidableEq, Repr

structure OutputUpsert where
  outputId : Nat := 0
  enabled : Bool := false
  logicalX : Int := 0
  logicalY : Int := 0
  logicalWidth : Nat := 0
  logicalHeight : Nat := 0
  physicalPixelWidth : Nat := 0
  physicalPixelHeight : Nat := 0
  refreshMillihertz : Nat := 0
  scaleNumerator : Nat := 1
  scaleDenominator : Nat := 1
  transform : OutputTransform := .normal
  color : SdrColorMetadata := {}
deriving DecidableEq, Repr

structure OutputRemove where
  outputId : Nat := 0
deriving DecidableEq, Repr

structure SurfaceUpsert where
  surfaceId : Nat := 0
  x11WindowId : Nat := 0
  parentSurfaceId : Nat := 0
  outputId : Nat := 0
  logicalX : Int := 0
  logicalY : Int := 0
  logicalWidth : Nat := 0
  logicalHeight : Nat := 0
  stacking : Int := 0
  visible : Bool := false
  clipping : Bool := false
  clipX : Int := 0
  clipY : Int := 0
  clipWidth : Nat := 0
  clipHeight : Nat := 0
  transform : OutputTransform := .normal
  opacity : Nat := 0
  scaleNumerator : Nat := 1
  scaleDenominator : Nat := 1
  color : SdrColorMetadata := {}
  presentationFlags : Nat := 0
  fullscreenEligible : TriState := .unknown
  directScanoutEligible : TriState := .unknown
deriving DecidableEq, Repr

structure SurfaceRemove where
  surfaceId : Nat := 0
deriving DecidableEq, Repr

structure SurfacePolicyUpsert where
  surfaceId : Nat := 0
  x11WindowId : Nat := 0
deriving DecidableEq, Repr

inductive SurfaceScaleMode
  | legacy
  | scaledPixmap
deriving DecidableEq, Repr

structure SurfaceOutputState where
  surfaceId : Nat := 0
  primaryOutputId : Nat := 0
  outputIds : List Nat := []
  preferredScaleNumerator : Nat := 0
  preferredScaleDenominator : Nat := 0
  clientBufferScale : Nat := 0
  scaleMode : SurfaceScaleMode := .legacy
  layoutGeneration : Nat := 0
  flags : Nat := 0
deriving DecidableEq, Repr

structure SurfaceDamage where
  surfaceId : Nat := 0
  rectangles : List Rectangle := []
deriving DecidableEq, Repr

structure FrameCommit where
  commitId : Nat := 0
  outputId : Nat := 0
  producerGeneration : Nat := 0
  flags : Nat := 0
deriving DecidableEq, Repr

inductive FrameResult
  | accepted
  | rejectedIncompleteMetadata
  | rejectedInvalidBuffer
  | rejectedUnknownSurface
  | dropped
deriving DecidableEq, Repr

inductive BufferReleaseReason
  | replaced
  | surfaceRemoved
  | consumerDone
  | invalid
deriving DecidableEq, Repr

inductive PixelFormat
  | xrgb8888
  | argb8888
deriving DecidableEq, Repr

inductive AlphaSemantics
  | opaquePixels
  | premultiplied
deriving DecidableEq, Repr

inductive SynchronizationMode
  | none
  | eventfd
deriving DecidableEq, Repr

/-! ## Scenes -/

inductive SceneProfile
  | historical
  | outputModel
deriving DecidableEq, Repr

structure SurfaceOutputMembership where
  primaryOutputId : Nat := 0
  outputIds : List Nat := []
  preferredScaleNumerator : Nat := 0
  preferredScaleDenominator : Nat := 0
  clientBufferScale : Nat := 0
  scaleMode : SurfaceScaleMode := .legacy
  layoutGeneration : Nat := 0
  flags : Nat := 0
deriving DecidableEq, Repr

/-- The field `output` is the historical profile's view of the output set. -/
structure Scene where
  output : Option OutputUpsert := none
  outputs : KeyMap OutputUpsert := ∅
  surfaces : KeyMap SurfaceUpsert := ∅
  surfacePolicies : KeyMap SurfacePolicyUpsert := ∅
  surfaceOutputs : KeyMap SurfaceOutputMembership := ∅
  primaryOutputId : Nat := 0
  configurationGeneration : Nat := 0
deriving DecidableEq

def cursorSurface (surface : SurfaceUpsert) : Bool :=
  surface.presentationFlags = surfacePresentationCursor

def metadataSurface (surface : SurfaceUpsert) : Bool :=
  surface.presentationFlags = surfacePresentationMetadataOnly

/-- The end of the extent is formed in 64 bits. -/
def checkedExtent (origin : Int) (extent : Nat) : Bool :=
  extent ≠ 0 && coordinateFits (origin + extent)

theorem checkedExtent_iff (origin : Int) (extent : Nat) :
    checkedExtent origin extent = true ↔
      extent ≠ 0 ∧ int32Minimum ≤ origin + extent ∧
        origin + extent ≤ int32Maximum := by
  simp [checkedExtent, coordinateFits]

end Glasswyrm.Compositor
