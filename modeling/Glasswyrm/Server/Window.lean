import Glasswyrm.Library.LinkedTree
import Glasswyrm.Library.Raster
import Glasswyrm.Lifecycle.Types

namespace Glasswyrm.Server

open Library
open Lifecycle (WindowClass LifecycleStackMode PolicyWindowType
  PolicyDecoration WindowScaleState SavedWindowGeometry)

/-! ## The pixels of a window -/

def kOpaqueBlack : UInt32 := 0xff000000
def kMaximumDimension : Nat := 16384
def kMaximumBytes : Nat := 67108864

/-- The vector of pixels is kept as a picture, which only means something
within the extent. -/
structure PixelStorage where
  width : Nat
  height : Nat
  pixels : Raster UInt32

/-- A colour of the client is stored opaque. -/
def opaquePixel (pixel : UInt32) : UInt32 :=
  0xff000000 ||| (pixel &&& 0x00ffffff)

namespace PixelStorage

def create (width height : Nat) : Option PixelStorage :=
  if width = 0 || height = 0 || kMaximumDimension < width ||
      kMaximumDimension < height then none
  else if kMaximumBytes / 4 < width * height then none
  else some { width, height, pixels := fun _ _ => kOpaqueBlack }

def resizePreservingOverlap (storage : PixelStorage) (width height : Nat)
    (initial : UInt32) : Option PixelStorage := do
  let result ← create width height
  return { result with
    pixels := fun x y =>
      if 0 ≤ x ∧ x < min storage.width width ∧
          0 ≤ y ∧ y < min storage.height height then storage.pixels x y
      else opaquePixel initial }

end PixelStorage

/-! ## Windows -/

inductive MapState
  | unmapped
  | unviewable
  | viewable
deriving DecidableEq, Repr

inductive BackgroundSource
  | none
  | parentRelative
  | pixel
deriving DecidableEq, Repr

structure WindowAttributes where
  backgroundSource : BackgroundSource := .none
  backgroundPixel : UInt32 := 0
  overrideRedirect : Bool := false
deriving DecidableEq

structure WindowResource where
  parent : Nat := 0
  children : List Nat := []
  x : Int := 0
  y : Int := 0
  width : Nat := 0
  height : Nat := 0
  borderWidth : Nat := 0
  requestedX : Int := 0
  requestedY : Int := 0
  requestedWidth : Nat := 0
  requestedHeight : Nat := 0
  requestedBorderWidth : Nat := 0
  depth : Nat := 0
  windowClass : WindowClass := .inputOutput
  visual : Nat := 0
  mapState : MapState := .unmapped
  mapRequested : Bool := false
  policyVisible : Bool := false
  focused : Bool := false
  stacking : Int := -1
  cleanupPending : Bool := false
  creationSerial : Nat := 0
  mapSerial : Nat := 0
  focusSerial : Nat := 0
  geometrySerial : Nat := 0
  stackSerial : Nat := 0
  stackSibling : Nat := 0
  stackMode : LifecycleStackMode := .none
  attributes : WindowAttributes := {}
  storage : Option PixelStorage := none
  eventSelections : KeyMap Nat := ∅
  transientFor : Nat := 0
  policyWindowType : PolicyWindowType := .normal
  decorationPreference : PolicyDecoration := .unknown
  policyAppliedState : Nat := 1
  policyManaged : Bool := true
  policyDecorationEligible : Bool := true
  policyFullscreenEligible : Nat := 1
  policyDirectScanoutEligible : Nat := 0
  fullscreenRequested : Bool := false
  maximizedRequested : Bool := false
  aboveRequested : Bool := false
  bypassCompositor : Bool := false
  attentionRequested : Bool := false
  inputRequested : Bool := true
  minimumWidth : Nat := 0
  minimumHeight : Nat := 0
  maximumWidth : Nat := 0
  maximumHeight : Nat := 0
  savedNormalGeometry : Option SavedWindowGeometry := none
  assignedOutputId : Nat := 0
  outputMemberships : List Nat := []
  scale : WindowScaleState := {}

structure WindowCreateSpec where
  xid : Nat := 0
  parent : Nat := 0
  x : Int := 0
  y : Int := 0
  width : Nat := 0
  height : Nat := 0
  borderWidth : Nat := 0
  depth : Nat := 0
  windowClass : WindowClass := .copyFromParent
  visual : Nat := 0
  attributeMask : Nat := 0
  initialEventMask : Nat := 0
  attributes : WindowAttributes := {}

namespace WindowResource

/-- The records that make the tree of windows. -/
def link (window : WindowResource) : Link Nat :=
  { parent := window.parent, children := window.children }

/-- What is painted where a window has no pixels of its own. -/
def background (window : WindowResource) : UInt32 :=
  if window.attributes.backgroundSource = .pixel then
    window.attributes.backgroundPixel
  else kOpaqueBlack

end WindowResource

end Glasswyrm.Server
