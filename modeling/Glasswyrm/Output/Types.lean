import Glasswyrm.Lifecycle.Types

namespace Glasswyrm.Output

inductive OutputTransform
  | normal
  | rotate90
  | rotate180
  | rotate270
  | flipped
  | flipped90
  | flipped180
  | flipped270
deriving DecidableEq, Repr

structure RationalScale where
  numerator : Nat := 1
  denominator : Nat := 1
deriving DecidableEq, Repr

/-- The source's `LogicalRectangle`, also the shape of the window manager's
`Rectangle`. -/
structure LogicalRectangle where
  x : Int := 0
  y : Int := 0
  width : Nat := 0
  height : Nat := 0
deriving DecidableEq, Repr

inductive OutputKind
  | headless
  | drm
deriving DecidableEq, Repr

inductive SdrColorSpace
  | srgb
  | displayP3
deriving DecidableEq, Repr

inductive SdrTransferFunction
  | srgb
  | linear
deriving DecidableEq, Repr

inductive SdrColorPrimaries
  | srgb
  | displayP3
deriving DecidableEq, Repr

structure SdrMetadata where
  colorSpace : SdrColorSpace := .srgb
  transferFunction : SdrTransferFunction := .srgb
  primaries : SdrColorPrimaries := .srgb
  luminanceAvailable : Bool := false
  minimumLuminanceMillinit : Nat := 0
  maximumLuminanceMillinit : Nat := 0
  maxFrameAverageLuminanceMillinit : Nat := 0
deriving DecidableEq, Repr

/-- Names are the bytes of the source's strings. -/
structure OutputMode where
  id : Nat := 0
  outputId : Nat := 0
  physicalWidth : Nat := 0
  physicalHeight : Nat := 0
  refreshMillihertz : Nat := 0
  flags : Nat := 0
  name : List UInt8 := []
  preferred : Bool := false
  current : Bool := false
deriving DecidableEq

structure OutputDescriptor where
  id : Nat := 0
  name : List UInt8 := []
  kind : OutputKind := .headless
  connected : Bool := false
  physicalWidthMm : Nat := 0
  physicalHeightMm : Nat := 0
  supportedTransformMask : Nat := 1
  minimumScale : RationalScale := {}
  maximumScale : RationalScale := { numerator := 4, denominator := 1 }
  maximumScaleDenominator : Nat := 120
  modeConfigurable : Bool := false
  scaleConfigurable : Bool := false
  transformConfigurable : Bool := false
  primaryEligible : Bool := false
  arbitraryHeadlessMode : Bool := false
  maximumPhysicalWidth : Nat := 4096
  maximumPhysicalHeight : Nat := 4096
  maximumPhysicalPixels : Nat := 16777216
  modes : List OutputMode := []
deriving DecidableEq

structure OutputState where
  outputId : Nat := 0
  enabled : Bool := false
  modeId : Nat := 0
  logicalX : Int := 0
  logicalY : Int := 0
  logicalWidth : Nat := 0
  logicalHeight : Nat := 0
  physicalWidth : Nat := 0
  physicalHeight : Nat := 0
  refreshMillihertz : Nat := 0
  scale : RationalScale := {}
  transform : OutputTransform := .normal
  color : SdrMetadata := {}
  primary : Bool := false
  generation : Nat := 0
deriving DecidableEq

structure OutputLayout where
  descriptors : KeyMap OutputDescriptor := ∅
  states : KeyMap OutputState := ∅
  primaryOutputId : Nat := 0
  rootLogicalWidth : Nat := 0
  rootLogicalHeight : Nat := 0
  generation : Nat := 0
  enabledOutputCount : Nat := 0
  outputOrder : List Nat := []
deriving DecidableEq

end Glasswyrm.Output
