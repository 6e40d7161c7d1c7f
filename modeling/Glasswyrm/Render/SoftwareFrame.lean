import Glasswyrm.Render.Pixel

namespace Glasswyrm.Render

open Library

def maximumFrameWidth : Nat := 4096
def maximumFrameHeight : Nat := 4096
def maximumFramePixels : Nat := 16777216
def maximumFrameBytes : Nat := 67108864

/-- The vector of pixels is kept as a picture: the word of column `x` and row
`y`, which only means something within the extent. -/
structure SoftwareFrame where
  id : Nat := 0
  width : Nat := 0
  height : Nat := 0
  enabled : Bool := false
  pixels : Raster UInt32 := fun _ _ => 0

namespace SoftwareFrame

def configure (id width height : Nat) : Except String SoftwareFrame :=
  let pixels := width * height
  if id = 0 then .error "headless output ID must be nonzero"
  else if width = 0 || height = 0 || maximumFrameWidth < width ||
      maximumFrameHeight < height then
    .error "headless output dimensions are outside supported limits"
  else if maximumFramePixels < pixels || maximumFrameBytes / 4 < pixels then
    .error "headless framebuffer exceeds supported limits"
  else
    .ok { id, width, height, enabled := true, pixels := fun _ _ => clearPixel }

def visible (frame : SoftwareFrame) : List UInt32 :=
  (List.range frame.height).flatMap fun y =>
    (List.range frame.width).map fun x => frame.pixels x y

theorem configure_ok {id width height : Nat} {frame : SoftwareFrame}
    (configured : configure id width height = .ok frame) :
    frame = { id, width, height, enabled := true,
              pixels := fun _ _ => clearPixel } := by
  unfold configure at configured
  simp only at configured
  split at configured
  · cases configured
  · split at configured
    · cases configured
    · split at configured
      · cases configured
      · exact (Except.ok.inj configured).symm

end SoftwareFrame

/-! ## The hash of the visible pixels -/

def fnvOffset : UInt64 := 14695981039346656037
def fnvPrime : UInt64 := 1099511628211

def appendByte (hash : UInt64) (value : UInt8) : UInt64 :=
  (hash ^^^ value.toUInt64) * fnvPrime

def appendPixel (hash : UInt64) (pixel : UInt32) : UInt64 :=
  appendByte (appendByte (appendByte hash (pixel >>> 16).toUInt8)
    (pixel >>> 8).toUInt8) pixel.toUInt8

def hashVisibleXrgb8888 (pixels : List UInt32) : UInt64 :=
  pixels.foldl appendPixel fnvOffset

def SoftwareFrame.visibleHash (frame : SoftwareFrame) : UInt64 :=
  hashVisibleXrgb8888 frame.visible

end Glasswyrm.Render
