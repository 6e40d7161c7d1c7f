import Glasswyrm.Library.Raster
import Glasswyrm.Compositor.Buffer

namespace Glasswyrm.Render

open Library Compositor

structure Pixel where
  red : UInt8 := 0
  green : UInt8 := 0
  blue : UInt8 := 0
  alpha : UInt8 := 0
deriving DecidableEq, Repr

def unpackXrgb8888 (value : UInt32) : Pixel :=
  { red := (value >>> 16).toUInt8
    green := (value >>> 8).toUInt8
    blue := value.toUInt8
    alpha := 255 }

def unpackArgb8888 (value : UInt32) : Pixel :=
  { red := (value >>> 16).toUInt8
    green := (value >>> 8).toUInt8
    blue := value.toUInt8
    alpha := (value >>> 24).toUInt8 }

def packXrgb8888 (pixel : Pixel) : UInt32 :=
  (0xff000000 : UInt32) ||| (pixel.red.toUInt32 <<< 16) |||
    (pixel.green.toUInt32 <<< 8) ||| pixel.blue.toUInt32

def isPremultiplied (pixel : Pixel) : Bool :=
  pixel.red ≤ pixel.alpha && pixel.green ≤ pixel.alpha &&
    pixel.blue ≤ pixel.alpha

/-! The products below stay under 2 ^ 32. -/

def scale (value : UInt8) (opacity : Nat) : UInt8 :=
  UInt8.ofNat ((value.toNat * min opacity opacityOne + 32768) / 65536)

def overChannel (source destination alpha : UInt8) : UInt8 :=
  UInt8.ofNat (min
    (source.toNat + (destination.toNat * (255 - alpha.toNat) + 127) / 255) 255)

def applyOpacity (source : Pixel) (opacity : Nat) : Pixel :=
  { red := scale source.red opacity
    green := scale source.green opacity
    blue := scale source.blue opacity
    alpha := scale source.alpha opacity }

def sourceOver (source destination : Pixel) : Pixel :=
  { red := overChannel source.red destination.red source.alpha
    green := overChannel source.green destination.green source.alpha
    blue := overChannel source.blue destination.blue source.alpha
    alpha := 255 }

def blend (source destination : Pixel) (opacity : Nat) : Pixel :=
  sourceOver (applyOpacity source opacity) destination

/-- The source's `PixelFormat` of the renderer. -/
inductive ImageFormat
  | xrgb8888
  | argb8888Premultiplied
deriving DecidableEq, Repr

def imageFormat : PixelFormat → ImageFormat
  | .xrgb8888 => .xrgb8888
  | .argb8888 => .argb8888Premultiplied

/-- A source image: its memory by words, as in a mapping. -/
structure ImageView where
  size : Nat := 0
  word : Nat → UInt32 := fun _ => 0
  width : Nat := 0
  height : Nat := 0
  stride : Nat := 0
  format : ImageFormat := .xrgb8888

def ImageView.load (image : ImageView) (x y : Int) : UInt32 :=
  image.word (y.toNat * image.stride + x.toNat * 4)

def ImageView.pixel (image : ImageView) (x y : Int) : Pixel :=
  match image.format with
  | .xrgb8888 => unpackXrgb8888 (image.load x y)
  | .argb8888Premultiplied => unpackArgb8888 (image.load x y)

def validImage (image : ImageView) : Bool :=
  let row := image.width * 4
  let required :=
    if image.height = 0 then 0 else (image.height - 1) * image.stride + row
  image.width ≠ 0 && image.height ≠ 0 && row ≤ image.stride &&
    required ≤ image.size

def imageView (mapping : BufferMapping) : ImageView :=
  { size := mapping.size
    word := mapping.word
    width := mapping.width
    height := mapping.height
    stride := mapping.stride
    format := imageFormat mapping.pixelFormat }

theorem imageView_valid {mapping : BufferMapping}
    (wellformed : mapping.Wellformed) :
    validImage (imageView mapping) = true := by
  obtain ⟨width, height, stride, rows, _⟩ := wellformed
  simp [validImage, imageView, width, height, stride, rows]

/-- One stroke: the premultiplied colour and the opacity it is laid with. -/
structure Stroke where
  source : Pixel := {}
  opacity : Nat := 0
deriving DecidableEq, Repr

/-- The word of a frame after a stroke on it. -/
def stroke (word : UInt32) (stroke : Stroke) : UInt32 :=
  packXrgb8888 (blend stroke.source (unpackXrgb8888 word) stroke.opacity)

def clearPixel : UInt32 := 0xff000000

end Glasswyrm.Render
