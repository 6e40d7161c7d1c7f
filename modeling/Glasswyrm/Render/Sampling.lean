import Glasswyrm.Output.Mapping
import Glasswyrm.Render.Pixel

namespace Glasswyrm.Render

open Compositor Output

inductive SamplingFilter
  | direct
  | nearest
  | bilinear
deriving DecidableEq, Repr

def selectSamplingFilter (outputScale : RationalScale)
    (clientBufferScale : Nat) : SamplingFilter :=
  let clientDenominator := outputScale.denominator * clientBufferScale
  if clientBufferScale = 0 || outputScale.numerator = 0 ||
      outputScale.denominator = 0 then .bilinear
  else if outputScale.numerator = clientDenominator then .direct
  else if clientDenominator < outputScale.numerator &&
      outputScale.numerator % clientDenominator = 0 then .nearest
  else .bilinear

structure FractionFloor where
  whole : Int := 0
  remainder : Nat := 0
deriving DecidableEq, Repr

/-- Division truncates towards zero and is corrected for a negative
remainder. -/
def floorFraction (numerator : Int) (denominator : Nat) : FractionFloor :=
  let whole := numerator.tdiv denominator
  let remainder := numerator.tmod denominator
  if remainder < 0 then
    { whole := whole - 1, remainder := (remainder + denominator).toNat }
  else { whole, remainder := remainder.toNat }

/-- Whether the sampling position lies in the logical rectangle. -/
def samples (point : LogicalSamplePoint) (rectangle : Rectangle) : Bool :=
  rectangle.x * point.denominator ≤ point.xNumerator &&
    point.xNumerator < rectangle.right * point.denominator &&
    rectangle.y * point.denominator ≤ point.yNumerator &&
    point.yNumerator < rectangle.bottom * point.denominator

def premultipliedImage (image : ImageView) : Bool :=
  (List.range image.height).all fun (y : Nat) =>
    (List.range image.width).all fun (x : Nat) =>
      isPremultiplied (image.pixel x y)

def sourceImage (mapping : BufferMapping) (surface : SurfaceUpsert) :
    Except String ImageView :=
  let expectedWidth := surface.logicalWidth * surface.scaleNumerator
  let expectedHeight := surface.logicalHeight * surface.scaleNumerator
  let rowBytes := mapping.width * 4
  let required := (mapping.height - 1) * mapping.stride + rowBytes
  if mapping.width ≠ expectedWidth || mapping.height ≠ expectedHeight then
    .error "surface buffer dimensions do not match its client scale"
  else if mapping.stride < rowBytes || mapping.size < required then
    .error "surface buffer view is invalid"
  else if mapping.pixelFormat = .argb8888 &&
      !premultipliedImage (imageView mapping) then
    .error "ARGB buffer contains a non-premultiplied pixel"
  else .ok (imageView mapping)

def sourcePixel (image : ImageView) (x y : Int) : Pixel :=
  image.pixel (max 0 (min x (image.width - 1)))
    (max 0 (min y (image.height - 1)))

/-- The weights add up to the divisor, so the result is an eight-bit value. -/
def interpolateChannel (first second third fourth : UInt8)
    (xWeight yWeight denominator : Nat) : UInt8 :=
  let inverseX := denominator - xWeight
  let inverseY := denominator - yWeight
  let divisor := denominator * denominator
  let weighted := first.toNat * inverseX * inverseY +
    second.toNat * xWeight * inverseY + third.toNat * inverseX * yWeight +
    fourth.toNat * xWeight * yWeight
  UInt8.ofNat ((weighted + divisor / 2) / divisor)

def sample (image : ImageView) (surface : SurfaceUpsert)
    (point : LogicalSamplePoint) (filter : SamplingFilter) : Pixel :=
  let denominator : Int := point.denominator
  let localX := point.xNumerator - surface.logicalX * denominator
  let localY := point.yNumerator - surface.logicalY * denominator
  let clientScale : Int := surface.scaleNumerator
  if filter ≠ .bilinear then
    sourcePixel image ((localX * clientScale).tdiv denominator)
      ((localY * clientScale).tdiv denominator)
  else
    let fixedDenominator := point.denominator * 2
    let x := floorFraction (localX * clientScale * 2 - denominator)
      fixedDenominator
    let y := floorFraction (localY * clientScale * 2 - denominator)
      fixedDenominator
    let first := sourcePixel image x.whole y.whole
    let second := sourcePixel image (x.whole + 1) y.whole
    let third := sourcePixel image x.whole (y.whole + 1)
    let fourth := sourcePixel image (x.whole + 1) (y.whole + 1)
    let interpolate (channel : Pixel → UInt8) : UInt8 :=
      interpolateChannel (channel first) (channel second) (channel third)
        (channel fourth) x.remainder y.remainder fixedDenominator
    { red := interpolate (·.red)
      green := interpolate (·.green)
      blue := interpolate (·.blue)
      alpha :=
        if image.format = .xrgb8888 then 255 else interpolate (·.alpha) }

end Glasswyrm.Render
