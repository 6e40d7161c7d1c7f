import Glasswyrm.Drm.DamageCopy
import Glasswyrm.Library.Raster
import Glasswyrm.Render.FrameSet

namespace Glasswyrm.Drm

open Compositor Library Render

structure SoftwareFrameView where
  output : OutputSpec := {}
  pixels : List UInt32 := []
  damage : List Rectangle := []
  commitId : Nat := 0
  generation : Nat := 0
  ordinal : Nat := 0

/-- The words of a frame as the picture they stand for, row by row. -/
def picture (width : Nat) (pixels : List UInt32) : Raster UInt32 :=
  fun x y => pixels.getD (y.toNat * width + x.toNat) 0

/-- What of a word is visible; the topmost byte is not. -/
def rgb (pixel : UInt32) : UInt8 × UInt8 × UInt8 :=
  ((pixel >>> 16).toUInt8, (pixel >>> 8).toUInt8, pixel.toUInt8)

/-- A mapped buffer without the padding of its rows.  The count of the copies
made into it is not the code's. -/
structure DumbBuffer where
  width : Nat
  height : Nat
  pixels : Raster UInt32 := fun _ _ => 0
  completedGeneration : Nat := 0
  contentValid : Bool := false
  writes : Nat := 0

namespace DumbBuffer

def copyFrom (buffer : DumbBuffer) (pixels : List UInt32) :
    Except String DumbBuffer :=
  if buffer.width * buffer.height ≠ pixels.length then
    .error "canonical software frame does not match the DRM dumb buffer"
  else
    .ok { buffer with
      pixels := picture buffer.width pixels
      writes := buffer.writes + 1 }

/-- The rectangle lies on the visible part of the buffer and has an area. -/
def holds (buffer : DumbBuffer) (rectangle : Rectangle) : Bool :=
  !rectangle.empty && 0 ≤ rectangle.x && 0 ≤ rectangle.y &&
    rectangle.right ≤ buffer.width && rectangle.bottom ≤ buffer.height

def copyRectanglesFrom (buffer : DumbBuffer) (pixels : List UInt32)
    (rectangles : List Rectangle) : Except String DumbBuffer :=
  if !buffer.contentValid || buffer.width * buffer.height ≠ pixels.length then
    .error "partial copy requires a valid matching DRM dumb buffer"
  else if !rectangles.all buffer.holds then
    .error "partial DRM copy rectangle exceeds the visible buffer"
  else
    .ok { buffer with
      pixels := rectangles.foldl (fun raster rectangle =>
        raster.paint (fun x y _ => picture buffer.width pixels x y)
          rectangle.x rectangle.y rectangle.width rectangle.height)
        buffer.pixels
      writes := buffer.writes + 1 }

def visible (buffer : DumbBuffer) : List UInt32 :=
  (List.range buffer.height).flatMap fun y =>
    (List.range buffer.width).map fun x => buffer.pixels x y

def visibleHash (buffer : DumbBuffer) : UInt64 :=
  hashVisibleXrgb8888 buffer.visible

def markCompleted (buffer : DumbBuffer) (generation : Nat) : DumbBuffer :=
  { buffer with contentValid := true, completedGeneration := generation }

def invalidateContent (buffer : DumbBuffer) : DumbBuffer :=
  { buffer with contentValid := false, completedGeneration := 0 }

@[simp] theorem visible_markCompleted (buffer : DumbBuffer)
    (generation : Nat) :
    (buffer.markCompleted generation).visible = buffer.visible := rfl

@[simp] theorem visible_invalidateContent (buffer : DumbBuffer) :
    buffer.invalidateContent.visible = buffer.visible := rfl

end DumbBuffer

def firstIndex : Fin 2 := 0

def otherIndex (index : Fin 2) : Fin 2 := 1 - index

structure DumbBufferPair where
  buffers : Fin 2 → DumbBuffer
  frontIndex : Fin 2 := firstIndex

namespace DumbBufferPair

def backIndex (pair : DumbBufferPair) : Fin 2 := otherIndex pair.frontIndex

def front (pair : DumbBufferPair) : DumbBuffer := pair.buffers pair.frontIndex

def back (pair : DumbBufferPair) : DumbBuffer := pair.buffers pair.backIndex

def set (pair : DumbBufferPair) (index : Fin 2) (buffer : DumbBuffer) :
    DumbBufferPair :=
  { pair with
    buffers := fun other => if other = index then buffer else pair.buffers other }

def promoteBack (pair : DumbBufferPair) : DumbBufferPair :=
  { pair with frontIndex := pair.backIndex }

def invalidateContent (pair : DumbBufferPair) : DumbBufferPair :=
  { pair with buffers := fun index => (pair.buffers index).invalidateContent }

@[simp] theorem set_frontIndex (pair : DumbBufferPair) (index : Fin 2)
    (buffer : DumbBuffer) : (pair.set index buffer).frontIndex =
      pair.frontIndex := rfl

@[simp] theorem set_backIndex (pair : DumbBufferPair) (index : Fin 2)
    (buffer : DumbBuffer) : (pair.set index buffer).backIndex =
      pair.backIndex := rfl

@[simp] theorem set_same (pair : DumbBufferPair) (index : Fin 2)
    (buffer : DumbBuffer) : (pair.set index buffer).buffers index = buffer :=
  if_pos rfl

theorem set_other (pair : DumbBufferPair) {index other : Fin 2}
    (apart : other ≠ index) (buffer : DumbBuffer) :
    (pair.set index buffer).buffers other = pair.buffers other :=
  if_neg apart

@[simp] theorem promoteBack_frontIndex (pair : DumbBufferPair) :
    pair.promoteBack.frontIndex = pair.backIndex := rfl

@[simp] theorem promoteBack_buffers (pair : DumbBufferPair) :
    pair.promoteBack.buffers = pair.buffers := rfl

theorem other_index (index : Fin 2) : otherIndex index ≠ index := by
  revert index
  decide

theorem backIndex_ne (pair : DumbBufferPair) :
    pair.backIndex ≠ pair.frontIndex :=
  other_index pair.frontIndex

end DumbBufferPair

end Glasswyrm.Drm
