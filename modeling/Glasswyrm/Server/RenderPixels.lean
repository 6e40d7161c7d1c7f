import Glasswyrm.Server.RenderOps
import Mathlib.Tactic.Linarith

namespace Glasswyrm.Server

open Glasswyrm.Geometry

/-! What is read back from the pixels that are written, and what of the memory
is left as it was. -/

/-- What a pixel of a format keeps of a colour. -/
def RenderPixelFormat.held :
    RenderPixelFormat → PremultipliedColor → PremultipliedColor
  | .a1, pixel => { alpha := if 128 ≤ pixel.alpha then 255 else 0 }
  | .a8, pixel => { alpha := pixel.alpha }
  | .xrgb8888, pixel => { pixel with alpha := 255 }
  | .argb8888Premultiplied, pixel => pixel

namespace RenderView

/-- The bytes of a pixel. -/
def Holds (view : RenderView) (x y address : Nat) : Prop :=
  view.pixelAddress x y ≤ address ∧
    address < view.pixelAddress x y + bytesPerPixel view.format

end RenderView

theorem validSurface_stride {view : RenderView}
    (valid : validSurface view = true) :
    view.width * bytesPerPixel view.format ≤ view.stride := by
  simp only [validSurface, Bool.and_eq_true, decide_eq_true_eq] at valid
  exact valid.1.2

/-- A pixel begins after one that stands before it in its row, or in a row
above. -/
theorem RenderView.pixelAddress_lt {view : RenderView}
    (valid : validSurface view = true) {x y x' y' : Nat} (inside : x < view.width)
    (before : y < y' ∨ y = y' ∧ x < x') :
    view.pixelAddress x y + bytesPerPixel view.format ≤
      view.pixelAddress x' y' := by
  have row := validSurface_stride valid
  unfold pixelAddress
  rcases before with above | ⟨rfl, left⟩
  · have column := Nat.mul_le_mul_right (bytesPerPixel view.format)
      (Nat.succ_le_of_lt inside)
    have rows := Nat.mul_le_mul_right view.stride (Nat.succ_le_of_lt above)
    rw [Nat.succ_mul] at column rows
    omega
  · have columns := Nat.mul_le_mul_right (bytesPerPixel view.format)
      (Nat.succ_le_of_lt left)
    rw [Nat.succ_mul] at columns
    omega

/-- No two pixels of a surface share a byte. -/
theorem RenderView.holds_unique {view : RenderView}
    (valid : validSurface view = true) {x y x' y' address : Nat}
    (inside : x < view.width) (inside' : x' < view.width)
    (here : view.Holds x y address) (there : view.Holds x' y' address) :
    x = x' ∧ y = y' := by
  have first : ¬(y < y' ∨ y = y' ∧ x < x') := by
    intro before
    have apart := pixelAddress_lt valid inside before
    exact absurd (Nat.lt_of_lt_of_le here.2 apart) (Nat.not_lt.mpr there.1)
  have second : ¬(y' < y ∨ y' = y ∧ x' < x) := by
    intro before
    have apart := pixelAddress_lt valid inside' before
    exact absurd (Nat.lt_of_lt_of_le there.2 apart) (Nat.not_lt.mpr here.1)
  omega

/-! ## Loads and stores -/

theorem loadPixel_congr {memory other : Memory} {view : RenderView} {x y : Nat}
    (same : ∀ address, view.Holds x y address →
      memory address = other address) :
    loadPixel memory view x y = loadPixel other view x y := by
  have byte : ∀ offset, offset < bytesPerPixel view.format →
      memory (view.pixelAddress x y + offset) =
        other (view.pixelAddress x y + offset) := fun offset within =>
    same _ ⟨Nat.le_add_right _ _, Nat.add_lt_add_left within _⟩
  unfold loadPixel
  dsimp only
  cases format : view.format <;> rw [format] at byte <;>
    simp only [bytesPerPixel] at byte <;> dsimp only
  · have only := byte 0 (by decide)
    rw [Nat.add_zero] at only
    rw [only]
  · have only := byte 0 (by decide)
    rw [Nat.add_zero] at only
    rw [only]
  · have first := byte 0 (by decide)
    rw [Nat.add_zero] at first
    rw [first, byte 1 (by decide), byte 2 (by decide)]
  · have first := byte 0 (by decide)
    rw [Nat.add_zero] at first
    rw [first, byte 1 (by decide), byte 2 (by decide), byte 3 (by decide)]

theorem loadPixel_storePixel (memory : Memory) (view : RenderView) (x y : Nat)
    (pixel : PremultipliedColor) :
    loadPixel (storePixel memory view x y pixel) view x y =
      view.format.held pixel := by
  unfold loadPixel storePixel
  cases view.format with
  | a1 =>
      simp only [RenderPixelFormat.held, Function.update_self]
      by_cases covered : 128 ≤ pixel.alpha <;> simp [covered]
  | a8 => simp [RenderPixelFormat.held]
  | xrgb8888 => simp [RenderPixelFormat.held, storeWord]
  | argb8888Premultiplied => simp [RenderPixelFormat.held, storeWord]

theorem storePixel_elsewhere (memory : Memory) {view : RenderView} {x y : Nat}
    (pixel : PremultipliedColor) {address : Nat}
    (elsewhere : ¬view.Holds x y address) :
    storePixel memory view x y pixel address = memory address := by
  unfold RenderView.Holds at elsewhere
  unfold storePixel
  cases format : view.format <;> rw [format] at elsewhere <;>
    simp only [bytesPerPixel] at elsewhere <;> dsimp only
  · exact Function.update_of_ne (by omega) _ _
  · exact Function.update_of_ne (by omega) _ _
  · unfold storeWord
    simp only [if_neg (show address ≠ view.pixelAddress x y by omega),
      if_neg (show address ≠ view.pixelAddress x y + 1 by omega),
      if_neg (show address ≠ view.pixelAddress x y + 2 by omega),
      if_neg (show address ≠ view.pixelAddress x y + 3 by omega)]
  · unfold storeWord
    simp only [if_neg (show address ≠ view.pixelAddress x y by omega),
      if_neg (show address ≠ view.pixelAddress x y + 1 by omega),
      if_neg (show address ≠ view.pixelAddress x y + 2 by omega),
      if_neg (show address ≠ view.pixelAddress x y + 3 by omega)]

/-- Another pixel of the surface stays. -/
theorem loadPixel_storePixel_other (memory : Memory) {view : RenderView}
    (valid : validSurface view = true) {x y x' y' : Nat}
    (inside : x < view.width) (inside' : x' < view.width)
    (other : ¬(x = x' ∧ y = y')) (pixel : PremultipliedColor) :
    loadPixel (storePixel memory view x' y' pixel) view x y =
      loadPixel memory view x y :=
  loadPixel_congr fun _ here => storePixel_elsewhere memory pixel fun there =>
    other (RenderView.holds_unique valid inside inside' here there)

end Glasswyrm.Server
