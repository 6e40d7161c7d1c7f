import Glasswyrm.Geometry.Rectangle
import Glasswyrm.Server.Window

namespace Glasswyrm.Server

open Library
open Glasswyrm.Geometry (Rectangle intersect intersect_contains intersect_none)

/-! Copying pixels between storages.  Positions in the code are `int32_t` and
come from 16 bits of a request, so that no sum of them leaves 32 bits. -/

/-- The pixels of a storage. -/
def PixelStorage.bounds (storage : PixelStorage) : Rectangle :=
  { width := storage.width, height := storage.height }

def decodePixel (bytes : List UInt8) (offset : Nat) : UInt32 :=
  (bytes.getD offset 0).toUInt32 |||
    ((bytes.getD (offset + 1) 0).toUInt32 <<< 8) |||
    ((bytes.getD (offset + 2) 0).toUInt32 <<< 16) |||
    ((bytes.getD (offset + 3) 0).toUInt32 <<< 24)

/-- The source in the planes of the mask, the destination in the others. -/
def applyPlanes (source destination planeMask : UInt32) : UInt32 :=
  let mask := planeMask &&& 0x00ffffff
  0xff000000 ||| (source &&& mask) ||| (destination &&& ~~~mask &&& 0x00ffffff)

structure RasterResult where
  success : Bool := true
  damage : Rectangle := {}
deriving DecidableEq, Repr

/-- The required size is counted in 64 bits. -/
def requiredBytes (width height : Nat) : Nat := width * height * 4 % 2 ^ 64

def putZPixmap (destination : PixelStorage) (x y : Int) (width height : Nat)
    (pixels : List UInt8) (planeMask : UInt32) : RasterResult × PixelStorage :=
  if requiredBytes width height ≠ pixels.length then
    ({ success := false }, destination)
  else
    match intersect { x, y, width, height } destination.bounds with
    | none => ({}, destination)
    | some clipped =>
        let value (px py : Int) (target : UInt32) : UInt32 :=
          let sourceX := (px - x).toNat
          let sourceY := (py - y).toNat
          applyPlanes (decodePixel pixels ((sourceY * width + sourceX) * 4))
            target planeMask
        ({ damage := clipped },
          { destination with
            pixels := Raster.paint value clipped.x clipped.y clipped.width
              clipped.height destination.pixels })

/-- The storages of the drawables by their identity: source and destination of
a copy may be the same one. -/
abbrev Storages := Nat → PixelStorage

structure AreaCopy where
  source : Nat
  destination : Nat
  sourceX : Int
  sourceY : Int
  width : Nat
  height : Nat
  destinationX : Int
  destinationY : Int
  planeMask : UInt32
deriving DecidableEq, Repr

namespace AreaCopy

def sourceArea (copy : AreaCopy) : Rectangle :=
  { x := copy.sourceX
    y := copy.sourceY
    width := copy.width
    height := copy.height }

/-- Where a part of the source goes. -/
def translated (copy : AreaCopy) (part : Rectangle) : Rectangle :=
  { part with
    x := copy.destinationX + (part.x - copy.sourceX)
    y := copy.destinationY + (part.y - copy.sourceY) }

end AreaCopy

def copyArea (storages : Storages) (copy : AreaCopy) :
    RasterResult × Storages :=
  let source := storages copy.source
  let destination := storages copy.destination
  match intersect copy.sourceArea source.bounds with
  | none => ({}, storages)
  | some copiedSource =>
      let translated := copy.translated copiedSource
      match intersect translated destination.bounds with
      | none => ({}, storages)
      | some copied =>
          let finalSourceX := copiedSource.x + (copied.x - translated.x)
          let finalSourceY := copiedSource.y + (copied.y - translated.y)
          -- every pixel is read before the first one is written
          let scratch := Raster.readBlock finalSourceX finalSourceY copied.width
            copied.height source.pixels
          let value (px py : Int) (target : UInt32) : UInt32 :=
            let index := (py - copied.y).toNat * copied.width +
              (px - copied.x).toNat
            applyPlanes (scratch.getD index 0) target copy.planeMask
          ({ damage := copied },
            Function.update storages copy.destination
              { destination with
                pixels := Raster.paint value copied.x copied.y copied.width
                  copied.height destination.pixels })

/-! ## The points that are written -/

theorem PixelStorage.bounds_contains (storage : PixelStorage) (x y : Int) :
    storage.bounds.Contains x y ↔
      0 ≤ x ∧ x < storage.width ∧ 0 ≤ y ∧ y < storage.height := by
  simp only [bounds, Rectangle.Contains, Rectangle.right, Rectangle.bottom,
    Int.zero_add]

/-- The loop over a rectangle reaches its points. -/
theorem paint_contains (value : Int → Int → UInt32 → UInt32)
    (rectangle : Rectangle) (pixels : Raster UInt32) (x y : Int) :
    Raster.paint value rectangle.x rectangle.y rectangle.width rectangle.height
        pixels x y =
      if rectangle.Contains x y then value x y (pixels x y)
      else pixels x y := by
  rw [Raster.paint_apply]
  rfl

namespace AreaCopy

variable (copy : AreaCopy)

/-- Where the pixel of a point comes from. -/
def sourceXOf (x : Int) : Int := x - copy.destinationX + copy.sourceX

def sourceYOf (y : Int) : Int := y - copy.destinationY + copy.sourceY

/-- The points of the destination that the copy has a pixel for. -/
def Reaches (storages : Storages) (x y : Int) : Prop :=
  (storages copy.destination).bounds.Contains x y ∧
    (storages copy.source).bounds.Contains (copy.sourceXOf x)
      (copy.sourceYOf y) ∧
    copy.sourceArea.Contains (copy.sourceXOf x) (copy.sourceYOf y)

instance (storages : Storages) (x y : Int) :
    Decidable (copy.Reaches storages x y) :=
  inferInstanceAs (Decidable (_ ∧ _ ∧ _))

theorem translated_contains (part : Rectangle) (x y : Int) :
    (copy.translated part).Contains x y ↔
      part.Contains (copy.sourceXOf x) (copy.sourceYOf y) := by
  simp only [translated, sourceXOf, sourceYOf, Rectangle.Contains,
    Rectangle.right, Rectangle.bottom]
  omega

/-- The two clippings leave what the copy reaches. -/
theorem reaches_iff {storages : Storages} {copiedSource copied : Rectangle}
    (isSource : intersect copy.sourceArea (storages copy.source).bounds =
      some copiedSource)
    (isCopied : intersect (copy.translated copiedSource)
      (storages copy.destination).bounds = some copied) (x y : Int) :
    copied.Contains x y ↔ copy.Reaches storages x y := by
  rw [intersect_contains isCopied, translated_contains,
    intersect_contains isSource, Reaches]
  tauto

end AreaCopy

theorem default_contains (x y : Int) :
    ¬({} : Rectangle).Contains x y := by
  rintro ⟨left, right, _⟩
  simp only [Rectangle.right] at left right
  omega

/-- The pixel that is read for a point of the destination. -/
theorem scratch_getD {copied : Rectangle} (left top : Int)
    (pixels : Raster UInt32) {x y : Int} (inside : copied.Contains x y) :
    (Raster.readBlock left top copied.width copied.height pixels).getD
      ((y - copied.y).toNat * copied.width + (x - copied.x).toNat) 0 =
        pixels (left + (x - copied.x)) (top + (y - copied.y)) := by
  obtain ⟨first, last, top', bottom⟩ := inside
  simp only [Rectangle.right, Rectangle.bottom] at last bottom
  have column : ((x - copied.x).toNat : Int) = x - copied.x := by omega
  have row : ((y - copied.y).toNat : Int) = y - copied.y := by omega
  rw [List.getD_eq_getElem?_getD, Raster.readBlock_getElem? left top pixels
    (by omega) (by omega), Option.getD_some, column, row]

theorem copyArea_cases (storages : Storages) (copy : AreaCopy) :
    ((∀ x y, ¬copy.Reaches storages x y) ∧
      copyArea storages copy = ({}, storages)) ∨
    ∃ (copied : Rectangle) (pixels : Raster UInt32),
      (∀ x y, copied.Contains x y ↔ copy.Reaches storages x y) ∧
      (∀ x y, pixels x y = if copy.Reaches storages x y then
        applyPlanes ((storages copy.source).pixels (copy.sourceXOf x)
          (copy.sourceYOf y)) ((storages copy.destination).pixels x y)
            copy.planeMask
        else (storages copy.destination).pixels x y) ∧
      copyArea storages copy = ({ damage := copied },
        Function.update storages copy.destination
          { storages copy.destination with pixels }) := by
  unfold copyArea
  simp only
  split
  · rename_i isSource
    left
    refine ⟨?_, rfl⟩
    rintro x y ⟨_, inside, asked⟩
    exact intersect_none isSource _ _ ⟨asked, inside⟩
  · rename_i copiedSource isSource
    split
    · rename_i isCopied
      left
      refine ⟨?_, rfl⟩
      rintro x y ⟨target, inside, asked⟩
      refine intersect_none isCopied x y ⟨?_, target⟩
      rw [copy.translated_contains, intersect_contains isSource]
      exact ⟨asked, inside⟩
    · rename_i copied isCopied
      have reaches := copy.reaches_iff isSource isCopied
      refine Or.inr ⟨copied, _, reaches, fun x y => ?_, rfl⟩
      rw [paint_contains]
      by_cases inside : copied.Contains x y
      · rw [if_pos inside, if_pos ((reaches x y).mp inside),
          scratch_getD _ _ _ inside]
        congr 2
        · simp only [AreaCopy.translated, AreaCopy.sourceXOf]
          omega
        · simp only [AreaCopy.translated, AreaCopy.sourceYOf]
          omega
      · rw [if_neg inside, if_neg fun there => inside ((reaches x y).mpr there)]

/-- A copy as one assignment: the points that it reaches are combined with the
source as it was, and all others stay. -/
structure AreaCopied (storages : Storages) (copy : AreaCopy)
    (result : RasterResult × Storages) : Prop where
  success : result.1.success = true
  damage : ∀ x y, result.1.damage.Contains x y ↔ copy.Reaches storages x y
  extents : ∀ id, (result.2 id).width = (storages id).width ∧
    (result.2 id).height = (storages id).height
  pixels : ∀ id x y, (result.2 id).pixels x y =
    if id = copy.destination ∧ copy.Reaches storages x y then
      applyPlanes ((storages copy.source).pixels (copy.sourceXOf x)
        (copy.sourceYOf y)) ((storages id).pixels x y) copy.planeMask
    else (storages id).pixels x y

theorem copyArea_copied (storages : Storages) (copy : AreaCopy) :
    AreaCopied storages copy (copyArea storages copy) := by
  rcases copyArea_cases storages copy with
    ⟨nothing, same⟩ | ⟨copied, pixels, reaches, written, same⟩
  · rw [same]
    refine ⟨rfl, fun x y => ?_, fun _ => ⟨rfl, rfl⟩, fun id x y => ?_⟩
    · exact iff_of_false (default_contains x y) (nothing x y)
    · rw [if_neg fun there => nothing x y there.2]
  · rw [same]
    refine ⟨rfl, reaches, fun id => ?_, fun id x y => ?_⟩
    · by_cases here : id = copy.destination
      · subst here
        simp only [Function.update_self, and_self]
      · simp only [Function.update_of_ne here, and_self]
    · by_cases here : id = copy.destination
      · subst here
        simp only [Function.update_self, true_and]
        exact written x y
      · simp only [Function.update_of_ne here, here, false_and, if_false]

/-! ## Data of the client -/

/-- The byte at which the pixel of a point starts. -/
def pixelOffset (x y : Int) (width : Nat) (px py : Int) : Nat :=
  ((py - y).toNat * width + (px - x).toNat) * 4

/-- The points of the destination that the client has a pixel for. -/
def PutReaches (destination : PixelStorage) (x y : Int) (width height : Nat)
    (px py : Int) : Prop :=
  destination.bounds.Contains px py ∧
    ({ x, y, width, height } : Rectangle).Contains px py

instance (destination : PixelStorage) (x y : Int) (width height : Nat)
    (px py : Int) : Decidable (PutReaches destination x y width height px py) :=
  inferInstanceAs (Decidable (_ ∧ _))

/-- The data of a client as one assignment. -/
structure ImagePut (destination : PixelStorage) (x y : Int)
    (width height : Nat) (pixels : List UInt8) (planeMask : UInt32)
    (result : RasterResult × PixelStorage) : Prop where
  success : result.1.success = true
  damage : ∀ px py, result.1.damage.Contains px py ↔
    PutReaches destination x y width height px py
  extent : result.2.width = destination.width ∧
    result.2.height = destination.height
  inside : ∀ px py, PutReaches destination x y width height px py →
    pixelOffset x y width px py + 3 < pixels.length
  pixels : ∀ px py, result.2.pixels px py =
    if PutReaches destination x y width height px py then
      applyPlanes (decodePixel pixels (pixelOffset x y width px py))
        (destination.pixels px py) planeMask
    else destination.pixels px py

/-- The pixels that are read lie in the data of the client. -/
theorem pixelOffset_inside {x y : Int} {width height : Nat}
    {pixels : List UInt8} (whole : requiredBytes width height = pixels.length)
    (small : width * height * 4 < 2 ^ 64) {px py : Int}
    (inside : ({ x, y, width, height } : Rectangle).Contains px py) :
    pixelOffset x y width px py + 3 < pixels.length := by
  obtain ⟨left, right, top, bottom⟩ := inside
  simp only [Rectangle.right, Rectangle.bottom] at left right top bottom
  rw [requiredBytes, Nat.mod_eq_of_lt small] at whole
  rw [← whole, pixelOffset]
  have rows : ((py - y).toNat + 1) * width ≤ height * width :=
    Nat.mul_le_mul_right width (by omega)
  rw [Nat.add_one_mul, Nat.mul_comm height] at rows
  have columns : (px - x).toNat < width := by omega
  omega

theorem putZPixmap_put {destination : PixelStorage} {x y : Int}
    {width height : Nat} {pixels : List UInt8}
    (whole : requiredBytes width height = pixels.length)
    (small : width * height * 4 < 2 ^ 64) (planeMask : UInt32) :
    ImagePut destination x y width height pixels planeMask
      (putZPixmap destination x y width height pixels planeMask) := by
  have data : ∀ px py, PutReaches destination x y width height px py →
      pixelOffset x y width px py + 3 < pixels.length :=
    fun px py reached => pixelOffset_inside whole small reached.2
  unfold putZPixmap
  rw [if_neg (not_not_intro whole)]
  split
  · rename_i apart
    have nothing : ∀ px py,
        ¬PutReaches destination x y width height px py :=
      fun px py both => intersect_none apart px py both.symm
    refine ⟨rfl, fun px py => ?_, ⟨rfl, rfl⟩, data, fun px py => ?_⟩
    · exact iff_of_false (default_contains px py) (nothing px py)
    · rw [if_neg (nothing px py)]
  · rename_i clipped met
    have reached : ∀ px py, clipped.Contains px py ↔
        PutReaches destination x y width height px py :=
      fun px py => (intersect_contains met px py).trans and_comm
    refine ⟨rfl, reached, ⟨rfl, rfl⟩, data, fun px py => ?_⟩
    simp only
    rw [paint_contains]
    simp only [reached]
    rfl

/-- Copies and the data of clients are assigned at once; data of the wrong
size changes nothing. -/
theorem raster_assignment_simultaneous (storages : Storages) (copy : AreaCopy)
    (destination : PixelStorage) (x y : Int) (width height : Nat)
    (pixels : List UInt8) (planeMask : UInt32)
    (small : width * height * 4 < 2 ^ 64) :
    AreaCopied storages copy (copyArea storages copy) ∧
      (pixels.length = width * height * 4 →
        ImagePut destination x y width height pixels planeMask
          (putZPixmap destination x y width height pixels planeMask)) ∧
      (pixels.length ≠ width * height * 4 →
        putZPixmap destination x y width height pixels planeMask =
          ({ success := false }, destination)) := by
  have required : requiredBytes width height = width * height * 4 :=
    Nat.mod_eq_of_lt small
  refine ⟨copyArea_copied storages copy, fun whole => ?_, fun other => ?_⟩
  · exact putZPixmap_put (required.trans whole.symm) small planeMask
  · rw [putZPixmap, required, if_pos (Ne.symm other)]

/-- One pixel of data into a storage of four. -/
theorem raster_assignment_simultaneous_pixel :
    (putZPixmap { width := 2, height := 2, pixels := fun _ _ => 0xff000000 }
      1 1 1 1 [1, 2, 3, 0] 0x00ffffff).2.pixels 1 1 = 0xff030201 := by
  have put := (raster_assignment_simultaneous (fun _ => ⟨1, 1, fun _ _ => 0⟩)
    ⟨0, 0, 0, 0, 1, 1, 0, 0, 0⟩
    { width := 2, height := 2, pixels := fun _ _ => 0xff000000 } 1 1 1 1
    [1, 2, 3, 0] 0x00ffffff (by decide)).2.1 (by decide)
  rw [put.pixels, if_pos (by decide)]
  decide

end Glasswyrm.Server
