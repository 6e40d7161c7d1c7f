import Glasswyrm.Geometry.Rectangle
import Mathlib.Data.List.Nodup
import Mathlib.Data.Prod.Basic
import Mathlib.Logic.Function.Basic

namespace Glasswyrm.Server

open Glasswyrm.Geometry

/-! Composition of pictures.  The pixels of all pictures are bytes of one
memory, so that a source may be the destination or overlap it. -/

inductive RenderPixelFormat where
  | a1
  | a8
  | xrgb8888
  | argb8888Premultiplied
deriving DecidableEq, Repr

inductive RenderOperator where
  | src
  | over
deriving DecidableEq, Repr

structure PremultipliedColor where
  red : UInt8 := 0
  green : UInt8 := 0
  blue : UInt8 := 0
  alpha : UInt8 := 0
deriving DecidableEq, Repr

/-- A view of a source or of a destination: `size` bytes from an address. -/
structure RenderView where
  format : RenderPixelFormat := .xrgb8888
  width : Nat := 0
  height : Nat := 0
  stride : Nat := 0
  address : Nat := 0
  size : Nat := 0
deriving DecidableEq, Repr

inductive RenderOpStatus where
  | success
  | invalidSurface
  | invalidPremultipliedPixel
  | badAlloc
deriving DecidableEq, Repr

structure RenderOpResult where
  status : RenderOpStatus := .success
  damage : Option Rectangle := none
deriving DecidableEq, Repr

abbrev Memory := Nat → UInt8

def bytesPerPixel : RenderPixelFormat → Nat
  | .a1 => 1
  | .a8 => 1
  | .xrgb8888 => 4
  | .argb8888Premultiplied => 4

def validSurface (view : RenderView) : Bool :=
  let row := view.width * bytesPerPixel view.format
  let required :=
    if view.height = 0 then 0 else (view.height - 1) * view.stride + row
  view.width ≠ 0 && view.height ≠ 0 && row ≤ view.stride &&
    required ≤ view.size

/-! ## Pixels -/

def RenderView.pixelAddress (view : RenderView) (x y : Nat) : Nat :=
  view.address + (y * view.stride + x * bytesPerPixel view.format)

/-- A word has its lowest byte first. -/
def loadPixel (memory : Memory) (view : RenderView) (x y : Nat) :
    PremultipliedColor :=
  let first := view.pixelAddress x y
  match view.format with
  | .a1 => { alpha := if memory first = 0 then 0 else 255 }
  | .a8 => { alpha := memory first }
  | .xrgb8888 =>
      { red := memory (first + 2)
        green := memory (first + 1)
        blue := memory first
        alpha := 255 }
  | .argb8888Premultiplied =>
      { red := memory (first + 2)
        green := memory (first + 1)
        blue := memory first
        alpha := memory (first + 3) }

def storeWord (memory : Memory) (first : Nat) (pixel : PremultipliedColor) :
    Memory :=
  fun address =>
    if address = first then pixel.blue
    else if address = first + 1 then pixel.green
    else if address = first + 2 then pixel.red
    else if address = first + 3 then pixel.alpha
    else memory address

def storePixel (memory : Memory) (view : RenderView) (x y : Nat)
    (pixel : PremultipliedColor) : Memory :=
  let first := view.pixelAddress x y
  match view.format with
  | .a1 =>
      Function.update memory first (if 128 ≤ pixel.alpha then 1 else 0)
  | .a8 => Function.update memory first pixel.alpha
  | .xrgb8888 => storeWord memory first { pixel with alpha := 255 }
  | .argb8888Premultiplied => storeWord memory first pixel

def premultiplied (pixel : PremultipliedColor) : Bool :=
  pixel.red ≤ pixel.alpha && pixel.green ≤ pixel.alpha &&
    pixel.blue ≤ pixel.alpha

def overChannel (source destination sourceAlpha : UInt8) : UInt8 :=
  UInt8.ofNat (min (source.toNat +
    (destination.toNat * (255 - sourceAlpha.toNat) + 127) / 255) 255)

def applyOperator (operation : RenderOperator)
    (source destination : PremultipliedColor) : PremultipliedColor :=
  match operation with
  | .src => source
  | .over =>
      { red := overChannel source.red destination.red source.alpha
        green := overChannel source.green destination.green source.alpha
        blue := overChannel source.blue destination.blue source.alpha
        alpha := overChannel source.alpha destination.alpha source.alpha }

/-! ## Clips and damage -/

/-- An empty clip clips nothing. -/
def visible (clip : List Rectangle) (x y : Int) : Bool :=
  clip.isEmpty || clip.any fun rectangle => rectangle.Contains x y

def unionDamage (current : Option Rectangle) (added : Rectangle) :
    Option Rectangle :=
  if added.empty then current
  else
    match current with
    | none => some added
    | some current =>
        let left := min current.x added.x
        let top := min current.y added.y
        let right := max current.right added.right
        let bottom := max current.bottom added.bottom
        some
          { x := left
            y := top
            width := (right - left).toNat
            height := (bottom - top).toNat }

def clippedDamage (painted : Rectangle) (clip : List Rectangle) :
    Option Rectangle :=
  if clip.isEmpty then some painted
  else
    clip.foldl (fun result rectangle =>
      match intersect painted rectangle with
      | none => result
      | some overlap => unionDamage result overlap) none

structure Mapping where
  destination : Rectangle
  sourceX : Int
  sourceY : Int
deriving DecidableEq, Repr

def clipMapping (destination source : RenderView)
    (sourceX sourceY destinationX destinationY : Int) (width height : Nat) :
    Option Mapping :=
  let left := max (max 0 (-sourceX)) (-destinationX)
  let top := max (max 0 (-sourceY)) (-destinationY)
  let right := min (min (width : Int) (source.width - sourceX))
    (destination.width - destinationX)
  let bottom := min (min (height : Int) (source.height - sourceY))
    (destination.height - destinationY)
  if right ≤ left ∨ bottom ≤ top then none
  else
    some
      { destination :=
          { x := destinationX + left
            y := destinationY + top
            width := (right - left).toNat
            height := (bottom - top).toNat }
        sourceX := sourceX + left
        sourceY := sourceY + top }

/-! ## The operations -/

/-- The offsets of the points of a rectangle, row by row. -/
def cells (width height : Nat) : List (Nat × Nat) :=
  (List.range height).flatMap fun y => (List.range width).map fun x => (x, y)

def sizeMaximum : Nat := 2 ^ 64 - 1

/-- The pixel that a source has for a point, unless it or the one that is there
is malformed. -/
def samplePixel (memory : Memory) (destination source : RenderView)
    (operation : RenderOperator) (mapping : Mapping) (cell : Nat × Nat) :
    Except RenderOpStatus PremultipliedColor :=
  let sourcePixel := loadPixel memory source (mapping.sourceX + cell.1).toNat
    (mapping.sourceY + cell.2).toNat
  if !premultiplied sourcePixel then .error .invalidPremultipliedPixel
  else if operation = .over && !premultiplied (loadPixel memory destination
      (mapping.destination.x + cell.1).toNat
      (mapping.destination.y + cell.2).toNat) then
    .error .invalidPremultipliedPixel
  else .ok sourcePixel

/-- A point of the destination is rewritten from what it holds. -/
def paintPixel (destination : RenderView) (operation : RenderOperator)
    (clip : List Rectangle) (memory : Memory) (x y : Int)
    (source : PremultipliedColor) : Memory :=
  if visible clip x y then
    storePixel memory destination x.toNat y.toNat
      (applyOperator operation source
        (loadPixel memory destination x.toNat y.toNat))
  else memory

/-- All of the source is read before any of the destination is written. -/
def renderComposite (memory : Memory) (destination source : RenderView)
    (operation : RenderOperator)
    (sourceX sourceY destinationX destinationY : Int) (width height : Nat)
    (destinationClip : List Rectangle) : RenderOpResult × Memory :=
  if !validSurface destination || !validSurface source then
    ({ status := .invalidSurface }, memory)
  else
    match clipMapping destination source sourceX sourceY destinationX
        destinationY width height with
    | none => ({}, memory)
    | some mapping =>
        let target := mapping.destination
        if sizeMaximum / 4 < target.width * target.height then
          ({ status := .badAlloc }, memory)
        else
          let visited := cells target.width target.height
          match visited.mapM
              (samplePixel memory destination source operation mapping) with
          | .error status => ({ status }, memory)
          | .ok sampled =>
              ({ damage := clippedDamage target destinationClip },
                (visited.zip sampled).foldl (fun memory entry =>
                  paintPixel destination operation destinationClip memory
                    (target.x + entry.1.1) (target.y + entry.1.2) entry.2)
                  memory)

def RenderView.bounds (view : RenderView) : Rectangle :=
  { width := view.width, height := view.height }

/-- The points of a rectangle that lie within a view, one after the other. -/
def fillPoints (bounds rectangle : Rectangle) : List (Int × Int) :=
  match intersect rectangle bounds with
  | none => []
  | some painted =>
      (cells painted.width painted.height).map fun cell =>
        (painted.x + cell.1, painted.y + cell.2)

/-- The damage of a fill before it is clipped. -/
def fillDamage (bounds : Rectangle) (rectangles : List Rectangle) :
    Option Rectangle :=
  rectangles.foldl (fun damage rectangle =>
    match intersect rectangle bounds with
    | none => damage
    | some painted => unionDamage damage painted) none

def renderFill (memory : Memory) (destination : RenderView)
    (operation : RenderOperator) (color : PremultipliedColor)
    (rectangles destinationClip : List Rectangle) :
    RenderOpResult × Memory :=
  if !validSurface destination then ({ status := .invalidSurface }, memory)
  else if !premultiplied color then
    ({ status := .invalidPremultipliedPixel }, memory)
  else
    let bounds := destination.bounds
    if operation = .over && destination.format = .argb8888Premultiplied &&
        rectangles.any (fun rectangle =>
          (fillPoints bounds rectangle).any fun point =>
            visible destinationClip point.1 point.2 &&
              !premultiplied (loadPixel memory destination point.1.toNat
                point.2.toNat)) then
      ({ status := .invalidPremultipliedPixel }, memory)
    else
      ({ damage := (fillDamage bounds rectangles).bind fun damage =>
          clippedDamage damage destinationClip },
        rectangles.foldl (fun memory rectangle =>
          (fillPoints bounds rectangle).foldl (fun memory point =>
            paintPixel destination operation destinationClip memory point.1
              point.2 color) memory) memory)

end Glasswyrm.Server
