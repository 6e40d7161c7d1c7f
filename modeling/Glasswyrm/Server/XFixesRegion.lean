import Glasswyrm.Geometry.Rectangle
import Glasswyrm.Library.CheckedInteger
import Glasswyrm.Library.Coalesce
import Glasswyrm.Library.Run
import Mathlib.Data.List.Sort

namespace Glasswyrm.Server.XFixesRegion

open Glasswyrm.Geometry (Rectangle intersect Before)
open Library

/-! Regions are lists of rectangles.  A function on them that answers with no
region is refused; a signed subtraction that leaves 32 bits has no meaning at
all. -/

inductive RegionFault
  | refused
  | overflow
deriving DecidableEq, Repr

def kMaximumXFixesRegionRectangles : Nat := 4096

def int32Maximum : Int := 2147483647

/-! ## The functions on rectangles -/

def valid (rectangle : Rectangle) : Bool :=
  !rectangle.empty && decide (rectangle.right ≤ int32Maximum) &&
    decide (rectangle.bottom ≤ int32Maximum)

/-- A difference of two `std::int32_t`, as an extent. -/
def extentBetween (far near : Int) : Except RegionFault Nat :=
  match int32 (far - near) with
  | some extent => .ok (castUint32 extent)
  | none => .error .overflow

/-- The piece on the near side of an overlap, if there is one. -/
def nearPiece (far near : Int) (piece : Nat → Rectangle) :
    Except RegionFault (List Rectangle) :=
  if near < far then do
    let extent ← extentBetween far near
    pure [piece extent]
  else pure []

def subtractOne (source removed : Rectangle) :
    Except RegionFault (List Rectangle) :=
  match intersect source removed with
  | none => .ok [source]
  | some overlap => do
      let above ← nearPiece overlap.y source.y fun height =>
        { source with height }
      -- The far edges are 64-bit, and so are their differences.
      let below : List Rectangle :=
        if overlap.bottom < source.bottom then
          [{ source with
              y := castInt32 overlap.bottom
              height := castUint32 (source.bottom - overlap.bottom) }]
        else []
      let before ← nearPiece overlap.x source.x fun width =>
        { overlap with x := source.x, width }
      let after : List Rectangle :=
        if overlap.right < source.right then
          [{ overlap with
              x := castInt32 overlap.right
              width := castUint32 (source.right - overlap.right) }]
        else []
      return above ++ below ++ before ++ after

def mergePair (left right : Rectangle) : Option Rectangle :=
  if left.y = right.y ∧ left.height = right.height ∧ left.right = right.x then
    some { left with width := castUint32 (left.width + right.width) }
  else if left.x = right.x ∧ left.width = right.width ∧
      left.bottom = right.y then
    some { left with height := castUint32 (left.height + right.height) }
  else none

def sortRectangles (rectangles : List Rectangle) : List Rectangle :=
  rectangles.insertionSort Before

/-- A fragment cut, with what is left of it put to what is left of those
before; `held` rectangles are already in the destination. -/
def cutFragment (held : Nat) (removed : Rectangle) (next : List Rectangle)
    (fragment : Rectangle) : Except RegionFault (List Rectangle) := do
  let pieces ← subtractOne fragment removed
  if kMaximumXFixesRegionRectangles < (next ++ pieces).length + held then
    .error .refused
  else pure (next ++ pieces)

def cutFragments (held : Nat) (fragments : List Rectangle)
    (removed : Rectangle) : Except RegionFault (List Rectangle) :=
  fragments.foldlM (cutFragment held removed) []

/-- When no fragment is left the source leaves the loop, whose remaining
rounds would do nothing. -/
def fragmentsOutside (destination : List Rectangle) (rectangle : Rectangle) :
    Except RegionFault (List Rectangle) :=
  destination.foldlM (cutFragments destination.length) [rectangle]

def addRectangle (destination : List Rectangle) (rectangle : Rectangle) :
    Except RegionFault (List Rectangle) :=
  if !valid rectangle then
    if rectangle.empty then .ok destination else .error .refused
  else do
    let fragments ← fragmentsOutside destination rectangle
    let merged := sortRectangles (coalesce mergePair (destination ++ fragments))
    if merged.length ≤ kMaximumXFixesRegionRectangles then pure merged
    else .error .refused

def addRectangles (destination rectangles : List Rectangle) :
    Except RegionFault (List Rectangle) :=
  rectangles.foldlM addRectangle destination

/-! ## The algebra -/

def normalizeRegion (rectangles : List Rectangle) :
    Except RegionFault (List Rectangle) :=
  if kMaximumXFixesRegionRectangles < rectangles.length then .error .refused
  else addRectangles [] rectangles

def unionRegions (left right : List Rectangle) :
    Except RegionFault (List Rectangle) := do
  let result ← normalizeRegion left
  addRectangles result right

def overlapWith (first : Rectangle) (intersections : List Rectangle)
    (second : Rectangle) : Except RegionFault (List Rectangle) :=
  match intersect first second with
  | none => pure intersections
  | some overlap => addRectangle intersections overlap

def overlapsWith (right : List Rectangle) (intersections : List Rectangle)
    (first : Rectangle) : Except RegionFault (List Rectangle) :=
  right.foldlM (overlapWith first) intersections

def intersectRegions (left right : List Rectangle) :
    Except RegionFault (List Rectangle) :=
  left.foldlM (overlapsWith right) []

def subtractFrom (result : List Rectangle) (removed : Rectangle) :
    Except RegionFault (List Rectangle) := do
  let next ← cutFragments 0 result removed
  normalizeRegion next

def subtractRegions (left right : List Rectangle) :
    Except RegionFault (List Rectangle) := do
  let result ← normalizeRegion left
  right.foldlM subtractFrom result

def translateRegion (source : List Rectangle) (dx dy : Int) :
    Option (List Rectangle) :=
  source.foldlM
    (fun result rectangle =>
      let x := rectangle.x + dx
      let y := rectangle.y + dy
      if x < -32768 ∨ 32767 < x ∨ y < -32768 ∨ 32767 < y then none
      else some (result ++ [{ rectangle with
        x := castInt32 x
        y := castInt32 y }]))
    []

def regionExtents : List Rectangle → Rectangle
  | [] => {}
  | first :: rest =>
      let rectangles := first :: rest
      let left := rectangles.foldl (fun left r => min left r.x) first.x
      let top := rectangles.foldl (fun top r => min top r.y) first.y
      let right := rectangles.foldl (fun right r => max right r.right)
        first.right
      let bottom := rectangles.foldl (fun bottom r => max bottom r.bottom)
        first.bottom
      { x := castInt32 left
        y := castInt32 top
        width := castUint32 (right - left)
        height := castUint32 (bottom - top) }

end Glasswyrm.Server.XFixesRegion
