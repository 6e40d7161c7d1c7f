import Glasswyrm.Wm.Policy

namespace Glasswyrm.Wm

open Lifecycle Output

/-! Assignment of windows to outputs and placement in the work area of the
assigned output. -/

/-! ## Assignment -/

structure OutputSelection where
  geometry : Rectangle := {}
  inheritedOutputId : Nat := 0
  previousOutputId : Nat := 0
  preferredOutputId : Nat := 0
  retainPrevious : Bool := false
deriving DecidableEq, Repr

def enabledOutput (outputs : KeyMap OutputContext) (id : Nat) : Bool :=
  outputs[id]?.any (·.enabled)

def intersectionArea (left right : Rectangle) : Nat :=
  let width := max 0 (min (left.x + left.width) (right.x + right.width) -
    max left.x right.x)
  let height := max 0 (min (left.y + left.height) (right.y + right.height) -
    max left.y right.y)
  width.toNat * height.toNat

def intersectsAny (outputs : KeyMap OutputContext) (geometry : Rectangle) :
    Bool :=
  outputs.toList.any fun (_, output) =>
    output.enabled && intersectionArea output.logical geometry ≠ 0

/-- The largest area met so far with the outputs that reach it. -/
structure AreaTie where
  maximumArea : Nat := 0
  tied : List Nat := []
deriving DecidableEq, Repr

def AreaTie.consider (geometry : Rectangle) (best : AreaTie)
    (entry : Nat × OutputContext) : AreaTie :=
  if !entry.2.enabled then best
  else
    let area := intersectionArea geometry entry.2.logical
    if area > best.maximumArea then { maximumArea := area, tied := [entry.1] }
    else if area = best.maximumArea then
      { best with tied := best.tied ++ [entry.1] }
    else best

def largestOutputs (outputs : KeyMap OutputContext) (geometry : Rectangle) :
    AreaTie :=
  outputs.toList.foldl (AreaTie.consider geometry) {}

def AreaTie.contains (best : AreaTie) (id : Nat) : Bool :=
  id ≠ 0 && best.tied.contains id

def AreaTie.choose (best : AreaTie) (previous preferred primary : Nat) : Nat :=
  if best.contains previous then previous
  else if best.contains preferred then preferred
  else if best.contains primary then primary
  else best.tied.headD 0

def selectOutput (outputs : KeyMap OutputContext) (primaryOutputId : Nat)
    (selection : OutputSelection) : Nat :=
  if enabledOutput outputs selection.inheritedOutputId then
    selection.inheritedOutputId
  else if selection.retainPrevious &&
      enabledOutput outputs selection.previousOutputId then
    selection.previousOutputId
  else
    (largestOutputs outputs selection.geometry).choose
      selection.previousOutputId selection.preferredOutputId primaryOutputId

/-! ## Geometry -/

def visibleCoordinate (coordinate outputOrigin : Int)
    (outputExtent windowExtent : Nat) : Int :=
  toInt32 (clamp coordinate (outputOrigin - windowExtent + 1)
    (outputOrigin + outputExtent - 1))

def clampToOutput (logical geometry : Rectangle) : Rectangle :=
  { geometry with
    x := visibleCoordinate geometry.x logical.x logical.width geometry.width
    y := visibleCoordinate geometry.y logical.y logical.height
      geometry.height }

def retainVisiblePixel (outputs : KeyMap OutputContext)
    (assignedOutputId : Nat) (geometry : Rectangle) : Rectangle :=
  if intersectsAny outputs geometry then geometry
  else
    match outputs[assignedOutputId]? with
    | none => geometry
    | some output =>
        if !output.enabled then geometry
        else clampToOutput output.logical geometry

def initialPlacement (output : OutputContext) (width height cascadeSlot : Nat) :
    Rectangle :=
  let placedWidth := min width output.work.width
  let placedHeight := min height output.work.height
  { x := output.work.x +
      cascadeOffset cascadeSlot (output.work.width - placedWidth)
    y := output.work.y +
      cascadeOffset cascadeSlot (output.work.height - placedHeight)
    width := placedWidth
    height := placedHeight }

def fullscreenGeometry (output : OutputContext) : Rectangle := output.work

def maximizeGeometry (output : OutputContext) : Rectangle := output.work

/-! ## Windows -/

def requestedGeometry (window : RawWindow) : Rectangle where
  x := window.requestedX
  y := window.requestedY
  width := window.requestedWidth
  height := window.requestedHeight

def hintFor (raw : RawState) (id : Nat) : WindowOutputHint :=
  raw.outputHints[id]?.getD {}

def RawState.output (raw : RawState) (id : Nat) : OutputContext :=
  raw.outputs[id]?.getD {}

def initialOutput (raw : RawState) (hint : WindowOutputHint) : Nat :=
  if enabledOutput raw.outputs hint.preferredOutputId then
    hint.preferredOutputId
  else if enabledOutput raw.outputs raw.context.outputId then
    raw.context.outputId
  else
    ((raw.outputs.toList.find? fun (_, output) => output.enabled).map
      (·.1)).getD 0

def cascadeCandidate (window : RawWindow) : Bool :=
  !window.overrideRedirect && window.transientFor = 0 &&
    window.geometrySerial = 0 && appliedState window = .normal &&
    cascades window

def rootSelection (window : RawWindow) (hint : WindowOutputHint) :
    OutputSelection where
  geometry := requestedGeometry window
  inheritedOutputId := 0
  previousOutputId := hint.previousOutputId
  preferredOutputId := hint.preferredOutputId
  retainPrevious :=
    appliedState window = .fullscreen || appliedState window = .maximized

def assignRoot (raw : RawState) (window : RawWindow)
    (hint : WindowOutputHint) : Nat :=
  if cascadeCandidate window then initialOutput raw hint
  else selectOutput raw.outputs raw.context.outputId (rootSelection window hint)

def rootGeometry (raw : RawState) (window : RawWindow)
    (outputId cascadeSlot : Nat) : Rectangle :=
  let output := raw.output outputId
  match appliedState window with
  | .fullscreen => fullscreenGeometry output
  | .maximized => maximizeGeometry output
  | _ =>
      if window.overrideRedirect then requestedGeometry window
      else if window.geometrySerial = 0 then
        initialPlacement output window.requestedWidth window.requestedHeight
          cascadeSlot
      else retainVisiblePixel raw.outputs outputId (requestedGeometry window)

def rootOrder (raw : RawState) : List Nat :=
  let ids := raw.windows.keys.filter fun id =>
    (raw.window id).overrideRedirect || (raw.window id).transientFor = 0
  ids.insertionSort fun left right =>
    [(raw.window left).creationSerial, left] ≤
      [(raw.window right).creationSerial, right]

/-- The states placed so far with the next cascade slot of each output. -/
structure RootPlacement where
  windows : KeyMap WindowState
  cascadeSlots : KeyMap Nat := ∅

def placeRootWindow (raw : RawState) (placed : RootPlacement) (id : Nat) :
    RootPlacement :=
  let window := raw.window id
  let state := placed.windows[id]?.getD {}
  let outputId := assignRoot raw window (hintFor raw id)
  let slot := placed.cascadeSlots[outputId]?.getD 0
  if cascadeCandidate window && window.wantsMap then
    { windows := placed.windows.insert id
        (applyGeometry { state with outputId }
          (rootGeometry raw window outputId slot))
      cascadeSlots := placed.cascadeSlots.insert outputId (slot + 1) }
  else
    { placed with
      windows := placed.windows.insert id
        (applyGeometry { state with outputId }
          (rootGeometry raw window outputId 0)) }

/-- Where a transient in normal state is asked to be: over the middle of its
parent. -/
def centeredGeometry (window : RawWindow) (output : OutputContext)
    (parent : WindowState) : Rectangle :=
  let width := min window.requestedWidth output.work.width
  let height := min window.requestedHeight output.work.height
  { x := toInt32 (parent.finalX +
      Int.tdiv ((parent.finalWidth : Int) - width) 2)
    y := toInt32 (parent.finalY +
      Int.tdiv ((parent.finalHeight : Int) - height) 2)
    width
    height }

def transientGeometry (raw : RawState) (window : RawWindow)
    (parent : WindowState) : Rectangle :=
  let output := raw.output parent.outputId
  match appliedState window with
  | .fullscreen => fullscreenGeometry output
  | .maximized => maximizeGeometry output
  | _ =>
      retainVisiblePixel raw.outputs parent.outputId
        (centeredGeometry window output parent)

def placeTransient (raw : RawState) (windows : KeyMap WindowState)
    (id : Nat) : KeyMap WindowState :=
  let window := raw.window id
  let state := windows[id]?.getD {}
  let parent := windows[window.transientFor]?.getD {}
  windows.insert id
    (applyGeometry { state with outputId := parent.outputId }
      (transientGeometry raw window parent))

def placeRoots (raw : RawState) : RootPlacement :=
  (rootOrder raw).foldl (placeRootWindow raw)
    { windows := raw.windows.map (initialState raw) }

def applyMultiOutputGeometry (raw : RawState) : KeyMap WindowState :=
  (transientParentFirst raw).foldl (placeTransient raw)
    (placeRoots raw).windows

end Glasswyrm.Wm
