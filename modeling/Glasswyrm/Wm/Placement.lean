import Glasswyrm.Wm.Policy

namespace Glasswyrm.Wm

open Lifecycle Output

/-! Placement on a single output: the work area of the context. -/

def clampCoordinate (value low high : Int) : Int :=
  toInt32 (clamp value low high)

def cascadeOrder (raw : RawState) : List Nat :=
  let cascade := raw.windows.keys.filter fun id =>
    let window := raw.window id
    !window.overrideRedirect && window.transientFor = 0 && window.wantsMap &&
      !window.fullscreenRequested && !window.maximizedRequested &&
      cascades window
  cascade.insertionSort fun left right =>
    [(raw.window left).creationSerial, left] ≤
      [(raw.window right).creationSerial, right]

def cascadeSlot (raw : RawState) (id : Nat) : Nat :=
  if id ∈ cascadeOrder raw then (cascadeOrder raw).idxOf id else 0

def placeRoot (raw : RawState) (window : RawWindow) (state : WindowState) :
    WindowState :=
  let context := raw.context
  if window.overrideRedirect then
    { state with finalX := window.requestedX, finalY := window.requestedY }
  else if state.appliedState = .fullscreen || state.appliedState = .maximized
  then
    { state with
      finalX := context.workX
      finalY := context.workY
      finalWidth := context.workWidth
      finalHeight := context.workHeight }
  else if window.transientFor = 0 && window.geometrySerial ≠ 0 then
    { state with
      finalX := clampCoordinate window.requestedX context.workX
        (context.workX + context.workWidth - state.finalWidth)
      finalY := clampCoordinate window.requestedY context.workY
        (context.workY + context.workHeight - state.finalHeight) }
  else if window.transientFor = 0 then
    let slot := cascadeSlot raw window.windowId
    { state with
      finalX := context.workX +
        cascadeOffset slot (context.workWidth - state.finalWidth)
      finalY := context.workY +
        cascadeOffset slot (context.workHeight - state.finalHeight) }
  else state

def placedState (raw : RawState) (id : Nat) (window : RawWindow) :
    WindowState :=
  let extent (requested available : Nat) : Nat :=
    if window.overrideRedirect then requested else min requested available
  placeRoot raw window
    { initialState raw id window with
      finalWidth := extent window.requestedWidth raw.context.workWidth
      finalHeight := extent window.requestedHeight raw.context.workHeight }

/-- Centred on the transient parent and kept inside the work area. -/
def centerTransient (raw : RawState) (windows : KeyMap WindowState)
    (id : Nat) : KeyMap WindowState :=
  let context := raw.context
  let state := windows[id]?.getD {}
  let parent := windows[(raw.window id).transientFor]?.getD {}
  let centeredX : Int := parent.finalX +
    Int.tdiv ((parent.finalWidth : Int) - state.finalWidth) 2
  let centeredY : Int := parent.finalY +
    Int.tdiv ((parent.finalHeight : Int) - state.finalHeight) 2
  windows.insert id
    { state with
      finalX := clampCoordinate centeredX context.workX
        (context.workX + context.workWidth - state.finalWidth)
      finalY := clampCoordinate centeredY context.workY
        (context.workY + context.workHeight - state.finalHeight) }

def applyPlacementAndFullscreenGeometry (raw : RawState) :
    KeyMap WindowState :=
  (transientParentFirst raw).foldl (centerTransient raw)
    (raw.windows.map (placedState raw))

def assignOutputs (raw : RawState) (windows : KeyMap WindowState) :
    KeyMap WindowState :=
  windows.map fun _ state => { state with outputId := raw.context.outputId }

end Glasswyrm.Wm
