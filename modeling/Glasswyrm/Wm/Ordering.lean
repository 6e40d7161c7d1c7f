import Glasswyrm.Wm.Policy

namespace Glasswyrm.Wm

open Lifecycle Output

/-! Stacking order. -/

def stackKey (window : RawWindow) : List Nat :=
  [if window.flags &&& aboveFlag ≠ 0 then 1 else 0, window.mapSerial,
    window.creationSerial, window.windowId]

def sortIds (raw : RawState) (ids : List Nat) : List Nat :=
  ids.insertionSort fun left right =>
    stackKey (raw.window left) ≤ stackKey (raw.window right)

/-- The restack requests of a band, oldest first. -/
def restackOperations (raw : RawState) (band : List Nat) : List Nat :=
  let operationKey (id : Nat) : List Nat :=
    let window := raw.window id
    [window.stackSerial, window.creationSerial, window.windowId]
  (band.filter fun id => (raw.window id).stackSerial ≠ 0).insertionSort
    fun left right => operationKey left ≤ operationKey right

/-- `std::find` and `std::vector::insert`: at the end when the sibling is not
there. -/
def insertBeside (sibling id : Nat) (above : Bool) : List Nat → List Nat
  | [] => [id]
  | head :: rest =>
      if head = sibling then
        if above then head :: id :: rest else id :: head :: rest
      else head :: insertBeside sibling id above rest

def restack (raw : RawState) (band : List Nat) (id : Nat) : List Nat :=
  let operation := raw.window id
  let above : Bool := operation.stackMode = .above
  if id ∉ band then band
  else
    let others := band.erase id
    if operation.stackSibling = 0 then
      if above then others ++ [id] else id :: others
    else insertBeside operation.stackSibling id above others

def applyRestack (raw : RawState) (band : List Nat) : List Nat :=
  (restackOperations raw band).foldl (restack raw) band

def visibleChildren (raw : RawState) (windows : KeyMap WindowState)
    (id : Nat) : List Nat :=
  raw.windows.keys.filter fun child =>
    !(raw.window child).overrideRedirect &&
      (raw.window child).transientFor = id &&
      (windows[child]?.getD {}).visible

/-- A window with its visible transients above it.  The rounds are those of
`transientCycle`: no chain of transients is longer. -/
def emitTransientTree (raw : RawState) (windows : KeyMap WindowState) :
    Nat → Nat → List Nat
  | 0, _ => []
  | fuel + 1, id =>
      id :: (sortIds raw (visibleChildren raw windows id)).flatMap
        (emitTransientTree raw windows fuel)

def stackingOrder (raw : RawState) (windows : KeyMap WindowState) :
    List Nat :=
  let managedRoots := raw.windows.keys.filter fun id =>
    !(raw.window id).overrideRedirect && (raw.window id).transientFor = 0
  let overrides := raw.windows.keys.filter fun id =>
    (raw.window id).overrideRedirect
  let visible (id : Nat) : Bool := (windows[id]?.getD {}).visible
  let fullscreen (id : Nat) : Bool :=
    (windows[id]?.getD {}).appliedState = .fullscreen
  let band := applyRestack raw (sortIds raw managedRoots)
  let parted := band.filter (!fullscreen ·) ++ band.filter (fullscreen ·)
  (parted.filter visible).flatMap
      (emitTransientTree raw windows (maximumWindows + 2)) ++
    (applyRestack raw (sortIds raw overrides)).filter visible

/-- Numbers the stacked windows from the given position on. -/
def numberStacking (windows : KeyMap WindowState) :
    Nat → List Nat → KeyMap WindowState
  | _, [] => windows
  | index, id :: rest =>
      numberStacking
        (windows.insert id
          { windows[id]?.getD {} with stacking := toInt32 index })
        (index + 1) rest

structure StackedWindows where
  windows : KeyMap WindowState
  outputOrder : List Nat

def applyStackingAndTransientOrdering (raw : RawState)
    (windows : KeyMap WindowState) : StackedWindows :=
  let stacking := stackingOrder raw windows
  let numbered := numberStacking windows 0 stacking
  { windows := numbered
    outputOrder := stacking ++
      (numbered.toList.filter fun (_, state) => !state.visible).map (·.1) }

end Glasswyrm.Wm
