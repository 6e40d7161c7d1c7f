import Mathlib.Data.List.Lex
import Glasswyrm.Wm.Validation

namespace Glasswyrm.Wm

open Lifecycle Output

structure PolicyState where
  generation : Nat := 0
  hash : UInt64 := 0
  context : Context := {}
  outputs : KeyMap OutputContext := ∅
  outputHints : KeyMap WindowOutputHint := ∅
  windows : KeyMap WindowState := ∅
  outputOrder : List Nat := []
deriving DecidableEq

structure Evaluation where
  error : EvaluationError := .none
  policy : PolicyState := {}
deriving DecidableEq

/-- The conversion of a 64-bit sum to `std::int32_t`. -/
def toInt32 (value : Int) : Int :=
  (value + 2147483648) % 4294967296 - 2147483648

theorem toInt32_of_fits {value : Int} (low : -2147483648 ≤ value)
    (high : value ≤ 2147483647) : toInt32 value = value := by
  unfold toInt32
  omega

/-- `std::clamp`. -/
def clamp (value low high : Int) : Int :=
  if value < low then low else if high < value then high else value

theorem clamp_bounds {value low high : Int} (ordered : low ≤ high) :
    low ≤ clamp value low high ∧ clamp value low high ≤ high := by
  unfold clamp
  split <;> (try split) <;> omega

/-- The record of a window that is known to the snapshot. -/
def RawState.window (raw : RawState) (id : Nat) : RawWindow :=
  raw.windows[id]?.getD {}

def appliedState (window : RawWindow) : AppliedState :=
  if window.overrideRedirect then .normal
  else if window.minimizedRequested then .minimized
  else if window.fullscreenRequested then .fullscreen
  else if window.maximizedRequested then .maximized
  else .normal

def fillsOutput (window : RawWindow) : Bool :=
  appliedState window = .fullscreen || appliedState window = .maximized

def decorated (window : RawWindow) (state : AppliedState) : Bool :=
  if window.overrideRedirect || state = .fullscreen ||
      window.decorationPreference = .false then false
  else if window.windowType = .utility || window.windowType = .unknown then
    window.decorationPreference = .true
  else true

/-- The window types that are placed in cascade. -/
def cascades (window : RawWindow) : Bool :=
  window.windowType = .normal || window.windowType = .utility ||
    window.windowType = .unknown

/-- The offset of a cascade slot in the room that is left. -/
def cascadeOffset (slot span : Nat) : Int :=
  if span = 0 then 0 else toInt32 (slot * 32 % (span + 1) : Nat)

theorem cascadeOffset_bounds (slot : Nat) {span : Nat}
    (small : span ≤ maximumRootExtent) :
    0 ≤ cascadeOffset slot span ∧ cascadeOffset slot span ≤ span := by
  unfold cascadeOffset
  unfold maximumRootExtent at small
  split
  · omega
  · have less := Nat.mod_lt (slot * 32) (show 0 < span + 1 by omega)
    rw [toInt32_of_fits (by omega) (by omega)]
    omega

/-- The length of the walk along the transient parents; the rounds are those
of `transientCycle`. -/
def transientDepth (raw : RawState) : Nat → Nat → Nat
  | 0, _ => 0
  | fuel + 1, current =>
      if current = 0 then 0
      else transientDepth raw fuel (raw.window current).transientFor + 1

def managedTransients (raw : RawState) : List Nat :=
  raw.windows.keys.filter fun id =>
    !(raw.window id).overrideRedirect && (raw.window id).transientFor ≠ 0

def parentFirstKey (raw : RawState) (id : Nat) : List Nat :=
  [transientDepth raw (maximumWindows + 2) (raw.window id).transientFor, id]

def transientParentFirst (raw : RawState) : List Nat :=
  (managedTransients raw).insertionSort fun left right =>
    parentFirstKey raw left ≤ parentFirstKey raw right

/-- The fields of a window state that no geometry decides. -/
def initialState (raw : RawState) (id : Nat) (window : RawWindow) :
    WindowState where
  windowId := id
  transientFor := window.transientFor
  workspaceId := raw.context.workspaceId
  windowType := window.windowType
  appliedState := appliedState window
  managed := !window.overrideRedirect
  overrideRedirect := window.overrideRedirect
  attentionRequested := window.attentionRequested
  decorationEligible := decorated window (appliedState window)

def WindowState.geometry (state : WindowState) : Rectangle where
  x := state.finalX
  y := state.finalY
  width := state.finalWidth
  height := state.finalHeight

def applyGeometry (state : WindowState) (geometry : Rectangle) :
    WindowState :=
  { state with
    finalX := geometry.x
    finalY := geometry.y
    finalWidth := geometry.width
    finalHeight := geometry.height }

@[simp] theorem applyGeometry_geometry (state : WindowState)
    (geometry : Rectangle) :
    (applyGeometry state geometry).geometry = geometry := rfl

end Glasswyrm.Wm
