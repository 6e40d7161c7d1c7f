import Glasswyrm.Wm.Policy

namespace Glasswyrm.Wm

open Lifecycle Output

/-! Visibility and input focus. -/

def wantsVisible (window : RawWindow) (state : WindowState) : Bool :=
  window.wantsMap &&
    (window.overrideRedirect || state.appliedState ≠ .minimized)

/-- A transient shows only with its parent. -/
def hideWithParent (windows : KeyMap WindowState) (id : Nat) :
    KeyMap WindowState :=
  let state := windows[id]?.getD {}
  let parent := windows[state.transientFor]?.getD {}
  windows.insert id { state with visible := state.visible && parent.visible }

def fullscreenEligible (state : WindowState) : TriState :=
  if state.overrideRedirect then .unknown
  else if state.visible && state.appliedState = .fullscreen then .true
  else .false

def applyVisibility (raw : RawState) (windows : KeyMap WindowState) :
    KeyMap WindowState :=
  let wanted := windows.map fun id state =>
    { state with visible := wantsVisible (raw.window id) state }
  let shown := (transientParentFirst raw).foldl hideWithParent wanted
  shown.map fun _ state =>
    { state with fullscreenEligible := fullscreenEligible state }

def focusCandidate (raw : RawState) (windows : KeyMap WindowState)
    (id : Nat) : Bool :=
  (windows[id]?.getD {}).visible && !(raw.window id).overrideRedirect &&
    (raw.window id).flags &&& inputDisabledFlag = 0

def fullscreenWindow (windows : KeyMap WindowState) (id : Nat) : Bool :=
  (windows[id]?.getD {}).appliedState = .fullscreen

def focusRank (raw : RawState) (windows : KeyMap WindowState)
    (hasFullscreen : Bool) (id : Nat) : Nat :=
  if hasFullscreen && (raw.window id).transientFor ≠ 0 then 2
  else if fullscreenWindow windows id then 1
  else 0

def focusKey (raw : RawState) (windows : KeyMap WindowState)
    (hasExplicit hasFullscreen : Bool) (id : Nat) : List Nat :=
  let window := raw.window id
  let rank := focusRank raw windows hasFullscreen id
  if hasExplicit then
    [rank, window.focusSerial, window.mapSerial, window.creationSerial,
      window.windowId]
  else [rank, window.mapSerial, window.creationSerial, window.windowId]

/-- `std::max_element`: the first of the largest. -/
def maxElement (key : Nat → List Nat) : List Nat → Option Nat
  | [] => none
  | first :: rest =>
      some (rest.foldl
        (fun best id => if key best < key id then id else best) first)

def selectFocus (raw : RawState) (windows : KeyMap WindowState) :
    Option Nat :=
  let candidates := raw.windows.keys.filter (focusCandidate raw windows)
  let hasExplicit := candidates.any fun id => (raw.window id).focusSerial ≠ 0
  let hasFullscreen := candidates.any (fullscreenWindow windows)
  maxElement (focusKey raw windows hasExplicit hasFullscreen) candidates

def applyFocus (raw : RawState) (windows : KeyMap WindowState) :
    KeyMap WindowState :=
  match selectFocus raw windows with
  | none => windows
  | some selected =>
      windows.insert selected
        { windows[selected]?.getD {} with focused := true }

/-- The window manager cannot see what scanout needs; it only rules out
fullscreen windows without focus. -/
def directScanoutEligible (state : WindowState) : TriState :=
  if !state.overrideRedirect && state.fullscreenEligible = .true &&
      !state.focused then .false
  else .unknown

def applyPresentationEligibility (windows : KeyMap WindowState) :
    KeyMap WindowState :=
  windows.map fun _ state =>
    { state with directScanoutEligible := directScanoutEligible state }

def applyFocusAndVisibility (raw : RawState)
    (windows : KeyMap WindowState) : KeyMap WindowState :=
  applyPresentationEligibility (applyFocus raw (applyVisibility raw windows))

end Glasswyrm.Wm
