import Glasswyrm.Output.Types

namespace Glasswyrm.Wm

open Lifecycle Output

def maximumWindows : Nat := 4096
def maximumOutputs : Nat := 8
def maximumWorkExtent : Nat := 16384
def maximumRootExtent : Nat := 32767
def maximumWindowExtent : Nat := 16384
def maximumBorderWidth : Nat := 65535

def aboveFlag : Nat := 1
def bypassCompositorFlag : Nat := 2
def inputDisabledFlag : Nat := 4
def knownWindowFlags : Nat :=
  aboveFlag ||| bypassCompositorFlag ||| inputDisabledFlag

inductive AppliedState
  | normal
  | maximized
  | fullscreen
  | minimized
deriving DecidableEq, Repr

/-- The wire value; the enumeration of the source begins at one. -/
def AppliedState.value : AppliedState → Nat
  | .normal => 1
  | .maximized => 2
  | .fullscreen => 3
  | .minimized => 4

inductive TriState
  | unknown
  | false
  | true
deriving DecidableEq, Repr

def TriState.value : TriState → Nat
  | .unknown => 0
  | .false => 1
  | .true => 2

inductive EvaluationError
  | none
  | incompleteSnapshot
  | invalidContext
  | invalidWindow
  | unknownReference
  | limit
  | unsupportedMetadata
  | outputFailure
deriving DecidableEq, Repr

/-- The next check runs only when this one found nothing. -/
def EvaluationError.andThen : EvaluationError → EvaluationError →
    EvaluationError
  | .none, next => next
  | error, _ => error

theorem EvaluationError.andThen_none_iff {first next : EvaluationError} :
    first.andThen next = .none ↔ first = .none ∧ next = .none := by
  cases first <;> simp [andThen]

structure Context where
  rootWindowId : Nat := 0
  workspaceId : Nat := 0
  outputId : Nat := 0
  workX : Int := 0
  workY : Int := 0
  workWidth : Nat := 0
  workHeight : Nat := 0
  flags : Nat := 0
deriving DecidableEq, Repr

abbrev Rectangle := LogicalRectangle

structure OutputContext where
  outputId : Nat := 0
  logical : Rectangle := {}
  work : Rectangle := {}
  scaleNumerator : Nat := 1
  scaleDenominator : Nat := 1
  transform : OutputTransform := .normal
  enabled : Bool := false
  primary : Bool := false
  flags : Nat := 0
deriving DecidableEq, Repr

structure WindowOutputHint where
  windowId : Nat := 0
  previousOutputId : Nat := 0
  preferredOutputId : Nat := 0
  flags : Nat := 0
deriving DecidableEq, Repr

/-- Window type, decoration preference and stack mode are the lifecycle
enumerations, so the metadata of a window is always known. -/
structure RawWindow where
  windowId : Nat := 0
  parentWindowId : Nat := 0
  transientFor : Nat := 0
  workspaceId : Nat := 0
  requestedX : Int := 0
  requestedY : Int := 0
  requestedWidth : Nat := 0
  requestedHeight : Nat := 0
  borderWidth : Nat := 0
  windowType : PolicyWindowType := .unknown
  wantsMap : Bool := false
  overrideRedirect : Bool := false
  decorationPreference : PolicyDecoration := .unknown
  fullscreenRequested : Bool := false
  maximizedRequested : Bool := false
  minimizedRequested : Bool := false
  attentionRequested : Bool := false
  creationSerial : Nat := 0
  mapSerial : Nat := 0
  focusSerial : Nat := 0
  flags : Nat := 0
  geometrySerial : Nat := 0
  stackSerial : Nat := 0
  stackSibling : Nat := 0
  stackMode : LifecycleStackMode := .none
deriving DecidableEq, Repr

structure RawState where
  complete : Bool := false
  producerGeneration : Nat := 0
  context : Context := {}
  hasContext : Bool := false
  outputs : KeyMap OutputContext := ∅
  outputHints : KeyMap WindowOutputHint := ∅
  windows : KeyMap RawWindow := ∅
deriving DecidableEq

structure WindowState where
  windowId : Nat := 0
  transientFor : Nat := 0
  workspaceId : Nat := 0
  outputId : Nat := 0
  finalX : Int := 0
  finalY : Int := 0
  finalWidth : Nat := 0
  finalHeight : Nat := 0
  stacking : Int := -1
  windowType : PolicyWindowType := .unknown
  appliedState : AppliedState := .normal
  visible : Bool := false
  focused : Bool := false
  managed : Bool := false
  decorationEligible : Bool := false
  overrideRedirect : Bool := false
  attentionRequested : Bool := false
  fullscreenEligible : TriState := .false
  directScanoutEligible : TriState := .unknown
deriving DecidableEq, Repr

end Glasswyrm.Wm
