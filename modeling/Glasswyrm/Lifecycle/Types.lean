import Glasswyrm.Library.KeyMap

namespace Glasswyrm

namespace Lifecycle

inductive WindowClass
  | copyFromParent
  | inputOutput
  | inputOnly
deriving DecidableEq, Repr

inductive LifecycleStackMode
  | none
  | above
  | below
deriving DecidableEq, Repr

inductive PolicyWindowType
  | unknown
  | normal
  | dialog
  | utility
deriving DecidableEq, Repr

inductive PolicyDecoration
  | unknown
  | false
  | true
deriving DecidableEq, Repr

inductive WindowScalePresentationState
  | legacy
  | scaleAwareAwaitingPixmap
  | scaleAwareActive
deriving DecidableEq, Repr

/-- The shared pixel storage of the source is represented by its identity. -/
structure WindowScaleState where
  primaryOutput : Nat := 0
  preferredScaleNumerator : Nat := 1
  preferredScaleDenominator : Nat := 1
  acceptedBufferScale : Nat := 1
  layoutGeneration : Nat := 1
  outputMemberships : List Nat := []
  hasOutputState : Bool := false
  presentation : WindowScalePresentationState := .legacy
  scaledPixmapStorage : Option Nat := none
  presentationSerial : Nat := 0
  eventSelections : KeyMap Nat := ∅
deriving DecidableEq

structure SavedWindowGeometry where
  x : Int
  y : Int
  width : Nat
  height : Nat
  borderWidth : Nat
deriving DecidableEq, Repr

structure LifecycleWindow where
  xid : Nat := 0
  parent : Nat := 0
  windowClass : WindowClass := .inputOutput
  requestedX : Int := 0
  requestedY : Int := 0
  requestedWidth : Nat := 0
  requestedHeight : Nat := 0
  requestedBorderWidth : Nat := 0
  overrideRedirect : Bool := false
  mapRequested : Bool := false
  policyVisible : Bool := false
  focused : Bool := false
  creationSerial : Nat := 0
  mapSerial : Nat := 0
  focusSerial : Nat := 0
  geometrySerial : Nat := 0
  stackSerial : Nat := 0
  stackSibling : Nat := 0
  stackMode : LifecycleStackMode := .none
  transientFor : Nat := 0
  policyWindowType : PolicyWindowType := .normal
  decorationPreference : PolicyDecoration := .unknown
  fullscreenRequested : Bool := false
  maximizedRequested : Bool := false
  aboveRequested : Bool := false
  bypassCompositor : Bool := false
  attentionRequested : Bool := false
  inputRequested : Bool := true
  minimumWidth : Nat := 0
  minimumHeight : Nat := 0
  maximumWidth : Nat := 0
  maximumHeight : Nat := 0
  savedNormalGeometry : Option SavedWindowGeometry := none
  appliedX : Int := 0
  appliedY : Int := 0
  stacking : Int := -1
  appliedWidth : Nat := 0
  appliedHeight : Nat := 0
  windowType : Nat := 0
  appliedState : Nat := 0
  managed : Bool := false
  decorationEligible : Bool := false
  fullscreenEligible : Nat := 0
  directScanoutEligible : Nat := 0
  assignedOutputId : Nat := 0
  outputMemberships : List Nat := []
  scale : WindowScaleState := {}
deriving DecidableEq

structure LifecycleSnapshot where
  windows : KeyMap LifecycleWindow := ∅
  rootOrder : List Nat := []
  focusedWindow : Nat := 0
  rootWindow : Nat := 1
  workspaceId : Nat := 1
  outputId : Nat := 1
deriving DecidableEq

/-- Every map entry is stored under its window's own identifier. -/
def LifecycleSnapshot.Keyed (snapshot : LifecycleSnapshot) : Prop :=
  ∀ (id : Nat) (window : LifecycleWindow),
    snapshot.windows[id]? = some window → window.xid = id

structure AppliedPolicyWindow where
  xid : Nat
  x : Int
  y : Int
  width : Nat
  height : Nat
  stacking : Int
  visible : Bool
  focused : Bool
deriving DecidableEq, Repr

inductive LifecycleOperationKind
  | create
  | map
  | unmap
  | configure
  | destroy
  | overrideChange
  | policyChange
  | scaleChange
  | focus
  | clientCleanup
deriving DecidableEq, Repr

structure LifecycleOperation where
  token : Nat := 0
  clientId : Nat := 0
  requestSequence : Nat := 0
  kind : LifecycleOperationKind := .map
  window : Nat := 0
  proposed : LifecycleSnapshot := {}
  canceled : Bool := false
deriving DecidableEq

end Lifecycle

end Glasswyrm
