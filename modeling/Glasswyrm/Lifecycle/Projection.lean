import Glasswyrm.Wm.Types
import Glasswyrm.Lifecycle.Rebase

namespace Glasswyrm.Lifecycle

open Output Wm

/-! What the server sends to the window manager for a snapshot, and how it
reads the answer back. -/

def boundedExtent (requested minimum maximum : Nat) : Nat :=
  let raised := if minimum ≠ 0 then max requested minimum else requested
  if maximum ≠ 0 then min raised maximum else raised

/-- The window and output records are those the window manager decodes from
the wire, where they keep every field. -/
structure PolicySnapshotSubmission where
  commitId : Nat
  generation : Nat
  windows : List RawWindow
  outputs : List OutputContext
  outputHints : List WindowOutputHint
deriving DecidableEq

def policyOutput (id : Nat) (state : OutputState) : OutputContext :=
  let area : Rectangle := {
    x := state.logicalX, y := state.logicalY
    width := state.logicalWidth, height := state.logicalHeight }
  { outputId := id
    logical := area
    work := area
    scaleNumerator := state.scale.numerator
    scaleDenominator := state.scale.denominator
    transform := state.transform
    enabled := state.enabled
    primary := state.primary }

def policyWindow (snapshot : LifecycleSnapshot) (value : LifecycleWindow) :
    RawWindow where
  windowId := value.xid
  parentWindowId := value.parent
  transientFor := value.transientFor
  workspaceId := snapshot.workspaceId
  requestedX := value.requestedX
  requestedY := value.requestedY
  requestedWidth :=
    boundedExtent value.requestedWidth value.minimumWidth value.maximumWidth
  requestedHeight :=
    boundedExtent value.requestedHeight value.minimumHeight
      value.maximumHeight
  borderWidth := value.requestedBorderWidth
  windowType := value.policyWindowType
  wantsMap := value.mapRequested
  overrideRedirect := value.overrideRedirect
  decorationPreference := value.decorationPreference
  fullscreenRequested := value.fullscreenRequested
  maximizedRequested := value.maximizedRequested
  attentionRequested := value.attentionRequested
  creationSerial := value.creationSerial
  mapSerial := value.mapSerial
  focusSerial := value.focusSerial
  flags :=
    (if value.aboveRequested then aboveFlag else 0) |||
      (if value.bypassCompositor then bypassCompositorFlag else 0) |||
      (if value.inputRequested then 0 else inputDisabledFlag)
  geometrySerial := value.geometrySerial
  stackSerial := value.stackSerial
  stackSibling := value.stackSibling
  stackMode := value.stackMode

def policyHint (layout : Option OutputLayout) (value : LifecycleWindow) :
    Option WindowOutputHint :=
  if layout.isSome && value.assignedOutputId ≠ 0 then
    some {
      windowId := value.xid
      previousOutputId := value.assignedOutputId }
  else none

/-- `append_policy_outputs`; the layout lists only outputs it has. -/
def policyOutputs (layout : OutputLayout) : List OutputContext :=
  layout.outputOrder.filterMap fun id =>
    layout.states[id]?.map (policyOutput id)

def projectPolicy (snapshot : LifecycleSnapshot) (commit generation : Nat)
    (layout : Option OutputLayout) : PolicySnapshotSubmission where
  commitId := commit
  generation := generation
  windows := snapshot.windows.toList.map
    fun (_, value) => policyWindow snapshot value
  outputs := (layout.map policyOutputs).getD []
  outputHints := snapshot.windows.toList.filterMap
    fun (_, value) => policyHint layout value

/-- The screen fields the policy context is made from. -/
structure ScreenModel where
  rootWindow : Nat := 1
  widthPixels : Nat := 0
  heightPixels : Nat := 0
deriving DecidableEq, Repr

def policyContext (submission : PolicySnapshotSubmission)
    (screen : ScreenModel) : Context :=
  let base : Context := {
    rootWindowId := screen.rootWindow
    workspaceId := 1
    outputId := 1
    workWidth := screen.widthPixels
    workHeight := screen.heightPixels }
  if submission.outputs.isEmpty then base
  else
    let enabled := submission.outputs.filter (·.enabled)
    let extent (edge : OutputContext → Int) : Nat :=
      (enabled.foldl (fun maximum output => max maximum (edge output))
        0).toNat
    { base with
      outputId := (enabled.filter (·.primary)).foldl
        (fun _ output => output.outputId) base.outputId
      workWidth :=
        extent fun output => output.logical.x + output.logical.width
      workHeight :=
        extent fun output => output.logical.y + output.logical.height }

/-- The pending state of the window manager after the whole snapshot was
upserted and ended; `upsert` files every record under its own identifier. -/
def rawState (submission : PolicySnapshotSubmission) (screen : ScreenModel) :
    RawState where
  complete := true
  producerGeneration := submission.generation
  context := policyContext submission screen
  hasContext := true
  outputs := KeyMap.file OutputContext.outputId ∅ submission.outputs
  outputHints := KeyMap.file WindowOutputHint.windowId ∅ submission.outputHints
  windows := KeyMap.file RawWindow.windowId ∅ submission.windows

end Glasswyrm.Lifecycle
