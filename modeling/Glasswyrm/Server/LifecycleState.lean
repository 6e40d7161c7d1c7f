import Glasswyrm.Server.RandRState
import Glasswyrm.Server.ResourceTable

namespace Glasswyrm.Server

open Library
open Lifecycle (LifecycleWindow LifecycleSnapshot AppliedPolicyWindow
  WindowScaleState PolicyWindowType)
open X11 (ScreenModel)

/-! ## Snapshots of the table -/

def policyWindowTypeCode : PolicyWindowType → Nat
  | .unknown => 0
  | .normal => 1
  | .dialog => 2
  | .utility => 3

def lifecycleWindow (xid : Nat) (window : WindowResource) : LifecycleWindow :=
  { xid
    parent := window.parent
    windowClass := window.windowClass
    requestedX := window.requestedX
    requestedY := window.requestedY
    requestedWidth := window.requestedWidth
    requestedHeight := window.requestedHeight
    requestedBorderWidth := window.requestedBorderWidth
    overrideRedirect := window.attributes.overrideRedirect
    mapRequested := window.mapRequested
    policyVisible := window.policyVisible
    focused := window.focused
    stacking := window.stacking
    creationSerial := window.creationSerial
    mapSerial := window.mapSerial
    focusSerial := window.focusSerial
    geometrySerial := window.geometrySerial
    stackSerial := window.stackSerial
    stackSibling := window.stackSibling
    stackMode := window.stackMode
    transientFor := window.transientFor
    policyWindowType := window.policyWindowType
    decorationPreference := window.decorationPreference
    fullscreenRequested := window.fullscreenRequested
    maximizedRequested := window.maximizedRequested
    aboveRequested := window.aboveRequested
    bypassCompositor := window.bypassCompositor
    attentionRequested := window.attentionRequested
    inputRequested := window.inputRequested
    minimumWidth := window.minimumWidth
    minimumHeight := window.minimumHeight
    maximumWidth := window.maximumWidth
    maximumHeight := window.maximumHeight
    savedNormalGeometry := window.savedNormalGeometry
    appliedX := window.x
    appliedY := window.y
    appliedWidth := window.width
    appliedHeight := window.height
    windowType := policyWindowTypeCode window.policyWindowType
    appliedState := window.policyAppliedState
    managed := window.policyManaged
    decorationEligible := window.policyDecorationEligible
    fullscreenEligible := window.policyFullscreenEligible
    directScanoutEligible := window.policyDirectScanoutEligible
    assignedOutputId := window.assignedOutputId
    outputMemberships := window.outputMemberships
    scale := window.scale }

/-- The policy candidates among the children of the root. -/
def buildLifecycleSnapshot (table : ResourceTable) (focusedWindow : Nat) :
    LifecycleSnapshot :=
  let rootWindow := table.screen.rootWindow
  match table.findWindow rootWindow with
  | none => { focusedWindow, rootWindow }
  | some root =>
      { focusedWindow
        rootWindow
        rootOrder := root.children
        windows := root.children.foldl (fun windows xid =>
          match table.findWindow xid with
          | some window =>
              if table.isPolicyCandidate xid then
                windows.insertIfNew xid (lifecycleWindow xid window)
              else windows
          | none => windows) ∅ }

/-! ## The policy applied -/

/-- What the check of the policy has seen. -/
structure PolicyScan where
  ids : List Nat := []
  stackings : List Int := []
  focus : Nat
deriving DecidableEq, Repr

def scanPolicy (table : ResourceTable) (scan : PolicyScan)
    (item : AppliedPolicyWindow) : Option PolicyScan :=
  if (table.findWindow item.xid).isNone ||
      !table.isPolicyCandidate item.xid || scan.ids.contains item.xid ||
      item.width = 0 || item.height = 0 || uint16Maximum < item.width ||
      uint16Maximum < item.height || item.x < int16Minimum ||
      int16Maximum < item.x || item.y < int16Minimum ||
      int16Maximum < item.y || (item.visible && item.stacking < 0) ||
      (!item.visible && item.stacking ≠ -1) ||
      (item.visible && scan.stackings.contains item.stacking) then none
  else if item.focused &&
      (!item.visible || scan.focus ≠ table.screen.rootWindow) then none
  else some {
    ids := item.xid :: scan.ids
    stackings :=
      if item.visible then item.stacking :: scan.stackings
      else scan.stackings
    focus := if item.focused then item.xid else scan.focus }

/-- A window that is shown for the first time is taken to have asked for the
place it is given. -/
def appliedWindow (item : AppliedPolicyWindow) (window : WindowResource) :
    WindowResource :=
  let applied := { window with
    x := item.x
    y := item.y
    width := item.width
    height := item.height
    policyVisible := item.visible
    focused := item.focused
    stacking := item.stacking }
  if window.mapRequested && window.geometrySerial = 0 then
    { applied with
      requestedX := item.x
      requestedY := item.y
      requestedWidth := item.width
      requestedHeight := item.height }
  else applied

/-- The visible windows from the bottom to the top. -/
def visibleOrder (policy : List AppliedPolicyWindow) : List Nat :=
  ((policy.insertionSort fun first second =>
    first.stacking ≤ second.stacking).filter (·.visible)).map (·.xid)

def applyPolicyState (table : ResourceTable)
    (policy : List AppliedPolicyWindow) (focusedWindow : Nat) :
    Option (ResourceTable × Nat) := do
  let scan ← policy.foldlM (scanPolicy table)
    { focus := table.screen.rootWindow }
  if scan.ids.length ≠
      (buildLifecycleSnapshot table focusedWindow).windows.size then none
  if !(List.range scan.stackings.length).all (fun (index : Nat) =>
      scan.stackings.contains (index : Int)) then none
  let ordered ← table.reorderRootChildren (visibleOrder policy)
  let applied := policy.foldl (fun table item =>
    table.updateWindow item.xid (appliedWindow item)) ordered
  return (applied.recomputeMapStates applied.screen.rootWindow, scan.focus)

/-! ## The state of the server -/

def uint64Maximum : Nat := 18446744073709551615

structure LifecycleSerialSource where
  next : Nat := 1
  exhausted : Bool := false
deriving DecidableEq, Repr

def LifecycleSerialSource.take (source : LifecycleSerialSource) :
    Option Nat × LifecycleSerialSource :=
  if source.exhausted || source.next = 0 then
    (none, { source with exhausted := true })
  else if source.next = uint64Maximum then
    (some source.next, { source with exhausted := true })
  else (some source.next, { source with next := source.next + 1 })

structure ServerState where
  resources : ResourceTable
  randr : RandRState := {}
  lifecycleSerials : LifecycleSerialSource := {}
  focusedWindow : Nat

namespace ServerState

def initial (screen : ScreenModel) : ServerState :=
  { resources := .initial screen, focusedWindow := screen.rootWindow }

/-- A serial for every window that is placed for the first time. -/
def takePlacements (table : ResourceTable) :
    List AppliedPolicyWindow → LifecycleSerialSource →
      Option (List (Nat × Nat)) × LifecycleSerialSource
  | [], source => (some [], source)
  | item :: rest, source =>
      if (table.findWindow item.xid).any fun window =>
          window.mapRequested && window.geometrySerial = 0 then
        match source.take with
        | (none, source) => (none, source)
        | (some serial, source) =>
            let (placements, source) := takePlacements table rest source
            (placements.map ((item.xid, serial) :: ·), source)
      else takePlacements table rest source

def applyPolicy (state : ServerState) (policy : List AppliedPolicyWindow) :
    Bool × ServerState :=
  let (placements, lifecycleSerials) :=
    takePlacements state.resources policy state.lifecycleSerials
  let state := { state with lifecycleSerials }
  match placements with
  | none => (false, state)
  | some placements =>
      match applyPolicyState state.resources policy state.focusedWindow with
      | none => (false, state)
      | some (resources, focusedWindow) =>
          (true, { state with
            focusedWindow
            resources := placements.foldl (fun table placement =>
              table.updateWindow placement.1 fun window =>
                { window with geometrySerial := placement.2 }) resources })

/-- The outputs of a window by their RandR names.  The last of several
outputs with the assigned identifier counts as the primary one. -/
def projectedScale (outputs : List RandROutputObject)
    (intent : LifecycleWindow) (scale : WindowScaleState) :
    Option WindowScaleState :=
  let memberships := (outputs.filter fun output =>
    intent.outputMemberships.contains output.internalId).map (·.xid)
  let primaryOutput := outputs.foldl (fun primary output =>
    if output.internalId = intent.assignedOutputId then output.xid
    else primary) 0
  if primaryOutput = 0 ||
      memberships.length ≠ intent.outputMemberships.length then none
  else some { scale with
    hasOutputState := true
    preferredScaleNumerator := intent.scale.preferredScaleNumerator
    preferredScaleDenominator := intent.scale.preferredScaleDenominator
    layoutGeneration := intent.scale.layoutGeneration
    primaryOutput
    outputMemberships := memberships }

def intendedWindow (intent : LifecycleWindow) (window : WindowResource) :
    WindowResource :=
  { window with
    mapRequested := intent.mapRequested
    mapSerial := intent.mapSerial
    focusSerial := intent.focusSerial
    requestedX := intent.requestedX
    requestedY := intent.requestedY
    requestedWidth := intent.requestedWidth
    requestedHeight := intent.requestedHeight
    requestedBorderWidth := intent.requestedBorderWidth
    geometrySerial := intent.geometrySerial
    stackSerial := intent.stackSerial
    stackSibling := intent.stackSibling
    stackMode := intent.stackMode
    transientFor := intent.transientFor
    policyWindowType := intent.policyWindowType
    decorationPreference := intent.decorationPreference
    fullscreenRequested := intent.fullscreenRequested
    maximizedRequested := intent.maximizedRequested
    aboveRequested := intent.aboveRequested
    bypassCompositor := intent.bypassCompositor
    attentionRequested := intent.attentionRequested
    inputRequested := intent.inputRequested
    minimumWidth := intent.minimumWidth
    minimumHeight := intent.minimumHeight
    maximumWidth := intent.maximumWidth
    maximumHeight := intent.maximumHeight
    savedNormalGeometry := intent.savedNormalGeometry
    attributes :=
      { window.attributes with overrideRedirect := intent.overrideRedirect }
    policyAppliedState := intent.appliedState
    policyManaged := intent.managed
    policyDecorationEligible := intent.decorationEligible
    policyFullscreenEligible := intent.fullscreenEligible
    policyDirectScanoutEligible := intent.directScanoutEligible }

/-- One window of the snapshot written into the table. -/
def commitIntent (outputs : List RandROutputObject) (table : ResourceTable)
    (entry : Nat × LifecycleWindow) : Option ResourceTable := do
  let (xid, intent) := entry
  let window ← table.findWindow xid
  if !table.isPolicyCandidate xid then none
  let intended := intendedWindow intent window
  if intent.scale.hasOutputState then
    let scale ← projectedScale outputs intent window.scale
    return table.updateWindow xid fun _ => { intended with
      assignedOutputId := intent.assignedOutputId
      outputMemberships := intent.outputMemberships
      scale }
  else return table.updateWindow xid fun _ => intended

def policyOf (entry : Nat × LifecycleWindow) : AppliedPolicyWindow :=
  { xid := entry.1
    x := entry.2.appliedX
    y := entry.2.appliedY
    width := entry.2.appliedWidth
    height := entry.2.appliedHeight
    stacking := entry.2.stacking
    visible := entry.2.policyVisible
    focused := entry.2.focused }

/-- The whole snapshot is staged; a failure leaves the state as it was. -/
def commitLifecycle (state : ServerState) (snapshot : LifecycleSnapshot) :
    Bool × ServerState :=
  let entries := snapshot.windows.toList
  match entries.foldlM (commitIntent state.randr.outputs) state.resources with
  | none => (false, state)
  | some resources =>
      match applyPolicy { state with resources } (entries.map policyOf) with
      | (false, _) => (false, state)
      | (true, staged) => (true, staged)

def commitCreateLifecycle (state : ServerState)
    (owner resourceBase resourceMask : Nat) (spec : WindowCreateSpec)
    (creationSerial : Nat) (evaluated : LifecycleSnapshot) :
    Bool × ServerState :=
  match state.resources.createWindow owner resourceBase resourceMask spec with
  | (.success, created) =>
      let resources := created.updateWindow spec.xid fun window =>
        { window with creationSerial }
      match commitLifecycle { state with resources } evaluated with
      | (false, _) => (false, state)
      | (true, staged) => (true, staged)
  | _ => (false, state)

def commitDestroyLifecycle (state : ServerState) (xid : Nat)
    (evaluated : LifecycleSnapshot) : Bool × ServerState :=
  match state.resources.captureDestroyPlan xid with
  | none => (false, state)
  | some plan =>
      match state.resources.commitDestroyPlan plan with
      | (.success, resources) =>
          match commitLifecycle { state with resources } evaluated with
          | (false, _) => (false, state)
          | (true, staged) => (true, staged)
      | _ => (false, state)

end ServerState

end Glasswyrm.Server
