import Glasswyrm.Compositor.Types
import Glasswyrm.Output.DrmConfiguration
import Glasswyrm.Output.Identity
import Glasswyrm.Output.ValidLayout

namespace Glasswyrm.Server

open Output Compositor

/-! The coordinator of output configurations: one snapshot of proposed
outputs is collected, judged against the inventory and the committed layout,
and committed once the window manager and the compositor have accepted. -/

def generationMaximum : Nat := 18446744073709551615

inductive OutputConfigurationSnapshotStatus
  | accepted
  | busy
  | invalidState
  | invalidRecord
  | countMismatch
deriving DecidableEq, Repr

inductive OutputConfigurationStage
  | idle
  | collecting
  | snapshotReady
  | policyPending
  | compositorPending
  | commitReady
  | rollbackPending
deriving DecidableEq, Repr

inductive OutputConfigurationResult
  | accepted
  | staleGeneration
  | busy
  | invalidLayout
  | unknownOutput
  | unsupportedMode
  | unsupportedScale
  | unsupportedTransform
  | policyRejected
  | compositorRejected
  | presenterRejected
  | internalError
deriving DecidableEq, Repr

structure OutputConfigurationCommit where
  configurationId : Nat := 0
  baseGeneration : Nat := 0
  primaryOutputId : Nat := 0
  flags : Nat := 0
deriving DecidableEq, Repr

structure OutputConfigurationAcknowledged where
  requestId : Nat := 0
  appliedGeneration : Nat := 0
  result : OutputConfigurationResult := .accepted
  flags : Nat := 0
  primaryOutputId : Nat := 0
  rootLogicalWidth : Nat := 0
  rootLogicalHeight : Nat := 0
  enabledOutputCount : Nat := 0
deriving DecidableEq, Repr

structure OutputConfigurationTransaction where
  configurationId : Nat
  oldLayout : OutputLayout
  proposedLayout : OutputLayout
deriving DecidableEq

structure OutputConfigurationCoordinator where
  valid : Bool
  stage : OutputConfigurationStage := .idle
  snapshotId : Nat := 0
  expectedItemCount : Nat := 0
  itemCount : Nat := 0
  snapshotFailure : OutputConfigurationSnapshotStatus := .accepted
  stagedResult : OutputConfigurationResult := .invalidLayout
  stagedOutputs : KeyMap OutputUpsert := ∅
  inventory : OutputLayout
  committedLayout : OutputLayout
  transaction : Option OutputConfigurationTransaction := none
  rollbackResult : OutputConfigurationResult := .compositorRejected
deriving DecidableEq

/-! ## The candidate layout -/

def validationResult : LayoutValidationError → OutputConfigurationResult
  | .invalidScale => .unsupportedScale
  | .unsupportedTransform => .unsupportedTransform
  | .invalidMode | .physicalLimitExceeded => .unsupportedMode
  | .incompleteInventory | .invalidIdentity => .unknownOutput
  | _ => .invalidLayout

def decimalBytes (value : Nat) : List UInt8 :=
  (Nat.toDigits 10 value).map fun digit => UInt8.ofNat digit.toNat

def modeName (value : OutputUpsert) : List UInt8 :=
  decimalBytes value.physicalPixelWidth ++ asciiBytes "x" ++
    decimalBytes value.physicalPixelHeight ++ asciiBytes "@" ++
    decimalBytes value.refreshMillihertz

/-- The enumerations of the wire and of the layout have the same values. -/
def colorFrom (color : SdrColorMetadata) : SdrMetadata where
  colorSpace :=
    match color.colorSpace with
    | .srgb => .srgb
    | .displayP3 => .displayP3
  transferFunction :=
    match color.transferFunction with
    | .srgb => .srgb
    | .linear => .linear
  primaries :=
    match color.primaries with
    | .srgb => .srgb
    | .displayP3 => .displayP3
  luminanceAvailable := color.luminanceAvailable
  minimumLuminanceMillinit := color.minimumLuminanceMillinit
  maximumLuminanceMillinit := color.maximumLuminanceMillinit
  maxFrameAverageLuminanceMillinit := color.maxFrameAverageLuminanceMillinit

/-- The far edge of an extent in 32-bit arithmetic, zero where the position is
negative. -/
def farEdge (position : Int) (extent : Nat) : Nat :=
  if 0 ≤ position then (position.toNat + extent) % 4294967296 else 0

def updateLayoutMetadata (layout : OutputLayout) : OutputLayout :=
  let enabled := layout.enabledEntries
  { layout with
    rootLogicalWidth := enabled.foldl (fun width entry =>
      max width (farEdge entry.2.logicalX entry.2.logicalWidth)) 0
    rootLogicalHeight := enabled.foldl (fun height entry =>
      max height (farEdge entry.2.logicalY entry.2.logicalHeight)) 0
    enabledOutputCount := enabled.length
    outputOrder := layout.expectedOutputOrder }

def proposedState (id generation primary : Nat) (value : OutputUpsert) :
    OutputState where
  outputId := id
  enabled := value.enabled
  logicalX := value.logicalX
  logicalY := value.logicalY
  logicalWidth := value.logicalWidth
  logicalHeight := value.logicalHeight
  physicalWidth := value.physicalPixelWidth
  physicalHeight := value.physicalPixelHeight
  refreshMillihertz := value.refreshMillihertz
  scale :=
    { numerator := value.scaleNumerator, denominator := value.scaleDenominator }
  transform := value.transform
  color := colorFrom value.color
  primary := decide (id = primary)
  generation := generation

/-- The mode has the extents and the refresh rate of the state. -/
def modeMatches (state : OutputState) (mode : OutputMode) : Bool :=
  mode.physicalWidth = state.physicalWidth &&
    mode.physicalHeight = state.physicalHeight &&
    mode.refreshMillihertz = state.refreshMillihertz

def clearCurrent (modes : List OutputMode) : List OutputMode :=
  modes.map fun mode => { mode with current := false }

/-- The first matching mode is the current one. -/
def selectCurrent (state : OutputState) : List OutputMode → List OutputMode
  | [] => []
  | mode :: rest =>
      if modeMatches state mode then
        { mode with current := true } :: clearCurrent rest
      else { mode with current := false } :: selectCurrent state rest

/-- An unlisted mode, under the identifier derived for it. -/
def arbitraryMode (id modeId : Nat) (value : OutputUpsert) : OutputMode where
  id := modeId
  outputId := id
  physicalWidth := value.physicalPixelWidth
  physicalHeight := value.physicalPixelHeight
  refreshMillihertz := value.refreshMillihertz
  name := modeName value
  current := true

/-- The mode list with the current mode of an enabled state, and its
identifier: a listed mode, or an arbitrary one where the output allows it. -/
def selectMode (id : Nat) (descriptor : OutputDescriptor) (state : OutputState)
    (value : OutputUpsert) : Option (List OutputMode × Nat) :=
  match descriptor.modes.find? (modeMatches state) with
  | some selected => some (selectCurrent state descriptor.modes, selected.id)
  | none =>
      if descriptor.kind = .headless && descriptor.arbitraryHeadlessMode &&
          descriptor.modeConfigurable then
        (deriveOutputModeId id state.physicalWidth state.physicalHeight
          state.refreshMillihertz 0 (modeName value)).map fun modeId =>
            (clearCurrent descriptor.modes ++ [arbitraryMode id modeId value],
              modeId)
      else none

/-- One round of the loop over the descriptors: the old state decides what a
fixed attribute has to be. -/
def configureOutput (generation primary id : Nat)
    (descriptor : OutputDescriptor) (old : OutputState) (value : OutputUpsert) :
    Except OutputConfigurationResult (OutputDescriptor × OutputState) :=
  let state := proposedState id generation primary value
  if !value.enabled then .ok (descriptor, state)
  else if !descriptor.scaleConfigurable && state.scale ≠ old.scale then
    .error .unsupportedScale
  else if !descriptor.transformConfigurable &&
      state.transform ≠ old.transform then .error .unsupportedTransform
  else if !descriptor.modeConfigurable &&
      (state.physicalWidth ≠ old.physicalWidth ||
        state.physicalHeight ≠ old.physicalHeight ||
        state.refreshMillihertz ≠ old.refreshMillihertz) then
    .error .unsupportedMode
  else
    match selectMode id descriptor state value with
    | none => .error .unsupportedMode
    | some (modes, modeId) =>
        .ok ({ descriptor with modes }, { state with modeId })

/-- The loop over the descriptors of the inventory. -/
def configureOutputs (committed : OutputLayout)
    (staged : KeyMap OutputUpsert) :
    List (Nat × OutputDescriptor) → OutputLayout →
      Except OutputConfigurationResult OutputLayout
  | [], candidate => .ok candidate
  | (id, descriptor) :: rest, candidate =>
      match staged[id]? with
      | none => .error .invalidLayout
      | some value =>
          match configureOutput candidate.generation candidate.primaryOutputId
              id descriptor (committed.states[id]?.getD {}) value with
          | .error result => .error result
          | .ok (described, state) =>
              configureOutputs committed staged rest
                { candidate with
                  descriptors := candidate.descriptors.insert id described
                  states := candidate.states.insert id state }

/-- The refusal of a candidate that a fixed output does not allow. -/
def drmResult (committed candidate : OutputLayout) :
    OutputConfigurationResult :=
  if isSingleFixedDrmOutputProfile committed then
    match validateSingleFixedDrmConfiguration committed candidate with
    | .none => .accepted
    | .physicalModeChanged => .unsupportedMode
    | _ => .invalidLayout
  else .accepted

def buildCandidate (inventory committed : OutputLayout)
    (staged : KeyMap OutputUpsert) (primary : Nat) :
    Except OutputConfigurationResult OutputLayout :=
  if committed.generation = generationMaximum then .error .internalError
  else if !inventory.descriptors.contains primary then .error .unknownOutput
  else
    match configureOutputs committed staged inventory.descriptors.toList
        { inventory with
          generation := committed.generation + 1
          primaryOutputId := primary } with
    | .error result => .error result
    | .ok configured =>
        let candidate := updateLayoutMetadata configured
        let refusal := drmResult committed candidate
        let validation := validateLayout candidate
        if refusal ≠ .accepted then .error refusal
        else if validation.valid then .ok candidate
        else .error (validationResult validation.error)

/-! ## The operations -/

namespace OutputConfigurationCoordinator

def start (inventory : OutputLayout) : OutputConfigurationCoordinator where
  valid := (validateLayout inventory).valid
  inventory := inventory
  committedLayout := inventory

def clearStaging (coordinator : OutputConfigurationCoordinator) :
    OutputConfigurationCoordinator :=
  { coordinator with
    snapshotId := 0
    expectedItemCount := 0
    itemCount := 0
    snapshotFailure := .accepted
    stagedResult := .invalidLayout
    stagedOutputs := ∅
    stage := if coordinator.transaction.isSome then coordinator.stage
      else .idle }

def clearTransaction (coordinator : OutputConfigurationCoordinator) :
    OutputConfigurationCoordinator :=
  { coordinator with
    transaction := none
    rollbackResult := .compositorRejected
    stage := .idle }

def acknowledgement (coordinator : OutputConfigurationCoordinator)
    (requestId : Nat) (result : OutputConfigurationResult) :
    OutputConfigurationAcknowledged where
  requestId := requestId
  appliedGeneration := coordinator.committedLayout.generation
  result := result
  flags := 0
  primaryOutputId := coordinator.committedLayout.primaryOutputId
  rootLogicalWidth := coordinator.committedLayout.rootLogicalWidth
  rootLogicalHeight := coordinator.committedLayout.rootLogicalHeight
  enabledOutputCount := coordinator.committedLayout.enabledOutputCount

def beginSnapshot (coordinator : OutputConfigurationCoordinator)
    (snapshotId expectedItemCount : Nat) :
    OutputConfigurationSnapshotStatus × OutputConfigurationCoordinator :=
  if coordinator.transaction.isSome then (.busy, coordinator)
  else if coordinator.stage ≠ .idle || snapshotId = 0 ||
      expectedItemCount = 0 || kMaximumOutputs < expectedItemCount then
    (.invalidState, coordinator)
  else
    (.accepted, { coordinator.clearStaging with
      snapshotId, expectedItemCount, stage := .collecting })

/-- The first refused record is the snapshot's failure. -/
def recordFailure (coordinator : OutputConfigurationCoordinator)
    (result : OutputConfigurationResult) : OutputConfigurationCoordinator :=
  if coordinator.snapshotFailure = .accepted then
    { coordinator with snapshotFailure := .invalidRecord, stagedResult := result }
  else coordinator

def stageOutput (coordinator : OutputConfigurationCoordinator)
    (value : OutputUpsert) :
    OutputConfigurationSnapshotStatus × OutputConfigurationCoordinator :=
  if coordinator.stage ≠ .collecting then
    (if coordinator.transaction.isSome then .busy else .invalidState,
      coordinator)
  else if coordinator.itemCount = uint32Maximum then
    (.countMismatch, { coordinator with
      snapshotFailure := .countMismatch, stagedResult := .invalidLayout })
  else
    let counted := { coordinator with itemCount := coordinator.itemCount + 1 }
    let id := value.outputId
    if id = 0 || !coordinator.inventory.descriptors.contains id then
      let failed := counted.recordFailure .unknownOutput
      (failed.snapshotFailure, failed)
    else if coordinator.stagedOutputs.contains id then
      let failed := counted.recordFailure .invalidLayout
      (failed.snapshotFailure, failed)
    else
      (.accepted, { counted with
        stagedOutputs := coordinator.stagedOutputs.insert id value })

def endSnapshot (coordinator : OutputConfigurationCoordinator)
    (snapshotId actualItemCount : Nat) :
    OutputConfigurationSnapshotStatus × OutputConfigurationCoordinator :=
  if coordinator.stage ≠ .collecting || snapshotId ≠ coordinator.snapshotId then
    (.invalidState, coordinator)
  else
    let checked :=
      if actualItemCount ≠ coordinator.itemCount ||
          coordinator.itemCount ≠ coordinator.expectedItemCount ||
          coordinator.stagedOutputs.size ≠
            coordinator.inventory.descriptors.size then
        { coordinator with
          snapshotFailure := .countMismatch
          stagedResult :=
            if coordinator.stagedResult = .unknownOutput then .unknownOutput
            else .invalidLayout }
      else coordinator
    (checked.snapshotFailure, { checked with stage := .snapshotReady })

def submit (coordinator : OutputConfigurationCoordinator)
    (request : OutputConfigurationCommit) :
    Option OutputConfigurationAcknowledged × OutputConfigurationCoordinator :=
  let answer := coordinator.acknowledgement request.configurationId
  if coordinator.transaction.isSome then (some (answer .busy), coordinator)
  else if !coordinator.valid then (some (answer .internalError), coordinator)
  else if request.configurationId = 0 || request.flags ≠ 0 then
    (some (answer .invalidLayout), coordinator)
  else if request.baseGeneration ≠ coordinator.committedLayout.generation then
    (some (answer .staleGeneration), coordinator.clearStaging)
  else if coordinator.stage ≠ .snapshotReady ||
      request.configurationId ≠ coordinator.snapshotId then
    (some (answer (if coordinator.stagedResult = .unknownOutput then
      .unknownOutput else .invalidLayout)), coordinator.clearStaging)
  else if coordinator.snapshotFailure ≠ .accepted then
    (some (answer coordinator.stagedResult), coordinator.clearStaging)
  else
    match buildCandidate coordinator.inventory coordinator.committedLayout
        coordinator.stagedOutputs request.primaryOutputId with
    | .error result => (some (answer result), coordinator.clearStaging)
    | .ok candidate =>
        let transaction : OutputConfigurationTransaction :=
          { configurationId := request.configurationId
            oldLayout := coordinator.committedLayout
            proposedLayout := candidate }
        (none, { { coordinator with transaction := some transaction
          }.clearStaging with stage := .policyPending })

def acceptPolicy (coordinator : OutputConfigurationCoordinator) :
    Bool × OutputConfigurationCoordinator :=
  if coordinator.stage ≠ .policyPending || coordinator.transaction.isNone then
    (false, coordinator)
  else (true, { coordinator with stage := .compositorPending })

def rejectPolicy (coordinator : OutputConfigurationCoordinator) :
    Option OutputConfigurationAcknowledged × OutputConfigurationCoordinator :=
  match coordinator.transaction with
  | some transaction =>
      if coordinator.stage ≠ .policyPending then (none, coordinator)
      else
        (some (coordinator.acknowledgement transaction.configurationId
          .policyRejected), coordinator.clearTransaction)
  | none => (none, coordinator)

def canAcceptCompositor (coordinator : OutputConfigurationCoordinator) :
    Bool :=
  coordinator.stage = .compositorPending && coordinator.transaction.isSome

def acceptCompositor (coordinator : OutputConfigurationCoordinator) :
    Bool × OutputConfigurationCoordinator :=
  if !coordinator.canAcceptCompositor then (false, coordinator)
  else (true, { coordinator with stage := .commitReady })

def beginRollback (coordinator : OutputConfigurationCoordinator)
    (rejection : OutputConfigurationResult) :
    Bool × OutputConfigurationCoordinator :=
  if !coordinator.canAcceptCompositor ||
      (rejection ≠ .compositorRejected && rejection ≠ .presenterRejected) then
    (false, coordinator)
  else
    (true, { coordinator with
      rollbackResult := rejection, stage := .rollbackPending })

def finishRollback (coordinator : OutputConfigurationCoordinator)
    (succeeded : Bool) :
    Option OutputConfigurationAcknowledged × OutputConfigurationCoordinator :=
  match coordinator.transaction with
  | some transaction =>
      if coordinator.stage ≠ .rollbackPending then (none, coordinator)
      else
        (some (coordinator.acknowledgement transaction.configurationId
          (if succeeded then coordinator.rollbackResult else .internalError)),
          coordinator.clearTransaction)
  | none => (none, coordinator)

/-- The answer names the layout just committed. -/
def commit (coordinator : OutputConfigurationCoordinator) :
    Option OutputConfigurationAcknowledged × OutputConfigurationCoordinator :=
  match coordinator.transaction with
  | some transaction =>
      if coordinator.stage ≠ .commitReady then (none, coordinator)
      else
        let committed := { coordinator with
          committedLayout := transaction.proposedLayout }.clearTransaction
        (some (committed.acknowledgement transaction.configurationId .accepted),
          committed)
  | none => (none, coordinator)

def failInternal (coordinator : OutputConfigurationCoordinator) :
    Option OutputConfigurationAcknowledged × OutputConfigurationCoordinator :=
  match coordinator.transaction with
  | some transaction =>
      (some (coordinator.acknowledgement transaction.configurationId
        .internalError), coordinator.clearTransaction)
  | none => (none, coordinator)

end OutputConfigurationCoordinator

end Glasswyrm.Server
