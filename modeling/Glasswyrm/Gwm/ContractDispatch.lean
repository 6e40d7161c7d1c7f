import Glasswyrm.Lifecycle.PolicyPeer
import Glasswyrm.Wm.Transaction

namespace Glasswyrm.Gwm

open Lifecycle Wm Library

/-! The window manager's side of the connection: a commit is evaluated and
answered with the policy's records.  The queue of the connection takes what the
preflight let through. -/

def maximumQueuedBytes : Nat := 16777216
def maximumQueuedMessages : Nat := 8192

inductive PolicyResult
  | accepted
  | rejectedIncompleteSnapshot
  | rejectedInvalidContext
  | rejectedInvalidWindow
  | rejectedUnknownReference
  | rejectedLimit
  | rejectedUnsupportedMetadata
deriving DecidableEq, Repr

def resultFrom : EvaluationError → PolicyResult
  | .none => .accepted
  | .incompleteSnapshot => .rejectedIncompleteSnapshot
  | .invalidContext => .rejectedInvalidContext
  | .invalidWindow => .rejectedInvalidWindow
  | .unknownReference => .rejectedUnknownReference
  | .limit => .rejectedLimit
  | .unsupportedMetadata => .rejectedUnsupportedMetadata
  | .outputFailure => .rejectedLimit

structure PolicyCommit where
  commitId : Nat
  producerGeneration : Nat
deriving DecidableEq, Repr

structure PolicyAcknowledged where
  commitId : Nat
  producerGeneration : Nat
  appliedGeneration : Nat
  policyHash : UInt64
  windowCount : Nat
  result : PolicyResult
deriving DecidableEq, Repr

/-- What the window manager sends; policy records as the bytes of their
payloads. -/
inductive PolicyMessage
  | snapshotBegin (snapshotId generation expectedItemCount : Nat)
  | bindings (payload : List UInt8)
  | windowState (payload : List UInt8)
  | snapshotEnd (snapshotId generation actualItemCount : Nat)
  | acknowledged (acknowledgement : PolicyAcknowledged)
deriving DecidableEq, Repr

/-! ## Records -/

def stateFrom (value : WindowState) : PolicyWindowState where
  windowId := value.windowId
  transientFor := value.transientFor
  workspaceId := value.workspaceId
  outputId := value.outputId
  finalX := value.finalX
  finalY := value.finalY
  finalWidth := value.finalWidth
  finalHeight := value.finalHeight
  stacking := value.stacking
  windowType := windowTypeValue value.windowType
  appliedState := value.appliedState.value
  visible := value.visible.toNat
  focused := value.focused.toNat
  managed := value.managed.toNat
  decorationEligible := value.decorationEligible.toNat
  overrideRedirect := value.overrideRedirect.toNat
  attentionRequested := value.attentionRequested.toNat
  fullscreenEligible := value.fullscreenEligible.value
  directScanoutEligible := value.directScanoutEligible.value

def defaultBindings : PolicyBindingsUpsert :=
  let bindings : InteractiveBindings := {}
  { moveModifiers := bindings.moveModifiers
    resizeModifiers := bindings.resizeModifiers
    closeModifiers := bindings.closeModifiers
    moveButton := bindings.moveButton
    resizeButton := bindings.resizeButton
    closeKeysym := bindings.closeKeysym
    minimumWidth := bindings.minimumWidth
    minimumHeight := bindings.minimumHeight
    raiseOnFocus := bindings.raiseOnFocus.toNat
    consumeWmBindings := bindings.consumeWmBindings.toNat }

def windowStatePayload (policy : PolicyState) (id : Nat) :
    Option (List UInt8) :=
  Ipc.makePayload Ipc.encodeWindowState Ipc.decodeWindowState
    (stateFrom (policy.windows[id]?.getD {}))

def bindingsPayload : Option (List UInt8) :=
  Ipc.makePayload Ipc.encodeBindings Ipc.decodeBindings defaultBindings

/-! ## Preflight -/

/-- The bytes queued after the states of these windows. -/
def queuedBytes (policy : PolicyState) : Nat → List Nat → Option Nat
  | bytes, [] => some bytes
  | bytes, id :: rest =>
      match windowStatePayload policy id with
      | none => none
      | some payload =>
          if payload.length > maximumQueuedBytes - bytes then none
          else queuedBytes policy (bytes + payload.length) rest

def preflightPolicy (policy : PolicyState) : Bool :=
  policy.windows.size ≤ maximumQueuedMessages - 3 &&
    (queuedBytes policy ((policy.windows.size + 3) * 40)
      policy.outputOrder).any (· ≤ maximumQueuedBytes)

def preflightInteractivePolicy (policy : PolicyState) : Bool :=
  preflightPolicy policy && policy.windows.size + 4 ≤ maximumQueuedMessages

/-! ## Answers -/

def enqueuePolicy (commit : PolicyCommit) (policy : PolicyState)
    (interactive : Bool) : Option (List PolicyMessage) :=
  let count := policy.outputOrder.length + (if interactive then 1 else 0)
  let bindings : Option (List PolicyMessage) :=
    if interactive then bindingsPayload.map fun payload => [.bindings payload]
    else some []
  bindings.bind fun bindings =>
    (policy.outputOrder.mapM (windowStatePayload policy)).map fun states =>
      [.snapshotBegin commit.commitId policy.generation count] ++ bindings ++
        states.map .windowState ++
        [.snapshotEnd commit.commitId policy.generation count,
          .acknowledged {
            commitId := commit.commitId
            producerGeneration := commit.producerGeneration
            appliedGeneration := policy.generation
            policyHash := policy.hash
            windowCount := policy.outputOrder.length
            result := .accepted }]

def enqueueRejection (commit : PolicyCommit) (previous : PolicyState)
    (result : PolicyResult) : List PolicyMessage :=
  [.acknowledged {
    commitId := commit.commitId
    producerGeneration := commit.producerGeneration
    appliedGeneration := previous.generation
    policyHash := previous.hash
    windowCount := previous.windows.size
    result }]

structure PeerState where
  transaction : Transaction := {}
  lastCommitId : Nat := 0
  lastGeneration : Nat := 0
deriving DecidableEq

/-- The policy that is sent for an accepted evaluation. -/
def acknowledgedPolicy (policy : PolicyState) (interactive : Bool) :
    PolicyState :=
  if interactive then
    { policy with hash := interactivePolicyHash policy {} }
  else policy

/-- The commit case of `dispatch_contract`; `none` where it returns false. -/
def dispatchCommit (peer : PeerState) (interactive multiOutput : Bool)
    (commit : PolicyCommit) : Option (PeerState × List PolicyMessage) :=
  let previous := peer.transaction.committedPolicy
  if commit.commitId ≤ peer.lastCommitId ||
      commit.producerGeneration < peer.lastGeneration then
    some (peer, enqueueRejection commit previous .rejectedInvalidWindow)
  else
    let peer := { peer with
      lastCommitId := commit.commitId
      lastGeneration := commit.producerGeneration }
    if multiOutput && peer.transaction.pending.outputs.isEmpty then
      some (peer,
        enqueueRejection commit previous .rejectedIncompleteSnapshot)
    else
      let preflight :=
        if interactive then preflightInteractivePolicy else preflightPolicy
      let (transaction, evaluation) :=
        peer.transaction.commit commit.producerGeneration preflight
      if evaluation.error = .outputFailure then none
      else if evaluation.error ≠ .none then
        some ({ peer with transaction },
          enqueueRejection commit transaction.committedPolicy
            (resultFrom evaluation.error))
      else
        let policy := acknowledgedPolicy evaluation.policy interactive
        let transaction :=
          if interactive then
            { transaction with
              committedPolicy :=
                { transaction.committedPolicy with hash := policy.hash } }
          else transaction
        (enqueuePolicy commit policy interactive).map fun messages =>
          ({ peer with transaction }, messages)

end Glasswyrm.Gwm
