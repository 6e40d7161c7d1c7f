import Glasswyrm.Server.OutputConfiguration

namespace Glasswyrm.Server

open Output Compositor

/-! The control peers share one coordinator.  A message that is refused ends
its peer's connection; one answer at a time is owed to a peer. -/

def maximumOutputControlPeers : Nat := 8
def snapshotItemFlag : Nat := 8

inductive SnapshotDomain
  | outputs
  | other
deriving DecidableEq, Repr

structure SnapshotBegin where
  snapshotId : Nat
  generation : Nat
  domain : SnapshotDomain
  expectedItemCount : Nat
  flags : Nat := 0
deriving DecidableEq, Repr

structure SnapshotEnd where
  snapshotId : Nat
  generation : Nat
  actualItemCount : Nat
deriving DecidableEq, Repr

/-- The messages of a control peer.  A query is given by whether its answer
can be built and queued; `refused` stands for a message of another type, one
that carries descriptors and one that does not decode. -/
inductive ControlMessage
  | snapshotBegin (value : SnapshotBegin) (flags replyTo : Nat)
  | outputUpsert (value : OutputUpsert) (flags replyTo : Nat)
  | snapshotEnd (value : SnapshotEnd) (flags replyTo : Nat)
  | outputStateQuery (published : Bool)
  | outputConfigurationCommit (value : OutputConfigurationCommit)
  | refused
deriving DecidableEq, Repr

structure StagedSnapshot where
  snapshotId : Nat := 0
  generation : Nat := 0
  expectedCount : Nat := 0
  actualCount : Nat := 0
  outputs : List OutputUpsert := []
  reading : Bool := false
  complete : Bool := false
deriving DecidableEq, Repr

structure PendingReply where
  peerId : Nat
  sequence : Nat
  requestId : Nat
deriving DecidableEq, Repr

structure OutputControlPeer where
  peers : KeyMap StagedSnapshot := ∅
  coordinator : OutputConfigurationCoordinator
  pendingReply : Option PendingReply := none
  nextPeerId : Nat := 1
  nextSnapshotId : Nat := 1
deriving DecidableEq

/-- An answer made for a peer, and whether it was queued to it. -/
structure Answer where
  peerId : Nat
  sequence : Nat
  acknowledged : OutputConfigurationAcknowledged
  queued : Bool
deriving DecidableEq, Repr

/-! ## The wire -/

def validCommit (value : OutputConfigurationCommit) : Bool :=
  value.configurationId ≠ 0 && value.baseGeneration ≠ 0 &&
    value.primaryOutputId ≠ 0 && value.flags = 0

/-- An answer that decodes; encoding one checks that it does. -/
def validAcknowledged (value : OutputConfigurationAcknowledged) : Bool :=
  value.requestId ≠ 0 && value.appliedGeneration ≠ 0 && value.flags = 0 &&
    value.primaryOutputId ≠ 0 && value.rootLogicalWidth ≠ 0 &&
    value.rootLogicalWidth ≤ kMaximumRootLogicalWidth &&
    value.rootLogicalHeight ≠ 0 &&
    value.rootLogicalHeight ≤ kMaximumRootLogicalHeight &&
    1 ≤ value.enabledOutputCount && value.enabledOutputCount ≤ kMaximumOutputs

namespace OutputControlPeer

def start (inventory : OutputLayout) : OutputControlPeer where
  coordinator := .start inventory

def disconnect (server : OutputControlPeer) (peerId : Nat) :
    OutputControlPeer :=
  { server with peers := server.peers.erase peerId }

def stage (server : OutputControlPeer) (peerId : Nat)
    (staged : StagedSnapshot) : OutputControlPeer :=
  { server with peers := server.peers.insert peerId staged }

/-- Peers are numbered without repetition; the counter stops at its end. -/
def acceptPeer (server : OutputControlPeer) : OutputControlPeer :=
  if maximumOutputControlPeers ≤ server.peers.size || server.nextPeerId = 0 then
    server
  else
    { server.stage server.nextPeerId {} with
      nextPeerId := (server.nextPeerId + 1) % (generationMaximum + 1) }

/-- Whether a message is accepted, and the answer made at once. -/
structure Consumed where
  accepted : Bool
  server : OutputControlPeer
  answer : Option Answer := none

def consumeBegin (server : OutputControlPeer) (peerId : Nat)
    (staged : StagedSnapshot) (value : SnapshotBegin) (flags replyTo : Nat) :
    Consumed :=
  if flags ≠ 0 || replyTo ≠ 0 || value.domain ≠ .outputs || value.flags ≠ 0 ||
      value.snapshotId = 0 || value.generation = 0 ||
      value.expectedItemCount = 0 ||
      kMaximumOutputs < value.expectedItemCount || staged.reading ||
      staged.complete then
    { accepted := false, server }
  else
    { accepted := true
      server := server.stage peerId
        { snapshotId := value.snapshotId
          generation := value.generation
          expectedCount := value.expectedItemCount
          reading := true } }

def consumeOutput (server : OutputControlPeer) (peerId : Nat)
    (staged : StagedSnapshot) (value : OutputUpsert) (flags replyTo : Nat) :
    Consumed :=
  if !staged.reading || staged.complete ||
      staged.expectedCount ≤ staged.outputs.length ||
      flags ≠ snapshotItemFlag || replyTo ≠ 0 then
    { accepted := false, server }
  else
    { accepted := true
      server := server.stage peerId
        { staged with outputs := staged.outputs ++ [value] } }

def consumeEnd (server : OutputControlPeer) (peerId : Nat)
    (staged : StagedSnapshot) (value : SnapshotEnd) (flags replyTo : Nat) :
    Consumed :=
  if !staged.reading || staged.complete || flags ≠ 0 || replyTo ≠ 0 ||
      value.snapshotId ≠ staged.snapshotId ||
      value.generation ≠ staged.generation ||
      value.actualItemCount ≠ staged.outputs.length ||
      value.actualItemCount ≠ staged.expectedCount then
    { accepted := false, server }
  else
    { accepted := true
      server := server.stage peerId
        { staged with
          actualCount := value.actualItemCount
          reading := false
          complete := true } }

def takeSnapshotId (server : OutputControlPeer) : Nat × OutputControlPeer :=
  if server.nextSnapshotId = 0 then (0, server)
  else
    (server.nextSnapshotId, { server with
      nextSnapshotId :=
        if server.nextSnapshotId = generationMaximum then 0
        else server.nextSnapshotId + 1 })

def consumeQuery (server : OutputControlPeer) (published : Bool) : Consumed :=
  let (snapshotId, server) := server.takeSnapshotId
  { accepted := decide (snapshotId ≠ 0) && published, server }

/-- The peer's snapshot is handed over to the coordinator. -/
def handOver (coordinator : OutputConfigurationCoordinator)
    (staged : StagedSnapshot) : OutputConfigurationCoordinator :=
  let (status, begun) :=
    coordinator.beginSnapshot staged.snapshotId staged.expectedCount
  if status = .accepted then
    let collected := staged.outputs.foldl
      (fun coordinator output => (coordinator.stageOutput output).2) begun
    (collected.endSnapshot staged.snapshotId staged.actualCount).2
  else begun

/-- The coordinator's verdict on a request with the peer's snapshot. -/
def judge (coordinator : OutputConfigurationCoordinator)
    (staged : StagedSnapshot) (request : OutputConfigurationCommit) :
    Option OutputConfigurationAcknowledged × OutputConfigurationCoordinator :=
  if coordinator.transaction.isSome then coordinator.submit request
  else if staged.complete then (handOver coordinator staged).submit request
  else coordinator.submit request

def consumeCommit (server : OutputControlPeer) (peerId sequence : Nat)
    (staged : StagedSnapshot) (request : OutputConfigurationCommit)
    (room : Bool) : Consumed :=
  if !validCommit request || server.pendingReply.isSome then
    { accepted := false, server }
  else
    let (result, coordinator) := judge server.coordinator staged request
    let judged := { server.stage peerId {} with coordinator }
    match result with
    | some acknowledged =>
        let queued := room && validAcknowledged acknowledged
        { accepted := queued
          server := judged
          answer := some { peerId, sequence, acknowledged, queued } }
    | none =>
        { accepted := true
          server := { judged with
            pendingReply := some
              { peerId, sequence, requestId := request.configurationId } } }

/-- One message of a connected peer; `room` tells whether the connection can
queue an answer. -/
def receive (server : OutputControlPeer) (peerId sequence : Nat)
    (message : ControlMessage) (room : Bool) :
    OutputControlPeer × Option Answer :=
  match server.peers[peerId]? with
  | none => (server, none)
  | some staged =>
      let consumed : Consumed :=
        match message with
        | .snapshotBegin value flags replyTo =>
            server.consumeBegin peerId staged value flags replyTo
        | .outputUpsert value flags replyTo =>
            server.consumeOutput peerId staged value flags replyTo
        | .snapshotEnd value flags replyTo =>
            server.consumeEnd peerId staged value flags replyTo
        | .outputStateQuery published => server.consumeQuery published
        | .outputConfigurationCommit request =>
            server.consumeCommit peerId sequence staged request room
        | .refused => { accepted := false, server }
      (if consumed.accepted then consumed.server
        else consumed.server.disconnect peerId, consumed.answer)

/-- The coordinator's answer goes to the peer it is owed to, if that peer is
still there. -/
def finishTransaction (server : OutputControlPeer)
    (result : Option OutputConfigurationAcknowledged) (room : Bool) :
    OutputControlPeer × Option Answer :=
  match result, server.pendingReply with
  | some acknowledged, some reply =>
      if acknowledged.requestId ≠ reply.requestId then (server, none)
      else
        let answered := { server with pendingReply := none }
        let connected := server.peers.contains reply.peerId
        let queued := connected && room && validAcknowledged acknowledged
        let answer : Answer :=
          { peerId := reply.peerId
            sequence := reply.sequence
            acknowledged
            queued }
        (if connected && !queued then answered.disconnect reply.peerId
          else answered, some answer)
  | _, _ => (server, none)

/-- A verdict of the coordinator is taken over with its answer. -/
def settle (server : OutputControlPeer)
    (verdict : Option OutputConfigurationAcknowledged ×
      OutputConfigurationCoordinator) (room : Bool) :
    OutputControlPeer × Option Answer :=
  { server with coordinator := verdict.2 }.finishTransaction verdict.1 room

def acknowledgePolicyRejected (server : OutputControlPeer) (room : Bool) :
    OutputControlPeer × Option Answer :=
  server.settle server.coordinator.rejectPolicy room

def acknowledgeRollback (server : OutputControlPeer) (succeeded room : Bool) :
    OutputControlPeer × Option Answer :=
  server.settle (server.coordinator.finishRollback succeeded) room

def acknowledgeCommitted (server : OutputControlPeer) (room : Bool) :
    OutputControlPeer × Option Answer :=
  server.settle server.coordinator.commit room

def acknowledgeInternalError (server : OutputControlPeer) (room : Bool) :
    OutputControlPeer × Option Answer :=
  server.settle server.coordinator.failInternal room

end OutputControlPeer

/-! ## Events -/

/-- What happens to the control peers: the peers' side, and the outcomes that
the window manager and the compositor bring about. -/
inductive ControlEvent
  | connect
  | receive (peerId sequence : Nat) (message : ControlMessage) (room : Bool)
  | close (peerId : Nat)
  | policyAccepted
  | policyRejected (room : Bool)
  | compositorAccepted
  | compositorRejected (result : OutputConfigurationResult)
  | rolledBack (succeeded room : Bool)
  | committed (room : Bool)
  | internalError (room : Bool)
deriving DecidableEq, Repr

def OutputControlPeer.handle (server : OutputControlPeer) :
    ControlEvent → OutputControlPeer × Option Answer
  | .connect => (server.acceptPeer, none)
  | .receive peerId sequence message room =>
      server.receive peerId sequence message room
  | .close peerId => (server.disconnect peerId, none)
  | .policyAccepted =>
      ({ server with coordinator := server.coordinator.acceptPolicy.2 }, none)
  | .policyRejected room => server.acknowledgePolicyRejected room
  | .compositorAccepted =>
      ({ server with coordinator := server.coordinator.acceptCompositor.2 },
        none)
  | .compositorRejected result =>
      ({ server with
        coordinator := (server.coordinator.beginRollback result).2 }, none)
  | .rolledBack succeeded room => server.acknowledgeRollback succeeded room
  | .committed room => server.acknowledgeCommitted room
  | .internalError room => server.acknowledgeInternalError room

end Glasswyrm.Server
