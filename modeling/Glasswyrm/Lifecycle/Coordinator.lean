import Glasswyrm.Library.Run
import Glasswyrm.Lifecycle.Rebase

namespace Glasswyrm.Lifecycle

inductive CoordinatorPhase
  | idle
  | awaitingPolicy
  | awaitingCompositor
  | rollingBackPolicy
  | rollingBackCompositor
  | waitingForPeer
  | fatal
deriving DecidableEq, Repr

inductive EnqueueStatus
  | queued
  | full
  | fatal
deriving DecidableEq, Repr

/-- The callbacks act on the server's state `ω`.  `commit` and `complete` see
the active operation and the committed snapshot, as the runtime's handlers read
them back from the coordinator.  `followUp` is the operation that the
completion handler of a successful operation may enqueue before it returns. -/
structure LifecycleCallbacks (ω : Type u) where
  sendPolicy : Option (ω → LifecycleSnapshot → Bool × ω) := none
  sendCompositor : Option (ω → LifecycleSnapshot → Bool × ω) := none
  commit : Option (ω → Option LifecycleOperation → LifecycleSnapshot →
    Bool × ω) := none
  complete : Option (ω → Option LifecycleOperation → LifecycleSnapshot →
    Nat → Bool → ω) := none
  followUp : Option (ω → LifecycleOperation → LifecycleSnapshot →
    Option LifecycleOperation × ω) := none
  fatal : Option (ω → ω) := none
  rebase : Option (LifecycleSnapshot → LifecycleOperation →
    Option LifecycleSnapshot) := none
  prepareRollback : Option (ω → Bool × ω) := none

/-- What a run of the coordinator is observed to do. -/
inductive CoordinatorEvent
  | enqueued (operation : LifecycleOperation)
  | started (operation : LifecycleOperation)
  | policySent (snapshot : LifecycleSnapshot)
  | policyReturned (token : Nat) (evaluated : LifecycleSnapshot)
  | compositorSent (snapshot : LifecycleSnapshot)
  | committed (operation : LifecycleOperation) (snapshot : LifecycleSnapshot)
  | completed (token : Nat) (success : Bool)
  | replaced (snapshot : LifecycleSnapshot)
  | clientCanceled (client : Nat)
deriving DecidableEq

/-- `history` is not read by any method: it lists the events of the run,
newest first. -/
structure LifecycleCoordinator (ω : Type u) where
  committed : LifecycleSnapshot := {}
  evaluated : LifecycleSnapshot := {}
  queue : List LifecycleOperation := []
  active : Option LifecycleOperation := none
  maximumPending : Nat := 1024
  phase : CoordinatorPhase := .idle
  resumePhase : CoordinatorPhase := .idle
  world : ω
  history : List CoordinatorEvent := []

namespace LifecycleCoordinator

section

variable {ω : Type u}

def record (c : LifecycleCoordinator ω) (event : CoordinatorEvent) :
    LifecycleCoordinator ω :=
  { c with history := event :: c.history }

def inPhase (c : LifecycleCoordinator ω) (phase : CoordinatorPhase) :
    LifecycleCoordinator ω :=
  { c with phase := phase }

def withWorld (c : LifecycleCoordinator ω) (world : ω) :
    LifecycleCoordinator ω :=
  { c with world := world }

@[simp] theorem inPhase_phase (c : LifecycleCoordinator ω)
    (phase : CoordinatorPhase) : (c.inPhase phase).phase = phase := rfl

@[simp] theorem inPhase_resumePhase (c : LifecycleCoordinator ω)
    (phase : CoordinatorPhase) :
    (c.inPhase phase).resumePhase = c.resumePhase := rfl

@[simp] theorem inPhase_committed (c : LifecycleCoordinator ω)
    (phase : CoordinatorPhase) :
    (c.inPhase phase).committed = c.committed := rfl

@[simp] theorem inPhase_evaluated (c : LifecycleCoordinator ω)
    (phase : CoordinatorPhase) :
    (c.inPhase phase).evaluated = c.evaluated := rfl

@[simp] theorem inPhase_queue (c : LifecycleCoordinator ω)
    (phase : CoordinatorPhase) : (c.inPhase phase).queue = c.queue := rfl

@[simp] theorem inPhase_active (c : LifecycleCoordinator ω)
    (phase : CoordinatorPhase) : (c.inPhase phase).active = c.active := rfl

@[simp] theorem inPhase_history (c : LifecycleCoordinator ω)
    (phase : CoordinatorPhase) : (c.inPhase phase).history = c.history := rfl

@[simp] theorem withWorld_phase (c : LifecycleCoordinator ω) (world : ω) :
    (c.withWorld world).phase = c.phase := rfl

@[simp] theorem withWorld_resumePhase (c : LifecycleCoordinator ω)
    (world : ω) : (c.withWorld world).resumePhase = c.resumePhase := rfl

@[simp] theorem withWorld_committed (c : LifecycleCoordinator ω) (world : ω) :
    (c.withWorld world).committed = c.committed := rfl

@[simp] theorem withWorld_evaluated (c : LifecycleCoordinator ω) (world : ω) :
    (c.withWorld world).evaluated = c.evaluated := rfl

@[simp] theorem withWorld_queue (c : LifecycleCoordinator ω) (world : ω) :
    (c.withWorld world).queue = c.queue := rfl

@[simp] theorem withWorld_active (c : LifecycleCoordinator ω) (world : ω) :
    (c.withWorld world).active = c.active := rfl

@[simp] theorem withWorld_history (c : LifecycleCoordinator ω) (world : ω) :
    (c.withWorld world).history = c.history := rfl

@[simp] theorem withWorld_maximumPending (c : LifecycleCoordinator ω)
    (world : ω) : (c.withWorld world).maximumPending = c.maximumPending := rfl

@[simp] theorem withWorld_world (c : LifecycleCoordinator ω) (world : ω) :
    (c.withWorld world).world = world := rfl

@[simp] theorem withWorld_withWorld (c : LifecycleCoordinator ω)
    (first second : ω) :
    (c.withWorld first).withWorld second = c.withWorld second := rfl

end

variable {ω : Type u} (callbacks : LifecycleCallbacks ω)

def sendPolicy (c : LifecycleCoordinator ω) (snapshot : LifecycleSnapshot) :
    LifecycleCoordinator ω × Bool :=
  match callbacks.sendPolicy with
  | none => (c, false)
  | some send =>
      match send c.world snapshot with
      | (true, world) =>
          ((c.withWorld world).record (.policySent snapshot), true)
      | (false, world) => (c.withWorld world, false)

def sendCompositor (c : LifecycleCoordinator ω)
    (snapshot : LifecycleSnapshot) : LifecycleCoordinator ω × Bool :=
  match callbacks.sendCompositor with
  | none => (c, false)
  | some send =>
      match send c.world snapshot with
      | (true, world) =>
          ((c.withWorld world).record (.compositorSent snapshot), true)
      | (false, world) => (c.withWorld world, false)

def fatal (c : LifecycleCoordinator ω) : LifecycleCoordinator ω :=
  (c.withWorld (match callbacks.fatal with
    | none => c.world
    | some stop => stop c.world)).inPhase .fatal

/-- `queue_.size() + (active_ ? 1U : 0U)` -/
def pendingCount (c : LifecycleCoordinator ω) : Nat :=
  c.queue.length + if c.active.isSome then 1 else 0

/-- The part the four enqueue methods share: the two refusals, and otherwise
one insertion into the queue. -/
def insertQueued (c : LifecycleCoordinator ω) (operation : LifecycleOperation)
    (insert : LifecycleOperation → List LifecycleOperation →
      List LifecycleOperation) : LifecycleCoordinator ω × EnqueueStatus :=
  if c.phase = .fatal then (c, .fatal)
  else if c.pendingCount ≥ c.maximumPending then (c, .full)
  else
    ({ c with queue := insert operation c.queue }.record (.enqueued operation),
      .queued)

def pushBack (operation : LifecycleOperation)
    (queue : List LifecycleOperation) : List LifecycleOperation :=
  queue ++ [operation]

def pushFront (operation : LifecycleOperation)
    (queue : List LifecycleOperation) : List LifecycleOperation :=
  operation :: queue

def enqueuePaused (c : LifecycleCoordinator ω)
    (operation : LifecycleOperation) :
    LifecycleCoordinator ω × EnqueueStatus :=
  c.insertQueued operation pushBack

def enqueuePriorityPaused (c : LifecycleCoordinator ω)
    (operation : LifecycleOperation) :
    LifecycleCoordinator ω × EnqueueStatus :=
  c.insertQueued operation pushFront

/-- `callbacks_.complete(token, success)` -/
def complete (c : LifecycleCoordinator ω) (token : Nat) (success : Bool) :
    LifecycleCoordinator ω :=
  { c with
    world := match callbacks.complete with
      | none => c.world
      | some handler => handler c.world c.active c.committed token success
  }.record (.completed token success)

/-- The operation the completion handler enqueues, if any.  The coordinator
is neither idle nor without an active operation at that point, so `enqueue` and
`enqueue_paused` do the same. -/
def acceptFollowUp (c : LifecycleCoordinator ω)
    (operation : LifecycleOperation) : LifecycleCoordinator ω :=
  match callbacks.followUp with
  | none => c
  | some handler =>
      match handler c.world operation c.committed with
      | (none, world) => c.withWorld world
      | (some next, world) => ((c.withWorld world).enqueuePaused next).1

/-- The first half of `finish`: the completion of the active operation. -/
def release (c : LifecycleCoordinator ω) (operation : LifecycleOperation)
    (success : Bool) : LifecycleCoordinator ω :=
  let completed := c.complete callbacks operation.token success
  let informed :=
    if success then completed.acceptFollowUp callbacks operation
    else completed
  { informed with active := none, evaluated := {}, phase := .idle }

/-- The head of the queue becomes the active operation. -/
def begin (c : LifecycleCoordinator ω) (operation : LifecycleOperation)
    (rest : List LifecycleOperation) : LifecycleCoordinator ω :=
  { c with queue := rest, active := some operation }.record
    (.started operation)

def awaitPolicy (c : LifecycleCoordinator ω) (operation : LifecycleOperation)
    (proposed : LifecycleSnapshot) : LifecycleCoordinator ω :=
  { c with
    active := some { operation with proposed := proposed }
    phase := .awaitingPolicy }

/-- The active operation's proposal goes to the policy peer. -/
def submit (c : LifecycleCoordinator ω) (operation : LifecycleOperation)
    (proposed : LifecycleSnapshot) : LifecycleCoordinator ω :=
  match (c.awaitPolicy operation proposed).sendPolicy callbacks proposed with
  | (sent, true) => sent
  | (failed, false) => failed.fatal callbacks

/-- `start_next` and the second half of `finish` call each other until an
operation is submitted or the queue is empty.  `skipping` is true in the loop
of `finish` that drops canceled entries from the front. -/
def advance (skipping : Bool) (c : LifecycleCoordinator ω) :
    List LifecycleOperation → LifecycleCoordinator ω
  | [] => { c with queue := [] }
  | operation :: rest =>
      if skipping && operation.canceled then
        advance true
          (({ c with queue := rest } : LifecycleCoordinator ω).complete
            callbacks operation.token false) rest
      else
        let begun := c.begin operation rest
        match callbacks.rebase with
        | none => begun.submit callbacks operation operation.proposed
        | some rebase =>
            match rebase begun.committed operation with
            | some proposed => begun.submit callbacks operation proposed
            | none =>
                advance true (begun.release callbacks operation false) rest

def startNext (c : LifecycleCoordinator ω) : LifecycleCoordinator ω × Bool :=
  if c.active.isSome || c.queue.isEmpty then (c, true)
  else
    let started := advance callbacks false c c.queue
    (started, started.phase ≠ .fatal)

def finish (c : LifecycleCoordinator ω) (operation : LifecycleOperation)
    (success : Bool) : LifecycleCoordinator ω :=
  let released := c.release callbacks operation success
  advance callbacks true released released.queue

/-- The tail of `enqueue` and `enqueue_priority`: an idle coordinator starts
the next operation. -/
def startQueued (c : LifecycleCoordinator ω) :
    LifecycleCoordinator ω × EnqueueStatus :=
  if c.phase = .idle then
    match c.startNext callbacks with
    | (started, true) => (started, .queued)
    | (started, false) => (started, .fatal)
  else (c, .queued)

def enqueue (c : LifecycleCoordinator ω) (operation : LifecycleOperation) :
    LifecycleCoordinator ω × EnqueueStatus :=
  match c.enqueuePaused operation with
  | (inserted, .queued) => inserted.startQueued callbacks
  | (refused, status) => (refused, status)

def enqueuePriority (c : LifecycleCoordinator ω)
    (operation : LifecycleOperation) :
    LifecycleCoordinator ω × EnqueueStatus :=
  match c.enqueuePriorityPaused operation with
  | (inserted, .queued) => inserted.startQueued callbacks
  | (refused, status) => (refused, status)

def resume (c : LifecycleCoordinator ω) : LifecycleCoordinator ω × Bool :=
  if c.phase ≠ .idle ∨ c.active.isSome then (c, false)
  else c.startNext callbacks

/-- A send that turns the coordinator fatal when it fails. -/
def sendPolicyOrFatal (c : LifecycleCoordinator ω)
    (snapshot : LifecycleSnapshot) : LifecycleCoordinator ω × Bool :=
  match c.sendPolicy callbacks snapshot with
  | (sent, true) => (sent, true)
  | (failed, false) => (failed.fatal callbacks, false)

def sendCompositorOrFatal (c : LifecycleCoordinator ω)
    (snapshot : LifecycleSnapshot) : LifecycleCoordinator ω × Bool :=
  match c.sendCompositor callbacks snapshot with
  | (sent, true) => (sent, true)
  | (failed, false) => (failed.fatal callbacks, false)

/-- The three places that undo an evaluated operation begin with
`prepare_rollback` and send the committed snapshot to the policy peer. -/
def beginRollback (c : LifecycleCoordinator ω) :
    LifecycleCoordinator ω × Bool :=
  let rollBack (prepared : LifecycleCoordinator ω) :=
    (prepared.inPhase .rollingBackPolicy).sendPolicyOrFatal callbacks
      prepared.committed
  match callbacks.prepareRollback with
  | none => rollBack c
  | some prepare =>
      match prepare c.world with
      | (true, world) => rollBack (c.withWorld world)
      | (false, world) => ((c.withWorld world).fatal callbacks, false)

/-- `evaluated_ = std::move(evaluated)` for the active operation. -/
def keepEvaluated (c : LifecycleCoordinator ω)
    (operation : LifecycleOperation) (evaluated : LifecycleSnapshot) :
    LifecycleCoordinator ω :=
  { c with evaluated := evaluated }.record
    (.policyReturned operation.token evaluated)

def policyAccepted (c : LifecycleCoordinator ω)
    (evaluated : LifecycleSnapshot) : LifecycleCoordinator ω × Bool :=
  match c.active with
  | none => (c, false)
  | some operation =>
      if c.phase = .rollingBackPolicy then
        (c.inPhase .rollingBackCompositor).sendCompositorOrFatal callbacks
          c.committed
      else if c.phase ≠ .awaitingPolicy then (c, false)
      else
        let returned := c.keepEvaluated operation evaluated
        if operation.canceled then returned.beginRollback callbacks
        else
          (returned.inPhase .awaitingCompositor).sendCompositorOrFatal
            callbacks evaluated

def policyRejected (c : LifecycleCoordinator ω) :
    LifecycleCoordinator ω × Bool :=
  match c.active with
  | none => (c, false)
  | some operation =>
      if c.phase ≠ .awaitingPolicy then (c, false)
      else (c.finish callbacks operation false, true)

/-- `callbacks_.commit && callbacks_.commit(evaluated_)` -/
def commit (c : LifecycleCoordinator ω) : LifecycleCoordinator ω × Bool :=
  match callbacks.commit with
  | none => (c, false)
  | some handler =>
      match handler c.world c.active c.evaluated with
      | (success, world) => (c.withWorld world, success)

/-- `committed_ = evaluated_` -/
def store (c : LifecycleCoordinator ω) (operation : LifecycleOperation) :
    LifecycleCoordinator ω :=
  { c with committed := c.evaluated }.record (.committed operation c.evaluated)

def compositorAccepted (c : LifecycleCoordinator ω) :
    LifecycleCoordinator ω × Bool :=
  match c.active with
  | none => (c, false)
  | some operation =>
      if c.phase = .awaitingCompositor then
        if operation.canceled then c.beginRollback callbacks
        else
          match c.commit callbacks with
          | (failed, false) => (failed.fatal callbacks, false)
          | (stored, true) =>
              ((stored.store operation).finish callbacks operation true, true)
      else if c.phase = .rollingBackCompositor then
        (c.finish callbacks operation false, true)
      else (c, false)

def compositorRejected (c : LifecycleCoordinator ω) :
    LifecycleCoordinator ω × Bool :=
  if c.phase ≠ .awaitingCompositor ∨ c.active.isNone then (c, false)
  else c.beginRollback callbacks

/-- A resumed phase with no active operation sends the empty proposal; the
invariant below shows that it does not happen. -/
def peerSynchronized (c : LifecycleCoordinator ω) :
    LifecycleCoordinator ω × Bool :=
  if c.phase ≠ .waitingForPeer then (c, false)
  else
    let resumed := c.inPhase c.resumePhase
    match c.resumePhase with
    | .awaitingPolicy =>
        resumed.sendPolicyOrFatal callbacks
          ((c.active.map (·.proposed)).getD {})
    | .rollingBackPolicy => resumed.sendPolicyOrFatal callbacks c.committed
    | .awaitingCompositor =>
        resumed.sendCompositorOrFatal callbacks c.evaluated
    | _ => resumed.sendCompositorOrFatal callbacks c.committed

def peerDisconnected (c : LifecycleCoordinator ω) : LifecycleCoordinator ω :=
  if c.phase = .fatal ∨ c.phase = .idle ∨ c.phase = .waitingForPeer then c
  else { c with resumePhase := c.phase, phase := .waitingForPeer }

def cancelOperation (client : Nat) (operation : LifecycleOperation) :
    LifecycleOperation :=
  if operation.clientId = client then { operation with canceled := true }
  else operation

def cancelClient (c : LifecycleCoordinator ω) (client : Nat) :
    LifecycleCoordinator ω :=
  { c with
    queue := c.queue.map (cancelOperation client)
    active := c.active.map (cancelOperation client)
  }.record (.clientCanceled client)

def canReplaceCommitted (c : LifecycleCoordinator ω) : Bool :=
  c.phase = .idle && c.active.isNone

def replaceCommitted (c : LifecycleCoordinator ω)
    (committed : LifecycleSnapshot) : LifecycleCoordinator ω × Bool :=
  if c.canReplaceCommitted then
    ({ c with committed := committed }.record (.replaced committed), true)
  else (c, false)

/-- The snapshot whose evaluation the policy peer owes. -/
def pendingPolicySnapshot (c : LifecycleCoordinator ω) :
    Option LifecycleSnapshot :=
  match c.active, c.phase with
  | some operation, .awaitingPolicy => some operation.proposed
  | some _, .rollingBackPolicy => some c.committed
  | _, _ => none

end LifecycleCoordinator

/-- One call on the coordinator, or (`environment`) a change of the server's
state between two calls. -/
inductive CoordinatorInput (ω : Type u)
  | enqueue (operation : LifecycleOperation)
  | enqueuePaused (operation : LifecycleOperation)
  | enqueuePriority (operation : LifecycleOperation)
  | enqueuePriorityPaused (operation : LifecycleOperation)
  | resume
  | policyAccepted (evaluated : LifecycleSnapshot)
  | policyRejected
  | compositorAccepted
  | compositorRejected
  | peerDisconnected
  | peerSynchronized
  | cancelClient (client : Nat)
  | replaceCommitted (committed : LifecycleSnapshot)
  | environment (world : ω)

namespace LifecycleCoordinator

variable {ω : Type u} (callbacks : LifecycleCallbacks ω)

def step (c : LifecycleCoordinator ω) :
    CoordinatorInput ω → LifecycleCoordinator ω
  | .enqueue operation => (c.enqueue callbacks operation).1
  | .enqueuePaused operation => (c.enqueuePaused operation).1
  | .enqueuePriority operation => (c.enqueuePriority callbacks operation).1
  | .enqueuePriorityPaused operation => (c.enqueuePriorityPaused operation).1
  | .resume => (c.resume callbacks).1
  | .policyAccepted evaluated => (c.policyAccepted callbacks evaluated).1
  | .policyRejected => (c.policyRejected callbacks).1
  | .compositorAccepted => (c.compositorAccepted callbacks).1
  | .compositorRejected => (c.compositorRejected callbacks).1
  | .peerDisconnected => c.peerDisconnected
  | .peerSynchronized => (c.peerSynchronized callbacks).1
  | .cancelClient client => c.cancelClient client
  | .replaceCommitted committed => (c.replaceCommitted committed).1
  | .environment world => c.withWorld world

/-- A coordinator as its constructor leaves it. -/
def initial (committed : LifecycleSnapshot) (maximumPending : Nat)
    (world : ω) : LifecycleCoordinator ω where
  committed := committed
  maximumPending := maximumPending
  world := world

end LifecycleCoordinator

end Glasswyrm.Lifecycle
