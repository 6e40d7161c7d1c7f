import Glasswyrm.Library.Lending
import Glasswyrm.Gwcomp.CompositorRun

namespace Glasswyrm.Gwcomp

open Glasswyrm.Compositor Drm Library

/-! The messages of a peer and the events of the reactor, with the releases
that each of them sends. -/

/-- A snapshot begin of another domain than the complete session reaches the
dispatcher as well. -/
inductive ContractMessage
  | snapshotBegin (completeSession : Bool) (generation : Nat)
  | snapshotEnd
  | snapshotAbort
  | mutation (mutation : Mutation)
  | frameCommit (value : FrameCommit) (acknowledge : Bool)
      (replies : CommitReplies)

structure ContractDispatchResult where
  acknowledged : Option (FrameCommit × PresentedFrame) := none
  released : List (Nat × BufferReleaseReason) := []
  acceptedFrame : Bool := false
  pendingFrame : Bool := false
  fatal : Bool := false

/-- What the profile of a peer lets it send. -/
def PeerProfile.admits (profile : PeerProfile) : Mutation → Bool
  | .surfacePolicy _ => profile ≠ .m4TestProducer
  | .surfaceDamage _ => profile ≠ .m6MetadataProtocolServer
  | .attach _ _ => profile ≠ .m6MetadataProtocolServer
  | .detach _ => profile ≠ .m6MetadataProtocolServer
  | _ => true

namespace Compositor

def enqueueReleases (compositor : Compositor) :
    Compositor × List (Nat × BufferReleaseReason) :=
  (compositor.clearReleases, compositor.releases.toList)

def finishFrame (compositor : Compositor) (commit : FrameCommit)
    (frame : PresentedFrame) : Compositor × ContractDispatchResult :=
  let (drained, released) := compositor.enqueueReleases
  (drained,
    { acknowledged := some (commit, frame)
      released
      acceptedFrame := frame.result = .accepted })

def dispatchContractMessage (compositor : Compositor) :
    ContractMessage → Compositor × ContractDispatchResult
  | .snapshotBegin completeSession generation =>
      (if completeSession then
        compositor.step (.beginSnapshot generation)
      else compositor, {})
  | .snapshotEnd => (compositor.step .endSnapshot, {})
  | .snapshotAbort => (compositor.step .abortSnapshot, {})
  | .mutation mutation =>
      let applied :=
        if compositor.profile.admits mutation then compositor.mutate mutation
        else compositor
      let (drained, released) := applied.enqueueReleases
      (drained, { released })
  | .frameCommit value acknowledge replies =>
      let (next, report) := compositor.commit value replies
      let frame :=
        if acknowledge then report.frame
        else { report.frame with result := .rejectedIncompleteMetadata }
      if frame.disposition = .pending then
        (next, { pendingFrame := true, fatal := !acknowledge })
      else
        let (drained, result) := next.finishFrame value frame
        (drained, { result with fatal := frame.disposition = .fatal })

end Compositor

structure Runtime where
  compositor : Compositor
  peerValidated : Bool := false

inductive RuntimeEvent
  | validate (profile : PeerProfile) (cpuBufferSynchronization : Bool)
      (sceneProfile : SceneProfile)
      (primaryOutputId outputLayoutGeneration : Nat)
  | message (message : ContractMessage)
  | presentation (replies : ServiceReplies)
  | abort
  | suspend (suspended : BackendStateResult)
  | resume (resumed : PresentResult)
  | disconnect

namespace Runtime

def initial (timeout : Nat) (sceneManifest : Bool) : Runtime :=
  { compositor := .initial timeout sceneManifest }

def servicePresentation (runtime : Runtime) (replies : ServiceReplies) :
    Runtime × ContractDispatchResult :=
  if !runtime.compositor.presentationPending then (runtime, {})
  else
    let (next, report) := runtime.compositor.servicePresentation replies
    match report.completion.kind with
    | .none => ({ runtime with compositor := next }, {})
    | .fatal => ({ runtime with compositor := next }, { fatal := true })
    | .complete =>
        let (drained, result) := next.finishFrame report.completion.commit
          report.completion.frame
        ({ runtime with compositor := drained }, result)

def advance (runtime : Runtime) :
    RuntimeEvent → Runtime × ContractDispatchResult
  | .validate profile synchronization sceneProfile primary generation =>
      if runtime.peerValidated then (runtime, {})
      else
        ({ compositor := runtime.compositor.connect profile synchronization
              sceneProfile primary generation
           peerValidated := (runtime.compositor.configureSceneProfile
              sceneProfile primary generation).isSome }, {})
  | .message message =>
      if !runtime.peerValidated then (runtime, {})
      else
        let (next, result) :=
          runtime.compositor.dispatchContractMessage message
        ({ runtime with compositor := next }, result)
  | .presentation replies => runtime.servicePresentation replies
  | .abort => ({ runtime with compositor := runtime.compositor.abort }, {})
  | .suspend suspended =>
      ({ runtime with
          compositor := runtime.compositor.step (.suspend suspended) }, {})
  | .resume resumed =>
      ({ runtime with
          compositor := runtime.compositor.step (.resume resumed) }, {})
  | .disconnect =>
      ({ compositor := runtime.compositor.disconnect
         peerValidated := false }, {})

def step (runtime : Runtime) (event : RuntimeEvent) : Runtime :=
  (runtime.advance event).1

/-! ## The buffers that are out -/

/-- A buffer is lent to the compositor when its attachment succeeds, and the
buffers of a peer that is gone are forgotten. -/
def lent (runtime : Runtime) : RuntimeEvent → List (LoanEvent Nat)
  | .message (.mutation mutation) =>
      if runtime.peerValidated && runtime.compositor.profile.admits mutation
      then ((runtime.compositor.attachedBuffer mutation).map .lend).toList
      else []
  | .validate _ _ sceneProfile primary generation =>
      if runtime.peerValidated || (runtime.compositor.configureSceneProfile
          sceneProfile primary generation).isSome then []
      else [.reset]
  | .disconnect => [.reset]
  | _ => []

/-- The releases of an attachment that failed return nothing. -/
def returned (released : List (Nat × BufferReleaseReason)) :
    List (LoanEvent Nat) :=
  (released.filter (·.2 ≠ .invalid)).map (.release ·.1)

def loans (runtime : Runtime) (event : RuntimeEvent) : List (LoanEvent Nat) :=
  runtime.lent event ++ returned (runtime.advance event).2.released

def loansAlong : Runtime → List RuntimeEvent → List (LoanEvent Nat)
  | _, [] => []
  | runtime, event :: rest =>
      runtime.loans event ++ loansAlong (runtime.step event) rest

end Runtime

end Glasswyrm.Gwcomp
