import Glasswyrm.Compositor.Scene
import Glasswyrm.Drm.Presenter
import Glasswyrm.Render.MultiOutput

namespace Glasswyrm.Gwcomp

open Glasswyrm.Compositor Drm Render

/-! The compositor of one process: the scene, the buffers attached to its
surfaces, the frames it retains, and the presentation that is under way.  What
the renderer, the presentation backend, the manifest, the clock and the
operating system answer is an input of the operation that asks. -/

inductive PeerProfile
  | m4TestProducer
  | m6MetadataProtocolServer
  | m7BufferedProtocolServer
deriving DecidableEq, Repr

inductive FrameDisposition
  | complete
  | pending
  | rejected
  | fatal
deriving DecidableEq, Repr

structure PresentedFrame where
  disposition : FrameDisposition := .rejected
  result : FrameResult := .rejectedIncompleteMetadata
  generation : Nat := 0
  ordinal : Nat := 0
  hash : UInt64 := 0
deriving DecidableEq, Repr

inductive CompletionKind
  | none
  | complete
  | fatal
deriving DecidableEq, Repr

structure PresentationCompletion where
  kind : CompletionKind := .none
  commit : FrameCommit := {}
  frame : PresentedFrame := {}
deriving DecidableEq, Repr

abbrev AttachmentMap := KeyMap Nat
abbrev ReleaseMap := KeyMap BufferReleaseReason

/-- The state that a presentation installs once it completes. -/
structure PresentationTransaction where
  candidate : SceneModel
  attachments : AttachmentMap
  releases : ReleaseMap
  frame : SoftwareFrame
  frameSet : Option SoftwareFrameSet
  commit : FrameCommit
  presented : PresentedFrame
  manifest : Option UInt64
  token : Nat
  deadline : Nat

structure PendingBufferReadiness where
  commit : FrameCommit
  mappings : List BufferMapping
  next : Nat
  deadline : Nat

structure Compositor where
  scene : SceneModel := {}
  mappings : KeyMap BufferMapping := ∅
  pendingAttachments : AttachmentMap := ∅
  committedAttachments : AttachmentMap := ∅
  preSnapshotAttachments : AttachmentMap := ∅
  output : SoftwareFrame := {}
  outputSet : Option SoftwareFrameSet := none
  pendingPresentation : Option PresentationTransaction := none
  pendingBufferReadiness : Option PendingBufferReadiness := none
  timeout : Nat := 2000
  presentationSuspended : Bool := false
  sceneManifest : Bool := false
  releases : ReleaseMap := ∅
  frameOrdinal : Nat := 0
  lastCommitId : Nat := 0
  lastGeneration : Nat := 0
  snapshotActive : Bool := false
  snapshotInvalid : Bool := false
  snapshotSurfaceIds : List Nat := []
  snapshotPolicyIds : List Nat := []
  snapshotOutputIds : List Nat := []
  snapshotSurfaceOutputIds : List Nat := []
  primaryOutputId : Nat := 0
  outputLayoutGeneration : Nat := 0
  profile : PeerProfile := .m4TestProducer
  cpuBufferSynchronization : Bool := false

/-- The hash of what is shown: of the frame set where there is one. -/
def canonicalHash (frame : SoftwareFrame) : Option SoftwareFrameSet → UInt64
  | some frames => frames.aggregateHash
  | none => frame.visibleHash

namespace Compositor

def presentationPending (compositor : Compositor) : Bool :=
  compositor.pendingBufferReadiness.isSome ||
    compositor.pendingPresentation.isSome

def clearSnapshotIds (compositor : Compositor) : Compositor :=
  { compositor with
    snapshotSurfaceIds := []
    snapshotPolicyIds := []
    snapshotOutputIds := []
    snapshotSurfaceOutputIds := [] }

def configureSceneProfile (compositor : Compositor) (profile : SceneProfile)
    (primaryOutputId outputLayoutGeneration : Nat) : Option Compositor :=
  if compositor.presentationPending || compositor.snapshotActive ||
      compositor.scene.initialSnapshotReceived ||
      (profile = .outputModel &&
        (primaryOutputId = 0 || outputLayoutGeneration = 0)) ||
      (profile = .historical &&
        (primaryOutputId ≠ 0 || outputLayoutGeneration ≠ 0)) then none
  else
    some { compositor with
      scene := { profile }, primaryOutputId, outputLayoutGeneration }

/-! ## Snapshots -/

def beginSnapshot (compositor : Compositor) (generation : Nat) :
    Option Compositor :=
  if compositor.presentationPending || compositor.snapshotActive then none
  else
    let opened :=
      if compositor.scene.profile = .outputModel then
        compositor.scene.beginOutputSnapshot compositor.primaryOutputId
          generation
      else compositor.scene.beginCompleteSnapshot
    opened.map fun scene =>
      { compositor.clearSnapshotIds with
        scene
        preSnapshotAttachments := compositor.pendingAttachments
        pendingAttachments :=
          if compositor.profile = .m7BufferedProtocolServer then
            compositor.committedAttachments
          else ∅
        snapshotInvalid := false
        snapshotActive := true }

def endSnapshot (compositor : Compositor) : Option Compositor :=
  if compositor.presentationPending || !compositor.snapshotActive then none
  else
    compositor.scene.endCompleteSnapshot.map fun scene =>
      { compositor.clearSnapshotIds with
        scene
        pendingAttachments :=
          if compositor.profile = .m7BufferedProtocolServer then
            compositor.pendingAttachments.filter fun surfaceId _ =>
              scene.pending.surfaces.contains surfaceId
          else compositor.pendingAttachments
        preSnapshotAttachments := ∅
        snapshotActive := false }

def abortSnapshot (compositor : Compositor) : Compositor :=
  if compositor.presentationPending then compositor
  else
    { compositor.clearSnapshotIds with
      scene := compositor.scene.abortCompleteSnapshot
      pendingAttachments := compositor.preSnapshotAttachments
      preSnapshotAttachments := ∅
      snapshotActive := false
      snapshotInvalid := false }

/-! ## Mutations of the pending scene -/

/-- The scene after a change that it may refuse, and whether it took it. -/
def apply (compositor : Compositor)
    (change : SceneModel → Option SceneModel) : Compositor × Bool :=
  match change compositor.scene with
  | none => (compositor, false)
  | some scene => ({ compositor with scene }, true)

def invalidateSnapshot (compositor : Compositor) : Compositor × Bool :=
  ({ compositor with snapshotInvalid := true }, false)

def applyOutput (compositor : Compositor) (value : OutputUpsert) :
    Compositor × Bool :=
  if compositor.presentationPending then (compositor, false)
  else if compositor.scene.profile = .outputModel &&
      compositor.snapshotActive then
    if value.outputId ∈ compositor.snapshotOutputIds then
      compositor.invalidateSnapshot
    else
      let listed :=
        { compositor with
          snapshotOutputIds := value.outputId :: compositor.snapshotOutputIds }
      if compositor.snapshotOutputIds = [] then
        let generation := compositor.scene.pending.configurationGeneration
        match compositor.scene.setSnapshotOutputConfiguration value.outputId
            generation with
        | none => listed.invalidateSnapshot
        | some scene =>
            apply
              { listed with
                scene
                primaryOutputId := value.outputId
                outputLayoutGeneration := generation }
              (·.applyOutput value)
      else listed.apply (·.applyOutput value)
  else compositor.apply (·.applyOutput value)

def removeOutput (compositor : Compositor) (value : OutputRemove) :
    Compositor × Bool :=
  if compositor.presentationPending then (compositor, false)
  else compositor.apply (·.removeOutput value)

def applySurface (compositor : Compositor) (value : SurfaceUpsert) :
    Compositor × Bool :=
  if compositor.presentationPending then (compositor, false)
  else if compositor.snapshotActive then
    if value.surfaceId ∈ compositor.snapshotSurfaceIds then
      compositor.invalidateSnapshot
    else
      apply
        { compositor with
          snapshotSurfaceIds := value.surfaceId :: compositor.snapshotSurfaceIds }
        (·.applySurface value)
  else compositor.apply (·.applySurface value)

def applySurfaceOutputState (compositor : Compositor)
    (value : SurfaceOutputState) : Compositor × Bool :=
  if compositor.presentationPending then (compositor, false)
  else if compositor.snapshotActive then
    if value.surfaceId ∈ compositor.snapshotSurfaceOutputIds then
      compositor.invalidateSnapshot
    else
      apply
        { compositor with
          snapshotSurfaceOutputIds :=
            value.surfaceId :: compositor.snapshotSurfaceOutputIds }
        (·.applySurfaceOutputState value)
  else compositor.apply (·.applySurfaceOutputState value)

def applySurfacePolicy (compositor : Compositor)
    (value : SurfacePolicyUpsert) : Compositor × Bool :=
  if compositor.presentationPending then (compositor, false)
  else if compositor.snapshotActive then
    if value.surfaceId ∈ compositor.snapshotPolicyIds then
      compositor.invalidateSnapshot
    else
      apply
        { compositor with
          snapshotPolicyIds := value.surfaceId :: compositor.snapshotPolicyIds }
        (·.applySurfacePolicy value)
  else compositor.apply (·.applySurfacePolicy value)

def removeSurface (compositor : Compositor) (value : SurfaceRemove) :
    Compositor × Bool :=
  if compositor.presentationPending then (compositor, false)
  else
    match compositor.apply (·.removeSurface value) with
    | (removed, true) =>
        ({ removed with
            pendingAttachments :=
              removed.pendingAttachments.erase value.surfaceId }, true)
    | refused => refused

def applySurfaceDamage (compositor : Compositor) (value : SurfaceDamage) :
    Compositor × Bool :=
  if compositor.presentationPending ||
      compositor.profile = .m6MetadataProtocolServer then (compositor, false)
  else compositor.apply (·.applySurfaceDamage value)

/-! ## Attachments -/

def attachError (compositor : Compositor) (value : BufferAttach) :
    Option String :=
  firstError [
    (compositor.presentationPending,
      "buffer mutation cannot overtake a pending presentation"),
    (compositor.profile = .m6MetadataProtocolServer,
      "metadata-only ProtocolServer peers cannot attach buffers"),
    (!compositor.scene.snapshotActive &&
        !compositor.scene.initialSnapshotReceived,
      "buffer mutation is gated until a complete snapshot begins"),
    ((compositor.scene.pending.surfaces[value.surfaceId]?).any
        metadataSurface,
      "metadata-only surfaces cannot have buffers"),
    (compositor.mappings.contains value.bufferId,
      "buffer ID is already active"),
    (value.synchronization = .eventfd && !compositor.cpuBufferSynchronization,
      "eventfd synchronization was not negotiated")]

def attach (compositor : Compositor) (value : BufferAttach)
    (descriptors : Descriptors) : Compositor × Except String Unit :=
  match compositor.attachError value with
  | some error => (compositor, .error error)
  | none =>
      match BufferMapping.import value descriptors with
      | .error error =>
          (if value.bufferId = 0 then compositor
            else
              { compositor with
                releases :=
                  compositor.releases.insert value.bufferId .invalid },
            .error error)
      | .ok mapping =>
          ({ compositor with
              mappings := compositor.mappings.insert value.bufferId mapping
              pendingAttachments :=
                compositor.pendingAttachments.insert value.surfaceId
                  value.bufferId },
            .ok ())

def detach (compositor : Compositor) (value : BufferDetach) :
    Compositor × Bool :=
  if compositor.presentationPending ||
      (!compositor.scene.snapshotActive &&
        !compositor.scene.initialSnapshotReceived) ||
      compositor.pendingAttachments[value.surfaceId]? ≠
        some value.bufferId then (compositor, false)
  else
    ({ compositor with
        pendingAttachments :=
          compositor.pendingAttachments.erase value.surfaceId }, true)

/-! ## The terminal and the peer -/

def suspendPresentation (compositor : Compositor)
    (suspended : BackendStateResult) : Compositor × Except String Unit :=
  if compositor.presentationPending then
    (compositor, .error "cannot suspend while a presentation is pending")
  else if compositor.presentationSuspended then
    (compositor, .error "presentation backend is already suspended")
  else
    match suspended with
    | .fatal error => (compositor, .error error)
    | .complete => ({ compositor with presentationSuspended := true }, .ok ())

def resumePresentation (compositor : Compositor) (resumed : PresentResult) :
    Compositor × Except String Unit :=
  let expectedHash := canonicalHash compositor.output compositor.outputSet
  if !compositor.presentationSuspended then
    (compositor, .error "presentation backend is not suspended")
  else if resumed.disposition ≠ .complete ||
      resumed.visibleHash ≠ expectedHash then
    (compositor, .error
      (if resumed.error = "" then
        "presentation backend did not restore the committed frame"
      else resumed.error))
  else ({ compositor with presentationSuspended := false }, .ok ())

/-- Only what belongs to the process survives the peer. -/
def disconnect (compositor : Compositor) : Compositor :=
  { scene := compositor.scene.disconnect
    timeout := compositor.timeout
    presentationSuspended := compositor.presentationSuspended
    sceneManifest := compositor.sceneManifest
    frameOrdinal := compositor.frameOrdinal
    primaryOutputId := compositor.primaryOutputId
    outputLayoutGeneration := compositor.outputLayoutGeneration
    profile := compositor.profile
    cpuBufferSynchronization := compositor.cpuBufferSynchronization }

end Compositor

end Glasswyrm.Gwcomp
