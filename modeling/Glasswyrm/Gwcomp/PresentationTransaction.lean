import Glasswyrm.Gwcomp.Compositor

namespace Glasswyrm.Gwcomp

open Glasswyrm.Compositor Drm Render

inductive BufferReadiness
  | ready
  | wouldBlock
  | fatal (error : String)
deriving DecidableEq, Repr

/-- What a commit asks of others: the reads of the synchronization
descriptors, by their position, the renderers, the manifest record and its
publication, and the backend. -/
structure CommitReplies where
  now : Nat := 0
  reads : Nat → BufferReadiness := fun _ => .ready
  render : RenderFrameRequest → RenderFrameResult := Render.render
  renderSet : MultiOutput.FrameSetRequest → Except MultiOutput.RenderFailure
    SoftwareFrameSet := MultiOutput.render
  prepared : Except String UInt64 := .ok 0
  published : Reply := .ok ()
  presented : PresentResult := {}

/-- What the poll of the descriptors reports, and the answers to what follows
from it. -/
structure ServiceReplies where
  now : Nat := 0
  unusable : Bool := false
  readable : Bool := false
  event : BackendEvent := .none
  finalized : Reply := .ok ()
  published : Reply := .ok ()
  commit : CommitReplies := {}

/-- A frame and the text of the error that goes with it. -/
structure CommitReport where
  frame : PresentedFrame := {}
  error : String := ""
deriving DecidableEq, Repr

structure ValidatedCommit where
  candidate : SceneModel
  result : CommitResult
  contentChanged : List Nat
  metadataOnlyPeer : Bool
  protocolServer : Bool

structure PreparedOutputFrame where
  frame : SoftwareFrame := {}
  frameSet : Option SoftwareFrameSet := none
  canonicalHash : UInt64
  releases : ReleaseMap
  manifest : Option UInt64 := none

def rejectedAs (presented : PresentedFrame) (result : FrameResult)
    (error : String) : CommitReport :=
  { frame := { presented with result }, error }

def fatalAs (presented : PresentedFrame) (error : String) : CommitReport :=
  { frame :=
      { presented with
        result := .rejectedIncompleteMetadata
        disposition := .fatal }
    error }

/-- The first check that fails, with what it reports. -/
def firstRejection (checks : List (Bool × FrameResult × String)) :
    Option (FrameResult × String) :=
  (checks.find? (·.1)).map (·.2)

namespace Compositor

/-! ## The buffers that a commit retires -/

def attached (attachments : AttachmentMap) (bufferId : Nat) : Bool :=
  attachments.toList.any (·.2 = bufferId)

/-- A committed attachment that is no longer pending retires its buffer. -/
def retireCommitted (pending : AttachmentMap) (staged : Scene)
    (releases : ReleaseMap) (old : Nat × Nat) : ReleaseMap :=
  match pending[old.1]? with
  | none =>
      releases.insert old.2
        (if staged.surfaces.contains old.1 then .consumerDone
        else .surfaceRemoved)
  | some now =>
      if now ≠ old.2 then releases.insert old.2 .replaced else releases

def retireUnattached (pending : AttachmentMap) (releases : ReleaseMap)
    (bufferId : Nat) : ReleaseMap :=
  if !attached pending bufferId && !releases.contains bufferId then
    releases.insert bufferId .consumerDone
  else releases

def calculateRetiredBuffers (compositor : Compositor) (staged : Scene) :
    ReleaseMap :=
  compositor.mappings.keys.foldl
    (retireUnattached compositor.pendingAttachments)
    (compositor.committedAttachments.toList.foldl
      (retireCommitted compositor.pendingAttachments staged) ∅)

def withoutReleased (mappings : KeyMap BufferMapping) (releases : ReleaseMap) :
    KeyMap BufferMapping :=
  mappings.filter fun bufferId _ => !releases.contains bufferId

/-- Every queued release takes its mapping along. -/
def releaseRetiredBuffers (compositor : Compositor) (staged : Scene) :
    Compositor :=
  let releases :=
    compositor.releases ∪ compositor.calculateRetiredBuffers staged
  { compositor with
    releases, mappings := withoutReleased compositor.mappings releases }

/-! ## Validation -/

def validateScene (compositor : Compositor) (value : FrameCommit) :
    Compositor × Except CommitReport (PresentedFrame × ValidatedCommit) :=
  if compositor.snapshotInvalid then
    (compositor, .error
      { error := "complete snapshot contains duplicate surface records" })
  else if value.commitId ≤ compositor.lastCommitId ||
      value.producerGeneration < compositor.lastGeneration then
    (compositor, .error
      { error :=
          "commit IDs must increase and generations must not decrease" })
  else
    let (result, candidate) := compositor.scene.commit value
    let presented : PresentedFrame :=
      { result := result.result, generation := result.presentedGeneration }
    ({ compositor with lastCommitId := value.commitId },
      if !result.accepted then .error { frame := presented }
      else
        .ok (presented,
          { candidate, result
            contentChanged := compositor.scene.pendingDamageSurfaceIds
            metadataOnlyPeer :=
              compositor.profile = .m6MetadataProtocolServer
            protocolServer := compositor.profile ≠ .m4TestProducer }))

def sceneSurfaceRejection (compositor : Compositor) (staged : Scene)
    (validated : ValidatedCommit) (surfaceId : Nat)
    (surface : SurfaceUpsert) : Option (FrameResult × String) :=
  let metadataOnly := metadataSurface surface
  let cursor := cursorSurface surface
  let policy := staged.surfacePolicies[surfaceId]?
  firstRejection [
    (cursor && compositor.profile ≠ .m7BufferedProtocolServer,
      .rejectedIncompleteMetadata,
      "cursor surfaces require a buffered ProtocolServer peer"),
    (validated.metadataOnlyPeer ≠ metadataOnly, .rejectedIncompleteMetadata,
      if validated.metadataOnlyPeer then
        "ProtocolServer supplied a buffered surface"
      else "TestProducer supplied a metadata-only surface"),
    (cursor && policy.isSome, .rejectedIncompleteMetadata,
      "cursor surfaces cannot carry policy metadata"),
    (!cursor && validated.protocolServer &&
        policy.map (·.x11WindowId) ≠ some surface.x11WindowId,
      .rejectedIncompleteMetadata,
      "ProtocolServer surface is missing matching policy metadata"),
    (!validated.protocolServer && policy.isSome, .rejectedIncompleteMetadata,
      "TestProducer surfaces cannot carry policy metadata")]

def surfaceAttachmentRejection (compositor : Compositor) (surfaceId : Nat)
    (surface : SurfaceUpsert) : Option (FrameResult × String) :=
  let metadataOnly := metadataSurface surface
  let cursor := cursorSurface surface
  let attachment := compositor.pendingAttachments[surfaceId]?
  let buffered := compositor.profile = .m7BufferedProtocolServer
  let newBuffered :=
    buffered && !compositor.scene.committed.surfaces.contains surfaceId
  let requiresAttachment :=
    !metadataOnly && (surface.visible || (newBuffered && !cursor))
  let clientScale :=
    if compositor.scene.profile = .outputModel then surface.scaleNumerator
    else 1
  let mapping := attachment.bind (compositor.mappings[·]?)
  let fits := mapping.any fun mapping =>
    mapping.width = surface.logicalWidth * clientScale &&
      mapping.height = surface.logicalHeight * clientScale
  let requiredFormat : PixelFormat := if cursor then .argb8888 else .xrgb8888
  firstRejection [
    (requiresAttachment && attachment.isNone, .rejectedIncompleteMetadata,
      if newBuffered then
        "new buffered ProtocolServer surface has no attached buffer"
      else "visible surface has no attached buffer"),
    (metadataOnly && attachment.isSome, .rejectedInvalidBuffer,
      "metadata-only surface has an attached buffer"),
    (attachment.isSome && !fits, .rejectedInvalidBuffer,
      "surface and buffer dimensions do not match"),
    (buffered && mapping.any (·.pixelFormat ≠ requiredFormat),
      .rejectedInvalidBuffer,
      if cursor then "cursor surfaces require premultiplied ARGB8888"
      else "buffered ProtocolServer surfaces require XRGB8888")]

def attachmentsRejection (compositor : Compositor) (staged : Scene)
    (validated : ValidatedCommit) : Option (FrameResult × String) :=
  match staged.surfaces.toList.findSome? fun (surfaceId, surface) =>
      (compositor.sceneSurfaceRejection staged validated surfaceId
        surface).or
        (compositor.surfaceAttachmentRejection surfaceId surface) with
  | some rejection => some rejection
  | none =>
      let policySurfaceCount :=
        (staged.surfaces.toList.filter (!cursorSurface ·.2)).length
      if validated.protocolServer &&
          staged.surfacePolicies.size ≠ policySurfaceCount then
        some (.rejectedUnknownSurface,
          "surface policy references an unknown surface")
      else none

/-! ## Promotion without a presentation -/

def promoteDisabledOutput (compositor : Compositor)
    (validated : ValidatedCommit) (value : FrameCommit)
    (presented : PresentedFrame) : Compositor × CommitReport :=
  let released :=
    if validated.metadataOnlyPeer then compositor
    else compositor.releaseRetiredBuffers validated.candidate.committed
  ({ released with
      scene := validated.candidate
      committedAttachments := compositor.pendingAttachments
      output := {}
      outputSet := none
      lastGeneration := value.producerGeneration },
    { frame := { presented with disposition := .complete } })

def promoteMetadataOnly (compositor : Compositor)
    (validated : ValidatedCommit) (value : FrameCommit)
    (presented : PresentedFrame) (replies : CommitReplies) :
    Compositor × CommitReport :=
  match replies.prepared with
  | .error error =>
      (compositor, rejectedAs presented .rejectedIncompleteMetadata error)
  | .ok hash =>
      match if compositor.sceneManifest then replies.published else .ok () with
      | .error error =>
          (compositor, rejectedAs presented .rejectedIncompleteMetadata error)
      | .ok () =>
          let ordinal := compositor.frameOrdinal + 1
          ({ compositor with
              scene := validated.candidate
              committedAttachments := ∅
              output := {}
              outputSet := none
              frameOrdinal := ordinal
              lastGeneration := value.producerGeneration },
            { frame :=
                { presented with ordinal, hash, disposition := .complete } })

/-! ## The frame to present -/

def attachmentChanged (compositor : Compositor) (surfaceId : Nat) : Bool :=
  compositor.committedAttachments[surfaceId]? ≠
    compositor.pendingAttachments[surfaceId]?

/-- The damage of the scene and that of the surfaces whose buffer changed. -/
def attachmentDamage (compositor : Compositor) (staged : Scene)
    (output : OutputUpsert) (damage : List Rectangle) : List Rectangle :=
  let changedBounds := staged.surfaces.toList.filterMap fun entry =>
    if entry.2.visible && compositor.attachmentChanged entry.1 then
      surfaceBounds entry.2 output
    else none
  ((damage ++ changedBounds).foldl .add
    ({ outputBounds := outputBounds output } : DamageRegion)).rectangles

/-- The record is only prepared for a peer that publishes manifests. -/
def prepareManifest (compositor : Compositor) (validated : ValidatedCommit)
    (replies : CommitReplies) : Except String (Option UInt64) :=
  if validated.protocolServer && compositor.sceneManifest then
    replies.prepared.map some
  else .ok none

def renderRejection (presented : PresentedFrame)
    (disposition : RenderDisposition) (error default : String) :
    CommitReport :=
  { frame :=
      { presented with
        result :=
          if disposition = .invalidBuffer then .rejectedInvalidBuffer
          else .rejectedIncompleteMetadata
        disposition :=
          if disposition = .fatal then .fatal else presented.disposition }
    error := if error = "" then default else error }

/-- The buffers that differ from the committed ones, and the damaged
surfaces. -/
def contentChanged (compositor : Compositor) (validated : ValidatedCommit) :
    List Nat :=
  let replaced := compositor.pendingAttachments.toList.filter fun entry =>
    compositor.committedAttachments[entry.1]? ≠ some entry.2
  ((validated.contentChanged ++ replaced.map (·.1)).insertionSort
    (· ≤ ·)).dedup

def prepareOutputFrameSet (compositor : Compositor)
    (validated : ValidatedCommit) (value : FrameCommit)
    (presented : PresentedFrame) (replies : CommitReplies) :
    Except CommitReport PreparedOutputFrame :=
  let staged := validated.candidate.committed
  let damage := calculateOutputDamage compositor.scene.committed staged
    (compositor.contentChanged validated)
  match replies.renderSet
    { sceneModel := validated.candidate
      mappings := compositor.mappings
      attachments := compositor.pendingAttachments
      damage
      previous := compositor.outputSet
      commitId := value.commitId
      generation := value.producerGeneration
      ordinal := compositor.frameOrdinal + 1 } with
  | .error failure =>
      .error (renderRejection presented failure.disposition failure.error
        "multi-output scene renderer rejected the frame")
  | .ok frames =>
      match compositor.prepareManifest validated replies with
      | .error error =>
          .error (rejectedAs presented .rejectedIncompleteMetadata error)
      | .ok manifest =>
          .ok { frameSet := some frames
                canonicalHash := frames.aggregateHash
                releases := compositor.calculateRetiredBuffers staged
                manifest }

def prepareSingleFrame (compositor : Compositor)
    (validated : ValidatedCommit) (value : FrameCommit)
    (presented : PresentedFrame) (replies : CommitReplies) :
    Except CommitReport PreparedOutputFrame :=
  let staged := validated.candidate.committed
  let damage := compositor.attachmentDamage staged
    (staged.output.getD {}) validated.result.damage
  let rendered := replies.render
    { scene := staged
      stackingOrder := validated.candidate.stackingOrder
      mappings := compositor.mappings
      attachments := compositor.pendingAttachments
      damage
      previous := some compositor.output
      commitId := value.commitId
      generation := value.producerGeneration
      ordinal := compositor.frameOrdinal + 1 }
  if !rendered.complete then
    .error (renderRejection presented rendered.disposition rendered.error
      "scene renderer rejected the frame")
  else
    match compositor.prepareManifest validated replies with
    | .error error =>
        .error (rejectedAs presented .rejectedIncompleteMetadata error)
    | .ok manifest =>
        .ok { frame := rendered.frame
              canonicalHash := rendered.frame.visibleHash
              releases := compositor.calculateRetiredBuffers staged
              manifest }

def prepareOutputFrame (compositor : Compositor)
    (validated : ValidatedCommit) (value : FrameCommit)
    (presented : PresentedFrame) (replies : CommitReplies) :
    Except CommitReport PreparedOutputFrame :=
  let staged := validated.candidate.committed
  if !compositor.pendingAttachments.keys.all (staged.surfaces.contains ·) then
    .error (rejectedAs presented .rejectedUnknownSurface
      "buffer references an unknown surface")
  else if validated.candidate.profile = .outputModel then
    compositor.prepareOutputFrameSet validated value presented replies
  else compositor.prepareSingleFrame validated value presented replies

/-! ## Presentation -/

def publishManifest (compositor : Compositor)
    (transaction : PresentationTransaction) (published : Reply) : Reply :=
  if transaction.manifest.isNone then .ok ()
  else if !compositor.sceneManifest then
    .error "scene manifest publisher is unavailable"
  else published

def promote (compositor : Compositor)
    (transaction : PresentationTransaction) (visibleHash : UInt64) :
    Compositor × PresentedFrame :=
  let ordinal := compositor.frameOrdinal + 1
  ({ compositor with
      releases := compositor.releases ∪ transaction.releases
      mappings := withoutReleased compositor.mappings transaction.releases
      scene := transaction.candidate
      committedAttachments := transaction.attachments
      output := transaction.frame
      outputSet := transaction.frameSet
      frameOrdinal := ordinal
      lastGeneration := transaction.commit.producerGeneration },
    { transaction.presented with
      disposition := .complete
      ordinal
      hash := visibleHash })

def stagePresentation (compositor : Compositor)
    (validated : ValidatedCommit) (prepared : PreparedOutputFrame)
    (value : FrameCommit) (presented : PresentedFrame)
    (replies : CommitReplies) : Compositor × CommitReport :=
  let presentation := replies.presented
  let transaction : PresentationTransaction :=
    { candidate := validated.candidate
      attachments := compositor.pendingAttachments
      releases := prepared.releases
      frame := prepared.frame
      frameSet := prepared.frameSet
      commit := value
      presented
      manifest := prepared.manifest
      token := presentation.token
      deadline := replies.now + compositor.timeout }
  match presentation.disposition with
  | .rejected =>
      (compositor, rejectedAs presented .rejectedIncompleteMetadata
        presentation.error)
  | .fatal => (compositor, fatalAs presented presentation.error)
  | .complete =>
      if presentation.visibleHash ≠ prepared.canonicalHash then
        (compositor, fatalAs presented
          "presentation hash differs from the canonical software frame")
      else
        match compositor.publishManifest transaction replies.published with
        | .error error => (compositor, fatalAs presented error)
        | .ok () =>
            let (next, frame) :=
              compositor.promote transaction presentation.visibleHash
            (next, { frame })
  | .pending =>
      if presentation.token = 0 then
        (compositor, fatalAs presented
          "pending presentation returned a zero completion token")
      else
        let frame := { presented with disposition := .pending }
        ({ compositor with
            pendingPresentation :=
              some { transaction with presented := frame } },
          { frame })

/-- The commit proper, once the buffers are ready. -/
def commitTransaction (compositor : Compositor) (value : FrameCommit)
    (replies : CommitReplies) : Compositor × CommitReport :=
  match compositor.validateScene value with
  | (compositor, .error report) => (compositor, report)
  | (compositor, .ok (presented, validated)) =>
      let staged := validated.candidate.committed
      match compositor.attachmentsRejection staged validated with
      | some (result, error) =>
          (compositor, rejectedAs presented result error)
      | none =>
          if validated.candidate.profile = .historical &&
              !staged.output.any (·.enabled) then
            compositor.promoteDisabledOutput validated value presented
          else if validated.metadataOnlyPeer then
            compositor.promoteMetadataOnly validated value presented replies
          else
            match compositor.prepareOutputFrame validated value presented
                replies with
            | .error report => (compositor, report)
            | .ok prepared =>
                compositor.stagePresentation validated prepared value presented
                  replies

/-! ## Readiness of the committed buffers -/

/-- The synchronized buffers that the damaged surfaces show, each once. -/
def synchronizedBuffers (compositor : Compositor) : List BufferMapping :=
  let selected := compositor.scene.pendingDamageSurfaceIds.filterMap
    (compositor.pendingAttachments[·]?)
  (selected.reverse.dedup.reverse.filterMap
    (compositor.mappings[·]?)).filter (·.synchronization = .eventfd)

/-- The first buffer from a position on that is not ready. -/
def firstUnready (reads : Nat → BufferReadiness) :
    Nat → List BufferMapping → Option (Nat × BufferReadiness)
  | _, [] => none
  | index, mapping :: rest =>
      match if mapping.synchronization = .none then .ready
          else reads index with
      | .ready => firstUnready reads (index + 1) rest
      | unready => some (index, unready)

def commit (compositor : Compositor) (value : FrameCommit)
    (replies : CommitReplies) : Compositor × CommitReport :=
  if compositor.presentationPending then
    (compositor,
      { error := "frame commit cannot overtake a pending presentation" })
  else
    let mappings := compositor.synchronizedBuffers
    match firstUnready replies.reads 0 mappings with
    | some (_, .fatal error) =>
        (compositor,
          { frame := { disposition := .fatal, result := .rejectedInvalidBuffer }
            error })
    | some (next, _) =>
        ({ compositor with
            pendingBufferReadiness :=
              some { commit := value, mappings, next
                     deadline := replies.now + compositor.timeout } },
          { frame :=
              { disposition := .pending
                result := .accepted
                generation := value.producerGeneration } })
    | none => compositor.commitTransaction value replies

/-! ## Completion -/

def abort (compositor : Compositor) : Compositor :=
  { compositor with pendingPresentation := none }

structure CompletionReport where
  completion : PresentationCompletion := {}
  error : String := ""
deriving DecidableEq, Repr

def completeWith (compositor : Compositor)
    (transaction : PresentationTransaction) (replies : ServiceReplies)
    (token : Nat) (visibleHash : UInt64) :
    Except (PresentedFrame × String) (Compositor × PresentedFrame) :=
  let presented := transaction.presented
  if token ≠ transaction.token then
    .error (presented,
      "presentation completion token does not match pending frame")
  else if visibleHash ≠
      canonicalHash transaction.frame transaction.frameSet then
    .error (presented,
      "completed presentation hash differs from canonical software frame")
  else
    match replies.finalized with
    | .error error =>
        .error (presented,
          if error = "" then
            "could not finalize pending presentation diagnostics"
          else error)
    | .ok () =>
        match compositor.publishManifest transaction replies.published with
        | .error error =>
            .error ({ presented with result := .rejectedIncompleteMetadata },
              error)
        | .ok () =>
            .ok (promote { compositor with pendingPresentation := none }
              transaction visibleHash)

def serviceTransaction (compositor : Compositor)
    (transaction : PresentationTransaction) (replies : ServiceReplies) :
    Compositor × CompletionReport :=
  let fatal (presented : PresentedFrame) (error : String) :
      Compositor × CompletionReport :=
    (compositor.abort,
      { completion :=
          { kind := .fatal
            commit := transaction.commit
            frame := { presented with disposition := .fatal } }
        error })
  let presented := transaction.presented
  let unfinished : Compositor × CompletionReport :=
    if transaction.deadline ≤ replies.now then
      fatal presented "pending presentation exceeded its completion timeout"
    else (compositor, {})
  if replies.unusable then
    fatal presented
      "presentation backend became unusable during a pending frame"
  else if replies.readable then
    match replies.event with
    | .fatal error => fatal presented error
    | .complete token visibleHash =>
        match compositor.completeWith transaction replies token
            visibleHash with
        | .error (presented, error) => fatal presented error
        | .ok (next, frame) =>
            (next,
              { completion :=
                  { kind := .complete, commit := transaction.commit, frame } })
    | .none => unfinished
  else unfinished

def serviceReadiness (compositor : Compositor)
    (pending : PendingBufferReadiness) (replies : ServiceReplies) :
    Compositor × CompletionReport :=
  let idle := { compositor with pendingBufferReadiness := none }
  let fatal (error : String) : Compositor × CompletionReport :=
    (idle,
      { completion :=
          { kind := .fatal
            commit := pending.commit
            frame :=
              { disposition := .fatal, result := .rejectedInvalidBuffer } }
        error })
  if pending.deadline ≤ replies.now then
    fatal "buffer readiness timed out"
  else if replies.unusable then
    fatal "buffer readiness descriptor became unusable"
  else
    match firstUnready replies.commit.reads pending.next
        (pending.mappings.drop pending.next) with
    | some (_, .fatal error) => fatal error
    | some (next, _) =>
        ({ compositor with
            pendingBufferReadiness := some { pending with next } }, {})
    | none =>
        let (next, report) :=
          idle.commitTransaction pending.commit replies.commit
        if report.frame.disposition = .pending then
          (next, { error := report.error })
        else
          (next,
            { completion :=
                { kind :=
                    if report.frame.disposition = .fatal then .fatal
                    else .complete
                  commit := pending.commit
                  frame := report.frame }
              error := report.error })

def servicePresentation (compositor : Compositor)
    (replies : ServiceReplies) : Compositor × CompletionReport :=
  match compositor.pendingBufferReadiness with
  | some pending => compositor.serviceReadiness pending replies
  | none =>
      match compositor.pendingPresentation with
      | none => (compositor, {})
      | some transaction => compositor.serviceTransaction transaction replies

end Compositor

end Glasswyrm.Gwcomp
