import Glasswyrm.Drm.Device
import Glasswyrm.Drm.DumbBuffer

namespace Glasswyrm.Drm

open Compositor Library Render

/-! The presenter between its initialization and its shutdown.  What the
kernel, the reports and the terminal answer is an input of each operation. -/

def defaultRefreshToleranceMillihz : Nat := 1000

structure DrmPresenterConfig where
  output : OutputSpec
  damageAwareCopy : Bool := false

inductive DirectSessionState
  | active
  | suspended
  | failed
deriving DecidableEq, Repr

structure PendingPresentation where
  token : Nat
  hash : UInt64
  ordinal : Nat
  commitId : Nat
  generation : Nat
  nextFrontIndex : Fin 2
  cookie : PageFlipCookie
  pixels : List UInt32
  damageCopy : DamageCopyPlan
  completionVerified : Bool := false

inductive PresentDisposition
  | complete
  | pending
  | rejected
  | fatal
deriving DecidableEq, Repr

structure PresentResult where
  disposition : PresentDisposition := .rejected
  token : Nat := 0
  visibleHash : UInt64 := 0
  error : String := ""

inductive BackendEvent
  | none
  | complete (token : Nat) (visibleHash : UInt64)
  | fatal (error : String)

inductive BackendStateResult
  | complete
  | fatal (error : String)

abbrev Reply := Except String Unit

structure PresentReplies where
  staged : Reply := .ok ()
  submitted : Reply := .ok ()
  committed : Reply := .ok ()

structure SuspendReplies where
  released : Reply := .ok ()
  recorded : Reply := .ok ()

structure ResumeReplies where
  acquired : Reply := .ok ()
  submitted : Reply := .ok ()
  recorded : Reply := .ok ()

structure DrmPresenter where
  config : DrmPresenterConfig
  crtc : Nat
  kernel : Kernel := {}
  registered : Option EventCookie := none
  buffers : DumbBufferPair
  directSession : Option DirectSessionState := none
  pending : Option PendingPresentation := none
  pendingFrameSetHash : Option UInt64 := none
  pendingLayoutGeneration : Option Nat := none
  damageHistory : DamageCopyHistory
  committedPixels : List UInt32 := []
  committedHash : UInt64 := 0
  committedGeneration : Nat := 0
  committedLayoutGeneration : Nat := 0
  nextToken : Nat := 1
  frontIndex : Fin 2 := firstIndex
  initialModeset : Bool := false
  displayTaken : Bool := false
  suspended : Bool := false
  fatal : Bool := false

/-- What a copy leaves in the buffer, its plan, and its error if it has one. -/
structure CopiedFrame where
  target : DumbBuffer
  plan : DamageCopyPlan := {}
  error : Option String := none

def copyOrKeep (target : DumbBuffer) (plan : DamageCopyPlan) :
    Except String DumbBuffer → CopiedFrame
  | .error error => { target, plan, error := some error }
  | .ok copied => { target := copied, plan }

/-- Why the copy cannot be shown, if it cannot. -/
def CopiedFrame.failure (copied : CopiedFrame) (hash : UInt64)
    (differs : String) : Option String :=
  match copied.error with
  | some error => some error
  | none => if copied.target.visibleHash ≠ hash then some differs else none

namespace DrmPresenter

def initial (config : DrmPresenterConfig) (crtc : Nat)
    (directSession : Option DirectSessionState) : DrmPresenter :=
  { config, crtc, directSession
    buffers :=
      { buffers := fun _ =>
          { width := config.output.width, height := config.output.height } }
    damageHistory :=
      { width := config.output.width, height := config.output.height } }

def copyFrameTo (presenter : DrmPresenter) (target : DumbBuffer)
    (frame : SoftwareFrameView) (expectedHash : UInt64)
    (forcedReason : FullCopyReason) : CopiedFrame :=
  if !presenter.config.damageAwareCopy then
    copyOrKeep target {} (target.copyFrom frame.pixels)
  else
    let plan := presenter.damageHistory.plan target.contentValid
      target.completedGeneration frame.generation frame.damage forcedReason
    let copied :=
      if plan.fullCopy then target.copyFrom frame.pixels
      else target.copyRectanglesFrom frame.pixels plan.rectangles
    match copied with
    | .error error => { target, plan, error := some error }
    | .ok copied =>
        if plan.fullCopy || copied.visibleHash = expectedHash then
          { target := copied, plan }
        else
          copyOrKeep copied
            (presenter.damageHistory.plan copied.contentValid
              copied.completedGeneration frame.generation frame.damage
              .canonicalMismatch)
            (copied.copyFrom frame.pixels)

/-- Recording what the buffer now holds. -/
def completeDamageCopy (presenter : DrmPresenter) (index : Fin 2)
    (plan : DamageCopyPlan) (generation : Nat) : DrmPresenter :=
  if !presenter.config.damageAwareCopy then presenter
  else
    { presenter with
      buffers := presenter.buffers.set index
        ((presenter.buffers.buffers index).markCompleted generation)
      damageHistory := presenter.damageHistory.recordCompleted plan generation }

def clearPending (presenter : DrmPresenter) : DrmPresenter :=
  match presenter.pending with
  | none => presenter
  | some pending =>
      { presenter with
        registered := abandonPageFlip presenter.registered pending.cookie
        pending := none
        pendingFrameSetHash := none
        pendingLayoutGeneration := none }

/-! ## Presenting -/

def presentInitial (presenter : DrmPresenter) (frame : SoftwareFrameView)
    (hash : UInt64) (forcedReason : FullCopyReason) (layoutGeneration : Nat)
    (replies : PresentReplies) : DrmPresenter × PresentResult :=
  let index := presenter.buffers.frontIndex
  let copied :=
    presenter.copyFrameTo presenter.buffers.front frame hash forcedReason
  let presenter :=
    { presenter with buffers := presenter.buffers.set index copied.target }
  match copied.failure hash "canonical and scanout hashes differ" with
  | some error =>
      ({ presenter with fatal := true }, { disposition := .fatal, error })
  | none =>
      match replies.staged with
      | .error error => (presenter, { disposition := .rejected, error })
      | .ok () =>
          let presenter :=
            { presenter with
              kernel :=
                presenter.kernel.submit copied.target.visible frame.pixels }
          match replies.submitted with
          | .error error =>
              ({ presenter with fatal := true },
                { disposition := .fatal, error })
          | .ok () =>
              let presenter :=
                { presenter with
                  kernel := presenter.kernel.modeset index
                  displayTaken := true }
              match replies.committed with
              | .error error =>
                  ({ presenter with fatal := true },
                    { disposition := .fatal, error })
              | .ok () =>
                  let presenter :=
                    { presenter with
                      committedPixels := frame.pixels
                      committedHash := hash
                      committedGeneration := frame.generation
                      committedLayoutGeneration :=
                        if layoutGeneration ≠ 0 then layoutGeneration
                        else presenter.committedLayoutGeneration }
                  ({ presenter.completeDamageCopy index copied.plan
                        frame.generation with
                      initialModeset := true },
                    { disposition := .complete, visibleHash := hash })

def presentFlip (presenter : DrmPresenter) (frame : SoftwareFrameView)
    (hash : UInt64) (forcedReason : FullCopyReason) (layoutGeneration : Nat)
    (replies : PresentReplies) : DrmPresenter × PresentResult :=
  let index := presenter.buffers.backIndex
  let token := presenter.nextToken
  let cookie : PageFlipCookie := { token }
  let copied :=
    presenter.copyFrameTo presenter.buffers.back frame hash forcedReason
  let presenter :=
    { presenter with
      nextToken := token + 1
      buffers := presenter.buffers.set index copied.target }
  match copied.failure hash "canonical and scanout hashes differ" with
  | some error =>
      ({ presenter with fatal := true }, { disposition := .fatal, error })
  | none =>
      match replies.staged with
      | .error error => (presenter, { disposition := .rejected, error })
      | .ok () =>
          match armPageFlip presenter.registered cookie with
          | .error error => (presenter, { disposition := .rejected, error })
          | .ok armed =>
              let kernel :=
                presenter.kernel.submit copied.target.visible frame.pixels
              match replies.submitted with
              | .error error =>
                  ({ presenter with
                      kernel
                      registered := cancelPageFlip (some armed) cookie },
                    { disposition := .rejected, error })
              | .ok () =>
                  ({ presenter with
                      kernel := kernel.flip index token
                      registered := some armed
                      pending := some
                        { token, hash, cookie
                          ordinal := frame.ordinal
                          commitId := frame.commitId
                          generation := frame.generation
                          nextFrontIndex := otherIndex presenter.frontIndex
                          pixels := frame.pixels
                          damageCopy := copied.plan }
                      pendingLayoutGeneration :=
                        if layoutGeneration ≠ 0 then some layoutGeneration
                        else presenter.pendingLayoutGeneration },
                    { disposition := .pending, token })

def refreshDistance (frame config : OutputSpec) : Nat :=
  if config.refreshMillihz < frame.refreshMillihz then
    frame.refreshMillihz - config.refreshMillihz
  else config.refreshMillihz - frame.refreshMillihz

/-- The frame does not fit the selected mode. -/
def mismatched (presenter : DrmPresenter) (frame : SoftwareFrameView) : Bool :=
  let output := presenter.config.output
  frame.output.width ≠ output.width || frame.output.height ≠ output.height ||
    frame.output.outputId = 0 ||
    (output.outputId ≠ 0 && frame.output.outputId ≠ output.outputId) ||
    defaultRefreshToleranceMillihz < refreshDistance frame.output output ||
    frame.commitId = 0 || frame.generation = 0 || frame.ordinal = 0 ||
    frame.pixels.length ≠ output.width * output.height

def presentValidated (presenter : DrmPresenter) (frame : SoftwareFrameView)
    (forcedReason : FullCopyReason) (layoutGeneration : Nat)
    (replies : PresentReplies) : DrmPresenter × PresentResult :=
  if presenter.fatal then
    (presenter, { disposition := .fatal
                  error := "DRM presenter is not operational" })
  else if presenter.suspended then
    (presenter, { error := "DRM presenter is suspended" })
  else if presenter.pending.isSome then
    (presenter, { error := "one DRM page flip is already pending" })
  else if presenter.mismatched frame then
    (presenter,
      { error := "software frame does not match the selected DRM mode" })
  else
    let hash := hashVisibleXrgb8888 frame.pixels
    if presenter.initialModeset then
      presenter.presentFlip frame hash forcedReason layoutGeneration replies
    else
      presenter.presentInitial frame hash forcedReason layoutGeneration replies

def present (presenter : DrmPresenter) (frame : SoftwareFrameView)
    (replies : PresentReplies) : DrmPresenter × PresentResult :=
  presenter.presentValidated frame .none 0 replies

/-! ## Events -/

def fatalEvent (presenter : DrmPresenter) (reason : String) :
    DrmPresenter × BackendEvent :=
  ({ presenter.clearPending with fatal := true }, .fatal reason)

/-- The presenter once the events have been read.  The handler writes the
cookie through the pointer that both sides share. -/
def readEvents (presenter : DrmPresenter) (serviced : ServicedEvents) :
    DrmPresenter :=
  { presenter with
    registered := serviced.registered
    kernel := { presenter.kernel with events := serviced.remaining }
    pending := presenter.pending.map fun pending =>
      match serviced.cookie with
      | some cookie =>
          if cookie.token = pending.cookie.token then { pending with cookie }
          else pending
      | none => pending }

/-- The event is the completion of the pending flip. -/
def completes (presenter : DrmPresenter) (pending : PendingPresentation)
    (token crtcId : Nat) : Bool :=
  token = pending.token && crtcId = presenter.crtc &&
    pending.cookie.completed &&
    pending.cookie.completedCrtcId = presenter.crtc

def service (presenter : DrmPresenter) (revents : PollEvents)
    (handled staged : Reply) : DrmPresenter × BackendEvent :=
  let serviced := serviceEvents presenter.registered presenter.kernel.events
    revents handled
  let presenter := presenter.readEvents serviced
  match serviced.event with
  | .none => (presenter, .none)
  | .error error => presenter.fatalEvent error
  | .pageFlip token crtcId _ =>
      match presenter.pending with
      | none =>
          presenter.fatalEvent
            "DRM page-flip completion did not match the pending frame"
      | some pending =>
          if !presenter.completes pending token crtcId then
            presenter.fatalEvent
              "DRM page-flip completion did not match the pending frame"
          else
            match staged with
            | .error error => presenter.fatalEvent error
            | .ok () =>
                ({ presenter with
                    pending := some { pending with completionVerified := true } },
                  .complete pending.token
                    (presenter.pendingFrameSetHash.getD pending.hash))

def finalizePending (presenter : DrmPresenter) (token : Nat)
    (committed : Reply) : DrmPresenter × Reply :=
  match presenter.pending with
  | none => (presenter, .error "DRM pending completion token is not verified")
  | some pending =>
      if pending.token ≠ token || !pending.completionVerified then
        (presenter, .error "DRM pending completion token is not verified")
      else
        match committed with
        | .error error =>
            ({ presenter with fatal := true }.clearPending, .error error)
        | .ok () =>
            let presenter := presenter.completeDamageCopy
              presenter.buffers.backIndex pending.damageCopy pending.generation
            ({ presenter with
                buffers := presenter.buffers.promoteBack
                frontIndex := pending.nextFrontIndex
                committedPixels := pending.pixels
                committedHash := pending.hash
                committedGeneration := pending.generation
                committedLayoutGeneration :=
                  presenter.pendingLayoutGeneration.getD
                    presenter.committedLayoutGeneration }.clearPending, .ok ())

def abortPending (presenter : DrmPresenter) (token : Nat) (reason : String) :
    DrmPresenter :=
  if presenter.pending.any (·.token = token) then
    if reason ≠ "" then { presenter with fatal := true }.clearPending
    else presenter.clearPending
  else presenter

/-! ## Leaving the display and coming back -/

/-- What is done once the terminal has been given up, if there is one. -/
def releaseDisplay (presenter : DrmPresenter) : DrmPresenter :=
  let presenter := { presenter with suspended := true }
  if presenter.config.damageAwareCopy then
    { presenter with
      damageHistory := presenter.damageHistory.clear
      buffers := presenter.buffers.invalidateContent }
  else presenter

def suspend (presenter : DrmPresenter) (replies : SuspendReplies) :
    DrmPresenter × BackendStateResult :=
  if presenter.pending.isSome then
    ({ presenter with fatal := true },
      .fatal "cannot release the VT while a page flip remains pending")
  else
    match presenter.directSession with
    | none => (presenter.releaseDisplay, .complete)
    | some session =>
        if session ≠ .active then
          ({ presenter with fatal := true },
            .fatal "VT release requires an active direct session")
        else
          match replies.released with
          | .error error =>
              ({ presenter with
                  fatal := true
                  directSession := some .failed }, .fatal error)
          | .ok () =>
              let presenter :=
                { presenter with
                  directSession := some .suspended }.releaseDisplay
              match replies.recorded with
              | .error error => (presenter, .fatal error)
              | .ok () => (presenter, .complete)

def presentCommittedFrame (presenter : DrmPresenter)
    (replies : ResumeReplies) : DrmPresenter × Reply :=
  if presenter.committedPixels = [] then
    (presenter, .error "no committed DRM frame is available for re-modeset")
  else
    let index := presenter.buffers.backIndex
    let frame : SoftwareFrameView :=
      { output := presenter.config.output
        pixels := presenter.committedPixels
        generation := presenter.committedGeneration }
    let copied := presenter.copyFrameTo presenter.buffers.back frame
      presenter.committedHash .virtualTerminalResume
    let presenter :=
      { presenter with buffers := presenter.buffers.set index copied.target }
    match copied.failure presenter.committedHash
        "re-modeset scanout hash differs from committed frame" with
    | some error => (presenter, .error error)
    | none =>
        let presenter :=
          { presenter with
            kernel :=
              presenter.kernel.submit copied.target.visible frame.pixels }
        match replies.submitted with
        | .error error => (presenter, .error error)
        | .ok () =>
            let presenter := presenter.completeDamageCopy index copied.plan
              presenter.committedGeneration
            ({ presenter with
                kernel := presenter.kernel.modeset index
                buffers := presenter.buffers.promoteBack
                frontIndex := otherIndex presenter.frontIndex
                displayTaken := true },
              if presenter.directSession.isSome then replies.recorded
              else .ok ())

def reacquire (presenter : DrmPresenter) (session : DirectSessionState)
    (replies : ResumeReplies) : DrmPresenter × Reply :=
  if session ≠ .suspended then
    (presenter, .error "VT acquire requires a suspended direct session")
  else
    match replies.acquired with
    | .error error =>
        ({ presenter with directSession := some .failed }, .error error)
    | .ok () =>
        match presenter.presentCommittedFrame replies with
        | (presenter, .error error) =>
            ({ presenter with directSession := some .failed }, .error error)
        | (presenter, .ok ()) =>
            ({ presenter with directSession := some .active }, .ok ())

def resume (presenter : DrmPresenter) (committed : SoftwareFrameView)
    (replies : ResumeReplies) : DrmPresenter × PresentResult :=
  if !presenter.suspended || presenter.committedPixels = [] ||
      hashVisibleXrgb8888 committed.pixels ≠ presenter.committedHash then
    (presenter,
      { disposition := .fatal
        error := "DRM resume frame does not match the committed presentation" })
  else
    let shown :=
      match presenter.directSession with
      | some session => presenter.reacquire session replies
      | none => presenter.presentCommittedFrame replies
    match shown with
    | (presenter, .error error) =>
        ({ presenter with fatal := true }, { disposition := .fatal, error })
    | (presenter, .ok ()) =>
        ({ presenter with suspended := false },
          { disposition := .complete, visibleHash := presenter.committedHash })

/-! ## Frame sets -/

/-- The view of a set that holds exactly one output. -/
def singleFrame (frames : SoftwareFrameSet) :
    Option (Nat × OutputFrameResult × SoftwareFrameView) :=
  match frames.outputs.toList with
  | [(id, output)] =>
      if frames.layoutGeneration = 0 || frames.primaryOutputId = 0 ||
          frames.commitId = 0 || frames.generation = 0 || frames.ordinal = 0 then
        none
      else
        some (id, output,
          { output := output.output
            pixels := output.frame.visible
            damage := output.damage
            commitId := frames.commitId
            generation := frames.generation
            ordinal := frames.ordinal })
  | _ => none

def presentSet (presenter : DrmPresenter) (frames : SoftwareFrameSet)
    (replies : PresentReplies) : DrmPresenter × PresentResult :=
  match singleFrame frames with
  | none =>
      (presenter, { error := "DRM presenter supports exactly one output frame" })
  | some (id, output, frame) =>
      if output.output.outputId ≠ id ||
          output.visibleHash ≠ output.frame.visibleHash then
        (presenter,
          { error := "DRM frame-set output metadata is inconsistent" })
      else
        let reason :=
          if presenter.committedLayoutGeneration ≠ 0 &&
              presenter.committedLayoutGeneration ≠ frames.layoutGeneration then
            .outputConfigurationChanged
          else .none
        let (presenter, result) := presenter.presentValidated frame reason
          frames.layoutGeneration replies
        match result.disposition with
        | .complete =>
            (presenter, { result with visibleHash := frames.aggregateHash })
        | .pending =>
            ({ presenter with
                pendingFrameSetHash := some frames.aggregateHash }, result)
        | _ => (presenter, result)

def resumeSet (presenter : DrmPresenter) (committed : SoftwareFrameSet)
    (replies : ResumeReplies) : DrmPresenter × PresentResult :=
  match singleFrame committed with
  | none =>
      (presenter,
        { error := "DRM resume supports exactly one output frame" })
  | some (_, _, frame) =>
      let (presenter, result) := presenter.resume frame replies
      (presenter,
        if result.disposition = .complete then
          { result with visibleHash := committed.aggregateHash }
        else result)

end DrmPresenter

end Glasswyrm.Drm
