import Glasswyrm.Drm.Presenter
import Glasswyrm.Library.Run

namespace Glasswyrm.Drm

open Compositor Library Render

/-! Runs of the presenter together with the display hardware.  Beside the
presenter stand the tokens reported complete so far, and whether a flip has
been given up: a pending presentation that is gone without its buffer having
become the front one. -/

structure Display where
  presenter : DrmPresenter
  reported : List Nat := []
  givenUp : Bool := false

inductive DisplayEvent
  | present (frame : SoftwareFrameView) (replies : PresentReplies)
  | presentSet (frames : SoftwareFrameSet) (replies : PresentReplies)
  | service (revents : PollEvents) (handled staged : Reply)
  | finalizePending (token : Nat) (committed : Reply)
  | abortPending (token : Nat) (reason : String)
  | suspend (replies : SuspendReplies)
  | resume (committed : SoftwareFrameView) (replies : ResumeReplies)
  | resumeSet (committed : SoftwareFrameSet) (replies : ResumeReplies)
  | completeFlip (crtcId sequence : Nat)
  | foreignEvent (crtcId sequence : Nat)

namespace DrmPresenter

def act (presenter : DrmPresenter) : DisplayEvent → DrmPresenter
  | .present frame replies => (presenter.present frame replies).1
  | .presentSet frames replies => (presenter.presentSet frames replies).1
  | .service revents handled staged =>
      (presenter.service revents handled staged).1
  | .finalizePending token committed =>
      (presenter.finalizePending token committed).1
  | .abortPending token reason => presenter.abortPending token reason
  | .suspend replies => (presenter.suspend replies).1
  | .resume committed replies => (presenter.resume committed replies).1
  | .resumeSet committed replies => (presenter.resumeSet committed replies).1
  | .completeFlip crtcId sequence =>
      { presenter with
        kernel := presenter.kernel.completeFlip crtcId sequence }
  | .foreignEvent crtcId sequence =>
      { presenter with
        kernel := presenter.kernel.foreignEvent crtcId sequence }

/-- The token that the event reports complete. -/
def reports (presenter : DrmPresenter) : DisplayEvent → Option Nat
  | .service revents handled staged =>
      match (presenter.service revents handled staged).2 with
      | .complete token _ => some token
      | _ => none
  | _ => none

/-- The frame passes every check that comes before the copy. -/
def accepts (presenter : DrmPresenter) (frame : SoftwareFrameView) : Bool :=
  !presenter.fatal && !presenter.suspended && presenter.pending.isNone &&
    !presenter.mismatched frame

/-- The frame of a set whose metadata agree. -/
def setFrame (frames : SoftwareFrameSet) : Option SoftwareFrameView :=
  match singleFrame frames with
  | none => none
  | some (id, output, frame) =>
      if output.output.outputId ≠ id ||
          output.visibleHash ≠ output.frame.visibleHash then none
      else some frame

def reacquires (replies : ResumeReplies) : Option DirectSessionState → Bool
  | none => true
  | some session => session = .suspended && replies.acquired.isOk

/-- Resuming gets as far as showing the committed frame again. -/
def resumes (presenter : DrmPresenter) (committed : SoftwareFrameView)
    (replies : ResumeReplies) : Bool :=
  presenter.suspended && presenter.committedPixels ≠ [] &&
    hashVisibleXrgb8888 committed.pixels = presenter.committedHash &&
    reacquires replies presenter.directSession

/-- The event gets as far as copying a frame into a buffer. -/
def copies (presenter : DrmPresenter) : DisplayEvent → Bool
  | .present frame _ => presenter.accepts frame
  | .presentSet frames _ => (setFrame frames).any presenter.accepts
  | .resume committed replies => presenter.resumes committed replies
  | .resumeSet committed replies =>
      (singleFrame committed).any fun single =>
        presenter.resumes single.2.2 replies
  | _ => false

end DrmPresenter

namespace Display

def initial (config : DrmPresenterConfig) (crtc : Nat)
    (directSession : Option DirectSessionState) : Display :=
  { presenter := .initial config crtc directSession }

def gaveUp (before after : DrmPresenter) : Bool :=
  before.pending.isSome && after.pending.isNone &&
    after.buffers.frontIndex = before.buffers.frontIndex

def step (display : Display) (event : DisplayEvent) : Display :=
  let next := display.presenter.act event
  { presenter := next
    reported := display.reported ++ (display.presenter.reports event).toList
    givenUp := display.givenUp || gaveUp display.presenter next }

/-- No frame is copied once a flip has been given up. -/
def careful (display : Display) (event : DisplayEvent) : Prop :=
  display.givenUp = true → display.presenter.copies event = false

/-- What the kernel is handed shows the frame if the two have one hash. -/
def unambiguous (display : Display) (event : DisplayEvent) : Prop :=
  ∀ submission ∈ (display.presenter.act event).kernel.submissions,
    hashVisibleXrgb8888 submission.shown =
      hashVisibleXrgb8888 submission.frame →
    submission.shown.map rgb = submission.frame.map rgb

instance (display : Display) (event : DisplayEvent) :
    Decidable (display.careful event) :=
  inferInstanceAs (Decidable (_ → _))

instance (display : Display) (event : DisplayEvent) :
    Decidable (display.unambiguous event) :=
  inferInstanceAs (Decidable (∀ _ ∈ _, _ → _))

/-- The promises of one step. -/
structure Correct (display : Display) (event : DisplayEvent) : Prop where
  shows : ∀ submission ∈ (display.step event).presenter.kernel.submissions,
    submission.shown.map rgb = submission.frame.map rgb
  single : (display.step event).presenter.kernel.flips.length ≤ 1
  untouched : ∀ index, display.presenter.kernel.Uses index →
    ((display.step event).presenter.buffers.buffers index).writes =
      (display.presenter.buffers.buffers index).writes
  reports : ∀ token, display.presenter.reports event = some token →
    token ∉ display.reported ∧
      ∃ pending ∈ display.presenter.pending, pending.token = token
  answers : ∀ pending ∈ display.presenter.pending,
    ∀ completion ∈ display.presenter.kernel.events,
      completion.userData = some pending.token →
      completion.crtcId = display.presenter.crtc →
      event = .service {} (.ok ()) (.ok ()) →
        display.presenter.reports event = some pending.token

end Display

end Glasswyrm.Drm
