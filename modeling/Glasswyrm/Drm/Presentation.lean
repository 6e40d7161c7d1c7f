import Glasswyrm.Drm.Display
import Glasswyrm.Drm.FrameCopy

namespace Glasswyrm.Drm

open Compositor Library Render

namespace DrmPresenter

/-! What each way of presenting does, said once: either no more than a copy, or
a copy followed by what makes it the shown or the pending frame. -/

variable {presenter : DrmPresenter} {frame : SoftwareFrameView}

/-- A flip to the back buffer was queued for the frame. -/
structure Queued (before : DrmPresenter) (frame : SoftwareFrameView)
    (after : DrmPresenter) : Prop where
  unregistered : before.registered = none
  queued : ∃ copied pending, Copied before before.buffers.backIndex copied ∧
    before.nextToken < copied.nextToken ∧
    pending.token = before.nextToken ∧
    pending.cookie = { token := before.nextToken } ∧
    pending.pixels = frame.pixels ∧
    pending.hash = hashVisibleXrgb8888 frame.pixels ∧
    pending.completionVerified = false ∧
    ∃ layout frameSetHash, after = { copied with
      kernel :=
        copied.kernel.flip before.buffers.backIndex before.nextToken
      registered :=
        some { cookie := { token := before.nextToken }, armed := true }
      pending := some pending
      pendingFrameSetHash := frameSetHash
      pendingLayoutGeneration := layout }

/-- A blocking modeset shows the buffer that was copied into. -/
structure Modeset (before : DrmPresenter) (index : Fin 2)
    (copied after : DrmPresenter) : Prop where
  copy : Copied before index copied
  kernel : after.kernel = copied.kernel.modeset index
  writes : ∀ other, (after.buffers.buffers other).writes =
    (copied.buffers.buffers other).writes
  registered : after.registered = copied.registered
  pending : after.pending = copied.pending
  nextToken : after.nextToken = copied.nextToken
  crtc : after.crtc = copied.crtc

/-- The buffer shown has become the front one, and its frame the committed
one. -/
structure Committed (before : DrmPresenter) (index : Fin 2)
    (pixels : List UInt32) (hash : UInt64) (after : DrmPresenter) : Prop where
  modeset : ∃ copied, Modeset before index copied after
  sized : after.Sized
  frontIndex : after.buffers.frontIndex = index
  committedPixels : after.committedPixels = pixels
  committedHash : after.committedHash = hash

/-- Recording a completed copy touches nothing but the marks of the buffer and
the history. -/
theorem completeDamageCopy_eq (presenter : DrmPresenter) (index : Fin 2)
    (plan : DamageCopyPlan) (generation : Nat) :
    ∃ buffers history,
      presenter.completeDamageCopy index plan generation =
        { presenter with buffers, damageHistory := history } ∧
      buffers.frontIndex = presenter.buffers.frontIndex ∧
      history.width = presenter.damageHistory.width ∧
      history.height = presenter.damageHistory.height ∧
      ∀ other,
        (buffers.buffers other).writes =
            (presenter.buffers.buffers other).writes ∧
          (buffers.buffers other).width =
            (presenter.buffers.buffers other).width ∧
          (buffers.buffers other).height =
            (presenter.buffers.buffers other).height := by
  unfold completeDamageCopy
  split
  · exact ⟨_, _, rfl, rfl, rfl, rfl, fun _ => ⟨rfl, rfl, rfl⟩⟩
  · refine ⟨_, _, rfl, rfl, rfl, rfl, fun other => ?_⟩
    by_cases own : other = index
    · subst own
      rw [DumbBufferPair.set_same]
      exact ⟨rfl, rfl, rfl⟩
    · rw [DumbBufferPair.set_other _ own]
      exact ⟨rfl, rfl, rfl⟩

theorem armPageFlip_ok {registered : Option EventCookie}
    {cookie : PageFlipCookie} {armed : EventCookie}
    (arms : armPageFlip registered cookie = .ok armed) :
    registered = none ∧
      armed = { cookie := { token := cookie.token }, armed := true } := by
  unfold armPageFlip at arms
  split at arms
  · cases arms
  · exact ⟨rfl, (Except.ok.inj arms).symm⟩

theorem presentFlip_cases (sized : presenter.Sized)
    (fits : frame.pixels.length =
      presenter.config.output.width * presenter.config.output.height)
    (forced : FullCopyReason) (layoutGeneration : Nat)
    (replies : PresentReplies) :
    let presented := presenter.presentFlip frame
      (hashVisibleXrgb8888 frame.pixels) forced layoutGeneration replies
    (Copied presenter presenter.buffers.backIndex presented.1 ∧
        presented.2.disposition ≠ .complete ∧
        presented.2.disposition ≠ .pending) ∨
      (Queued presenter frame presented.1 ∧
        presented.2.disposition = .pending) := by
  have copy := (Copied.of_copy sized presenter.buffers.backIndex frame fits
    (hashVisibleXrgb8888 frame.pixels) forced).numbered
  unfold presentFlip DumbBufferPair.back
  simp only
  generalize presenter.copyFrameTo
    (presenter.buffers.buffers presenter.buffers.backIndex) frame
    (hashVisibleXrgb8888 frame.pixels) forced = copied at copy ⊢
  split
  · exact .inl ⟨copy.failed, by simp⟩
  · rename_i passed
    have same := failure_none passed
    split
    · exact .inl ⟨copy, by simp⟩
    · split
      · exact .inl ⟨copy, by simp⟩
      · rename_i armed arms
        obtain ⟨registered, rfl⟩ := armPageFlip_ok arms
        have submitted := copy.submitted copied.target.visible frame.pixels
          same
        split
        · refine .inl ⟨submitted.unarmed ?_, by simp⟩
          simp [cancelPageFlip, registered]
        · exact .inr ⟨⟨registered, _, _, submitted, Nat.lt_succ_self _,
            rfl, rfl, rfl, rfl, rfl, _, _, rfl⟩, rfl⟩

theorem presentInitial_cases (sized : presenter.Sized)
    (fits : frame.pixels.length =
      presenter.config.output.width * presenter.config.output.height)
    (forced : FullCopyReason) (layoutGeneration : Nat)
    (replies : PresentReplies) :
    let presented := presenter.presentInitial frame
      (hashVisibleXrgb8888 frame.pixels) forced layoutGeneration replies
    let index := presenter.buffers.frontIndex
    presented.2.disposition ≠ .pending ∧
      (Copied presenter index presented.1 ∨
        (presented.1.fatal = true ∧
          presented.1.committedPixels = presenter.committedPixels ∧
          presented.1.initialModeset = presenter.initialModeset ∧
          presented.1.buffers.frontIndex = index ∧ presented.1.Sized ∧
          ∃ copied, Modeset presenter index copied presented.1) ∨
        (presented.1.initialModeset = true ∧
          Committed presenter index frame.pixels
            (hashVisibleXrgb8888 frame.pixels) presented.1)) := by
  have copy := Copied.of_copy sized presenter.buffers.frontIndex frame fits
    (hashVisibleXrgb8888 frame.pixels) forced
  unfold presentInitial DumbBufferPair.front
  simp only
  generalize presenter.copyFrameTo
    (presenter.buffers.buffers presenter.buffers.frontIndex) frame
    (hashVisibleXrgb8888 frame.pixels) forced = copied at copy ⊢
  split
  · exact ⟨by simp, .inl copy.failed⟩
  · rename_i passed
    have submitted := copy.submitted copied.target.visible frame.pixels
      (failure_none passed)
    split
    · exact ⟨by simp, .inl copy⟩
    · split
      · exact ⟨by simp, .inl submitted.failed⟩
      · split
        · refine ⟨by simp, .inr (.inl ⟨rfl, rfl, rfl, rfl, ?_, _, submitted,
            rfl, fun _ => rfl, rfl, rfl, rfl, rfl⟩)⟩
          obtain ⟨width, height, historyWidth, historyHeight, fills, hashed⟩ :=
            submitted.sized sized
          exact ⟨width, height, historyWidth, historyHeight, fills, hashed⟩
        · obtain ⟨buffers, history, completed, front, historyWidth,
            historyHeight, others⟩ := completeDamageCopy_eq
              { presenter with
                kernel := (presenter.kernel.submit copied.target.visible
                  frame.pixels).modeset presenter.buffers.frontIndex
                buffers := presenter.buffers.set presenter.buffers.frontIndex
                  copied.target
                displayTaken := true
                committedPixels := frame.pixels
                committedHash := hashVisibleXrgb8888 frame.pixels
                committedGeneration := frame.generation
                committedLayoutGeneration :=
                  if layoutGeneration ≠ 0 then layoutGeneration
                  else presenter.committedLayoutGeneration }
              presenter.buffers.frontIndex copied.plan frame.generation
          rw [completed]
          obtain ⟨width, height, firstWidth, firstHeight, _, _⟩ :=
            submitted.sized sized
          refine ⟨by simp, .inr (.inr ⟨rfl, ⟨_, submitted, rfl,
            fun other => (others other).1, rfl, rfl, rfl, rfl⟩,
            ?_, front, rfl, rfl⟩)⟩
          exact ⟨fun other => (others other).2.1.trans (width other),
            fun other => (others other).2.2.trans (height other),
            historyWidth.trans firstWidth, historyHeight.trans firstHeight,
            fun _ => fits, fun _ => rfl⟩

/-- Showing the committed frame again, in the back buffer. -/
theorem presentCommittedFrame_cases (sized : presenter.Sized)
    (replies : ResumeReplies) :
    let presented := presenter.presentCommittedFrame replies
    let index := presenter.buffers.backIndex
    (presenter.committedPixels = [] ∧ presented.1 = presenter) ∨
      (presenter.committedPixels ≠ [] ∧
        presented.1.initialModeset = presenter.initialModeset ∧
        ((Copied presenter index presented.1 ∧
            ∃ error, presented.2 = .error error) ∨
          Committed presenter index presenter.committedPixels
            presenter.committedHash presented.1)) := by
  unfold presentCommittedFrame
  split
  · rename_i blank
    exact .inl ⟨blank, rfl⟩
  · rename_i something
    refine .inr ⟨something, ?_⟩
    let frame : SoftwareFrameView :=
      { output := presenter.config.output
        pixels := presenter.committedPixels
        generation := presenter.committedGeneration }
    have copy := Copied.of_copy sized presenter.buffers.backIndex frame
      (sized.committed something)
      presenter.committedHash .virtualTerminalResume
    unfold DumbBufferPair.back
    simp only
    generalize presenter.copyFrameTo
      (presenter.buffers.buffers presenter.buffers.backIndex) _
      presenter.committedHash .virtualTerminalResume = copied at copy ⊢
    split
    · exact ⟨rfl, .inl ⟨copy, _, rfl⟩⟩
    · rename_i passed
      have submitted := copy.submitted copied.target.visible
        presenter.committedPixels
        ((failure_none passed).trans (sized.hashed something))
      split
      · exact ⟨rfl, .inl ⟨submitted, _, rfl⟩⟩
      · obtain ⟨buffers, history, completed, front, historyWidth,
          historyHeight, others⟩ := completeDamageCopy_eq
            { presenter with
              kernel := presenter.kernel.submit copied.target.visible
                presenter.committedPixels
              buffers := presenter.buffers.set presenter.buffers.backIndex
                copied.target }
            presenter.buffers.backIndex copied.plan
            presenter.committedGeneration
        rw [completed]
        obtain ⟨width, height, firstWidth, firstHeight, fills, hashed⟩ :=
          submitted.sized sized
        refine ⟨rfl, .inr ⟨⟨_, submitted, rfl, fun other => (others other).1,
          rfl, rfl, rfl, rfl⟩, ?_, ?_, rfl, rfl⟩⟩
        · exact ⟨fun other => (others other).2.1.trans (width other),
            fun other => (others other).2.2.trans (height other),
            historyWidth.trans firstWidth, historyHeight.trans firstHeight,
            fills, hashed⟩
        · simp [DumbBufferPair.backIndex, front]

theorem Copied.flagged {before after : DrmPresenter} {index : Fin 2}
    (copied : Copied before index after)
    (directSession : Option DirectSessionState) :
    Copied before index { after with fatal := true, directSession } :=
  { copied with fatal := fun _ => rfl }

theorem Committed.flagged {before after : DrmPresenter} {index : Fin 2}
    {pixels : List UInt32} {hash : UInt64}
    (committed : Committed before index pixels hash after)
    (fatal suspended : Bool) (directSession : Option DirectSessionState) :
    Committed before index pixels hash
      { after with fatal, suspended, directSession } := by
  obtain ⟨⟨copied, modeset⟩, sized, front, shown, same⟩ := committed
  obtain ⟨width, height, historyWidth, historyHeight, fills, hashed⟩ := sized
  exact ⟨⟨copied, { modeset with }⟩,
    ⟨width, height, historyWidth, historyHeight, fills, hashed⟩,
    front, shown, same⟩

/-- What the terminal adds to showing the committed frame. -/
theorem reacquire_cases (presenter : DrmPresenter)
    (session : DirectSessionState) (replies : ResumeReplies) :
    (reacquires replies (some session) = false ∧ ∃ error directSession,
      presenter.reacquire session replies =
        ({ presenter with directSession }, .error error)) ∨
    (reacquires replies (some session) = true ∧ ∃ directSession,
      presenter.reacquire session replies =
        ({ (presenter.presentCommittedFrame replies).1 with directSession },
          (presenter.presentCommittedFrame replies).2)) := by
  simp only [reacquire, reacquires]
  by_cases suspended : session = .suspended
  · rw [if_neg (not_not_intro suspended)]
    cases replies.acquired with
    | error error => exact .inl ⟨by simp [Except.isOk, Except.toBool], _, _, rfl⟩
    | ok done =>
        refine .inr ⟨by simp [suspended, Except.isOk, Except.toBool], ?_⟩
        rcases presenter.presentCommittedFrame replies with ⟨next, reply⟩
        cases reply with
        | error error => exact ⟨_, rfl⟩
        | ok done => exact ⟨_, rfl⟩
  · rw [if_pos suspended]
    exact .inl ⟨by simp [suspended], _, _, rfl⟩

/-- Resuming changes nothing but flags, or shows the committed frame again. -/
theorem resume_cases (sized : presenter.Sized)
    (committed : SoftwareFrameView) (replies : ResumeReplies) :
    let next := (presenter.resume committed replies).1
    (presenter.resumes committed replies = false ∧
        ∃ fatal directSession, (presenter.fatal = true → fatal = true) ∧
          next = { presenter with fatal, directSession }) ∨
      (presenter.resumes committed replies = true ∧
        presenter.suspended = true ∧ presenter.committedPixels ≠ [] ∧
        next.initialModeset = presenter.initialModeset ∧
        (Copied presenter presenter.buffers.backIndex next ∨
          Committed presenter presenter.buffers.backIndex
            presenter.committedPixels presenter.committedHash next)) := by
  unfold resume resumes
  split
  · rename_i refused
    refine .inl ⟨?_, _, _, id, rfl⟩
    simp only [Bool.or_eq_true, Bool.not_eq_true', decide_eq_true_eq] at refused
    rcases refused with (inactive | blank) | other
    · simp [inactive]
    · simp [blank]
    · simp [other]
  · rename_i agreed
    simp only [Bool.or_eq_true, Bool.not_eq_true', decide_eq_true_eq, not_or,
      Bool.not_eq_false, Decidable.not_not] at agreed
    obtain ⟨⟨suspended, something⟩, same⟩ := agreed
    simp only [suspended, something, same, ne_eq, not_false_eq_true,
      decide_true, Bool.and_self, Bool.true_and]
    have shows : ∀ directSession,
        let shown := presenter.presentCommittedFrame replies
        let next := match ({ shown.1 with directSession }, shown.2) with
          | (presenter, Except.error _) => { presenter with fatal := true }
          | (presenter, Except.ok _) => { presenter with suspended := false }
        next.initialModeset = presenter.initialModeset ∧
          (Copied presenter presenter.buffers.backIndex next ∨
            Committed presenter presenter.buffers.backIndex
              presenter.committedPixels presenter.committedHash next) := by
      intro directSession
      rcases presentCommittedFrame_cases sized replies with
        ⟨blank, _⟩ | ⟨_, modeset, ⟨copied, error, failed⟩ | committed⟩
      · exact absurd blank something
      · simp only [failed]
        exact ⟨modeset, .inl (copied.flagged directSession)⟩
      · simp only
        split
        · rename_i shown
          obtain ⟨rfl, _⟩ := Prod.mk.inj shown
          exact ⟨modeset, .inr (committed.flagged true _ directSession)⟩
        · rename_i shown
          obtain ⟨rfl, _⟩ := Prod.mk.inj shown
          exact ⟨modeset, .inr (committed.flagged _ false directSession)⟩
    cases presenter.directSession with
    | none =>
        refine .inr ⟨rfl, trivial, trivial, ?_⟩
        have shown := shows
          (presenter.presentCommittedFrame replies).1.directSession
        revert shown
        rcases presenter.presentCommittedFrame replies with ⟨next, reply⟩
        cases reply <;> exact id
    | some session =>
        rcases presenter.reacquire_cases session replies with
          ⟨refused, error, directSession, shown⟩ |
          ⟨acquired, directSession, shown⟩
        · simp only [shown, refused]
          exact .inl ⟨trivial, true, directSession, fun _ => rfl,
            by rw [suspended]⟩
        · simp only [shown, acquired]
          refine .inr ⟨trivial, trivial, trivial, ?_⟩
          have shown := shows directSession
          revert shown
          rcases presenter.presentCommittedFrame replies with ⟨next, reply⟩
          cases reply <;> exact id

theorem presentValidated_refused (refused : presenter.accepts frame = false)
    (forced : FullCopyReason) (layoutGeneration : Nat)
    (replies : PresentReplies) :
    (presenter.presentValidated frame forced layoutGeneration replies).1 =
        presenter ∧
      (presenter.presentValidated frame forced layoutGeneration
        replies).2.disposition ≠ .pending := by
  unfold presentValidated
  split
  · exact ⟨rfl, by simp⟩
  · rename_i operational
    split
    · exact ⟨rfl, by simp⟩
    · rename_i active
      split
      · exact ⟨rfl, by simp⟩
      · rename_i free
        split
        · exact ⟨rfl, by simp⟩
        · rename_i fits
          simp only [Bool.not_eq_true] at operational active free fits
          have pending : presenter.pending.isSome = true := by
            simpa [accepts, operational, active, fits] using refused
          rw [free] at pending
          cases pending

theorem presentValidated_accepted (accepted : presenter.accepts frame = true)
    (forced : FullCopyReason) (layoutGeneration : Nat)
    (replies : PresentReplies) :
    frame.pixels.length =
        presenter.config.output.width * presenter.config.output.height ∧
      presenter.presentValidated frame forced layoutGeneration replies =
        if presenter.initialModeset then
          presenter.presentFlip frame (hashVisibleXrgb8888 frame.pixels)
            forced layoutGeneration replies
        else
          presenter.presentInitial frame (hashVisibleXrgb8888 frame.pixels)
            forced layoutGeneration replies := by
  simp only [accepts, Bool.and_eq_true, Bool.not_eq_true'] at accepted
  obtain ⟨⟨⟨operational, active⟩, free⟩, fits⟩ := accepted
  refine ⟨?_, ?_⟩
  · simp only [mismatched, Bool.or_eq_false_iff, decide_eq_false_iff_not,
      Decidable.not_not] at fits
    exact fits.2
  · have pending : presenter.pending.isSome = false := by
      simpa using free
    unfold presentValidated
    rw [operational, active, pending, fits]
    rfl

/-- What presenting a frame that passed the checks leads to. -/
inductive Presented (before : DrmPresenter) (frame : SoftwareFrameView)
    (after : DrmPresenter) : Prop
  | kept (shown : before.initialModeset = true)
      (copied : Copied before before.buffers.backIndex after)
  | queued (shown : before.initialModeset = true)
      (queued : Queued before frame after)
  | refused (blank : before.initialModeset = false)
      (copied : Copied before before.buffers.frontIndex after)
  | unrecorded (blank : before.initialModeset = false)
      (fatal : after.fatal = true)
      (committedPixels : after.committedPixels = before.committedPixels)
      (initialModeset : after.initialModeset = before.initialModeset)
      (frontIndex : after.buffers.frontIndex = before.buffers.frontIndex)
      (sized : after.Sized)
      (modeset :
        ∃ copied, Modeset before before.buffers.frontIndex copied after)
  | committed (blank : before.initialModeset = false)
      (initialModeset : after.initialModeset = true)
      (committed : Committed before before.buffers.frontIndex frame.pixels
        (hashVisibleXrgb8888 frame.pixels) after)

theorem presentValidated_presented (sized : presenter.Sized)
    (accepted : presenter.accepts frame = true) (forced : FullCopyReason)
    (layoutGeneration : Nat) (replies : PresentReplies) :
    let presented := presenter.presentValidated frame forced layoutGeneration
      replies
    Presented presenter frame presented.1 ∧
      (presented.2.disposition = .pending →
        ∀ frameSetHash, Presented presenter frame
          { presented.1 with pendingFrameSetHash := frameSetHash }) := by
  obtain ⟨fits, presented⟩ := presentValidated_accepted accepted forced
    layoutGeneration replies
  rw [presented]
  cases shown : presenter.initialModeset with
  | true =>
      simp only [if_true]
      rcases presentFlip_cases sized fits forced layoutGeneration replies with
        ⟨copied, _, settled⟩ | ⟨queued, _⟩
      · exact ⟨.kept shown copied, fun pending => absurd pending settled⟩
      · refine ⟨.queued shown queued, fun _ frameSetHash =>
          .queued shown ⟨queued.unregistered, ?_⟩⟩
        obtain ⟨copied, pending, copy, later, token, cookie, pixels, hash,
          unverified, layout, _, after⟩ := queued.queued
        exact ⟨copied, pending, copy, later, token, cookie, pixels, hash,
          unverified, layout, frameSetHash, by rw [after]⟩
  | false =>
      simp only [Bool.false_eq_true, if_false]
      obtain ⟨settled, outcome⟩ :=
        presentInitial_cases sized fits forced layoutGeneration replies
      refine ⟨?_, fun pending => absurd pending settled⟩
      rcases outcome with copied |
        ⟨fatal, pixels, modeset, front, extent, shows⟩ | ⟨modeset, committed⟩
      · exact .refused shown copied
      · exact .unrecorded shown fatal pixels modeset front extent shows
      · exact .committed shown modeset committed

theorem presentSet_presented (sized : presenter.Sized)
    (frames : SoftwareFrameSet) (replies : PresentReplies) :
    ((setFrame frames).any presenter.accepts = false ∧
        (presenter.presentSet frames replies).1 = presenter) ∨
      ∃ frame, (setFrame frames).any presenter.accepts = true ∧
        presenter.accepts frame = true ∧
        Presented presenter frame (presenter.presentSet frames replies).1 := by
  cases single : singleFrame frames with
  | none =>
      simp only [presentSet, setFrame, single]
      exact .inl ⟨rfl, trivial⟩
  | some found =>
    obtain ⟨id, output, frame⟩ := found
    simp only [presentSet, setFrame, single]
    generalize (decide (output.output.outputId ≠ id) ||
      decide (output.visibleHash ≠ output.frame.visibleHash)) = inconsistent
    cases inconsistent with
    | true => exact .inl ⟨rfl, rfl⟩
    | false =>
        simp only [Bool.false_eq_true, if_false, Option.any_some]
        cases accepted : presenter.accepts frame with
        | false =>
            have refused := fun forced => presentValidated_refused accepted
              forced frames.layoutGeneration replies
            refine .inl ⟨rfl, ?_⟩
            split
            · exact (refused _).1
            · rename_i pending
              exact absurd pending (refused _).2
            · exact (refused _).1
        | true =>
            have presented := fun forced => presentValidated_presented sized
              accepted forced frames.layoutGeneration replies
            refine .inr ⟨frame, rfl, accepted, ?_⟩
            split
            · exact (presented _).1
            · rename_i pending
              exact (presented _).2 pending _
            · exact (presented _).1

end DrmPresenter

end Glasswyrm.Drm
