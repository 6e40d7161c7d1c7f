import Glasswyrm.Drm.DamageSoundness
import Glasswyrm.Drm.Presenter

namespace Glasswyrm.Drm

open Compositor Compositor.Rectangle Library Render

/-! ## Copies -/

/-- A copy keeps the extent of the buffer and is counted. -/
structure DumbBuffer.CopiedInto (before after : DumbBuffer) : Prop where
  width : after.width = before.width
  height : after.height = before.height
  writes : before.writes < after.writes

theorem DumbBuffer.CopiedInto.trans {first second third : DumbBuffer}
    (left : first.CopiedInto second) (right : second.CopiedInto third) :
    first.CopiedInto third :=
  ⟨right.width.trans left.width, right.height.trans left.height,
    left.writes.trans right.writes⟩

theorem copyFrom_ok {buffer : DumbBuffer} {pixels : List UInt32}
    (fits : pixels.length = buffer.width * buffer.height) :
    ∃ copied, buffer.copyFrom pixels = .ok copied ∧
      buffer.CopiedInto copied := by
  unfold DumbBuffer.copyFrom
  rw [if_neg (by simp [fits])]
  exact ⟨_, rfl, rfl, rfl, Nat.lt_succ_self _⟩

theorem copyRectanglesFrom_ok {buffer : DumbBuffer} {pixels : List UInt32}
    (rectangles : List Rectangle) (valid : buffer.contentValid = true)
    (fits : pixels.length = buffer.width * buffer.height)
    (held : ∀ rectangle ∈ rectangles, buffer.holds rectangle = true) :
    ∃ copied, buffer.copyRectanglesFrom pixels rectangles = .ok copied ∧
      buffer.CopiedInto copied := by
  unfold DumbBuffer.copyRectanglesFrom
  rw [if_neg (by simp [valid, fits]),
    if_neg (by simpa using held)]
  exact ⟨_, rfl, rfl, rfl, Nat.lt_succ_self _⟩

/-- The rectangles that a region leaves pass the checks of the copy. -/
theorem normalized_held {history : DamageCopyHistory} {buffer : DumbBuffer}
    (width : buffer.width = history.width)
    (height : buffer.height = history.height)
    (damage : List Rectangle) :
    ∀ rectangle ∈ (history.normalized damage).rectangles,
      buffer.holds rectangle = true := by
  intro rectangle member
  have grown := DamageRegion.foldl_grows DamageRegion.add_grows
    { outputBounds := history.bounds } damage
  have solid := (grown.wellformed (DamageRegion.initial_wellformed _)).solid
    rectangle member
  obtain ⟨left, right, top, bottom⟩ :=
    normalized_within history damage member
  simp only [DamageCopyHistory.bounds, Rectangle.right, Rectangle.bottom]
    at left right top bottom
  simp only [DumbBuffer.holds, solid, Rectangle.right, Rectangle.bottom, width,
    height, Bool.not_false, Bool.true_and, Bool.and_eq_true, decide_eq_true_eq]
  omega

namespace DrmPresenter

/-- The buffers and the history have the extent of the mode, and the committed
frame, if there is one, fills it and has the committed hash. -/
structure Sized (presenter : DrmPresenter) : Prop where
  width : ∀ index, (presenter.buffers.buffers index).width =
    presenter.config.output.width
  height : ∀ index, (presenter.buffers.buffers index).height =
    presenter.config.output.height
  historyWidth :
    presenter.damageHistory.width = presenter.config.output.width
  historyHeight :
    presenter.damageHistory.height = presenter.config.output.height
  committed : presenter.committedPixels ≠ [] →
    presenter.committedPixels.length =
      presenter.config.output.width * presenter.config.output.height
  hashed : presenter.committedPixels ≠ [] →
    presenter.committedHash = hashVisibleXrgb8888 presenter.committedPixels

/-- A frame that fills the mode is always copied. -/
theorem copyFrameTo_copies {presenter : DrmPresenter} (sized : presenter.Sized)
    (index : Fin 2) {frame : SoftwareFrameView}
    (fits : frame.pixels.length =
      presenter.config.output.width * presenter.config.output.height)
    (hash : UInt64) (forced : FullCopyReason) :
    (presenter.copyFrameTo (presenter.buffers.buffers index) frame hash
        forced).error = none ∧
      (presenter.buffers.buffers index).CopiedInto
        (presenter.copyFrameTo (presenter.buffers.buffers index) frame hash
          forced).target := by
  have width := sized.width index
  have height := sized.height index
  generalize presenter.buffers.buffers index = target at width height ⊢
  have whole : frame.pixels.length = target.width * target.height := by
    rw [width, height, fits]
  obtain ⟨full, copiedFull, into⟩ := copyFrom_ok whole
  unfold copyFrameTo
  split
  · rw [copiedFull]
    exact ⟨rfl, into⟩
  · simp only
    generalize made : presenter.damageHistory.plan target.contentValid
      target.completedGeneration frame.generation frame.damage forced = plan
    cases parts : plan.fullCopy with
    | true =>
        simp only [if_true, copiedFull, Bool.true_or]
        exact ⟨trivial, into⟩
    | false =>
        obtain ⟨_, valid, _, missing, _, planned, _⟩ :=
          Scanout.plan_partial made parts
        obtain ⟨copied, copiedParts, intoParts⟩ := copyRectanglesFrom_ok
          plan.rectangles valid whole (by
            rw [planned]
            exact normalized_held (width.trans sized.historyWidth.symm)
              (height.trans sized.historyHeight.symm) _)
        simp only [Bool.false_eq_true, if_false, copiedParts, Bool.false_or]
        split
        · exact ⟨rfl, intoParts⟩
        · have refits : frame.pixels.length = copied.width * copied.height := by
            rw [intoParts.width, intoParts.height, whole]
          obtain ⟨again, copiedAgain, intoAgain⟩ := copyFrom_ok refits
          rw [copiedAgain]
          exact ⟨rfl, intoParts.trans intoAgain⟩

theorem failure_none {copied : CopiedFrame} {hash : UInt64} {differs : String}
    (passed : copied.failure hash differs = none) :
    copied.target.visibleHash = hash := by
  unfold CopiedFrame.failure at passed
  split at passed
  · cases passed
  · split at passed
    · cases passed
    · rename_i same
      exact Decidable.not_not.mp same

/-! ## What a copy changes -/

/-- The presenter after a copy into the buffer: what is shown and what is
pending stay, and what was handed to the kernel besides has the hash of its
frame. -/
structure Copied (before : DrmPresenter) (index : Fin 2)
    (after : DrmPresenter) : Prop where
  config : after.config = before.config
  crtc : after.crtc = before.crtc
  buffers : ∃ target, (before.buffers.buffers index).CopiedInto target ∧
    after.buffers = before.buffers.set index target
  history : after.damageHistory = before.damageHistory
  committedPixels : after.committedPixels = before.committedPixels
  committedHash : after.committedHash = before.committedHash
  initialModeset : after.initialModeset = before.initialModeset
  suspended : after.suspended = before.suspended
  pending : after.pending = before.pending
  registered : after.registered = before.registered
  scanned : after.kernel.scanned = before.kernel.scanned
  flips : after.kernel.flips = before.kernel.flips
  events : after.kernel.events = before.kernel.events
  submissions : ∀ submission ∈ after.kernel.submissions,
    submission ∈ before.kernel.submissions ∨
      hashVisibleXrgb8888 submission.shown =
        hashVisibleXrgb8888 submission.frame
  nextToken : before.nextToken ≤ after.nextToken
  fatal : before.fatal = true → after.fatal = true

section

variable {before after : DrmPresenter} {index : Fin 2}

theorem Copied.of_copy (sized : before.Sized) (index : Fin 2)
    (frame : SoftwareFrameView)
    (fits : frame.pixels.length =
      before.config.output.width * before.config.output.height)
    (hash : UInt64) (forced : FullCopyReason) :
    Copied before index { before with
      buffers := before.buffers.set index
        (before.copyFrameTo (before.buffers.buffers index) frame hash
          forced).target } where
  config := rfl
  crtc := rfl
  buffers := ⟨_, (copyFrameTo_copies sized index fits hash forced).2, rfl⟩
  history := rfl
  committedPixels := rfl
  committedHash := rfl
  initialModeset := rfl
  suspended := rfl
  pending := rfl
  registered := rfl
  scanned := rfl
  flips := rfl
  events := rfl
  submissions := fun _ member => .inl member
  nextToken := Nat.le_refl _
  fatal := id

theorem Copied.failed (copied : Copied before index after) :
    Copied before index { after with fatal := true } :=
  { copied with fatal := fun _ => rfl }

theorem Copied.numbered (copied : Copied before index after) :
    Copied before index { after with nextToken := after.nextToken + 1 } :=
  { copied with nextToken := Nat.le_succ_of_le copied.nextToken }

theorem Copied.submitted (copied : Copied before index after)
    (shown frame : List UInt32)
    (same : hashVisibleXrgb8888 shown = hashVisibleXrgb8888 frame) :
    Copied before index
      { after with kernel := after.kernel.submit shown frame } :=
  { copied with
    submissions := fun submission member => by
      rcases List.mem_append.mp member with earlier | newest
      · exact copied.submissions submission earlier
      · obtain rfl := List.mem_singleton.mp newest
        exact .inr same }

theorem Copied.unarmed (copied : Copied before index after)
    {registered : Option EventCookie}
    (same : registered = after.registered) :
    Copied before index { after with registered } :=
  { copied with registered := same.trans copied.registered }

/-- The copied buffer is the only one that was written. -/
theorem Copied.writes (copied : Copied before index after) :
    (before.buffers.buffers index).writes <
        (after.buffers.buffers index).writes ∧
      ∀ other, other ≠ index →
        after.buffers.buffers other = before.buffers.buffers other := by
  obtain ⟨target, into, buffers⟩ := copied.buffers
  rw [buffers]
  refine ⟨?_, fun other apart => DumbBufferPair.set_other _ apart _⟩
  rw [DumbBufferPair.set_same]
  exact into.writes

theorem Copied.frontIndex (copied : Copied before index after) :
    after.buffers.frontIndex = before.buffers.frontIndex := by
  obtain ⟨target, _, buffers⟩ := copied.buffers
  rw [buffers]
  rfl

theorem Copied.sized (copied : Copied before index after)
    (sized : before.Sized) : after.Sized := by
  obtain ⟨target, into, buffers⟩ := copied.buffers
  have extent : ∀ other,
      (after.buffers.buffers other).width = before.config.output.width ∧
        (after.buffers.buffers other).height =
          before.config.output.height := by
    intro other
    rw [buffers]
    by_cases own : other = index
    · subst own
      rw [DumbBufferPair.set_same, into.width, into.height]
      exact ⟨sized.width other, sized.height other⟩
    · rw [DumbBufferPair.set_other _ own]
      exact ⟨sized.width other, sized.height other⟩
  constructor
  · intro other
    rw [copied.config]
    exact (extent other).1
  · intro other
    rw [copied.config]
    exact (extent other).2
  · rw [copied.config, copied.history, sized.historyWidth]
  · rw [copied.config, copied.history, sized.historyHeight]
  · rw [copied.config, copied.committedPixels]
    exact sized.committed
  · rw [copied.committedPixels, copied.committedHash]
    exact sized.hashed

end

end DrmPresenter

end Glasswyrm.Drm
