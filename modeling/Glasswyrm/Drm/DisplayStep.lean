import Glasswyrm.Drm.DisplayPhase

namespace Glasswyrm.Drm

open Compositor Library Render

/-! What each operation does to the presenter, in whatever phase it is. -/

/-- Buffers the kernel uses are left alone, what is handed to it has the hash
of its frame, and a cookie is registered under a new token only. -/
structure Moves (before after : DrmPresenter) : Prop where
  sized : after.Sized
  submissions : ∀ submission ∈ after.kernel.submissions,
    submission ∈ before.kernel.submissions ∨
      hashVisibleXrgb8888 submission.shown =
        hashVisibleXrgb8888 submission.frame
  nextToken : before.nextToken ≤ after.nextToken
  registered : ∀ event ∈ after.registered,
    (∃ earlier ∈ before.registered,
        event.cookie.token = earlier.cookie.token) ∨
      (event.cookie.token = before.nextToken ∧
        before.nextToken < after.nextToken)
  untouched : ∀ index, before.kernel.Uses index →
    (after.buffers.buffers index).writes =
      (before.buffers.buffers index).writes

section

variable {before after : DrmPresenter}

/-- Operations that copy nothing. -/
theorem Moves.of_kept (sized : after.Sized)
    (submissions : after.kernel.submissions = before.kernel.submissions)
    (nextToken : after.nextToken = before.nextToken)
    (registered : ∀ event ∈ after.registered, ∃ earlier ∈ before.registered,
      event.cookie.token = earlier.cookie.token)
    (writes : ∀ index, (after.buffers.buffers index).writes =
      (before.buffers.buffers index).writes) : Moves before after where
  sized := sized
  submissions := fun _ member => .inl (submissions ▸ member)
  nextToken := nextToken.ge
  registered := fun event member => .inl (registered event member)
  untouched := fun index _ => writes index

theorem clearPending_registered (before : DrmPresenter) (event : EventCookie)
    (still : event ∈ before.clearPending.registered) :
    ∃ earlier ∈ before.registered,
      event.cookie.token = earlier.cookie.token := by
  unfold DrmPresenter.clearPending at still
  split at still
  · exact ⟨event, still, rfl⟩
  · obtain ⟨earlier, registered, rfl⟩ := Option.map_eq_some_iff.mp still
    refine ⟨earlier, registered, ?_⟩
    split <;> rfl

theorem clearPending_eq (presenter : DrmPresenter) :
    ∃ registered pending frameSetHash layoutGeneration,
      presenter.clearPending = { presenter with
        registered, pending
        pendingFrameSetHash := frameSetHash
        pendingLayoutGeneration := layoutGeneration } := by
  unfold DrmPresenter.clearPending
  split
  · exact ⟨_, _, _, _, rfl⟩
  · exact ⟨_, _, _, _, rfl⟩

theorem clearPending_front (presenter : DrmPresenter) :
    presenter.clearPending.buffers.frontIndex =
      presenter.buffers.frontIndex := by
  obtain ⟨_, _, _, _, same⟩ := clearPending_eq presenter
  rw [same]

theorem clearPending_fatal (presenter : DrmPresenter) (fatal : Bool) :
    DrmPresenter.clearPending { presenter with fatal } =
      { presenter.clearPending with fatal } := by
  cases waits : presenter.pending <;>
    simp only [DrmPresenter.clearPending, waits]

theorem Moves.refl (sized : before.Sized) : Moves before before :=
  .of_kept sized rfl rfl (fun event member => ⟨event, member, rfl⟩)
    fun _ => rfl

theorem clearPending_moves (sized : before.Sized) (fatal : Bool) :
    Moves before { before.clearPending with fatal } := by
  have registered := clearPending_registered before
  obtain ⟨_, _, _, _, cleared⟩ := clearPending_eq before
  rw [cleared] at registered ⊢
  obtain ⟨width, height, historyWidth, historyHeight, fills, hashed⟩ := sized
  exact .of_kept ⟨width, height, historyWidth, historyHeight, fills, hashed⟩ rfl
    rfl registered fun _ => rfl

end

section

variable {presenter : DrmPresenter}

theorem InPhase.flying {givenUp : Bool} {pending : PendingPresentation}
    (phase : InPhase presenter givenUp)
    (waits : presenter.pending = some pending) :
    givenUp = false ∧ Flying presenter pending := by
  rcases phase with ⟨rfl, idle | ⟨other, flying⟩⟩ | ⟨_, strayed⟩
  · cases idle.pending.symm.trans waits
  · obtain rfl := Option.some.inj (flying.presents.symm.trans waits)
    exact ⟨rfl, flying⟩
  · cases strayed.pending.symm.trans waits

theorem gaveUp_self (presenter : DrmPresenter) :
    Display.gaveUp presenter presenter = false := by
  cases waits : presenter.pending <;> simp [Display.gaveUp, waits]

theorem gaveUp_of_pending {before after : DrmPresenter}
    {pending : PendingPresentation} (still : after.pending = some pending) :
    Display.gaveUp before after = false := by
  simp [Display.gaveUp, still]

theorem gaveUp_of_idle {before after : DrmPresenter}
    (nothing : before.pending = none) :
    Display.gaveUp before after = false := by
  simp [Display.gaveUp, nothing]

theorem gaveUp_of_cleared {before after : DrmPresenter}
    {pending : PendingPresentation} (waited : before.pending = some pending)
    (gone : after.pending = none)
    (front : after.buffers.frontIndex = before.buffers.frontIndex) :
    Display.gaveUp before after = true := by
  simp [Display.gaveUp, waited, gone, front]

theorem gaveUp_of_promoted {before after : DrmPresenter}
    (promoted : after.buffers.frontIndex ≠ before.buffers.frontIndex) :
    Display.gaveUp before after = false := by
  simp [Display.gaveUp, promoted]

/-! ## Events -/

theorem service_moves (sized : presenter.Sized) (revents : PollEvents)
    (handled staged : Reply) :
    Moves presenter (presenter.service revents handled staged).1 := by
  have still : ∀ event, event ∈ (serviceEvents presenter.registered
      presenter.kernel.events revents handled).registered →
      ∃ earlier ∈ presenter.registered,
        event.cookie.token = earlier.cookie.token := by
    intro event member
    obtain ⟨earlier, registered, same, _⟩ := serviceEvents_registered member
    exact ⟨earlier, registered, same⟩
  have sizedRead : (presenter.readEvents (serviceEvents presenter.registered
      presenter.kernel.events revents handled)).Sized := by
    obtain ⟨width, height, historyWidth, historyHeight, fills, hashed⟩ := sized
    exact ⟨width, height, historyWidth, historyHeight, fills, hashed⟩
  rcases service_cases presenter revents handled staged with
    ⟨_, serviced⟩ | ⟨_, reason, serviced⟩ | ⟨pending, sequence, _, _, serviced⟩
  · rw [serviced]
    exact .of_kept sizedRead rfl rfl still fun _ => rfl
  · rw [serviced]
    have cleared := clearPending_moves sizedRead true
    refine ⟨cleared.sized, cleared.submissions, cleared.nextToken, ?_,
      cleared.untouched⟩
    intro event member
    rcases cleared.registered event member with ⟨earlier, waits, same⟩ | fresh
    · obtain ⟨first, registered, first_same⟩ := still earlier waits
      exact .inl ⟨first, registered, same.trans first_same⟩
    · exact .inr fresh
  · rw [serviced]
    obtain ⟨width, height, historyWidth, historyHeight, fills, hashed⟩ :=
      sizedRead
    exact .of_kept ⟨width, height, historyWidth, historyHeight, fills, hashed⟩
      rfl rfl still fun _ => rfl

theorem service_phase {givenUp : Bool} (phase : InPhase presenter givenUp)
    (revents : PollEvents) (handled staged : Reply) :
    InPhase (presenter.service revents handled staged).1
      (givenUp || Display.gaveUp presenter
        (presenter.service revents handled staged).1) := by
  rcases phase with ⟨rfl, idle | ⟨pending, flying⟩⟩ | ⟨rfl, strayed⟩
  · rw [gaveUp_of_idle idle.pending]
    have read := idle.read revents handled
    rcases service_cases presenter revents handled staged with
      ⟨_, serviced⟩ | ⟨_, reason, serviced⟩ | ⟨pending, _, _, waits, _⟩
    · rw [serviced]
      exact .inl ⟨rfl, .inl read⟩
    · rw [serviced]
      simp only [DrmPresenter.fatalEvent, clearPending_none read.pending]
      obtain ⟨nothing, flips, registered, foreign, scanned, blank⟩ := read
      exact .inl ⟨rfl, .inl ⟨nothing, flips, registered, foreign, scanned,
        fun fresh => ⟨(blank fresh).1, .inl rfl⟩⟩⟩
    · rw [read.pending] at waits
      cases waits
  · obtain ⟨next, _, read⟩ := flying.read revents handled
    rcases service_cases presenter revents handled staged with
      ⟨_, serviced⟩ | ⟨_, reason, serviced⟩ |
        ⟨completed, sequence, event, waits, serviced⟩
    · rw [serviced, gaveUp_of_pending read.presents]
      exact .inl ⟨rfl, .inr ⟨next, read⟩⟩
    · have strayed := read.cleared true
      rw [serviced]
      refine .inr ⟨?_, strayed⟩
      exact gaveUp_of_cleared flying.presents strayed.pending
        (clearPending_front _)
    · obtain rfl : completed = next :=
        Option.some.inj (waits.symm.trans read.presents)
      have gone := (serviceEvents_pageFlip event).2
      rw [serviced, gaveUp_of_pending rfl]
      refine .inl ⟨rfl, .inr ⟨_, rfl, read.modeset, read.active, read.cookie,
        read.fills, read.hashed, ?_⟩⟩
      cases read.stage with
      | inFlight _ _ registered _ _ =>
          cases gone.symm.trans registered
      | landed _ _ _ registered _ _ _ _ =>
          cases gone.symm.trans registered
      | serviced flips scanned registered foreign =>
          exact .serviced flips scanned registered foreign
  · have read := strayed.read revents handled
    rcases service_cases presenter revents handled staged with
      ⟨_, serviced⟩ | ⟨_, reason, serviced⟩ | ⟨pending, _, _, waits, _⟩
    · rw [serviced]
      exact .inr ⟨rfl, read⟩
    · rw [serviced]
      simp only [DrmPresenter.fatalEvent, clearPending_none read.pending]
      obtain ⟨nothing, modeset, unarmed, back⟩ := read
      exact .inr ⟨rfl, nothing, modeset, unarmed, back⟩
    · rw [read.pending] at waits
      cases waits

/-! ## Finalizing and aborting -/

theorem finalizePending_cases (presenter : DrmPresenter) (token : Nat)
    (committed : Reply) :
    let next := (presenter.finalizePending token committed).1
    next = presenter ∨
      ∃ pending, presenter.pending = some pending ∧
        pending.completionVerified = true ∧
        (next = { presenter.clearPending with fatal := true } ∨
          ∃ (buffers : DumbBufferPair) (history : DamageCopyHistory)
            (layout : Nat), buffers.frontIndex = presenter.buffers.frontIndex ∧
            history.width = presenter.damageHistory.width ∧
            history.height = presenter.damageHistory.height ∧
            (∀ other,
              (buffers.buffers other).writes =
                  (presenter.buffers.buffers other).writes ∧
                (buffers.buffers other).width =
                  (presenter.buffers.buffers other).width ∧
                (buffers.buffers other).height =
                  (presenter.buffers.buffers other).height) ∧
            next = { presenter with
              buffers := buffers.promoteBack
              damageHistory := history
              frontIndex := pending.nextFrontIndex
              committedPixels := pending.pixels
              committedHash := pending.hash
              committedGeneration := pending.generation
              committedLayoutGeneration := layout
              registered :=
                abandonPageFlip presenter.registered pending.cookie
              pending := none
              pendingFrameSetHash := none
              pendingLayoutGeneration := none }) := by
  unfold DrmPresenter.finalizePending
  split
  · exact .inl rfl
  · rename_i pending waits
    split
    · exact .inl rfl
    · rename_i matching
      simp only [Bool.or_eq_true, decide_eq_true_eq, Bool.not_eq_true', not_or,
        Bool.not_eq_false] at matching
      refine .inr ⟨pending, waits, matching.2, ?_⟩
      split
      · simp only [DrmPresenter.clearPending, waits]
        exact .inl trivial
      · obtain ⟨buffers, history, completed, front, width, height, others⟩ :=
          DrmPresenter.completeDamageCopy_eq presenter
            presenter.buffers.backIndex pending.damageCopy pending.generation
        refine .inr ⟨buffers, history,
          presenter.pendingLayoutGeneration.getD
            presenter.committedLayoutGeneration,
          front, width, height, others, ?_⟩
        simp only [completed, DrmPresenter.clearPending, waits]

theorem abandonPageFlip_registered {registered : Option EventCookie}
    {cookie : PageFlipCookie} {event : EventCookie}
    (still : event ∈ abandonPageFlip registered cookie) :
    ∃ earlier ∈ registered, event.cookie.token = earlier.cookie.token := by
  obtain ⟨earlier, waits, rfl⟩ := Option.map_eq_some_iff.mp still
  refine ⟨earlier, waits, ?_⟩
  split <;> rfl

theorem finalizePending_step {givenUp : Bool} (sized : presenter.Sized)
    (phase : InPhase presenter givenUp) (token : Nat) (committed : Reply) :
    Moves presenter (presenter.finalizePending token committed).1 ∧
      InPhase (presenter.finalizePending token committed).1
        (givenUp || Display.gaveUp presenter
          (presenter.finalizePending token committed).1) := by
  rcases finalizePending_cases presenter token committed with
    same | ⟨pending, waits, verified, outcome⟩
  · rw [same, gaveUp_self, Bool.or_false]
    exact ⟨.refl sized, phase⟩
  · obtain ⟨rfl, flying⟩ : givenUp = false ∧ Flying presenter pending := by
      rcases phase with ⟨rfl, idle | ⟨other, flying⟩⟩ | ⟨_, strayed⟩
      · cases idle.pending.symm.trans waits
      · obtain rfl := Option.some.inj (flying.presents.symm.trans waits)
        exact ⟨rfl, flying⟩
      · cases strayed.pending.symm.trans waits
    rcases outcome with cleared | ⟨buffers, history, layout,
      frontIndex, sameWidth, sameHeight, others, done⟩
    · have strayed := flying.cleared true
      have moves := clearPending_moves sized true
      rw [cleared]
      refine ⟨moves, ?_⟩
      rw [gaveUp_of_cleared waits strayed.pending (clearPending_front _)]
      exact .inr ⟨rfl, strayed⟩
    · obtain ⟨width, height, historyWidth, historyHeight, fills, hashed⟩ :=
        sized
      have front : buffers.promoteBack.frontIndex =
          presenter.buffers.backIndex := by
        simp [DumbBufferPair.backIndex, frontIndex]
      rw [done]
      refine ⟨.of_kept ⟨fun other => (others other).2.1.trans (width other),
          fun other => (others other).2.2.trans (height other),
          sameWidth.trans historyWidth, sameHeight.trans historyHeight,
          fun _ => flying.fills, fun _ => flying.hashed⟩ rfl rfl
          (fun _ => abandonPageFlip_registered) fun other => (others other).1,
        ?_⟩
      rw [gaveUp_of_promoted (front ▸ presenter.buffers.backIndex_ne)]
      cases flying.stage with
      | inFlight _ _ _ _ unverified => cases unverified.symm.trans verified
      | landed _ _ _ _ _ _ _ unverified =>
          cases unverified.symm.trans verified
      | serviced flips scanned registered foreign =>
          refine .inl ⟨rfl, .inl ⟨rfl, flips, ?_, foreign, fun _ => ?_,
            fun fresh => ?_⟩⟩
          · simp [abandonPageFlip, registered]
          · exact scanned.trans (congrArg some front.symm)
          · cases flying.modeset.symm.trans fresh

theorem abortPending_step {givenUp : Bool} (sized : presenter.Sized)
    (phase : InPhase presenter givenUp) (token : Nat) (reason : String) :
    Moves presenter (presenter.abortPending token reason) ∧
      InPhase (presenter.abortPending token reason)
        (givenUp || Display.gaveUp presenter
          (presenter.abortPending token reason)) := by
  unfold DrmPresenter.abortPending
  split
  · rename_i named
    obtain ⟨pending, waits, _⟩ := (Option.any_eq_true _ _).mp named
    obtain ⟨rfl, flying⟩ := phase.flying waits
    have cleared : ∀ fatal,
        Moves presenter { presenter.clearPending with fatal } ∧
          InPhase { presenter.clearPending with fatal }
            (false || Display.gaveUp presenter
              { presenter.clearPending with fatal }) := by
      intro fatal
      have strayed := flying.cleared fatal
      refine ⟨clearPending_moves sized fatal, ?_⟩
      rw [gaveUp_of_cleared waits strayed.pending (clearPending_front _)]
      exact .inr ⟨rfl, strayed⟩
    split
    · rw [clearPending_fatal]
      exact cleared true
    · exact cleared _
  · rw [gaveUp_self, Bool.or_false]
    exact ⟨.refl sized, phase⟩

/-! ## Suspending -/

/-- Only flags, the marks of the buffers and the history have changed. -/
structure Parked (before after : DrmPresenter) : Prop where
  config : after.config = before.config
  kernel : after.kernel = before.kernel
  registered : after.registered = before.registered
  pending : after.pending = before.pending
  nextToken : after.nextToken = before.nextToken
  initialModeset : after.initialModeset = before.initialModeset
  committedPixels : after.committedPixels = before.committedPixels
  committedHash : after.committedHash = before.committedHash
  frontIndex : after.buffers.frontIndex = before.buffers.frontIndex
  buffers : ∀ index,
    (after.buffers.buffers index).writes =
        (before.buffers.buffers index).writes ∧
      (after.buffers.buffers index).width =
        (before.buffers.buffers index).width ∧
      (after.buffers.buffers index).height =
        (before.buffers.buffers index).height
  historyWidth : after.damageHistory.width = before.damageHistory.width
  historyHeight : after.damageHistory.height = before.damageHistory.height
  fatal : before.fatal = true → after.fatal = true
  suspended : before.pending.isSome = true →
    after.suspended = before.suspended

theorem releaseDisplay_parked {before after : DrmPresenter}
    (parked : Parked before after) (free : before.pending = none) :
    Parked before after.releaseDisplay := by
  unfold DrmPresenter.releaseDisplay
  simp only
  split
  · exact { parked with suspended := by simp [free] }
  · exact { parked with suspended := by simp [free] }

theorem suspend_parked (presenter : DrmPresenter) (replies : SuspendReplies) :
    Parked presenter (presenter.suspend replies).1 := by
  have same : Parked presenter presenter :=
    ⟨rfl, rfl, rfl, rfl, rfl, rfl, rfl, rfl, rfl, fun _ => ⟨rfl, rfl, rfl⟩,
      rfl, rfl, id, fun _ => rfl⟩
  unfold DrmPresenter.suspend
  split
  · exact { same with fatal := fun _ => rfl }
  · rename_i free
    have nothing : presenter.pending = none := by simpa using free
    split
    · exact releaseDisplay_parked same nothing
    · split
      · exact { same with fatal := fun _ => rfl }
      · split
        · exact { same with fatal := fun _ => rfl }
        · have suspended : Parked presenter
              { presenter with directSession := some .suspended } :=
            { same with }
          have released := releaseDisplay_parked suspended nothing
          simp only
          split <;> exact released

theorem Parked.step {before after : DrmPresenter} {givenUp : Bool}
    (parked : Parked before after) (sized : before.Sized)
    (phase : InPhase before givenUp) :
    Moves before after ∧
      InPhase after (givenUp || Display.gaveUp before after) := by
  obtain ⟨config, kernel, registered, pending, nextToken, modeset, committed,
    hash, front, buffers, historyWidth, historyHeight, fatal, suspended⟩ :=
    parked
  have back : after.buffers.backIndex = before.buffers.backIndex := by
    simp only [DumbBufferPair.backIndex, front]
  have stays : Display.gaveUp before after = false := by
    cases waits : before.pending <;> simp [Display.gaveUp, waits, pending]
  refine ⟨.of_kept ?_ (by rw [kernel]) nextToken
    (fun event member => ⟨event, registered ▸ member, rfl⟩)
    fun index => (buffers index).1, ?_⟩
  · refine ⟨fun index => ?_, fun index => ?_, ?_, ?_, ?_, ?_⟩
    · rw [(buffers index).2.1, config, sized.width]
    · rw [(buffers index).2.2, config, sized.height]
    · rw [historyWidth, config, sized.historyWidth]
    · rw [historyHeight, config, sized.historyHeight]
    · rw [committed, config]
      exact sized.committed
    · rw [committed, hash]
      exact sized.hashed
  · rw [stays, Bool.or_false]
    rcases phase with ⟨rfl, idle | ⟨flip, flying⟩⟩ | ⟨rfl, strayed⟩
    · refine .inl ⟨rfl, .inl ⟨pending.trans idle.pending, ?_,
        registered.trans idle.registered, ?_, ?_, ?_⟩⟩
      · rw [kernel]
        exact idle.flips
      · rw [kernel]
        exact idle.foreign
      · rw [kernel, modeset, front]
        exact idle.scanned
      · rw [kernel, modeset, committed]
        exact fun fresh => ⟨(idle.blank fresh).1,
          (idle.blank fresh).2.imp_left fatal⟩
    · obtain ⟨presents, shown, active, own, fills, hashed, stage⟩ := flying
      refine .inl ⟨rfl, .inr ⟨flip, pending.trans presents,
        modeset.trans shown, (suspended (by simp [presents])).trans active,
        own, config ▸ fills, hashed, ?_⟩⟩
      cases stage with
      | inFlight flips scanned waits foreign unverified =>
          rw [← kernel, ← back] at flips
          rw [← kernel, ← front] at scanned
          rw [← kernel] at foreign
          exact .inFlight flips scanned (registered.trans waits) foreign
            unverified
      | landed completion flips scanned waits mine waiting alone unverified =>
          rw [← kernel] at flips waiting alone
          rw [← kernel, ← back] at scanned
          exact .landed completion flips scanned (registered.trans waits) mine
            waiting alone unverified
      | serviced flips scanned waits foreign =>
          rw [← kernel] at flips foreign
          rw [← kernel, ← back] at scanned
          exact .serviced flips scanned (registered.trans waits) foreign
    · obtain ⟨nothing, shown, unarmed, used⟩ := strayed
      refine .inr ⟨rfl, pending.trans nothing, modeset.trans shown,
        registered ▸ unarmed, ?_⟩
      rw [kernel, back]
      exact used

/-! ## The kernel -/

theorem completeFlip_step {givenUp : Bool} (sized : presenter.Sized)
    (phase : InPhase presenter givenUp) (crtcId sequence : Nat) :
    let next := { presenter with
      kernel := presenter.kernel.completeFlip crtcId sequence }
    Moves presenter next ∧
      InPhase next (givenUp || Display.gaveUp presenter next) := by
  have submissions : (presenter.kernel.completeFlip crtcId
      sequence).submissions = presenter.kernel.submissions := by
    unfold Kernel.completeFlip
    split <;> rfl
  have stays : Display.gaveUp presenter { presenter with
      kernel := presenter.kernel.completeFlip crtcId sequence } = false := by
    cases waits : presenter.pending <;> simp [Display.gaveUp, waits]
  obtain ⟨width, height, historyWidth, historyHeight, fills, hashed⟩ := sized
  refine ⟨.of_kept ⟨width, height, historyWidth, historyHeight, fills, hashed⟩
    submissions rfl (fun event member => ⟨event, member, rfl⟩) fun _ => rfl, ?_⟩
  rw [stays, Bool.or_false]
  rcases phase with ⟨rfl, idle | ⟨pending, flying⟩⟩ | ⟨rfl, strayed⟩
  · have quiet : presenter.kernel.completeFlip crtcId sequence =
        presenter.kernel := by
      simp only [Kernel.completeFlip, idle.flips]
    rw [quiet]
    exact .inl ⟨rfl, .inl idle⟩
  · obtain ⟨presents, modeset, active, own, fills, hashed, stage⟩ := flying
    refine .inl ⟨rfl, .inr ⟨pending, presents, modeset, active, own, fills,
      hashed, ?_⟩⟩
    cases stage with
    | inFlight flips scanned registered foreign unverified =>
        have landing : presenter.kernel.completeFlip crtcId sequence =
            { presenter.kernel with
              scanned := some presenter.buffers.backIndex
              flips := []
              events := presenter.kernel.events ++
                [{ userData := some pending.token, crtcId, sequence }] } := by
          simp only [Kernel.completeFlip, flips]
        rw [landing]
        refine .landed { userData := some pending.token, crtcId, sequence } rfl
          rfl registered rfl (by simp) (fun event member => ?_) unverified
        rcases List.mem_append.mp member with earlier | newest
        · exact .inl (foreign event earlier)
        · exact .inr (List.mem_singleton.mp newest)
    | landed completion flips scanned registered mine waiting alone unverified =>
        have quiet : presenter.kernel.completeFlip crtcId sequence =
            presenter.kernel := by
          simp only [Kernel.completeFlip, flips]
        rw [quiet]
        exact .landed completion flips scanned registered mine waiting alone
          unverified
    | serviced flips scanned registered foreign =>
        have quiet : presenter.kernel.completeFlip crtcId sequence =
            presenter.kernel := by
          simp only [Kernel.completeFlip, flips]
        rw [quiet]
        exact .serviced flips scanned registered foreign
  · obtain ⟨nothing, modeset, unarmed, back⟩ := strayed
    refine .inr ⟨rfl, nothing, modeset, unarmed, ?_⟩
    rcases back with ⟨scanned, flips⟩ | ⟨token, flips⟩
    · simp only [Kernel.completeFlip, flips]
      exact .inl ⟨scanned, trivial⟩
    · simp only [Kernel.completeFlip, flips]
      exact .inl ⟨trivial, trivial⟩

theorem foreignEvent_step {givenUp : Bool} (sized : presenter.Sized)
    (phase : InPhase presenter givenUp) (crtcId sequence : Nat) :
    let next := { presenter with
      kernel := presenter.kernel.foreignEvent crtcId sequence }
    Moves presenter next ∧
      InPhase next (givenUp || Display.gaveUp presenter next) := by
  have stays : Display.gaveUp presenter { presenter with
      kernel := presenter.kernel.foreignEvent crtcId sequence } = false := by
    cases waits : presenter.pending <;> simp [Display.gaveUp, waits]
  have others : Foreign presenter.kernel.events →
      Foreign (presenter.kernel.foreignEvent crtcId sequence).events := by
    intro foreign event member
    rcases List.mem_append.mp member with earlier | newest
    · exact foreign event earlier
    · rw [List.mem_singleton.mp newest]
  obtain ⟨width, height, historyWidth, historyHeight, fills, hashed⟩ := sized
  refine ⟨.of_kept ⟨width, height, historyWidth, historyHeight, fills, hashed⟩
    rfl rfl (fun event member => ⟨event, member, rfl⟩) fun _ => rfl, ?_⟩
  rw [stays, Bool.or_false]
  rcases phase with ⟨rfl, idle | ⟨pending, flying⟩⟩ | ⟨rfl, strayed⟩
  · obtain ⟨nothing, flips, registered, foreign, scanned, blank⟩ := idle
    exact .inl ⟨rfl, .inl ⟨nothing, flips, registered, others foreign, scanned,
      blank⟩⟩
  · obtain ⟨presents, modeset, active, own, fills, hashed, stage⟩ := flying
    refine .inl ⟨rfl, .inr ⟨pending, presents, modeset, active, own, fills,
      hashed, ?_⟩⟩
    cases stage with
    | inFlight flips scanned registered foreign unverified =>
        exact .inFlight flips scanned registered (others foreign) unverified
    | landed completion flips scanned registered mine waiting alone unverified =>
        refine .landed completion flips scanned registered mine
          (List.mem_append_left _ waiting) (fun event member => ?_) unverified
        rcases List.mem_append.mp member with earlier | newest
        · exact alone event earlier
        · exact .inl (by rw [List.mem_singleton.mp newest])
    | serviced flips scanned registered foreign =>
        exact .serviced flips scanned registered (others foreign)
  · obtain ⟨nothing, modeset, unarmed, back⟩ := strayed
    exact .inr ⟨rfl, nothing, modeset, unarmed, back⟩

/-! ## Copies -/

theorem Idle.uses (idle : Idle presenter) {index : Fin 2}
    (used : presenter.kernel.Uses index) :
    presenter.kernel.scanned = some index := by
  rcases used with scanned | ⟨flip, member, _⟩
  · exact scanned
  · rw [idle.flips] at member
    cases member

theorem Copied.step {index : Fin 2} {next : DrmPresenter}
    (copied : presenter.Copied index next) (sized : presenter.Sized)
    (idle : Idle presenter) (unused : presenter.kernel.scanned ≠ some index) :
    Moves presenter next ∧ Idle next := by
  refine ⟨⟨copied.sized sized, copied.submissions, copied.nextToken, ?_, ?_⟩,
    ⟨copied.pending.trans idle.pending, copied.flips.trans idle.flips,
      copied.registered.trans idle.registered, copied.events ▸ idle.foreign,
      ?_, ?_⟩⟩
  · exact fun event member => .inl ⟨event, copied.registered ▸ member, rfl⟩
  · intro other used
    have apart : other ≠ index := by
      rintro rfl
      exact unused (idle.uses used)
    rw [copied.writes.2 other apart]
  · rw [copied.initialModeset, copied.scanned, copied.frontIndex]
    exact idle.scanned
  · rw [copied.initialModeset, copied.scanned, copied.committedPixels]
    exact fun fresh => ⟨(idle.blank fresh).1,
      (idle.blank fresh).2.imp_left copied.fatal⟩

theorem Modeset.step {index : Fin 2} {copied next : DrmPresenter}
    (modeset : presenter.Modeset index copied next) (sized : presenter.Sized)
    (idle : Idle presenter) (unused : presenter.kernel.scanned ≠ some index)
    (nextSized : next.Sized) (front : next.buffers.frontIndex = index)
    (settled : next.initialModeset = false →
      next.committedPixels = [] ∧ next.fatal = true) :
    Moves presenter next ∧ Idle next := by
  obtain ⟨moves, still⟩ := Copied.step modeset.copy sized idle unused
  have kernel := modeset.kernel
  refine ⟨⟨nextSized, ?_, ?_, ?_, ?_⟩,
    ⟨modeset.pending.trans still.pending, ?_,
      modeset.registered.trans still.registered, ?_, fun _ => ?_, ?_⟩⟩
  · rw [kernel]
    exact moves.submissions
  · rw [modeset.nextToken]
    exact moves.nextToken
  · rw [modeset.registered, modeset.nextToken]
    exact moves.registered
  · intro other used
    rw [modeset.writes]
    exact moves.untouched other used
  · rw [kernel]
    exact still.flips
  · rw [kernel]
    exact still.foreign
  · rw [kernel, front]
    rfl
  · exact fun fresh => ⟨(settled fresh).1, .inl (settled fresh).2⟩

theorem Committed.step {index : Fin 2} {pixels : List UInt32} {hash : UInt64}
    {next : DrmPresenter}
    (committed : presenter.Committed index pixels hash next)
    (sized : presenter.Sized) (idle : Idle presenter)
    (unused : presenter.kernel.scanned ≠ some index)
    (shown : next.initialModeset = true) :
    Moves presenter next ∧ Idle next := by
  obtain ⟨copied, modeset⟩ := committed.modeset
  exact Modeset.step modeset sized idle unused committed.sized
    committed.frontIndex fun fresh => by cases shown.symm.trans fresh

theorem Queued.step {frame : SoftwareFrameView} {next : DrmPresenter}
    (queued : presenter.Queued frame next) (sized : presenter.Sized)
    (idle : Idle presenter) (shown : presenter.initialModeset = true)
    (accepted : presenter.accepts frame = true) :
    Moves presenter next ∧ ∃ pending, Flying next pending := by
  have fits := (DrmPresenter.presentValidated_accepted accepted .none 0 {}).1
  have active : presenter.suspended = false := by
    simp only [DrmPresenter.accepts, Bool.and_eq_true, Bool.not_eq_true']
      at accepted
    exact accepted.1.1.2
  obtain ⟨copied, pending, copy, later, token, cookie, pixels, hash,
    unverified, layout, frameSetHash, after⟩ := queued.queued
  have scanned := idle.scanned shown
  obtain ⟨moves, _⟩ := Copied.step copy sized idle (by
    rw [scanned]
    exact fun same => presenter.buffers.backIndex_ne
      (Option.some.inj same).symm)
  have back : copied.buffers.backIndex = presenter.buffers.backIndex := by
    simp only [DumbBufferPair.backIndex, copy.frontIndex]
  obtain ⟨width, height, historyWidth, historyHeight, fills, hashed⟩ :=
    copy.sized sized
  rw [after]
  refine ⟨⟨⟨width, height, historyWidth, historyHeight, fills, hashed⟩,
    moves.submissions, moves.nextToken, ?_, moves.untouched⟩,
    pending, rfl, copy.initialModeset.trans shown,
    copy.suspended.trans active, by rw [cookie, token], ?_, hash.trans ?_,
    .inFlight ?_ ?_ ?_ ?_ unverified⟩
  · rintro event ⟨⟩
    exact .inr ⟨rfl, later⟩
  · rw [pixels, fits, copy.config]
  · rw [pixels]
  · simp only [Kernel.flip, copy.flips, idle.flips, back, token]
    rfl
  · exact copy.scanned.trans (scanned.trans
      (congrArg some copy.frontIndex.symm))
  · rw [token]
    rfl
  · exact copy.events ▸ idle.foreign

theorem Presented.step {frame : SoftwareFrameView} {next : DrmPresenter}
    (presented : presenter.Presented frame next) (sized : presenter.Sized)
    (idle : Idle presenter) (accepted : presenter.accepts frame = true) :
    Moves presenter next ∧
      (Idle next ∨ ∃ pending, Flying next pending) := by
  have operational : presenter.fatal = false := by
    simp only [DrmPresenter.accepts, Bool.and_eq_true, Bool.not_eq_true']
      at accepted
    exact accepted.1.1.1
  have dark : presenter.initialModeset = false →
      presenter.kernel.scanned ≠ some presenter.buffers.frontIndex := by
    intro blank
    rcases (idle.blank blank).2 with fatal | unscanned
    · cases operational.symm.trans fatal
    · simp [unscanned]
  cases presented with
  | kept shown copied =>
      obtain ⟨moves, still⟩ := Copied.step copied sized idle (by
        rw [idle.scanned shown]
        exact fun same => presenter.buffers.backIndex_ne
          (Option.some.inj same).symm)
      exact ⟨moves, .inl still⟩
  | queued shown queued =>
      obtain ⟨moves, flying⟩ := Queued.step queued sized idle shown accepted
      exact ⟨moves, .inr flying⟩
  | refused blank copied =>
      obtain ⟨moves, still⟩ := Copied.step copied sized idle (dark blank)
      exact ⟨moves, .inl still⟩
  | unrecorded blank fatal pixels initialModeset front extent modeset =>
      obtain ⟨copied, modeset⟩ := modeset
      obtain ⟨moves, still⟩ := Modeset.step modeset sized idle (dark blank)
        extent front fun _ => ⟨pixels.trans (idle.blank blank).1, fatal⟩
      exact ⟨moves, .inl still⟩
  | committed blank shown committed =>
      obtain ⟨moves, still⟩ :=
        Committed.step committed sized idle (dark blank) shown
      exact ⟨moves, .inl still⟩

/-- Every presentation on a lit display writes the back buffer. -/
theorem Presented.writes {frame : SoftwareFrameView} {next : DrmPresenter}
    (presented : presenter.Presented frame next)
    (shown : presenter.initialModeset = true) :
    (presenter.buffers.buffers presenter.buffers.backIndex).writes <
      (next.buffers.buffers presenter.buffers.backIndex).writes := by
  cases presented with
  | kept _ copied => exact copied.writes.1
  | queued _ queued =>
      obtain ⟨copied, pending, copy, _, _, _, _, _, _, _, _, after⟩ :=
        queued.queued
      rw [after]
      exact copy.writes.1
  | refused blank _ => cases shown.symm.trans blank
  | unrecorded blank _ _ _ _ _ _ => cases shown.symm.trans blank
  | committed blank _ _ => cases shown.symm.trans blank

theorem Committed.writes {index : Fin 2} {pixels : List UInt32} {hash : UInt64}
    {next : DrmPresenter}
    (committed : presenter.Committed index pixels hash next) :
    (presenter.buffers.buffers index).writes <
      (next.buffers.buffers index).writes := by
  obtain ⟨copied, modeset⟩ := committed.modeset
  rw [modeset.writes]
  exact modeset.copy.writes.1

end

end Glasswyrm.Drm
