import Glasswyrm.Drm.DisplayStep

namespace Glasswyrm.Drm

open Compositor Library Render

section

variable {presenter : DrmPresenter} {givenUp : Bool}

/-- What a step that changes flags only leads to. -/
theorem flags_parked (fatal : Bool)
    (directSession : Option DirectSessionState)
    (kept : presenter.fatal = true → fatal = true) :
    Parked presenter { presenter with fatal, directSession } :=
  ⟨rfl, rfl, rfl, rfl, rfl, rfl, rfl, rfl, rfl, fun _ => ⟨rfl, rfl, rfl⟩,
    rfl, rfl, kept, fun _ => rfl⟩

theorem InPhase.not_flying (phase : InPhase presenter givenUp)
    (free : presenter.pending = none) (sound : givenUp = false) :
    Idle presenter := by
  rcases phase with ⟨_, idle | ⟨pending, flying⟩⟩ | ⟨strayed, _⟩
  · exact idle
  · cases flying.presents.symm.trans free
  · cases sound.symm.trans strayed

theorem resume_step (sized : presenter.Sized)
    (phase : InPhase presenter givenUp) (committed : SoftwareFrameView)
    (replies : ResumeReplies)
    (careful : givenUp = true →
      presenter.resumes committed replies = false) :
    Moves presenter (presenter.resume committed replies).1 ∧
      InPhase (presenter.resume committed replies).1
        (givenUp || Display.gaveUp presenter
          (presenter.resume committed replies).1) := by
  rcases DrmPresenter.resume_cases sized committed replies with
    ⟨_, fatal, directSession, kept, next⟩ |
    ⟨resumes, suspended, something, modeset, shown⟩
  · rw [next]
    exact (flags_parked fatal directSession kept).step sized phase
  · have free : presenter.pending = none := by
      rcases phase with ⟨_, idle | ⟨pending, flying⟩⟩ | ⟨_, strayed⟩
      · exact idle.pending
      · cases flying.active.symm.trans suspended
      · exact strayed.pending
    have sound : givenUp = false := by
      cases given : givenUp with
      | false => rfl
      | true => cases (careful given).symm.trans resumes
    have idle := phase.not_flying free sound
    have lit : presenter.initialModeset = true := by
      cases dark : presenter.initialModeset with
      | true => rfl
      | false => exact absurd (idle.blank dark).1 something
    have unused : presenter.kernel.scanned ≠
        some presenter.buffers.backIndex := by
      rw [idle.scanned lit]
      exact fun same => presenter.buffers.backIndex_ne
        (Option.some.inj same).symm
    have settled : Moves presenter (presenter.resume committed replies).1 ∧
        Idle (presenter.resume committed replies).1 := by
      rcases shown with copied | committed
      · exact Copied.step copied sized idle unused
      · exact Committed.step committed sized idle unused (modeset.trans lit)
    rw [gaveUp_of_idle free, sound]
    exact ⟨settled.1, .inl ⟨rfl, .inl settled.2⟩⟩

theorem Presented.phase {frame : SoftwareFrameView} {next : DrmPresenter}
    (presented : presenter.Presented frame next) (sized : presenter.Sized)
    (phase : InPhase presenter givenUp) (sound : givenUp = false)
    (accepted : presenter.accepts frame = true) :
    Moves presenter next ∧
      InPhase next (givenUp || Display.gaveUp presenter next) := by
  have free : presenter.pending = none := by
    simp only [DrmPresenter.accepts, Bool.and_eq_true,
      Option.isNone_iff_eq_none] at accepted
    exact accepted.1.2
  obtain ⟨moves, settled⟩ :=
    Presented.step presented sized (phase.not_flying free sound) accepted
  rw [gaveUp_of_idle free, sound]
  exact ⟨moves, .inl ⟨rfl, settled⟩⟩

theorem resumeSet_eq (presenter : DrmPresenter) (committed : SoftwareFrameSet)
    (replies : ResumeReplies) :
    (DrmPresenter.singleFrame committed = none ∧
        (presenter.resumeSet committed replies).1 = presenter) ∨
      ∃ single, DrmPresenter.singleFrame committed = some single ∧
        (presenter.resumeSet committed replies).1 =
          (presenter.resume single.2.2 replies).1 := by
  unfold DrmPresenter.resumeSet
  cases single : DrmPresenter.singleFrame committed with
  | none => exact .inl ⟨rfl, rfl⟩
  | some found => exact .inr ⟨found, rfl, rfl⟩

theorem act_step (sized : presenter.Sized)
    (phase : InPhase presenter givenUp) (event : DisplayEvent)
    (careful : givenUp = true → presenter.copies event = false) :
    Moves presenter (presenter.act event) ∧
      InPhase (presenter.act event)
        (givenUp || Display.gaveUp presenter (presenter.act event)) := by
  have same : Moves presenter presenter ∧
      InPhase presenter (givenUp || Display.gaveUp presenter presenter) := by
    rw [gaveUp_self, Bool.or_false]
    exact ⟨.refl sized, phase⟩
  have sound : presenter.copies event = true → givenUp = false := by
    intro copying
    cases given : givenUp with
    | false => rfl
    | true => cases (careful given).symm.trans copying
  cases event with
  | present frame replies =>
      cases accepted : presenter.accepts frame with
      | true =>
          exact Presented.phase (DrmPresenter.presentValidated_presented sized
            accepted .none 0 replies).1 sized phase (sound accepted) accepted
      | false =>
          have refused := (DrmPresenter.presentValidated_refused accepted
            .none 0 replies).1
          simp only [DrmPresenter.act, DrmPresenter.present, refused]
          exact same
  | presentSet frames replies =>
      rcases DrmPresenter.presentSet_presented sized frames replies with
        ⟨_, refused⟩ | ⟨frame, copying, accepted, presented⟩
      · simp only [DrmPresenter.act, refused]
        exact same
      · exact Presented.phase presented sized phase (sound copying) accepted
  | service revents handled staged =>
      exact ⟨service_moves sized revents handled staged,
        service_phase phase revents handled staged⟩
  | finalizePending token committed =>
      exact finalizePending_step sized phase token committed
  | abortPending token reason => exact abortPending_step sized phase token reason
  | suspend replies => exact (suspend_parked presenter replies).step sized phase
  | resume committed replies =>
      exact resume_step sized phase committed replies careful
  | resumeSet committed replies =>
      rcases resumeSet_eq presenter committed replies with
        ⟨_, refused⟩ | ⟨single, found, resumed⟩
      · simp only [DrmPresenter.act, refused]
        exact same
      · simp only [DrmPresenter.act, resumed]
        refine resume_step sized phase single.2.2 replies fun given => ?_
        simpa [DrmPresenter.copies, found] using careful given
  | completeFlip crtcId sequence =>
      exact completeFlip_step sized phase crtcId sequence
  | foreignEvent crtcId sequence =>
      exact foreignEvent_step sized phase crtcId sequence

/-! ## Reports -/

theorem reports_registered {event : DisplayEvent} {token : Nat}
    (reported : presenter.reports event = some token) :
    (∃ registered ∈ presenter.registered, registered.cookie.token = token) ∧
      (presenter.act event).registered = none ∧
      ∃ pending ∈ presenter.pending, pending.token = token := by
  cases event with
  | service revents handled staged =>
      rcases service_cases presenter revents handled staged with
        ⟨_, serviced⟩ | ⟨_, reason, serviced⟩ |
          ⟨pending, sequence, event, waits, serviced⟩
      · simp only [DrmPresenter.reports, serviced] at reported
        cases reported
      · simp only [DrmPresenter.reports, serviced, DrmPresenter.fatalEvent]
          at reported
        cases reported
      · simp only [DrmPresenter.reports, serviced] at reported
        obtain rfl := Option.some.inj reported
        obtain ⟨⟨registered, armed, same, _⟩, gone⟩ :=
          serviceEvents_pageFlip event
        refine ⟨⟨registered, armed, same⟩, ?_, ?_⟩
        · simp only [DrmPresenter.act, serviced]
          exact gone
        · obtain ⟨before, waited, rfl⟩ := Option.map_eq_some_iff.mp waits
          refine ⟨before, waited, ?_⟩
          split
          · split <;> rfl
          · rfl
  | present frame replies => cases reported
  | presentSet frames replies => cases reported
  | finalizePending token committed => cases reported
  | abortPending token reason => cases reported
  | suspend replies => cases reported
  | resume committed replies => cases reported
  | resumeSet committed replies => cases reported
  | completeFlip crtcId sequence => cases reported
  | foreignEvent crtcId sequence => cases reported

/-- The completion of the pending flip is reported when it is read. -/
theorem service_answers (phase : InPhase presenter givenUp)
    {pending : PendingPresentation} (waits : presenter.pending = some pending)
    {completion : KernelEvent} (waiting : completion ∈ presenter.kernel.events)
    (own : completion.userData = some pending.token)
    (crtc : completion.crtcId = presenter.crtc) :
    presenter.reports (.service {} (.ok ()) (.ok ())) =
      some pending.token := by
  obtain ⟨_, flying⟩ := phase.flying waits
  have foreign : ¬Foreign presenter.kernel.events := fun foreign => by
    cases own.symm.trans (foreign completion waiting)
  cases flying.stage with
  | inFlight _ _ _ others _ => exact absurd others foreign
  | serviced _ _ _ others => exact absurd others foreign
  | landed landing _ _ registered mine _ alone _ =>
      obtain rfl : completion = landing :=
        (alone completion waiting).resolve_left fun nothing => by
          cases own.symm.trans nothing
      have read := pageFlipComplete_own { token := pending.token }
        alone waiting own
      have serviced : serviceEvents presenter.registered
          presenter.kernel.events {} (.ok ()) =
          { event := .pageFlip pending.token completion.crtcId
              completion.sequence
            registered := none
            remaining := []
            cookie := some
              { token := pending.token
                completedCrtcId := completion.crtcId
                completedSequence := completion.sequence
                completed := true } } := by
        simp only [registered, serviceEvents, armedCookie, read]
        rfl
      simp only [DrmPresenter.reports, DrmPresenter.service, serviced,
        DrmPresenter.readEvents, waits, Option.map_some, flying.cookie, if_true,
        DrmPresenter.completes, crtc, decide_true, Bool.and_self,
        Bool.not_true, Bool.false_eq_true, if_false]

theorem InPhase.single (phase : InPhase presenter givenUp) :
    presenter.kernel.flips.length ≤ 1 := by
  rcases phase with ⟨_, idle | ⟨pending, flying⟩⟩ | ⟨_, strayed⟩
  · simp [idle.flips]
  · cases flying.stage with
    | inFlight flips _ _ _ _ => simp [flips]
    | landed _ flips _ _ _ _ _ _ => simp [flips]
    | serviced flips _ _ _ => simp [flips]
  · rcases strayed.back with ⟨_, flips⟩ | ⟨token, flips⟩ <;> simp [flips]

end

/-! ## Runs -/

structure Consistent (display : Display) : Prop where
  sized : display.presenter.Sized
  phase : InPhase display.presenter display.givenUp
  shown : ∀ submission ∈ display.presenter.kernel.submissions,
    submission.shown.map rgb = submission.frame.map rgb
  earlier : ∀ token ∈ display.reported, token < display.presenter.nextToken
  fresh : ∀ event ∈ display.presenter.registered,
    event.cookie.token ∉ display.reported ∧
      event.cookie.token < display.presenter.nextToken

theorem initial_consistent (config : DrmPresenterConfig) (crtc : Nat)
    (directSession : Option DirectSessionState) :
    Consistent (Display.initial config crtc directSession) where
  sized := ⟨fun _ => rfl, fun _ => rfl, rfl, rfl, absurd rfl, absurd rfl⟩
  phase := .inl ⟨rfl, .inl ⟨rfl, rfl, rfl,
    by simp [Foreign, Display.initial, DrmPresenter.initial],
    by simp [Display.initial, DrmPresenter.initial],
    fun _ => ⟨rfl, .inr rfl⟩⟩⟩
  shown := by simp [Display.initial, DrmPresenter.initial]
  earlier := by simp [Display.initial]
  fresh := by simp [Display.initial, DrmPresenter.initial]

section

variable {display : Display} {event : DisplayEvent}

theorem step_shown (consistent : Consistent display)
    (unambiguous : display.unambiguous event)
    (moves : Moves display.presenter (display.presenter.act event)) :
    ∀ submission ∈ (display.step event).presenter.kernel.submissions,
      submission.shown.map rgb = submission.frame.map rgb := by
  intro submission member
  rcases moves.submissions submission member with earlier | same
  · exact consistent.shown submission earlier
  · exact unambiguous submission member same

theorem step_consistent (consistent : Consistent display)
    (unambiguous : display.unambiguous event)
    (careful : display.careful event) : Consistent (display.step event) := by
  obtain ⟨moves, phase⟩ :=
    act_step consistent.sized consistent.phase event careful
  refine ⟨moves.sized, phase, step_shown consistent unambiguous moves, ?_, ?_⟩
  · intro token member
    rcases List.mem_append.mp member with earlier | now
    · exact (consistent.earlier token earlier).trans_le moves.nextToken
    · obtain ⟨⟨registered, waits, rfl⟩, _⟩ :=
        reports_registered (Option.mem_toList.mp now)
      exact (consistent.fresh registered waits).2.trans_le moves.nextToken
  · intro registered waits
    have silent : display.presenter.reports event = none := by
      cases reported : display.presenter.reports event with
      | none => rfl
      | some token =>
          cases (reports_registered reported).2.1.symm.trans waits
    have reported : (display.step event).reported = display.reported := by
      simp [Display.step, silent]
    rw [reported]
    rcases moves.registered registered waits with
      ⟨earlier, waited, same⟩ | ⟨same, later⟩
    · obtain ⟨unreported, below⟩ := consistent.fresh earlier waited
      rw [same]
      exact ⟨unreported, below.trans_le moves.nextToken⟩
    · rw [same]
      exact ⟨fun member => Nat.lt_irrefl _ (consistent.earlier _ member), later⟩

theorem correct_of_careful (consistent : Consistent display)
    (unambiguous : display.unambiguous event)
    (careful : display.careful event) : display.Correct event := by
  obtain ⟨moves, phase⟩ :=
    act_step consistent.sized consistent.phase event careful
  refine ⟨step_shown consistent unambiguous moves, phase.single,
    moves.untouched, ?_, ?_⟩
  · intro token reported
    obtain ⟨⟨registered, waits, rfl⟩, _, pending⟩ :=
      reports_registered reported
    exact ⟨(consistent.fresh registered waits).1, pending⟩
  · rintro pending waits completion waiting own crtc rfl
    exact service_answers consistent.phase waits waiting own crtc

/-- Once a flip has been given up, the kernel uses the buffer that the next
copy goes to. -/
theorem careful_of_correct (consistent : Consistent display)
    (correct : display.Correct event) : display.careful event := by
  intro given
  have strayed : Strayed display.presenter := by
    rcases consistent.phase with ⟨sound, _⟩ | ⟨_, strayed⟩
    · cases sound.symm.trans given
    · exact strayed
  have used : display.presenter.kernel.Uses
      display.presenter.buffers.backIndex := by
    rcases strayed.back with ⟨scanned, _⟩ | ⟨token, flips⟩
    · exact .inl scanned
    · exact .inr ⟨{ buffer := display.presenter.buffers.backIndex, token },
        by simp [flips], rfl⟩
  have kept := correct.untouched _ used
  have written : ∀ {next : DrmPresenter},
      (display.presenter.buffers.buffers
          display.presenter.buffers.backIndex).writes <
        (next.buffers.buffers display.presenter.buffers.backIndex).writes →
      display.presenter.act event = next → False := by
    rintro next more rfl
    exact Nat.lt_irrefl _ (more.trans_eq kept)
  have resumed : ∀ committed replies,
      display.presenter.resumes committed replies = true →
      display.presenter.act event =
        (display.presenter.resume committed replies).1 → False := by
    intro committed replies resumes same
    rcases DrmPresenter.resume_cases consistent.sized committed replies with
      ⟨refused, _⟩ | ⟨_, _, _, _, copied | shown⟩
    · cases refused.symm.trans resumes
    · exact written copied.writes.1 same
    · exact written (Committed.writes shown) same
  rw [Bool.eq_false_iff]
  intro copying
  cases event with
  | present frame replies =>
      exact written (Presented.writes (DrmPresenter.presentValidated_presented
        consistent.sized copying .none 0 replies).1 strayed.modeset) rfl
  | presentSet frames replies =>
      rcases DrmPresenter.presentSet_presented consistent.sized frames replies
        with ⟨refused, _⟩ | ⟨frame, _, _, presented⟩
      · cases refused.symm.trans copying
      · exact written (Presented.writes presented strayed.modeset) rfl
  | resume committed replies => exact resumed committed replies copying rfl
  | resumeSet committed replies =>
      rcases resumeSet_eq display.presenter committed replies with
        ⟨nothing, _⟩ | ⟨single, found, same⟩
      · simp [DrmPresenter.copies, nothing] at copying
      · refine resumed single.2.2 replies ?_ same
        simpa [DrmPresenter.copies, found] using copying
  | service revents handled staged => cases copying
  | finalizePending token committed => cases copying
  | abortPending token reason => cases copying
  | suspend replies => cases copying
  | completeFlip crtcId sequence => cases copying
  | foreignEvent crtcId sequence => cases copying

end

namespace Display

/-- A run keeps every promise exactly when it copies no frame after a flip was
given up. -/
theorem runs_correctly_iff (config : DrmPresenterConfig) (crtc : Nat)
    (directSession : Option DirectSessionState) (events : List DisplayEvent)
    (distinct : Guarded step unambiguous
      (initial config crtc directSession) events) :
    Guarded step Correct (initial config crtc directSession) events ↔
      Guarded step careful (initial config crtc directSession) events :=
  Guarded.congr Consistent
    (fun _ _ consistent unambiguous =>
      ⟨careful_of_correct consistent,
        correct_of_careful consistent unambiguous⟩)
    (fun _ _ => step_consistent)
    (initial_consistent config crtc directSession) distinct

def oneCell : DrmPresenterConfig :=
  { output := { outputId := 1, width := 1, height := 1 } }

def cellFrame (ordinal : Nat) (pixel : UInt32) : SoftwareFrameView :=
  { output := oneCell.output
    pixels := [pixel]
    commitId := ordinal
    generation := ordinal
    ordinal }

def flippedRun : List DisplayEvent :=
  [.present (cellFrame 1 10) {}, .present (cellFrame 2 20) {},
    .completeFlip 7 0, .service {} (.ok ()) (.ok ()),
    .finalizePending 1 (.ok ()), .suspend {}, .resume (cellFrame 2 20) {}]

theorem runs_correctly_flipped :
    Guarded step Correct (initial oneCell 7 none) flippedRun :=
  (runs_correctly_iff oneCell 7 none flippedRun (by decide)).mpr (by decide)

/-- The second frame is given up without a reason while the kernel flips to its
buffer; the third is then copied into the buffer on the screen. -/
def abortedRun : List DisplayEvent :=
  [.present (cellFrame 1 10) {}, .present (cellFrame 2 20) {},
    .abortPending 1 "", .completeFlip 7 0, .present (cellFrame 3 30) {}]

theorem scanned_buffer_written :
    Guarded step unambiguous (initial oneCell 7 none) abortedRun ∧
      ¬Guarded step Correct (initial oneCell 7 none) abortedRun := by
  refine ⟨by decide, ?_⟩
  rintro ⟨_, _, _, _, correct, _⟩
  have kept := correct.untouched 1 (by decide)
  exact absurd kept (by decide)

end Display

end Glasswyrm.Drm
