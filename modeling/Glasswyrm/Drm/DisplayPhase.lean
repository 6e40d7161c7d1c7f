import Glasswyrm.Drm.Presentation

namespace Glasswyrm.Drm

open Compositor Library Render

/-! The presenter is idle, waits for a flip, or has given one up. -/

def Foreign (events : List KernelEvent) : Prop :=
  ∀ event ∈ events, event.userData = none

/-- The cookie registered for the flip until its completion is read. -/
def armedCookie (token : Nat) : EventCookie :=
  { cookie := { token }, armed := true }

/-- No flip is pending, and none was given up. -/
structure Idle (presenter : DrmPresenter) : Prop where
  pending : presenter.pending = none
  flips : presenter.kernel.flips = []
  registered : presenter.registered = none
  foreign : Foreign presenter.kernel.events
  scanned : presenter.initialModeset = true →
    presenter.kernel.scanned = some presenter.buffers.frontIndex
  blank : presenter.initialModeset = false →
    presenter.committedPixels = [] ∧
      (presenter.fatal = true ∨ presenter.kernel.scanned = none)

/-- How far the pending flip has come. -/
inductive Stage (presenter : DrmPresenter) (pending : PendingPresentation) :
    Prop
  | inFlight
      (flips : presenter.kernel.flips =
        [{ buffer := presenter.buffers.backIndex, token := pending.token }])
      (scanned : presenter.kernel.scanned = some presenter.buffers.frontIndex)
      (registered : presenter.registered = some (armedCookie pending.token))
      (foreign : Foreign presenter.kernel.events)
      (unverified : pending.completionVerified = false)
  | landed (completion : KernelEvent)
      (flips : presenter.kernel.flips = [])
      (scanned : presenter.kernel.scanned = some presenter.buffers.backIndex)
      (registered : presenter.registered = some (armedCookie pending.token))
      (own : completion.userData = some pending.token)
      (waiting : completion ∈ presenter.kernel.events)
      (alone : ∀ event ∈ presenter.kernel.events,
        event.userData = none ∨ event = completion)
      (unverified : pending.completionVerified = false)
  | serviced
      (flips : presenter.kernel.flips = [])
      (scanned : presenter.kernel.scanned = some presenter.buffers.backIndex)
      (registered : presenter.registered = none)
      (foreign : Foreign presenter.kernel.events)

structure Flying (presenter : DrmPresenter) (pending : PendingPresentation) :
    Prop where
  presents : presenter.pending = some pending
  modeset : presenter.initialModeset = true
  active : presenter.suspended = false
  cookie : pending.cookie.token = pending.token
  fills : pending.pixels.length =
    presenter.config.output.width * presenter.config.output.height
  hashed : pending.hash = hashVisibleXrgb8888 pending.pixels
  stage : Stage presenter pending

/-- A flip was given up: the kernel shows the back buffer, or will. -/
structure Strayed (presenter : DrmPresenter) : Prop where
  pending : presenter.pending = none
  modeset : presenter.initialModeset = true
  unarmed : ∀ event ∈ presenter.registered, event.armed = false
  back : (presenter.kernel.scanned = some presenter.buffers.backIndex ∧
      presenter.kernel.flips = []) ∨
    ∃ token, presenter.kernel.flips =
      [{ buffer := presenter.buffers.backIndex, token }]

def InPhase (presenter : DrmPresenter) (givenUp : Bool) : Prop :=
  (givenUp = false ∧
      (Idle presenter ∨ ∃ pending, Flying presenter pending)) ∨
    (givenUp = true ∧ Strayed presenter)

section

variable {presenter : DrmPresenter}

/-! ## Reading events -/

theorem pageFlipComplete_foreign {cookie : PageFlipCookie}
    {events : List KernelEvent} (foreign : Foreign events) :
    events.foldl pageFlipComplete cookie = cookie := by
  induction events with
  | nil => rfl
  | cons event rest ih =>
      have own : event.userData = none := foreign event List.mem_cons_self
      rw [List.foldl_cons]
      simp only [pageFlipComplete, own, reduceCtorEq, if_false]
      exact ih fun other member => foreign other (List.mem_cons_of_mem _ member)

theorem pageFlipComplete_token (events : List KernelEvent)
    (cookie : PageFlipCookie) :
    (events.foldl pageFlipComplete cookie).token = cookie.token := by
  induction events generalizing cookie with
  | nil => rfl
  | cons event rest ih =>
      rw [List.foldl_cons, ih]
      unfold pageFlipComplete
      split <;> rfl

/-- The one completion of the cookie, once read, is what it says. -/
theorem pageFlipComplete_own {completion : KernelEvent}
    {events : List KernelEvent} (cookie : PageFlipCookie)
    (alone : ∀ event ∈ events, event.userData = none ∨ event = completion)
    (waiting : completion ∈ events)
    (own : completion.userData = some cookie.token) :
    events.foldl pageFlipComplete cookie =
      { token := cookie.token
        completedCrtcId := completion.crtcId
        completedSequence := completion.sequence
        completed := true } := by
  induction events generalizing cookie with
  | nil => cases waiting
  | cons event rest ih =>
      have later := fun other member =>
        alone other (List.mem_cons_of_mem event member)
      rw [List.foldl_cons]
      by_cases ahead : completion ∈ rest
      · have kept : (pageFlipComplete cookie event).token = cookie.token :=
          pageFlipComplete_token [event] cookie
        rw [ih _ later ahead (own.trans (congrArg some kept.symm)), kept]
      · have foreign : Foreign rest := fun other member =>
          (later other member).resolve_right fun same => ahead (same ▸ member)
        obtain rfl : completion = event :=
          (List.mem_cons.mp waiting).resolve_right ahead
        rw [pageFlipComplete_foreign foreign, pageFlipComplete, if_pos own]

/-- Nothing is read, or no cookie waits, or the cookie is still waiting, or its
completion has been read. -/
theorem serviceEvents_cases (registered : Option EventCookie)
    (events : List KernelEvent) (revents : PollEvents) (handled : Reply) :
    let serviced := serviceEvents registered events revents handled
    (serviced.registered = registered ∧ serviced.remaining = events ∧
        serviced.cookie = none ∧
        (serviced.event = .none ∨ ∃ error, serviced.event = .error error)) ∨
      (registered = none ∧
        serviced = { registered := none, remaining := [] }) ∨
      ∃ event cookie, registered = some event ∧
        cookie = events.foldl pageFlipComplete event.cookie ∧
        ((cookie.completed = false ∧
            serviced =
              { registered := some { event with cookie }, remaining := [] }) ∨
          (cookie.completed = true ∧
            serviced =
              { event :=
                  if event.armed then
                    .pageFlip cookie.token cookie.completedCrtcId
                      cookie.completedSequence
                  else .none
                registered := none
                remaining := []
                cookie := some cookie })) := by
  unfold serviceEvents
  split
  · exact .inl ⟨rfl, rfl, rfl, .inr ⟨_, rfl⟩⟩
  split
  · exact .inl ⟨rfl, rfl, rfl, .inl rfl⟩
  split
  · exact .inl ⟨rfl, rfl, rfl, .inr ⟨_, rfl⟩⟩
  split
  · exact .inr (.inl ⟨rfl, rfl⟩)
  · rename_i event
    refine .inr (.inr ⟨event, _, rfl, rfl, ?_⟩)
    simp only
    split
    · rename_i completed
      exact .inr ⟨completed, rfl⟩
    · rename_i waiting
      exact .inl ⟨Bool.not_eq_true _ ▸ waiting, rfl⟩

/-- Reading events leaves no cookie registered that was not. -/
theorem serviceEvents_registered {registered : Option EventCookie}
    {events : List KernelEvent} {revents : PollEvents} {handled : Reply}
    {event : EventCookie} (still : event ∈
      (serviceEvents registered events revents handled).registered) :
    ∃ earlier ∈ registered, event.cookie.token = earlier.cookie.token ∧
      event.armed = earlier.armed := by
  rcases serviceEvents_cases registered events revents handled with
    ⟨same, _⟩ | ⟨_, serviced⟩ | ⟨earlier, cookie, rfl, rfl, ⟨_, serviced⟩ |
      ⟨_, serviced⟩⟩
  · exact ⟨event, same ▸ still, rfl, rfl⟩
  · rw [serviced] at still
    cases still
  · rw [serviced] at still
    obtain rfl := Option.some.inj still
    exact ⟨earlier, rfl, pageFlipComplete_token events earlier.cookie, rfl⟩
  · rw [serviced] at still
    cases still

/-- A page flip is reported for the armed cookie only, which is then no longer
registered. -/
theorem serviceEvents_pageFlip {registered : Option EventCookie}
    {events : List KernelEvent} {revents : PollEvents} {handled : Reply}
    {token crtcId sequence : Nat}
    (reported : (serviceEvents registered events revents handled).event =
      .pageFlip token crtcId sequence) :
    (∃ event ∈ registered, event.cookie.token = token ∧
        event.armed = true) ∧
      (serviceEvents registered events revents handled).registered = none := by
  rcases serviceEvents_cases registered events revents handled with
    ⟨_, _, _, silent | ⟨error, failed⟩⟩ | ⟨_, serviced⟩ |
      ⟨earlier, cookie, rfl, rfl, ⟨_, serviced⟩ | ⟨_, serviced⟩⟩
  · rw [silent] at reported
    cases reported
  · rw [failed] at reported
    cases reported
  · rw [serviced] at reported
    cases reported
  · rw [serviced] at reported
    cases reported
  · rw [serviced] at reported ⊢
    simp only at reported
    split at reported
    · rename_i armed
      obtain ⟨same, _, _⟩ := DrmEvent.pageFlip.inj reported
      exact ⟨⟨earlier, rfl, same ▸ (pageFlipComplete_token events
        earlier.cookie).symm, armed⟩, rfl⟩
    · cases reported

theorem service_cases (presenter : DrmPresenter) (revents : PollEvents)
    (handled staged : Reply) :
    let serviced := serviceEvents presenter.registered presenter.kernel.events
      revents handled
    let read := presenter.readEvents serviced
    (serviced.event = .none ∧
        presenter.service revents handled staged = (read, .none)) ∨
      (serviced.event ≠ .none ∧ ∃ reason,
        presenter.service revents handled staged = read.fatalEvent reason) ∨
      ∃ pending sequence,
        serviced.event =
          .pageFlip pending.token presenter.crtc sequence ∧
        read.pending = some pending ∧
        presenter.service revents handled staged =
          ({ read with
              pending := some { pending with completionVerified := true } },
            .complete pending.token
              (presenter.pendingFrameSetHash.getD pending.hash)) := by
  simp only [DrmPresenter.service]
  generalize serviceEvents presenter.registered presenter.kernel.events
    revents handled = serviced
  cases event : serviced.event with
  | none => exact .inl ⟨rfl, rfl⟩
  | error error => exact .inr (.inl ⟨by simp, _, rfl⟩)
  | pageFlip token crtcId sequence =>
      simp only
      cases waits : (presenter.readEvents serviced).pending with
      | none => exact .inr (.inl ⟨by simp, _, rfl⟩)
      | some pending =>
          simp only
          split
          · exact .inr (.inl ⟨by simp, _, rfl⟩)
          · rename_i matching
            simp only [DrmPresenter.completes, Bool.not_eq_true',
              Bool.not_eq_false, Bool.and_eq_true, decide_eq_true_eq]
              at matching
            obtain ⟨⟨⟨rfl, crtc⟩, _⟩, _⟩ := matching
            obtain rfl : crtcId = presenter.crtc := crtc
            split
            · exact .inr (.inl ⟨by simp, _, rfl⟩)
            · exact .inr (.inr ⟨pending, sequence, rfl, rfl, rfl⟩)

/-! ## Reading events in each phase -/

theorem Idle.read (idle : Idle presenter) (revents : PollEvents)
    (handled : Reply) :
    Idle (presenter.readEvents (serviceEvents presenter.registered
      presenter.kernel.events revents handled)) := by
  obtain ⟨pending, flips, registered, foreign, scanned, blank⟩ := idle
  have none_pending : ∀ serviced,
      (presenter.readEvents serviced).pending = none := fun serviced => by
    simp [DrmPresenter.readEvents, pending]
  rcases serviceEvents_cases presenter.registered presenter.kernel.events
    revents handled with
    ⟨same, unread, _⟩ | ⟨_, serviced⟩ | ⟨event, cookie, waits, _⟩
  · refine ⟨none_pending _, flips, same.trans registered, ?_, scanned, blank⟩
    change Foreign (serviceEvents _ _ _ _).remaining
    rw [unread]
    exact foreign
  · rw [serviced]
    exact ⟨none_pending _, flips, rfl, by simp [Foreign,
      DrmPresenter.readEvents], scanned, blank⟩
  · rw [registered] at waits
    cases waits

theorem Strayed.read (strayed : Strayed presenter) (revents : PollEvents)
    (handled : Reply) :
    Strayed (presenter.readEvents (serviceEvents presenter.registered
      presenter.kernel.events revents handled)) := by
  obtain ⟨pending, modeset, unarmed, back⟩ := strayed
  refine ⟨by simp [DrmPresenter.readEvents, pending], modeset, ?_, back⟩
  intro event still
  obtain ⟨earlier, registered, _, armed⟩ := serviceEvents_registered still
  exact armed.trans (unarmed earlier registered)

/-- What was read concerns another cookie, or none. -/
theorem Flying.read_quiet {pending : PendingPresentation}
    (flying : Flying presenter pending) {serviced : ServicedEvents}
    (registered : serviced.registered = presenter.registered)
    (cookie : serviced.cookie = none)
    (remaining : serviced.remaining = presenter.kernel.events ∨
      (Foreign presenter.kernel.events ∧ serviced.remaining = [])) :
    Flying (presenter.readEvents serviced) pending := by
  obtain ⟨presents, modeset, active, own, fills, hashed, stage⟩ := flying
  have foreign : Foreign presenter.kernel.events →
      Foreign serviced.remaining := by
    rcases remaining with same | ⟨_, empty⟩
    · exact fun foreign => same ▸ foreign
    · simp [Foreign, empty]
  refine ⟨by simp [DrmPresenter.readEvents, presents, cookie], modeset, active,
    own, fills, hashed, ?_⟩
  cases stage with
  | inFlight flips scanned still others unverified =>
      exact .inFlight flips scanned (registered.trans still) (foreign others)
        unverified
  | landed completion flips scanned still mine waiting alone unverified =>
      have unread : serviced.remaining = presenter.kernel.events := by
        rcases remaining with same | ⟨others, _⟩
        · exact same
        · rw [others completion waiting] at mine
          cases mine
      have events : (presenter.readEvents serviced).kernel.events =
          presenter.kernel.events := unread
      exact .landed completion flips scanned (registered.trans still) mine
        (events ▸ waiting) (events ▸ alone) unverified
  | serviced flips scanned still others =>
      exact .serviced flips scanned (registered.trans still) (foreign others)

theorem Flying.read {pending : PendingPresentation}
    (flying : Flying presenter pending) (revents : PollEvents)
    (handled : Reply) :
    ∃ next, next.token = pending.token ∧
      Flying (presenter.readEvents (serviceEvents presenter.registered
        presenter.kernel.events revents handled)) next := by
  rcases serviceEvents_cases presenter.registered presenter.kernel.events
    revents handled with
    ⟨same, unread, quiet, _⟩ | ⟨absent, serviced⟩ |
      ⟨event, cookie, waits, read, outcome⟩
  · exact ⟨pending, rfl, flying.read_quiet same quiet (.inl unread)⟩
  · refine ⟨pending, rfl, ?_⟩
    cases flying.stage with
    | inFlight _ _ registered _ _ =>
        rw [absent] at registered
        cases registered
    | landed _ _ _ registered _ _ _ _ =>
        rw [absent] at registered
        cases registered
    | serviced _ _ _ foreign =>
        rw [serviced]
        exact flying.read_quiet absent.symm rfl (.inr ⟨foreign, rfl⟩)
  · cases flying.stage with
    | inFlight _ _ registered foreign _ =>
        obtain rfl : event = armedCookie pending.token :=
          Option.some.inj (waits.symm.trans registered)
        rw [pageFlipComplete_foreign foreign] at read
        subst read
        rcases outcome with ⟨_, serviced⟩ | ⟨completed, _⟩
        · rw [serviced]
          exact ⟨pending, rfl, flying.read_quiet registered.symm rfl
            (.inr ⟨foreign, rfl⟩)⟩
        · cases completed
    | landed completion flips scanned registered own waiting alone _ =>
        obtain rfl : event = armedCookie pending.token :=
          Option.some.inj (waits.symm.trans registered)
        rw [pageFlipComplete_own _ alone waiting own] at read
        subst read
        rcases outcome with ⟨uncompleted, _⟩ | ⟨_, serviced⟩
        · cases uncompleted
        · rw [serviced]
          obtain ⟨presents, modeset, active, mine, fills, hashed, _⟩ := flying
          refine ⟨{ pending with
            cookie :=
              { token := pending.token
                completedCrtcId := completion.crtcId
                completedSequence := completion.sequence
                completed := true } }, rfl, ?_, modeset, active, rfl, fills,
            hashed, .serviced flips scanned rfl (by
              simp [Foreign, DrmPresenter.readEvents])⟩
          simp [DrmPresenter.readEvents, presents, mine, armedCookie]
    | serviced _ _ registered _ =>
        rw [registered] at waits
        cases waits

/-! ## Giving a flip up -/

theorem Flying.cleared {pending : PendingPresentation}
    (flying : Flying presenter pending) (fatal : Bool) :
    Strayed { presenter.clearPending with fatal } := by
  obtain ⟨presents, modeset, active, own, fills, hashed, stage⟩ := flying
  simp only [DrmPresenter.clearPending, presents]
  refine ⟨rfl, modeset, ?_, ?_⟩
  · intro event still
    obtain ⟨earlier, registered, rfl⟩ := Option.map_eq_some_iff.mp still
    cases stage with
    | inFlight _ _ waits _ _ =>
        obtain rfl := Option.some.inj (waits.symm.trans registered)
        simp [armedCookie, own]
    | landed _ _ _ waits _ _ _ _ =>
        obtain rfl := Option.some.inj (waits.symm.trans registered)
        simp [armedCookie, own]
    | serviced _ _ waits _ =>
        rw [waits] at registered
        cases registered
  · cases stage with
    | inFlight flips _ _ _ _ => exact .inr ⟨_, flips⟩
    | landed _ flips scanned _ _ _ _ _ => exact .inl ⟨scanned, flips⟩
    | serviced flips scanned _ _ => exact .inl ⟨scanned, flips⟩

theorem clearPending_none (nothing : presenter.pending = none) :
    presenter.clearPending = presenter := by
  simp only [DrmPresenter.clearPending, nothing]

end

end Glasswyrm.Drm
