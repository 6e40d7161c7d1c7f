import Glasswyrm.Server.GrabRun

namespace Glasswyrm.Server

open Library

/-! What every run of grabs is to keep, and the runs that keep it. -/

namespace GrabState

variable {grabs : GrabState}

@[simp] theorem grabPointer_passives (request : PointerGrabRequest) :
    (grabs.grabPointer request).2.passiveButtons = grabs.passiveButtons := by
  unfold grabPointer
  dsimp only
  split
  · rfl
  split
  · rfl
  split
  · rfl
  split <;> rfl

@[simp] theorem ungrabPointer_passives (client : Nat)
    (requestTime time : UInt32) :
    (grabs.ungrabPointer client requestTime time).2.passiveButtons =
      grabs.passiveButtons := by
  unfold ungrabPointer
  split <;> rfl

@[simp] theorem changeActivePointerGrab_passives (client cursor : Nat)
    (eventMask requestTime time : UInt32) (cursorValid : Bool) :
    (grabs.changeActivePointerGrab client eventMask cursor cursorValid
      requestTime time).2.passiveButtons = grabs.passiveButtons := by
  unfold changeActivePointerGrab
  split
  · rfl
  split
  · rfl
  split
  · rfl
  split
  · rfl
  split <;> rfl

@[simp] theorem grabKeyboard_passives (request : KeyboardGrabRequest) :
    (grabs.grabKeyboard request).2.passiveButtons = grabs.passiveButtons := by
  unfold grabKeyboard
  split
  · rfl
  split
  · rfl
  split
  · rfl
  split <;> rfl

@[simp] theorem ungrabKeyboard_passives (client : Nat)
    (requestTime time : UInt32) :
    (grabs.ungrabKeyboard client requestTime time).2.passiveButtons =
      grabs.passiveButtons := by
  unfold ungrabKeyboard
  split <;> rfl

@[simp] theorem noteButtonPress_passives (button : Nat) :
    (grabs.noteButtonPress button).passiveButtons = grabs.passiveButtons := by
  unfold noteButtonPress
  split
  · rfl
  split <;> rfl

@[simp] theorem noteButtonRelease_passives (button : Nat) :
    (grabs.noteButtonRelease button).2.passiveButtons =
      grabs.passiveButtons := by
  unfold noteButtonRelease
  split
  · rfl
  split
  · rfl
  dsimp only
  split <;> rfl

@[simp] theorem activatePassiveButton_passives (button modifiers : Nat)
    (ancestry : List Nat) (time : UInt32) :
    (grabs.activatePassiveButton button modifiers ancestry
      time).2.passiveButtons = grabs.passiveButtons := by
  unfold activatePassiveButton
  split
  · rfl
  split <;> rfl

@[simp] theorem beginAutomaticButtonGrab_passives (client window button : Nat)
    (time : UInt32) :
    (grabs.beginAutomaticButtonGrab client window button
      time).2.passiveButtons = grabs.passiveButtons := by
  unfold beginAutomaticButtonGrab
  split <;> rfl

theorem cleanup_apart {pointer : PointerGrab → Bool}
    {keyboard : KeyboardGrab → Bool}
    {passive : PassiveButtonGrabRequest → Bool}
    (apart : PassivesApart grabs.passiveButtons) :
    PassivesApart (grabs.cleanup pointer keyboard passive).2.passiveButtons :=
  List.Pairwise.filter _ apart

theorem cleanupClient_apart (client : Nat)
    (apart : PassivesApart grabs.passiveButtons) :
    PassivesApart (grabs.cleanupClient client).2.passiveButtons :=
  cleanup_apart apart

theorem cleanupWindow_apart (window : Nat)
    (apart : PassivesApart grabs.passiveButtons) :
    PassivesApart (grabs.cleanupWindow window).2.passiveButtons :=
  cleanup_apart apart

theorem cleanupClient_byButton (client : Nat)
    (active : (grabs.cleanupClient client).2.byButton = true) :
    grabs.byButton = true :=
  cleanup_byButton active

theorem cleanupWindow_byButton (window : Nat)
    (active : (grabs.cleanupWindow window).2.byButton = true) :
    grabs.byButton = true :=
  cleanup_byButton active

end GrabState

namespace PointerRuntime

variable {runtime : PointerRuntime}

theorem activate_passives (event : ButtonEvent) :
    (runtime.activate event).passiveButtons =
      runtime.grabs.passiveButtons := by
  unfold activate
  dsimp only
  split
  · simp
  · cases event.recipient <;> simp

theorem deliverButton_passives (event : ButtonEvent) :
    (runtime.deliverButton event).grabs.passiveButtons =
      runtime.grabs.passiveButtons := by
  unfold deliverButton
  split
  · rfl
  dsimp only
  split_ifs <;> simp [activate_passives]

theorem step_apart (apart : PassivesApart runtime.grabs.passiveButtons)
    (operation : GrabOperation) :
    PassivesApart (runtime.step operation).grabs.passiveButtons := by
  cases operation with
  | button event =>
      rw [step, deliverButton_passives]
      exact apart
  | grabButton request => exact grabButton_apart apart request
  | cleanupClient client => exact GrabState.cleanupClient_apart client apart
  | cleanupWindow window => exact GrabState.cleanupWindow_apart window apart
  | suspend => exact apart
  | reset => exact apart
  | interaction active => exact apart
  | wait elapsed => exact apart
  | _ => simpa [step] using apart

/-! ## Releases -/

/-- Where a release counts and what is down after it. -/
theorem transitionButton_release {buttons after : Finset Nat} {button : Nat}
    (accepted : transitionButton buttons button false = some after) :
    buttonBit button = {button} ∧ after = buttons.erase button := by
  unfold transitionButton at accepted
  split at accepted
  · cases accepted
  · rename_i inside
    simp only [Bool.or_eq_true, decide_eq_true_eq, not_or,
      Nat.not_lt] at inside
    obtain rfl := Option.some.inj accepted
    exact ⟨if_pos ⟨inside.1.1, inside.1.2⟩, by simp⟩

theorem transitionButton_press {buttons after : Finset Nat} {button : Nat}
    (accepted : transitionButton buttons button true = some after) :
    after ≠ ∅ := by
  unfold transitionButton at accepted
  split at accepted
  · cases accepted
  · obtain rfl := Option.some.inj accepted
    simp

/-- A release ends the grab of a button if it is not kept from it and no other
button is held. -/
theorem deliverButton_release {event : ButtonEvent} {after : Finset Nat}
    (release : event.pressed = false)
    (accepted :
      transitionButton runtime.buttons event.detail event.pressed = some after)
    (active : runtime.grabs.byButton = true) :
    (runtime.deliverButton event).grabs.byButton = false ↔
      runtime.interacting = false ∧
        runtime.grabs.heldButtons \ buttonBit event.detail = ∅ := by
  have consumed : runtime.consumes event = runtime.interacting := by
    simp [consumes, release]
  unfold deliverButton
  rw [accepted]
  dsimp only
  rw [consumed, release]
  cases kept : runtime.interacting with
  | true => simp [active]
  | false =>
      have ends := GrabState.noteButtonRelease_byButton active event.detail
      rw [← Bool.not_eq_true]
      simpa using not_congr ends

theorem deliverButton_idle {event : ButtonEvent}
    (release : event.pressed = false)
    (idle : runtime.grabs.byButton = false) :
    (runtime.deliverButton event).grabs.byButton = false := by
  unfold deliverButton
  split
  · exact idle
  dsimp only
  rw [release]
  cases runtime.consumes event
  · simpa [GrabState.noteButtonRelease_idle idle] using idle
  · simpa using idle

theorem deliverButton_buttons {event : ButtonEvent} {after : Finset Nat}
    (accepted : transitionButton runtime.buttons event.detail event.pressed =
      some after) : (runtime.deliverButton event).buttons = after := by
  unfold deliverButton
  rw [accepted]

theorem deliverButton_press {event : ButtonEvent}
    (press : event.pressed = true)
    (active : runtime.grabs.byButton = true) :
    (runtime.deliverButton event).grabs.byButton = true := by
  have held : runtime.grabs.pointerGrab.isNone = false := by
    unfold GrabState.byButton at active
    cases held : runtime.grabs.pointerGrab with
    | none => simp [held] at active
    | some grab => rfl
  unfold deliverButton
  split
  · exact active
  dsimp only
  rw [press, held]
  cases runtime.consumes event
  · simpa [GrabState.noteButtonPress_byButton] using active
  · simpa using active

/-! ## What a run is to keep -/

/-- Passive grabs are apart, and what a button began is held by a button. -/
structure Invariant (runtime : PointerRuntime) : Prop where
  apart : PassivesApart runtime.grabs.passiveButtons
  held : runtime.grabs.byButton = true → runtime.buttons ≠ ∅

/-- The invariant after a step, the end of a grab that a button began with the
last button and with none before it, and no refusal of the current time. -/
structure Behaves (runtime : PointerRuntime) (operation : GrabOperation) :
    Prop where
  kept : (runtime.step operation).Invariant
  ends : ∀ event, operation = .button event →
    (transitionButton runtime.buttons event.detail event.pressed).isSome →
      runtime.grabs.byButton = true →
        ((runtime.step operation).grabs.byButton = false ↔
          (runtime.step operation).buttons = ∅)
  current : ∀ times, runtime.comparesTimes operation = some times →
    times.1 = 0 → runtime.refusedForTime operation = false

/-- A release that counts finds the grab of a button held by the buttons that
are down, and is not kept from it before it is the last. -/
def ReleasesInStep (runtime : PointerRuntime) (event : ButtonEvent) : Prop :=
  event.pressed = false →
    (transitionButton runtime.buttons event.detail event.pressed).isSome →
      runtime.grabs.byButton = true →
        ((runtime.interacting = false ∧
            runtime.grabs.heldButtons \ buttonBit event.detail = ∅) ↔
          runtime.buttons.erase event.detail = ∅)

structure Condition (runtime : PointerRuntime) (operation : GrabOperation) :
    Prop where
  releases : ∀ event, operation = .button event →
    runtime.ReleasesInStep event
  recent : ∀ times, runtime.comparesTimes operation = some times →
    times.1 = 0 → Recent times.2 runtime.time

theorem currentTime_iff (operation : GrabOperation) (times : UInt32 × UInt32)
    (compared : runtime.comparesTimes operation = some times)
    (current : times.1 = 0) :
    runtime.refusedForTime operation = false ↔ Recent times.2 runtime.time := by
  rw [← Bool.not_eq_true, refusedForTime_iff, ← validTime_current,
    Option.isSome_iff_ne_none, not_iff_not]
  constructor
  · rintro ⟨others, same, refused⟩
    rw [compared] at same
    obtain rfl := Option.some.inj same
    rwa [current] at refused
  · intro refused
    exact ⟨times, compared, current ▸ refused⟩

/-- A button event ends the grab with the last button exactly if it is a press
or a release in step. -/
theorem endsInStep_iff {event : ButtonEvent} :
    ((transitionButton runtime.buttons event.detail event.pressed).isSome →
      runtime.grabs.byButton = true →
        ((runtime.deliverButton event).grabs.byButton = false ↔
          (runtime.deliverButton event).buttons = ∅)) ↔
      runtime.ReleasesInStep event := by
  cases pressed : event.pressed with
  | true =>
      constructor
      · intro _ release
        rw [pressed] at release
        cases release
      · intro _ accepted active
        obtain ⟨after, accepted⟩ := Option.isSome_iff_exists.mp accepted
        have buttons := deliverButton_buttons (pressed ▸ accepted)
        have down := transitionButton_press accepted
        have grabbed := deliverButton_press pressed active
        simp [grabbed, buttons, down]
  | false =>
      unfold ReleasesInStep
      rw [pressed]
      refine ⟨fun ends _ => ?_, fun inStep => ?_⟩
      · intro accepted active
        obtain ⟨after, counted⟩ := Option.isSome_iff_exists.mp accepted
        have buttons := deliverButton_buttons (pressed ▸ counted)
        rw [← deliverButton_release pressed (pressed ▸ counted) active,
          ends accepted active, buttons, (transitionButton_release counted).2]
      · intro accepted active
        obtain ⟨after, counted⟩ := Option.isSome_iff_exists.mp accepted
        have buttons := deliverButton_buttons (pressed ▸ counted)
        rw [deliverButton_release pressed (pressed ▸ counted) active,
          inStep rfl accepted active, buttons,
          (transitionButton_release counted).2]

/-- What is in step keeps a button down for a grab that one began. -/
theorem step_held (invariant : runtime.Invariant) {operation : GrabOperation}
    (releases : ∀ event, operation = .button event →
      runtime.ReleasesInStep event)
    (active : (runtime.step operation).grabs.byButton = true) :
    (runtime.step operation).buttons ≠ ∅ := by
  cases operation with
  | button event =>
      rw [step] at active ⊢
      cases counted : transitionButton runtime.buttons event.detail
          event.pressed with
      | none =>
          have same : runtime.deliverButton event = runtime := by
            unfold deliverButton
            rw [counted]
          rw [same] at active ⊢
          exact invariant.held active
      | some after =>
          cases pressed : event.pressed with
          | true =>
              rw [deliverButton_buttons counted]
              exact transitionButton_press (pressed ▸ counted)
          | false =>
              cases before : runtime.grabs.byButton with
              | false =>
                  rw [deliverButton_idle pressed before] at active
                  cases active
              | true =>
                  have ends := endsInStep_iff.mpr (releases event rfl)
                    (counted ▸ rfl) before
                  rw [Ne, ← ends, active]
                  decide
  | grabPointer request =>
      exact invariant.held (GrabState.grabPointer_byButton _ active)
  | ungrabPointer client requestTime =>
      exact invariant.held (GrabState.ungrabPointer_byButton active)
  | changeActivePointerGrab client eventMask cursor cursorValid requestTime =>
      exact invariant.held
        (GrabState.changeActivePointerGrab_byButton ▸ active)
  | grabKeyboard request =>
      exact invariant.held (GrabState.grabKeyboard_byButton _ ▸ active)
  | ungrabKeyboard client requestTime =>
      exact invariant.held (GrabState.ungrabKeyboard_byButton ▸ active)
  | grabButton request =>
      exact invariant.held (GrabState.grabButton_byButton _ ▸ active)
  | cleanupClient client =>
      exact invariant.held (GrabState.cleanupClient_byButton client active)
  | cleanupWindow window =>
      exact invariant.held (GrabState.cleanupWindow_byButton window active)
  | suspend => cases active
  | reset => cases active
  | interaction interacting => exact invariant.held active
  | wait elapsed => exact invariant.held active

theorem behaves_iff_condition (invariant : runtime.Invariant)
    (operation : GrabOperation) :
    runtime.Behaves operation ↔ runtime.Condition operation := by
  constructor
  · intro behaves
    constructor
    · rintro event rfl
      exact endsInStep_iff.mp (behaves.ends event rfl)
    · intro times compared current
      exact (currentTime_iff operation times compared current).mp
        (behaves.current times compared current)
  · intro condition
    refine ⟨⟨step_apart invariant.apart operation,
      step_held invariant condition.releases⟩, ?_, ?_⟩
    · rintro event rfl
      exact endsInStep_iff.mpr (condition.releases event rfl)
    · intro times compared current
      exact (currentTime_iff operation times compared current).mpr
        (condition.recent times compared current)

theorem invariant_start : ({} : PointerRuntime).Invariant :=
  ⟨.nil, fun active => by cases active⟩

/-- A run keeps what it is to keep exactly while its releases are in step and
its requests at the current time are recent. -/
theorem grabs_behave (operations : List GrabOperation) :
    Guarded step Behaves {} operations ↔
      Guarded step Condition {} operations :=
  @Guarded.congr _ _ step Behaves Condition (fun _ _ => True) Invariant
    (fun _ operation invariant _ => behaves_iff_condition invariant operation)
    (fun _ operation invariant _ condition =>
      ((behaves_iff_condition invariant operation).mpr condition).kept)
    _ operations invariant_start (Guarded.always fun _ _ => trivial)

/-- A press that begins to move a window and is not consumed leaves its grab
behind; a grab ends before the button that was down at its start; and the
current time is refused half a cycle of the clock after a grab. -/
theorem grabs_misbehave :
    (let pressed := run step {} [.button
        { detail := 1
          pressed := true
          recipient := some (1, 10)
          interacting := true }]
     let released := pressed.step (.button { detail := 1, pressed := false })
     pressed.grabs.byButton = true ∧ released.buttons = ∅ ∧
       released.grabs.byButton = true) ∧
    (let pressed := run step {} [
       .button { detail := 1, pressed := true },
       .button
         { detail := 2
           pressed := true
           recipient := some (1, 10) }]
     let released := pressed.step (.button { detail := 2, pressed := false })
     pressed.grabs.byButton = true ∧ released.buttons = {1} ∧
       released.grabs.byButton = false) ∧
    (let later := run step {} [
       .grabPointer { client := 1, window := 10 },
       .ungrabPointer 1 0,
       .wait (2 ^ 31 + 1)]
     later.refusedForTime (.grabPointer { client := 1, window := 10 }) =
       true) := by
  decide +kernel

end PointerRuntime

end Glasswyrm.Server
