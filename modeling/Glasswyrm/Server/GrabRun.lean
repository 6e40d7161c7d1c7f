import Glasswyrm.Library.Order
import Glasswyrm.Library.Run
import Glasswyrm.Server.GrabState
import Mathlib.Data.Finset.Erase

namespace Glasswyrm.Server

open Library

/-! The grabs over a run of requests and of presses and releases, beside the
buttons that are really down.  A press or release that moves or resizes a
window is kept from the grabs. -/

/-- A button event, with what the window under the pointer and the interactive
policy make of it. -/
structure ButtonEvent where
  detail : Nat
  pressed : Bool
  stateBefore : Nat := 0
  ancestry : List Nat := []
  recipient : Option (Nat × Nat) := none
  /-- A press that begins to move or resize a window and is consumed. -/
  begins : Bool := false
  /-- Whether a window is moved or resized after the event. -/
  interacting : Bool := false
deriving DecidableEq

structure PointerRuntime where
  grabs : GrabState := {}
  buttons : Finset Nat := ∅
  interacting : Bool := false
  clock : Nat := 1
deriving DecidableEq

inductive GrabOperation where
  | button (event : ButtonEvent)
  | grabPointer (request : PointerGrabRequest)
  | ungrabPointer (client : Nat) (requestTime : UInt32)
  | changeActivePointerGrab (client : Nat) (eventMask : UInt32) (cursor : Nat)
      (cursorValid : Bool) (requestTime : UInt32)
  | grabKeyboard (request : KeyboardGrabRequest)
  | ungrabKeyboard (client : Nat) (requestTime : UInt32)
  | grabButton (request : PassiveButtonGrabRequest)
  | cleanupClient (client : Nat)
  | cleanupWindow (window : Nat)
  | suspend
  /-- The input provider starts anew. -/
  | reset
  /-- A window begins or stops to be moved or resized for another reason. -/
  | interaction (active : Bool)
  | wait (elapsed : Nat)
deriving DecidableEq

/-- A button goes down only if it is up, and up only if it is down. -/
def transitionButton (buttons : Finset Nat) (button : Nat) (pressed : Bool) :
    Option (Finset Nat) :=
  if button < 1 || 9 < button || decide (button ∈ buttons) = pressed then none
  else some (if pressed then insert button buttons else buttons.erase button)

namespace PointerRuntime

def time (runtime : PointerRuntime) : UInt32 :=
  UInt32.ofNat runtime.clock

def consumes (runtime : PointerRuntime) (event : ButtonEvent) : Bool :=
  runtime.interacting || (event.pressed && event.begins)

/-- A press activates a passive grab, or else an automatic one for the client
that gets it. -/
def activate (runtime : PointerRuntime) (event : ButtonEvent) : GrabState :=
  let (activated, grabs) := runtime.grabs.activatePassiveButton event.detail
    (event.stateBefore &&& 0xff) event.ancestry runtime.time
  if activated then grabs
  else
    match event.recipient with
    | none => grabs
    | some (client, window) =>
        (grabs.beginAutomaticButtonGrab client window event.detail
          runtime.time).2

def deliverButton (runtime : PointerRuntime) (event : ButtonEvent) :
    PointerRuntime :=
  match transitionButton runtime.buttons event.detail event.pressed with
  | none => runtime
  | some buttons =>
      let consumed := runtime.consumes event
      let grabs :=
        if !consumed && event.pressed && runtime.grabs.pointerGrab.isNone then
          runtime.activate event
        else runtime.grabs
      let grabs :=
        if consumed then grabs
        else if event.pressed then grabs.noteButtonPress event.detail
        else (grabs.noteButtonRelease event.detail).2
      { runtime with grabs, buttons, interacting := event.interacting }

def step (runtime : PointerRuntime) : GrabOperation → PointerRuntime
  | .button event => runtime.deliverButton event
  | .grabPointer request =>
      { runtime with
        grabs := (runtime.grabs.grabPointer
          { request with currentTime := runtime.time }).2 }
  | .ungrabPointer client requestTime =>
      { runtime with
        grabs :=
          (runtime.grabs.ungrabPointer client requestTime runtime.time).2 }
  | .changeActivePointerGrab client eventMask cursor cursorValid requestTime =>
      { runtime with
        grabs := (runtime.grabs.changeActivePointerGrab client eventMask cursor
          cursorValid requestTime runtime.time).2 }
  | .grabKeyboard request =>
      { runtime with
        grabs := (runtime.grabs.grabKeyboard
          { request with currentTime := runtime.time }).2 }
  | .ungrabKeyboard client requestTime =>
      { runtime with
        grabs :=
          (runtime.grabs.ungrabKeyboard client requestTime runtime.time).2 }
  | .grabButton request =>
      { runtime with grabs := (runtime.grabs.grabButton request).2 }
  | .cleanupClient client =>
      { runtime with grabs := (runtime.grabs.cleanupClient client).2 }
  | .cleanupWindow window =>
      { runtime with grabs := (runtime.grabs.cleanupWindow window).2 }
  | .suspend => { runtime with grabs := runtime.grabs.suspend.2 }
  | .reset =>
      { runtime with
        grabs := runtime.grabs.suspend.2
        buttons := ∅
        interacting := false }
  | .interaction active => { runtime with interacting := active }
  | .wait elapsed => { runtime with clock := runtime.clock + elapsed }

end PointerRuntime

/-! ## Passive grabs -/

/-- Neither an overlap of two clients nor one press of one client twice. -/
def Apart (left right : PassiveButtonGrabRequest) : Prop :=
  if left.client = right.client then
    ¬(left.window = right.window ∧ left.button = right.button ∧
      left.modifiers = right.modifiers)
  else GrabState.passiveOverlaps left right = false

instance (left right : PassiveButtonGrabRequest) :
    Decidable (Apart left right) := by
  unfold Apart
  infer_instance

def PassivesApart (passives : List PassiveButtonGrab) : Prop :=
  passives.Pairwise fun left right => Apart left.request right.request

/-- The same press of the same client. -/
structure SamePress (left right : PassiveButtonGrabRequest) : Prop where
  client : left.client = right.client
  window : left.window = right.window
  button : left.button = right.button
  modifiers : left.modifiers = right.modifiers

theorem Apart.congr {left right other another : PassiveButtonGrabRequest}
    (first : SamePress left other) (second : SamePress right another) :
    Apart left right ↔ Apart other another := by
  unfold Apart GrabState.passiveOverlaps
  rw [first.client, first.window, first.button, first.modifiers,
    second.client, second.window, second.button, second.modifiers]

variable {request : PassiveButtonGrabRequest}
  {passives replaced : List PassiveButtonGrab}

/-- A grab that is replaced is one for the same press. -/
theorem replacePassive_some
    (done : GrabState.replacePassive request passives = .ok (some replaced)) :
    List.Forall₂ (fun before after => SamePress before.request after.request)
      passives replaced := by
  induction passives generalizing replaced with
  | nil => cases done
  | cons passive rest ih =>
      have later : (GrabState.replacePassive request rest).map
          (fun replaced => replaced.map (passive :: ·)) =
            .ok (some replaced) →
          List.Forall₂ (fun before after =>
            SamePress before.request after.request) (passive :: rest)
              replaced := by
        intro same
        cases remaining : GrabState.replacePassive request rest with
        | error status => simp [remaining, Except.map] at same
        | ok found =>
            cases found with
            | none => simp [remaining, Except.map] at same
            | some list =>
                rw [remaining] at same
                obtain rfl := Option.some.inj (Except.ok.inj same)
                exact .cons ⟨rfl, rfl, rfl, rfl⟩ (ih remaining)
      unfold GrabState.replacePassive at done
      split at done
      · rename_i overlaps
        split at done
        · cases done
        · rename_i own
          split at done
          · rename_i press
            obtain rfl := Option.some.inj (Except.ok.inj done)
            simp only [Bool.and_eq_true, decide_eq_true_eq] at press
            simp only [GrabState.passiveOverlaps, Bool.and_eq_true,
              decide_eq_true_eq] at overlaps
            rw [not_not] at own
            exact .cons ⟨own, overlaps.1.1, press.1, press.2⟩
              (List.forall₂_same.mpr fun _ _ => ⟨rfl, rfl, rfl, rfl⟩)
          · exact later done
      · exact later done

/-- Where none is replaced the request is apart from all of them. -/
theorem replacePassive_none
    (done : GrabState.replacePassive request passives = .ok none) :
    ∀ passive ∈ passives, Apart passive.request request := by
  induction passives with
  | nil => exact List.forall_mem_nil _
  | cons passive rest ih =>
      have later : (GrabState.replacePassive request rest).map
          (fun replaced => replaced.map (passive :: ·)) = .ok none →
          GrabState.replacePassive request rest = .ok none := by
        intro same
        cases remaining : GrabState.replacePassive request rest with
        | error status => simp [remaining, Except.map] at same
        | ok found =>
            cases found with
            | none => rfl
            | some list => simp [remaining, Except.map] at same
      unfold GrabState.replacePassive at done
      split at done
      · rename_i overlaps
        split at done
        · cases done
        · rename_i own
          rw [not_not] at own
          split at done
          · cases done
          · rename_i other
            refine List.forall_mem_cons.mpr ⟨?_, ih (later done)⟩
            unfold Apart
            rw [if_pos own]
            rintro ⟨_, button, modifiers⟩
            rw [button, modifiers] at other
            simp at other
      · rename_i free
        refine List.forall_mem_cons.mpr ⟨?_, ih (later done)⟩
        unfold Apart
        split
        · rintro ⟨window, button, modifiers⟩
          refine free ?_
          simp [GrabState.passiveOverlaps, window, button, modifiers]
        · exact Bool.eq_false_iff.mpr free

/-- A grab of a button keeps the passive grabs apart. -/
theorem grabButton_apart {grabs : GrabState}
    (apart : PassivesApart grabs.passiveButtons)
    (request : PassiveButtonGrabRequest) :
    PassivesApart (grabs.grabButton request).2.passiveButtons := by
  unfold GrabState.grabButton
  split
  · exact apart
  split
  · exact apart
  dsimp only
  split
  · exact apart
  split
  · exact apart
  · rename_i done
    refine pairwise_of_forall₂ ?_ (replacePassive_some done) apart
    intro left right other another first second
    exact (Apart.congr first second).mp
  · rename_i done
    refine List.pairwise_append.mpr ⟨apart, List.pairwise_singleton _ _, ?_⟩
    intro passive member other last
    obtain rfl := List.mem_singleton.mp last
    exact replacePassive_none done passive member

/-! ## Grabs that a button began -/

namespace GrabState

/-- An automatic grab, or a passive one that is active. -/
def byButton (grabs : GrabState) : Bool :=
  grabs.pointerGrab.any (·.origin ≠ .explicit)

def heldButtons (grabs : GrabState) : Finset Nat :=
  (grabs.pointerGrab.map (·.heldButtons)).getD ∅

section

variable {grabs : GrabState}

theorem grabPointer_byButton (request : PointerGrabRequest)
    (active : (grabs.grabPointer request).2.byButton = true) :
    grabs.byButton = true := by
  unfold grabPointer at active
  dsimp only at active
  split at active
  · exact active
  split at active
  · exact active
  split at active
  · exact active
  split at active
  · exact active
  · cases active

theorem ungrabPointer_byButton {client : Nat} {requestTime time : UInt32}
    (active : (grabs.ungrabPointer client requestTime time).2.byButton = true) :
    grabs.byButton = true := by
  unfold ungrabPointer at active
  split at active
  · exact active
  · cases active

theorem changeActivePointerGrab_byButton {client cursor : Nat}
    {eventMask requestTime time : UInt32} {cursorValid : Bool} :
    (grabs.changeActivePointerGrab client eventMask cursor cursorValid
      requestTime time).2.byButton = grabs.byButton := by
  unfold changeActivePointerGrab byButton
  cases held : grabs.pointerGrab with
  | none => simp [held]
  | some grab =>
      dsimp only
      split
      · simp [held]
      split
      · simp [held]
      split
      · simp [held]
      split <;> simp [held]

theorem grabKeyboard_byButton (request : KeyboardGrabRequest) :
    (grabs.grabKeyboard request).2.byButton = grabs.byButton := by
  unfold grabKeyboard
  split
  · rfl
  split
  · rfl
  split
  · rfl
  split <;> rfl

theorem ungrabKeyboard_byButton {client : Nat} {requestTime time : UInt32} :
    (grabs.ungrabKeyboard client requestTime time).2.byButton =
      grabs.byButton := by
  unfold ungrabKeyboard
  split <;> rfl

theorem grabButton_byButton (request : PassiveButtonGrabRequest) :
    (grabs.grabButton request).2.byButton = grabs.byButton := by
  unfold grabButton
  split
  · rfl
  split
  · rfl
  dsimp only
  split
  · rfl
  split <;> rfl

theorem cleanup_byButton {pointer : PointerGrab → Bool}
    {keyboard : KeyboardGrab → Bool}
    {passive : PassiveButtonGrabRequest → Bool}
    (active : (grabs.cleanup pointer keyboard passive).2.byButton = true) :
    grabs.byButton = true := by
  unfold cleanup byButton at active
  unfold byButton
  cases held : grabs.pointerGrab with
  | none => simp [held] at active
  | some grab =>
      cases ends : pointer grab <;> simp [held, ends] at active ⊢
      exact active

theorem noteButtonPress_byButton (button : Nat) :
    (grabs.noteButtonPress button).byButton = grabs.byButton := by
  unfold noteButtonPress byButton
  cases held : grabs.pointerGrab with
  | none => simp [held]
  | some grab =>
      dsimp only
      split <;> simp [held]

/-- The last button that is held ends the grab. -/
theorem noteButtonRelease_byButton (active : grabs.byButton = true)
    (button : Nat) :
    (grabs.noteButtonRelease button).2.byButton = true ↔
      grabs.heldButtons \ buttonBit button ≠ ∅ := by
  unfold byButton at active
  unfold noteButtonRelease byButton heldButtons
  cases held : grabs.pointerGrab with
  | none => simp [held] at active
  | some grab =>
      simp only [held, Option.any_some, decide_eq_true_eq] at active
      dsimp only
      rw [if_neg active, Option.map_some, Option.getD_some]
      split
      · rename_i more
        simp [active, more]
      · rename_i last
        rw [not_not] at last
        simp [last]

theorem noteButtonRelease_idle (idle : grabs.byButton = false)
    (button : Nat) : (grabs.noteButtonRelease button).2 = grabs := by
  unfold byButton at idle
  unfold noteButtonRelease
  cases held : grabs.pointerGrab with
  | none => rfl
  | some grab =>
      simp only [held, Option.any_some, decide_eq_false_iff_not, not_not]
        at idle
      dsimp only
      rw [if_pos idle]

end

end GrabState

/-! ## Times -/

/-- The current time is taken for a time after the last grab. -/
def Recent (last time : UInt32) : Prop :=
  (time - last).toNat ≤ 2 ^ 31

instance (last time : UInt32) : Decidable (Recent last time) := by
  unfold Recent
  infer_instance

theorem laterTime_eq_false_iff (last time : UInt32) :
    laterTime last time = false ↔ Recent last time := by
  rw [← Bool.not_eq_true, laterTime_iff, Recent]
  have turned : last - time = 0 - (time - last) := by
    rw [UInt32.zero_sub, UInt32.neg_sub]
  rw [turned, UInt32.toNat_sub]
  have bound := (time - last).toNat_lt
  generalize (time - last).toNat = span at bound ⊢
  simp only [UInt32.toNat_zero]
  omega

theorem validTime_current (last time : UInt32) :
    (GrabState.validTime 0 time last).isSome = true ↔ Recent last time := by
  rw [← laterTime_eq_false_iff]
  unfold GrabState.validTime
  simp only [if_true, laterTime_self]
  cases laterTime last time <;> simp

namespace PointerRuntime

/-- The time of a request and the one of the grab before it, where it comes to
comparing them. -/
def comparesTimes (runtime : PointerRuntime) :
    GrabOperation → Option (UInt32 × UInt32)
  | .grabPointer request =>
      if GrabState.validatePointerFields request.eventMask request.pointerMode
            request.keyboardMode request.confineTo request.cursor
            request.cursorValid = .success ∧ request.windowViewable = true then
        some (request.requestTime, runtime.grabs.lastPointerGrabTime)
      else none
  | .ungrabPointer client requestTime =>
      if runtime.grabs.pointerGrab.any (·.client = client) then
        some (requestTime, runtime.grabs.lastPointerGrabTime)
      else none
  | .changeActivePointerGrab client eventMask cursor cursorValid requestTime =>
      if runtime.grabs.pointerGrab.any (·.client = client) = true ∧
          eventMask &&& ~~~kPointerGrabMask = 0 ∧
          (cursor = 0 ∨ cursorValid = true) then
        some (requestTime, runtime.grabs.lastPointerGrabTime)
      else none
  | .grabKeyboard request =>
      if request.pointerMode = .asynchronous ∧
          request.keyboardMode = .asynchronous ∧
          request.windowViewable = true then
        some (request.requestTime, runtime.grabs.lastKeyboardGrabTime)
      else none
  | .ungrabKeyboard client requestTime =>
      if runtime.grabs.keyboardGrab.any (·.client = client) then
        some (requestTime, runtime.grabs.lastKeyboardGrabTime)
      else none
  | _ => none

/-- A request that is refused because of its time. -/
def refusedForTime (runtime : PointerRuntime) : GrabOperation → Bool
  | .grabPointer request =>
      (runtime.grabs.grabPointer
        { request with currentTime := runtime.time }).1 = .invalidTime
  | .ungrabPointer client requestTime =>
      runtime.grabs.pointerGrab.any (·.client = client) &&
        !(runtime.grabs.ungrabPointer client requestTime runtime.time).1
  | .changeActivePointerGrab client eventMask cursor cursorValid requestTime =>
      (runtime.grabs.changeActivePointerGrab client eventMask cursor
        cursorValid requestTime runtime.time).1 = .invalidTime
  | .grabKeyboard request =>
      (runtime.grabs.grabKeyboard
        { request with currentTime := runtime.time }).1 = .invalidTime
  | .ungrabKeyboard client requestTime =>
      runtime.grabs.keyboardGrab.any (·.client = client) &&
        !(runtime.grabs.ungrabKeyboard client requestTime runtime.time).1
  | _ => false

theorem validatePointerFields_time (eventMask : UInt32)
    (pointerMode keyboardMode : GrabMode) (confineTo cursor : Nat)
    (cursorValid : Bool) :
    GrabState.validatePointerFields eventMask pointerMode keyboardMode
      confineTo cursor cursorValid ≠ .invalidTime := by
  unfold GrabState.validatePointerFields
  split
  · decide
  split
  · decide
  split
  · decide
  split <;> decide

theorem changeActivePointerGrab_invalidTime {grabs : GrabState}
    {client cursor : Nat} {eventMask requestTime time : UInt32}
    {cursorValid : Bool} :
    (grabs.changeActivePointerGrab client eventMask cursor cursorValid
      requestTime time).1 = .invalidTime ↔
      (grabs.pointerGrab.any (·.client = client) = true ∧
        eventMask &&& ~~~kPointerGrabMask = 0 ∧
        (cursor = 0 ∨ cursorValid = true)) ∧
      GrabState.validTime requestTime time grabs.lastPointerGrabTime =
        none := by
  unfold GrabState.changeActivePointerGrab
  cases held : grabs.pointerGrab with
  | none => simp
  | some grab =>
      dsimp only
      split
      · rename_i other
        simp [other]
      rename_i owner
      rw [not_not] at owner
      split
      · rename_i mask
        simp [mask]
      rename_i mask
      rw [not_not] at mask
      split
      · rename_i bad
        simp only [Bool.and_eq_true, decide_eq_true_eq,
          Bool.not_eq_true'] at bad
        simp [bad]
      rename_i good
      have named : cursor = 0 ∨ cursorValid = true := by
        simpa [imp_iff_not_or, or_comm] using good
      split
      · rename_i late
        simpa [owner, mask, named] using late
      · rename_i valid
        simpa [owner, mask, named] using valid

theorem refusedForTime_iff (runtime : PointerRuntime)
    (operation : GrabOperation) :
    runtime.refusedForTime operation = true ↔
      ∃ times, runtime.comparesTimes operation = some times ∧
        GrabState.validTime times.1 runtime.time times.2 = none := by
  cases operation with
  | grabPointer request =>
      have fields := validatePointerFields_time request.eventMask
        request.pointerMode request.keyboardMode request.confineTo
        request.cursor request.cursorValid
      simp only [refusedForTime, comparesTimes, GrabState.grabPointer]
      split
      · rename_i bad
        simp [bad, fields]
      rename_i good
      rw [not_not] at good
      split
      · rename_i hidden
        simp at hidden
        simp [hidden]
      rename_i viewable
      simp only [Bool.not_eq_true', Bool.not_eq_false] at viewable
      split
      · rename_i late
        simp [good, viewable, late]
      · rename_i valid
        split <;> simp [good, viewable, valid]
  | ungrabPointer client requestTime =>
      simp only [refusedForTime, comparesTimes, GrabState.ungrabPointer]
      cases runtime.grabs.pointerGrab.any (·.client = client) <;>
        cases valid : GrabState.validTime requestTime runtime.time
          runtime.grabs.lastPointerGrabTime <;> simp [valid]
  | changeActivePointerGrab client eventMask cursor cursorValid requestTime =>
      simp only [refusedForTime, comparesTimes, decide_eq_true_eq,
        changeActivePointerGrab_invalidTime]
      split
      · rename_i compared
        simp [compared]
      · rename_i other
        simp [other]
  | grabKeyboard request =>
      simp only [refusedForTime, comparesTimes, GrabState.grabKeyboard]
      split
      · rename_i bad
        simp only [Bool.or_eq_true, decide_eq_true_eq] at bad
        rcases bad with pointer | keyboard
        · simp [pointer]
        · simp [keyboard]
      rename_i good
      simp only [Bool.or_eq_true, decide_eq_true_eq, not_or, not_not] at good
      split
      · rename_i hidden
        simp at hidden
        simp [hidden]
      rename_i viewable
      simp only [Bool.not_eq_true', Bool.not_eq_false] at viewable
      split
      · rename_i late
        simp [good, viewable, late]
      · rename_i valid
        split <;> simp [good, viewable, valid]
  | ungrabKeyboard client requestTime =>
      simp only [refusedForTime, comparesTimes, GrabState.ungrabKeyboard]
      cases runtime.grabs.keyboardGrab.any (·.client = client) <;>
        cases valid : GrabState.validTime requestTime runtime.time
          runtime.grabs.lastKeyboardGrabTime <;> simp [valid]
  | _ => simp [refusedForTime, comparesTimes]

end PointerRuntime

end Glasswyrm.Server
