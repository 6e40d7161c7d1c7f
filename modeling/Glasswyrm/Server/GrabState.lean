import Glasswyrm.Library.WrappingTime
import Mathlib.Data.Finset.SDiff

namespace Glasswyrm.Server

open Library

/-! The grabs of the pointer, the keyboard and single buttons. -/

def kAnyModifier : Nat := 0x8000
def kAnyButton : Nat := 0
def kCoreModifierMask : Nat := 0xff

/-- Buttons, crossings and motion. -/
def kPointerGrabMask : UInt32 := 0x3ffc

/-- Releases and motion. -/
def kAutomaticGrabMask : UInt32 := 0x3f48

inductive GrabMode where
  | synchronous
  | asynchronous
deriving DecidableEq, Repr

inductive GrabStatus where
  | success
  | alreadyGrabbed
  | invalidTime
  | notViewable
  | invalidMode
  | invalidEventMask
  | unsupportedConfine
  | invalidCursor
  | invalidButton
  | invalidModifiers
  | badAccess
  | notFound
  | notOwner
  | badImplementation
deriving DecidableEq, Repr

inductive PointerGrabOrigin where
  | explicit
  | automaticButton
  | passiveButton
deriving DecidableEq, Repr

structure PointerGrabRequest where
  client : Nat := 0
  window : Nat := 0
  ownerEvents : Bool := false
  eventMask : UInt32 := 0
  pointerMode : GrabMode := .asynchronous
  keyboardMode : GrabMode := .asynchronous
  confineTo : Nat := 0
  cursor : Nat := 0
  cursorValid : Bool := true
  requestTime : UInt32 := 0
  currentTime : UInt32 := 0
  windowViewable : Bool := true
deriving DecidableEq

structure KeyboardGrabRequest where
  client : Nat := 0
  window : Nat := 0
  ownerEvents : Bool := false
  pointerMode : GrabMode := .asynchronous
  keyboardMode : GrabMode := .asynchronous
  requestTime : UInt32 := 0
  currentTime : UInt32 := 0
  windowViewable : Bool := true
deriving DecidableEq

structure PassiveButtonGrabRequest where
  client : Nat := 0
  window : Nat := 0
  button : Nat := kAnyButton
  modifiers : Nat := kAnyModifier
  ownerEvents : Bool := false
  eventMask : UInt32 := 0
  pointerMode : GrabMode := .asynchronous
  keyboardMode : GrabMode := .asynchronous
  confineTo : Nat := 0
  cursor : Nat := 0
  cursorValid : Bool := true
deriving DecidableEq

structure PointerGrab where
  origin : PointerGrabOrigin := .explicit
  client : Nat := 0
  window : Nat := 0
  ownerEvents : Bool := false
  eventMask : UInt32 := 0
  cursor : Nat := 0
  activationTime : UInt32 := 0
  heldButtons : Finset Nat := ∅
deriving DecidableEq

structure KeyboardGrab where
  client : Nat := 0
  window : Nat := 0
  ownerEvents : Bool := false
  activationTime : UInt32 := 0
deriving DecidableEq

structure PassiveButtonGrab where
  request : PassiveButtonGrabRequest
  serial : Nat := 0
deriving DecidableEq

structure GrabState where
  pointerGrab : Option PointerGrab := none
  keyboardGrab : Option KeyboardGrab := none
  passiveButtons : List PassiveButtonGrab := []
  lastPointerGrabTime : UInt32 := 0
  lastKeyboardGrabTime : UInt32 := 0
  nextPassiveSerial : Nat := 1
deriving DecidableEq

structure GrabCleanupResult where
  pointerReleased : Bool := false
  keyboardReleased : Bool := false
  passiveButtonsRemoved : Nat := 0
deriving DecidableEq, Repr

def validButton (button : Nat) : Bool :=
  button = kAnyButton || (1 ≤ button && button ≤ 9)

def validModifiers (modifiers : Nat) : Bool :=
  modifiers = kAnyModifier || modifiers ≤ kCoreModifierMask

/-- The buttons that can be held: the bit of any other is none. -/
def buttonBit (button : Nat) : Finset Nat :=
  if 1 ≤ button ∧ button ≤ 9 then {button} else ∅

namespace GrabState

/-- The time of a request, where zero is the current one.  It may not lie
before the last grab nor in the future. -/
def validTime (requestTime currentTime lastGrabTime : UInt32) :
    Option UInt32 :=
  let resolved := if requestTime = 0 then currentTime else requestTime
  if !laterTime lastGrabTime resolved && !laterTime resolved currentTime then
    some resolved
  else none

def validatePointerFields (eventMask : UInt32)
    (pointerMode keyboardMode : GrabMode) (confineTo cursor : Nat)
    (cursorValid : Bool) : GrabStatus :=
  if pointerMode ≠ .asynchronous || keyboardMode ≠ .asynchronous then
    .badImplementation
  else if eventMask &&& ~~~kPointerGrabMask ≠ 0 then .invalidEventMask
  else if confineTo ≠ 0 then .unsupportedConfine
  else if cursor ≠ 0 && !cursorValid then .invalidCursor
  else .success

/-! ## Grabs by request -/

def grabPointer (grabs : GrabState) (request : PointerGrabRequest) :
    GrabStatus × GrabState :=
  let fields := validatePointerFields request.eventMask request.pointerMode
    request.keyboardMode request.confineTo request.cursor request.cursorValid
  if fields ≠ .success then (fields, grabs)
  else if !request.windowViewable then (.notViewable, grabs)
  else
    match validTime request.requestTime request.currentTime
        grabs.lastPointerGrabTime with
    | none => (.invalidTime, grabs)
    | some activationTime =>
        if grabs.pointerGrab.isSome then (.alreadyGrabbed, grabs)
        else
          (.success, { grabs with
            pointerGrab := some
              { origin := .explicit
                client := request.client
                window := request.window
                ownerEvents := request.ownerEvents
                eventMask := request.eventMask
                cursor := request.cursor
                activationTime }
            lastPointerGrabTime := activationTime })

def ungrabPointer (grabs : GrabState) (client : Nat)
    (requestTime currentTime : UInt32) : Bool × GrabState :=
  if !grabs.pointerGrab.any (·.client = client) ||
      (validTime requestTime currentTime grabs.lastPointerGrabTime).isNone then
    (false, grabs)
  else (true, { grabs with pointerGrab := none })

def changeActivePointerGrab (grabs : GrabState) (client : Nat)
    (eventMask : UInt32) (cursor : Nat) (cursorValid : Bool)
    (requestTime currentTime : UInt32) : GrabStatus × GrabState :=
  match grabs.pointerGrab with
  | none => (.notFound, grabs)
  | some grab =>
      if grab.client ≠ client then (.notOwner, grabs)
      else if eventMask &&& ~~~kPointerGrabMask ≠ 0 then
        (.invalidEventMask, grabs)
      else if cursor ≠ 0 && !cursorValid then (.invalidCursor, grabs)
      else if (validTime requestTime currentTime
          grabs.lastPointerGrabTime).isNone then (.invalidTime, grabs)
      else
        (.success, { grabs with
          pointerGrab := some { grab with eventMask, cursor } })

def grabKeyboard (grabs : GrabState) (request : KeyboardGrabRequest) :
    GrabStatus × GrabState :=
  if request.pointerMode ≠ .asynchronous ||
      request.keyboardMode ≠ .asynchronous then (.badImplementation, grabs)
  else if !request.windowViewable then (.notViewable, grabs)
  else
    match validTime request.requestTime request.currentTime
        grabs.lastKeyboardGrabTime with
    | none => (.invalidTime, grabs)
    | some activationTime =>
        if grabs.keyboardGrab.isSome then (.alreadyGrabbed, grabs)
        else
          (.success, { grabs with
            keyboardGrab := some
              { client := request.client
                window := request.window
                ownerEvents := request.ownerEvents
                activationTime }
            lastKeyboardGrabTime := activationTime })

def ungrabKeyboard (grabs : GrabState) (client : Nat)
    (requestTime currentTime : UInt32) : Bool × GrabState :=
  if !grabs.keyboardGrab.any (·.client = client) ||
      (validTime requestTime currentTime grabs.lastKeyboardGrabTime).isNone then
    (false, grabs)
  else (true, { grabs with keyboardGrab := none })

/-! ## Grabs by a button -/

def beginAutomaticButtonGrab (grabs : GrabState) (client window button : Nat)
    (currentTime : UInt32) : Bool × GrabState :=
  if grabs.pointerGrab.isSome || buttonBit button = ∅ then (false, grabs)
  else
    (true, { grabs with
      pointerGrab := some
        { origin := .automaticButton
          client
          window
          ownerEvents := true
          eventMask := kAutomaticGrabMask
          activationTime := currentTime
          heldButtons := buttonBit button }
      lastPointerGrabTime := currentTime })

def noteButtonPress (grabs : GrabState) (button : Nat) : GrabState :=
  match grabs.pointerGrab with
  | none => grabs
  | some grab =>
      if grab.origin = .explicit then grabs
      else
        { grabs with
          pointerGrab := some
            { grab with heldButtons := grab.heldButtons ∪ buttonBit button } }

def noteButtonRelease (grabs : GrabState) (button : Nat) : Bool × GrabState :=
  match grabs.pointerGrab with
  | none => (false, grabs)
  | some grab =>
      if grab.origin = .explicit then (false, grabs)
      else
        let heldButtons := grab.heldButtons \ buttonBit button
        if heldButtons ≠ ∅ then
          (false, { grabs with
            pointerGrab := some { grab with heldButtons } })
        else (true, { grabs with pointerGrab := none })

/-! ## Passive grabs -/

def passiveOverlaps (left right : PassiveButtonGrabRequest) : Bool :=
  let buttons := left.button = kAnyButton || right.button = kAnyButton ||
    left.button = right.button
  let modifiers := left.modifiers = kAnyModifier ||
    right.modifiers = kAnyModifier || left.modifiers = right.modifiers
  left.window = right.window && buttons && modifiers

/-- The grabs with the request in the place of the one that it replaces, if
there is one and no other client's is in the way before it. -/
def replacePassive (request : PassiveButtonGrabRequest) :
    List PassiveButtonGrab → Except GrabStatus (Option (List PassiveButtonGrab))
  | [] => .ok none
  | passive :: rest =>
      if passiveOverlaps passive.request request then
        if passive.request.client ≠ request.client then .error .badAccess
        else if passive.request.button = request.button &&
            passive.request.modifiers = request.modifiers then
          .ok (some ({ passive with request } :: rest))
        else
          (replacePassive request rest).map fun replaced =>
            replaced.map (passive :: ·)
      else
        (replacePassive request rest).map fun replaced =>
          replaced.map (passive :: ·)

def grabButton (grabs : GrabState) (request : PassiveButtonGrabRequest) :
    GrabStatus × GrabState :=
  if !validButton request.button then (.invalidButton, grabs)
  else if !validModifiers request.modifiers then (.invalidModifiers, grabs)
  else
    let fields := validatePointerFields request.eventMask request.pointerMode
      request.keyboardMode request.confineTo request.cursor
      request.cursorValid
    if fields ≠ .success then (fields, grabs)
    else
      match replacePassive request grabs.passiveButtons with
      | .error status => (status, grabs)
      | .ok (some passiveButtons) =>
          (.success, { grabs with passiveButtons })
      | .ok none =>
          (.success, { grabs with
            passiveButtons := grabs.passiveButtons ++
              [{ request, serial := grabs.nextPassiveSerial }]
            nextPassiveSerial := grabs.nextPassiveSerial + 1 })

/-- A passive grab that fits a press, with the depth of its window below the
pointer and how much of the press it names. -/
structure PassiveMatch where
  passive : PassiveButtonGrab
  depth : Nat
  specificity : Nat

def PassiveMatch.of (button coreModifiers : Nat) (ancestry : List Nat)
    (passive : PassiveButtonGrab) : Option PassiveMatch :=
  let request := passive.request
  match ancestry.findIdx? (· = request.window) with
  | none => none
  | some depth =>
      if request.button ≠ kAnyButton && request.button ≠ button then none
      else if request.modifiers ≠ kAnyModifier &&
          request.modifiers ≠ coreModifiers then none
      else
        some
          { passive
            depth
            specificity := (if request.button ≠ kAnyButton then 2 else 0) +
              if request.modifiers ≠ kAnyModifier then 1 else 0 }

/-- The deepest window first, then the most specific, then the oldest. -/
def PassiveMatch.beats (candidate best : PassiveMatch) : Bool :=
  candidate.depth < best.depth ||
    (candidate.depth = best.depth &&
      best.specificity < candidate.specificity) ||
    (candidate.depth = best.depth &&
      candidate.specificity = best.specificity &&
      candidate.passive.serial < best.passive.serial)

def bestPassive (passives : List PassiveButtonGrab)
    (button coreModifiers : Nat) (ancestry : List Nat) :
    Option PassiveMatch :=
  passives.foldl (fun best passive =>
    match PassiveMatch.of button coreModifiers ancestry passive with
    | none => best
    | some candidate =>
        if best.all fun best => candidate.beats best then some candidate
        else best) none

def activatePassiveButton (grabs : GrabState) (button modifiers : Nat)
    (ancestry : List Nat) (currentTime : UInt32) : Bool × GrabState :=
  if grabs.pointerGrab.isSome || button < 1 || 9 < button ||
      ancestry.isEmpty then (false, grabs)
  else
    match bestPassive grabs.passiveButtons button
        (modifiers &&& kCoreModifierMask) ancestry with
    | none => (false, grabs)
    | some best =>
        let request := best.passive.request
        (true, { grabs with
          pointerGrab := some
            { origin := .passiveButton
              client := request.client
              window := request.window
              ownerEvents := request.ownerEvents
              eventMask := request.eventMask
              cursor := request.cursor
              activationTime := currentTime
              heldButtons := buttonBit button }
          lastPointerGrabTime := currentTime })

/-! ## Cleanup -/

/-- What `concerns` a grab ends it. -/
def cleanup (grabs : GrabState) (pointer : PointerGrab → Bool)
    (keyboard : KeyboardGrab → Bool)
    (passive : PassiveButtonGrabRequest → Bool) :
    GrabCleanupResult × GrabState :=
  let kept := grabs.passiveButtons.filter fun entry => !passive entry.request
  ({ pointerReleased := grabs.pointerGrab.any pointer
     keyboardReleased := grabs.keyboardGrab.any keyboard
     passiveButtonsRemoved := grabs.passiveButtons.length - kept.length },
    { grabs with
      pointerGrab := grabs.pointerGrab.filter fun grab => !pointer grab
      keyboardGrab := grabs.keyboardGrab.filter fun grab => !keyboard grab
      passiveButtons := kept })

def cleanupClient (grabs : GrabState) (client : Nat) :
    GrabCleanupResult × GrabState :=
  grabs.cleanup (·.client = client) (·.client = client) (·.client = client)

def cleanupWindow (grabs : GrabState) (window : Nat) :
    GrabCleanupResult × GrabState :=
  grabs.cleanup (·.window = window) (·.window = window) (·.window = window)

def suspend (grabs : GrabState) : GrabCleanupResult × GrabState :=
  ({ pointerReleased := grabs.pointerGrab.isSome
     keyboardReleased := grabs.keyboardGrab.isSome },
    { grabs with pointerGrab := none, keyboardGrab := none })

end GrabState

end Glasswyrm.Server
