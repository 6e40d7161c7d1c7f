import Mathlib.Data.List.Basic

namespace Glasswyrm.Drm

/-! The page-flip events of the device, and the display hardware behind it. -/

structure PageFlipCookie where
  token : Nat
  completedCrtcId : Nat := 0
  completedSequence : Nat := 0
  completed : Bool := false
deriving DecidableEq, Repr

/-- The cookie that the device keeps alive for the kernel. -/
structure EventCookie where
  cookie : PageFlipCookie
  armed : Bool
deriving DecidableEq, Repr

inductive DrmEvent
  | none
  | pageFlip (token crtcId sequence : Nat)
  | error (error : String)
deriving DecidableEq, Repr

/-- A completion that waits to be read; foreign ones carry no cookie. -/
structure KernelEvent where
  userData : Option Nat := none
  crtcId : Nat
  sequence : Nat
deriving DecidableEq, Repr

structure Flip where
  buffer : Fin 2
  token : Nat
deriving DecidableEq, Repr

/-- What was handed to the kernel: the visible words of the buffer, and those
of the frame it was for. -/
structure Submission where
  shown : List UInt32
  frame : List UInt32

structure Kernel where
  scanned : Option (Fin 2) := none
  flips : List Flip := []
  events : List KernelEvent := []
  submissions : List Submission := []

namespace Kernel

/-- The buffer is scanned out, or will be once a flip completes. -/
def Uses (kernel : Kernel) (index : Fin 2) : Prop :=
  kernel.scanned = some index ∨ ∃ flip ∈ kernel.flips, flip.buffer = index

instance (kernel : Kernel) (index : Fin 2) : Decidable (kernel.Uses index) :=
  inferInstanceAs (Decidable (_ ∨ _))

def submit (kernel : Kernel) (shown frame : List UInt32) : Kernel :=
  { kernel with submissions := kernel.submissions ++ [{ shown, frame }] }

def modeset (kernel : Kernel) (index : Fin 2) : Kernel :=
  { kernel with scanned := some index }

def flip (kernel : Kernel) (index : Fin 2) (token : Nat) : Kernel :=
  { kernel with flips := kernel.flips ++ [{ buffer := index, token }] }

/-- The oldest flip takes place. -/
def completeFlip (kernel : Kernel) (crtcId sequence : Nat) : Kernel :=
  match kernel.flips with
  | [] => kernel
  | flip :: rest =>
      { kernel with
        scanned := some flip.buffer
        flips := rest
        events := kernel.events ++
          [{ userData := some flip.token, crtcId, sequence }] }

def foreignEvent (kernel : Kernel) (crtcId sequence : Nat) : Kernel :=
  { kernel with events := kernel.events ++ [{ crtcId, sequence }] }

end Kernel

def pageFlipComplete (cookie : PageFlipCookie) (event : KernelEvent) :
    PageFlipCookie :=
  if event.userData = some cookie.token then
    { cookie with
      completedCrtcId := event.crtcId
      completedSequence := event.sequence
      completed := true }
  else cookie

def armPageFlip (registered : Option EventCookie) (cookie : PageFlipCookie) :
    Except String EventCookie :=
  match registered with
  | some _ => .error "DRM page flip is already armed"
  | none =>
      .ok { cookie := { token := cookie.token }, armed := true }

def cancelPageFlip (registered : Option EventCookie) (cookie : PageFlipCookie) :
    Option EventCookie :=
  if registered.any (·.cookie.token = cookie.token) then none else registered

def abandonPageFlip (registered : Option EventCookie)
    (cookie : PageFlipCookie) : Option EventCookie :=
  registered.map fun event =>
    if event.cookie.token = cookie.token then { event with armed := false }
    else event

/-- What polling the device reported. -/
structure PollEvents where
  failed : Bool := false
  readable : Bool := true

/-- The event, what stays registered, the events not read yet, and the cookie
as the handler left it. -/
structure ServicedEvents where
  event : DrmEvent := .none
  registered : Option EventCookie
  remaining : List KernelEvent
  cookie : Option PageFlipCookie := none

def serviceEvents (registered : Option EventCookie) (events : List KernelEvent)
    (revents : PollEvents) (handled : Except String Unit) : ServicedEvents :=
  if revents.failed then
    { event := .error "DRM event FD reported an error", registered,
      remaining := events }
  else if !revents.readable then { registered, remaining := events }
  else
    match handled with
    | .error error =>
        { event := .error ("DRM event handling failed: " ++ error), registered,
          remaining := events }
    | .ok () =>
        match registered with
        | none => { registered := none, remaining := [] }
        | some event =>
            let cookie := events.foldl pageFlipComplete event.cookie
            if cookie.completed then
              { event :=
                  if event.armed then
                    .pageFlip cookie.token cookie.completedCrtcId
                      cookie.completedSequence
                  else .none
                registered := none
                remaining := []
                cookie := some cookie }
            else
              { registered := some { event with cookie }
                remaining := [] }

end Glasswyrm.Drm
