import Mathlib.Data.List.Basic
import Mathlib.Tactic.Common

namespace Glasswyrm.Session

/-! The session on a virtual terminal, with every call that it makes. -/

def kMaximumLinuxVirtualTerminal : Nat := 63
def kLinuxTtyMajor : Nat := 4

/-- `K_OFF` of the kernel. -/
def keyboardOff : Int := 4

structure DeviceIdentity where
  major : Nat := 0
  minor : Nat := 0
  characterDevice : Bool := false
deriving DecidableEq, Repr

structure VirtualTerminalState where
  active : Nat := 0
  signal : Nat := 0
  allocatedMask : Nat := 0
deriving DecidableEq, Repr

structure VirtualTerminalMode where
  mode : Nat := 0
  waitOnWrite : Nat := 0
  releaseSignal : Int := 0
  acquireSignal : Int := 0
  forcedReleaseSignal : Int := 0
deriving DecidableEq, Repr

structure VirtualTerminalSignals where
  releaseSignal : Int
  acquireSignal : Int
deriving DecidableEq, Repr

/-- The number in `/dev/ttyN`, without leading zeros. -/
def parseVirtualTerminalPath (path : String) : Option Nat :=
  let digits := path.toList.drop 8
  if path.toList.take 8 ≠ "/dev/tty".toList || digits.isEmpty ||
      (1 < digits.length && digits.head? = some '0') ||
      !digits.all Char.isDigit then none
  else
    let number := digits.foldl
      (fun number digit => 10 * number + (digit.toNat - '0'.toNat)) 0
    if number = 0 || kMaximumLinuxVirtualTerminal < number then none
    else some number

/-! ## Calls -/

inductive Call where
  | openTerminal (path : String)
  | identify
  | getState
  | getMode
  | getKdMode
  | getKeyboardMode
  | activate (number : Nat)
  | waitUntilActive (number : Nat)
  | setProcessMode (releaseSignal acquireSignal : Int)
  | setMode (mode : VirtualTerminalMode)
  | setGraphicsMode
  | setKdMode (mode : Int)
  | setKeyboardMode (mode : Int)
  | acknowledgeRelease
  | acknowledgeAcquire
  | closeTerminal
  | quiescePendingFlip
  | acquireMaster
  | dropMaster
  | presentCommittedFrame
  | restoreOriginalDisplay
  | releaseScanoutResources
deriving DecidableEq, Repr

/-- What comes back from a call: a query reads its own field, and the message
is the cause of a failure. -/
structure Reply where
  succeeds : Bool
  descriptor : Int := -1
  identity : DeviceIdentity := {}
  state : VirtualTerminalState := {}
  mode : VirtualTerminalMode := {}
  kdMode : Int := 0
  keyboardMode : Int := 0
  message : String := ""
deriving DecidableEq, Repr

/-- A call on a descriptor of the terminal, with its reply. -/
structure CallRecord where
  fd : Int
  call : Call
  reply : Reply
deriving DecidableEq, Repr

/-! ## The session -/

inductive DirectSessionState where
  | empty
  | active
  | suspended
  | failed
  | restored
deriving DecidableEq, Repr

structure DirectVirtualTerminalSession where
  state : DirectSessionState := .empty
  terminalFd : Int := -1
  terminalNumber : Nat := 0
  savedState : VirtualTerminalState := {}
  savedMode : VirtualTerminalMode := {}
  savedKdMode : Int := 0
  savedKeyboardMode : Int := 0
  haveState : Bool := false
  haveMode : Bool := false
  haveKdMode : Bool := false
  haveKeyboardMode : Bool := false
  activated : Bool := false
  keyboardModeSet : Bool := false
  processModeSet : Bool := false
  graphicsModeSet : Bool := false
  masterOwned : Bool := false
deriving DecidableEq, Repr

/-- The session and the calls it has made, the first of them in front. -/
structure SessionRun where
  session : DirectVirtualTerminalSession := {}
  calls : List CallRecord := []
deriving DecidableEq, Repr

/-- The replies to the calls, one after another. -/
abbrev Replies := Nat → Reply

namespace SessionRun

def replyTo (replies : Replies) (run : SessionRun) : Reply :=
  replies run.calls.length

def record (replies : Replies) (run : SessionRun) (call : Call) :
    SessionRun :=
  { run with
    calls := run.calls ++
      [⟨run.session.terminalFd, call, run.replyTo replies⟩] }

def update (run : SessionRun)
    (change : DirectVirtualTerminalSession → DirectVirtualTerminalSession) :
    SessionRun :=
  { run with session := change run.session }

section

variable (replies : Replies) (run : SessionRun) (call : Call)
  (change : DirectVirtualTerminalSession → DirectVirtualTerminalSession)

@[simp] theorem record_session :
    (run.record replies call).session = run.session := rfl

@[simp] theorem record_calls :
    (run.record replies call).calls = run.calls ++
      [⟨run.session.terminalFd, call, run.replyTo replies⟩] := rfl

@[simp] theorem update_session :
    (run.update change).session = change run.session := rfl

@[simp] theorem update_calls : (run.update change).calls = run.calls := rfl

end

end SessionRun

structure Outcome where
  succeeded : Bool
  error : String := ""
  run : SessionRun

/-! ## Messages -/

def appendError (detail error : String) : String :=
  if error.isEmpty then detail else error ++ "; " ++ detail

/-- A failed call on the terminal, with its cause. -/
def apiError (operation : String) (reply : Reply) : String :=
  if reply.message.isEmpty then operation
  else operation ++ ": " ++ reply.message

/-- A failed call on the display, which says itself what is wrong. -/
def displayError (operation : String) (reply : Reply) : String :=
  if reply.message.isEmpty then operation else reply.message

/-! ## Undoing -/

/-- What has been undone so far, and whether all of it went well. -/
structure Undoing where
  run : SessionRun
  success : Bool := true
  error : String := ""

namespace Undoing

def failed (undoing : Undoing) (run : SessionRun) (detail : String) :
    Undoing where
  run := run
  success := false
  error := appendError detail undoing.error

/-- One mode is written back if it was changed.  A failed acquire then counts
it as undone even if the call fails, a restoration does not. -/
def writeBack (replies : Replies) (forgets : Bool)
    (due : DirectVirtualTerminalSession → Bool)
    (call : DirectVirtualTerminalSession → Call) (operation : String)
    (clear : DirectVirtualTerminalSession → DirectVirtualTerminalSession)
    (undoing : Undoing) : Undoing :=
  let run := undoing.run
  if due run.session then
    let reply := run.replyTo replies
    let after := run.record replies (call run.session)
    if reply.succeeds then { undoing with run := after.update clear }
    else
      undoing.failed (if forgets then after.update clear else after)
        (apiError operation reply)
  else undoing

def writeBackKdMode (replies : Replies) (forgets : Bool)
    (operation : String) : Undoing → Undoing :=
  writeBack replies forgets
    (fun session => session.graphicsModeSet && session.haveKdMode)
    (fun session => .setKdMode session.savedKdMode) operation
    (fun session => { session with graphicsModeSet := false })

def writeBackMode (replies : Replies) (forgets : Bool)
    (operation : String) : Undoing → Undoing :=
  writeBack replies forgets
    (fun session => session.processModeSet && session.haveMode)
    (fun session => .setMode session.savedMode) operation
    (fun session => { session with processModeSet := false })

def writeBackKeyboardMode (replies : Replies) (forgets : Bool)
    (operation : String) : Undoing → Undoing :=
  writeBack replies forgets
    (fun session => session.keyboardModeSet && session.haveKeyboardMode)
    (fun session => .setKeyboardMode session.savedKeyboardMode) operation
    (fun session => { session with keyboardModeSet := false })

/-- The terminal that was active before is activated again and awaited. -/
def reactivate (replies : Replies) (forgets : Bool)
    (activation wait : String) (undoing : Undoing) : Undoing :=
  let run := undoing.run
  let session := run.session
  let clear := fun session : DirectVirtualTerminalSession =>
    { session with activated := false }
  let kept := fun run : SessionRun => if forgets then run.update clear else run
  if session.activated && session.haveState &&
      session.savedState.active ≠ session.terminalNumber then
    let reply := run.replyTo replies
    let switched := run.record replies (.activate session.savedState.active)
    if reply.succeeds then
      let reply := switched.replyTo replies
      let waited :=
        switched.record replies (.waitUntilActive session.savedState.active)
      if reply.succeeds then { undoing with run := waited.update clear }
      else undoing.failed (kept waited) (apiError wait reply)
    else undoing.failed (kept switched) (apiError activation reply)
  else undoing

def closeTerminal (replies : Replies) (state : DirectSessionState)
    (undoing : Undoing) : Undoing :=
  { undoing with
    run := (undoing.run.record replies .closeTerminal).update fun session =>
      { session with terminalFd := -1, state } }

/-! ### After a failed acquire -/

def dropMaster (replies : Replies) (undoing : Undoing) : Undoing :=
  let run := undoing.run
  if run.session.masterOwned then
    let reply := run.replyTo replies
    let after := (run.record replies .dropMaster).update fun session =>
      { session with masterOwned := false }
    if reply.succeeds then { undoing with run := after }
    else undoing.failed after (displayError "cleanup DRM master" reply)
  else undoing

def unwindFailedAcquire (replies : Replies) (undoing : Undoing) : Undoing :=
  undoing
    |>.dropMaster replies
    |> writeBackKdMode replies true "cleanup KD mode"
    |> writeBackMode replies true "cleanup VT mode"
    |> writeBackKeyboardMode replies true "cleanup keyboard mode"
    |>.reactivate replies true "cleanup previous virtual terminal"
      "cleanup previous virtual terminal"
    |>.closeTerminal replies .failed

/-! ### Restoration -/

/-- Without the display the session first switches back to its terminal. -/
def regainMaster (replies : Replies) (undoing : Undoing) : Undoing :=
  let run := undoing.run
  let session := run.session
  if !session.masterOwned && session.graphicsModeSet then
    let reply := run.replyTo replies
    let switched := run.record replies (.activate session.terminalNumber)
    if reply.succeeds then
      let reply := switched.replyTo replies
      let waited :=
        switched.record replies (.waitUntilActive session.terminalNumber)
      if reply.succeeds then
        let reply := waited.replyTo replies
        let after := waited.record replies .acquireMaster
        if reply.succeeds then
          { undoing with
            run := after.update fun session =>
              { session with masterOwned := true } }
        else
          undoing.failed after
            (displayError "reacquire DRM master for restore" reply)
      else
        undoing.failed waited
          (apiError "wait for Glasswyrm virtual terminal during restore" reply)
    else
      undoing.failed switched (apiError
        "reactivate Glasswyrm virtual terminal for display restore" reply)
  else undoing

/-- The scanout is kept as long as the display still shows it. -/
def restoreDisplay (replies : Replies) (undoing : Undoing) : Undoing :=
  if undoing.run.session.masterOwned then
    let reply := undoing.run.replyTo replies
    let shown := undoing.run.record replies .restoreOriginalDisplay
    let released :=
      if reply.succeeds then
        let reply := shown.replyTo replies
        let after := shown.record replies .releaseScanoutResources
        if reply.succeeds then { undoing with run := after }
        else
          undoing.failed after (displayError "release scanout resources" reply)
      else
        undoing.failed shown (displayError "restore original display" reply)
    let reply := released.run.replyTo replies
    let dropped := released.run.record replies .dropMaster
    if reply.succeeds then
      { released with
        run := dropped.update fun session =>
          { session with masterOwned := false } }
    else released.failed dropped (displayError "drop DRM master" reply)
  else undoing

end Undoing

def restore (replies : Replies) (run : SessionRun) : Outcome :=
  if run.session.state = .empty || run.session.state = .restored then
    { succeeded := true, run }
  else
    let undoing : Undoing := { run }
      |> Undoing.regainMaster replies
      |>.restoreDisplay replies
      |> Undoing.writeBackKdMode replies false "restore original KD mode"
      |> Undoing.writeBackMode replies false "restore original VT mode"
      |> Undoing.writeBackKeyboardMode replies false
        "restore original keyboard mode"
      |>.reactivate replies false "reactivate previous virtual terminal"
        "wait for previous virtual terminal"
      |>.closeTerminal replies .restored
    { succeeded := undoing.success, error := undoing.error, run := undoing.run }

/-! ## Acquiring -/

structure AcquireStep where
  call : Call
  failure : Reply → Option String
  done : Reply → DirectVirtualTerminalSession → DirectVirtualTerminalSession

/-- A step that fails when its call does. -/
def apiStep (call : Call) (operation : String)
    (done : Reply → DirectVirtualTerminalSession →
      DirectVirtualTerminalSession) : AcquireStep where
  call := call
  failure reply :=
    if reply.succeeds then none else some (apiError operation reply)
  done := done

def identificationFailure (number : Nat) (reply : Reply) : Option String :=
  if reply.succeeds then
    if reply.identity.characterDevice &&
        reply.identity.major = kLinuxTtyMajor &&
        reply.identity.minor = number then none
    else some "tty path is not the matching Linux virtual-terminal device"
  else some (apiError "identify virtual terminal" reply)

/-- The steps after the terminal is open. -/
def acquireSteps (number : Nat) (signals : VirtualTerminalSignals) :
    List AcquireStep :=
  [{ call := .identify
     failure := identificationFailure number
     done := fun _ session => session },
    apiStep .getState "query active virtual terminal" fun reply session =>
      { session with savedState := reply.state, haveState := true },
    apiStep .getMode "query VT mode" fun reply session =>
      { session with savedMode := reply.mode, haveMode := true },
    apiStep .getKdMode "query KD mode" fun reply session =>
      { session with savedKdMode := reply.kdMode, haveKdMode := true },
    apiStep .getKeyboardMode "query keyboard mode" fun reply session =>
      { session with
        savedKeyboardMode := reply.keyboardMode
        haveKeyboardMode := true },
    apiStep (.activate number) "activate virtual terminal" fun _ session =>
      { session with activated := true },
    apiStep (.waitUntilActive number) "wait for active virtual terminal"
      fun _ session => session,
    apiStep (.setKeyboardMode keyboardOff)
      "disable virtual-terminal keyboard processing" fun _ session =>
        { session with keyboardModeSet := true },
    apiStep (.setProcessMode signals.releaseSignal signals.acquireSignal)
      "set VT_PROCESS mode" fun _ session =>
        { session with processModeSet := true },
    apiStep .setGraphicsMode "set KD_GRAPHICS mode" fun _ session =>
      { session with graphicsModeSet := true },
    { call := .acquireMaster
      failure := fun reply =>
        if reply.succeeds then none
        else some (displayError "acquire DRM master" reply)
      done := fun _ session => { session with masterOwned := true } }]

/-- The steps in their order: the first that fails unwinds what is done. -/
def acquireFrom (replies : Replies) : List AcquireStep → SessionRun → Outcome
  | [], run =>
      { succeeded := true
        run := run.update fun session => { session with state := .active } }
  | step :: later, run =>
      let reply := run.replyTo replies
      let after := run.record replies step.call
      match step.failure reply with
      | none => acquireFrom replies later (after.update (step.done reply))
      | some error =>
          let undoing : Undoing :=
            Undoing.unwindFailedAcquire replies { run := after, error }
          { succeeded := false, error := undoing.error, run := undoing.run }

def acquire (replies : Replies) (path : String)
    (signals : VirtualTerminalSignals) (run : SessionRun) : Outcome :=
  if run.session.state ≠ .empty then
    { succeeded := false
      error := "virtual-terminal session was already initialized"
      run }
  else if signals.releaseSignal ≤ 0 || signals.acquireSignal ≤ 0 ||
      signals.releaseSignal = signals.acquireSignal then
    { succeeded := false
      error :=
        "VT release and acquire signals must be distinct positive values"
      run }
  else
    match parseVirtualTerminalPath path with
    | none =>
        { succeeded := false
          error := "tty path must be exactly /dev/ttyN for VT 1 through 63"
          run := run.update fun session =>
            { session with terminalNumber := 0 } }
    | some number =>
        let numbered := run.update fun session =>
          { session with terminalNumber := number }
        let reply := numbered.replyTo replies
        let opened := (numbered.record replies (.openTerminal path)).update
          fun session => { session with terminalFd := reply.descriptor }
        if reply.descriptor < 0 then
          { succeeded := false
            error := apiError "open virtual terminal" reply
            run := opened }
        else acquireFrom replies (acquireSteps number signals) opened

/-! ## Switching -/

/-- A step of a switch that fails leaves the session failed. -/
def SessionRun.fail (run : SessionRun) (error : String) : Outcome where
  succeeded := false
  error := error
  run := run.update fun session => { session with state := .failed }

def release (replies : Replies) (run : SessionRun) : Outcome :=
  if run.session.state ≠ .active then
    { succeeded := false
      error := "VT release requires an active direct session"
      run }
  else
    let reply := run.replyTo replies
    let quiet := run.record replies .quiescePendingFlip
    if !reply.succeeds then
      quiet.fail (displayError "quiesce pending page flip" reply)
    else
      let reply := quiet.replyTo replies
      let dropped := quiet.record replies .dropMaster
      if !reply.succeeds then
        dropped.fail (displayError "drop DRM master for VT release" reply)
      else
        let free := dropped.update fun session =>
          { session with masterOwned := false }
        let reply := free.replyTo replies
        let told := free.record replies .acknowledgeRelease
        if !reply.succeeds then
          told.fail (apiError "acknowledge VT release" reply)
        else
          { succeeded := true
            run := told.update fun session =>
              { session with state := .suspended } }

def reacquire (replies : Replies) (run : SessionRun) : Outcome :=
  if run.session.state ≠ .suspended then
    { succeeded := false
      error := "VT acquire requires a suspended direct session"
      run }
  else
    let reply := run.replyTo replies
    let told := run.record replies .acknowledgeAcquire
    if !reply.succeeds then
      told.fail (apiError "acknowledge VT acquire" reply)
    else
      let reply := told.replyTo replies
      let gained := told.record replies .acquireMaster
      if !reply.succeeds then
        gained.fail (displayError "reacquire DRM master" reply)
      else
        let owned := gained.update fun session =>
          { session with masterOwned := true }
        let reply := owned.replyTo replies
        let shown := owned.record replies .presentCommittedFrame
        if !reply.succeeds then
          shown.fail (displayError "full modeset of committed frame" reply)
        else
          { succeeded := true
            run := shown.update fun session =>
              { session with state := .active } }

end Glasswyrm.Session
