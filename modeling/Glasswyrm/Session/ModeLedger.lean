import Glasswyrm.Session.VtSession

namespace Glasswyrm.Session

/-! What the calls of a session say about the modes of its terminal: which
were set, which are to be written back, and where the values come from. -/

/-- The settings of a terminal that a session changes. -/
inductive ConsoleMode where
  | activeTerminal
  | keyboard
  | vtMode
  | kdMode
deriving DecidableEq, Repr

/-- The order in which they are changed. -/
def acquisitionOrder : List ConsoleMode :=
  [.activeTerminal, .keyboard, .vtMode, .kdMode]

namespace Call

def sets : Call → Option ConsoleMode
  | activate _ => some .activeTerminal
  | setKeyboardMode _ => some .keyboard
  | setProcessMode _ _ | setMode _ => some .vtMode
  | setGraphicsMode | setKdMode _ => some .kdMode
  | _ => none

def reads : Call → Option ConsoleMode
  | getState => some .activeTerminal
  | getKeyboardMode => some .keyboard
  | getMode => some .vtMode
  | getKdMode => some .kdMode
  | _ => none

end Call

/-- The call that sets a mode to the value read in the reply. -/
def Reply.writeBack (reply : Reply) : ConsoleMode → Call
  | .activeTerminal => .activate reply.state.active
  | .keyboard => .setKeyboardMode reply.keyboardMode
  | .vtMode => .setMode reply.mode
  | .kdMode => .setKdMode reply.kdMode

namespace DirectVirtualTerminalSession

/-- The call that sets a mode to its saved value. -/
def writeBack (session : DirectVirtualTerminalSession) : ConsoleMode → Call
  | .activeTerminal => .activate session.savedState.active
  | .keyboard => .setKeyboardMode session.savedKeyboardMode
  | .vtMode => .setMode session.savedMode
  | .kdMode => .setKdMode session.savedKdMode

def saved (session : DirectVirtualTerminalSession) : ConsoleMode → Bool
  | .activeTerminal => session.haveState
  | .keyboard => session.haveKeyboardMode
  | .vtMode => session.haveMode
  | .kdMode => session.haveKdMode

def changed (session : DirectVirtualTerminalSession) : ConsoleMode → Bool
  | .activeTerminal => session.activated
  | .keyboard => session.keyboardModeSet
  | .vtMode => session.processModeSet
  | .kdMode => session.graphicsModeSet

/-- A terminal that was active anyway is not switched away from. -/
def due (session : DirectVirtualTerminalSession) (kind : ConsoleMode) : Bool :=
  session.changed kind && session.saved kind &&
    session.writeBack kind ≠ .activate session.terminalNumber

/-- The modes, and what is known of them, are the same. -/
structure SameModes (before after : DirectVirtualTerminalSession) : Prop where
  terminalNumber : after.terminalNumber = before.terminalNumber
  changed : ∀ kind, after.changed kind = before.changed kind
  saved : ∀ kind, after.saved kind = before.saved kind
  writeBack : ∀ kind, after.writeBack kind = before.writeBack kind

theorem SameModes.refl (session : DirectVirtualTerminalSession) :
    SameModes session session :=
  ⟨rfl, fun _ => rfl, fun _ => rfl, fun _ => rfl⟩

theorem SameModes.trans {first second third : DirectVirtualTerminalSession}
    (early : SameModes first second) (late : SameModes second third) :
    SameModes first third where
  terminalNumber := late.terminalNumber.trans early.terminalNumber
  changed kind := (late.changed kind).trans (early.changed kind)
  saved kind := (late.saved kind).trans (early.saved kind)
  writeBack kind := (late.writeBack kind).trans (early.writeBack kind)

/-- Whether the session has the display says nothing about the modes. -/
theorem sameModes_master (session : DirectVirtualTerminalSession)
    (owned : Bool) : SameModes session { session with masterOwned := owned } :=
  ⟨rfl, fun kind => by cases kind <;> rfl, fun kind => by cases kind <;> rfl,
    fun kind => by cases kind <;> rfl⟩

theorem sameModes_state (session : DirectVirtualTerminalSession)
    (state : DirectSessionState) : SameModes session { session with state } :=
  ⟨rfl, fun kind => by cases kind <;> rfl, fun kind => by cases kind <;> rfl,
    fun kind => by cases kind <;> rfl⟩

theorem sameModes_terminal (session : DirectVirtualTerminalSession)
    (fd : Int) : SameModes session { session with terminalFd := fd } :=
  ⟨rfl, fun kind => by cases kind <;> rfl, fun kind => by cases kind <;> rfl,
    fun kind => by cases kind <;> rfl⟩

end DirectVirtualTerminalSession

open DirectVirtualTerminalSession

/-! ## The settings in a list of calls -/

def settings (kind : ConsoleMode) (calls : List CallRecord) :
    List CallRecord :=
  calls.filter fun record => record.call.sets = some kind

def lastSetting (kind : ConsoleMode) (calls : List CallRecord) :
    Option CallRecord :=
  (settings kind calls).getLast?

/-- Some call did set the mode. -/
def Changed (kind : ConsoleMode) (calls : List CallRecord) : Prop :=
  ∃ record ∈ settings kind calls, record.reply.succeeds = true

/-- If the mode was ever set, its saved value is what it was set to last, or
what the last call tried to set it to. -/
def Settled (kind : ConsoleMode) (run : SessionRun) : Prop :=
  Changed kind run.calls → ∃ record, lastSetting kind run.calls = some record ∧
    record.call = run.session.writeBack kind

section

variable {kind : ConsoleMode} {calls added : List CallRecord}
  {record : CallRecord}

theorem settings_append :
    settings kind (calls ++ added) =
      settings kind calls ++ settings kind added :=
  List.filter_append ..

theorem lastSetting_setting (sets : record.call.sets = some kind) :
    lastSetting kind (calls ++ [record]) = some record := by
  unfold lastSetting
  rw [settings_append, settings, settings, List.filter_cons_of_pos (by simpa)]
  simp

theorem lastSetting_silent (silent : settings kind added = []) :
    lastSetting kind (calls ++ added) = lastSetting kind calls := by
  unfold lastSetting
  rw [settings_append, silent, List.append_nil]

theorem changed_silent (silent : settings kind added = []) :
    Changed kind (calls ++ added) ↔ Changed kind calls := by
  unfold Changed
  rw [settings_append, silent, List.append_nil]

theorem settings_other (other : record.call.sets ≠ some kind) :
    settings kind [record] = [] := by
  simp [settings, other]

end

/-- The terminal with the number was opened. -/
def Owns (calls : List CallRecord) (number : Nat) : Prop :=
  ∃ record ∈ calls, ∃ path, record.call = .openTerminal path ∧
    parseVirtualTerminalPath path = some number

/-- A call sets a mode to what the session wants of its own terminal, or else
to a value that was read before. -/
def Call.Justified (before : List CallRecord) (call : Call) : Prop :=
  ∀ kind, call.sets = some kind →
    (call = .setKeyboardMode keyboardOff ∨ call = .setGraphicsMode ∨
      (∃ releaseSignal acquireSignal,
        call = .setProcessMode releaseSignal acquireSignal) ∨
      ∃ number, call = .activate number ∧ Owns before number) ∨
    ∃ record ∈ before, record.call.reads = some kind ∧
      record.reply.succeeds = true ∧ call = record.reply.writeBack kind

/-- Every call of the list is justified by those before it. -/
def AllJustified (calls : List CallRecord) : Prop :=
  ∀ before record after, calls = before ++ record :: after →
    record.call.Justified before

theorem AllJustified.snoc {calls : List CallRecord} {record : CallRecord}
    (all : AllJustified calls) (last : record.call.Justified calls) :
    AllJustified (calls ++ [record]) := by
  intro before other after split
  rcases List.eq_nil_or_concat after with rfl | ⟨later, final, rfl⟩
  · obtain ⟨rfl, same⟩ := List.append_inj' split rfl
    obtain rfl := List.singleton_inj.mp same
    exact last
  · rw [List.concat_eq_append, ← List.cons_append, ← List.append_assoc]
      at split
    exact all before other later (List.append_inj' split rfl).1

theorem AllJustified.append {calls added : List CallRecord}
    (all : AllJustified calls)
    (silent : ∀ record ∈ added, record.call.sets = none) :
    AllJustified (calls ++ added) := by
  induction added generalizing calls with
  | nil => rwa [List.append_nil]
  | cons record rest ih =>
      obtain ⟨here, later⟩ := List.forall_mem_cons.mp silent
      rw [List.append_cons]
      refine ih (all.snoc ?_) later
      intro kind sets
      rw [here] at sets
      cases sets

/-! ## The state of a run -/

/-- What holds as long as the terminal is the session's. -/
structure Tracks (run : SessionRun) : Prop where
  justified : AllJustified run.calls
  numbered : Owns run.calls run.session.terminalNumber
  backed : ∀ kind, run.session.saved kind = true →
    ∃ record ∈ run.calls, record.call.reads = some kind ∧
      record.reply.succeeds = true ∧
      run.session.writeBack kind = record.reply.writeBack kind
  held : ∀ kind, run.session.changed kind = true →
    run.session.saved kind = true
  nested : run.session.changed .kdMode = true →
    run.session.changed .activeTerminal = true
  own : run.session.changed .activeTerminal = true →
    ∃ record, lastSetting .activeTerminal run.calls = some record ∧
      record.call = .activate run.session.terminalNumber
  clean : ∀ kind, run.session.changed kind = false → Settled kind run

/-- Calls that set no mode, and a session that knows the same of the modes. -/
structure Silent (before after : SessionRun) : Prop where
  calls : ∃ added, after.calls = before.calls ++ added ∧
    ∀ record ∈ added, record.call.sets = none
  modes : SameModes before.session after.session

namespace Silent

variable {before after : SessionRun}

theorem refl (run : SessionRun) : Silent run run :=
  ⟨⟨[], by simp⟩, .refl _⟩

theorem trans {first second third : SessionRun} (early : Silent first second)
    (late : Silent second third) : Silent first third := by
  obtain ⟨earlier, firstCalls, firstSilent⟩ := early.calls
  obtain ⟨later, secondCalls, secondSilent⟩ := late.calls
  refine ⟨⟨earlier ++ later, ?_, ?_⟩, early.modes.trans late.modes⟩
  · rw [secondCalls, firstCalls, List.append_assoc]
  · exact List.forall_mem_append.mpr ⟨firstSilent, secondSilent⟩

theorem record (replies : Replies) (run : SessionRun) (call : Call)
    (sets : call.sets = none) : Silent run (run.record replies call) :=
  ⟨⟨_, rfl, List.forall_mem_singleton.mpr sets⟩, .refl _⟩

theorem update (run : SessionRun)
    {change : DirectVirtualTerminalSession → DirectVirtualTerminalSession}
    (same : SameModes run.session (change run.session)) :
    Silent run (run.update change) :=
  ⟨⟨[], by simp [SessionRun.update]⟩, same⟩

theorem mastered (run : SessionRun) (owned : Bool) :
    Silent run (run.update fun session =>
      { session with masterOwned := owned }) :=
  update run (sameModes_master run.session owned)

theorem stated (run : SessionRun) (state : DirectSessionState) :
    Silent run (run.update fun session => { session with state }) :=
  update run (sameModes_state run.session state)

theorem closed (run : SessionRun) (fd : Int) (state : DirectSessionState) :
    Silent run (run.update fun session =>
      { session with terminalFd := fd, state }) :=
  update run ((sameModes_terminal run.session fd).trans
    (sameModes_state _ state))

theorem settings_nil {added : List CallRecord} (kind : ConsoleMode)
    (silent : ∀ record ∈ added, record.call.sets = none) :
    settings kind added = [] := by
  refine List.filter_eq_nil_iff.mpr fun record member => ?_
  simp [silent record member]

theorem lastSetting_eq (silent : Silent before after) (kind : ConsoleMode) :
    lastSetting kind after.calls = lastSetting kind before.calls := by
  obtain ⟨added, calls, quiet⟩ := silent.calls
  rw [calls, lastSetting_silent (settings_nil kind quiet)]

theorem changed_iff (silent : Silent before after) (kind : ConsoleMode) :
    Changed kind after.calls ↔ Changed kind before.calls := by
  obtain ⟨added, calls, quiet⟩ := silent.calls
  rw [calls, changed_silent (settings_nil kind quiet)]

theorem settled (silent : Silent before after) {kind : ConsoleMode}
    (settled : Settled kind before) : Settled kind after := by
  intro set
  rw [silent.lastSetting_eq, silent.modes.writeBack]
  exact settled ((silent.changed_iff kind).mp set)

theorem member (silent : Silent before after) {record : CallRecord}
    (member : record ∈ before.calls) : record ∈ after.calls := by
  obtain ⟨added, calls, _⟩ := silent.calls
  rw [calls]
  exact List.mem_append_left _ member

theorem justified (silent : Silent before after)
    (justified : AllJustified before.calls) : AllJustified after.calls := by
  obtain ⟨added, calls, quiet⟩ := silent.calls
  rw [calls]
  exact justified.append quiet

theorem tracks (silent : Silent before after) (tracks : Tracks before) :
    Tracks after where
  justified := silent.justified tracks.justified
  numbered := by
    obtain ⟨record, member, named⟩ := tracks.numbered
    rw [silent.modes.terminalNumber]
    exact ⟨record, silent.member member, named⟩
  backed kind saved := by
    rw [silent.modes.saved] at saved
    obtain ⟨record, member, read⟩ := tracks.backed kind saved
    rw [silent.modes.writeBack]
    exact ⟨record, silent.member member, read⟩
  held kind set := by
    rw [silent.modes.changed] at set
    rw [silent.modes.saved]
    exact tracks.held kind set
  nested set := by
    rw [silent.modes.changed] at set ⊢
    exact tracks.nested set
  own set := by
    rw [silent.modes.changed] at set
    rw [silent.lastSetting_eq, silent.modes.terminalNumber]
    exact tracks.own set
  clean kind unset := by
    rw [silent.modes.changed] at unset
    exact silent.settled (tracks.clean kind unset)

end Silent

end Glasswyrm.Session
