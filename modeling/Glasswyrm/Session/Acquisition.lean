import Glasswyrm.Session.Restoration

namespace Glasswyrm.Session

open DirectVirtualTerminalSession

/-! Acquiring a terminal step by step.  Whichever step fails, what the steps
before it have changed is due, and nothing else. -/

variable {replies : Replies} {start run : SessionRun}

/-- A step notes in the session what its call has read or set. -/
structure Marks (step : AcquireStep) : Prop where
  passes : ∀ reply, step.failure reply = none → reply.succeeds = true
  fails : ∀ reply error, step.failure reply = some error →
    reply.succeeds = true → step.call.sets = none
  wanted : ∀ kind, step.call.sets = some kind →
    step.call = .setKeyboardMode keyboardOff ∨ step.call = .setGraphicsMode ∨
      (∃ releaseSignal acquireSignal,
        step.call = .setProcessMode releaseSignal acquireSignal) ∨
      ∃ number, step.call = .activate number
  terminalNumber : ∀ reply session,
    (step.done reply session).terminalNumber = session.terminalNumber
  changed : ∀ reply session kind, (step.done reply session).changed kind =
    (session.changed kind || decide (step.call.sets = some kind))
  saved : ∀ reply session kind, (step.done reply session).saved kind =
    (session.saved kind || decide (step.call.reads = some kind))
  writeBack : ∀ reply session kind, (step.done reply session).writeBack kind =
    if step.call.reads = some kind then reply.writeBack kind
    else session.writeBack kind

/-- A mode is saved before it is changed, and changed in its turn. -/
structure Ready (session : DirectVirtualTerminalSession) (call : Call) :
    Prop where
  saved : ∀ kind, call.sets = some kind → session.saved kind = true
  own : call.sets = some .activeTerminal →
    call = .activate session.terminalNumber
  nested : call.sets = some .kdMode →
    session.changed .activeTerminal = true
  inTurn : ∀ kind, call.sets = some kind →
    acquisitionOrder.filter (fun other =>
        session.changed other || decide (some kind = some other)) =
      acquisitionOrder.filter (fun other => session.changed other) ++ [kind]
  unread : ∀ kind, call.reads = some kind → session.changed kind = false

theorem Ready.unset {session : DirectVirtualTerminalSession} {call : Call}
    (ready : Ready session call) {kind : ConsoleMode}
    (sets : call.sets = some kind) : session.changed kind = false := by
  cases set : session.changed kind with
  | false => rfl
  | true =>
      have longer := congrArg List.length (ready.inTurn kind sets)
      have same : (fun other => session.changed other ||
          decide (some kind = some other)) =
            fun other => session.changed other := by
        funext other
        by_cases here : kind = other
        · rw [← here, set]
          rfl
        · simp [here]
      rw [same, List.length_append, List.length_singleton] at longer
      omega

def ReadyAll : List AcquireStep → DirectVirtualTerminalSession → Prop
  | [], _ => True
  | step :: later, session =>
      Ready session step.call ∧
        ∀ reply, ReadyAll later (step.done reply session)

theorem Ready.of_silent {session : DirectVirtualTerminalSession} {call : Call}
    (sets : call.sets = none) (reads : call.reads = none) :
    Ready session call where
  saved kind same := by
    rw [sets] at same
    cases same
  own same := by
    rw [sets] at same
    cases same
  nested same := by
    rw [sets] at same
    cases same
  inTurn kind same := by
    rw [sets] at same
    cases same
  unread kind same := by
    rw [reads] at same
    cases same

theorem marks_apiStep {call : Call} {operation : String}
    {done : Reply → DirectVirtualTerminalSession →
      DirectVirtualTerminalSession}
    (wanted : ∀ kind, call.sets = some kind →
      call = .setKeyboardMode keyboardOff ∨ call = .setGraphicsMode ∨
        (∃ releaseSignal acquireSignal,
          call = .setProcessMode releaseSignal acquireSignal) ∨
        ∃ number, call = .activate number)
    (terminalNumber : ∀ reply session,
      (done reply session).terminalNumber = session.terminalNumber)
    (changed : ∀ reply session kind, (done reply session).changed kind =
      (session.changed kind || decide (call.sets = some kind)))
    (saved : ∀ reply session kind, (done reply session).saved kind =
      (session.saved kind || decide (call.reads = some kind)))
    (writeBack : ∀ reply session kind, (done reply session).writeBack kind =
      if call.reads = some kind then reply.writeBack kind
      else session.writeBack kind) :
    Marks (apiStep call operation done) where
  passes reply passed := by
    unfold apiStep at passed
    cases succeeds : reply.succeeds <;> simp [succeeds] at passed ⊢
  fails reply error failed succeeds := by
    unfold apiStep at failed
    simp [succeeds] at failed
  wanted := wanted
  terminalNumber := terminalNumber
  changed := changed
  saved := saved
  writeBack := writeBack

theorem marks_acquireSteps (number : Nat) (signals : VirtualTerminalSignals) :
    ∀ step ∈ acquireSteps number signals, Marks step := by
  simp only [acquireSteps, List.forall_mem_cons, List.not_mem_nil,
    false_implies, implies_true, and_true]
  refine ⟨?_, ?_, ?_, ?_, ?_, ?_, ?_, ?_, ?_, ?_, ?_⟩
  case refine_1 =>
    constructor
    · intro reply passed
      unfold identificationFailure at passed
      cases succeeds : reply.succeeds <;> simp [succeeds] at passed ⊢
    all_goals simp [Call.sets, Call.reads]
  case refine_11 =>
    constructor
    · intro reply passed
      cases succeeds : reply.succeeds <;> simp [succeeds] at passed ⊢
    all_goals simp [Call.sets, Call.reads, changed, saved, writeBack]
  all_goals
    refine marks_apiStep ?_ (fun _ _ => rfl) ?_ ?_ ?_
    · simp [Call.sets]
    all_goals
      intro reply session kind
      cases kind <;> simp [Call.sets, Call.reads, changed, saved, writeBack,
        Reply.writeBack]

theorem acquireSteps_ready (signals : VirtualTerminalSignals)
    {session : DirectVirtualTerminalSession}
    (unchanged : ∀ kind, session.changed kind = false) :
    ReadyAll (acquireSteps session.terminalNumber signals) session := by
  have active := unchanged .activeTerminal
  have keyboard := unchanged .keyboard
  have vtMode := unchanged .vtMode
  have kdMode := unchanged .kdMode
  simp only [changed] at active keyboard vtMode kdMode
  simp only [acquireSteps, ReadyAll, apiStep]
  refine ⟨.of_silent rfl rfl, fun _ => ⟨?_, fun _ => ⟨?_, fun _ => ⟨?_,
    fun _ => ⟨?_, fun _ => ⟨?_, fun _ => ⟨.of_silent rfl rfl, fun _ => ⟨?_,
      fun _ => ⟨?_, fun _ => ⟨?_, fun _ => ⟨.of_silent rfl rfl,
        fun _ => trivial⟩⟩⟩⟩⟩⟩⟩⟩⟩⟩⟩
  all_goals
    constructor <;> simp [Call.sets, Call.reads, changed, saved,
      acquisitionOrder, List.filter_cons, active, keyboard, vtMode, kdMode]

/-! ## The state between two steps -/

/-- The modes that were set, in their order. -/
def changedModes (calls : List CallRecord) : List ConsoleMode :=
  calls.filterMap fun record =>
    if record.reply.succeeds then record.call.sets else none

theorem changedModes_append (first second : List CallRecord) :
    changedModes (first ++ second) =
      changedModes first ++ changedModes second :=
  List.filterMap_append ..

/-- After the calls `made` nothing else has been changed. -/
structure Acquiring (start : SessionRun) (made : List Call)
    (run : SessionRun) : Prop where
  tracks : Tracks run
  untouched : ∀ kind, run.session.changed kind = false →
    ¬Changed kind run.calls
  forward : ∃ forward, run.calls = start.calls ++ forward ∧
    forward.map (·.call) = made ∧
    changedModes forward =
      acquisitionOrder.filter (fun kind => run.session.changed kind)

/-- The session is ready for the call of a step. -/
theorem Acquiring.justified {made : List Call}
    (acquiring : Acquiring start made run) {step : AcquireStep}
    (marks : Marks step) (ready : Ready run.session step.call) :
    AllJustified (run.record replies step.call).calls := by
  refine acquiring.tracks.justified.snoc ?_
  intro kind sets
  refine .inl ?_
  obtain wanted | wanted | wanted | ⟨number, call⟩ := marks.wanted kind sets
  · exact .inl wanted
  · exact .inr (.inl wanted)
  · exact .inr (.inr (.inl wanted))
  · have own : step.call = .activate run.session.terminalNumber := by
      refine ready.own ?_
      rw [call]
      rfl
    exact .inr (.inr (.inr ⟨_, own, acquiring.tracks.numbered⟩))

/-- A mode that the call does not set is as it was. -/
theorem Acquiring.other {made : List Call}
    (acquiring : Acquiring start made run) {call : Call} {kind : ConsoleMode}
    (unset : run.session.changed kind = false)
    (unchanged : call.sets = some kind →
      (run.replyTo replies).succeeds = false) :
    ¬Changed kind (run.record replies call).calls := by
  rintro ⟨record, member, succeeds⟩
  rw [SessionRun.record, settings_append] at member
  obtain earlier | last := List.mem_append.mp member
  · exact acquiring.untouched kind unset ⟨record, earlier, succeeds⟩
  · obtain ⟨here, sets⟩ := List.mem_filter.mp last
    obtain rfl := List.mem_singleton.mp here
    rw [unchanged (of_decide_eq_true sets)] at succeeds
    cases succeeds

/-- A call that fails leaves what is due as it was. -/
theorem Acquiring.failed {made : List Call}
    (acquiring : Acquiring start made run) {step : AcquireStep}
    (marks : Marks step) (ready : Ready run.session step.call) {error : String}
    (failed : step.failure (run.replyTo replies) = some error) :
    Tracks (run.record replies step.call) ∧
      ∃ forward, (run.record replies step.call).calls =
          start.calls ++ forward ∧
        forward.map (·.call) = made ++ [step.call] ∧
        changedModes forward =
          acquisitionOrder.filter (fun kind => run.session.changed kind) := by
  have unsuccessful : ∀ kind, step.call.sets = some kind →
      (run.replyTo replies).succeeds = false := by
    intro kind sets
    cases succeeds : (run.replyTo replies).succeeds with
    | false => rfl
    | true =>
        rw [marks.fails _ _ failed succeeds] at sets
        cases sets
  constructor
  · refine ⟨acquiring.justified marks ready, ?_, ?_, acquiring.tracks.held,
      acquiring.tracks.nested, ?_, ?_⟩
    · obtain ⟨record, member, named⟩ := acquiring.tracks.numbered
      exact ⟨record, List.mem_append_left _ member, named⟩
    · intro kind saved
      obtain ⟨record, member, read⟩ := acquiring.tracks.backed kind saved
      exact ⟨record, List.mem_append_left _ member, read⟩
    · intro set
      obtain ⟨record, last, call⟩ := acquiring.tracks.own set
      refine ⟨record, ?_, call⟩
      rw [SessionRun.record, lastSetting_silent (settings_other ?_)]
      · exact last
      · intro sets
        rw [SessionRun.record_session, ready.unset sets] at set
        cases set
    · intro kind unset set
      exact absurd set (acquiring.other unset (unsuccessful kind))
  · obtain ⟨forward, calls, same, changes⟩ := acquiring.forward
    refine ⟨forward ++ [⟨run.session.terminalFd, step.call,
      run.replyTo replies⟩], ?_, ?_, ?_⟩
    · rw [SessionRun.record, calls, List.append_assoc]
    · rw [List.map_append, same]
      rfl
    · rw [changedModes_append, changes, changedModes]
      cases sets : step.call.sets with
      | none => simp [sets]
      | some kind => simp [unsuccessful kind sets]

/-- A call that succeeds sets its mode, if any, and makes it due. -/
theorem Acquiring.passed {made : List Call}
    (acquiring : Acquiring start made run) {step : AcquireStep}
    (marks : Marks step) (ready : Ready run.session step.call)
    (passed : step.failure (run.replyTo replies) = none) :
    Acquiring start (made ++ [step.call])
      ((run.record replies step.call).update
        (step.done (run.replyTo replies))) := by
  have succeeds := marks.passes _ passed
  have changedNow := marks.changed (run.replyTo replies) run.session
  have savedNow := marks.saved (run.replyTo replies) run.session
  have valueNow := marks.writeBack (run.replyTo replies) run.session
  have numberNow := marks.terminalNumber (run.replyTo replies) run.session
  have untouched : ∀ kind,
      (step.done (run.replyTo replies) run.session).changed kind = false →
        ¬Changed kind (run.record replies step.call).calls := by
    intro kind unset
    rw [changedNow, Bool.or_eq_false_iff] at unset
    exact acquiring.other unset.1 fun sets => absurd sets
      (of_decide_eq_false unset.2)
  refine ⟨⟨acquiring.justified marks ready, ?_, ?_, ?_, ?_, ?_, ?_⟩,
    untouched, ?_⟩
  · obtain ⟨record, member, named⟩ := acquiring.tracks.numbered
    exact ⟨record, List.mem_append_left _ member, numberNow ▸ named⟩
  · intro kind saved
    rw [SessionRun.update_session, SessionRun.record_session, savedNow] at saved
    rw [SessionRun.update_session, SessionRun.record_session, valueNow]
    by_cases reads : step.call.reads = some kind
    · rw [if_pos reads]
      exact ⟨_, List.mem_append_right _ (List.mem_singleton.mpr rfl), reads,
        succeeds, rfl⟩
    · rw [if_neg reads]
      rw [decide_eq_false reads, Bool.or_false] at saved
      obtain ⟨record, member, read⟩ := acquiring.tracks.backed kind saved
      exact ⟨record, List.mem_append_left _ member, read⟩
  · intro kind set
    rw [SessionRun.update_session, SessionRun.record_session, changedNow,
      Bool.or_eq_true] at set
    rw [SessionRun.update_session, SessionRun.record_session, savedNow,
      Bool.or_eq_true]
    obtain earlier | now := set
    · exact .inl (acquiring.tracks.held kind earlier)
    · exact .inl (ready.saved kind (of_decide_eq_true now))
  · intro set
    rw [SessionRun.update_session, SessionRun.record_session, changedNow,
      Bool.or_eq_true] at set ⊢
    obtain earlier | now := set
    · exact .inl (acquiring.tracks.nested earlier)
    · exact .inl (ready.nested (of_decide_eq_true now))
  · intro set
    rw [SessionRun.update_session, SessionRun.record_session, changedNow,
      Bool.or_eq_true] at set
    rw [SessionRun.update_session, SessionRun.record_session, numberNow]
    by_cases sets : step.call.sets = some .activeTerminal
    · exact ⟨_, lastSetting_setting sets, ready.own sets⟩
    · have earlier := set.resolve_right fun now =>
        sets (of_decide_eq_true now)
      obtain ⟨record, last, call⟩ := acquiring.tracks.own earlier
      exact ⟨record, (lastSetting_silent (settings_other sets)).trans last,
        call⟩
  · exact fun kind unset set => absurd set (untouched kind unset)
  · obtain ⟨forward, calls, same, changes⟩ := acquiring.forward
    refine ⟨forward ++ [⟨run.session.terminalFd, step.call,
      run.replyTo replies⟩], ?_, ?_, ?_⟩
    · rw [SessionRun.update_calls, SessionRun.record_calls, calls,
        List.append_assoc]
    · rw [List.map_append, same]
      rfl
    · rw [SessionRun.update_session, SessionRun.record_session,
        changedModes_append, changes, changedModes]
      simp only [changedNow]
      cases sets : step.call.sets with
      | none => simp [sets]
      | some kind =>
          rw [ready.inTurn kind sets]
          simp [sets, succeeds]

/-! ## All steps -/

/-- The calls that put modes back, the last one changed first; the terminal
that was active anyway stays active. -/
def undoOf (session : DirectVirtualTerminalSession)
    (kinds : List ConsoleMode) : List Call :=
  (kinds.reverse.filter fun kind =>
    session.writeBack kind ≠ .activate session.terminalNumber).map
      session.writeBack

theorem owed_eq {kinds : List ConsoleMode} (tracks : Tracks run)
    (changes : kinds =
      acquisitionOrder.filter fun kind => run.session.changed kind) :
    Undoing.owed run.session = undoOf run.session kinds := by
  unfold Undoing.owed undoOf
  rw [changes, ← List.filter_reverse, List.filter_filter]
  congr 1
  refine List.filter_congr fun kind _ => ?_
  unfold due
  cases set : run.session.changed kind with
  | false => simp
  | true => simp [tracks.held kind set]

/-- Every change made by the steps is taken back. -/
structure TakenBack (start : SessionRun) (calls : List Call)
    (after : SessionRun) : Prop where
  tracks : Tracks after
  failed : after.session.state = .failed
  settled : ∀ kind, Settled kind after
  undone : ∃ forward undo, after.calls = start.calls ++ forward ++ undo ∧
    forward.map (·.call) <+: calls ∧
    settingCalls undo = undoOf after.session (changedModes forward)

theorem undoOf_congr {first second : DirectVirtualTerminalSession}
    (number : second.terminalNumber = first.terminalNumber)
    (values : ∀ kind, second.writeBack kind = first.writeBack kind)
    (kinds : List ConsoleMode) : undoOf second kinds = undoOf first kinds := by
  unfold undoOf
  rw [number, show second.writeBack = first.writeBack from funext values]

theorem unwind_takesBack {undoing : Undoing} {calls made : List Call}
    (tracks : Tracks undoing.run) (initial : made <+: calls)
    (forward : ∃ forward, undoing.run.calls = start.calls ++ forward ∧
      forward.map (·.call) = made ∧
      changedModes forward =
        acquisitionOrder.filter (fun kind => undoing.run.session.changed kind)) :
    TakenBack start calls (undoing.unwindFailedAcquire replies).run := by
  have dropped : Silent undoing.run (undoing.dropMaster replies).run :=
    Undoing.dropMaster_silent
  obtain ⟨settled, _, tracked, ⟨added, written, owed⟩, number, values⟩ :=
    Undoing.writeBackAll_settles replies true "cleanup KD mode"
      "cleanup VT mode" "cleanup keyboard mode"
      "cleanup previous virtual terminal" "cleanup previous virtual terminal"
      (dropped.tracks tracks)
  have closed := @Undoing.closeTerminal_silent replies
    (Undoing.writeBackAll replies true "cleanup KD mode" "cleanup VT mode"
      "cleanup keyboard mode" "cleanup previous virtual terminal"
      "cleanup previous virtual terminal" (undoing.dropMaster replies)) .failed
  obtain ⟨quiet, droppedCalls, first⟩ := dropped.calls
  obtain ⟨last, closedCalls, final⟩ := closed.calls
  obtain ⟨forward, calls, same, changes⟩ := forward
  refine ⟨closed.tracks (tracked rfl), rfl, fun kind =>
    closed.settled (settled kind), forward, quiet ++ added ++ last, ?_,
    same ▸ initial, ?_⟩
  · refine closedCalls.trans ?_
    rw [written, droppedCalls, calls]
    simp only [List.append_assoc]
  · rw [settingCalls_append, settingCalls_append, settingCalls_silent first,
      settingCalls_silent final, owed, Undoing.owed_congr dropped.modes,
      owed_eq tracks changes, List.nil_append, List.append_nil]
    refine (undoOf_congr ?_ ?_ _).symm
    · exact closed.modes.terminalNumber.trans
        (number.trans dropped.modes.terminalNumber)
    · exact fun kind => (closed.modes.writeBack kind).trans
        ((values kind).trans (dropped.modes.writeBack kind))

/-- Either the terminal is acquired, or it is as it was. -/
theorem acquireFrom_cases {steps : List AcquireStep} {made : List Call}
    (acquiring : Acquiring start made run)
    (ready : ReadyAll steps run.session)
    (marks : ∀ step ∈ steps, Marks step) :
    ((acquireFrom replies steps run).succeeded = true ∧
        (acquireFrom replies steps run).run.session.state = .active ∧
        Tracks (acquireFrom replies steps run).run) ∨
      ((acquireFrom replies steps run).succeeded = false ∧
        TakenBack start (made ++ steps.map (·.call))
          (acquireFrom replies steps run).run) := by
  induction steps generalizing run made with
  | nil =>
      exact .inl ⟨rfl, rfl, (Silent.stated run .active).tracks
        acquiring.tracks⟩
  | cons step later ih =>
      obtain ⟨here, others⟩ := List.forall_mem_cons.mp marks
      obtain ⟨first, rest⟩ := ready
      unfold acquireFrom
      dsimp only
      split
      · rename_i passed
        have onward := ih (acquiring.passed here first passed) (rest _) others
        rwa [List.append_assoc, List.singleton_append] at onward
      · rename_i error failed
        obtain ⟨tracks, forward⟩ := acquiring.failed here first failed
        refine .inr ⟨rfl, unwind_takesBack tracks ?_ forward⟩
        exact ⟨later.map (·.call), by simp⟩

end Glasswyrm.Session
