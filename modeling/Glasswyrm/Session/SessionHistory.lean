import Glasswyrm.Library.Run
import Glasswyrm.Session.Acquisition

namespace Glasswyrm.Session

open DirectVirtualTerminalSession

/-! A session from its beginning, over any sequence of operations and whatever
becomes of their calls. -/

inductive Operation where
  | acquire (path : String) (signals : VirtualTerminalSignals)
  | release
  | reacquire
  | restore
deriving DecidableEq, Repr

def perform (replies : Replies) (run : SessionRun) : Operation → Outcome
  | .acquire path signals => acquire replies path signals run
  | .release => release replies run
  | .reacquire => reacquire replies run
  | .restore => restore replies run

def step (replies : Replies) (run : SessionRun) (operation : Operation) :
    SessionRun :=
  (perform replies run operation).run

/-- The run after the operations. -/
def reached (replies : Replies) (operations : List Operation) : SessionRun :=
  Library.run (step replies) {} operations

/-- The calls that an acquisition makes if none of them fails. -/
def acquisitionCalls (path : String) (signals : VirtualTerminalSignals) :
    List Call :=
  .openTerminal path ::
    (acquireSteps ((parseVirtualTerminalPath path).getD 0) signals).map (·.call)

structure Consistent (run : SessionRun) : Prop where
  justified : AllJustified run.calls
  fresh : run.session.state = .empty → ∀ kind,
    run.session.changed kind = false ∧ run.session.saved kind = false ∧
      ¬Changed kind run.calls
  live : run.session.state ≠ .empty → run.session.state ≠ .restored →
    Tracks run
  settled : run.session.state = .restored → ∀ kind, Settled kind run

variable {replies : Replies} {run : SessionRun}

theorem consistent_initial : Consistent {} where
  justified before record after split := by
    cases before <;> cases split
  fresh _ kind := by
    refine ⟨by cases kind <;> rfl, by cases kind <;> rfl, ?_⟩
    rintro ⟨record, member, _⟩
    cases member
  live started := absurd rfl started
  settled restored := by cases restored

theorem Consistent.of_tracks {state : DirectSessionState}
    (tracks : Tracks run) (here : run.session.state = state)
    (live : state ≠ .empty ∧ state ≠ .restored) : Consistent run where
  justified := tracks.justified
  fresh empty := absurd (here.symm.trans empty) live.1
  live _ _ := tracks
  settled restored := absurd (here.symm.trans restored) live.2

/-! ## Acquiring -/

/-- A session whose terminal is not open yet. -/
theorem Consistent.unopened (consistent : Consistent run)
    (empty : run.session.state = .empty) {added : List CallRecord}
    (silent : ∀ record ∈ added, record.call.sets = none)
    (session : DirectVirtualTerminalSession)
    (state : session.state = .empty)
    (changed : ∀ kind, session.changed kind = run.session.changed kind)
    (saved : ∀ kind, session.saved kind = run.session.saved kind) :
    Consistent { session, calls := run.calls ++ added } where
  justified := consistent.justified.append silent
  fresh _ kind := by
    obtain ⟨unset, unsaved, never⟩ := consistent.fresh empty kind
    refine ⟨(changed kind).trans unset, (saved kind).trans unsaved, ?_⟩
    rwa [changed_silent (Silent.settings_nil kind silent)]
  live started := absurd state started
  settled restored := by
    rw [state] at restored
    cases restored

/-- A terminal that has just been opened. -/
theorem Consistent.acquiring (consistent : Consistent run)
    (empty : run.session.state = .empty) {path : String} {number : Nat}
    (named : parseVirtualTerminalPath path = some number)
    {opened : SessionRun} {fd : Int} {reply : Reply}
    (calls : opened.calls = run.calls ++ [⟨fd, .openTerminal path, reply⟩])
    (own : opened.session.terminalNumber = number)
    (changed : ∀ kind,
      opened.session.changed kind = run.session.changed kind)
    (saved : ∀ kind, opened.session.saved kind = run.session.saved kind) :
    Acquiring run [.openTerminal path] opened := by
  have unset : ∀ kind, opened.session.changed kind ≠ true := by
    intro kind
    rw [changed, (consistent.fresh empty kind).1]
    exact Bool.false_ne_true
  have untouched : ∀ kind, ¬Changed kind opened.calls := by
    intro kind
    rw [calls, changed_silent (settings_other (by simp [Call.sets]))]
    exact (consistent.fresh empty kind).2.2
  refine ⟨⟨?_, ?_, ?_, fun kind set => absurd set (unset kind),
    fun set => absurd set (unset _), fun set => absurd set (unset _),
    fun kind _ set => absurd set (untouched kind)⟩,
    fun kind _ => untouched kind, ?_⟩
  · rw [calls]
    exact consistent.justified.append (List.forall_mem_singleton.mpr rfl)
  · rw [calls, own]
    exact ⟨_, List.mem_append_right _ (List.mem_singleton.mpr rfl), path, rfl,
      named⟩
  · intro kind given
    rw [saved, (consistent.fresh empty kind).2.1] at given
    cases given
  · refine ⟨_, calls, rfl, ?_⟩
    rw [List.filter_eq_nil_iff.mpr fun kind _ => unset kind]
    simp [changedModes, Call.sets]

/-- The changes that a failed acquire has made are taken back. -/
def Undone (before : SessionRun) (calls : List Call) (after : SessionRun) :
    Prop :=
  ∃ forward undo, after.calls = before.calls ++ forward ++ undo ∧
    forward.map (·.call) <+: calls ∧
    settingCalls undo = undoOf after.session (changedModes forward)

theorem Undone.nothing {after : SessionRun} {calls : List Call}
    {added : List CallRecord} (made : after.calls = run.calls ++ added)
    (initial : added.map (·.call) <+: calls)
    (none : changedModes added = []) : Undone run calls after := by
  refine ⟨added, [], ?_, initial, ?_⟩
  · rw [made, List.append_nil]
  · rw [none]
    rfl

theorem acquire_consistent (consistent : Consistent run) (replies : Replies)
    (path : String) (signals : VirtualTerminalSignals) :
    Consistent (acquire replies path signals run).run ∧
      ((acquire replies path signals run).succeeded = false →
        Undone run (acquisitionCalls path signals)
          (acquire replies path signals run).run) := by
  have idle : ∀ after : SessionRun, after.calls = run.calls →
      Undone run (acquisitionCalls path signals) after := by
    intro after same
    exact .nothing (same.trans (List.append_nil _).symm)
      (List.nil_prefix) rfl
  unfold acquire
  split
  · exact ⟨consistent, fun _ => idle run rfl⟩
  · rename_i empty
    rw [not_not] at empty
    split
    · exact ⟨consistent, fun _ => idle run rfl⟩
    · split
      · refine ⟨?_, fun _ => idle _ rfl⟩
        have numbered := consistent.unopened empty (List.forall_mem_nil _)
          { run.session with terminalNumber := 0 } empty
          (fun kind => by cases kind <;> rfl)
          (fun kind => by cases kind <;> rfl)
        rwa [List.append_nil] at numbered
      · rename_i number named
        dsimp only
        split
        · refine ⟨consistent.unopened empty
            (List.forall_mem_singleton.mpr rfl) _ empty
            (fun kind => by cases kind <;> rfl)
            (fun kind => by cases kind <;> rfl), fun _ => ?_⟩
          refine .nothing rfl ⟨_, rfl⟩ ?_
          simp [changedModes, Call.sets]
        · generalize opening : SessionRun.update _ _ = opened
          have acquiring : Acquiring run [.openTerminal path] opened := by
            rw [← opening]
            exact consistent.acquiring empty named rfl rfl
              (fun kind => by cases kind <;> rfl)
              (fun kind => by cases kind <;> rfl)
          have own : opened.session.terminalNumber = number := by
            rw [← opening]
            rfl
          have unset : ∀ kind, opened.session.changed kind = false := by
            intro kind
            rw [← opening]
            refine Eq.trans ?_ (consistent.fresh empty kind).1
            cases kind <;> rfl
          have ready := acquireSteps_ready signals unset
          rw [own] at ready
          obtain ⟨taken, active, tracks⟩ | ⟨_, back⟩ :=
            @acquireFrom_cases replies _ _ _ _ acquiring ready
              (marks_acquireSteps number signals)
          · exact ⟨.of_tracks tracks active (by decide), fun failed =>
              absurd (taken.symm.trans failed) (by decide)⟩
          · refine ⟨.of_tracks back.tracks back.failed (by decide),
              fun _ => ?_⟩
            unfold acquisitionCalls
            rw [named, Option.getD_some]
            exact back.undone

/-! ## Switching and restoring -/

/-- An operation that sets no mode and leaves the terminal to the session. -/
theorem Consistent.switched (consistent : Consistent run)
    (started : run.session.state ≠ .empty ∧ run.session.state ≠ .restored)
    {after : SessionRun} (silent : Silent run after)
    (state : DirectSessionState)
    (going : state ≠ .empty ∧ state ≠ .restored) :
    Consistent (after.update fun session => { session with state }) :=
  .of_tracks ((Silent.stated after state).tracks
    (silent.tracks (consistent.live started.1 started.2))) rfl going

theorem release_consistent (consistent : Consistent run)
    (replies : Replies) : Consistent (release replies run).run := by
  unfold release
  split
  · exact consistent
  · rename_i active
    rw [not_not] at active
    have started : run.session.state ≠ .empty ∧
        run.session.state ≠ .restored := by
      rw [active]
      decide
    have quiet := Silent.record replies run .quiescePendingFlip rfl
    have dropped :=
      quiet.trans (Silent.record replies _ .dropMaster rfl)
    have told := (dropped.trans (Silent.mastered _ false)).trans
      (Silent.record replies _ .acknowledgeRelease rfl)
    dsimp only
    split
    · exact consistent.switched started quiet .failed (by decide)
    · split
      · exact consistent.switched started dropped .failed (by decide)
      · split
        · exact consistent.switched started told .failed (by decide)
        · exact consistent.switched started told .suspended (by decide)

theorem reacquire_consistent (consistent : Consistent run)
    (replies : Replies) : Consistent (reacquire replies run).run := by
  unfold reacquire
  split
  · exact consistent
  · rename_i suspended
    rw [not_not] at suspended
    have started : run.session.state ≠ .empty ∧
        run.session.state ≠ .restored := by
      rw [suspended]
      decide
    have told := Silent.record replies run .acknowledgeAcquire rfl
    have gained := told.trans (Silent.record replies _ .acquireMaster rfl)
    have shown := (gained.trans (Silent.mastered _ true)).trans
      (Silent.record replies _ .presentCommittedFrame rfl)
    dsimp only
    split
    · exact consistent.switched started told .failed (by decide)
    · split
      · exact consistent.switched started gained .failed (by decide)
      · split
        · exact consistent.switched started shown .failed (by decide)
        · exact consistent.switched started shown .active (by decide)

theorem restore_settles (consistent : Consistent run) (replies : Replies) :
    Consistent (restore replies run).run ∧
      ∀ kind, Settled kind (restore replies run).run := by
  unfold restore
  split
  · rename_i done
    rw [Bool.or_eq_true, decide_eq_true_eq, decide_eq_true_eq] at done
    refine ⟨consistent, fun kind => ?_⟩
    obtain empty | restored := done
    · exact fun set => absurd set (consistent.fresh empty kind).2.2
    · exact consistent.settled restored kind
  · rename_i going
    rw [Bool.or_eq_true, decide_eq_true_eq, decide_eq_true_eq, not_or]
      at going
    have tracks := consistent.live going.1 going.2
    have regained : Tracks
        (Undoing.regainMaster replies { run }).run :=
      Undoing.regainMaster_tracks tracks
    have shown : Tracks (Undoing.restoreDisplay replies
        (Undoing.regainMaster replies { run })).run :=
      Undoing.restoreDisplay_silent.tracks regained
    obtain ⟨settled, justified, _⟩ := Undoing.writeBackAll_settles replies false
      "restore original KD mode" "restore original VT mode"
      "restore original keyboard mode" "reactivate previous virtual terminal"
      "wait for previous virtual terminal" shown
    generalize written : Undoing.writeBackAll replies false _ _ _ _ _ _ =
      undoing at settled justified
    have closed := @Undoing.closeTerminal_silent replies undoing .restored
    have final : ∀ kind,
        Settled kind (undoing.closeTerminal replies .restored).run :=
      fun kind => closed.settled (settled kind)
    have kept : Consistent (undoing.closeTerminal replies .restored).run := by
      refine ⟨closed.justified justified, ?_,
        fun _ going => absurd rfl going, fun _ => final⟩
      intro empty
      cases empty
    rw [← written] at kept final
    exact ⟨kept, final⟩

/-! ## A run -/

theorem step_consistent (consistent : Consistent run) (replies : Replies)
    (operation : Operation) :
    Consistent (step replies run operation) := by
  cases operation with
  | acquire path signals =>
      exact (acquire_consistent consistent replies path signals).1
  | release => exact release_consistent consistent replies
  | reacquire => exact reacquire_consistent consistent replies
  | restore => exact (restore_settles consistent replies).1

theorem reached_consistent (replies : Replies) (operations : List Operation) :
    Consistent (reached replies operations) := by
  have keeps : ∀ run operation, Consistent run →
      Consistent (step replies run operation) :=
    fun _ operation consistent =>
      step_consistent consistent replies operation
  exact Library.run_preserves keeps consistent_initial operations

/-- Whatever becomes of the calls of a session: an acquire that fails takes
back what it has changed, the last change first; after a restoration the last
setting of every mode that was changed is its saved value; and no value is
written that was not read before, but for what the session wants itself. -/
theorem session_restores (replies : Replies) (operations : List Operation) :
    (∀ path signals,
      (acquire replies path signals
        (reached replies operations)).succeeded = false →
      Undone (reached replies operations) (acquisitionCalls path signals)
        (acquire replies path signals (reached replies operations)).run) ∧
    (∀ kind, Settled kind
      (restore replies (reached replies operations)).run) ∧
    AllJustified (reached replies operations).calls := by
  have consistent := reached_consistent replies operations
  refine ⟨?_, (restore_settles consistent replies).2, consistent.justified⟩
  intro path signals
  exact (acquire_consistent consistent replies path signals).2

/-- The display refuses the master as the last step. -/
example :
    let reply : Reply :=
      { succeeds := true, descriptor := 9, identity := ⟨4, 4, true⟩
        state := { active := 2 }, keyboardMode := 3 }
    let replies : Replies := fun index =>
      if index = 11 then { reply with succeeds := false } else reply
    settingCalls (reached replies [.acquire "/dev/tty4" ⟨10, 12⟩]).calls =
      [.activate 4, .setKeyboardMode keyboardOff, .setProcessMode 10 12,
        .setGraphicsMode, .setKdMode 0, .setMode {}, .setKeyboardMode 3,
        .activate 2] := by
  decide +kernel

end Glasswyrm.Session
