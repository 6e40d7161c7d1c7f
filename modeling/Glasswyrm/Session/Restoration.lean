import Glasswyrm.Session.ModeLedger

namespace Glasswyrm.Session

open DirectVirtualTerminalSession

/-! Undoing what an acquisition has changed, one mode after another and
whatever becomes of the calls. -/

variable {replies : Replies} {before after : SessionRun} {kind : ConsoleMode}

/-- One mode is written back where that is due, and nothing else is set. -/
structure WrittenBack (kind : ConsoleMode) (before after : SessionRun) :
    Prop where
  calls : before.session.due kind = true →
    ∃ record quiet, after.calls = before.calls ++ record :: quiet ∧
      record.call = before.session.writeBack kind ∧
      ∀ other ∈ quiet, other.call.sets = none
  idle : before.session.due kind = false → after = before
  terminalNumber : after.session.terminalNumber =
    before.session.terminalNumber
  saved : ∀ other, after.session.saved other = before.session.saved other
  writeBack : ∀ other,
    after.session.writeBack other = before.session.writeBack other
  others : ∀ other, other ≠ kind →
    after.session.changed other = before.session.changed other

theorem writeBack_sets (session : DirectVirtualTerminalSession)
    (kind : ConsoleMode) : (session.writeBack kind).sets = some kind := by
  cases kind <;> rfl

/-- The calls that set some mode. -/
def settingCalls (calls : List CallRecord) : List Call :=
  (calls.map (·.call)).filter (·.sets.isSome)

theorem settingCalls_append (first second : List CallRecord) :
    settingCalls (first ++ second) =
      settingCalls first ++ settingCalls second := by
  unfold settingCalls
  rw [List.map_append, List.filter_append]

theorem settingCalls_cons (record : CallRecord) (calls : List CallRecord) :
    settingCalls (record :: calls) =
      (if record.call.sets.isSome then [record.call] else []) ++
        settingCalls calls := by
  unfold settingCalls
  rw [List.map_cons, List.filter_cons]
  split <;> rfl

theorem settingCalls_silent {calls : List CallRecord}
    (silent : ∀ record ∈ calls, record.call.sets = none) :
    settingCalls calls = [] := by
  unfold settingCalls
  refine List.filter_eq_nil_iff.mpr fun call member => ?_
  obtain ⟨record, among, rfl⟩ := List.mem_map.mp member
  simp [silent record among]

namespace WrittenBack

theorem settings_added {record : CallRecord} {quiet : List CallRecord}
    {other : ConsoleMode}
    (call : record.call = before.session.writeBack kind)
    (silent : ∀ other ∈ quiet, other.call.sets = none) (apart : other ≠ kind) :
    settings other (record :: quiet) = [] := by
  rw [← List.singleton_append, settings_append,
    Silent.settings_nil other silent, List.append_nil]
  refine settings_other ?_
  rw [call, writeBack_sets]
  exact fun same => apart (Option.some.inj same).symm

/-- The other modes are as they were. -/
theorem settled_other (written : WrittenBack kind before after)
    {other : ConsoleMode} (apart : other ≠ kind)
    (settled : Settled other before) : Settled other after := by
  cases due : before.session.due kind with
  | false => exact written.idle due ▸ settled
  | true =>
      obtain ⟨record, quiet, calls, call, silent⟩ := written.calls due
      have none := settings_added call silent apart
      intro set
      rw [calls, changed_silent none] at set
      rw [calls, lastSetting_silent none, written.writeBack]
      exact settled set

/-- The mode itself has its saved value, or was to get it. -/
theorem settled (written : WrittenBack kind before after)
    (tracks : Tracks before) : Settled kind after := by
  cases due : before.session.due kind with
  | true =>
      obtain ⟨record, quiet, calls, call, silent⟩ := written.calls due
      intro set
      refine ⟨record, ?_, call.trans (written.writeBack kind).symm⟩
      rw [calls, List.append_cons,
        lastSetting_silent (Silent.settings_nil kind silent)]
      exact lastSetting_setting (by rw [call, writeBack_sets])
  | false =>
      rw [written.idle due]
      cases unset : before.session.changed kind with
      | false => exact tracks.clean kind unset
      | true =>
          -- The terminal was active anyway.
          have held := tracks.held kind unset
          rw [DirectVirtualTerminalSession.due, unset, held] at due
          have same : before.session.writeBack kind =
              .activate before.session.terminalNumber := by
            simpa using due
          obtain rfl : kind = .activeTerminal := by
            have sets := writeBack_sets before.session kind
            rw [same] at sets
            exact (Option.some.inj sets).symm
          intro set
          obtain ⟨record, last, call⟩ := tracks.own unset
          exact ⟨record, last, call.trans same.symm⟩

theorem justified (written : WrittenBack kind before after)
    (tracks : Tracks before) : AllJustified after.calls := by
  cases due : before.session.due kind with
  | false => exact written.idle due ▸ tracks.justified
  | true =>
      obtain ⟨record, quiet, calls, call, silent⟩ := written.calls due
      rw [calls, List.append_cons]
      refine (tracks.justified.snoc ?_).append silent
      intro other sets
      rw [call, writeBack_sets] at sets
      obtain rfl := Option.some.inj sets
      simp only [DirectVirtualTerminalSession.due, Bool.and_eq_true] at due
      obtain ⟨read, member, reads, succeeds, value⟩ :=
        tracks.backed kind due.1.2
      exact .inr ⟨read, member, reads, succeeds, call.trans value⟩

theorem member (written : WrittenBack kind before after)
    {record : CallRecord} (member : record ∈ before.calls) :
    record ∈ after.calls := by
  cases due : before.session.due kind with
  | false => exact written.idle due ▸ member
  | true =>
      obtain ⟨_, _, calls, _⟩ := written.calls due
      rw [calls]
      exact List.mem_append_left _ member

theorem tracks (written : WrittenBack kind before after)
    (apart : kind ≠ .activeTerminal) (flag : after.session.changed kind = true →
      before.session.changed kind = true) (tracks : Tracks before) :
    Tracks after where
  justified := written.justified tracks
  numbered := by
    obtain ⟨record, member, named⟩ := tracks.numbered
    rw [written.terminalNumber]
    exact ⟨record, written.member member, named⟩
  backed other saved := by
    rw [written.saved] at saved
    obtain ⟨record, member, read⟩ := tracks.backed other saved
    rw [written.writeBack]
    exact ⟨record, written.member member, read⟩
  held other set := by
    rw [written.saved]
    by_cases same : other = kind
    · exact tracks.held other (same ▸ flag (same ▸ set))
    · rw [written.others other same] at set
      exact tracks.held other set
  nested set := by
    rw [written.others _ apart.symm]
    by_cases same : kind = .kdMode
    · exact tracks.nested (same ▸ flag (same ▸ set))
    · rw [written.others _ fun equal => same equal.symm] at set
      exact tracks.nested set
  own set := by
    rw [written.others _ apart.symm] at set
    rw [written.terminalNumber]
    cases due : before.session.due kind with
    | false => exact written.idle due ▸ tracks.own set
    | true =>
        obtain ⟨record, quiet, calls, call, silent⟩ := written.calls due
        rw [calls, lastSetting_silent
          (settings_added call silent apart.symm)]
        exact tracks.own set
  clean other unset := by
    by_cases same : other = kind
    · exact same ▸ written.settled tracks
    · rw [written.others other same] at unset
      exact written.settled_other same (tracks.clean other unset)

/-- After the last mode of a failed acquire none counts as changed. -/
theorem tracks_forgotten (written : WrittenBack .activeTerminal before after)
    (tracks : Tracks before) (text : before.session.changed .kdMode = false)
    (forgotten : before.session.due .activeTerminal = true →
      after.session.changed .activeTerminal = false) : Tracks after := by
  cases due : before.session.due .activeTerminal with
  | false => exact written.idle due ▸ tracks
  | true =>
      have passive := forgotten due
      refine ⟨written.justified tracks, ?_, ?_, ?_, ?_, ?_, ?_⟩
      · obtain ⟨record, member, named⟩ := tracks.numbered
        rw [written.terminalNumber]
        exact ⟨record, written.member member, named⟩
      · intro other saved
        rw [written.saved] at saved
        obtain ⟨record, member, read⟩ := tracks.backed other saved
        rw [written.writeBack]
        exact ⟨record, written.member member, read⟩
      · intro other set
        rw [written.saved]
        by_cases same : other = .activeTerminal
        · rw [same, passive] at set
          cases set
        · rw [written.others other same] at set
          exact tracks.held other set
      · intro set
        rw [written.others _ (by decide), text] at set
        cases set
      · intro set
        rw [passive] at set
        cases set
      · intro other unset
        by_cases same : other = .activeTerminal
        · exact same ▸ written.settled tracks
        · rw [written.others other same] at unset
          exact written.settled_other same (tracks.clean other unset)

theorem due_other (written : WrittenBack kind before after)
    {other : ConsoleMode} (apart : other ≠ kind) :
    after.session.due other = before.session.due other := by
  unfold due
  rw [written.others other apart, written.saved, written.writeBack,
    written.terminalNumber]

/-- The setting calls of a stage. -/
theorem added (written : WrittenBack kind before after) :
    ∃ added, after.calls = before.calls ++ added ∧
      settingCalls added =
        if before.session.due kind then [before.session.writeBack kind]
        else [] := by
  cases due : before.session.due kind with
  | false =>
      refine ⟨[], ?_, rfl⟩
      rw [written.idle due, List.append_nil]
  | true =>
      obtain ⟨record, quiet, calls, call, silent⟩ := written.calls due
      refine ⟨record :: quiet, calls, ?_⟩
      rw [settingCalls_cons, settingCalls_silent silent, call, writeBack_sets]
      rfl

end WrittenBack

/-- The session may switch to its own terminal again. -/
theorem Tracks.activateOwn (tracks : Tracks before) (replies : Replies)
    (activated : before.session.changed .activeTerminal = true) :
    Tracks (before.record replies
      (.activate before.session.terminalNumber)) where
  justified := by
    refine tracks.justified.snoc fun kind _ => .inl ?_
    exact .inr (.inr (.inr ⟨_, rfl, tracks.numbered⟩))
  numbered := by
    obtain ⟨record, member, named⟩ := tracks.numbered
    exact ⟨record, List.mem_append_left _ member, named⟩
  backed kind saved := by
    obtain ⟨record, member, read⟩ := tracks.backed kind saved
    exact ⟨record, List.mem_append_left _ member, read⟩
  held := tracks.held
  nested := tracks.nested
  own _ := ⟨_, lastSetting_setting rfl, rfl⟩
  clean kind unset := by
    have apart : kind ≠ .activeTerminal := by
      rintro rfl
      rw [show before.session.changed .activeTerminal = false from unset]
        at activated
      cases activated
    have other : settings kind
        [CallRecord.mk before.session.terminalFd
          (.activate before.session.terminalNumber)
          (before.replyTo replies)] = [] :=
      settings_other fun same => apart (Option.some.inj same).symm
    intro set
    obtain ⟨record, last, call⟩ :=
      tracks.clean kind unset ((changed_silent other).mp set)
    exact ⟨record, (lastSetting_silent other).trans last, call⟩

/-! ## The stages -/

namespace Undoing

variable {undoing : Undoing} {forgets : Bool} {operation : String}

/-- A change of the session that forgets one mode. -/
structure Clears (kind : ConsoleMode)
    (clear : DirectVirtualTerminalSession → DirectVirtualTerminalSession) :
    Prop where
  terminalNumber : ∀ session,
    (clear session).terminalNumber = session.terminalNumber
  saved : ∀ session other,
    (clear session).saved other = session.saved other
  writeBack : ∀ session other,
    (clear session).writeBack other = session.writeBack other
  cleared : ∀ session, (clear session).changed kind = false
  others : ∀ session other, other ≠ kind →
    (clear session).changed other = session.changed other

theorem clears_kdMode : Clears .kdMode fun session =>
    { session with graphicsModeSet := false } where
  terminalNumber _ := rfl
  saved _ other := by cases other <;> rfl
  writeBack _ other := by cases other <;> rfl
  cleared _ := rfl
  others _ other apart := by cases other <;> first | rfl | exact absurd rfl apart

theorem clears_mode : Clears .vtMode fun session =>
    { session with processModeSet := false } where
  terminalNumber _ := rfl
  saved _ other := by cases other <;> rfl
  writeBack _ other := by cases other <;> rfl
  cleared _ := rfl
  others _ other apart := by cases other <;> first | rfl | exact absurd rfl apart

theorem clears_keyboardMode : Clears .keyboard fun session =>
    { session with keyboardModeSet := false } where
  terminalNumber _ := rfl
  saved _ other := by cases other <;> rfl
  writeBack _ other := by cases other <;> rfl
  cleared _ := rfl
  others _ other apart := by cases other <;> first | rfl | exact absurd rfl apart

theorem clears_activated : Clears .activeTerminal fun session =>
    { session with activated := false } where
  terminalNumber _ := rfl
  saved _ other := by cases other <;> rfl
  writeBack _ other := by cases other <;> rfl
  cleared _ := rfl
  others _ other apart := by cases other <;> first | rfl | exact absurd rfl apart

theorem due_eq (session : DirectVirtualTerminalSession)
    (apart : kind ≠ .activeTerminal) :
    session.due kind = (session.changed kind && session.saved kind) := by
  cases kind <;> first | exact absurd rfl apart |
    simp [due, DirectVirtualTerminalSession.writeBack]

theorem activeTerminal_due (session : DirectVirtualTerminalSession) :
    session.due .activeTerminal =
      (session.activated && session.haveState &&
        session.savedState.active ≠ session.terminalNumber) := by
  simp [due, changed, saved, DirectVirtualTerminalSession.writeBack]

/-- Once the calls of a stage are made, the mode may be forgotten. -/
theorem writtenBack_of {clear : DirectVirtualTerminalSession →
      DirectVirtualTerminalSession} (clears : Clears kind clear)
    (due : before.session.due kind = true) {record : CallRecord}
    {quiet : List CallRecord}
    (calls : after.calls = before.calls ++ record :: quiet)
    (call : record.call = before.session.writeBack kind)
    (silent : ∀ other ∈ quiet, other.call.sets = none)
    (session : after.session = before.session ∨
      after.session = clear before.session) :
    WrittenBack kind before after where
  calls _ := ⟨record, quiet, calls, call, silent⟩
  idle never := by
    rw [due] at never
    cases never
  terminalNumber := by
    rcases session with same | same <;> rw [same]
    exact clears.terminalNumber _
  saved other := by
    rcases session with same | same <;> rw [same]
    exact clears.saved _ other
  writeBack other := by
    rcases session with same | same <;> rw [same]
    exact clears.writeBack _ other
  others other apart := by
    rcases session with same | same <;> rw [same]
    exact clears.others _ other apart

theorem writtenBack_idle (idle : before.session.due kind = false) :
    WrittenBack kind before before where
  calls due := by
    rw [idle] at due
    cases due
  idle _ := rfl
  terminalNumber := rfl
  saved _ := rfl
  writeBack _ := rfl
  others _ _ := rfl

theorem writeBack_writtenBack {clear : DirectVirtualTerminalSession →
      DirectVirtualTerminalSession} (clears : Clears kind clear)
    (apart : kind ≠ .activeTerminal) :
    WrittenBack kind undoing.run
      (writeBack replies forgets
        (fun session => session.changed kind && session.saved kind)
        (fun session => session.writeBack kind) operation clear
        undoing).run := by
  unfold writeBack
  dsimp only
  split
  · rename_i changed
    have due := (due_eq undoing.run.session apart).trans changed
    split
    · exact writtenBack_of clears due rfl rfl (List.forall_mem_nil _)
        (.inr rfl)
    · cases forgets with
      | true =>
          exact writtenBack_of clears due rfl rfl (List.forall_mem_nil _)
            (.inr rfl)
      | false =>
          exact writtenBack_of clears due rfl rfl (List.forall_mem_nil _)
            (.inl rfl)
  · rename_i unchanged
    exact writtenBack_idle ((due_eq undoing.run.session apart).trans
      (Bool.eq_false_iff.mpr unchanged))

/-- A stage leaves no mode changed that was not. -/
theorem writeBack_changed {due : DirectVirtualTerminalSession → Bool}
    {call : DirectVirtualTerminalSession → Call}
    {clear : DirectVirtualTerminalSession → DirectVirtualTerminalSession}
    (clears : Clears kind clear)
    (set : (writeBack replies forgets due call operation clear
      undoing).run.session.changed kind = true) :
    undoing.run.session.changed kind = true := by
  have cleared : (clear undoing.run.session).changed kind ≠ true := by
    rw [clears.cleared]
    exact Bool.false_ne_true
  unfold writeBack at set
  dsimp only at set
  split at set
  · split at set
    · exact absurd set cleared
    · cases forgets with
      | true => exact absurd set cleared
      | false => exact set
  · exact set

/-- A failed acquire counts the mode as unchanged afterwards. -/
theorem writeBack_forgets {clear : DirectVirtualTerminalSession →
      DirectVirtualTerminalSession} (clears : Clears kind clear)
    (tracks : Tracks undoing.run) :
    (writeBack replies true
      (fun session => session.changed kind && session.saved kind)
      (fun session => session.writeBack kind) operation clear
      undoing).run.session.changed kind = false := by
  unfold writeBack
  dsimp only
  split
  · split <;> exact clears.cleared _
  · rename_i unchanged
    cases set : undoing.run.session.changed kind with
    | false => rfl
    | true =>
        rw [set, tracks.held kind set] at unchanged
        exact absurd rfl unchanged

theorem reactivate_writtenBack {activation wait : String} :
    WrittenBack .activeTerminal undoing.run
      (reactivate replies forgets activation wait undoing).run := by
  have due_iff := activeTerminal_due undoing.run.session
  unfold reactivate
  dsimp only
  split
  · rename_i active
    have due := due_iff.trans active
    split
    · have waiting : ∀ record ∈ [CallRecord.mk undoing.run.session.terminalFd
          (.waitUntilActive undoing.run.session.savedState.active)
          ((undoing.run.record replies (.activate
            undoing.run.session.savedState.active)).replyTo replies)],
          record.call.sets = none := List.forall_mem_singleton.mpr rfl
      split
      · exact writtenBack_of clears_activated due
          (by simp [SessionRun.record, SessionRun.update]; rfl) rfl waiting
          (.inr rfl)
      · cases forgets with
        | true =>
            exact writtenBack_of clears_activated due
              (by simp [SessionRun.record, SessionRun.update, failed]; rfl) rfl
              waiting (.inr rfl)
        | false =>
            exact writtenBack_of clears_activated due
              (by simp [SessionRun.record, failed]; rfl) rfl waiting (.inl rfl)
    · cases forgets with
      | true =>
          exact writtenBack_of clears_activated due rfl rfl
            (List.forall_mem_nil _) (.inr rfl)
      | false =>
          exact writtenBack_of clears_activated due rfl rfl
            (List.forall_mem_nil _) (.inl rfl)
  · rename_i passive
    exact writtenBack_idle (due_iff.trans (Bool.eq_false_iff.mpr passive))

theorem reactivate_forgets {activation wait : String}
    (due : undoing.run.session.due .activeTerminal = true) :
    (reactivate replies true activation wait
      undoing).run.session.changed .activeTerminal = false := by
  rw [activeTerminal_due] at due
  unfold reactivate
  dsimp only
  rw [if_pos due]
  split
  · split <;> rfl
  · rfl

theorem closeTerminal_silent (state : DirectSessionState) :
    Silent undoing.run (undoing.closeTerminal replies state).run :=
  (Silent.record replies undoing.run .closeTerminal rfl).trans
    (Silent.closed _ (-1) state)

theorem dropMaster_silent :
    Silent undoing.run (undoing.dropMaster replies).run := by
  have dropped : Silent undoing.run
      ((undoing.run.record replies .dropMaster).update fun session =>
        { session with masterOwned := false }) :=
    (Silent.record replies undoing.run .dropMaster rfl).trans
      (Silent.mastered _ false)
  unfold dropMaster
  dsimp only
  split
  · split <;> exact dropped
  · exact .refl _

theorem restoreDisplay_silent :
    Silent undoing.run (undoing.restoreDisplay replies).run := by
  unfold restoreDisplay
  split
  · dsimp only
    generalize made : (if (undoing.run.replyTo replies).succeeds = true then _
      else _ : Undoing) = released
    have shown : Silent undoing.run released.run := by
      have first :=
        Silent.record replies undoing.run .restoreOriginalDisplay rfl
      have second :=
        first.trans (Silent.record replies _ .releaseScanoutResources rfl)
      rw [← made]
      split
      · split <;> exact second
      · exact first
    have dropped :=
      shown.trans (Silent.record replies released.run .dropMaster rfl)
    split
    · exact dropped.trans (Silent.mastered _ false)
    · exact dropped
  · exact .refl _

/-- The session switches back to its own terminal, which it had activated. -/
theorem regainMaster_tracks (tracks : Tracks undoing.run) :
    Tracks (undoing.regainMaster replies).run := by
  unfold regainMaster
  dsimp only
  split
  · rename_i lost
    have graphics : undoing.run.session.changed .kdMode = true :=
      (Bool.and_eq_true_iff.mp lost).2
    have switched := tracks.activateOwn replies (tracks.nested graphics)
    generalize undoing.run.record replies
      (.activate undoing.run.session.terminalNumber) = after at switched ⊢
    have waited := (Silent.record replies after (.waitUntilActive
      undoing.run.session.terminalNumber) rfl).tracks switched
    split
    · split
      · have gained :=
          (Silent.record replies _ .acquireMaster rfl).tracks waited
        split
        · exact (Silent.mastered _ true).tracks gained
        · exact gained
      · exact waited
    · exact switched
  · exact tracks

/-! ### All of them -/

/-- What a failed acquire and a restoration have in common. -/
def writeBackAll (replies : Replies) (forgets : Bool)
    (kdMode mode keyboardMode activation wait : String) (undoing : Undoing) :
    Undoing :=
  undoing
    |> writeBackKdMode replies forgets kdMode
    |> writeBackMode replies forgets mode
    |> writeBackKeyboardMode replies forgets keyboardMode
    |>.reactivate replies forgets activation wait

/-- The calls that are due: the last mode that was changed comes first. -/
def owed (session : DirectVirtualTerminalSession) : List Call :=
  (acquisitionOrder.reverse.filter session.due).map session.writeBack

theorem owed_congr {first second : DirectVirtualTerminalSession}
    (same : SameModes first second) : owed second = owed first := by
  have dues : second.due = first.due := by
    funext kind
    unfold due
    rw [same.changed, same.saved, same.writeBack, same.terminalNumber]
  have calls : second.writeBack = first.writeBack := funext same.writeBack
  unfold owed
  rw [dues, calls]

theorem writeBackAll_settles (replies : Replies) (forgets : Bool)
    (kdMode mode keyboardMode activation wait : String)
    (tracks : Tracks undoing.run) :
    let after := (writeBackAll replies forgets kdMode mode keyboardMode
      activation wait undoing).run
    (∀ kind, Settled kind after) ∧ AllJustified after.calls ∧
      (forgets = true → Tracks after) ∧
      (∃ added, after.calls = undoing.run.calls ++ added ∧
        settingCalls added = owed undoing.run.session) ∧
      after.session.terminalNumber = undoing.run.session.terminalNumber ∧
      ∀ kind, after.session.writeBack kind =
        undoing.run.session.writeBack kind := by
  have first : WrittenBack .kdMode undoing.run
      (writeBackKdMode replies forgets kdMode undoing).run :=
    writeBack_writtenBack clears_kdMode (by decide)
  have tracks1 := first.tracks (by decide)
    (writeBack_changed clears_kdMode) tracks
  unfold writeBackAll
  have text : forgets = true →
      (writeBackKdMode replies forgets kdMode undoing).run.session.changed
        .kdMode = false := by
    rintro rfl
    exact writeBack_forgets clears_kdMode tracks
  generalize writeBackKdMode replies forgets kdMode undoing = undoing1
    at first tracks1 text ⊢
  have second : WrittenBack .vtMode undoing1.run
      (writeBackMode replies forgets mode undoing1).run :=
    writeBack_writtenBack clears_mode (by decide)
  have tracks2 := second.tracks (by decide)
    (writeBack_changed clears_mode) tracks1
  generalize writeBackMode replies forgets mode undoing1 = undoing2
    at second tracks2 ⊢
  have third : WrittenBack .keyboard undoing2.run
      (writeBackKeyboardMode replies forgets keyboardMode undoing2).run :=
    writeBack_writtenBack clears_keyboardMode (by decide)
  have tracks3 := third.tracks (by decide)
    (writeBack_changed clears_keyboardMode) tracks2
  generalize writeBackKeyboardMode replies forgets keyboardMode undoing2 =
    undoing3 at third tracks3 ⊢
  have fourth : WrittenBack .activeTerminal undoing3.run
      (reactivate replies forgets activation wait undoing3).run :=
    reactivate_writtenBack
  have forgotten : forgets = true → Tracks
      (reactivate replies forgets activation wait undoing3).run := by
    rintro rfl
    refine fourth.tracks_forgotten tracks3 ?_ reactivate_forgets
    rw [third.others _ (by decide), second.others _ (by decide)]
    exact text rfl
  generalize reactivate replies forgets activation wait undoing3 = undoing4
    at fourth forgotten ⊢
  refine ⟨?_, fourth.justified tracks3, forgotten, ?_, ?_, ?_⟩
  · intro kind
    cases kind with
    | kdMode =>
        exact fourth.settled_other (by decide) (third.settled_other (by decide)
          (second.settled_other (by decide) (first.settled tracks)))
    | vtMode =>
        exact fourth.settled_other (by decide) (third.settled_other (by decide)
          (second.settled tracks1))
    | keyboard =>
        exact fourth.settled_other (by decide) (third.settled tracks2)
    | activeTerminal => exact fourth.settled tracks3
  · obtain ⟨added1, calls1, made1⟩ := first.added
    obtain ⟨added2, calls2, made2⟩ := second.added
    obtain ⟨added3, calls3, made3⟩ := third.added
    obtain ⟨added4, calls4, made4⟩ := fourth.added
    rw [first.due_other (by decide), first.writeBack] at made2
    rw [second.due_other (by decide), first.due_other (by decide),
      second.writeBack, first.writeBack] at made3
    rw [third.due_other (by decide), second.due_other (by decide),
      first.due_other (by decide), third.writeBack, second.writeBack,
      first.writeBack] at made4
    refine ⟨added1 ++ added2 ++ added3 ++ added4, ?_, ?_⟩
    · rw [calls4, calls3, calls2, calls1]
      simp only [List.append_assoc]
    · simp only [settingCalls_append, made1, made2, made3, made4, owed,
        acquisitionOrder, List.reverse_cons, List.reverse_nil,
        List.nil_append, List.cons_append, List.filter_cons, List.filter_nil]
      split_ifs <;> rfl
  · rw [fourth.terminalNumber, third.terminalNumber, second.terminalNumber,
      first.terminalNumber]
  · intro kind
    rw [fourth.writeBack, third.writeBack, second.writeBack, first.writeBack]

end Undoing

end Glasswyrm.Session
