import Glasswyrm.Compositor.SceneRun
import Glasswyrm.Gwcomp.CompositorRun

namespace Glasswyrm.Gwcomp

open Glasswyrm.Compositor Drm Render Library

/-! What a commit, and the service of one that is pending, can lead to. -/

def PresentedFrame.Failed (frame : PresentedFrame) : Prop :=
  frame.disposition = .rejected ∨ frame.disposition = .fatal

namespace Compositor

/-- The commit passes the checks of the compositor and of its scene. -/
structure Validates (before : Compositor) (value : FrameCommit)
    (validated : ValidatedCommit) : Prop where
  later : before.lastCommitId < value.commitId
  generation : before.lastGeneration ≤ value.producerGeneration
  closed : before.scene.snapshotActive = false
  candidate : validated.candidate = before.scene.acceptPending value
  metadataOnlyPeer : validated.metadataOnlyPeer = true ↔
    before.profile = .m6MetadataProtocolServer
  accepted : validated.result.result = .accepted ∨
    validated.result.result = .dropped
  shown : before.scene.profile = .historical →
    before.scene.pending.output.any (·.enabled) = true →
      validated.result.result = .accepted
  modeled : before.scene.profile ≠ .historical →
    validated.result.result = .accepted
  hidden : before.scene.profile = .historical →
    before.scene.pending.output.any (·.enabled) = false →
      validated.result.result = .dropped

/-- The transaction installs what the commit asks for. -/
structure Stages (before : Compositor) (value : FrameCommit)
    (transaction : PresentationTransaction) : Prop where
  later : before.lastCommitId < value.commitId
  generation : before.lastGeneration ≤ value.producerGeneration
  closed : before.scene.snapshotActive = false
  candidate : transaction.candidate = before.scene.acceptPending value
  attachments : transaction.attachments = before.pendingAttachments
  releases : transaction.releases =
    before.calculateRetiredBuffers before.scene.pending
  commit : transaction.commit = value
  result : transaction.presented.result = .accepted
  buffered : before.profile ≠ .m6MetadataProtocolServer

/-- How a commit can leave the compositor, and the frame it answers with. -/
inductive CommitOutcome (before : Compositor) (value : FrameCommit) :
    Compositor → PresentedFrame → Prop
  | refused (lastCommitId : Nat) (later : before.lastCommitId ≤ lastCommitId)
      (frame : PresentedFrame) (failed : frame.Failed) :
      CommitOutcome before value { before with lastCommitId } frame
  | staged (transaction : PresentationTransaction)
      (stages : before.Stages value transaction) (frame : PresentedFrame)
      (pending : frame.disposition = .pending) :
      CommitOutcome before value
        { before with
          lastCommitId := value.commitId
          pendingPresentation := some transaction } frame
  | presented (transaction : PresentationTransaction)
      (stages : before.Stages value transaction) (visibleHash : UInt64) :
      CommitOutcome before value
        (promote { before with lastCommitId := value.commitId } transaction
          visibleHash).1
        (promote { before with lastCommitId := value.commitId } transaction
          visibleHash).2
  | disabled (validated : ValidatedCommit)
      (valid : before.Validates value validated) (frame : PresentedFrame)
      (hidden : frame.result = .dropped) :
      CommitOutcome before value
        (promoteDisabledOutput
          { before with lastCommitId := value.commitId } validated value
          frame).1 { frame with disposition := .complete }
  | described (validated : ValidatedCommit)
      (valid : before.Validates value validated)
      (metadata : before.profile = .m6MetadataProtocolServer)
      (frame : PresentedFrame) (shown : frame.result = .accepted)
      (hash : UInt64) :
      CommitOutcome before value
        { before with
          lastCommitId := value.commitId
          scene := validated.candidate
          committedAttachments := ∅
          output := {}
          outputSet := none
          frameOrdinal := before.frameOrdinal + 1
          lastGeneration := value.producerGeneration }
        { frame with
          ordinal := before.frameOrdinal + 1
          hash
          disposition := .complete }

/-! ## The checks of the scene -/

theorem validateScene_cases (compositor : Compositor) (value : FrameCommit) :
    (∃ report lastCommitId, compositor.lastCommitId ≤ lastCommitId ∧
      report.frame.disposition = .rejected ∧
      compositor.validateScene value =
        ({ compositor with lastCommitId }, .error report)) ∨
    ∃ presented validated, compositor.Validates value validated ∧
      presented.disposition = .rejected ∧
      presented.result = validated.result.result ∧
      compositor.validateScene value =
        ({ compositor with lastCommitId := value.commitId },
          .ok (presented, validated)) := by
  unfold validateScene
  split
  · exact .inl ⟨_, compositor.lastCommitId, Nat.le_refl _, rfl, rfl⟩
  · split
    · exact .inl ⟨_, compositor.lastCommitId, Nat.le_refl _, rfl, rfl⟩
    · rename_i passed
      simp only [Bool.or_eq_true, decide_eq_true_eq, not_or, Nat.not_le,
        Nat.not_lt] at passed
      obtain ⟨later, generation⟩ := passed
      cases accepted : (compositor.scene.commit value).1.accepted with
      | false =>
          let presented : PresentedFrame :=
            { result := (compositor.scene.commit value).1.result
              generation :=
                (compositor.scene.commit value).1.presentedGeneration }
          refine .inl ⟨{ frame := presented }, value.commitId,
            Nat.le_of_lt later, rfl, ?_⟩
          simp only [accepted, Bool.not_false, if_true]
          rfl
      | true =>
          refine .inr ⟨_, _, ?valid, rfl, rfl, by
            simp only [accepted, Bool.not_true, Bool.false_eq_true, if_false]
            rfl⟩
          have closed : compositor.scene.snapshotActive = false := by
            cases active : compositor.scene.snapshotActive with
            | false => rfl
            | true =>
                simp [SceneModel.commit, active, CommitResult.accepted]
                  at accepted
          cases SceneModel.commit_cases compositor.scene value with
          | rejected refused => cases accepted.symm.trans refused
          | outputless result profile output surfaces identified next =>
              exact ⟨later, generation, closed, next, by simp, .inr result,
                fun _ shown => by simp [output] at shown,
                fun other => absurd profile other, fun _ _ => result⟩
          | dropped result profile output present disabled clean identified
              next =>
              exact ⟨later, generation, closed, next, by simp, .inr result,
                fun _ shown => by simp [present, disabled] at shown,
                fun other => absurd profile other, fun _ _ => result⟩
          | accepted result historical outputModel identified next =>
              refine ⟨later, generation, closed, next, by simp, .inl result,
                fun _ _ => result, fun _ => result, fun profile hidden => ?_⟩
              obtain ⟨output, present, enabled, _⟩ := historical profile
              simp [present, enabled] at hidden

/-! ## The commit proper -/

theorem rejectedAs_failed {presented : PresentedFrame}
    (rejected : presented.disposition = .rejected) (result : FrameResult)
    (error : String) : (rejectedAs presented result error).frame.Failed :=
  .inl rejected

theorem fatalAs_failed (presented : PresentedFrame) (error : String) :
    (fatalAs presented error).frame.Failed :=
  .inr rfl

theorem renderRejection_failed {presented : PresentedFrame}
    (rejected : presented.disposition = .rejected)
    (disposition : RenderDisposition) (error default : String) :
    (renderRejection presented disposition error default).frame.Failed := by
  simp only [renderRejection, PresentedFrame.Failed]
  split
  · exact .inr rfl
  · exact .inl rejected

section

variable {compositor : Compositor} {validated : ValidatedCommit}
  {value : FrameCommit} {presented : PresentedFrame} {replies : CommitReplies}

theorem prepareOutputFrame_error
    (rejected : presented.disposition = .rejected) {report : CommitReport}
    (failed : compositor.prepareOutputFrame validated value presented replies =
      .error report) : report.frame.Failed := by
  unfold prepareOutputFrame at failed
  simp only at failed
  split at failed
  · obtain rfl := Except.error.inj failed
    exact rejectedAs_failed rejected _ _
  · split at failed
    · unfold prepareOutputFrameSet at failed
      simp only at failed
      split at failed
      · obtain rfl := Except.error.inj failed
        exact renderRejection_failed rejected _ _ _
      · split at failed
        · obtain rfl := Except.error.inj failed
          exact rejectedAs_failed rejected _ _
        · cases failed
    · unfold prepareSingleFrame at failed
      simp only at failed
      split at failed
      · obtain rfl := Except.error.inj failed
        exact renderRejection_failed rejected _ _ _
      · split at failed
        · obtain rfl := Except.error.inj failed
          exact rejectedAs_failed rejected _ _
        · cases failed

theorem prepareOutputFrame_ok {prepared : PreparedOutputFrame}
    (ready : compositor.prepareOutputFrame validated value presented replies =
      .ok prepared) :
    prepared.releases =
        compositor.calculateRetiredBuffers validated.candidate.committed ∧
      ∀ id ∈ compositor.pendingAttachments,
        id ∈ validated.candidate.committed.surfaces := by
  unfold prepareOutputFrame at ready
  simp only at ready
  split at ready
  · cases ready
  · rename_i known
    have shown : ∀ id ∈ compositor.pendingAttachments,
        id ∈ validated.candidate.committed.surfaces := by
      intro id member
      rw [Bool.not_eq_true', Bool.not_eq_false, List.all_eq_true] at known
      exact Std.ExtTreeMap.contains_iff_mem.mp
        (known id (Std.ExtTreeMap.mem_keys.mpr member))
    refine ⟨?_, shown⟩
    split at ready
    · unfold prepareOutputFrameSet at ready
      simp only at ready
      split at ready
      · cases ready
      · split at ready
        · cases ready
        · obtain rfl := Except.ok.inj ready
          rfl
    · unfold prepareSingleFrame at ready
      simp only at ready
      split at ready
      · cases ready
      · split at ready
        · cases ready
        · obtain rfl := Except.ok.inj ready
          rfl

end

theorem stagePresentation_outcome {before : Compositor}
    {validated : ValidatedCommit} {prepared : PreparedOutputFrame}
    {value : FrameCommit} {presented : PresentedFrame}
    (valid : before.Validates value validated)
    (shown : validated.result.result = .accepted)
    (buffered : before.profile ≠ .m6MetadataProtocolServer)
    (rejected : presented.disposition = .rejected)
    (result : presented.result = validated.result.result)
    (retired : prepared.releases =
      before.calculateRetiredBuffers validated.candidate.committed)
    (replies : CommitReplies) :
    let staged := stagePresentation
      { before with lastCommitId := value.commitId } validated prepared value
      presented replies
    before.CommitOutcome value staged.1 staged.2.frame := by
  have stages : ∀ transaction : PresentationTransaction,
      transaction.candidate = validated.candidate →
        transaction.attachments = before.pendingAttachments →
          transaction.releases = prepared.releases →
            transaction.commit = value →
              transaction.presented.result = presented.result →
                before.Stages value transaction := by
    intro transaction candidate attachments releases commit same
    refine ⟨valid.later, valid.generation, valid.closed,
      candidate.trans valid.candidate, attachments, ?_, commit,
      same.trans (result.trans shown), buffered⟩
    rw [releases, retired, valid.candidate]
    rfl
  unfold stagePresentation
  simp only
  split
  · exact .refused _ (Nat.le_of_lt valid.later) _
      (rejectedAs_failed rejected _ _)
  · exact .refused _ (Nat.le_of_lt valid.later) _ (fatalAs_failed _ _)
  · split
    · exact .refused _ (Nat.le_of_lt valid.later) _ (fatalAs_failed _ _)
    · split
      · exact .refused _ (Nat.le_of_lt valid.later) _ (fatalAs_failed _ _)
      · exact .presented _ (stages _ rfl rfl rfl rfl rfl) _
  · split
    · exact .refused _ (Nat.le_of_lt valid.later) _ (fatalAs_failed _ _)
    · exact .staged _ (stages _ rfl rfl rfl rfl rfl) _ rfl

theorem commitTransaction_outcome (before : Compositor) (value : FrameCommit)
    (replies : CommitReplies) :
    before.CommitOutcome value (before.commitTransaction value replies).1
      (before.commitTransaction value replies).2.frame := by
  unfold commitTransaction
  rcases validateScene_cases before value with
    ⟨report, lastCommitId, later, rejected, refused⟩ |
      ⟨presented, validated, valid, rejected, result, passed⟩
  · rw [refused]
    exact .refused lastCommitId later report.frame (.inl rejected)
  · rw [passed]
    simp only
    split
    · exact .refused _ (Nat.le_of_lt valid.later) _
        (rejectedAs_failed rejected _ _)
    · split
      · rename_i hidden
        simp only [Bool.and_eq_true, decide_eq_true_eq, Bool.not_eq_true',
          valid.candidate] at hidden
        exact .disabled validated valid presented
          (result.trans (valid.hidden hidden.1 hidden.2))
      · rename_i visible
        have shown : validated.result.result = .accepted := by
          by_cases profile : before.scene.profile = .historical
          · refine valid.shown profile ?_
            cases enabled : before.scene.pending.output.any (·.enabled) with
            | true => rfl
            | false =>
                refine absurd ?_ visible
                rw [valid.candidate]
                simp [SceneModel.acceptPending, profile, enabled]
          · exact valid.modeled profile
        split
        · rename_i metadata
          unfold promoteMetadataOnly
          split
          · exact .refused _ (Nat.le_of_lt valid.later) _
              (rejectedAs_failed rejected _ _)
          · split
            · exact .refused _ (Nat.le_of_lt valid.later) _
                (rejectedAs_failed rejected _ _)
            · exact .described validated valid
                (valid.metadataOnlyPeer.mp metadata) presented
                (result.trans shown) _
        · rename_i buffers
          split
          · rename_i report failed
            exact .refused _ (Nat.le_of_lt valid.later) _
              (prepareOutputFrame_error rejected failed)
          · rename_i prepared ready
            exact stagePresentation_outcome valid shown
              (fun metadata =>
                buffers (valid.metadataOnlyPeer.mpr metadata))
              rejected result (prepareOutputFrame_ok ready).1 replies

/-! ## Commits and services -/

/-- What a commit or a service does: it waits, it fails and drops what was
pending, it commits, or it completes the pending presentation. -/
inductive Progress (before : Compositor) :
    Compositor → Option (FrameCommit × PresentedFrame) → Prop
  | waiting (pendingBufferReadiness : Option PendingBufferReadiness)
      (alone : before.pendingPresentation = none ∨
        pendingBufferReadiness = before.pendingBufferReadiness) :
      Progress before { before with pendingBufferReadiness } none
  | failed (pendingBufferReadiness : Option PendingBufferReadiness)
      (unready : pendingBufferReadiness = none ∨
        pendingBufferReadiness = before.pendingBufferReadiness)
      (pendingPresentation : Option PresentationTransaction)
      (dropped : pendingPresentation = none ∨
        pendingPresentation = before.pendingPresentation)
      (value : FrameCommit) (frame : PresentedFrame)
      (failed : frame.Failed) :
      Progress before
        { before with pendingBufferReadiness, pendingPresentation }
        (some (value, frame))
  | committed (idle : before.pendingPresentation = none)
      (value : FrameCommit) (after : Compositor) (frame : PresentedFrame)
      (outcome : CommitOutcome { before with pendingBufferReadiness := none }
        value after frame) :
      Progress before after
        (if frame.disposition = .pending then none else some (value, frame))
  | completed (transaction : PresentationTransaction)
      (waits : before.pendingPresentation = some transaction)
      (visibleHash : UInt64) :
      Progress before
        (promote { before with pendingPresentation := none } transaction
          visibleHash).1
        (some (transaction.commit,
          (promote { before with pendingPresentation := none } transaction
            visibleHash).2))

theorem CommitOutcome.disposition {before after : Compositor}
    {value : FrameCommit} {frame : PresentedFrame}
    (outcome : before.CommitOutcome value after frame) :
    frame.Failed ∨ frame.disposition = .pending ∨
      frame.disposition = .complete := by
  cases outcome with
  | refused _ _ _ failed => exact .inl failed
  | staged _ _ _ pending => exact .inr (.inl pending)
  | presented _ _ _ => exact .inr (.inr rfl)
  | disabled _ _ _ _ => exact .inr (.inr rfl)
  | described _ _ _ _ _ _ => exact .inr (.inr rfl)

theorem commit_progress (before : Compositor) (value : FrameCommit)
    (replies : CommitReplies) :
    before.Progress (before.step (.commit value replies))
      (before.finished (.commit value replies)) := by
  simp only [step, finished]
  unfold commit
  split
  · exact .failed before.pendingBufferReadiness (.inr rfl)
      before.pendingPresentation (.inr rfl) value _ (.inl rfl)
  · rename_i free
    simp only [presentationPending, Bool.or_eq_true, not_or,
      Option.not_isSome_iff_eq_none] at free
    obtain ⟨unready, idle⟩ := free
    simp only
    rcases firstUnready replies.reads 0 before.synchronizedBuffers with
      _ | ⟨next, readiness⟩
    · refine .committed idle value _ _ ?_
      have same : { before with pendingBufferReadiness := none } = before := by
        rw [← unready]
      rw [same]
      exact commitTransaction_outcome before value replies
    · cases readiness with
      | fatal error =>
          exact .failed before.pendingBufferReadiness (.inr rfl)
            before.pendingPresentation (.inr rfl) value _ (.inr rfl)
      | ready => exact .waiting _ (.inl idle)
      | wouldBlock => exact .waiting _ (.inl idle)

theorem completeWith_ok {before next : Compositor}
    {transaction : PresentationTransaction} {replies : ServiceReplies}
    {token : Nat} {visibleHash : UInt64} {frame : PresentedFrame}
    (completes : before.completeWith transaction replies token visibleHash =
      .ok (next, frame)) :
    (next, frame) = promote { before with pendingPresentation := none }
      transaction visibleHash := by
  unfold completeWith at completes
  simp only at completes
  split at completes
  · cases completes
  · split at completes
    · cases completes
    · split at completes
      · cases completes
      · split at completes
        · cases completes
        · exact (Except.ok.inj completes).symm

theorem serviceTransaction_progress {before : Compositor}
    {transaction : PresentationTransaction} (replies : ServiceReplies)
    (waits : before.pendingPresentation = some transaction) :
    let serviced := before.serviceTransaction transaction replies
    before.Progress serviced.1
      (if serviced.2.completion.kind = .none then none
      else some (serviced.2.completion.commit,
        serviced.2.completion.frame)) := by
  have fatal : ∀ presented : PresentedFrame, before.Progress before.abort
      (some (transaction.commit,
        { presented with disposition := .fatal })) := fun presented =>
    .failed before.pendingBufferReadiness (.inr rfl) none (.inl rfl) _ _
      (.inr rfl)
  have unfinished : before.Progress before none :=
    .waiting before.pendingBufferReadiness (.inr rfl)
  unfold serviceTransaction
  simp only
  split
  · exact fatal _
  · split
    · split
      · exact fatal _
      · split
        · exact fatal _
        · rename_i next frame completes
          have promoted := completeWith_ok completes
          obtain ⟨rfl, rfl⟩ := Prod.mk.inj promoted
          exact .completed transaction waits _
      · split
        · exact fatal _
        · exact unfinished
    · split
      · exact fatal _
      · exact unfinished

theorem serviceReadiness_progress {before : Compositor}
    (pending : PendingBufferReadiness) (replies : ServiceReplies)
    (idle : before.pendingPresentation = none) :
    let serviced := before.serviceReadiness pending replies
    before.Progress serviced.1
      (if serviced.2.completion.kind = .none then none
      else some (serviced.2.completion.commit,
        serviced.2.completion.frame)) := by
  have fatal : before.Progress { before with pendingBufferReadiness := none }
      (some (pending.commit,
        { disposition := .fatal, result := .rejectedInvalidBuffer })) :=
    .failed none (.inl rfl) before.pendingPresentation (.inr rfl) _ _
      (.inr rfl)
  unfold serviceReadiness
  simp only
  split
  · exact fatal
  · split
    · exact fatal
    · split
      · exact fatal
      · exact .waiting _ (.inl idle)
      · have outcome := commitTransaction_outcome
          { before with pendingBufferReadiness := none } pending.commit
          replies.commit
        revert outcome
        rcases commitTransaction _ pending.commit replies.commit with
          ⟨next, report⟩
        intro outcome
        have progress := Progress.committed idle pending.commit next
          report.frame outcome
        simp only
        by_cases unfinished : report.frame.disposition = .pending
        · simpa only [unfinished, if_true] using progress
        · rw [if_neg unfinished] at progress ⊢
          by_cases failed : report.frame.disposition = .fatal
          · simpa only [failed, if_true, reduceCtorEq, if_false] using progress
          · simpa only [failed, if_false, reduceCtorEq] using progress

theorem service_progress {before : Compositor} (replies : ServiceReplies)
    (exclusive : before.pendingPresentation = none ∨
      before.pendingBufferReadiness = none) :
    before.Progress (before.step (.service replies))
      (before.finished (.service replies)) := by
  simp only [step, finished]
  unfold servicePresentation
  cases unready : before.pendingBufferReadiness with
  | some pending =>
      have idle := exclusive.resolve_right (by simp [unready])
      exact serviceReadiness_progress pending replies idle
  | none =>
      cases waits : before.pendingPresentation with
      | none => exact .waiting before.pendingBufferReadiness (.inr rfl)
      | some transaction => exact serviceTransaction_progress replies waits

end Compositor

end Glasswyrm.Gwcomp
