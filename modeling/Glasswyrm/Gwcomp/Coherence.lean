import Glasswyrm.Gwcomp.Progress

namespace Glasswyrm.Gwcomp

open Glasswyrm.Compositor Drm Render Library

namespace Compositor

/-! What ties the parts of a reachable compositor together. -/

/-- The pending presentation still installs what the compositor has staged. -/
structure Pends (compositor : Compositor)
    (transaction : PresentationTransaction) : Prop where
  ready : compositor.pendingBufferReadiness = none
  closed : compositor.snapshotActive = false
  candidate : transaction.candidate.snapshotActive = false
  attachments : transaction.attachments = compositor.pendingAttachments
  releases : transaction.releases =
    compositor.calculateRetiredBuffers transaction.candidate.committed
  commitId : transaction.commit.commitId = compositor.lastCommitId
  numbered : transaction.commit.commitId ≠ 0
  generation :
    compositor.lastGeneration ≤ transaction.commit.producerGeneration
  result : transaction.presented.result = .accepted
  buffered : compositor.profile ≠ .m6MetadataProtocolServer

structure Coherent (compositor : Compositor) : Prop where
  active : compositor.scene.snapshotActive = compositor.snapshotActive
  closed : compositor.snapshotActive = false →
    compositor.preSnapshotAttachments = ∅ ∧
      compositor.snapshotIds = ([], [], [], [])
  pends : ∀ transaction, compositor.pendingPresentation = some transaction →
    compositor.Pends transaction

variable {before after : Compositor}

theorem Coherent.exclusive (coherent : before.Coherent) :
    before.pendingPresentation = none ∨
      before.pendingBufferReadiness = none := by
  cases waits : before.pendingPresentation with
  | none => exact .inl rfl
  | some transaction => exact .inr (coherent.pends transaction waits).ready

theorem initial_coherent (timeout : Nat) (sceneManifest : Bool) :
    (initial timeout sceneManifest).Coherent :=
  ⟨rfl, fun _ => ⟨rfl, rfl⟩, fun _ waits => by cases waits⟩

theorem disconnect_coherent (compositor : Compositor) :
    compositor.disconnect.Coherent :=
  ⟨rfl, fun _ => ⟨rfl, rfl⟩, fun _ waits => by cases waits⟩

theorem idle_of_free (free : before.presentationPending = false) :
    before.pendingBufferReadiness = none ∧
      before.pendingPresentation = none := by
  simpa [presentationPending] using free

/-- Nothing is pending, and the bracket of the scene agrees. -/
theorem Coherent.of_idle (idle : before.pendingPresentation = none)
    (active : before.scene.snapshotActive = before.snapshotActive)
    (closed : before.snapshotActive = false →
      before.preSnapshotAttachments = ∅ ∧
        before.snapshotIds = ([], [], [], [])) : before.Coherent :=
  ⟨active, closed, fun transaction waits => by
    cases idle.symm.trans waits⟩

theorem configureSceneProfile_some {profile : SceneProfile}
    {primary generation : Nat}
    (configured : before.configureSceneProfile profile primary generation =
      some after) :
    before.presentationPending = false ∧ before.snapshotActive = false ∧
      before.scene.initialSnapshotReceived = false ∧
      after = { before with
        scene := { profile }
        primaryOutputId := primary
        outputLayoutGeneration := generation } := by
  unfold configureSceneProfile at configured
  split at configured
  · cases configured
  · rename_i allowed
    simp only [Bool.or_eq_true, not_or, Bool.not_eq_true] at allowed
    exact ⟨allowed.1.1.1.1, allowed.1.1.1.2, allowed.1.1.2,
      (Option.some.inj configured).symm⟩

theorem connect_coherent (coherent : before.Coherent) (profile : PeerProfile)
    (synchronization : Bool) (sceneProfile : SceneProfile)
    (primary generation : Nat) :
    (before.connect profile synchronization sceneProfile primary
      generation).Coherent := by
  unfold connect
  split
  · exact disconnect_coherent before
  · rename_i configured found
    obtain ⟨free, closed, _, rfl⟩ := configureSceneProfile_some found
    exact .of_idle (idle_of_free free).2 closed.symm fun inactive =>
      coherent.closed inactive

/-- What an accepted begin does. -/
theorem beginSnapshot_some {generation : Nat}
    (opened : before.beginSnapshot generation = some after) :
    before.presentationPending = false ∧ before.snapshotActive = false ∧
      (∃ empty, after.scene = before.scene.openSnapshot empty) ∧
      after = { before.clearSnapshotIds with
        scene := after.scene
        preSnapshotAttachments := before.pendingAttachments
        pendingAttachments :=
          if before.profile = .m7BufferedProtocolServer then
            before.committedAttachments
          else ∅
        snapshotInvalid := false
        snapshotActive := true } := by
  unfold beginSnapshot at opened
  split at opened
  · cases opened
  · rename_i allowed
    simp only [Bool.or_eq_true, not_or, Bool.not_eq_true] at allowed
    obtain ⟨scene, begun, rfl⟩ := Option.map_eq_some_iff.mp opened
    refine ⟨allowed.1, allowed.2, ?_, rfl⟩
    split at begun
    · unfold SceneModel.beginOutputSnapshot at begun
      split at begun
      · cases begun
      · exact ⟨_, (Option.some.inj begun).symm⟩
    · unfold SceneModel.beginCompleteSnapshot at begun
      split at begun
      · cases begun
      · exact ⟨_, (Option.some.inj begun).symm⟩

theorem beginSnapshot_coherent {generation : Nat}
    (opened : before.beginSnapshot generation = some after) :
    after.Coherent := by
  obtain ⟨free, _, ⟨empty, scene⟩, same⟩ := beginSnapshot_some opened
  have active : after.snapshotActive = true := by rw [same]
  refine .of_idle ?_ ?_ fun closed => by cases active.symm.trans closed
  · rw [same]
    exact (idle_of_free free).2
  · rw [active, scene]
    rfl

theorem endSnapshot_some (closed : before.endSnapshot = some after) :
    before.presentationPending = false ∧ before.snapshotActive = true ∧
      before.scene.endCompleteSnapshot = some after.scene ∧
      after = { before.clearSnapshotIds with
        scene := after.scene
        pendingAttachments :=
          if before.profile = .m7BufferedProtocolServer then
            before.pendingAttachments.filter fun surfaceId _ =>
              after.scene.pending.surfaces.contains surfaceId
          else before.pendingAttachments
        preSnapshotAttachments := ∅
        snapshotActive := false } := by
  unfold endSnapshot at closed
  split at closed
  · cases closed
  · rename_i allowed
    simp only [Bool.or_eq_true, not_or, Bool.not_eq_true,
      Bool.not_eq_true', Bool.not_eq_false] at allowed
    obtain ⟨scene, ended, rfl⟩ := Option.map_eq_some_iff.mp closed
    exact ⟨allowed.1, allowed.2, ended, rfl⟩

theorem endCompleteSnapshot_closed {model next : SceneModel}
    (ended : model.endCompleteSnapshot = some next) :
    next.snapshotActive = false := by
  unfold SceneModel.endCompleteSnapshot at ended
  split at ended
  · cases ended
  · split at ended
    · cases ended
    · obtain rfl := Option.some.inj ended
      rfl

theorem endSnapshot_coherent (closed : before.endSnapshot = some after) :
    after.Coherent := by
  obtain ⟨free, _, ended, same⟩ := endSnapshot_some closed
  have inactive : after.snapshotActive = false := by rw [same]
  refine .of_idle ?_ ?_ fun _ => ?_
  · rw [same]
    exact (idle_of_free free).2
  · rw [inactive]
    exact endCompleteSnapshot_closed ended
  · rw [same]
    exact ⟨rfl, rfl⟩

theorem abortCompleteSnapshot_closed (model : SceneModel) :
    model.abortCompleteSnapshot.snapshotActive = false := by
  unfold SceneModel.abortCompleteSnapshot
  split
  · rename_i inactive
    simpa using inactive
  · rfl

theorem abortSnapshot_coherent (coherent : before.Coherent) :
    before.abortSnapshot.Coherent := by
  unfold abortSnapshot
  split
  · exact coherent
  · rename_i free
    rw [Bool.not_eq_true] at free
    exact .of_idle (idle_of_free free).2 (abortCompleteSnapshot_closed _)
      fun _ => ⟨rfl, rfl⟩

/-! ## Mutations -/

theorem Edits.pends (edits : before.Edits after)
    {transaction : PresentationTransaction}
    (pends : before.Pends transaction) : after.Pends transaction where
  ready := edits.pendingBufferReadiness.trans pends.ready
  closed := edits.snapshotActive.trans pends.closed
  candidate := pends.candidate
  attachments := pends.attachments.trans edits.pendingAttachments.symm
  releases := by
    rw [pends.releases, calculateRetiredBuffers, calculateRetiredBuffers,
      edits.mappings, edits.pendingAttachments, edits.committedAttachments]
  commitId := pends.commitId.trans edits.lastCommitId.symm
  numbered := pends.numbered
  generation := edits.lastGeneration ▸ pends.generation
  result := pends.result
  buffered := edits.profile ▸ pends.buffered

theorem Edits.coherent (edits : before.Edits after)
    (coherent : before.Coherent) : after.Coherent := by
  refine ⟨?_, ?_, ?_⟩
  · rw [edits.scene.active, edits.snapshotActive]
    exact coherent.active
  · intro inactive
    rw [edits.snapshotActive] at inactive
    rw [edits.preSnapshotAttachments, edits.ids inactive]
    exact coherent.closed inactive
  · intro transaction waits
    rw [edits.pendingPresentation] at waits
    exact edits.pends (coherent.pends transaction waits)

theorem Mutated.coherent {mutation : Mutation}
    (mutated : before.Mutated mutation after)
    (coherent : before.Coherent) : after.Coherent := by
  cases mutated with
  | edited edits _ => exact edits.coherent coherent
  | detached edits idle surfaceId _ =>
      have kept := edits.coherent coherent
      exact .of_idle
        (edits.pendingPresentation.trans (idle_of_free idle).2) kept.active
        kept.closed
  | invalid bufferId idle fresh _ =>
      exact .of_idle (idle_of_free idle).2 coherent.active coherent.closed
  | attached surfaceId bufferId mapping idle fresh buffered _ =>
      exact .of_idle (idle_of_free idle).2 coherent.active coherent.closed

/-! ## Commits -/

theorem acceptPending_closed {model : SceneModel} {value : FrameCommit}
    (closed : model.snapshotActive = false) :
    (model.acceptPending value).snapshotActive = false :=
  closed

theorem CommitOutcome.coherent {value : FrameCommit} {frame : PresentedFrame}
    (outcome : before.CommitOutcome value after frame)
    (idle : before.pendingPresentation = none)
    (ready : before.pendingBufferReadiness = none)
    (coherent : before.Coherent) : after.Coherent := by
  cases outcome with
  | refused lastCommitId later _ failed =>
      exact .of_idle idle coherent.active coherent.closed
  | staged transaction stages _ pending =>
      refine ⟨coherent.active, coherent.closed, fun other waits => ?_⟩
      obtain rfl := Option.some.inj waits
      have closed : before.snapshotActive = false :=
        coherent.active.symm.trans stages.closed
      refine ⟨ready, closed, ?_, stages.attachments, ?_, ?_, ?_, ?_,
        stages.result, stages.buffered⟩
      · rw [stages.candidate]
        exact acceptPending_closed stages.closed
      · rw [stages.releases, stages.candidate]
        rfl
      · rw [stages.commit]
      · rw [stages.commit]
        exact Nat.ne_zero_of_lt stages.later
      · rw [stages.commit]
        exact stages.generation
  | presented transaction stages visibleHash =>
      have closed : before.snapshotActive = false :=
        coherent.active.symm.trans stages.closed
      refine .of_idle idle ?_ coherent.closed
      show transaction.candidate.snapshotActive = before.snapshotActive
      rw [stages.candidate, closed]
      exact acceptPending_closed stages.closed
  | disabled validated valid shown hidden =>
      have closed : before.snapshotActive = false :=
        coherent.active.symm.trans valid.closed
      have candidate : validated.candidate.snapshotActive =
          before.snapshotActive := by
        rw [valid.candidate, closed]
        exact acceptPending_closed valid.closed
      unfold promoteDisabledOutput releaseRetiredBuffers
      cases validated.metadataOnlyPeer <;>
        exact .of_idle idle candidate coherent.closed
  | described validated valid metadata shown visible hash =>
      have closed : before.snapshotActive = false :=
        coherent.active.symm.trans valid.closed
      refine .of_idle idle ?_ coherent.closed
      show validated.candidate.snapshotActive = before.snapshotActive
      rw [valid.candidate, closed]
      exact acceptPending_closed valid.closed

theorem Progress.coherent {report : Option (FrameCommit × PresentedFrame)}
    (progress : before.Progress after report) (coherent : before.Coherent) :
    after.Coherent := by
  cases progress with
  | waiting readiness alone =>
      refine ⟨coherent.active, coherent.closed, fun transaction waits => ?_⟩
      have pends := coherent.pends transaction waits
      refine { pends with ready := ?_ }
      rcases alone with idle | same
      · cases idle.symm.trans waits
      · exact same.trans pends.ready
  | failed readiness unready presentation dropped value frame failed =>
      refine ⟨coherent.active, coherent.closed, fun transaction waits => ?_⟩
      rcases dropped with gone | kept
      · cases gone.symm.trans waits
      · have pends := coherent.pends transaction (kept.symm.trans waits)
        refine { pends with ready := ?_ }
        rcases unready with none | same
        · exact none
        · exact same.trans pends.ready
  | committed idle value after frame outcome =>
      exact outcome.coherent idle rfl
        (.of_idle idle coherent.active coherent.closed)
  | completed transaction waits visibleHash =>
      have pends := coherent.pends transaction waits
      exact .of_idle rfl (pends.candidate.trans pends.closed.symm)
        coherent.closed

theorem step_coherent (coherent : before.Coherent) (operation : Operation) :
    (before.step operation).Coherent := by
  cases operation with
  | connect profile synchronization sceneProfile primary generation =>
      exact connect_coherent coherent profile synchronization sceneProfile
        primary generation
  | beginSnapshot generation =>
      simp only [step]
      cases opened : before.beginSnapshot generation with
      | none => exact coherent
      | some after => exact beginSnapshot_coherent opened
  | endSnapshot =>
      simp only [step]
      cases closed : before.endSnapshot with
      | none => exact coherent
      | some after => exact endSnapshot_coherent closed
  | abortSnapshot => exact abortSnapshot_coherent coherent
  | mutate mutation => exact (mutate_mutated before mutation).coherent coherent
  | commit value replies =>
      exact (commit_progress before value replies).coherent coherent
  | service replies =>
      exact (service_progress replies coherent.exclusive).coherent coherent
  | abort => exact .of_idle rfl coherent.active coherent.closed
  | suspend suspended =>
      simp only [step, suspendPresentation]
      split
      · exact coherent
      · split
        · exact coherent
        · split
          · exact coherent
          · exact ⟨coherent.active, coherent.closed, fun transaction waits =>
              { coherent.pends transaction waits with }⟩
  | resume resumed =>
      simp only [step, resumePresentation]
      split
      · exact coherent
      · split
        · exact coherent
        · exact ⟨coherent.active, coherent.closed, fun transaction waits =>
            { coherent.pends transaction waits with }⟩
  | clearReleases =>
      exact ⟨coherent.active, coherent.closed, fun transaction waits =>
        { coherent.pends transaction waits with }⟩
  | disconnect => exact disconnect_coherent before

theorem run_coherent (timeout : Nat) (sceneManifest : Bool)
    (operations : List Operation) :
    (run step (initial timeout sceneManifest) operations).Coherent := by
  have keeps : ∀ compositor operation, Coherent compositor →
      Coherent (step compositor operation) :=
    fun _ operation coherent => step_coherent coherent operation
  exact run_preserves keeps (initial_coherent timeout sceneManifest) operations

end Compositor

end Glasswyrm.Gwcomp
