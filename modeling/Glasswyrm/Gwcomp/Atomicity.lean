import Glasswyrm.Gwcomp.Coherence

namespace Glasswyrm.Gwcomp

open Glasswyrm.Compositor Render Library

/-- The operation does not replace the peer. -/
def Operation.Within : Operation → Prop
  | .connect _ _ _ _ _ => False
  | .disconnect => False
  | _ => True

namespace Compositor

/-! What a commit that is not accepted leaves behind, and what the accepted
ones add up to. -/

/-- What only an accepted commit may change. -/
structure Retained where
  committed : Scene
  attachments : AttachmentMap
  output : SoftwareFrame
  outputSet : Option SoftwareFrameSet
  generation : Nat
  ordinal : Nat

def retained (compositor : Compositor) : Retained where
  committed := compositor.scene.committed
  attachments := compositor.committedAttachments
  output := compositor.output
  outputSet := compositor.outputSet
  generation := compositor.lastGeneration
  ordinal := compositor.frameOrdinal

/-- The commit that the operation completes, with its frame. -/
def accepted (compositor : Compositor) (operation : Operation) :
    Option (FrameCommit × PresentedFrame) :=
  (compositor.finished operation).filter (·.2.disposition = .complete)

/-- The commits accepted along a run, in order. -/
def acceptedAlong : Compositor → List Operation →
    List (FrameCommit × PresentedFrame)
  | _, [] => []
  | compositor, operation :: rest =>
      (compositor.accepted operation).toList ++
        acceptedAlong (compositor.step operation) rest

/-- A commit identifier below every one that can still be accepted. -/
def acceptedFloor (compositor : Compositor) : Nat :=
  match compositor.pendingPresentation with
  | some transaction => transaction.commit.commitId - 1
  | none => compositor.lastCommitId

/-- What an accepted commit does. -/
structure Accepts (before after : Compositor) (value : FrameCommit)
    (frame : PresentedFrame) : Prop where
  later : before.acceptedFloor < value.commitId
  floor : value.commitId ≤ after.acceptedFloor
  generation : before.lastGeneration ≤ value.producerGeneration
  newest : after.lastGeneration = value.producerGeneration
  ordinal : after.frameOrdinal = before.frameOrdinal +
    if frame.result = .accepted then 1 else 0

/-- Nothing is accepted, and nothing retained changes. -/
structure Rests (before after : Compositor) : Prop where
  retained : after.retained = before.retained
  floor : before.acceptedFloor ≤ after.acceptedFloor

variable {before after : Compositor}

theorem Rests.refl (compositor : Compositor) : compositor.Rests compositor :=
  ⟨rfl, Nat.le_refl _⟩

theorem Edits.rests (edits : before.Edits after) : before.Rests after := by
  refine ⟨?_, ?_⟩
  · simp only [Compositor.retained, edits.scene.committed,
      edits.committedAttachments, edits.output, edits.outputSet,
      edits.lastGeneration, edits.frameOrdinal]
  · simp only [acceptedFloor, edits.pendingPresentation, edits.lastCommitId]
    exact Nat.le_refl _

theorem Mutated.rests {mutation : Mutation}
    (mutated : before.Mutated mutation after) : before.Rests after := by
  cases mutated with
  | edited edits _ => exact edits.rests
  | detached edits idle surfaceId _ => exact { edits.rests with }
  | invalid bufferId idle fresh _ => exact { Rests.refl before with }
  | attached surfaceId bufferId mapping idle fresh buffered _ =>
      exact { Rests.refl before with }

theorem acceptedFloor_le (coherent : before.Coherent) :
    before.acceptedFloor ≤ before.lastCommitId := by
  unfold acceptedFloor
  split
  · rename_i transaction waits
    have same := (coherent.pends transaction waits).commitId
    omega
  · exact Nat.le_refl _

/-! ## Commits -/

theorem CommitOutcome.settles {value : FrameCommit} {frame : PresentedFrame}
    (outcome : before.CommitOutcome value after frame)
    (idle : before.pendingPresentation = none) :
    (frame.disposition = .complete → before.Accepts after value frame) ∧
      (frame.disposition ≠ .complete → before.Rests after) := by
  have floor : before.acceptedFloor = before.lastCommitId := by
    simp [acceptedFloor, idle]
  cases outcome with
  | refused lastCommitId later _ failed =>
      refine ⟨fun complete => ?_, fun _ => ⟨rfl, ?_⟩⟩
      · rcases failed with rejected | fatal
        · cases rejected.symm.trans complete
        · cases fatal.symm.trans complete
      · rw [floor]
        simpa [acceptedFloor, idle] using later
  | staged transaction stages _ pending =>
      refine ⟨fun complete => ?_, fun _ => ⟨rfl, ?_⟩⟩
      · cases pending.symm.trans complete
      · rw [floor]
        simp only [acceptedFloor, stages.commit]
        have later := stages.later
        omega
  | presented transaction stages visibleHash =>
      refine ⟨fun _ => ⟨?_, ?_, stages.generation, ?_, ?_⟩,
        fun incomplete => absurd rfl incomplete⟩
      · rw [floor]
        exact stages.later
      · simp [acceptedFloor, promote, idle]
      · simp [promote, stages.commit]
      · simp [promote, stages.result]
  | disabled validated valid shown hidden =>
      refine ⟨fun _ => ⟨?_, ?_, valid.generation, ?_, ?_⟩,
        fun incomplete => absurd rfl incomplete⟩
      · rw [floor]
        exact valid.later
      · unfold promoteDisabledOutput releaseRetiredBuffers
        cases validated.metadataOnlyPeer <;> simp [acceptedFloor, idle]
      · rfl
      · unfold promoteDisabledOutput releaseRetiredBuffers
        cases validated.metadataOnlyPeer <;> simp [hidden]
  | described validated valid metadata shown visible hash =>
      refine ⟨fun _ => ⟨?_, ?_, valid.generation, rfl, ?_⟩,
        fun incomplete => absurd rfl incomplete⟩
      · rw [floor]
        exact valid.later
      · simp [acceptedFloor, idle]
      · simp [visible]

theorem Progress.settles {report : Option (FrameCommit × PresentedFrame)}
    (progress : before.Progress after report) (coherent : before.Coherent) :
    (∀ value frame, report = some (value, frame) →
      frame.disposition = .complete → before.Accepts after value frame) ∧
      ((∀ value frame, report = some (value, frame) →
        frame.disposition ≠ .complete) → before.Rests after) := by
  cases progress with
  | waiting readiness alone =>
      refine ⟨fun _ _ impossible => ?_, fun _ => ⟨rfl, Nat.le_refl _⟩⟩
      cases impossible
  | failed readiness unready presentation dropped value frame failed =>
      refine ⟨fun _ _ same complete => ?_, fun _ => ⟨rfl, ?_⟩⟩
      · obtain ⟨rfl, rfl⟩ := Prod.mk.inj (Option.some.inj same)
        rcases failed with rejected | fatal
        · cases rejected.symm.trans complete
        · cases fatal.symm.trans complete
      · rcases dropped with rfl | rfl
        · exact acceptedFloor_le coherent
        · exact Nat.le_refl _
  | committed idle value after frame outcome =>
      obtain ⟨accepts, rests⟩ := outcome.settles idle
      by_cases pending : frame.disposition = .pending
      · refine ⟨fun _ _ impossible => ?_, fun _ => ?_⟩
        · rw [if_pos pending] at impossible
          cases impossible
        · have rested := rests (by rw [pending]; decide)
          exact ⟨rested.retained, rested.floor⟩
      · rw [if_neg pending]
        refine ⟨fun _ _ same complete => ?_, fun incomplete => ?_⟩
        · obtain ⟨rfl, rfl⟩ := Prod.mk.inj (Option.some.inj same)
          have accepted := accepts complete
          exact ⟨accepted.later, accepted.floor, accepted.generation,
            accepted.newest, accepted.ordinal⟩
        · have rested := rests (incomplete value frame rfl)
          exact ⟨rested.retained, rested.floor⟩
  | completed transaction waits visibleHash =>
      have pends := coherent.pends transaction waits
      refine ⟨fun _ _ same _ => ?_, fun incomplete =>
        absurd rfl (incomplete _ _ rfl)⟩
      obtain ⟨rfl, rfl⟩ := Prod.mk.inj (Option.some.inj same)
      refine ⟨?_, ?_, pends.generation, rfl, ?_⟩
      · have numbered := pends.numbered
        simp only [acceptedFloor, waits]
        omega
      · simp [acceptedFloor, promote, pends.commitId]
      · simp [promote, pends.result]

/-! ## Operations -/

end Compositor

end Glasswyrm.Gwcomp
