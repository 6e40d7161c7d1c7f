import Glasswyrm.Gwcomp.Coherence

namespace Glasswyrm.Gwcomp

open Glasswyrm.Compositor Library

namespace Compositor

/-! Whether an abort of a snapshot gives back what the begin took. -/

/-- What a snapshot replaces: the pending scene, the explicit damage and the
pending attachments. -/
def pendingState (compositor : Compositor) :
    Scene × List PendingDamage × AttachmentMap :=
  (compositor.scene.pending, compositor.scene.explicitDamage,
    compositor.pendingAttachments)

/-- A snapshot that is opened here, changed and aborted leaves what was
pending. -/
def UndoesSnapshots (compositor : Compositor) : Prop :=
  ∀ generation opened, compositor.beginSnapshot generation = some opened →
    ∀ mutations : List Mutation,
      (run mutate opened mutations).abortSnapshot.pendingState =
        compositor.pendingState

/-- Without an open snapshot there is nothing to abort. -/
def IgnoresAbort (compositor : Compositor) : Prop :=
  compositor.snapshotActive = false →
    compositor.abortSnapshot.scene.pending = compositor.scene.pending ∧
      compositor.abortSnapshot.pendingAttachments =
        compositor.pendingAttachments ∧
      compositor.abortSnapshot.snapshotIds = compositor.snapshotIds

/-- The abort finds a snapshot, or is put off, or has nothing to lose. -/
def AbortHarmless (compositor : Compositor) : Prop :=
  compositor.snapshotActive = true ∨ compositor.presentationPending = true ∨
    compositor.pendingAttachments = ∅

/-! ## An open snapshot -/

/-- The snapshot that was opened in the first state is still open. -/
structure Opened (first compositor : Compositor) : Prop where
  idle : compositor.presentationPending = false
  active : compositor.scene.snapshotActive = true
  undo : compositor.scene.undoPoint =
    (some first.scene.pending, first.scene.explicitDamage)
  attachments :
    compositor.preSnapshotAttachments = first.pendingAttachments

variable {first before after : Compositor}

theorem beginSnapshot_opened {generation : Nat}
    (opened : first.beginSnapshot generation = some after) :
    first.Opened after := by
  obtain ⟨free, _, ⟨empty, scene⟩, same⟩ := beginSnapshot_some opened
  refine ⟨?_, ?_, ?_, ?_⟩
  · rw [same]
    exact free
  · rw [scene]
    rfl
  · rw [scene]
    rfl
  · rw [same]

theorem Edits.opened (edits : before.Edits after)
    (opened : first.Opened before) : first.Opened after where
  idle := by
    have idle := opened.idle
    simp only [presentationPending] at idle ⊢
    rwa [edits.pendingBufferReadiness, edits.pendingPresentation]
  active := edits.scene.active.trans opened.active
  undo := edits.scene.undo.trans opened.undo
  attachments := edits.preSnapshotAttachments.trans opened.attachments

theorem Mutated.opened {mutation : Mutation}
    (mutated : before.Mutated mutation after)
    (opened : first.Opened before) : first.Opened after := by
  cases mutated with
  | edited edits _ => exact edits.opened opened
  | detached edits idle surfaceId _ => exact { edits.opened opened with }
  | invalid bufferId idle fresh _ => exact { opened with }
  | attached surfaceId bufferId mapping idle fresh buffered _ =>
      exact { opened with }

theorem Opened.abort (opened : first.Opened before) :
    before.abortSnapshot.pendingState = first.pendingState := by
  obtain ⟨pending, damage⟩ := Prod.mk.inj opened.undo
  simp only [abortSnapshot, opened.idle, Bool.false_eq_true, if_false,
    pendingState, SceneModel.abortCompleteSnapshot, opened.active,
    Bool.not_true, pending, damage, Option.getD_some, opened.attachments]

theorem undoesSnapshots (compositor : Compositor) :
    compositor.UndoesSnapshots := by
  intro generation opened begun mutations
  have keeps : ∀ state mutation, compositor.Opened state →
      compositor.Opened (mutate state mutation) :=
    fun state mutation holds => (mutate_mutated state mutation).opened holds
  have final :=
    run_preserves keeps (beginSnapshot_opened begun) mutations
  exact final.abort

/-! ## No open snapshot -/

theorem ignoresAbort_iff (coherent : before.Coherent) :
    before.IgnoresAbort ↔ before.AbortHarmless := by
  cases active : before.snapshotActive with
  | true => simp [IgnoresAbort, AbortHarmless, active]
  | false =>
      cases free : before.presentationPending with
      | true =>
          have same : before.abortSnapshot = before := by
            simp [abortSnapshot, free]
          refine ⟨fun _ => .inr (.inl free), fun _ _ => ?_⟩
          rw [same]
          exact ⟨rfl, rfl, rfl⟩
      | false =>
          obtain ⟨attachments, ids⟩ := coherent.closed active
          have scene : before.scene.abortCompleteSnapshot = before.scene := by
            simp [SceneModel.abortCompleteSnapshot, coherent.active, active]
          have aborted : before.abortSnapshot =
              { before.clearSnapshotIds with
                pendingAttachments := ∅
                preSnapshotAttachments := ∅
                snapshotActive := false
                snapshotInvalid := false } := by
            simp only [abortSnapshot, free, Bool.false_eq_true, if_false,
              scene, attachments]
            rfl
          constructor
          · intro ignores
            have kept := (ignores active).2.1
            rw [aborted] at kept
            exact .inr (.inr kept.symm)
          · rintro (impossible | impossible | empty) _
            · cases active.symm.trans impossible
            · cases free.symm.trans impossible
            · rw [aborted]
              exact ⟨rfl, empty.symm, ids.symm⟩

/-- A snapshot can always be undone, and an abort that finds none is without
effect exactly where nothing is attached or a presentation holds it off. -/
theorem abort_undoes_iff (timeout : Nat) (sceneManifest : Bool)
    (operations : List Operation) :
    let compositor := run step (initial timeout sceneManifest) operations
    (compositor.UndoesSnapshots ∧ compositor.IgnoresAbort) ↔
      compositor.AbortHarmless := by
  intro compositor
  have coherent := run_coherent timeout sceneManifest operations
  rw [← ignoresAbort_iff coherent]
  exact and_iff_right (undoesSnapshots compositor)

/-- A first snapshot that attaches a buffer to a surface. -/
def attachingRun : List Operation :=
  [.beginSnapshot 1,
    .mutate (.attach
      { bufferId := 7
        surfaceId := 1
        width := 1
        height := 1
        stride := 4
        storageSize := 4 } {}),
    .endSnapshot]

/-- An abort that follows a begin which was declined detaches the buffer. -/
theorem abort_without_snapshot_detaches :
    ¬((run step (initial 2000 false) attachingRun).UndoesSnapshots ∧
      (run step (initial 2000 false) attachingRun).IgnoresAbort) := by
  rintro ⟨_, ignores⟩
  have kept := (ignores (by decide)).2.1
  have lost : (run step (initial 2000 false)
      attachingRun).abortSnapshot.pendingAttachments[1]? = none := by decide
  have attached : (run step (initial 2000 false)
      attachingRun).pendingAttachments[1]? = some 7 := by decide
  rw [kept, attached] at lost
  cases lost

end Compositor

end Glasswyrm.Gwcomp
