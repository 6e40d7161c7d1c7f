import Glasswyrm.Library.Run
import Glasswyrm.Gwcomp.PresentationTransaction

namespace Glasswyrm.Gwcomp

open Glasswyrm.Compositor Drm Render Library

/-! The operations of a compositor, and what each of them can change. -/

inductive Mutation
  | output (value : OutputUpsert)
  | removeOutput (value : OutputRemove)
  | surface (value : SurfaceUpsert)
  | surfaceOutputState (value : SurfaceOutputState)
  | surfacePolicy (value : SurfacePolicyUpsert)
  | removeSurface (value : SurfaceRemove)
  | surfaceDamage (value : SurfaceDamage)
  | attach (value : BufferAttach) (descriptors : Descriptors)
  | detach (value : BufferDetach)

inductive Operation
  | connect (profile : PeerProfile) (cpuBufferSynchronization : Bool)
      (sceneProfile : SceneProfile)
      (primaryOutputId outputLayoutGeneration : Nat)
  | beginSnapshot (generation : Nat)
  | endSnapshot
  | abortSnapshot
  | mutate (mutation : Mutation)
  | commit (value : FrameCommit) (replies : CommitReplies)
  | service (replies : ServiceReplies)
  | abort
  | suspend (suspended : BackendStateResult)
  | resume (resumed : PresentResult)
  | clearReleases
  | disconnect

namespace Compositor

/-- What the reactor does with a peer whose profile it has selected. -/
def connect (compositor : Compositor) (profile : PeerProfile)
    (cpuBufferSynchronization : Bool) (sceneProfile : SceneProfile)
    (primaryOutputId outputLayoutGeneration : Nat) : Compositor :=
  match compositor.configureSceneProfile sceneProfile primaryOutputId
      outputLayoutGeneration with
  | none => compositor.disconnect
  | some configured => { configured with profile, cpuBufferSynchronization }

def clearReleases (compositor : Compositor) : Compositor :=
  { compositor with releases := ∅ }

def mutate (compositor : Compositor) : Mutation → Compositor
  | .output value => (compositor.applyOutput value).1
  | .removeOutput value => (compositor.removeOutput value).1
  | .surface value => (compositor.applySurface value).1
  | .surfaceOutputState value => (compositor.applySurfaceOutputState value).1
  | .surfacePolicy value => (compositor.applySurfacePolicy value).1
  | .removeSurface value => (compositor.removeSurface value).1
  | .surfaceDamage value => (compositor.applySurfaceDamage value).1
  | .attach value descriptors => (compositor.attach value descriptors).1
  | .detach value => (compositor.detach value).1

/-- An operation that returns false changes nothing but what it says. -/
def step (compositor : Compositor) : Operation → Compositor
  | .connect profile synchronization sceneProfile primary generation =>
      compositor.connect profile synchronization sceneProfile primary
        generation
  | .beginSnapshot generation =>
      (compositor.beginSnapshot generation).getD compositor
  | .endSnapshot => compositor.endSnapshot.getD compositor
  | .abortSnapshot => compositor.abortSnapshot
  | .mutate mutation => compositor.mutate mutation
  | .commit value replies => (compositor.commit value replies).1
  | .service replies => (compositor.servicePresentation replies).1
  | .abort => compositor.abort
  | .suspend suspended => (compositor.suspendPresentation suspended).1
  | .resume resumed => (compositor.resumePresentation resumed).1
  | .clearReleases => compositor.clearReleases
  | .disconnect => compositor.disconnect

/-- The frame that an operation finishes, with its commit: the answer to a
commit that does not stay pending, or the completion of one that did. -/
def finished (compositor : Compositor) :
    Operation → Option (FrameCommit × PresentedFrame)
  | .commit value replies =>
      let frame := (compositor.commit value replies).2.frame
      if frame.disposition = .pending then none else some (value, frame)
  | .service replies =>
      let completion := (compositor.servicePresentation replies).2.completion
      if completion.kind = .none then none
      else some (completion.commit, completion.frame)
  | _ => none

/-- A compositor before its first peer. -/
def initial (timeout : Nat) (sceneManifest : Bool) : Compositor :=
  { timeout, sceneManifest }

/-! ## Mutations -/

def snapshotIds (compositor : Compositor) :
    List Nat × List Nat × List Nat × List Nat :=
  (compositor.snapshotSurfaceIds, compositor.snapshotPolicyIds,
    compositor.snapshotOutputIds, compositor.snapshotSurfaceOutputIds)

/-- Only the pending scene changed, and what is noted of an open snapshot. -/
structure Edits (before after : Compositor) : Prop where
  scene : before.scene.Mutates after.scene
  mappings : after.mappings = before.mappings
  pendingAttachments : after.pendingAttachments = before.pendingAttachments
  committedAttachments :
    after.committedAttachments = before.committedAttachments
  preSnapshotAttachments :
    after.preSnapshotAttachments = before.preSnapshotAttachments
  output : after.output = before.output
  outputSet : after.outputSet = before.outputSet
  pendingPresentation : after.pendingPresentation = before.pendingPresentation
  pendingBufferReadiness :
    after.pendingBufferReadiness = before.pendingBufferReadiness
  releases : after.releases = before.releases
  frameOrdinal : after.frameOrdinal = before.frameOrdinal
  lastCommitId : after.lastCommitId = before.lastCommitId
  lastGeneration : after.lastGeneration = before.lastGeneration
  snapshotActive : after.snapshotActive = before.snapshotActive
  profile : after.profile = before.profile
  ids : before.snapshotActive = false → after.snapshotIds = before.snapshotIds

variable {before after : Compositor}

theorem Edits.refl (compositor : Compositor) : compositor.Edits compositor :=
  ⟨.refl _, rfl, rfl, rfl, rfl, rfl, rfl, rfl, rfl, rfl, rfl, rfl, rfl, rfl,
    rfl, fun _ => rfl⟩

/-- A change of the scene by a compositor that only noted something before. -/
theorem Edits.apply {change : SceneModel → Option SceneModel}
    (edits : before.Edits after)
    (mutates : ∀ next, change after.scene = some next →
      after.scene.Mutates next) :
    before.Edits (after.apply change).1 := by
  unfold Compositor.apply
  split
  · exact edits
  · rename_i next changed
    exact { edits with scene := edits.scene.trans (mutates next changed) }

theorem Edits.invalidateSnapshot (edits : before.Edits after) :
    before.Edits after.invalidateSnapshot.1 :=
  { edits with }

theorem applyOutput_edits (compositor : Compositor) (value : OutputUpsert) :
    compositor.Edits (compositor.applyOutput value).1 := by
  have same := Edits.refl compositor
  unfold applyOutput
  split
  · exact same
  · split
    · rename_i open_
      simp only [Bool.and_eq_true] at open_
      split
      · exact same.invalidateSnapshot
      · have listed : compositor.Edits
            { compositor with
              snapshotOutputIds :=
                value.outputId :: compositor.snapshotOutputIds } :=
          { same with
            ids := fun closed => by cases open_.2.symm.trans closed }
        simp only
        split
        · split
          · exact listed.invalidateSnapshot
          · rename_i scene configured
            refine Edits.apply
              { listed with
                scene := SceneModel.setSnapshotOutputConfiguration_mutates
                  configured }
              fun next changed => SceneModel.applyOutput_mutates changed
        · exact listed.apply fun next changed =>
            SceneModel.applyOutput_mutates changed
    · exact same.apply fun next changed =>
        SceneModel.applyOutput_mutates changed

theorem removeOutput_edits (compositor : Compositor) (value : OutputRemove) :
    compositor.Edits (compositor.removeOutput value).1 := by
  unfold removeOutput
  split
  · exact .refl compositor
  · exact (Edits.refl compositor).apply fun next changed =>
      SceneModel.removeOutput_mutates changed

theorem applySurface_edits (compositor : Compositor) (value : SurfaceUpsert) :
    compositor.Edits (compositor.applySurface value).1 := by
  have same := Edits.refl compositor
  unfold applySurface
  split
  · exact same
  · split
    · rename_i active
      split
      · exact same.invalidateSnapshot
      · exact Edits.apply
          { same with ids := fun closed => by cases active.symm.trans closed }
          fun next changed => SceneModel.applySurface_mutates changed
    · exact same.apply fun next changed =>
        SceneModel.applySurface_mutates changed

theorem applySurfaceOutputState_edits (compositor : Compositor)
    (value : SurfaceOutputState) :
    compositor.Edits (compositor.applySurfaceOutputState value).1 := by
  have same := Edits.refl compositor
  unfold applySurfaceOutputState
  split
  · exact same
  · split
    · rename_i active
      split
      · exact same.invalidateSnapshot
      · exact Edits.apply
          { same with ids := fun closed => by cases active.symm.trans closed }
          fun next changed =>
            SceneModel.applySurfaceOutputState_mutates changed
    · exact same.apply fun next changed =>
        SceneModel.applySurfaceOutputState_mutates changed

theorem applySurfacePolicy_edits (compositor : Compositor)
    (value : SurfacePolicyUpsert) :
    compositor.Edits (compositor.applySurfacePolicy value).1 := by
  have same := Edits.refl compositor
  unfold applySurfacePolicy
  split
  · exact same
  · split
    · rename_i active
      split
      · exact same.invalidateSnapshot
      · exact Edits.apply
          { same with ids := fun closed => by cases active.symm.trans closed }
          fun next changed => SceneModel.applySurfacePolicy_mutates changed
    · exact same.apply fun next changed =>
        SceneModel.applySurfacePolicy_mutates changed

theorem applySurfaceDamage_edits (compositor : Compositor)
    (value : SurfaceDamage) :
    compositor.Edits (compositor.applySurfaceDamage value).1 := by
  unfold applySurfaceDamage
  split
  · exact .refl compositor
  · exact (Edits.refl compositor).apply fun next changed =>
      SceneModel.applySurfaceDamage_mutates changed

/-- The buffer that a mutation attaches, if it succeeds. -/
def attachedBuffer (compositor : Compositor) : Mutation → Option Nat
  | .attach value descriptors =>
      if (compositor.attach value descriptors).2.isOk then some value.bufferId
      else none
  | _ => none

/-- What a mutation can do to the compositor. -/
inductive Mutated (before : Compositor) (mutation : Mutation) :
    Compositor → Prop
  | edited {after : Compositor} (edits : before.Edits after)
      (unattached : before.attachedBuffer mutation = none) :
      Mutated before mutation after
  | detached {after : Compositor} (edits : before.Edits after)
      (idle : before.presentationPending = false) (surfaceId : Nat)
      (unattached : before.attachedBuffer mutation = none) :
      Mutated before mutation
        { after with
          pendingAttachments := after.pendingAttachments.erase surfaceId }
  | invalid (bufferId : Nat) (idle : before.presentationPending = false)
      (fresh : bufferId ∉ before.mappings)
      (unattached : before.attachedBuffer mutation = none) :
      Mutated before mutation
        { before with releases := before.releases.insert bufferId .invalid }
  | attached (surfaceId bufferId : Nat) (mapping : BufferMapping)
      (idle : before.presentationPending = false)
      (fresh : bufferId ∉ before.mappings)
      (buffered : before.profile ≠ .m6MetadataProtocolServer)
      (taken : before.attachedBuffer mutation = some bufferId) :
      Mutated before mutation
        { before with
          mappings := before.mappings.insert bufferId mapping
          pendingAttachments :=
            before.pendingAttachments.insert surfaceId bufferId }

theorem attachError_none {compositor : Compositor} {value : BufferAttach}
    (allowed : compositor.attachError value = none) :
    compositor.presentationPending = false ∧
      compositor.profile ≠ .m6MetadataProtocolServer ∧
      value.bufferId ∉ compositor.mappings := by
  simp only [attachError, firstError_none_iff, List.forall_mem_cons,
    decide_eq_false_iff_not] at allowed
  obtain ⟨idle, buffered, _, _, fresh, _⟩ := allowed
  refine ⟨idle, buffered, fun member => ?_⟩
  rw [Std.ExtTreeMap.contains_iff_mem.mpr member] at fresh
  cases fresh

/-- An attachment is refused, or fails to import, or takes the buffer. -/
theorem attach_mutated (compositor : Compositor) (value : BufferAttach)
    (descriptors : Descriptors) :
    compositor.Mutated (.attach value descriptors)
      (compositor.attach value descriptors).1 := by
  cases allowed : compositor.attachError value with
  | some error =>
      have refused : compositor.attach value descriptors =
          (compositor, .error error) := by simp only [attach, allowed]
      have unattached :
          compositor.attachedBuffer (.attach value descriptors) = none := by
        simp [attachedBuffer, refused, Except.isOk, Except.toBool]
      rw [refused]
      exact .edited (.refl compositor) unattached
  | none =>
      obtain ⟨idle, buffered, fresh⟩ := attachError_none allowed
      cases imported : BufferMapping.import value descriptors with
      | error error =>
          have failed : compositor.attach value descriptors =
              (if value.bufferId = 0 then compositor
                else
                  { compositor with
                    releases :=
                      compositor.releases.insert value.bufferId .invalid },
                .error error) := by simp only [attach, allowed, imported]
          have unattached :
              compositor.attachedBuffer (.attach value descriptors) =
                none := by
            simp [attachedBuffer, failed, Except.isOk, Except.toBool]
          rw [failed]
          simp only
          split
          · exact .edited (.refl compositor) unattached
          · exact .invalid value.bufferId idle fresh unattached
      | ok mapping =>
          have took : compositor.attach value descriptors =
              ({ compositor with
                  mappings :=
                    compositor.mappings.insert value.bufferId mapping
                  pendingAttachments :=
                    compositor.pendingAttachments.insert value.surfaceId
                      value.bufferId },
                .ok ()) := by simp only [attach, allowed, imported]
          have taken :
              compositor.attachedBuffer (.attach value descriptors) =
                some value.bufferId := by
            simp [attachedBuffer, took, Except.isOk, Except.toBool]
          rw [took]
          exact .attached value.surfaceId value.bufferId mapping idle fresh
            buffered taken

theorem mutate_mutated (compositor : Compositor) (mutation : Mutation) :
    compositor.Mutated mutation (compositor.mutate mutation) := by
  cases mutation with
  | output value => exact .edited (applyOutput_edits compositor value) rfl
  | removeOutput value =>
      exact .edited (removeOutput_edits compositor value) rfl
  | surface value => exact .edited (applySurface_edits compositor value) rfl
  | surfaceOutputState value =>
      exact .edited (applySurfaceOutputState_edits compositor value) rfl
  | surfacePolicy value =>
      exact .edited (applySurfacePolicy_edits compositor value) rfl
  | surfaceDamage value =>
      exact .edited (applySurfaceDamage_edits compositor value) rfl
  | removeSurface value =>
      have edits : compositor.Edits
          (compositor.apply (·.removeSurface value)).1 :=
        (Edits.refl compositor).apply fun next removed =>
          SceneModel.removeSurface_mutates removed
      simp only [mutate, removeSurface]
      split
      · exact .edited (.refl compositor) rfl
      · rename_i free
        rw [Bool.not_eq_true] at free
        revert edits
        rcases compositor.apply (·.removeSurface value) with ⟨removed, taken⟩
        cases taken with
        | true => exact fun edits => .detached edits free value.surfaceId rfl
        | false => exact fun edits => .edited edits rfl
  | attach value descriptors =>
      exact attach_mutated compositor value descriptors
  | detach value =>
      simp only [mutate, detach]
      split
      · exact .edited (.refl compositor) rfl
      · rename_i allowed
        simp only [Bool.or_eq_true, not_or, Bool.not_eq_true] at allowed
        exact .detached (.refl compositor) allowed.1.1 value.surfaceId rfl

end Compositor

end Glasswyrm.Gwcomp
