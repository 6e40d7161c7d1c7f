import Glasswyrm.Library.Run
import Glasswyrm.Compositor.Scene

namespace Glasswyrm.Compositor

open Library Wm

/-! Runs of a scene model: what holds of the committed scene whatever was
applied, aborted and committed before. -/

inductive SceneOperation
  | beginSnapshot
  | beginOutputSnapshot (primaryOutputId configurationGeneration : Nat)
  | configureSnapshot (primaryOutputId configurationGeneration : Nat)
  | endSnapshot
  | abortSnapshot
  | output (output : OutputUpsert)
  | removeOutput (output : OutputRemove)
  | surface (surface : SurfaceUpsert)
  | surfaceOutputState (state : SurfaceOutputState)
  | surfacePolicy (policy : SurfacePolicyUpsert)
  | removeSurface (surface : SurfaceRemove)
  | surfaceDamage (damage : SurfaceDamage)
  | commit (frame : FrameCommit)
  | disconnect

namespace SceneModel

/-- The change an operation asks for; `none` where the source returns false. -/
def mutate (model : SceneModel) : SceneOperation → Option SceneModel
  | .beginSnapshot => model.beginCompleteSnapshot
  | .beginOutputSnapshot primary generation =>
      model.beginOutputSnapshot primary generation
  | .configureSnapshot primary generation =>
      model.setSnapshotOutputConfiguration primary generation
  | .endSnapshot => model.endCompleteSnapshot
  | .abortSnapshot => some model.abortCompleteSnapshot
  | .output output => model.applyOutput output
  | .removeOutput output => model.removeOutput output
  | .surface surface => model.applySurface surface
  | .surfaceOutputState state => model.applySurfaceOutputState state
  | .surfacePolicy policy => model.applySurfacePolicy policy
  | .removeSurface surface => model.removeSurface surface
  | .surfaceDamage damage => model.applySurfaceDamage damage
  | .commit frame => some (model.commit frame).2
  | .disconnect => some model.disconnect

/-- An operation that returns false changes nothing. -/
def step (model : SceneModel) (operation : SceneOperation) : SceneModel :=
  (model.mutate operation).getD model

end SceneModel

/-! ## Pending scenes -/

/-- The output map that the historical profile keeps beside its output. -/
def historicalOutputs : Option OutputUpsert → KeyMap OutputUpsert
  | none => ∅
  | some output => (∅ : KeyMap OutputUpsert).insert output.outputId output

/-- Surfaces are valid and filed under their own identifiers. -/
structure Staged (profile : SceneProfile) (scene : Scene) : Prop where
  surfaces : ∀ (id : Nat) surface, scene.surfaces[id]? = some surface →
    surface.surfaceId = id ∧ validSceneSurface surface profile = true
  single : profile = .historical →
    scene.outputs = historicalOutputs scene.output

theorem empty_staged (profile : SceneProfile) : Staged profile {} :=
  ⟨by simp, fun _ => rfl⟩

theorem inferHistoricalOutputState_surfaces (scene : Scene) :
    (inferHistoricalOutputState scene).surfaces = scene.surfaces := by
  unfold inferHistoricalOutputState
  cases scene.output <;> rfl

theorem inferHistoricalOutputState_single (scene : Scene) :
    (inferHistoricalOutputState scene).outputs =
      historicalOutputs (inferHistoricalOutputState scene).output := by
  unfold inferHistoricalOutputState
  cases scene.output <;> simp [historicalOutputs]

namespace SceneModel

/-- The pending scene, and the one an open snapshot would return to, are both
staged for the profile. -/
structure PendingStaged (model : SceneModel) : Prop where
  pending : Staged model.profile model.pending
  kept : ∀ scene, model.preSnapshotPending = some scene →
    Staged model.profile scene

theorem withPending_staged {model : SceneModel} {scene : Scene}
    (surfaces : ∀ (id : Nat) surface, scene.surfaces[id]? = some surface →
      surface.surfaceId = id ∧ validSceneSurface surface model.profile = true)
    (staged : model.PendingStaged) :
    (model.withPending scene).PendingStaged := by
  refine ⟨?_, staged.kept⟩
  unfold withPending
  cases profile : model.profile with
  | historical =>
      simp only [if_true]
      rw [profile] at surfaces
      refine ⟨?_, fun _ => inferHistoricalOutputState_single scene⟩
      rw [inferHistoricalOutputState_surfaces]
      exact surfaces
  | outputModel =>
      rw [profile] at surfaces
      exact ⟨surfaces, fun impossible => by cases impossible⟩

/-! ## Committed scenes -/

/-- What a committed scene satisfies. -/
structure Consistent (profile : SceneProfile) (scene : Scene) : Prop where
  surfaces : ∀ (id : Nat) surface, scene.surfaces[id]? = some surface →
    surface.surfaceId = id ∧ validSceneSurface surface profile = true
  cursors : ∀ (id : Nat) surface, scene.surfaces[id]? = some surface →
    cursorSurface surface = true → scene.surfacePolicies[id]? = none
  metadataOnly : ∀ (id : Nat) surface, scene.surfaces[id]? = some surface →
    cursorSurface surface = false → metadataSurface surface = true →
      ∃ policy, scene.surfacePolicies[id]? = some policy ∧
        policy.x11WindowId = surface.x11WindowId
  known : ∀ id : Nat, id ∈ scene.surfacePolicies → id ∈ scene.surfaces
  historical : profile = .historical → ∃ output, scene.output = some output ∧
    scene.outputs = historicalOutputs (some output) ∧
      ∀ (id : Nat) surface, scene.surfaces[id]? = some surface →
        surface.outputId = output.outputId
  outputModel : profile = .outputModel →
    validateOutputModelScene scene = .accepted

/-- The committed scene is consistent, unless nothing was committed yet or the
historical profile has committed a scene without an output. -/
inductive Settled (model : SceneModel) : Prop
  | initial (fresh : model.presentedGeneration = 0)
      (empty : model.committed = {})
  | outputless (profile : model.profile = .historical)
      (output : model.committed.output = none)
      (outputs : model.committed.outputs = ∅)
      (surfaces : ∀ id : Nat, id ∉ model.committed.surfaces)
  | consistent (scene : Consistent model.profile model.committed)

theorem policyRejection_none {scene : Scene}
    (clean : policyRejection scene = none) :
    (∀ (id : Nat) surface, scene.surfaces[id]? = some surface →
      policyAgrees scene id surface = true) ∧
      ∀ id : Nat, id ∈ scene.surfacePolicies → id ∈ scene.surfaces := by
  unfold policyRejection at clean
  split at clean
  · cases clean
  · rename_i agreed
    split at clean
    · cases clean
    · rename_i known
      rw [Bool.not_eq_true', Bool.not_eq_false, List.all_eq_true]
        at agreed known
      refine ⟨fun id surface found => ?_, fun id member => ?_⟩
      · exact agreed (id, surface) (KeyMap.mem_toList.mpr found)
      · exact Std.ExtTreeMap.contains_iff_mem.mp
          (known id (Std.ExtTreeMap.mem_keys.mpr member))

/-- The checks common to both profiles make a staged scene consistent. -/
theorem consistent_of_checks {profile : SceneProfile} {scene : Scene}
    (staged : Staged profile scene) (clean : policyRejection scene = none)
    (historical : profile = .historical → ∃ output, scene.output =
      some output ∧ ∀ (id : Nat) surface,
        scene.surfaces[id]? = some surface →
          surface.outputId = output.outputId)
    (outputModel : profile = .outputModel →
      validateOutputModelScene scene = .accepted) :
    Consistent profile scene := by
  obtain ⟨agreed, known⟩ := policyRejection_none clean
  refine ⟨staged.surfaces, ?_, ?_, known, ?_, outputModel⟩
  · intro id surface found cursor
    have agrees := agreed id surface found
    simp only [policyAgrees, cursor, if_true, Option.isNone_iff_eq_none]
      at agrees
    exact agrees
  · intro id surface found plain metadata
    have agrees := agreed id surface found
    simp only [policyAgrees, plain, metadata, Bool.not_true, Bool.false_or,
      Bool.false_eq_true, if_false, decide_eq_true_eq] at agrees
    exact Option.map_eq_some_iff.mp agrees
  · intro same
    obtain ⟨output, present, assigned⟩ := historical same
    exact ⟨output, present, by rw [← present]; exact staged.single same,
      assigned⟩

theorem outputModelRejection_none {pending : Scene} {frame : FrameCommit}
    (clean : outputModelRejection pending frame = none) :
    validateOutputModelScene pending = .accepted ∧
      policyRejection pending = none := by
  unfold outputModelRejection at clean
  split at clean
  · rename_i accepted
    simp only at clean
    split at clean
    · cases clean
    · exact ⟨accepted, clean⟩
  · cases clean

theorem historicalRejection_none {pending : Scene} {output : OutputUpsert}
    {frame : FrameCommit}
    (clean : historicalRejection pending output frame = none) :
    (∀ (id : Nat) surface, pending.surfaces[id]? = some surface →
      surface.outputId = output.outputId) ∧ policyRejection pending = none := by
  unfold historicalRejection at clean
  split at clean
  · cases clean
  · split at clean
    · cases clean
    · rename_i assigned
      rw [Bool.not_eq_true', Bool.not_eq_false, List.all_eq_true] at assigned
      refine ⟨fun id surface found => ?_, clean⟩
      exact of_decide_eq_true
        (assigned (id, surface) (KeyMap.mem_toList.mpr found))

/-- How a commit can end. -/
inductive CommitOutcome (model : SceneModel) (frame : FrameCommit) : Prop
  | rejected (result : (model.commit frame).1.accepted = false)
      (generation : (model.commit frame).1.presentedGeneration =
        model.presentedGeneration)
      (unchanged : (model.commit frame).2 = model)
  | outputless (result : (model.commit frame).1.result = .dropped)
      (profile : model.profile = .historical)
      (output : model.pending.output = none)
      (surfaces : model.pending.surfaces.isEmpty = true)
      (identified : frame.commitId ≠ 0 ∧ frame.producerGeneration ≠ 0)
      (next : (model.commit frame).2 = model.acceptPending frame)
  | dropped (result : (model.commit frame).1.result = .dropped)
      (profile : model.profile = .historical) (output : OutputUpsert)
      (present : model.pending.output = some output)
      (disabled : output.enabled = false)
      (clean : historicalRejection model.pending output frame = none)
      (identified : frame.commitId ≠ 0 ∧ frame.producerGeneration ≠ 0)
      (next : (model.commit frame).2 = model.acceptPending frame)
  | accepted (result : (model.commit frame).1.result = .accepted)
      (historical : model.profile = .historical → ∃ output,
        model.pending.output = some output ∧ output.enabled = true ∧
          historicalRejection model.pending output frame = none)
      (outputModel : model.profile = .outputModel →
        outputModelRejection model.pending frame = none)
      (identified : frame.commitId ≠ 0 ∧ frame.producerGeneration ≠ 0)
      (next : (model.commit frame).2 = model.acceptPending frame)

theorem CommitResult.accepted_eq_false {commit : CommitResult} :
    commit.accepted = false ↔
      commit.result ≠ .accepted ∧ commit.result ≠ .dropped := by
  simp [CommitResult.accepted]

/-- The validator accepts a scene or names a reason; it drops nothing. -/
theorem validateSurface_not_dropped (scene : Scene) (id : Nat)
    (surface : SurfaceUpsert) :
    validateSurface scene id surface ≠ .dropped := by
  unfold validateSurface
  split
  · simp
  · split
    · simp
    · split
      · simp
      · split
        · split <;> simp
        · split
          · simp
          · split
            · simp
            · split <;> simp

theorem validateOutputModelScene_not_dropped (scene : Scene) :
    validateOutputModelScene scene ≠ .dropped := by
  have surfaces : firstRejection (scene.surfaces.toList.map fun entry =>
      validateSurface scene entry.1 entry.2) ≠ .dropped := by
    unfold firstRejection
    cases found : (scene.surfaces.toList.map fun entry =>
        validateSurface scene entry.1 entry.2).find? (· ≠ .accepted) with
    | none => simp
    | some result =>
        obtain ⟨entry, _, rfl⟩ :=
          List.mem_map.mp (List.mem_of_find?_eq_some found)
        exact validateSurface_not_dropped scene entry.1 entry.2
  unfold validateOutputModelScene
  split
  · simp
  · split
    · simp
    · split
      · simp
      · split
        · simp
        · split
          · simp
          · split
            · split <;> simp
            · exact surfaces

theorem policyRejection_some {scene : Scene} {result : FrameResult}
    (rejected : policyRejection scene = some result) :
    result ≠ .accepted ∧ result ≠ .dropped := by
  unfold policyRejection at rejected
  split at rejected
  · obtain rfl := Option.some.inj rejected
    decide
  · split at rejected
    · obtain rfl := Option.some.inj rejected
      decide
    · cases rejected

theorem outputModelRejection_some {pending : Scene} {frame : FrameCommit}
    {result : FrameResult}
    (rejected : outputModelRejection pending frame = some result) :
    result ≠ .accepted ∧ result ≠ .dropped := by
  unfold outputModelRejection at rejected
  split at rejected
  · simp only at rejected
    split at rejected
    · obtain rfl := Option.some.inj rejected
      decide
    · exact policyRejection_some rejected
  · rename_i unaccepted
    obtain rfl := Option.some.inj rejected
    exact ⟨unaccepted, validateOutputModelScene_not_dropped pending⟩

theorem historicalRejection_some {pending : Scene} {output : OutputUpsert}
    {frame : FrameCommit} {result : FrameResult}
    (rejected : historicalRejection pending output frame = some result) :
    result ≠ .accepted ∧ result ≠ .dropped := by
  unfold historicalRejection at rejected
  split at rejected
  · obtain rfl := Option.some.inj rejected
    decide
  · split at rejected
    · obtain rfl := Option.some.inj rejected
      decide
    · exact policyRejection_some rejected

theorem commit_cases (model : SceneModel) (frame : FrameCommit) :
    CommitOutcome model frame := by
  by_cases refused : (model.snapshotActive || !model.initialSnapshotReceived ||
      frame.commitId = 0 || frame.producerGeneration = 0 ||
      frame.flags ≠ 0) = true
  · have same : model.commit frame =
        ({ presentedGeneration := model.presentedGeneration }, model) := by
      simp only [commit, refused, if_true]
    exact .rejected (by rw [same]; rfl) (by rw [same]) (by rw [same])
  · have identified :
        frame.commitId ≠ 0 ∧ frame.producerGeneration ≠ 0 := by
      simp only [Bool.or_eq_true, decide_eq_true_eq, not_or] at refused
      exact ⟨refused.1.1.2, refused.1.2⟩
    rw [Bool.not_eq_true] at refused
    cases profile : model.profile with
    | outputModel =>
        cases checked : outputModelRejection model.pending frame with
        | some result =>
            obtain ⟨unaccepted, undropped⟩ :=
              outputModelRejection_some checked
            have same : model.commit frame =
                ({ result
                   presentedGeneration := model.presentedGeneration },
                  model) := by
              simp only [commit, refused, profile, checked,
                Bool.false_eq_true, if_false]
            refine .rejected ?_ (by rw [same]) (by rw [same])
            rw [same]
            exact CommitResult.accepted_eq_false.mpr ⟨unaccepted, undropped⟩
        | none =>
            have same : model.commit frame =
                ({ result := .accepted
                   presentedGeneration := frame.producerGeneration },
                  model.acceptPending frame) := by
              simp only [commit, refused, profile, checked,
                Bool.false_eq_true, if_false]
            refine .accepted (by rw [same]) ?_ (fun _ => checked) identified
              (by rw [same])
            rw [profile]
            intro impossible
            cases impossible
    | historical =>
        cases present : model.pending.output with
        | none =>
            by_cases empty : model.pending.surfaces.isEmpty = true
            · have same : model.commit frame =
                  ({ result := .dropped
                     presentedGeneration := frame.producerGeneration },
                    model.acceptPending frame) := by
                simp only [commit, refused, profile, present, empty, if_false,
                  Bool.not_true, Bool.false_eq_true]
              exact .outputless (by rw [same]) profile present empty
                identified (by rw [same])
            · have same : model.commit frame =
                  ({ presentedGeneration := model.presentedGeneration },
                    model) := by
                simp only [commit, refused, profile, present, empty,
                  Bool.not_false, Bool.false_eq_true, if_false, if_true]
              exact .rejected (by rw [same]; rfl) (by rw [same])
                (by rw [same])
        | some output =>
            cases checked : historicalRejection model.pending output frame with
            | some result =>
                obtain ⟨unaccepted, undropped⟩ :=
                  historicalRejection_some checked
                have same : model.commit frame =
                    ({ result
                       presentedGeneration := model.presentedGeneration },
                      model) := by
                  simp only [commit, refused, profile, present, checked,
                    Bool.false_eq_true, if_false]
                refine .rejected ?_ (by rw [same]) (by rw [same])
                rw [same]
                exact CommitResult.accepted_eq_false.mpr
                  ⟨unaccepted, undropped⟩
            | none =>
                by_cases enabled : output.enabled = true
                · have same : model.commit frame =
                      ({ result := .accepted
                         damage := model.sceneDamage output
                         presentedGeneration := frame.producerGeneration },
                        model.acceptPending frame) := by
                    simp only [commit, refused, profile, present, checked,
                      enabled, Bool.not_true, Bool.false_eq_true, if_false]
                  refine .accepted (by rw [same])
                    (fun _ => ⟨output, present, enabled, checked⟩) ?_
                    identified (by rw [same])
                  rw [profile]
                  intro impossible
                  cases impossible
                · have same : model.commit frame =
                      ({ result := .dropped
                         presentedGeneration := frame.producerGeneration },
                        model.acceptPending frame) := by
                    simp only [commit, refused, profile, present, checked,
                      enabled, Bool.not_false, Bool.false_eq_true, if_false,
                      if_true]
                  exact .dropped (by rw [same]) profile output present
                    (by simpa using enabled) checked identified (by rw [same])

/-! ## Operations other than a commit -/

/-- The operation leaves the committed side alone and keeps the pending scenes
staged. -/
structure Keeps (model next : SceneModel) : Prop where
  profile : next.profile = model.profile
  committed : next.committed = model.committed
  generation : next.presentedGeneration = model.presentedGeneration
  staged : model.PendingStaged → next.PendingStaged

theorem Keeps.settled {model next : SceneModel} (keeps : model.Keeps next)
    (settled : model.Settled) : next.Settled := by
  cases settled with
  | initial fresh empty =>
      exact .initial (keeps.generation.trans fresh)
        (keeps.committed.trans empty)
  | outputless profile output outputs surfaces =>
      rw [← keeps.committed] at output outputs surfaces
      exact .outputless (keeps.profile.trans profile) output outputs surfaces
  | consistent scene =>
      rw [← keeps.committed, ← keeps.profile] at scene
      exact .consistent scene

/-- A new pending scene with staged surfaces. -/
theorem withPending_keeps {model : SceneModel} {scene : Scene}
    (surfaces : model.PendingStaged → ∀ (id : Nat) surface,
      scene.surfaces[id]? = some surface → surface.surfaceId = id ∧
        validSceneSurface surface model.profile = true) :
    model.Keeps (model.withPending scene) :=
  ⟨rfl, rfl, rfl, fun staged => withPending_staged (surfaces staged) staged⟩

theorem openSnapshot_keeps (model : SceneModel) {empty : Scene}
    (staged : Staged model.profile empty) :
    model.Keeps (model.openSnapshot empty) := by
  refine ⟨rfl, rfl, rfl, fun holds => ⟨staged, fun scene kept => ?_⟩⟩
  obtain rfl := Option.some.inj kept
  exact holds.pending

variable {model next : SceneModel}

theorem beginCompleteSnapshot_keeps
    (opened : model.beginCompleteSnapshot = some next) : model.Keeps next := by
  unfold beginCompleteSnapshot at opened
  split at opened
  · cases opened
  · obtain rfl := Option.some.inj opened
    exact openSnapshot_keeps model (empty_staged _)

theorem beginOutputSnapshot_keeps {primary generation : Nat}
    (opened : model.beginOutputSnapshot primary generation = some next) :
    model.Keeps next := by
  unfold beginOutputSnapshot at opened
  split at opened
  · cases opened
  · obtain rfl := Option.some.inj opened
    exact openSnapshot_keeps model ⟨by simp, fun _ => rfl⟩

theorem setSnapshotOutputConfiguration_keeps {primary generation : Nat}
    (configured : model.setSnapshotOutputConfiguration primary generation =
      some next) : model.Keeps next := by
  unfold setSnapshotOutputConfiguration at configured
  split at configured
  · cases configured
  · obtain rfl := Option.some.inj configured
    exact ⟨rfl, rfl, rfl, fun staged =>
      ⟨⟨staged.pending.surfaces, staged.pending.single⟩, staged.kept⟩⟩

theorem endCompleteSnapshot_keeps
    (closed : model.endCompleteSnapshot = some next) : model.Keeps next := by
  unfold endCompleteSnapshot at closed
  split at closed
  · cases closed
  · split at closed
    · cases closed
    · obtain rfl := Option.some.inj closed
      refine ⟨rfl, rfl, rfl, fun staged => ⟨?_, by simp⟩⟩
      exact (withPending_staged staged.pending.surfaces staged).pending

theorem abortCompleteSnapshot_keeps (model : SceneModel) :
    model.Keeps model.abortCompleteSnapshot := by
  unfold abortCompleteSnapshot
  split
  · exact ⟨rfl, rfl, rfl, id⟩
  · refine ⟨rfl, rfl, rfl, fun staged => ⟨?_, by simp⟩⟩
    cases saved : model.preSnapshotPending with
    | none => exact staged.pending
    | some scene => exact staged.kept scene saved

theorem applyOutput_keeps {output : OutputUpsert}
    (applied : model.applyOutput output = some next) : model.Keeps next := by
  unfold applyOutput at applied
  split at applied
  · cases applied
  · split at applied
    · obtain rfl := Option.some.inj applied
      exact withPending_keeps fun staged => staged.pending.surfaces
    · split at applied
      · cases applied
      · obtain rfl := Option.some.inj applied
        exact withPending_keeps fun staged => staged.pending.surfaces

theorem removeOutput_keeps {output : OutputRemove}
    (removed : model.removeOutput output = some next) : model.Keeps next := by
  unfold removeOutput at removed
  split at removed
  · cases removed
  · split at removed
    all_goals
      split at removed
      · cases removed
      · obtain rfl := Option.some.inj removed
        exact withPending_keeps fun staged => staged.pending.surfaces

theorem applySurface_keeps {surface : SurfaceUpsert}
    (applied : model.applySurface surface = some next) : model.Keeps next := by
  unfold applySurface at applied
  split at applied
  · cases applied
  · rename_i allowed
    split at applied
    · cases applied
    · split at applied
      · cases applied
      · obtain rfl := Option.some.inj applied
        refine withPending_keeps fun staged id found lookup => ?_
        rw [KeyMap.lookup_insert] at lookup
        split at lookup
        · rename_i same
          obtain rfl := Option.some.inj lookup
          simp only [Bool.or_eq_true, Bool.not_eq_true', not_or,
            Bool.not_eq_false] at allowed
          exact ⟨same, allowed.2⟩
        · exact staged.pending.surfaces id found lookup

theorem applySurfaceOutputState_keeps {state : SurfaceOutputState}
    (applied : model.applySurfaceOutputState state = some next) :
    model.Keeps next := by
  unfold applySurfaceOutputState at applied
  split at applied
  · cases applied
  · split at applied
    · cases applied
    · obtain rfl := Option.some.inj applied
      exact ⟨rfl, rfl, rfl, fun staged =>
        ⟨⟨staged.pending.surfaces, staged.pending.single⟩, staged.kept⟩⟩

theorem applySurfacePolicy_keeps {policy : SurfacePolicyUpsert}
    (applied : model.applySurfacePolicy policy = some next) :
    model.Keeps next := by
  unfold applySurfacePolicy at applied
  split at applied
  · cases applied
  · split at applied
    · cases applied
    · obtain rfl := Option.some.inj applied
      exact ⟨rfl, rfl, rfl, fun staged =>
        ⟨⟨staged.pending.surfaces, staged.pending.single⟩, staged.kept⟩⟩

theorem removeSurface_keeps {surface : SurfaceRemove}
    (removed : model.removeSurface surface = some next) : model.Keeps next := by
  unfold removeSurface at removed
  split at removed
  · cases removed
  · obtain rfl := Option.some.inj removed
    refine ⟨rfl, rfl, rfl, fun staged =>
      ⟨⟨fun id found lookup => ?_, staged.pending.single⟩, staged.kept⟩⟩
    rw [KeyMap.lookup_erase] at lookup
    split at lookup
    · cases lookup
    · exact staged.pending.surfaces id found lookup

theorem applySurfaceDamage_keeps {damage : SurfaceDamage}
    (applied : model.applySurfaceDamage damage = some next) :
    model.Keeps next := by
  unfold applySurfaceDamage at applied
  split at applied
  · cases applied
  · split at applied
    · cases applied
    · obtain rfl := Option.some.inj applied
      exact ⟨rfl, rfl, rfl, fun staged => ⟨staged.pending, staged.kept⟩⟩

/-! ## Runs -/

structure Invariant (profile : SceneProfile) (model : SceneModel) :
    Prop where
  profile : model.profile = profile
  staged : model.PendingStaged
  settled : model.Settled

theorem initial_invariant (profile : SceneProfile) :
    ({ profile } : SceneModel).Invariant profile :=
  ⟨rfl, ⟨empty_staged profile, by simp⟩, .initial rfl rfl⟩

theorem acceptPending_staged (frame : FrameCommit)
    (staged : model.PendingStaged) :
    (model.acceptPending frame).PendingStaged :=
  ⟨staged.pending, staged.kept⟩

theorem commit_invariant {kind : SceneProfile}
    (invariant : model.Invariant kind) (frame : FrameCommit) :
    (model.commit frame).2.Invariant kind := by
  obtain ⟨same, staged, settled⟩ := invariant
  cases commit_cases model frame with
  | rejected _ _ unchanged =>
      rw [unchanged]
      exact ⟨same, staged, settled⟩
  | outputless _ profile output surfaces _ next =>
      rw [next]
      refine ⟨same, acceptPending_staged frame staged,
        .outputless profile output ?_ ?_⟩
      · have single := staged.pending.single profile
        rw [output] at single
        exact single
      · intro id member
        have empty : model.pending.surfaces = ∅ :=
          Std.ExtTreeMap.isEmpty_iff.mp surfaces
        have known : id ∈ model.pending.surfaces := member
        simp [empty] at known
  | dropped _ profile output present _ clean _ next =>
      rw [next]
      obtain ⟨assigned, policies⟩ := historicalRejection_none clean
      refine ⟨same, acceptPending_staged frame staged, .consistent ?_⟩
      refine consistent_of_checks staged.pending policies
        (fun _ => ⟨output, present, assigned⟩) fun other => ?_
      rw [show model.profile = .outputModel from other] at profile
      cases profile
  | accepted _ historical outputModel _ next =>
      rw [next]
      refine ⟨same, acceptPending_staged frame staged, .consistent ?_⟩
      cases profile : model.profile with
      | historical =>
          obtain ⟨output, present, _, clean⟩ := historical profile
          obtain ⟨assigned, policies⟩ := historicalRejection_none clean
          have consistent := consistent_of_checks staged.pending policies
            (fun _ => ⟨output, present, assigned⟩)
            (fun other => by rw [profile] at other; cases other)
          exact profile ▸ consistent
      | outputModel =>
          obtain ⟨valid, policies⟩ :=
            outputModelRejection_none (outputModel profile)
          have consistent := consistent_of_checks staged.pending policies
            (fun other => by rw [profile] at other; cases other)
            (fun _ => valid)
          exact profile ▸ consistent

theorem Keeps.invariant {kind : SceneProfile} (keeps : model.Keeps next)
    (invariant : model.Invariant kind) : next.Invariant kind :=
  ⟨keeps.profile.trans invariant.profile, keeps.staged invariant.staged, keeps.settled invariant.settled⟩

/-- A step keeps the invariant, one case for each operation. -/
theorem step_invariant {kind : SceneProfile} (model : SceneModel)
    (operation : SceneOperation) (invariant : model.Invariant kind) :
    (model.step operation).Invariant kind := by
  have kept : ∀ {change : Option SceneModel},
      (∀ next, change = some next → model.Keeps next) →
        (change.getD model).Invariant kind := by
    intro change keeps
    cases change with
    | none => exact invariant
    | some next => exact (keeps next rfl).invariant invariant
  cases operation with
  | beginSnapshot => exact kept fun _ => beginCompleteSnapshot_keeps
  | beginOutputSnapshot => exact kept fun _ => beginOutputSnapshot_keeps
  | configureSnapshot =>
      exact kept fun _ => setSnapshotOutputConfiguration_keeps
  | endSnapshot => exact kept fun _ => endCompleteSnapshot_keeps
  | abortSnapshot =>
      exact (abortCompleteSnapshot_keeps model).invariant invariant
  | output => exact kept fun _ => applyOutput_keeps
  | removeOutput => exact kept fun _ => removeOutput_keeps
  | surface => exact kept fun _ => applySurface_keeps
  | surfaceOutputState => exact kept fun _ => applySurfaceOutputState_keeps
  | surfacePolicy => exact kept fun _ => applySurfacePolicy_keeps
  | removeSurface => exact kept fun _ => removeSurface_keeps
  | surfaceDamage => exact kept fun _ => applySurfaceDamage_keeps
  | commit frame => exact commit_invariant invariant frame
  | disconnect => exact invariant.profile ▸ initial_invariant model.profile

theorem run_invariant (profile : SceneProfile)
    (operations : List SceneOperation) :
    (run step { profile } operations).Invariant profile :=
  run_preserves step_invariant (initial_invariant profile) operations

/-- Whatever was applied before, the committed scene is settled, and the next
commit either leaves everything as it is or makes the pending scene the
committed one. -/
theorem committed_scene_settled (profile : SceneProfile)
    (operations : List SceneOperation) :
    let model := run step { profile } operations
    model.profile = profile ∧ model.Settled ∧ ∀ frame,
      ((model.commit frame).1.accepted = false →
        (model.commit frame).2 = model ∧
          (model.commit frame).1.presentedGeneration =
            model.presentedGeneration) ∧
      ((model.commit frame).1.accepted = true →
        (model.commit frame).2.committed = model.pending ∧
          (model.commit frame).2.presentedGeneration =
            frame.producerGeneration ∧ frame.producerGeneration ≠ 0 ∧
          (model.commit frame).2.explicitDamage = []) ∧
      ((model.commit frame).1.result = .accepted →
        model.profile = .historical → ∃ output,
          (model.commit frame).2.committed.output = some output ∧
            output.enabled = true) := by
  intro model
  have invariant := run_invariant profile operations
  refine ⟨invariant.profile, invariant.settled, fun frame => ?_⟩
  cases commit_cases model frame with
  | rejected result generation unchanged =>
      refine ⟨fun _ => ⟨unchanged, generation⟩, fun accepted => ?_, ?_⟩
      · rw [result] at accepted
        cases accepted
      · intro accepted
        exact absurd accepted (CommitResult.accepted_eq_false.mp result).1
  | outputless result _ _ _ identified next =>
      refine ⟨fun rejected => ?_, fun _ => ?_, fun accepted => ?_⟩
      · exact absurd result (CommitResult.accepted_eq_false.mp rejected).2
      · rw [next]
        exact ⟨rfl, rfl, identified.2, rfl⟩
      · rw [result] at accepted
        cases accepted
  | dropped result _ _ _ _ _ identified next =>
      refine ⟨fun rejected => ?_, fun _ => ?_, fun accepted => ?_⟩
      · exact absurd result (CommitResult.accepted_eq_false.mp rejected).2
      · rw [next]
        exact ⟨rfl, rfl, identified.2, rfl⟩
      · rw [result] at accepted
        cases accepted
  | accepted result historical _ identified next =>
      refine ⟨fun rejected => ?_, fun _ => ?_, fun _ profile => ?_⟩
      · exact absurd result (CommitResult.accepted_eq_false.mp rejected).1
      · rw [next]
        exact ⟨rfl, rfl, identified.2, rfl⟩
      · obtain ⟨output, present, enabled, _⟩ := historical profile
        rw [next]
        exact ⟨output, present, enabled⟩

def plainOutput : OutputUpsert :=
  { outputId := 1
    enabled := true
    logicalWidth := 8
    logicalHeight := 8
    physicalPixelWidth := 8
    physicalPixelHeight := 8 }

def plainSurface : SurfaceUpsert :=
  { surfaceId := 1
    outputId := 1
    logicalWidth := 4
    logicalHeight := 4
    visible := true
    opacity := 65536 }

def plainRun (output : OutputUpsert) : List SceneOperation :=
  [.beginSnapshot, .output output, .surface plainSurface, .endSnapshot,
    .commit { commitId := 1, producerGeneration := 1 }]

/-- A surface with a buffer needs no policy, and a scene may be committed on
an output that is disabled. -/
theorem unpoliced_surface_committed :
    ((run step {} (plainRun plainOutput)).presentedGeneration = 1 ∧
      (run step {} (plainRun plainOutput)).committed.surfaces[1]? =
        some plainSurface ∧
      (run step {} (plainRun plainOutput)).committed.surfacePolicies[1]? =
        none) ∧
      (run step {} (plainRun { outputId := 1 })).presentedGeneration = 1 ∧
      (run step {} (plainRun { outputId := 1 })).committed.surfaces[1]? =
        some plainSurface ∧
      (run step {} (plainRun { outputId := 1 })).committed.output.map
        (·.enabled) = some false := by
  decide

end SceneModel

end Glasswyrm.Compositor
