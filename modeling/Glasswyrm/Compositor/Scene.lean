import Glasswyrm.Compositor.SceneValidation

namespace Glasswyrm.Compositor

open Wm

structure PendingDamage where
  surfaceId : Nat := 0
  rectangles : List Rectangle := []
deriving DecidableEq, Repr

structure CommitResult where
  result : FrameResult := .rejectedIncompleteMetadata
  presentedGeneration : Nat := 0
  damage : List Rectangle := []
deriving DecidableEq, Repr

def CommitResult.accepted (commit : CommitResult) : Bool :=
  commit.result = .accepted || commit.result = .dropped

def extentRectangle (surface : SurfaceUpsert) : Rectangle :=
  { width := surface.logicalWidth, height := surface.logicalHeight }

def clipRectangle (surface : SurfaceUpsert) : Rectangle :=
  { x := surface.clipX
    y := surface.clipY
    width := surface.clipWidth
    height := surface.clipHeight }

def outputBounds (output : OutputUpsert) : Rectangle :=
  { width := output.logicalWidth, height := output.logicalHeight }

/-- The part of the surface that its clip leaves. -/
def visiblePart (surface : SurfaceUpsert) : Option Rectangle :=
  if surface.clipping then
    (extentRectangle surface).intersection (clipRectangle surface)
  else some (extentRectangle surface)

def placedPart (surface : SurfaceUpsert) : Option Rectangle :=
  (visiblePart surface).bind
    (·.translate surface.logicalX surface.logicalY)

def surfaceBounds (surface : SurfaceUpsert) (output : OutputUpsert) :
    Option Rectangle :=
  (placedPart surface).bind (·.intersection (outputBounds output))

def effectiveBounds (surface : SurfaceUpsert) (output : OutputUpsert) :
    Option Rectangle :=
  if !surface.visible || !output.enabled || surface.opacity = 0 ||
      metadataSurface surface then none
  else surfaceBounds surface output

def sameOutputShape : Option OutputUpsert → Option OutputUpsert → Bool
  | some a, some b =>
      a.enabled = b.enabled && a.logicalWidth = b.logicalWidth &&
        a.logicalHeight = b.logicalHeight
  | none, none => true
  | _, _ => false

/-- The fields whose change damages the surface, in the order of the source. -/
def changed (old now : SurfaceUpsert) : Bool :=
  old.logicalX ≠ now.logicalX || old.logicalY ≠ now.logicalY ||
    old.logicalWidth ≠ now.logicalWidth ||
    old.logicalHeight ≠ now.logicalHeight || old.stacking ≠ now.stacking ||
    old.visible ≠ now.visible || old.clipping ≠ now.clipping ||
    old.clipX ≠ now.clipX || old.clipY ≠ now.clipY ||
    old.clipWidth ≠ now.clipWidth || old.clipHeight ≠ now.clipHeight ||
    old.opacity ≠ now.opacity

/-- Cursors above everything else, then by stacking and identifier. -/
def StackedBefore (left right : SurfaceUpsert) : Prop :=
  if cursorSurface left ≠ cursorSurface right then cursorSurface left = false
  else left.stacking < right.stacking ∨
    (left.stacking = right.stacking ∧ left.surfaceId ≤ right.surfaceId)

instance : DecidableRel StackedBefore := fun _ _ => by
  unfold StackedBefore
  infer_instance

structure SceneModel where
  committed : Scene := {}
  pending : Scene := {}
  preSnapshotPending : Option Scene := none
  explicitDamage : List PendingDamage := []
  preSnapshotDamage : List PendingDamage := []
  presentedGeneration : Nat := 0
  profile : SceneProfile := .historical
  snapshotActive : Bool := false
  initialSnapshotReceived : Bool := false
deriving DecidableEq

namespace SceneModel

def mutationsAllowed (model : SceneModel) : Bool :=
  model.initialSnapshotReceived || model.snapshotActive

/-- The scene is emptied while the snapshot is open; both overloads of the
source keep the pending state they replace. -/
def openSnapshot (model : SceneModel) (empty : Scene) : SceneModel :=
  { model with
    preSnapshotPending := some model.pending
    preSnapshotDamage := model.explicitDamage
    pending := empty
    explicitDamage := []
    snapshotActive := true }

def beginCompleteSnapshot (model : SceneModel) : Option SceneModel :=
  if model.profile ≠ .historical || model.snapshotActive then none
  else some (model.openSnapshot {})

def beginOutputSnapshot (model : SceneModel)
    (primaryOutputId configurationGeneration : Nat) : Option SceneModel :=
  if model.profile ≠ .outputModel || model.snapshotActive ||
      primaryOutputId = 0 || configurationGeneration = 0 then none
  else some (model.openSnapshot { primaryOutputId, configurationGeneration })

def endCompleteSnapshot (model : SceneModel) : Option SceneModel :=
  if !model.snapshotActive then none
  else if model.profile = .outputModel &&
      validateOutputModelScene model.pending ≠ .accepted then none
  else
    some { model with
      pending :=
        if model.profile = .historical then
          inferHistoricalOutputState model.pending
        else model.pending
      snapshotActive := false
      initialSnapshotReceived := true
      preSnapshotPending := none
      preSnapshotDamage := [] }

def setSnapshotOutputConfiguration (model : SceneModel)
    (primaryOutputId configurationGeneration : Nat) : Option SceneModel :=
  if model.profile ≠ .outputModel || !model.snapshotActive ||
      primaryOutputId = 0 || configurationGeneration = 0 then none
  else
    some { model with
      pending := { model.pending with
        primaryOutputId, configurationGeneration } }

def abortCompleteSnapshot (model : SceneModel) : SceneModel :=
  if !model.snapshotActive then model
  else
    { model with
      pending := model.preSnapshotPending.getD model.pending
      explicitDamage := model.preSnapshotDamage
      preSnapshotDamage := []
      preSnapshotPending := none
      snapshotActive := false }

def withPending (model : SceneModel) (pending : Scene) : SceneModel :=
  { model with
    pending :=
      if model.profile = .historical then inferHistoricalOutputState pending
      else pending }

def applyOutput (model : SceneModel) (output : OutputUpsert) :
    Option SceneModel :=
  if !model.mutationsAllowed || !validSceneOutput output model.profile then
    none
  else
    match model.profile with
    | .historical =>
        some (model.withPending { model.pending with output := some output })
    | .outputModel =>
        if output.outputId ∉ model.pending.outputs &&
            model.pending.outputs.size = maximumOutputs then none
        else
          some (model.withPending { model.pending with
            outputs := model.pending.outputs.insert output.outputId output })

def removeOutput (model : SceneModel) (output : OutputRemove) :
    Option SceneModel :=
  if !model.mutationsAllowed || output.outputId = 0 then none
  else
    match model.profile with
    | .outputModel =>
        if output.outputId ∉ model.pending.outputs then none
        else
          some (model.withPending { model.pending with
            outputs := model.pending.outputs.erase output.outputId })
    | .historical =>
        if model.pending.output.map (·.outputId) ≠ some output.outputId then
          none
        else some (model.withPending { model.pending with output := none })

def applySurface (model : SceneModel) (surface : SurfaceUpsert) :
    Option SceneModel :=
  if !model.mutationsAllowed || !validSceneSurface surface model.profile then
    none
  else if cursorSurface surface &&
      model.pending.surfaces.toList.any (fun (id, current) =>
        id ≠ surface.surfaceId && cursorSurface current &&
          current.outputId = surface.outputId) then none
  else if surface.surfaceId ∉ model.pending.surfaces &&
      model.pending.surfaces.size = maximumSurfaces then none
  else
    some (model.withPending { model.pending with
      surfaces := model.pending.surfaces.insert surface.surfaceId surface })

def applySurfaceOutputState (model : SceneModel)
    (state : SurfaceOutputState) : Option SceneModel :=
  if !model.mutationsAllowed || model.profile ≠ .outputModel ||
      !validSurfaceOutputState state then none
  else if model.snapshotActive &&
      state.surfaceId ∈ model.pending.surfaceOutputs then none
  else
    some { model with pending := { model.pending with
      surfaceOutputs := model.pending.surfaceOutputs.insert state.surfaceId
        { primaryOutputId := state.primaryOutputId
          outputIds := state.outputIds
          preferredScaleNumerator := state.preferredScaleNumerator
          preferredScaleDenominator := state.preferredScaleDenominator
          clientBufferScale := state.clientBufferScale
          scaleMode := state.scaleMode
          layoutGeneration := state.layoutGeneration
          flags := state.flags } } }

def applySurfacePolicy (model : SceneModel) (policy : SurfacePolicyUpsert) :
    Option SceneModel :=
  if !model.mutationsAllowed || policy.surfaceId = 0 then none
  else if (model.pending.surfaces[policy.surfaceId]?).any cursorSurface then
    none
  else
    some { model with pending := { model.pending with
      surfacePolicies :=
        model.pending.surfacePolicies.insert policy.surfaceId policy } }

def removeSurface (model : SceneModel) (surface : SurfaceRemove) :
    Option SceneModel :=
  if !model.mutationsAllowed || surface.surfaceId = 0 ||
      surface.surfaceId ∉ model.pending.surfaces then none
  else
    some { model with pending := { model.pending with
      surfaces := model.pending.surfaces.erase surface.surfaceId
      surfacePolicies :=
        model.pending.surfacePolicies.erase surface.surfaceId
      surfaceOutputs := model.pending.surfaceOutputs.erase surface.surfaceId } }

def applySurfaceDamage (model : SceneModel) (damage : SurfaceDamage) :
    Option SceneModel :=
  if !model.mutationsAllowed ||
      damage.surfaceId ∉ model.pending.surfaces ||
      maximumDamageRectangles < damage.rectangles.length then none
  else if damage.rectangles.any (fun rectangle =>
      !checkedExtent rectangle.x rectangle.width ||
        !checkedExtent rectangle.y rectangle.height) then none
  else
    some { model with
      explicitDamage := model.explicitDamage ++
        [{ surfaceId := damage.surfaceId, rectangles := damage.rectangles }] }

/-! ## Committing the pending scene -/

/-- What a surface and its policy record must agree on: a cursor carries no
policy, a metadata-only surface carries the policy of its own window. -/
def policyAgrees (scene : Scene) (id : Nat) (surface : SurfaceUpsert) :
    Bool :=
  let policy := scene.surfacePolicies[id]?
  if cursorSurface surface then policy.isNone
  else
    !metadataSurface surface ||
      policy.map (·.x11WindowId) = some surface.x11WindowId

def policyRejection (scene : Scene) : Option FrameResult :=
  if !scene.surfaces.toList.all (fun entry =>
      policyAgrees scene entry.1 entry.2) then
    some .rejectedIncompleteMetadata
  else if !scene.surfacePolicies.keys.all (scene.surfaces.contains ·) then
    some .rejectedUnknownSurface
  else none

def outputModelRejection (pending : Scene) (frame : FrameCommit) :
    Option FrameResult :=
  match validateOutputModelScene pending with
  | .accepted =>
      let enabledOutputs :=
        (pending.outputs.toList.filter (·.2.enabled)).length
      if (1 < enabledOutputs && frame.outputId ≠ 0) ||
          (enabledOutputs = 1 && frame.outputId ≠ 0 &&
            !(pending.outputs[frame.outputId]?).any (·.enabled)) then
        some .rejectedIncompleteMetadata
      else policyRejection pending
  | rejection => some rejection

def historicalRejection (pending : Scene) (output : OutputUpsert)
    (frame : FrameCommit) : Option FrameResult :=
  if frame.outputId ≠ 0 && output.outputId ≠ frame.outputId then
    some .rejectedIncompleteMetadata
  else if !pending.surfaces.toList.all (fun entry =>
      entry.2.outputId = output.outputId) then
    some .rejectedUnknownSurface
  else policyRejection pending

def addBounds (region : DamageRegion) (surface : Option SurfaceUpsert)
    (output : Option OutputUpsert) : DamageRegion :=
  match surface, output with
  | some surface, some output =>
      match effectiveBounds surface output with
      | some bounds => region.add bounds
      | none => region
  | _, _ => region

/-- The rectangle of a damage record on the output. -/
def placedDamage (surface : SurfaceUpsert) (rectangle : Rectangle) :
    Option Rectangle :=
  let clipped := rectangle.intersection (extentRectangle surface)
  let visible :=
    if surface.clipping then
      clipped.bind (·.intersection (clipRectangle surface))
    else clipped
  visible.bind (·.translate surface.logicalX surface.logicalY)

def damageSurface (old now : Scene) (region : DamageRegion) (id : Nat) :
    DamageRegion :=
  let before := old.surfaces[id]?
  let after := now.surfaces[id]?
  let differs :=
    match before, after with
    | some before, some after => changed before after
    | _, _ => true
  if !differs then region
  else addBounds (addBounds region before old.output) after now.output

def damageExplicit (now : Scene) (region : DamageRegion)
    (item : PendingDamage) : DamageRegion :=
  match now.surfaces[item.surfaceId]? with
  | none => region
  | some surface =>
      (item.rectangles.filterMap (placedDamage surface)).foldl .add region

def surfaceIds (old now : Scene) : List Nat :=
  (old.surfaces.keys ++ now.surfaces.keys).dedup.insertionSort (· ≤ ·)

def sceneDamage (model : SceneModel) (output : OutputUpsert) :
    List Rectangle :=
  let region : DamageRegion := { outputBounds := outputBounds output }
  let region :=
    if sameOutputShape model.committed.output model.pending.output then region
    else region.addFullOutput
  let region := (surfaceIds model.committed model.pending).foldl
    (damageSurface model.committed model.pending) region
  let region :=
    model.explicitDamage.foldl (damageExplicit model.pending) region
  region.rectangles

def acceptPending (model : SceneModel) (frame : FrameCommit) : SceneModel :=
  { model with
    committed := model.pending
    explicitDamage := []
    presentedGeneration := frame.producerGeneration }

def commit (model : SceneModel) (frame : FrameCommit) :
    CommitResult × SceneModel :=
  let rejected (result : FrameResult) : CommitResult × SceneModel :=
    ({ result, presentedGeneration := model.presentedGeneration }, model)
  let completed (result : FrameResult) (damage : List Rectangle) :
      CommitResult × SceneModel :=
    ({ result, damage, presentedGeneration := frame.producerGeneration },
      model.acceptPending frame)
  if model.snapshotActive || !model.initialSnapshotReceived ||
      frame.commitId = 0 || frame.producerGeneration = 0 ||
      frame.flags ≠ 0 then rejected .rejectedIncompleteMetadata
  else
    match model.profile with
    | .outputModel =>
        match outputModelRejection model.pending frame with
        | some result => rejected result
        | none => completed .accepted []
    | .historical =>
        match model.pending.output with
        | none =>
            if !model.pending.surfaces.isEmpty then
              rejected .rejectedIncompleteMetadata
            else completed .dropped []
        | some output =>
            match historicalRejection model.pending output frame with
            | some result => rejected result
            | none =>
                if !output.enabled then completed .dropped []
                else completed .accepted (model.sceneDamage output)

def disconnect (model : SceneModel) : SceneModel :=
  { profile := model.profile }

def pendingDamageSurfaceIds (model : SceneModel) : List Nat :=
  ((model.explicitDamage.map (·.surfaceId)).insertionSort (· ≤ ·)).dedup

def stackingOrder (model : SceneModel) : List Nat :=
  let surfaces := model.committed.surfaces.toList.map (·.2)
  (surfaces.insertionSort StackedBefore).map (·.surfaceId)

/-! ## The snapshot bracket of the scene -/

/-- The pending state that an abort of the open snapshot returns to. -/
def undoPoint (model : SceneModel) : Option Scene × List PendingDamage :=
  (model.preSnapshotPending, model.preSnapshotDamage)

/-- A change of the pending scene leaves the bracket alone. -/
structure Mutates (model next : SceneModel) : Prop where
  active : next.snapshotActive = model.snapshotActive
  profile : next.profile = model.profile
  undo : next.undoPoint = model.undoPoint
  committed : next.committed = model.committed
  received : next.initialSnapshotReceived = model.initialSnapshotReceived

theorem Mutates.refl (model : SceneModel) : model.Mutates model :=
  ⟨rfl, rfl, rfl, rfl, rfl⟩

theorem Mutates.trans {first second third : SceneModel}
    (left : first.Mutates second) (right : second.Mutates third) :
    first.Mutates third :=
  ⟨right.active.trans left.active, right.profile.trans left.profile,
    right.undo.trans left.undo, right.committed.trans left.committed,
    right.received.trans left.received⟩

theorem withPending_mutates (model : SceneModel) (pending : Scene) :
    model.Mutates (model.withPending pending) :=
  ⟨rfl, rfl, rfl, rfl, rfl⟩

section

variable {model next : SceneModel}

theorem setSnapshotOutputConfiguration_mutates {primary generation : Nat}
    (configured : model.setSnapshotOutputConfiguration primary generation =
      some next) : model.Mutates next := by
  unfold setSnapshotOutputConfiguration at configured
  split at configured
  · cases configured
  · obtain rfl := Option.some.inj configured
    exact ⟨rfl, rfl, rfl, rfl, rfl⟩

theorem applyOutput_mutates {output : OutputUpsert}
    (applied : model.applyOutput output = some next) : model.Mutates next := by
  unfold applyOutput at applied
  split at applied
  · cases applied
  · split at applied
    · obtain rfl := Option.some.inj applied
      exact withPending_mutates model _
    · split at applied
      · cases applied
      · obtain rfl := Option.some.inj applied
        exact withPending_mutates model _

theorem removeOutput_mutates {output : OutputRemove}
    (removed : model.removeOutput output = some next) :
    model.Mutates next := by
  unfold removeOutput at removed
  split at removed
  · cases removed
  · split at removed
    all_goals
      split at removed
      · cases removed
      · obtain rfl := Option.some.inj removed
        exact withPending_mutates model _

theorem applySurface_mutates {surface : SurfaceUpsert}
    (applied : model.applySurface surface = some next) :
    model.Mutates next := by
  unfold applySurface at applied
  split at applied
  · cases applied
  · split at applied
    · cases applied
    · split at applied
      · cases applied
      · obtain rfl := Option.some.inj applied
        exact withPending_mutates model _

theorem applySurfaceOutputState_mutates {state : SurfaceOutputState}
    (applied : model.applySurfaceOutputState state = some next) :
    model.Mutates next := by
  unfold applySurfaceOutputState at applied
  split at applied
  · cases applied
  · split at applied
    · cases applied
    · obtain rfl := Option.some.inj applied
      exact ⟨rfl, rfl, rfl, rfl, rfl⟩

theorem applySurfacePolicy_mutates {policy : SurfacePolicyUpsert}
    (applied : model.applySurfacePolicy policy = some next) :
    model.Mutates next := by
  unfold applySurfacePolicy at applied
  split at applied
  · cases applied
  · split at applied
    · cases applied
    · obtain rfl := Option.some.inj applied
      exact ⟨rfl, rfl, rfl, rfl, rfl⟩

theorem removeSurface_mutates {surface : SurfaceRemove}
    (removed : model.removeSurface surface = some next) :
    model.Mutates next := by
  unfold removeSurface at removed
  split at removed
  · cases removed
  · obtain rfl := Option.some.inj removed
    exact ⟨rfl, rfl, rfl, rfl, rfl⟩

theorem applySurfaceDamage_mutates {damage : SurfaceDamage}
    (applied : model.applySurfaceDamage damage = some next) :
    model.Mutates next := by
  unfold applySurfaceDamage at applied
  split at applied
  · cases applied
  · split at applied
    · cases applied
    · obtain rfl := Option.some.inj applied
      exact ⟨rfl, rfl, rfl, rfl, rfl⟩

end

end SceneModel

end Glasswyrm.Compositor
