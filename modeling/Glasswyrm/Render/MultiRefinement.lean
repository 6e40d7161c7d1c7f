import Glasswyrm.Render.MultiIncremental

namespace Glasswyrm.Render.MultiOutput

open Library Compositor Compositor.Rectangle Output SoftwareFrameSet

/-! The incremental frame set shows what a whole rendering shows. -/

/-- The renderer returns a frame for every enabled output, with the pixels of
the other frame set. -/
def SamePixels (scene : Scene) (result : Except RenderFailure SoftwareFrameSet)
    (frames : SoftwareFrameSet) : Prop :=
  ∃ rendered, result = .ok rendered ∧
    ∀ (id : Nat) output, scene.outputs[id]? = some output →
      output.enabled = true →
        ∃ mine theirs, rendered.outputs[id]? = some mine ∧
          frames.outputs[id]? = some theirs ∧
          mine.frame.width = output.physicalPixelWidth ∧
          mine.frame.height = output.physicalPixelHeight ∧
          ∀ x y, (physicalBounds output).Contains x y →
            mine.frame.pixels x y = theirs.frame.pixels x y

/-- The previous frame set is a whole rendering of the scene before, and a
whole rendering of the scene after exists to compare with. -/
structure Transition (before after : FrameSetRequest)
    (contentChanged : List Nat) (previous full : SoftwareFrameSet) :
    Prop where
  previous : render before.whole = .ok previous
  full : render after.whole = .ok full
  content : ∀ surfaceId ∈ before.scene.surfaces,
    surfaceId ∈ after.scene.surfaces → surfaceId ∉ contentChanged →
      attachedMapping before surfaceId = attachedMapping after surfaceId

section

variable {before after : FrameSetRequest} {previous full : SoftwareFrameSet}
  {contentChanged : List Nat}

theorem Transition.successive
    (transition : Transition before after contentChanged previous full) :
    Successive before after contentChanged where
  former := (render_lookup transition.previous).1
  latter := (render_lookup transition.full).1
  content := transition.content

/-- An output that keeps its shape finds its previous frame. -/
theorem compatiblePrevious_sameShape
    (transition : Transition before after contentChanged previous full)
    {id : Nat} {previousOutput output : OutputUpsert}
    (foundBefore : before.scene.outputs[id]? = some previousOutput)
    (foundAfter : after.scene.outputs[id]? = some output)
    (enabled : output.enabled = true)
    (shape : sameShape previousOutput output = true) :
    ∃ rendered, renderOutput before.whole id previousOutput = .ok rendered ∧
      compatiblePrevious (some previous) output = some (stored rendered) := by
  obtain ⟨accepted, finalized, lookup⟩ := render_lookup transition.previous
  have wasEnabled : previousOutput.enabled = true := by
    simp only [sameShape, Bool.and_eq_true, decide_eq_true_eq] at shape
    rw [shape.1.1.1.1.1.1.1.1.1]
    exact enabled
  obtain ⟨rendered, rendering, present⟩ :=
    lookup id previousOutput foundBefore wasEnabled
  refine ⟨rendered, rendering, ?_⟩
  have named := (transition.successive.latter.outputs id output foundAfter).1
  have extent := physicalBounds_sameShape shape
  have mapping := outputMapping_sameShape shape
  obtain ⟨frame, pixels, _, rfl, _⟩ := renderOutput_apply
    (AcceptedScene.bounded accepted foundBefore wasEnabled) rendering
  have width : previousOutput.physicalPixelWidth = output.physicalPixelWidth :=
    congrArg Rectangle.width extent
  have height :
      previousOutput.physicalPixelHeight = output.physicalPixelHeight :=
    congrArg Rectangle.height extent
  have scale : outputScale previousOutput = outputScale output :=
    congrArg OutputMapping.scale mapping
  have transform : previousOutput.transform = output.transform :=
    congrArg OutputMapping.transform mapping
  simp only [compatiblePrevious, finalized, Bool.not_true, Bool.false_eq_true,
    if_false, ← named, present, Option.filter_some]
  simp [stored, outputFrame, outputSpec, width, height, scale, transform]

/-- The damage of an output whose previous frame cannot be copied, or whose
shape has changed, is the whole output. -/
theorem damageOfOutput_reshaped {id : Nat} {output : OutputUpsert}
    (enabled : output.enabled = true)
    (reshaped : ∀ previousOutput,
      before.scene.outputs[id]? = some previousOutput →
        sameShape previousOutput output = false) :
    damageOfOutput before.scene after.scene contentChanged id output =
      some (DamageRegion.addFullOutput
        { outputBounds := physicalBounds output }).rectangles := by
  unfold damageOfOutput
  simp only [enabled, Bool.not_true, Bool.false_eq_true, if_false]
  split
  · rfl
  · rename_i previousOutput found
    simp [reshaped previousOutput found]

/-- Whether the renderer gets past the number of damage rectangles depends on
the damage that was computed. -/
theorem few_iff
    (transition : Transition before after contentChanged previous full)
    {id : Nat} {output : OutputUpsert}
    (found : after.scene.outputs[id]? = some output) :
    Few before after previous contentChanged (id, output) ↔
      ∀ rectangles, (calculateOutputDamage before.scene after.scene
        contentChanged)[id]? = some rectangles →
          rectangles.length ≤ maximumDamageRectangles := by
  rw [calculateOutputDamage_lookup, found, Option.bind_some]
  unfold Few
  rw [frameDamage_incremental found]
  by_cases enabled : output.enabled = true
  · by_cases kept : ∃ previousOutput,
        before.scene.outputs[id]? = some previousOutput ∧
          sameShape previousOutput output = true
    · obtain ⟨previousOutput, foundBefore, shape⟩ := kept
      obtain ⟨_, _, compatible⟩ := compatiblePrevious_sameShape transition
        foundBefore found enabled shape
      simp only [enabled, compatible, Option.isNone_some, forall_const]
      cases damageOfOutput before.scene after.scene contentChanged id output <;>
        simp
    · have reshaped : ∀ previousOutput,
          before.scene.outputs[id]? = some previousOutput →
            sameShape previousOutput output = false := by
        intro previousOutput foundBefore
        by_contra shape
        exact kept ⟨previousOutput, foundBefore, by simpa using shape⟩
      have short := addFullOutput_length
        { outputBounds := physicalBounds output }
      have limit : 1 ≤ maximumDamageRectangles := by decide
      rw [damageOfOutput_reshaped enabled reshaped]
      refine iff_of_true (fun _ => ?_) ?_
      · split
        · exact limit
        · exact short.trans limit
      · rintro rectangles same
        obtain rfl := Option.some.inj same
        exact short.trans limit
  · refine iff_of_true (fun shown => absurd shown enabled) ?_
    intro rectangles computed
    exact absurd (damageOfOutput_region computed).1 enabled

/-- The request that follows the change passes the checks that the whole
request passed. -/
theorem requestError_incremental
    (transition : Transition before after contentChanged previous full) :
    requestError (before.incremental after previous contentChanged) =
      none := by
  obtain ⟨clean, _⟩ := render_ok_iff.mp transition.full
  obtain ⟨_, finalized, _⟩ := render_lookup transition.previous
  simp only [requestError, firstError_none_iff, List.forall_mem_cons] at clean ⊢
  refine ⟨clean.1, ?_, ?_, by simp⟩
  · simp [FrameSetRequest.incremental, finalized]
  · rw [Bool.not_eq_false', List.all_eq_true]
    intro id named
    obtain ⟨rectangles, computed⟩ :=
      KeyMap.mem_iff.mp (Std.ExtTreeMap.mem_keys.mp named)
    have looked : after.scene.outputs[id]?.bind
        (damageOfOutput before.scene after.scene contentChanged id) =
          some rectangles := by
      rw [← calculateOutputDamage_lookup]
      exact computed
    obtain ⟨output, found, damaged⟩ := Option.bind_eq_some_iff.mp looked
    rw [Option.any_eq_true]
    exact ⟨output, found, (damageOfOutput_region damaged).1⟩

/-- Both runs leave the composition of the scene after in every pixel of the
output. -/
theorem pixels_incremental
    (transition : Transition before after contentChanged previous full)
    {id : Nat} {output : OutputUpsert}
    (found : after.scene.outputs[id]? = some output)
    (enabled : output.enabled = true) {mine theirs : OutputFrameResult}
    (own : renderOutput (before.incremental after previous contentChanged) id
      output = .ok mine)
    (whole : renderOutput after.whole id output = .ok theirs) {x y : Int}
    (within : (physicalBounds output).Contains x y) :
    mine.frame.pixels x y = theirs.frame.pixels x y := by
  have successive := transition.successive
  have bounded := AcceptedScene.bounded successive.latter found enabled
  obtain ⟨wholeFrame, wholePixels, _, rfl, wholeApply⟩ :=
    renderOutput_apply bounded whole
  obtain ⟨frame, pixels, _, rfl, apply⟩ := renderOutput_apply bounded own
  have composed : wholePixels x y = composition after id output x y := by
    rw [wholeApply, frameDamage_whole,
      if_pos ⟨_, List.mem_singleton_self _, within⟩]
    rfl
  show pixels x y = wholePixels x y
  rw [apply, composed]
  split
  · rfl
  · rename_i undamaged
    -- the pixel is copied, so the output kept its shape and its frame
    rw [frameDamage_incremental found] at undamaged
    split at undamaged
    · exact absurd ⟨_, List.mem_singleton_self _, within⟩ undamaged
    · have kept : ∃ previousOutput,
          before.scene.outputs[id]? = some previousOutput ∧
            sameShape previousOutput output = true := by
        by_contra lost
        have reshaped : ∀ previousOutput,
            before.scene.outputs[id]? = some previousOutput →
              sameShape previousOutput output = false := by
          intro previousOutput foundBefore
          by_contra shape
          exact lost ⟨previousOutput, foundBefore, by simpa using shape⟩
        rw [damageOfOutput_reshaped enabled reshaped] at undamaged
        exact undamaged (DamageRegion.addFullOutput_covers
          (physicalBounds_valid bounded) within)
      obtain ⟨previousOutput, foundBefore, shape⟩ := kept
      obtain ⟨rendered, rendering, compatible⟩ :=
        compatiblePrevious_sameShape transition foundBefore found enabled shape
      have wasEnabled : previousOutput.enabled = true := by
        simp only [sameShape, Bool.and_eq_true, decide_eq_true_eq] at shape
        rw [shape.1.1.1.1.1.1.1.1.1]
        exact enabled
      obtain ⟨_, formerPixels, _, rfl, formerApply⟩ := renderOutput_apply
        (AcceptedScene.bounded successive.former foundBefore wasEnabled)
        rendering
      have untouched :
          ¬Touched before after contentChanged previousOutput output x y := by
        intro touched
        refine undamaged ?_
        obtain ⟨rectangle, member, contains⟩ := touched
        have damage : damageOfOutput before.scene after.scene contentChanged
            id output = some (changedRegion before.scene after.scene
              contentChanged previousOutput output).rectangles := by
          simp [damageOfOutput, enabled, foundBefore, shape,
            List.ne_nil_of_mem member]
        rw [damage]
        exact ⟨rectangle, member, contains⟩
      have copied : startPixels (before.incremental after previous
          contentChanged) output frame.pixels x y = formerPixels x y := by
        have same : compatiblePrevious (before.incremental after previous
            contentChanged).previous output = some (stored (outputFrame
              before.whole id previousOutput _ formerPixels)) := compatible
        rw [startPixels, same]
        rfl
      have formerWithin : (physicalBounds previousOutput).Contains x y := by
        rw [physicalBounds_sameShape shape]
        exact within
      rw [copied, formerApply, frameDamage_whole,
        if_pos ⟨_, List.mem_singleton_self _, formerWithin⟩]
      exact composition_untouched successive bounded
        (successive.former.outputs id previousOutput foundBefore).1
        (successive.latter.outputs id output found).1 shape untouched

/-- The renderer returns only if no output has more damage rectangles than it
takes. -/
theorem limits_of_render
    (transition : Transition before after contentChanged previous full)
    {rendered : SoftwareFrameSet}
    (complete : render (before.incremental after previous contentChanged) =
      .ok rendered) (id : Nat) (rectangles : List Rectangle)
    (computed : (calculateOutputDamage before.scene after.scene
      contentChanged)[id]? = some rectangles) :
    rectangles.length ≤ maximumDamageRectangles := by
  have looked := computed
  rw [calculateOutputDamage_lookup] at looked
  obtain ⟨output, found, damaged⟩ := Option.bind_eq_some_iff.mp looked
  refine (few_iff transition found).mp (fun enabled => ?_) rectangles computed
  obtain ⟨own, rendering, _⟩ :=
    (render_lookup complete).2.2 id output found enabled
  exact (renderOutput_succeeds_iff.mp ⟨own, rendering⟩).2.2.1

/-- After a change, rendering with the computed damage over the previous frame
set shows what a whole rendering shows, exactly as long as no output has more
damage rectangles than the renderer takes. -/
theorem renders_incrementally_iff
    (transition : Transition before after contentChanged previous full) :
    SamePixels after.scene
        (render (before.incremental after previous contentChanged)) full ↔
      ∀ (id : Nat) rectangles, (calculateOutputDamage before.scene after.scene
        contentChanged)[id]? = some rectangles →
          rectangles.length ≤ maximumDamageRectangles := by
  have accepted := transition.successive.latter
  obtain ⟨clean, staged, staging, sealing⟩ := render_ok_iff.mp transition.full
  obtain ⟨_, _, wholeLookup⟩ := render_lookup transition.full
  have found : ∀ entry ∈ after.scene.outputs.toList,
      after.scene.outputs[entry.1]? = some entry.2 := fun entry member =>
    KeyMap.mem_toList.mp member
  have advances : ∀ entry ∈ after.scene.outputs.toList,
      ∀ mine theirs next, Alike mine theirs →
        stageOutput after.whole theirs entry = .ok next →
          ((∃ following, stageOutput (before.incremental after previous
              contentChanged) mine entry = .ok following) ↔
            Few before after previous contentChanged entry) ∧
          ∀ following, stageOutput (before.incremental after previous
              contentChanged) mine entry = .ok following →
            Alike following next :=
    fun entry member mine theirs next alike taken =>
      stageOutput_lockstep
        (fun enabled => AcceptedScene.bounded accepted (found entry member)
          enabled)
        (found entry member) alike taken
  have initial : Alike {} {} := ⟨rfl, rfl, rfl, fun _ => rfl⟩
  obtain ⟨succeeds, relates⟩ := foldlM_lockstep advances initial staging
  constructor
  · rintro ⟨rendered, complete, _⟩
    exact limits_of_render transition complete
  · intro limits
    obtain ⟨mine, mineStaged⟩ := succeeds.mpr fun entry member =>
      (few_iff transition (found entry member)).mpr (limits entry.1)
    obtain ⟨final, sealed⟩ :=
      finalize_alike (relates mine mineStaged) sealing
    have complete : render (before.incremental after previous
        contentChanged) = .ok final :=
      render_ok_iff.mpr
        ⟨requestError_incremental transition, mine, mineStaged, sealed⟩
    refine ⟨final, complete, fun id output foundOutput enabled => ?_⟩
    obtain ⟨own, ownRendered, ownStored⟩ :=
      (render_lookup complete).2.2 id output foundOutput enabled
    obtain ⟨whole, wholeRendered, wholeStored⟩ :=
      wholeLookup id output foundOutput enabled
    refine ⟨stored own, stored whole, ownStored, wholeStored, ?_, ?_, ?_⟩
    · obtain ⟨frame, _, configured, rfl, _⟩ := renderOutput_apply
        (AcceptedScene.bounded accepted foundOutput enabled) ownRendered
      rw [SoftwareFrame.configure_ok configured]
      rfl
    · obtain ⟨frame, _, configured, rfl, _⟩ := renderOutput_apply
        (AcceptedScene.bounded accepted foundOutput enabled) ownRendered
      rw [SoftwareFrame.configure_ok configured]
      rfl
    · intro x y within
      exact pixels_incremental transition foundOutput enabled ownRendered
        wholeRendered within

end

/-! ## A row of surfaces that do not touch -/

def rowOutput : OutputUpsert :=
  { outputId := 1
    enabled := true
    logicalWidth := 4096
    logicalHeight := 1
    physicalPixelWidth := 4096
    physicalPixelHeight := 1
    refreshMillihertz := 60000 }

def rowSurface (index : Nat) : SurfaceUpsert :=
  { surfaceId := index + 1
    outputId := 1
    logicalX := 2 * index
    logicalWidth := 1
    logicalHeight := 1
    visible := true }

def rowMembership : SurfaceOutputMembership :=
  { primaryOutputId := 1
    outputIds := [1]
    preferredScaleNumerator := 1
    preferredScaleDenominator := 1
    clientBufferScale := 1
    layoutGeneration := 1 }

def rowSurfaces (count : Nat) : KeyMap SurfaceUpsert :=
  KeyMap.file (·.surfaceId) ∅ ((List.range count).map rowSurface)

def rowScene (count : Nat) : Scene :=
  { outputs := (∅ : KeyMap OutputUpsert).insert 1 rowOutput
    surfaces := rowSurfaces count
    surfaceOutputs := (rowSurfaces count).map fun _ _ => rowMembership
    primaryOutputId := 1
    configurationGeneration := 1 }

def rowRequest (count : Nat) : FrameSetRequest :=
  { sceneModel := {
      committed := rowScene count
      profile := .outputModel
      initialSnapshotReceived := true }
    commitId := 1
    generation := 1
    ordinal := 1 }

theorem rowSurfaces_lookup {count id : Nat} {surface : SurfaceUpsert} :
    (rowSurfaces count)[id]? = some surface ↔
      ∃ index < count, surface = rowSurface index ∧ id = index + 1 := by
  have distinct : ((List.range count).map rowSurface).Pairwise
      fun left right => left.surfaceId ≠ right.surfaceId := by
    rw [List.pairwise_map]
    exact List.nodup_range.imp fun different same =>
      different (Nat.succ.inj same)
  unfold rowSurfaces
  constructor
  · intro found
    by_cases present : ∃ index < count, id = index + 1
    · obtain ⟨index, small, rfl⟩ := present
      have filed := KeyMap.file_lookup_present ∅ distinct
        (List.mem_map_of_mem (List.mem_range.mpr small))
      exact ⟨index, small,
        (Option.some.inj (filed.symm.trans found)).symm, rfl⟩
    · rw [KeyMap.file_lookup_absent] at found
      · simp at found
      · intro record member named
        obtain ⟨index, small, rfl⟩ := List.mem_map.mp member
        exact present ⟨index, List.mem_range.mp small, named.symm⟩
  · rintro ⟨index, small, rfl, rfl⟩
    exact KeyMap.file_lookup_present ∅ distinct
      (List.mem_map_of_mem (List.mem_range.mpr small))

theorem mem_rowSurfaces {count id : Nat} :
    id ∈ rowSurfaces count ↔ ∃ index < count, id = index + 1 := by
  rw [KeyMap.mem_iff]
  constructor
  · rintro ⟨surface, found⟩
    obtain ⟨index, small, _, named⟩ := rowSurfaces_lookup.mp found
    exact ⟨index, small, named⟩
  · rintro ⟨index, small, named⟩
    exact ⟨_, rowSurfaces_lookup.mpr ⟨index, small, rfl, named⟩⟩

theorem rowScene_outputs (count : Nat) :
    (rowScene count).outputs.toList = [(1, rowOutput)] := by
  show ((∅ : KeyMap OutputUpsert).insert 1 rowOutput).toList = _
  decide

theorem rowScene_output {count id : Nat} {output : OutputUpsert}
    (found : (rowScene count).outputs[id]? = some output) :
    id = 1 ∧ output = rowOutput := by
  have member := KeyMap.mem_toList.mpr found
  rw [rowScene_outputs] at member
  obtain ⟨rfl, rfl⟩ := Prod.mk.inj (List.mem_singleton.mp member)
  exact ⟨rfl, rfl⟩

theorem rowSurface_meets {index : Nat} (small : index < 2048) :
    (surfaceRectangle (rowSurface index)).intersection
        (outputRectangle rowOutput) =
      some (surfaceRectangle (rowSurface index)) := by
  refine intersection_of_within ⟨?_, ?_, ?_, ?_⟩ ?_ rfl rfl
  all_goals
    simp only [surfaceRectangle, rowSurface, outputRectangle, rowOutput,
      hasValidExtents_iff, right, bottom, int32Minimum, int32Maximum]
    omega

theorem rowSurface_memberships {count index : Nat} (small : index < 2048) :
    geometricMemberships (rowScene count) (rowSurface index) = [1] := by
  have meets := rowSurface_meets small
  simp only [geometricMemberships, rowScene_outputs]
  simp [rowSurface, rowOutput] at meets ⊢
  simp [meets]

theorem rowSurface_valid {index : Nat} (small : index < 2048) :
    validSceneSurface (rowSurface index) .outputModel = true := by
  have extent : checkedExtent (2 * index : Int) 1 = true := by
    rw [checkedExtent_iff]
    simp only [int32Minimum, int32Maximum]
    omega
  simp [validSceneSurface, validSurfaceRecord, validClientScale, validClip,
    metadataSurface, cursorSurface, surfacePresentationMetadataOnly,
    surfacePresentationCursor, srgb, opacityOne, rowSurface, extent]
  decide

theorem validateSurface_row {count index : Nat} (small : index < count)
    (limit : count ≤ 2048) :
    validateSurface (rowScene count) (index + 1) (rowSurface index) =
      .accepted := by
  have inRange : index < 2048 := Nat.lt_of_lt_of_le small limit
  have assigned : (rowScene count).surfaceOutputs[index + 1]? =
      some rowMembership := by
    simp [rowScene, rowSurfaces_lookup.mpr ⟨index, small, rfl, rfl⟩]
  have output : (rowScene count).outputs[(rowSurface index).outputId]? =
      some rowOutput := by
    simp [rowScene, rowSurface]
  unfold validateSurface
  rw [rowSurface_valid inRange, output, assigned,
    rowSurface_memberships inRange]
  simp [rowSurface, rowOutput, rowMembership, rowScene, metadataSurface,
    surfacePresentationMetadataOnly]

theorem rowScene_size {count : Nat} (limit : count ≤ 2048) :
    (rowScene count).surfaces.size ≤ maximumSurfaces := by
  have included : ∀ id : Nat, id ∈ rowSurfaces count →
      id ∈ (List.range count).map (· + 1) := by
    intro id known
    obtain ⟨index, small, rfl⟩ := mem_rowSurfaces.mp known
    exact List.mem_map_of_mem (List.mem_range.mpr small)
  have bound := KeyMap.size_le_length _ included
  rw [List.length_map, List.length_range] at bound
  exact bound.trans (limit.trans (by decide))

theorem rowScene_accepted {count : Nat} (limit : count ≤ 2048) :
    validateOutputModelScene (rowScene count) = .accepted := by
  have surfaces : firstRejection ((rowScene count).surfaces.toList.map
      fun entry => validateSurface (rowScene count) entry.1 entry.2) =
        .accepted := by
    refine firstRejection_of_accepted fun result member => ?_
    obtain ⟨entry, listed, rfl⟩ := List.mem_map.mp member
    obtain ⟨index, small, same, named⟩ :=
      rowSurfaces_lookup.mp (KeyMap.mem_toList.mp listed)
    rw [same, named]
    exact validateSurface_row small limit
  have memberships : (rowScene count).surfaceOutputs.keys.all
      ((rowScene count).surfaces.contains ·) = true := by
    rw [List.all_eq_true]
    intro id known
    have assigned := Std.ExtTreeMap.mem_keys.mp known
    rw [Std.ExtTreeMap.contains_iff_mem]
    simpa [rowScene] using assigned
  have outputs : (rowScene count).outputs.toList.foldlM
      (fun total entry => validateOutput entry.1 entry.2 total) 0 =
        some 4096 := by
    rw [rowScene_outputs]
    decide
  have overlap : overlappingOutputs (rowScene count) = false := by
    rw [overlappingOutputs, rowScene_outputs]
    decide
  have primary : (rowScene count).outputs[(rowScene count).primaryOutputId]? =
      some rowOutput := by
    simp [rowScene]
  unfold validateOutputModelScene
  rw [outputs, primary, surfaces, memberships, overlap,
    if_neg (Nat.not_lt.mpr (rowScene_size limit))]
  have few : ((∅ : KeyMap OutputUpsert).insert 1 rowOutput).size ≤
      Wm.maximumOutputs := by decide
  have room : decide (Wm.maximumOutputs < (rowScene count).outputs.size) =
      false := decide_eq_false (Nat.not_lt.mpr few)
  simp only [room]
  simp [rowScene, rowOutput]

theorem rowRequest_clean {count : Nat} (limit : count ≤ 2048) :
    requestError (rowRequest count).whole = none := by
  have accepted : validateOutputModelScene (rowRequest count).whole.scene =
      .accepted := rowScene_accepted limit
  simp only [requestError, accepted]
  simp [FrameSetRequest.whole, rowRequest, firstError]

/-- No surface of the row is drawn: all of them are transparent. -/
theorem rowRequest_renders (count : Nat) : ∃ rendered,
    renderOutput (rowRequest count).whole 1 rowOutput = .ok rendered := by
  rw [renderOutput_succeeds_iff, frameDamage_whole]
  refine ⟨by decide, ⟨_, rfl⟩, by decide, fun damage member => ?_⟩
  obtain rfl := List.mem_singleton.mp member
  refine ⟨by decide, fun id _ surface found membership _ shown visible => ?_⟩
  obtain ⟨index, _, rfl, _⟩ := rowSurfaces_lookup.mp found
  simp [shownAt, rowSurface] at visible

theorem rowFrame_joins (count : Nat) {frame : SoftwareFrame}
    (configured : SoftwareFrame.configure 1 4096 1 = .ok frame)
    (pixels : Raster UInt32) :
    ({} : SoftwareFrameSet).Joins
      (outputFrame (rowRequest count).whole 1 rowOutput frame pixels) := by
  obtain rfl := SoftwareFrame.configure_ok configured
  refine ⟨rfl, by decide, ?_, ?_, ?_, ?_, by simp⟩
  · simp [consistentFrame, outputFrame, outputSpec, outputScale, rowOutput]
    decide
  · show [physicalBounds rowOutput].length ≤ maximumDamageRectangles
    decide
  · show [physicalBounds rowOutput].all
      (validDamage (outputSpec 1 rowOutput)) = true
    decide
  · show 4096 * 1 ≤ maximumTotalOutputPixels - 0
    decide

theorem rowRequest_render {count : Nat} (limit : count ≤ 2048) :
    ∃ frames, render (rowRequest count).whole = .ok frames := by
  obtain ⟨rendered, rendering⟩ := rowRequest_renders count
  obtain ⟨frame, pixels, configured, rfl, _⟩ := renderOutput_apply
    (⟨by decide, by decide⟩ : Bounded rowOutput) rendering
  have joins := rowFrame_joins count configured pixels
  have staged : (rowRequest count).whole.scene.outputs.toList.foldlM
      (stageOutput (rowRequest count).whole) {} = .ok (joined {}
        (outputFrame (rowRequest count).whole 1 rowOutput frame pixels)) := by
    show (rowScene count).outputs.toList.foldlM _ _ = _
    rw [rowScene_outputs, List.foldlM_cons,
      (stageOutput_ok_iff rfl).mpr ⟨_, rendering, joins, rfl⟩]
    rfl
  have sealing : ∃ frames, (joined {} (outputFrame (rowRequest count).whole 1
      rowOutput frame pixels)).finalize 1 1 1 1 1 = .ok frames := by
    simp [finalize, firstError, joined, outputFrame, outputSpec]
  obtain ⟨frames, sealed⟩ := sealing
  exact ⟨frames, render_ok_iff.mpr
    ⟨rowRequest_clean limit, _, staged, sealed⟩⟩

def rowRectangle (index : Nat) : Rectangle :=
  { x := 2 * index, width := 1, height := 1 }

theorem rowRectangle_apart {first second : Nat} (different : first ≠ second) :
    (rowRectangle first).overlapsOrIsCompatiblyAdjacent
      (rowRectangle second) = false := by
  unfold overlapsOrIsCompatiblyAdjacent
  split
  · rfl
  · simp only [Bool.or_eq_false_iff, Bool.and_eq_false_iff,
      decide_eq_false_iff_not]
    simp only [rowRectangle, right, bottom]
    omega

theorem rowRectangle_on {index : Nat} (small : index < 2048) :
    (rowRectangle index).intersection (physicalBounds rowOutput) =
      some (rowRectangle index) := by
  refine intersection_of_within ⟨?_, ?_, ?_, ?_⟩ ?_ rfl rfl
  all_goals
    simp only [rowRectangle, physicalBounds, rowOutput, hasValidExtents_iff,
      right, bottom, int32Minimum, int32Maximum]
    omega

theorem placedPart_row {index : Nat} (small : index < 2048) :
    placedPart (rowSurface index) = some (rowRectangle index) := by
  have coordinate : ∀ value : Int, 0 ≤ value → value ≤ 4096 →
      coordinateFits value = true := by
    intro value low high
    rw [coordinateFits_iff]
    simp only [int32Minimum, int32Maximum]
    omega
  have placed : ({ width := 1, height := 1 } : Rectangle).translate
      (2 * index) 0 = some (rowRectangle index) := by
    have extents : ({ width := 1, height := 1 } :
        Rectangle).hasValidExtents = true := rfl
    unfold Rectangle.translate
    simp only [extents, right, bottom,
      coordinate (0 + 2 * index) (by omega) (by omega),
      coordinate (0 + 0) (by omega) (by omega),
      coordinate (0 + (1 : Nat) + 2 * index) (by omega) (by omega),
      coordinate (0 + (1 : Nat) + 0) (by omega) (by omega)]
    simp [rowRectangle]
  exact placed

theorem surfaceDamage_row {count index : Nat} (small : index < count)
    (limit : count ≤ 2048) :
    surfaceDamage (rowScene count) (index + 1) rowOutput =
      some (rowRectangle index) := by
  have found : (rowScene count).surfaces[index + 1]? =
      some (rowSurface index) :=
    rowSurfaces_lookup.mpr ⟨index, small, rfl, rfl⟩
  have member : memberOf (rowScene count) (index + 1) rowOutput.outputId =
      true := by
    simp [memberOf, rowScene, rowSurfaces_lookup.mpr ⟨index, small, rfl, rfl⟩,
      rowMembership, rowOutput]
  have inRange : index < 2048 := Nat.lt_of_lt_of_le small limit
  have mapped : mapLogicalRectangleToNative (outputMapping rowOutput)
      { x := ((2 * index : Nat) : Int), width := 1, height := 1 } =
        some { x := 2 * index, width := 1, height := 1 } := by
    refine mapLogicalRectangleToNative_unit (outputMapping rowOutput)
      { x := 2 * index, width := 1, height := 1 } (by decide) rfl rfl rfl
      ⟨rfl, rfl⟩ rfl ?_ (Nat.le_refl 1) (by decide) (by decide)
    simp only [outputMapping, rowOutput]
    omega
  have same : logicalRectangle (rowRectangle index) =
      { x := ((2 * index : Nat) : Int), width := 1, height := 1 } := by
    simp [logicalRectangle, rowRectangle]
  have damaged : mapLogicalDamageToNative (outputMapping rowOutput)
      (logicalRectangle (rowRectangle index))
      (footprint rowOutput (rowSurface index)) =
        some { x := 2 * index, width := 1, height := 1 } := by
    unfold mapLogicalDamageToNative
    rw [same, mapped]
    rfl
  have visible : (rowSurface index).visible = true := rfl
  unfold surfaceDamage
  simp only [found, member, placedPart_row inRange, visible, Bool.not_true,
    Bool.or_self, Bool.false_eq_true, if_false, Option.bind_some, damaged,
    Option.map_some]
  simp [nativeRectangle, rowRectangle]

/-- What the loop over the surfaces has gathered once it has seen some of
them: one rectangle for each. -/
structure RowGathered (region : DamageRegion) (indices : List Nat) :
    Prop where
  bounds : region.outputBounds = physicalBounds rowOutput
  partly : region.fullOutput = false
  rectangles : region.rectangles.Perm (indices.map rowRectangle)

theorem RowGathered.add {region : DamageRegion} {indices : List Nat}
    (gathered : RowGathered region indices) {count index : Nat}
    (small : index < count) (limit : count ≤ 2048)
    (room : indices.length < 2048) (fresh : index ∉ indices) :
    RowGathered (addSurface (addSurface region (rowScene 0) (index + 1)
      rowOutput) (rowScene count) (index + 1) rowOutput)
      (index :: indices) := by
  obtain ⟨bounds, partly, rectangles⟩ := gathered
  have unknown : surfaceDamage (rowScene 0) (index + 1) rowOutput = none := by
    have absent : (rowScene 0).surfaces[index + 1]? = none := by
      rw [← Option.not_isSome_iff_eq_none, Option.isSome_iff_exists]
      rintro ⟨surface, found⟩
      obtain ⟨_, impossible, _⟩ := rowSurfaces_lookup.mp found
      cases impossible
    simp [surfaceDamage, absent]
  unfold addSurface
  rw [unknown, surfaceDamage_row small limit]
  have apart : ∀ other ∈ region.rectangles,
      (rowRectangle index).overlapsOrIsCompatiblyAdjacent other = false := by
    intro other member
    obtain ⟨earlier, seen, rfl⟩ :=
      List.mem_map.mp (rectangles.mem_iff.mp member)
    exact rowRectangle_apart fun same => fresh (same ▸ seen)
  have short : region.rectangles.length < DamageRegion.maximumRectangles := by
    rw [rectangles.length_eq, List.length_map]
    exact room.trans (by decide)
  obtain ⟨stillPartly, added⟩ := DamageRegion.add_apart partly
    (by rw [bounds]; exact rowRectangle_on (Nat.lt_of_lt_of_le small limit))
    apart short
  refine ⟨(DamageRegion.add_outputBounds _ _).trans bounds, stillPartly, ?_⟩
  exact added.trans (rectangles.cons _)

theorem RowGathered.foldl {count : Nat} (limit : count ≤ 2048)
    {ids : List Nat} (distinct : ids.Nodup) {region : DamageRegion}
    {indices : List Nat} (gathered : RowGathered region indices)
    (fresh : ∀ id ∈ ids, ∃ index < count, id = index + 1 ∧ index ∉ indices)
    (room : indices.length + ids.length ≤ 2048) :
    ∃ seen : List Nat, seen.length = indices.length + ids.length ∧
      RowGathered (ids.foldl (fun damage surfaceId =>
        addSurface (addSurface damage (rowScene 0) surfaceId rowOutput)
          (rowScene count) surfaceId rowOutput) region) seen := by
  induction ids generalizing region indices with
  | nil => exact ⟨indices, rfl, gathered⟩
  | cons id rest ih =>
      obtain ⟨apart, restDistinct⟩ := List.nodup_cons.mp distinct
      obtain ⟨index, small, rfl, unseen⟩ := fresh id List.mem_cons_self
      rw [List.length_cons] at room
      have step := gathered.add small limit (by omega) unseen
      obtain ⟨seen, length, final⟩ := ih restDistinct step
        (fun later member => by
          obtain ⟨other, otherSmall, rfl, otherUnseen⟩ :=
            fresh later (List.mem_cons_of_mem _ member)
          refine ⟨other, otherSmall, rfl, ?_⟩
          rw [List.mem_cons, not_or]
          exact ⟨fun same => apart (same ▸ member), otherUnseen⟩)
        (by rw [List.length_cons]; omega)
      refine ⟨seen, ?_, final⟩
      rw [length, List.length_cons, List.length_cons]
      omega

theorem rowIds (count : Nat) :
    ((sceneIds (rowScene 0) (rowScene count) []).filter
      (surfaceChanged (rowScene 0) (rowScene count) [])).Perm
      ((List.range count).map (· + 1)) := by
  have unknown : ∀ id : Nat, (rowScene 0).surfaces[id]? = none := by
    intro id
    rw [← Option.not_isSome_iff_eq_none, Option.isSome_iff_exists]
    rintro ⟨surface, found⟩
    obtain ⟨_, impossible, _⟩ := rowSurfaces_lookup.mp found
    cases impossible
  have changed : ∀ id,
      surfaceChanged (rowScene 0) (rowScene count) [] id = true := by
    intro id
    simp [surfaceChanged, unknown]
  rw [List.filter_eq_self.mpr fun id _ => changed id]
  have sorted := List.perm_insertionSort (· ≤ ·) (((rowScene 0).surfaces.keys ++
    (rowScene count).surfaces.keys) ++ []).dedup
  refine (List.perm_ext_iff_of_nodup (sorted.nodup_iff.mpr
    (List.nodup_dedup _)) ?_).mpr fun id => ?_
  · exact List.nodup_range.map fun left right same => Nat.succ.inj same
  · have listed : id ∈ sceneIds (rowScene 0) (rowScene count) [] ↔ _ :=
      mem_sceneIds
    simp only [sceneIds] at listed
    rw [listed]
    simp only [List.mem_map, List.mem_range, List.not_mem_nil, or_false]
    constructor
    · rintro (before | after)
      · obtain ⟨surface, found⟩ := KeyMap.mem_iff.mp before
        simp [unknown id] at found
      · obtain ⟨index, small, rfl⟩ := mem_rowSurfaces.mp after
        exact ⟨index, small, rfl⟩
    · rintro ⟨index, small, rfl⟩
      exact .inr (mem_rowSurfaces.mpr ⟨index, small, rfl⟩)

/-- The row damages one rectangle for each of its surfaces. -/
theorem changedRegion_row {count : Nat} (limit : count ≤ 2048) :
    (changedRegion (rowScene 0) (rowScene count) [] rowOutput
      rowOutput).rectangles.length = count := by
  have distinct := (rowIds count).nodup_iff.mpr
    (List.nodup_range.map fun left right same => Nat.succ.inj same)
  have length := (rowIds count).length_eq
  rw [List.length_map, List.length_range] at length
  have empty : RowGathered { outputBounds := physicalBounds rowOutput } [] :=
    ⟨rfl, rfl, .refl _⟩
  obtain ⟨seen, seenLength, gathered⟩ := empty.foldl limit distinct
    (fun id member => by
      obtain ⟨index, small, rfl⟩ := List.mem_map.mp ((rowIds count).mem_iff.mp member)
      exact ⟨index, List.mem_range.mp small, rfl, List.not_mem_nil⟩)
    (by rw [length]; simpa using limit)
  unfold changedRegion
  rw [gathered.rectangles.length_eq, List.length_map, seenLength, length]
  exact Nat.zero_add count

theorem rowDamage_iff {count : Nat} (limit : count ≤ 2048) :
    (∀ (id : Nat) rectangles, (calculateOutputDamage (rowRequest 0).scene
      (rowRequest count).scene [])[id]? = some rectangles →
        rectangles.length ≤ maximumDamageRectangles) ↔
      count ≤ maximumDamageRectangles := by
  show (∀ (id : Nat) rectangles, (calculateOutputDamage (rowScene 0)
    (rowScene count) [])[id]? = some rectangles → _) ↔ _
  have shape : sameShape rowOutput rowOutput = true := by decide
  have enabled : rowOutput.enabled = true := rfl
  have output : ∀ size, (rowScene size).outputs[1]? = some rowOutput := by
    simp [rowScene]
  constructor
  · intro few
    by_contra many
    have some_left : (changedRegion (rowScene 0) (rowScene count) [] rowOutput
        rowOutput).rectangles ≠ [] := by
      rw [← List.length_pos_iff, changedRegion_row limit]
      omega
    have computed := few 1 (changedRegion (rowScene 0) (rowScene count) []
      rowOutput rowOutput).rectangles (by
        rw [calculateOutputDamage_lookup, output]
        simp [damageOfOutput, enabled, output, shape, some_left])
    rw [changedRegion_row limit] at computed
    exact many computed
  · intro few id rectangles computed
    rw [calculateOutputDamage_lookup] at computed
    obtain ⟨_, found, damaged⟩ := Option.bind_eq_some_iff.mp computed
    obtain ⟨rfl, rfl⟩ := rowScene_output found
    simp only [damageOfOutput, enabled, output, shape, Bool.not_true,
      Bool.false_eq_true, if_false] at damaged
    split at damaged
    · cases damaged
    · obtain rfl := Option.some.inj damaged
      rw [changedRegion_row limit]
      exact few

theorem rowTransition {count : Nat} (limit : count ≤ 2048) :
    ∃ previous full,
      Transition (rowRequest 0) (rowRequest count) [] previous full := by
  obtain ⟨previous, earlier⟩ := rowRequest_render (Nat.zero_le 2048)
  obtain ⟨full, whole⟩ := rowRequest_render limit
  refine ⟨previous, full, earlier, whole, fun id known => ?_⟩
  obtain ⟨_, impossible, _⟩ := mem_rowSurfaces.mp known
  cases impossible

/-- A thousand new surfaces that do not touch are shown. -/
theorem renders_incrementally_row : ∃ previous full,
    Transition (rowRequest 0) (rowRequest 1000) [] previous full ∧
      SamePixels (rowRequest 1000).scene (render ((rowRequest 0).incremental
        (rowRequest 1000) previous [])) full := by
  have limit : 1000 ≤ 2048 := by decide
  obtain ⟨previous, full, transition⟩ := rowTransition limit
  refine ⟨previous, full, transition, ?_⟩
  exact (renders_incrementally_iff transition).mpr
    ((rowDamage_iff limit).mpr (by decide))

/-- Twenty-five more and nothing is: the damage of the output stays within the
4096 rectangles of a region but exceeds the 1024 the renderer takes. -/
theorem many_new_surfaces_refused : ∃ previous full,
    Transition (rowRequest 0) (rowRequest 1025) [] previous full ∧
      ¬SamePixels (rowRequest 1025).scene (render ((rowRequest 0).incremental
        (rowRequest 1025) previous [])) full := by
  have limit : 1025 ≤ 2048 := by decide
  obtain ⟨previous, full, transition⟩ := rowTransition limit
  refine ⟨previous, full, transition, fun same => ?_⟩
  obtain ⟨_, complete, _⟩ := same
  have few := (rowDamage_iff limit).mp (limits_of_render transition complete)
  exact absurd few (by decide)

end Glasswyrm.Render.MultiOutput
