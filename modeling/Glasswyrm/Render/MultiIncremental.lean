import Glasswyrm.Render.FrameSetRun

namespace Glasswyrm.Render.MultiOutput

open Library Compositor Compositor.Rectangle Output SoftwareFrameSet

/-! A frame set rendered over the previous one, against a frame set rendered
from nothing. -/

namespace FrameSetRequest

/-- The request without a previous frame set: every output is painted whole. -/
def whole (request : FrameSetRequest) : FrameSetRequest :=
  { request with previous := none, damage := ∅ }

/-- The request as `prepare_output_frame_set` makes it after a change. -/
def incremental (before after : FrameSetRequest) (previous : SoftwareFrameSet)
    (contentChanged : List Nat) : FrameSetRequest :=
  { after with
    previous := some previous
    damage :=
      calculateOutputDamage before.scene after.scene contentChanged }

end FrameSetRequest

theorem calculateOutputDamage_lookup (before after : Scene)
    (contentChanged : List Nat) (id : Nat) :
    (calculateOutputDamage before after contentChanged)[id]? =
      after.outputs[id]?.bind (damageOfOutput before after contentChanged id) :=
  Std.ExtTreeMap.getElem?_filterMap'

/-- The region whose rectangles are the damage of the output. -/
theorem damageOfOutput_region {before after : Scene}
    {contentChanged : List Nat} {id : Nat} {output : OutputUpsert}
    {rectangles : List Rectangle}
    (damage : damageOfOutput before after contentChanged id output =
      some rectangles) :
    output.enabled = true ∧
      ∃ region : DamageRegion, region.Wellformed ∧
        region.outputBounds = physicalBounds output ∧
        region.rectangles = rectangles := by
  unfold damageOfOutput at damage
  split at damage
  · cases damage
  · rename_i enabled
    have full : ∃ region : DamageRegion, region.Wellformed ∧
        region.outputBounds = physicalBounds output ∧
        region.rectangles = (DamageRegion.addFullOutput
          { outputBounds := physicalBounds output }).rectangles :=
      ⟨_, DamageRegion.addFullOutput_wellformed _, rfl, rfl⟩
    refine ⟨by simpa using enabled, ?_⟩
    split at damage
    · obtain rfl := Option.some.inj damage
      exact full
    · split at damage
      · obtain rfl := Option.some.inj damage
        exact full
      · simp only at damage
        split at damage
        · cases damage
        · obtain rfl := Option.some.inj damage
          exact ⟨_, changedRegion_wellformed, changedRegion_bounds, rfl⟩

theorem validDamage_of_region {output : OutputUpsert} {outputId : Nat}
    {region : DamageRegion} (wellformed : region.Wellformed)
    (bounds : region.outputBounds = physicalBounds output) :
    ∀ rectangle ∈ region.rectangles,
      validDamage (outputSpec outputId output) rectangle = true := by
  intro rectangle member
  obtain ⟨left, right, top, bottom⟩ := wellformed.bounded rectangle member
  have solid := wellformed.solid rectangle member
  rw [bounds] at left right top bottom
  simp only [empty, Bool.or_eq_false_iff, decide_eq_false_iff_not] at solid
  simp only [validDamage, Bool.and_eq_true, decide_eq_true_eq]
  simp only [outputSpec, physicalBounds, Rectangle.right,
    Rectangle.bottom] at *
  omega

theorem addFullOutput_length (region : DamageRegion) :
    region.addFullOutput.rectangles.length ≤ 1 := by
  unfold DamageRegion.addFullOutput
  split <;> simp

/-! ## The two runs side by side -/

/-- Two sets that differ in the frames they hold only by pixels and damage. -/
structure Alike (mine theirs : SoftwareFrameSet) : Prop where
  finalized : mine.finalized = theirs.finalized
  totalPixels : mine.totalPixels = theirs.totalPixels
  size : mine.outputs.size = theirs.outputs.size
  known : ∀ id : Nat, mine.outputs.contains id = theirs.outputs.contains id

theorem Alike.joined {mine theirs : SoftwareFrameSet}
    (alike : Alike mine theirs) {own other : OutputFrameResult}
    (spec : own.output = other.output) :
    Alike (mine.joined own) (theirs.joined other) := by
  obtain ⟨finalized, totalPixels, size, known⟩ := alike
  constructor
  · exact finalized
  · simp only [SoftwareFrameSet.joined, totalPixels, spec]
  · simp only [SoftwareFrameSet.joined, Std.ExtTreeMap.size_insert, size,
      known, spec]
  · intro id
    simp only [SoftwareFrameSet.joined, Std.ExtTreeMap.contains_insert, known,
      spec]

section

variable {before after : FrameSetRequest} {previous full : SoftwareFrameSet}
  {contentChanged : List Nat}

/-- Where the previous frame is of no use the damage is one rectangle, and
otherwise it is the damage that was computed. -/
theorem frameDamage_incremental {outputId : Nat} {output : OutputUpsert}
    (found : after.scene.outputs[outputId]? = some output) :
    frameDamage (before.incremental after previous contentChanged) outputId
        output =
      if (compatiblePrevious (some previous) output).isNone then
        [physicalBounds output]
      else
        (damageOfOutput before.scene after.scene contentChanged outputId
          output).getD [] := by
  unfold frameDamage
  have damage : (before.incremental after previous
      contentChanged).damage[outputId]? =
        damageOfOutput before.scene after.scene contentChanged outputId
          output := by
    simp only [FrameSetRequest.incremental, calculateOutputDamage_lookup,
      found, Option.bind_some]
  rw [damage]
  rfl

theorem frameDamage_whole (request : FrameSetRequest) (outputId : Nat)
    (output : OutputUpsert) :
    frameDamage request.whole outputId output = [physicalBounds output] := rfl

theorem frameDamage_valid {outputId : Nat} {output : OutputUpsert}
    (found : after.scene.outputs[outputId]? = some output)
    (whole : validDamage (outputSpec outputId output) (physicalBounds output) =
      true) :
    ∀ damage ∈ frameDamage (before.incremental after previous contentChanged)
        outputId output,
      validDamage (outputSpec outputId output) damage = true := by
  rw [frameDamage_incremental found]
  split
  · intro damage member
    obtain rfl := List.mem_singleton.mp member
    exact whole
  · cases computed : damageOfOutput before.scene after.scene contentChanged
        outputId output with
    | none => simp
    | some rectangles =>
        obtain ⟨_, region, wellformed, bounds, rfl⟩ :=
          damageOfOutput_region computed
        exact validDamage_of_region wellformed bounds

/-- The incremental rendering of an output that can be rendered whole fails
only for the number of its damage rectangles. -/
theorem renderOutput_incremental_iff {outputId : Nat} {output : OutputUpsert}
    (bounded : Bounded output)
    (found : after.scene.outputs[outputId]? = some output)
    (whole : ∃ rendered,
      renderOutput after.whole outputId output = .ok rendered) :
    (∃ rendered, renderOutput
        (before.incremental after previous contentChanged) outputId output =
          .ok rendered) ↔
      (frameDamage (before.incremental after previous contentChanged) outputId
        output).length ≤ maximumDamageRectangles := by
  rw [renderOutput_succeeds_iff] at whole ⊢
  rw [frameDamage_whole] at whole
  obtain ⟨valid, configured, _, painted⟩ := whole
  obtain ⟨wholeValid, admitted⟩ := painted _ (List.mem_singleton_self _)
  constructor
  · rintro ⟨_, _, limit, _⟩
    exact limit
  · intro limit
    refine ⟨valid, configured, limit, fun damage member =>
      ⟨frameDamage_valid found wholeValid damage member, fun id ordered => ?_⟩⟩
    exact Admitted.of_whole bounded (admitted id ordered) damage

/-- The number of damage rectangles of the entry is within the limit of the
renderer. -/
def Few (before after : FrameSetRequest) (previous : SoftwareFrameSet)
    (contentChanged : List Nat) (entry : Nat × OutputUpsert) : Prop :=
  entry.2.enabled = true →
    (frameDamage (before.incremental after previous contentChanged) entry.1
      entry.2).length ≤ maximumDamageRectangles

theorem stageOutput_lockstep {entry : Nat × OutputUpsert}
    (bounded : entry.2.enabled = true → Bounded entry.2)
    (found : after.scene.outputs[entry.1]? = some entry.2)
    {mine theirs next : SoftwareFrameSet} (alike : Alike mine theirs)
    (taken : stageOutput after.whole theirs entry = .ok next) :
    ((∃ following, stageOutput
        (before.incremental after previous contentChanged) mine entry =
          .ok following) ↔ Few before after previous contentChanged entry) ∧
      ∀ following, stageOutput
          (before.incremental after previous contentChanged) mine entry =
            .ok following → Alike following next := by
  by_cases enabled : entry.2.enabled = true
  · obtain ⟨whole, wholeRendered, joins, rfl⟩ :=
      (stageOutput_ok_iff enabled).mp taken
    obtain ⟨frame, wholePixels, configured, rfl, _⟩ :=
      renderOutput_apply (bounded enabled) wholeRendered
    -- both results have the same metadata, so one joins where the other does
    have shaped : ∀ rendered, renderOutput
        (before.incremental after previous contentChanged) entry.1 entry.2 =
          .ok rendered → mine.Joins rendered ∧
            rendered.output = outputSpec entry.1 entry.2 := by
      intro rendered rendering
      have complete := (renderOutput_succeeds_iff.mp ⟨rendered, rendering⟩)
      obtain ⟨_, _, limit, painted⟩ := complete
      obtain ⟨own, pixels, ownConfigured, rfl, _⟩ :=
        renderOutput_apply (bounded enabled) rendering
      obtain rfl : own = frame :=
        Except.ok.inj (ownConfigured.symm.trans configured)
      refine ⟨⟨?_, ?_, joins.consistent, limit, ?_, ?_, ?_⟩, rfl⟩
      · rw [alike.finalized]
        exact joins.unfinished
      · rw [alike.size]
        exact joins.room
      · exact List.all_eq_true.mpr fun damage member =>
          (painted damage member).1
      · rw [alike.totalPixels]
        exact joins.pixels
      · rw [alike.known]
        exact joins.fresh
    constructor
    · rw [Few, forall_prop_of_true enabled, ← renderOutput_incremental_iff
        (bounded enabled) found ⟨_, wholeRendered⟩]
      simp only [stageOutput_ok_iff enabled]
      constructor
      · rintro ⟨_, rendered, rendering, _⟩
        exact ⟨rendered, rendering⟩
      · rintro ⟨rendered, rendering⟩
        exact ⟨_, rendered, rendering, (shaped rendered rendering).1, rfl⟩
    · intro following staged
      obtain ⟨rendered, rendering, _, rfl⟩ :=
        (stageOutput_ok_iff enabled).mp staged
      exact alike.joined (shaped rendered rendering).2
  · rw [stageOutput_disabled enabled] at taken
    obtain rfl := Except.ok.inj taken
    rw [stageOutput_disabled enabled]
    refine ⟨?_, fun following same => ?_⟩
    · simp [Few, enabled]
    · obtain rfl := Except.ok.inj same
      exact alike

theorem finalize_alike {mine theirs : SoftwareFrameSet}
    (alike : Alike mine theirs)
    {layoutGeneration primaryOutputId commitId generation ordinal : Nat}
    {final : SoftwareFrameSet}
    (sealed : theirs.finalize layoutGeneration primaryOutputId commitId
      generation ordinal = .ok final) :
    ∃ following, mine.finalize layoutGeneration primaryOutputId commitId
      generation ordinal = .ok following := by
  have empty : mine.outputs.isEmpty = theirs.outputs.isEmpty := by
    rw [Std.ExtTreeMap.isEmpty_eq_size_beq_zero,
      Std.ExtTreeMap.isEmpty_eq_size_beq_zero, alike.size]
  unfold finalize at sealed ⊢
  rw [alike.finalized, empty, alike.known]
  split at sealed
  · cases sealed
  · exact ⟨_, rfl⟩

end

end Glasswyrm.Render.MultiOutput
