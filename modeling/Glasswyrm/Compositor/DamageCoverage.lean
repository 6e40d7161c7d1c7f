import Mathlib.Data.List.Dedup
import Glasswyrm.Compositor.OutputDamage

namespace Glasswyrm.Compositor

open Output Render

/-! What a changed surface damaged stays covered while the other changes are
gathered. -/

open DamageRegion

theorem addSurface_grows (region : DamageRegion) (scene : Scene)
    (surfaceId : Nat) (output : OutputUpsert) :
    region.Grows (addSurface region scene surfaceId output) := by
  unfold addSurface
  cases damaged : surfaceDamage scene surfaceId output with
  | none => exact .refl region
  | some native => exact add_grows region native

/-- What the surface damages on the output, in coordinates in range. -/
structure Damages (scene : Scene) (surfaceId : Nat) (output : OutputUpsert)
    (native : Rectangle) : Prop where
  damaged : surfaceDamage scene surfaceId output = some native
  extents : native.hasValidExtents = true

theorem Damages.known {scene : Scene} {surfaceId : Nat}
    {output : OutputUpsert} {native : Rectangle}
    (damages : Damages scene surfaceId output native) :
    surfaceId ∈ scene.surfaces := by
  have damaged := damages.damaged
  unfold surfaceDamage at damaged
  rw [KeyMap.mem_iff]
  split at damaged
  · cases damaged
  · rename_i surface found
    exact ⟨surface, found⟩

theorem addSurface_covers {region : DamageRegion} {scene : Scene}
    {surfaceId : Nat} {output : OutputUpsert} {native : Rectangle}
    (wellformed : region.Wellformed)
    (valid : region.outputBounds.hasValidExtents = true)
    (damages : Damages scene surfaceId output native) {x y : Int}
    (inside : native.Contains x y)
    (within : region.outputBounds.Contains x y) :
    (addSurface region scene surfaceId output).Covers x y := by
  unfold addSurface
  rw [damages.damaged]
  exact add_covers wellformed valid damages.extents (.inr ⟨inside, within⟩)

theorem mem_sceneIds {before after : Scene} {contentChanged : List Nat}
    {surfaceId : Nat} :
    surfaceId ∈ sceneIds before after contentChanged ↔
      surfaceId ∈ before.surfaces ∨ surfaceId ∈ after.surfaces ∨
        surfaceId ∈ contentChanged := by
  simp only [sceneIds, List.mem_insertionSort, List.mem_dedup,
    List.mem_append, Std.ExtTreeMap.mem_keys, or_assoc]

section

variable {before after : Scene} {contentChanged : List Nat}
  {previousOutput output : OutputUpsert}

theorem changedRegion_grows :
    ({ outputBounds := physicalBounds output } : DamageRegion).Grows
      (changedRegion before after contentChanged previousOutput output) :=
  foldl_grows (fun region surfaceId =>
    (addSurface_grows region before surfaceId previousOutput).trans
      (addSurface_grows _ after surfaceId output)) _ _

@[simp] theorem changedRegion_bounds :
    (changedRegion before after contentChanged previousOutput
      output).outputBounds = physicalBounds output :=
  changedRegion_grows.bounds

theorem changedRegion_wellformed :
    (changedRegion before after contentChanged previousOutput
      output).Wellformed :=
  changedRegion_grows.wellformed (initial_wellformed _)

/-- The native rectangle of a changed surface is covered, as it was placed
before and as it is placed now. -/
theorem changedRegion_covers
    (valid : (physicalBounds output).hasValidExtents = true)
    {surfaceId : Nat} {native : Rectangle}
    (changed : surfaceChanged before after contentChanged surfaceId = true)
    (damages : Damages before surfaceId previousOutput native ∨
      Damages after surfaceId output native) {x y : Int}
    (inside : native.Contains x y)
    (within : (physicalBounds output).Contains x y) :
    (changedRegion before after contentChanged previousOutput
      output).Covers x y := by
  have listed : surfaceId ∈ sceneIds before after contentChanged := by
    rw [mem_sceneIds]
    rcases damages with damages | damages
    · exact .inl damages.known
    · exact .inr (.inl damages.known)
  obtain ⟨earlier, later, split⟩ :=
    List.append_of_mem (List.mem_filter.mpr ⟨listed, changed⟩)
  unfold changedRegion
  rw [split, List.foldl_append, List.foldl_cons]
  have step : ∀ (region : DamageRegion) surfaceId, region.Grows
      (addSurface (addSurface region before surfaceId previousOutput) after
        surfaceId output) := fun region surfaceId =>
    (addSurface_grows region before surfaceId previousOutput).trans
      (addSurface_grows _ after surfaceId output)
  generalize gathered : earlier.foldl _ _ = region
  have reached : ({ outputBounds := physicalBounds output } :
      DamageRegion).Grows region := gathered ▸ foldl_grows step _ earlier
  have bounds : region.outputBounds = physicalBounds output := reached.bounds
  have wellformed := reached.wellformed (initial_wellformed _)
  have first := addSurface_grows region before surfaceId previousOutput
  have both := step region surfaceId
  refine (foldl_grows step _ later).covers (both.wellformed wellformed)
    (by rw [both.bounds, bounds]; exact valid) x y ?_
  rcases damages with damages | damages
  · refine (addSurface_grows _ after surfaceId output).covers
      (first.wellformed wellformed) (by rw [first.bounds, bounds]; exact valid)
      x y ?_
    exact addSurface_covers wellformed (by rw [bounds]; exact valid) damages
      inside (by rw [bounds]; exact within)
  · exact addSurface_covers (first.wellformed wellformed)
      (by rw [first.bounds, bounds]; exact valid) damages inside
      (by rw [first.bounds, bounds]; exact within)

end

end Glasswyrm.Compositor
