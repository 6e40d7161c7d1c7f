import Glasswyrm.Render.MultiPainting

namespace Glasswyrm.Render.MultiOutput

open Library Compositor Compositor.Rectangle Output

/-! When an output is rendered, and when a rendered output joins the set. -/

section

variable {request : FrameSetRequest} {outputId : Nat} {output : OutputUpsert}

/-- The loop over a damage rectangle gets past the surface: where the surface
meets the rectangle its image can be read. -/
def Admitted (request : FrameSetRequest) (outputId : Nat)
    (output : OutputUpsert) (damage : Rectangle) (surfaceId : Nat) : Prop :=
  ∀ surface, request.scene.surfaces[surfaceId]? = some surface →
    ∀ membership,
      request.scene.surfaceOutputs[surfaceId]? = some membership →
        ∀ shown, shownAt outputId output surface membership = some shown →
          (damage.intersection shown.2).isSome = true →
            (surfaceImage request surface).isSome = true

theorem renderStacked_succeeds_iff (damage : Rectangle)
    (pixels : Raster UInt32) (surfaceId : Nat) :
    (∃ next, renderStacked request outputId output damage pixels surfaceId =
        .ok next) ↔
      Admitted request outputId output damage surfaceId := by
  unfold renderStacked Admitted
  cases found : request.scene.surfaces[surfaceId]? with
  | none => simp
  | some surface =>
      cases assigned : request.scene.surfaceOutputs[surfaceId]? with
      | none => simp
      | some membership =>
          simp only [Option.some.injEq, forall_eq', renderSurface]
          cases shown : shownAt outputId output surface membership with
          | none => simp
          | some bounds =>
              obtain ⟨logicalBounds, physicalBounds⟩ := bounds
              simp only [Option.some.injEq, forall_eq']
              cases painting : damage.intersection physicalBounds with
              | none => simp
              | some painted =>
                  simp only [Option.isSome_some, forall_const]
                  cases loaded : loadImage request surface with
                  | ok image =>
                      simp [Except.map, loadImage_ok_iff.mp loaded]
                  | error failure =>
                      have missing : surfaceImage request surface = none := by
                        cases imaged : surfaceImage request surface with
                        | none => rfl
                        | some image =>
                            rw [loadImage_ok_iff.mpr imaged] at loaded
                            cases loaded
                      simp [Except.map, missing]

theorem renderRectangle_succeeds_iff (pixels : Raster UInt32)
    (damage : Rectangle) :
    (∃ next, renderRectangle request outputId output pixels damage =
        .ok next) ↔
      validDamage (outputSpec outputId output) damage = true ∧
        ∀ id ∈ request.sceneModel.stackingOrder,
          Admitted request outputId output damage id := by
  unfold renderRectangle
  by_cases valid : validDamage (outputSpec outputId output) damage = true
  · simp only [valid, Bool.not_true, Bool.false_eq_true, if_false, true_and]
    exact foldlM_succeeds_iff (fun _ => True)
      (fun _ _ _ _ _ => trivial)
      (fun pixels id _ => renderStacked_succeeds_iff damage pixels id) trivial
  · simp [valid]

theorem renderRectangles_succeed_iff (pixels : Raster UInt32)
    {damages : List Rectangle} :
    (∃ next, damages.foldlM (renderRectangle request outputId output) pixels =
        .ok next) ↔
      ∀ damage ∈ damages,
        validDamage (outputSpec outputId output) damage = true ∧
          ∀ id ∈ request.sceneModel.stackingOrder,
            Admitted request outputId output damage id :=
  foldlM_succeeds_iff (fun _ => True) (fun _ _ _ _ _ => trivial)
    (fun pixels damage _ => renderRectangle_succeeds_iff pixels damage) trivial

theorem renderOutput_succeeds_iff :
    (∃ rendered, renderOutput request outputId output = .ok rendered) ↔
      (outputMapping output).valid = true ∧
        (∃ frame, SoftwareFrame.configure outputId output.physicalPixelWidth
          output.physicalPixelHeight = .ok frame) ∧
        (frameDamage request outputId output).length ≤
          maximumDamageRectangles ∧
        ∀ damage ∈ frameDamage request outputId output,
          validDamage (outputSpec outputId output) damage = true ∧
            ∀ id ∈ request.sceneModel.stackingOrder,
              Admitted request outputId output damage id := by
  unfold renderOutput
  by_cases valid : (outputMapping output).valid = true
  · simp only [valid, Bool.not_true, Bool.false_eq_true, if_false, true_and]
    cases SoftwareFrame.configure outputId output.physicalPixelWidth
        output.physicalPixelHeight with
    | error error => simp
    | ok frame =>
        simp only [Except.ok.injEq, exists_eq', true_and]
        by_cases limit : (frameDamage request outputId output).length ≤
            maximumDamageRectangles
        · simp only [limit, Nat.not_lt.mpr limit, if_false, true_and]
          rw [← renderRectangles_succeed_iff
            (startPixels request output frame.pixels)]
          cases (frameDamage request outputId output).foldlM
              (renderRectangle request outputId output)
              (startPixels request output frame.pixels) <;>
            simp [Except.map]
        · simp [limit, Nat.lt_of_not_le limit]
  · simp [valid]

/-- An image that the whole output needs is the only one any part needs. -/
theorem Admitted.of_whole (bounded : Bounded output) {surfaceId : Nat}
    (whole : Admitted request outputId output (physicalBounds output)
      surfaceId) (damage : Rectangle) :
    Admitted request outputId output damage surfaceId := by
  intro surface found membership assigned ⟨logicalBounds, _⟩ shown _
  refine whole surface found membership assigned _ shown ?_
  obtain ⟨_, _, _, native, mapped, rfl⟩ := shownAt_some shown
  have on := mapLogicalRectangleToNative_on mapped
  have valid := nativeRectangle_valid bounded on
  obtain ⟨width, height, onRight, onBottom⟩ := on
  simp only [outputMapping] at onRight onBottom
  have boundsValid : (physicalBounds output).hasValidExtents = true := by
    obtain ⟨widest, highest⟩ := bounded
    simp only [maximumOutputPhysicalExtent] at widest highest
    rw [hasValidExtents_iff]
    simp only [physicalBounds, right, bottom, int32Minimum, int32Maximum]
    omega
  obtain ⟨common, meets⟩ := intersection_isSome (x := native.x) (y := native.y)
    boundsValid valid
    (by simp only [physicalBounds, Contains, right, bottom]; omega)
    (by simp only [nativeRectangle, Contains, right, bottom]; omega)
  rw [meets]
  rfl

end

end Glasswyrm.Render.MultiOutput
