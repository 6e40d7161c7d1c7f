import Glasswyrm.Library.Run
import Glasswyrm.Render.Transition
import Glasswyrm.Render.MultiCompletion

namespace Glasswyrm.Render.MultiOutput

open Library Compositor Compositor.Rectangle Output SoftwareFrameSet

/-! ## What a finished run of the renderer leaves -/

/-- The entry that `append` stores for a rendered output. -/
def stored (output : OutputFrameResult) : OutputFrameResult :=
  { output with visibleHash := output.frame.visibleHash }

theorem joined_keeps {frames : SoftwareFrameSet} {output : OutputFrameResult}
    (joins : frames.Joins output) {id : Nat} {present : OutputFrameResult}
    (found : frames.outputs[id]? = some present) :
    (frames.joined output).outputs[id]? = some present := by
  unfold joined
  rw [KeyMap.lookup_insert, if_neg, found]
  rintro rfl
  have fresh := joins.fresh
  rw [Std.ExtTreeMap.contains_eq_isSome_getElem?, found] at fresh
  cases fresh

theorem joined_own (frames : SoftwareFrameSet) (output : OutputFrameResult) :
    (frames.joined output).outputs[output.output.outputId]? =
      some (stored output) := by
  unfold joined stored
  rw [KeyMap.lookup_insert, if_pos rfl]

section

variable {request : FrameSetRequest} {outputId : Nat} {output : OutputUpsert}

theorem renderOutput_named {rendered : OutputFrameResult}
    (bounded : Bounded output)
    (complete : renderOutput request outputId output = .ok rendered) :
    rendered.output.outputId = outputId := by
  obtain ⟨frame, pixels, _, rfl, _⟩ := renderOutput_apply bounded complete
  rfl

/-- A step over an enabled output renders it and joins it to the set. -/
theorem stageOutput_ok_iff {frames next : SoftwareFrameSet}
    {entry : Nat × OutputUpsert} (enabled : entry.2.enabled = true) :
    stageOutput request frames entry = .ok next ↔
      ∃ rendered, renderOutput request entry.1 entry.2 = .ok rendered ∧
        frames.Joins rendered ∧ next = frames.joined rendered := by
  unfold stageOutput
  simp only [enabled, Bool.not_true, Bool.false_eq_true, if_false]
  cases rendering : renderOutput request entry.1 entry.2 with
  | error failure => simp
  | ok rendered =>
      simp only [Except.ok.injEq, exists_eq_left', ← append_ok_iff]
      cases frames.append rendered <;> simp [Except.mapError]

theorem stageOutput_disabled {frames : SoftwareFrameSet}
    {entry : Nat × OutputUpsert} (disabled : ¬entry.2.enabled = true) :
    stageOutput request frames entry = .ok frames := by
  simp [stageOutput, disabled]

/-- Entries of the set stay, and every enabled output has got its own. -/
theorem staged_lookup {entries : List (Nat × OutputUpsert)}
    (bounded : ∀ entry ∈ entries, entry.2.enabled = true → Bounded entry.2)
    {frames staged : SoftwareFrameSet}
    (done : entries.foldlM (stageOutput request) frames = .ok staged) :
    (∀ (id : Nat) present, frames.outputs[id]? = some present →
      staged.outputs[id]? = some present) ∧
      ∀ entry ∈ entries, entry.2.enabled = true →
        ∃ rendered, renderOutput request entry.1 entry.2 = .ok rendered ∧
          staged.outputs[entry.1]? = some (stored rendered) := by
  induction entries generalizing frames with
  | nil =>
      obtain rfl := Except.ok.inj done
      exact ⟨fun _ _ found => found, by simp⟩
  | cons head rest ih =>
      rw [List.foldlM_cons] at done
      have later : ∀ entry ∈ rest, entry.2.enabled = true → Bounded entry.2 :=
        fun entry member => bounded entry (List.mem_cons_of_mem _ member)
      by_cases enabled : head.2.enabled = true
      · cases taken : stageOutput request frames head with
        | error failure => simp [taken, bind, Except.bind] at done
        | ok next =>
            simp only [taken, bind, Except.bind] at done
            obtain ⟨rendered, rendering, joins, rfl⟩ :=
              (stageOutput_ok_iff enabled).mp taken
            obtain ⟨kept, staged⟩ := ih later done
            have named := renderOutput_named
              (bounded head List.mem_cons_self enabled) rendering
            refine ⟨fun id present found => kept id present
              (joined_keeps joins found), fun entry member shown => ?_⟩
            rcases List.mem_cons.mp member with rfl | member
            · refine ⟨rendered, rendering, kept _ _ ?_⟩
              rw [← named]
              exact joined_own frames rendered
            · exact staged entry member shown
      · simp only [stageOutput_disabled enabled, bind, Except.bind] at done
        obtain ⟨kept, staged⟩ := ih later done
        refine ⟨kept, fun entry member shown => ?_⟩
        rcases List.mem_cons.mp member with rfl | member
        · exact absurd shown enabled
        · exact staged entry member shown

theorem finalize_ok {frames final : SoftwareFrameSet}
    {layoutGeneration primaryOutputId commitId generation ordinal : Nat}
    (finished : frames.finalize layoutGeneration primaryOutputId commitId
      generation ordinal = .ok final) :
    final.finalized = true ∧ final.outputs = frames.outputs := by
  unfold finalize at finished
  split at finished
  · cases finished
  · obtain rfl := Except.ok.inj finished
    exact ⟨rfl, rfl⟩

theorem requestError_accepted (clean : requestError request = none) :
    AcceptedScene request.scene := by
  simp only [requestError, firstError_none_iff, List.forall_mem_cons,
    Bool.or_eq_false_iff, decide_eq_false_iff_not, not_not] at clean
  exact acceptedScene_of_validate clean.1.2

theorem AcceptedScene.bounded {scene : Scene} (accepted : AcceptedScene scene)
    {id : Nat} {output : OutputUpsert}
    (found : scene.outputs[id]? = some output)
    (enabled : output.enabled = true) : Bounded output := by
  obtain ⟨_, _, width, height⟩ :=
    validSceneOutput_extent (accepted.outputs id output found).2 enabled
  exact ⟨width, height⟩

/-- A finished run has checked the request, staged every output and sealed the
set. -/
theorem render_ok_iff {frames : SoftwareFrameSet} :
    render request = .ok frames ↔
      requestError request = none ∧ ∃ staged,
        request.scene.outputs.toList.foldlM (stageOutput request) {} =
            .ok staged ∧
          staged.finalize request.scene.configurationGeneration
            request.scene.primaryOutputId request.commitId request.generation
            request.ordinal = .ok frames := by
  unfold render
  cases checked : requestError request with
  | some error => simp
  | none =>
      cases staging : request.scene.outputs.toList.foldlM
          (stageOutput request) {} with
      | error failure => simp
      | ok staged =>
          cases sealing : staged.finalize request.scene.configurationGeneration
              request.scene.primaryOutputId request.commitId
              request.generation request.ordinal <;>
            simp [sealing, Except.mapError]

/-- The finished set is sealed and has the rendering of every enabled
output. -/
theorem render_lookup {frames : SoftwareFrameSet}
    (complete : render request = .ok frames) :
    AcceptedScene request.scene ∧ frames.finalized = true ∧
      ∀ (id : Nat) output, request.scene.outputs[id]? = some output →
        output.enabled = true →
          ∃ rendered, renderOutput request id output = .ok rendered ∧
            frames.outputs[id]? = some (stored rendered) := by
  obtain ⟨clean, staged, staging, sealing⟩ := render_ok_iff.mp complete
  have accepted := requestError_accepted clean
  obtain ⟨finalized, outputs⟩ := finalize_ok sealing
  have bounded : ∀ entry ∈ request.scene.outputs.toList,
      entry.2.enabled = true → Bounded entry.2 := fun entry member enabled =>
    AcceptedScene.bounded accepted (KeyMap.mem_toList.mp member) enabled
  refine ⟨accepted, finalized, fun id output found enabled => ?_⟩
  rw [outputs]
  exact (staged_lookup bounded staging).2 (id, output)
    (KeyMap.mem_toList.mpr found) enabled

end

end Glasswyrm.Render.MultiOutput
