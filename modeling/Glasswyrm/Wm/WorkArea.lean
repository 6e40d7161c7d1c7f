import Glasswyrm.Wm.PolicyEngine
import Glasswyrm.Wm.Stacked

namespace Glasswyrm.Wm

open Lifecycle Output Library

/-! Placement in the work area of a single output. -/

variable {raw : RawState}

/-- A transient as it is placed from the given state, over the middle of its
parent. -/
def centeredTransient (raw : RawState) (_ : Nat)
    (state parent : WindowState) : WindowState :=
  let context := raw.context
  let centeredX : Int := parent.finalX +
    Int.tdiv ((parent.finalWidth : Int) - state.finalWidth) 2
  let centeredY : Int := parent.finalY +
    Int.tdiv ((parent.finalHeight : Int) - state.finalHeight) 2
  { state with
    finalX := clampCoordinate centeredX context.workX
      (context.workX + context.workWidth - state.finalWidth)
    finalY := clampCoordinate centeredY context.workY
      (context.workY + context.workHeight - state.finalHeight) }

theorem centerTransient_eq :
    centerTransient raw =
      propagate (fun id => (raw.window id).transientFor)
        (centeredTransient raw) {} := rfl

theorem placedState_lookup {id : Nat} (known : id ∈ raw.windows) :
    (raw.windows.map (placedState raw))[id]? =
      some (placedState raw id (raw.window id)) := by
  rw [Std.ExtTreeMap.getElem?_map, RawState.window_known known,
    Option.map_some]

theorem placement_root {id : Nat} (root : raw.IsRoot id) :
    (applyPlacementAndFullscreenGeometry raw)[id]? =
      some (placedState raw id (raw.window id)) := by
  have absent : id ∉ transientParentFirst raw := fun member =>
    root.not_isTransient (mem_transientParentFirst.mp member)
  rw [applyPlacementAndFullscreenGeometry, centerTransient_eq,
    foldl_propagate_absent absent]
  exact placedState_lookup root.1

theorem placement_transient (valid : Valid raw) {id : Nat}
    (isTransient : raw.IsTransient id) :
    (applyPlacementAndFullscreenGeometry raw)[id]? =
      some (centeredTransient raw id (placedState raw id (raw.window id))
        ((applyPlacementAndFullscreenGeometry raw)[
          (raw.window id).transientFor]?.getD {})) := by
  have placed := @foldl_propagate WindowState _ (centeredTransient raw) {} _
    valid.parentsFirst (raw.windows.map (placedState raw)) id
    (mem_transientParentFirst.mpr isTransient)
  rw [placedState_lookup isTransient.1, Option.getD_some] at placed
  exact placed

theorem placement_known (id : Nat) :
    id ∈ applyPlacementAndFullscreenGeometry raw ↔ id ∈ raw.windows := by
  have transients : ∀ id ∈ transientParentFirst raw,
      id ∈ raw.windows.map (placedState raw) := fun id member =>
    KeyMap.mem_of_lookup
      (placedState_lookup (mem_transientParentFirst.mp member).1)
  rw [applyPlacementAndFullscreenGeometry, centerTransient_eq,
    foldl_propagate_mem transients]
  exact Std.ExtTreeMap.mem_map

theorem placeRoot_identity (window : RawWindow) (state : WindowState) :
    (placeRoot raw window state).identity = state.identity := by
  fun_cases placeRoot raw window state <;> rfl

/-- Every window of an accepted state is placed. -/
theorem placement_describes (valid : Valid raw) :
    Describes raw (assignOutputs raw
      (applyPlacementAndFullscreenGeometry raw)) where
  known id := Std.ExtTreeMap.mem_map.trans (placement_known id)
  identity id state found := by
    rw [assignOutputs, Std.ExtTreeMap.getElem?_map, Option.map_eq_some_iff]
      at found
    obtain ⟨placed, there, rfl⟩ := found
    have known := (placement_known id).mp (KeyMap.mem_of_lookup there)
    rcases isTransient_or_isRoot known with isTransient | root
    · rw [placement_transient valid isTransient] at there
      rw [← Option.some.inj there]
      exact placeRoot_identity _ _
    · rw [placement_root root] at there
      rw [← Option.some.inj there]
      exact placeRoot_identity _ _

/-- In either profile the geometry stage describes the windows. -/
theorem geometryProfile_describes (valid : Valid raw) :
    Describes raw (applyGeometryProfile raw) := by
  rw [applyGeometryProfile]
  split
  · exact placement_describes valid
  · exact multiOutput_describes valid

/-! ## The evaluated windows of either profile -/

section

variable (valid : Valid raw)

include valid

theorem evaluated_placement :
    SamePlacement (applyGeometryProfile raw)
      (evaluateWindows raw).windows := by
  have describes := geometryProfile_describes valid
  have focused := applyFocusAndVisibility_placement describes
  exact focused.trans (numberStacking_placement 0
    (fun id member => mem_stackingOrder member) (describes.later focused))

theorem evaluated_describes : Describes raw (evaluateWindows raw).windows :=
  (geometryProfile_describes valid).later (evaluated_placement valid)

end

end Glasswyrm.Wm
