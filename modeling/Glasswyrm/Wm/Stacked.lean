import Glasswyrm.Wm.Ordering
import Glasswyrm.Wm.PlacedWindows
import Glasswyrm.Wm.Visibility

namespace Glasswyrm.Wm

open Lifecycle Output Library

/-! The stacking stage numbers known windows and leaves them where they are. -/

variable {raw : RawState} {windows : KeyMap WindowState}

theorem mem_sortIds {ids : List Nat} {id : Nat} :
    id ∈ sortIds raw ids ↔ id ∈ ids := by
  rw [sortIds, List.mem_insertionSort]

theorem mem_insertBeside {sibling id : Nat} {above : Bool}
    {band : List Nat} {other : Nat} :
    other ∈ insertBeside sibling id above band ↔
      other = id ∨ other ∈ band := by
  induction band with
  | nil => simp [insertBeside]
  | cons head rest ih =>
      rw [insertBeside]
      split
      · split
        · simp only [List.mem_cons]
          exact or_left_comm
        · simp only [List.mem_cons]
      · rw [List.mem_cons, ih, List.mem_cons]
        exact or_left_comm

theorem mem_restack {band : List Nat} {id other : Nat} :
    other ∈ restack raw band id → other ∈ band := by
  fun_cases restack raw band id with
  | case1 => exact fun member => member
  | case2 operation above member others _ up =>
      intro here
      rcases List.mem_append.mp here with rest | last
      · exact List.mem_of_mem_erase rest
      · rw [List.mem_singleton.mp last]
        exact Decidable.not_not.mp member
  | case3 operation above member others _ down =>
      intro here
      rcases List.mem_cons.mp here with rfl | rest
      · exact Decidable.not_not.mp member
      · exact List.mem_of_mem_erase rest
  | case4 operation above member others _ =>
      intro here
      rcases mem_insertBeside.mp here with rfl | rest
      · exact Decidable.not_not.mp member
      · exact List.mem_of_mem_erase rest

theorem mem_applyRestack {band : List Nat} {other : Nat}
    (member : other ∈ applyRestack raw band) : other ∈ band := by
  have kept : ∀ (ids band : List Nat),
      other ∈ ids.foldl (restack raw) band → other ∈ band := by
    intro ids
    induction ids with
    | nil => exact fun _ member => member
    | cons id rest ih =>
        exact fun band member => mem_restack (ih (restack raw band id) member)
  exact kept (restackOperations raw band) band member

theorem mem_emitTransientTree {fuel id other : Nat}
    (known : id ∈ raw.windows)
    (member : other ∈ emitTransientTree raw windows fuel id) :
    other ∈ raw.windows := by
  induction fuel generalizing id with
  | zero => cases member
  | succ fuel ih =>
      rw [emitTransientTree] at member
      rcases List.mem_cons.mp member with rfl | below
      · exact known
      · obtain ⟨child, isChild, there⟩ := List.mem_flatMap.mp below
        have listed := mem_sortIds.mp isChild
        rw [visibleChildren, List.mem_filter, Std.ExtTreeMap.mem_keys]
          at listed
        exact ih listed.1 there

theorem mem_stackingOrder {id : Nat}
    (member : id ∈ stackingOrder raw windows) : id ∈ raw.windows := by
  rw [stackingOrder] at member
  rcases List.mem_append.mp member with tree | override
  · obtain ⟨root, listed, below⟩ := List.mem_flatMap.mp tree
    refine mem_emitTransientTree ?_ below
    have parted := List.mem_of_mem_filter listed
    rw [List.mem_append] at parted
    have banded := parted.elim List.mem_of_mem_filter List.mem_of_mem_filter
    have managed := mem_sortIds.mp (mem_applyRestack banded)
    exact Std.ExtTreeMap.mem_keys.mp (List.mem_of_mem_filter managed)
  · have banded := mem_applyRestack (List.mem_of_mem_filter override)
    exact Std.ExtTreeMap.mem_keys.mp
      (List.mem_of_mem_filter (mem_sortIds.mp banded))

theorem numbered_placement (state : WindowState) (stacking : Int) :
    { state with stacking }.placement = state.placement := rfl

theorem numbered_visible (state : WindowState) (stacking : Int) :
    { state with stacking }.visible = state.visible := rfl

theorem numberStacking_placement {ids : List Nat} (index : Nat)
    (known : ∀ id ∈ ids, id ∈ raw.windows)
    (describes : Describes raw windows) :
    SamePlacement windows (numberStacking windows index ids) := by
  induction ids generalizing windows index with
  | nil => exact .refl windows
  | cons id rest ih =>
      obtain ⟨here, others⟩ := List.forall_mem_cons.mp known
      have placed : SamePlacement windows (windows.insert id
          { windows[id]?.getD {} with stacking := toInt32 index }) :=
        .insert (describes.lookup here) (numbered_placement _ _)
      exact placed.trans
        (ih (index + 1) others (describes.later placed))

theorem numberStacking_visible (ids : List Nat) (index id : Nat)
    (windows : KeyMap WindowState) :
    ((numberStacking windows index ids)[id]?.getD {}).visible =
      (windows[id]?.getD {}).visible := by
  induction ids generalizing windows index with
  | nil => rfl
  | cons head rest ih =>
      rw [numberStacking, ih, KeyMap.lookup_insert]
      split
      · rename_i same
        rw [same, Option.getD_some, numbered_visible]
      · rfl

/-! ## The evaluated windows -/

theorem multiOutput_known (id : Nat) :
    id ∈ applyMultiOutputGeometry raw ↔ id ∈ raw.windows := by
  have transients : ∀ id ∈ transientParentFirst raw,
      id ∈ (placeRoots raw).windows := by
    intro id member
    exact KeyMap.mem_of_lookup
      (placeRoots_transient (mem_transientParentFirst.mp member))
  rw [applyMultiOutputGeometry, placeTransient_eq,
    foldl_propagate_mem transients, placeRoots, foldl_placeRootWindow_mem]
  · exact Std.ExtTreeMap.mem_map
  · intro id member
    exact Std.ExtTreeMap.mem_map.mpr (mem_rootOrder.mp member).1

/-- Every window of an accepted state is placed, as a root or by its
parent. -/
theorem multiOutput_describes (valid : Valid raw) :
    Describes raw (applyMultiOutputGeometry raw) where
  known := multiOutput_known
  identity id state found := by
    have known := (multiOutput_known id).mp (KeyMap.mem_of_lookup found)
    rcases isTransient_or_isRoot known with isTransient | root
    · rw [geometry_transient valid isTransient] at found
      rw [← Option.some.inj found]
      rfl
    · obtain ⟨slot, placed⟩ := geometry_root root
      rw [placed] at found
      rw [← Option.some.inj found]
      rfl

section

variable (valid : Valid raw) (multiOutput : raw.outputs.isEmpty = false)

include valid multiOutput

theorem evaluateWindows_placement :
    SamePlacement (applyMultiOutputGeometry raw)
      (evaluateWindows raw).windows := by
  have describes := multiOutput_describes valid
  have focused := applyFocusAndVisibility_placement describes
  rw [evaluateWindows, applyGeometryProfile, multiOutput]
  refine focused.trans (numberStacking_placement 0 ?_
    (describes.later focused))
  exact fun id member => mem_stackingOrder member

theorem evaluateWindows_visible {id : Nat} (known : id ∈ raw.windows) :
    ((evaluateWindows raw).windows[id]?.getD {}).visible = true ↔
      Shown raw id := by
  rw [evaluateWindows, applyGeometryProfile, multiOutput,
    applyStackingAndTransientOrdering]
  simp only [Bool.false_eq_true, if_false, numberStacking_visible]
  exact applyFocusAndVisibility_visible valid (multiOutput_describes valid)
    known

/-- A window of the evaluated policy is where the geometry put it. -/
theorem evaluateWindows_found {id : Nat} {state : WindowState}
    (found : (evaluateWindows raw).windows[id]? = some state) :
    ∃ placed, (applyMultiOutputGeometry raw)[id]? = some placed ∧
      id ∈ raw.windows ∧
      state.outputId = placed.outputId ∧
      state.geometry = placed.geometry ∧
      state.managed = !(raw.window id).overrideRedirect ∧
      (state.visible = true ↔ Shown raw id) := by
  have same := evaluateWindows_placement valid multiOutput
  obtain ⟨placed, there, placement⟩ := same.symm.found found
  have known := (multiOutput_known id).mp (KeyMap.mem_of_lookup there)
  have visible := evaluateWindows_visible valid multiOutput known
  rw [found, Option.getD_some] at visible
  have describes := (multiOutput_describes valid).later same
  refine ⟨placed, there, known, ?_, ?_, describes.managed found, visible⟩
  · exact (congrArg WindowState.outputId placement).symm
  · exact (congrArg WindowState.geometry placement).symm

end

end Glasswyrm.Wm
