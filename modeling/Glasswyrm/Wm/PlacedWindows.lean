import Glasswyrm.Wm.OutputAssignment
import Glasswyrm.Wm.PolicyEngine

namespace Glasswyrm.Wm

open Lifecycle Output Library

/-! Where the windows of an accepted state end up in the multi-output profile,
and that the later stages of the evaluation leave them there. -/

variable {raw : RawState}

theorem mem_rootOrder {id : Nat} : id ∈ rootOrder raw ↔ raw.IsRoot id := by
  simp only [rootOrder, List.mem_insertionSort, List.mem_filter,
    Std.ExtTreeMap.mem_keys, Bool.or_eq_true, decide_eq_true_eq,
    RawState.IsRoot]

theorem rootOrder_nodup : (rootOrder raw).Nodup := by
  have distinct : (raw.windows.keys.filter fun id =>
      (raw.window id).overrideRedirect ||
        (raw.window id).transientFor = 0).Nodup :=
    (KeyMap.keys_nodup raw.windows).filter _
  exact (List.perm_insertionSort _ _).nodup_iff.mpr distinct

/-! ## Roots -/

def assignedRoot (raw : RawState) (id : Nat) : Nat :=
  assignRoot raw (raw.window id) (hintFor raw id)

/-- A root as it is placed from the given state. -/
def placedRoot (raw : RawState) (id slot : Nat) (state : WindowState) :
    WindowState :=
  applyGeometry { state with outputId := assignedRoot raw id }
    (rootGeometry raw (raw.window id) (assignedRoot raw id) slot)

theorem placeRootWindow_lookup (raw : RawState) (placed : RootPlacement)
    (id other : Nat) :
    ∃ slot, (placeRootWindow raw placed id).windows[other]? =
      if id = other then
        some (placedRoot raw id slot (placed.windows[id]?.getD {}))
      else placed.windows[other]? := by
  fun_cases placeRootWindow raw placed id with
  | case1 window state outputId slot =>
      exact ⟨slot, KeyMap.lookup_insert ..⟩
  | case2 => exact ⟨0, KeyMap.lookup_insert ..⟩

theorem foldl_placeRootWindow_absent {ids : List Nat}
    {placed : RootPlacement} {id : Nat} (absent : id ∉ ids) :
    (ids.foldl (placeRootWindow raw) placed).windows[id]? =
      placed.windows[id]? := by
  induction ids generalizing placed with
  | nil => rfl
  | cons head rest ih =>
      rw [List.mem_cons, not_or] at absent
      obtain ⟨slot, lookup⟩ := placeRootWindow_lookup raw placed head id
      rw [List.foldl_cons, ih absent.2, lookup, if_neg (Ne.symm absent.1)]

theorem foldl_placeRootWindow {ids : List Nat} (distinct : ids.Nodup)
    (placed : RootPlacement) {id : Nat} (member : id ∈ ids) :
    ∃ slot, (ids.foldl (placeRootWindow raw) placed).windows[id]? =
      some (placedRoot raw id slot (placed.windows[id]?.getD {})) := by
  induction ids generalizing placed with
  | nil => cases member
  | cons head rest ih =>
      obtain ⟨fresh, others⟩ := List.nodup_cons.mp distinct
      rw [List.foldl_cons]
      rcases List.mem_cons.mp member with rfl | later
      · obtain ⟨slot, lookup⟩ := placeRootWindow_lookup raw placed id id
        rw [foldl_placeRootWindow_absent fresh, lookup, if_pos rfl]
        exact ⟨slot, rfl⟩
      · have different : head ≠ id := fun same => fresh (same ▸ later)
        obtain ⟨_, lookup⟩ := placeRootWindow_lookup raw placed head id
        have step := ih others (placeRootWindow raw placed head) later
        rwa [lookup, if_neg different] at step

theorem foldl_placeRootWindow_mem {ids : List Nat} {placed : RootPlacement}
    (known : ∀ id ∈ ids, id ∈ placed.windows) (id : Nat) :
    id ∈ (ids.foldl (placeRootWindow raw) placed).windows ↔
      id ∈ placed.windows := by
  induction ids generalizing placed with
  | nil => exact Iff.rfl
  | cons head rest ih =>
      obtain ⟨present, others⟩ := List.forall_mem_cons.mp known
      have same : ∀ other : Nat,
          other ∈ (placeRootWindow raw placed head).windows ↔
            other ∈ placed.windows := by
        intro other
        obtain ⟨slot, lookup⟩ := placeRootWindow_lookup raw placed head other
        rw [KeyMap.mem_iff, lookup]
        split
        · rename_i here
          exact iff_of_true ⟨_, rfl⟩ (here ▸ present)
        · exact KeyMap.mem_iff.symm
      rw [List.foldl_cons, ih fun other member =>
        (same other).mpr (others other member), same]

theorem placeRoots_root {id : Nat} (root : raw.IsRoot id) :
    ∃ slot, (placeRoots raw).windows[id]? =
      some (placedRoot raw id slot
        (initialState raw id (raw.window id))) := by
  obtain ⟨slot, lookup⟩ := foldl_placeRootWindow rootOrder_nodup
    { windows := raw.windows.map (initialState raw) } (mem_rootOrder.mpr root)
  refine ⟨slot, lookup.trans ?_⟩
  simp [RawState.window_known root.1]

theorem placeRoots_transient {id : Nat} (isTransient : raw.IsTransient id) :
    (placeRoots raw).windows[id]? =
      some (initialState raw id (raw.window id)) := by
  have absent : id ∉ rootOrder raw := fun member =>
    (mem_rootOrder.mp member).not_isTransient isTransient
  rw [placeRoots, foldl_placeRootWindow_absent absent]
  simp [RawState.window_known isTransient.1]

/-! ## Transients -/

/-- A transient as it is placed from the given state, by its parent. -/
def placedTransient (raw : RawState) (id : Nat)
    (state parent : WindowState) : WindowState :=
  applyGeometry { state with outputId := parent.outputId }
    (transientGeometry raw (raw.window id) parent)

theorem placeTransient_eq :
    placeTransient raw =
      propagate (fun id => (raw.window id).transientFor)
        (placedTransient raw) {} := rfl

theorem geometry_root {id : Nat} (root : raw.IsRoot id) :
    ∃ slot, (applyMultiOutputGeometry raw)[id]? =
      some (placedRoot raw id slot
        (initialState raw id (raw.window id))) := by
  have absent : id ∉ transientParentFirst raw := fun member =>
    root.not_isTransient (mem_transientParentFirst.mp member)
  rw [applyMultiOutputGeometry, placeTransient_eq,
    foldl_propagate_absent absent]
  exact placeRoots_root root

theorem geometry_transient (valid : Valid raw) {id : Nat}
    (isTransient : raw.IsTransient id) :
    (applyMultiOutputGeometry raw)[id]? =
      some (placedTransient raw id (initialState raw id (raw.window id))
        ((applyMultiOutputGeometry raw)[
          (raw.window id).transientFor]?.getD {})) := by
  have placed := @foldl_propagate WindowState _ (placedTransient raw) {} _
    valid.parentsFirst (placeRoots raw).windows id
    (mem_transientParentFirst.mpr isTransient)
  rw [placeRoots_transient isTransient, Option.getD_some] at placed
  exact placed

end Glasswyrm.Wm
