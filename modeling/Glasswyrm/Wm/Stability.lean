import Glasswyrm.Wm.Stacked

namespace Glasswyrm.Wm

open Lifecycle Output Library

/-! A snapshot that is submitted again, with the outputs that its evaluation
assigned as hints, is evaluated as before. -/

/-- The state with each window's assigned output as its previous one. -/
def RawState.rehinted (raw : RawState) (windows : KeyMap WindowState) :
    RawState :=
  { raw with
    outputHints := raw.windows.map fun id _ =>
      { windowId := id
        previousOutputId := (windows[id]?.getD {}).outputId
        preferredOutputId := (hintFor raw id).preferredOutputId } }

variable {raw : RawState} {windows : KeyMap WindowState}

/-! Only the assignment of the roots looks at the hints. -/

@[simp] theorem rehinted_windows :
    (raw.rehinted windows).windows = raw.windows := rfl

@[simp] theorem rehinted_window (id : Nat) :
    (raw.rehinted windows).window id = raw.window id := rfl

@[simp] theorem rehinted_outputs :
    (raw.rehinted windows).outputs = raw.outputs := rfl

theorem rehinted_depth (fuel id : Nat) :
    transientDepth (raw.rehinted windows) fuel id =
      transientDepth raw fuel id := by
  induction fuel generalizing id with
  | zero => rfl
  | succ fuel ih => rw [transientDepth, transientDepth, rehinted_window, ih]

theorem rehinted_parentFirst :
    transientParentFirst (raw.rehinted windows) = transientParentFirst raw := by
  simp only [transientParentFirst, parentFirstKey, rehinted_depth,
    rehinted_window]
  rfl

theorem rehinted_tree (states : KeyMap WindowState) (fuel id : Nat) :
    emitTransientTree (raw.rehinted windows) states fuel id =
      emitTransientTree raw states fuel id := by
  induction fuel generalizing id with
  | zero => rfl
  | succ fuel ih =>
      rw [emitTransientTree, emitTransientTree, funext ih]
      rfl

theorem rehinted_stackingOrder (states : KeyMap WindowState) :
    stackingOrder (raw.rehinted windows) states = stackingOrder raw states := by
  simp only [stackingOrder, funext (rehinted_tree states _)]
  rfl

theorem rehinted_visibility (states : KeyMap WindowState) :
    applyVisibility (raw.rehinted windows) states =
      applyVisibility raw states := by
  simp only [applyVisibility, rehinted_parentFirst, rehinted_window]

theorem rehinted_focus (states : KeyMap WindowState) :
    applyFocus (raw.rehinted windows) states = applyFocus raw states := rfl

theorem rehinted_stacking (states : KeyMap WindowState) :
    applyStackingAndTransientOrdering (raw.rehinted windows) states =
      applyStackingAndTransientOrdering raw states := by
  simp only [applyStackingAndTransientOrdering, rehinted_stackingOrder]

/-! ## Assignment -/

theorem rehinted_hint {id : Nat} (known : id ∈ raw.windows) :
    hintFor (raw.rehinted windows) id =
      { windowId := id
        previousOutputId := (windows[id]?.getD {}).outputId
        preferredOutputId := (hintFor raw id).preferredOutputId } := by
  obtain ⟨window, found⟩ := KeyMap.mem_iff.mp known
  simp [hintFor, RawState.rehinted, found]

/-- Hints that repeat the assignment of the roots do not change it. -/
theorem rehinted_placeRoots (assignable : Assignable raw.outputs)
    (assigned : ∀ id, raw.IsRoot id →
      (windows[id]?.getD {}).outputId = assignedRoot raw id) :
    placeRoots (raw.rehinted windows) = placeRoots raw := by
  refine List.foldl_ext _ _ _ fun placed id member => ?_
  have root := mem_rootOrder.mp member
  have known : id ∈ raw.windows := root.1
  have same : assignRoot raw (raw.window id)
      (hintFor (raw.rehinted windows) id) = assignedRoot raw id := by
    rw [rehinted_hint known]
    exact assignRoot_again assignable _ (assigned id root) rfl
  have again : assignRoot (raw.rehinted windows)
      ((raw.rehinted windows).window id)
      (hintFor (raw.rehinted windows) id) =
        assignRoot raw (raw.window id) (hintFor raw id) := same
  simp only [placeRootWindow, again]
  rfl

theorem rehinted_geometry (assignable : Assignable raw.outputs)
    (assigned : ∀ id, raw.IsRoot id →
      (windows[id]?.getD {}).outputId = assignedRoot raw id) :
    applyMultiOutputGeometry (raw.rehinted windows) =
      applyMultiOutputGeometry raw := by
  rw [applyMultiOutputGeometry, rehinted_parentFirst,
    rehinted_placeRoots assignable assigned]
  rfl

theorem rehinted_valid (valid : Valid raw)
    (multiOutput : raw.outputs.isEmpty = false) :
    Valid (raw.rehinted windows) where
  complete := valid.complete
  hasContext := valid.hasContext
  context := valid.context
  profile := by
    have hints : validateHints (raw.rehinted windows) = .none := by
      have small : ¬(raw.rehinted windows).outputHints.size >
          raw.windows.size := by
        rw [RawState.rehinted, Std.ExtTreeMap.size_map]
        exact Nat.lt_irrefl _
      rw [validateHints, rehinted_windows, if_neg small, if_neg]
      rw [List.any_eq_true]
      rintro ⟨⟨id, hint⟩, member, refused⟩
      have found := KeyMap.mem_toList.mp member
      simp only [RawState.rehinted, Std.ExtTreeMap.getElem?_map] at found
      obtain ⟨window, there, rfl⟩ := Option.map_eq_some_iff.mp found
      have known : raw.windows.contains id = true :=
        Std.ExtTreeMap.mem_iff_contains.mp (KeyMap.mem_of_lookup there)
      have nonzero := valid.id_ne_zero (KeyMap.mem_of_lookup there)
      simp only [nonzero, known, decide_false, ne_eq, not_true_eq_false,
        Bool.not_true, Bool.or_false, Bool.false_eq_true] at refused
    rw [validateProfile, rehinted_outputs, multiOutput]
    exact EvaluationError.andThen_none_iff.mpr
      ⟨valid.outputs multiOutput, hints⟩
  size := valid.size
  windows := fun id window found =>
    have admissible := valid.windows id window found
    ⟨admissible.key, admissible.record, admissible.workspace,
      admissible.references⟩
  serials := valid.serials
  acyclic := valid.acyclic

/-- The output that the evaluation assigns to a root. -/
theorem evaluateWindows_root (valid : Valid raw)
    (multiOutput : raw.outputs.isEmpty = false) {id : Nat}
    (root : raw.IsRoot id) :
    ((evaluateWindows raw).windows[id]?.getD {}).outputId =
      assignedRoot raw id := by
  obtain ⟨slot, placed⟩ := geometry_root root
  have same := evaluateWindows_placement valid multiOutput
  obtain ⟨state, found, placement⟩ := same.found placed
  rw [found, Option.getD_some]
  exact congrArg WindowState.outputId placement

theorem evaluate_of_valid (valid : Valid raw) {generation : Nat}
    (numbered : generation ≠ 0) :
    (evaluate raw generation).error = .none ∧
      (evaluate raw generation).policy.windows =
        (evaluateWindows raw).windows ∧
      (evaluate raw generation).policy.outputOrder =
        (evaluateWindows raw).outputOrder := by
  rw [evaluate, if_neg (not_not.mpr (validate_none_iff.mpr valid)),
    if_neg numbered]
  exact ⟨rfl, rfl, rfl⟩

/-- A state with the outputs of its own evaluation as hints has the same
evaluation. -/
theorem evaluation_stable (raw : RawState) (first second : Nat)
    (accepted : validate raw = .none)
    (multiOutput : raw.outputs.isEmpty = false) (numbered : first ≠ 0)
    (renumbered : second ≠ 0) :
    let evaluated := (evaluate raw first).policy
    let again := evaluate (raw.rehinted evaluated.windows) second
    again.error = .none ∧ again.policy.windows = evaluated.windows ∧
      again.policy.outputOrder = evaluated.outputOrder := by
  intro evaluated again
  have valid := validate_none_iff.mp accepted
  obtain ⟨_, windows, order⟩ := evaluate_of_valid valid numbered
  have assigned : ∀ id, raw.IsRoot id →
      (evaluated.windows[id]?.getD {}).outputId = assignedRoot raw id := by
    intro id root
    rw [windows]
    exact evaluateWindows_root valid multiOutput root
  have geometry := rehinted_geometry (valid.assignable multiOutput) assigned
  have same : evaluateWindows (raw.rehinted evaluated.windows) =
      evaluateWindows raw := by
    rw [evaluateWindows, applyGeometryProfile, rehinted_outputs, multiOutput,
      if_neg Bool.false_ne_true, applyFocusAndVisibility, rehinted_focus,
      rehinted_visibility, geometry, rehinted_stacking, evaluateWindows,
      applyGeometryProfile, multiOutput, if_neg Bool.false_ne_true,
      applyFocusAndVisibility]
  obtain ⟨accepting, sameWindows, sameOrder⟩ := evaluate_of_valid
    (@rehinted_valid raw evaluated.windows valid multiOutput) renumbered
  rw [same] at sameWindows sameOrder
  exact ⟨accepting, sameWindows.trans windows.symm,
    sameOrder.trans order.symm⟩

/-- A pair of outputs side by side with a window across their border. -/
def spanningState : RawState where
  complete := true
  producerGeneration := 1
  context :=
    { rootWindowId := 1
      workspaceId := 1
      outputId := 10
      workWidth := 200
      workHeight := 100 }
  hasContext := true
  outputs := ((∅ : KeyMap OutputContext).insert 10
      { outputId := 10
        logical := { width := 100, height := 100 }
        work := { width := 100, height := 100 }
        enabled := true
        primary := true }).insert 20
      { outputId := 20
        logical := { x := 100, width := 100, height := 100 }
        work := { x := 100, width := 100, height := 100 }
        enabled := true }
  outputHints := (∅ : KeyMap WindowOutputHint).insert 5
    { windowId := 5, previousOutputId := 20 }
  windows := (∅ : KeyMap RawWindow).insert 5
    { windowId := 5
      parentWindowId := 1
      requestedX := 50
      requestedWidth := 100
      requestedHeight := 50
      wantsMap := true
      creationSerial := 1
      mapSerial := 1
      geometrySerial := 1 }

theorem evaluation_stable_spanning :
    (evaluate spanningState 1).policy.windows[5]?.map (·.outputId) =
        some 20 ∧
      (evaluate (spanningState.rehinted
        (evaluate spanningState 1).policy.windows) 2).policy.windows =
          (evaluate spanningState 1).policy.windows :=
  ⟨by decide, (evaluation_stable spanningState 1 2 (by decide) (by decide)
    (by decide) (by decide)).2.1⟩

end Glasswyrm.Wm
