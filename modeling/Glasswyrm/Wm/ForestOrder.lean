import Glasswyrm.Wm.StackingOrder

namespace Glasswyrm.Wm

open Lifecycle Output Library

/-! The numbers of the stacking order. -/

variable {raw : RawState} {windows : KeyMap WindowState}

def stackingOf (windows : KeyMap WindowState) (id : Nat) : Int :=
  (windows[id]?.getD {}).stacking

theorem numberStacking_absent {ids : List Nat} {id : Nat}
    (absent : id ∉ ids) (index : Nat) (windows : KeyMap WindowState) :
    stackingOf (numberStacking windows index ids) id =
      stackingOf windows id := by
  induction ids generalizing windows index with
  | nil => rfl
  | cons head rest ih =>
      obtain ⟨other, later⟩ := not_or.mp (mt List.mem_cons.mpr absent)
      rw [numberStacking, ih later, stackingOf, KeyMap.lookup_insert,
        if_neg (Ne.symm other), stackingOf]

theorem numberStacking_position {ids : List Nat} (distinct : ids.Nodup)
    (start : Nat) (windows : KeyMap WindowState) {position id : Nat}
    (here : ids[position]? = some id) :
    stackingOf (numberStacking windows start ids) id =
      toInt32 (start + position : Nat) := by
  induction ids generalizing windows start position with
  | nil => cases here
  | cons head rest ih =>
      obtain ⟨absent, distinct⟩ := List.nodup_cons.mp distinct
      rw [numberStacking]
      cases position with
      | zero =>
          obtain rfl := Option.some.inj here
          rw [numberStacking_absent absent, stackingOf, KeyMap.lookup_insert,
            if_pos rfl]
          rfl
      | succ position =>
          rw [ih distinct (start + 1) _ here]
          congr 2
          omega

/-- The windows that are left out of the stacking order, as they follow it. -/
def hiddenWindows (windows : KeyMap WindowState) : List Nat :=
  (windows.toList.filter fun (_, state) => !state.visible).map (·.1)

theorem mem_hiddenWindows {id : Nat} :
    id ∈ hiddenWindows windows ↔
      ∃ state, windows[id]? = some state ∧ state.visible = false := by
  simp only [hiddenWindows, List.mem_map, List.mem_filter, Prod.exists,
    KeyMap.mem_toList, Bool.not_eq_true']
  constructor
  · rintro ⟨other, state, found, rfl⟩
    exact ⟨state, found⟩
  · rintro ⟨state, found⟩
    exact ⟨id, state, found, rfl⟩

theorem hiddenWindows_nodup : (hiddenWindows windows).Nodup := by
  have keys : (windows.toList.map (·.1)).Nodup := by
    rw [Std.ExtTreeMap.map_fst_toList_eq_keys]
    exact KeyMap.keys_nodup windows
  exact keys.sublist (List.filter_sublist.map _)

/-! ## The order of an accepted state -/

/-- A stacking order as a forest has it. -/
structure ForestOrder (raw : RawState) (stacked : StackedWindows) : Prop where
  permutation : stacked.outputOrder.Perm raw.windows.keys
  numbered : ∃ visible hidden : List Nat,
    stacked.outputOrder = visible ++ hidden ∧
    (∀ position id : Nat, visible[position]? = some id →
      (stacked.windows[id]?.getD {}).visible = true ∧
        stackingOf stacked.windows id = position) ∧
    ∀ id ∈ hidden, (stacked.windows[id]?.getD {}).visible = false ∧
      stackingOf stacked.windows id = -1
  transients : ∀ id ∈ raw.windows, (raw.window id).transientFor ≠ 0 →
    (stacked.windows[id]?.getD {}).visible = true →
      stackingOf stacked.windows (raw.window id).transientFor <
        stackingOf stacked.windows id
  overrides : ∀ managed ∈ raw.windows, ∀ override ∈ raw.windows,
    (raw.window managed).overrideRedirect = false →
      (raw.window override).overrideRedirect = true →
        (stacked.windows[override]?.getD {}).visible = true →
          stackingOf stacked.windows managed <
            stackingOf stacked.windows override
  fullscreen : ∀ root ∈ managedRoots raw, ∀ full ∈ managedRoots raw,
    (stacked.windows[root]?.getD {}).appliedState ≠ .fullscreen →
      (stacked.windows[full]?.getD {}).appliedState = .fullscreen →
        (stacked.windows[full]?.getD {}).visible = true →
          stackingOf stacked.windows root < stackingOf stacked.windows full

section

variable (valid : Valid raw)

include valid

def unstackedWindows (raw : RawState) : KeyMap WindowState :=
  applyFocusAndVisibility raw (applyGeometryProfile raw)

theorem unstacked_describes : Describes raw (unstackedWindows raw) :=
  (geometryProfile_describes valid).later
    (applyFocusAndVisibility_placement (geometryProfile_describes valid))

theorem unstacked_visibly : Visibly raw (unstackedWindows raw) where
  shown _ known := applyFocusAndVisibility_visible valid
    (geometryProfile_describes valid) known
  hidden id absent := by
    have missing : (unstackedWindows raw)[id]? = none := by
      cases found : (unstackedWindows raw)[id]? with
      | none => rfl
      | some state =>
          exact absurd (((unstacked_describes valid).known id).mp
            (KeyMap.mem_of_lookup found)) absent
    rw [missing]
    rfl

theorem unstacked_order_nodup :
    (stackingOrder raw (unstackedWindows raw)).Nodup :=
  stackingOrder_nodup valid (unstacked_visibly valid)

/-- A stacked window has the number of its position. -/
theorem evaluated_stacking {position id : Nat}
    (here : (stackingOrder raw (unstackedWindows raw))[position]? =
      some id) :
    stackingOf (evaluateWindows raw).windows id = position := by
  have distinct := unstacked_order_nodup valid
  have few : (stackingOrder raw (unstackedWindows raw)).length ≤
      raw.windows.size :=
    KeyMap.length_le_size raw.windows distinct fun _ member =>
      mem_stackingOrder member
  have size := valid.size
  have within := (List.getElem?_eq_some_iff.mp here).1
  unfold maximumWindows at size
  have number := numberStacking_position distinct 0 (unstackedWindows raw) here
  rw [Nat.zero_add, toInt32_of_fits (by omega) (by omega)] at number
  exact number

omit valid in
theorem evaluated_hidden {id : Nat}
    (absent : id ∉ stackingOrder raw (unstackedWindows raw)) :
    stackingOf (evaluateWindows raw).windows id = -1 :=
  (numberStacking_absent absent 0 (unstackedWindows raw)).trans
    (applyFocusAndVisibility_unstacked (geometryProfile_unstacked raw) id)

omit valid in
theorem evaluated_visible (id : Nat) :
    ((evaluateWindows raw).windows[id]?.getD {}).visible =
      ((unstackedWindows raw)[id]?.getD {}).visible :=
  numberStacking_visible _ _ _ _

theorem evaluated_appliedState {id : Nat} (known : id ∈ raw.windows) :
    ((evaluateWindows raw).windows[id]?.getD {}).appliedState =
      ((unstackedWindows raw)[id]?.getD {}).appliedState := by
  rw [(evaluated_describes valid).appliedState
      ((evaluated_describes valid).lookup known),
    (unstacked_describes valid).appliedState
      ((unstacked_describes valid).lookup known)]

/-- What comes later in the order is stacked higher. -/
theorem evaluated_later {lower upper : Nat}
    (ordered : [lower, upper].Sublist
      (stackingOrder raw (unstackedWindows raw))) :
    stackingOf (evaluateWindows raw).windows lower <
      stackingOf (evaluateWindows raw).windows upper := by
  have numbers : (stackingOrder raw (unstackedWindows raw)).Pairwise
      fun lower upper => stackingOf (evaluateWindows raw).windows lower <
        stackingOf (evaluateWindows raw).windows upper := by
    rw [List.pairwise_iff_getElem]
    intro first second firstWithin secondWithin before
    rw [evaluated_stacking valid (List.getElem?_eq_getElem firstWithin),
      evaluated_stacking valid (List.getElem?_eq_getElem secondWithin)]
    exact_mod_cast before
  exact List.rel_of_pairwise_cons (numbers.sublist ordered)
    (List.mem_singleton_self upper)

/-- A visible window is stacked above every hidden one. -/
theorem evaluated_above_hidden {hidden visible : Nat}
    (absent : hidden ∉ stackingOrder raw (unstackedWindows raw))
    (present : visible ∈ stackingOrder raw (unstackedWindows raw)) :
    stackingOf (evaluateWindows raw).windows hidden <
      stackingOf (evaluateWindows raw).windows visible := by
  obtain ⟨position, here⟩ := List.mem_iff_getElem?.mp present
  rw [evaluated_hidden absent, evaluated_stacking valid here]
  omega

theorem evaluated_mem_order {id : Nat} :
    id ∈ stackingOrder raw (unstackedWindows raw) ↔
      id ∈ raw.windows ∧
        ((evaluateWindows raw).windows[id]?.getD {}).visible = true := by
  rw [mem_stackingOrder_iff valid (unstacked_visibly valid),
    evaluated_visible]

omit valid in
theorem evaluated_outputOrder :
    (evaluateWindows raw).outputOrder =
      stackingOrder raw (unstackedWindows raw) ++
        hiddenWindows (evaluateWindows raw).windows := rfl

theorem evaluated_mem_hidden {id : Nat} :
    id ∈ hiddenWindows (evaluateWindows raw).windows ↔
      id ∈ raw.windows ∧
        ((evaluateWindows raw).windows[id]?.getD {}).visible = false := by
  rw [mem_hiddenWindows]
  constructor
  · rintro ⟨state, found, hidden⟩
    refine ⟨((evaluated_describes valid).known id).mp
      (KeyMap.mem_of_lookup found), ?_⟩
    rw [found]
    exact hidden
  · rintro ⟨known, hidden⟩
    exact ⟨_, (evaluated_describes valid).lookup known, hidden⟩

theorem outputOrder_perm :
    (evaluateWindows raw).outputOrder.Perm raw.windows.keys := by
  rw [evaluated_outputOrder]
  have distinct : (stackingOrder raw (unstackedWindows raw) ++
      hiddenWindows (evaluateWindows raw).windows).Nodup := by
    rw [List.nodup_append']
    refine ⟨unstacked_order_nodup valid, hiddenWindows_nodup, ?_⟩
    intro id stacked hidden
    have visible := ((evaluated_mem_order valid).mp stacked).2
    have invisible := ((evaluated_mem_hidden valid).mp hidden).2
    cases visible.symm.trans invisible
  rw [List.perm_ext_iff_of_nodup distinct (KeyMap.keys_nodup _)]
  intro id
  rw [List.mem_append, evaluated_mem_order valid, evaluated_mem_hidden valid,
    Std.ExtTreeMap.mem_keys]
  cases ((evaluateWindows raw).windows[id]?.getD {}).visible <;> simp

theorem evaluated_transients {id : Nat} (known : id ∈ raw.windows)
    (nonzero : (raw.window id).transientFor ≠ 0)
    (visible : ((evaluateWindows raw).windows[id]?.getD {}).visible = true) :
    stackingOf (evaluateWindows raw).windows (raw.window id).transientFor <
      stackingOf (evaluateWindows raw).windows id := by
  have stacked := (evaluated_mem_order valid).mpr ⟨known, visible⟩
  have visibly := unstacked_visibly valid
  rw [evaluated_visible] at visible
  by_cases parentStacked : (raw.window id).transientFor ∈
      stackingOrder raw (unstackedWindows raw)
  · apply evaluated_later valid
    cases override : (raw.window id).overrideRedirect with
    | false =>
        exact transient_after_parent valid visibly ⟨known, override, nonzero⟩
          visible
    | true =>
        obtain ⟨present, managed⟩ := valid.namedParent known nonzero
        apply override_after_managed
        · exact (mem_shownTrees valid visibly).mpr ⟨present, managed,
            ((mem_stackingOrder_iff valid visibly).mp parentStacked).2⟩
        · exact mem_shownOverrides.mpr
            ⟨mem_overrides.mpr ⟨known, override⟩, visible⟩
  · exact evaluated_above_hidden valid parentStacked stacked

theorem evaluated_overrides {managed override : Nat}
    (known : managed ∈ raw.windows) (knownOverride : override ∈ raw.windows)
    (isManaged : (raw.window managed).overrideRedirect = false)
    (isOverride : (raw.window override).overrideRedirect = true)
    (visible : ((evaluateWindows raw).windows[override]?.getD {}).visible =
      true) :
    stackingOf (evaluateWindows raw).windows managed <
      stackingOf (evaluateWindows raw).windows override := by
  have stacked := (evaluated_mem_order valid).mpr ⟨knownOverride, visible⟩
  have visibly := unstacked_visibly valid
  rw [evaluated_visible] at visible
  by_cases below : managed ∈ stackingOrder raw (unstackedWindows raw)
  · apply evaluated_later valid
    apply override_after_managed
    · exact (mem_shownTrees valid visibly).mpr ⟨known, isManaged,
        ((mem_stackingOrder_iff valid visibly).mp below).2⟩
    · exact mem_shownOverrides.mpr
        ⟨mem_overrides.mpr ⟨knownOverride, isOverride⟩, visible⟩
  · exact evaluated_above_hidden valid below stacked

theorem evaluated_fullscreen {root full : Nat}
    (isRoot : root ∈ managedRoots raw) (isFull : full ∈ managedRoots raw)
    (plain : ((evaluateWindows raw).windows[root]?.getD {}).appliedState ≠
      .fullscreen)
    (fullscreen : ((evaluateWindows raw).windows[full]?.getD
      {}).appliedState = .fullscreen)
    (visible : ((evaluateWindows raw).windows[full]?.getD {}).visible =
      true) :
    stackingOf (evaluateWindows raw).windows root <
      stackingOf (evaluateWindows raw).windows full := by
  have knownRoot := (mem_managedRoots.mp isRoot).1
  have knownFull := (mem_managedRoots.mp isFull).1
  have stacked := (evaluated_mem_order valid).mpr ⟨knownFull, visible⟩
  have visibly := unstacked_visibly valid
  rw [evaluated_visible] at visible
  rw [evaluated_appliedState valid knownRoot] at plain
  rw [evaluated_appliedState valid knownFull] at fullscreen
  by_cases below : root ∈ stackingOrder raw (unstackedWindows raw)
  · apply evaluated_later valid
    have rootVisible := ((mem_stackingOrder_iff valid visibly).mp below).2
    exact fullscreen_after_root (mem_shownRoots.mpr ⟨isRoot, rootVisible⟩)
      (mem_shownRoots.mpr ⟨isFull, visible⟩) plain fullscreen
  · exact evaluated_above_hidden valid below stacked

theorem evaluated_forestOrder : ForestOrder raw (evaluateWindows raw) where
  permutation := outputOrder_perm valid
  numbered := by
    refine ⟨_, _, evaluated_outputOrder, ?_, ?_⟩
    · intro position id here
      exact ⟨((evaluated_mem_order valid).mp
        (List.mem_of_getElem? here)).2, evaluated_stacking valid here⟩
    · intro id hidden
      have invisible := ((evaluated_mem_hidden valid).mp hidden).2
      refine ⟨invisible, evaluated_hidden fun stacked => ?_⟩
      have visible := ((evaluated_mem_order valid).mp stacked).2
      cases visible.symm.trans invisible
  transients _ := evaluated_transients valid
  overrides _ known _ knownOverride :=
    evaluated_overrides valid known knownOverride
  fullscreen _ isRoot _ isFull := evaluated_fullscreen valid isRoot isFull

end

/-- The stacking order of an accepted state is a forest order, and no restack
request of it refers to a window that is not in its band. -/
theorem stacking_wellformed (raw : RawState)
    (accepted : validate raw = .none) :
    ForestOrder raw (evaluateWindows raw) ∧
      RestackRefersKnown raw (sortIds raw (managedRoots raw)) ∧
        RestackRefersKnown raw (sortIds raw (overrides raw)) := by
  have valid := validate_none_iff.mp accepted
  exact ⟨evaluated_forestOrder valid, restack_managedRoots valid,
    restack_overrides valid⟩

/-- A single output with a root that asks to be put below another, a transient
of it, and an override-redirect window. -/
def restackedState : RawState where
  complete := true
  producerGeneration := 1
  context :=
    { rootWindowId := 1
      workspaceId := 1
      outputId := 10
      workWidth := 200
      workHeight := 100 }
  hasContext := true
  windows :=
    let window : RawWindow :=
      { parentWindowId := 1
        requestedWidth := 50
        requestedHeight := 50
        wantsMap := true
        mapSerial := 1 }
    let lower : RawWindow := { window with windowId := 5, creationSerial := 1 }
    let restacked : RawWindow :=
      { window with
        windowId := 6
        creationSerial := 2
        stackSerial := 3
        stackSibling := 5
        stackMode := .below }
    let dialog : RawWindow :=
      { window with windowId := 7, creationSerial := 3, transientFor := 6 }
    let menu : RawWindow :=
      { window with
        windowId := 8
        creationSerial := 4
        overrideRedirect := true }
    ((((∅ : KeyMap RawWindow).insert 5 lower).insert 6 restacked).insert 7
      dialog).insert 8 menu

theorem stacking_wellformed_restacked :
    validate restackedState = .none ∧
      (evaluateWindows restackedState).outputOrder = [6, 7, 5, 8] ∧
        ForestOrder restackedState (evaluateWindows restackedState) :=
  ⟨by decide, by decide, (stacking_wellformed restackedState (by decide)).1⟩

end Glasswyrm.Wm
