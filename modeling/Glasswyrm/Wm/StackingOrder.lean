import Glasswyrm.Library.Forest
import Glasswyrm.Wm.WorkArea

namespace Glasswyrm.Wm

open Lifecycle Output Library

/-! The stacking order of an accepted state: every visible window once, the
transients over their parents, the overrides over all. -/

variable {raw : RawState} {windows : KeyMap WindowState}

/-! ## Windows before they are stacked -/

def Unstacked (windows : KeyMap WindowState) : Prop :=
  ∀ id : Nat, (windows[id]?.getD {}).stacking = -1

theorem Unstacked.insert (unstacked : Unstacked windows) {id : Nat}
    {state : WindowState} (none_yet : state.stacking = -1) :
    Unstacked (windows.insert id state) := by
  intro other
  rw [KeyMap.lookup_insert]
  split
  · exact none_yet
  · exact unstacked other

theorem Unstacked.map (unstacked : Unstacked windows)
    {f : Nat → WindowState → WindowState}
    (kept : ∀ id state, (f id state).stacking = state.stacking) :
    Unstacked (windows.map f) := by
  intro id
  have here := unstacked id
  rw [Std.ExtTreeMap.getElem?_map]
  cases found : windows[id]? with
  | none => rfl
  | some state =>
      rw [found] at here
      exact (kept id state).trans here

theorem Unstacked.foldl {step : KeyMap WindowState → Nat → KeyMap WindowState}
    (kept : ∀ windows id, Unstacked windows → Unstacked (step windows id))
    (ids : List Nat) (unstacked : Unstacked windows) :
    Unstacked (ids.foldl step windows) := by
  induction ids generalizing windows with
  | nil => exact unstacked
  | cons id rest ih => exact ih (kept windows id unstacked)

theorem placedState_unstacked (raw : RawState) (id : Nat)
    (window : RawWindow) : (placedState raw id window).stacking = -1 := by
  unfold placedState
  fun_cases placeRoot raw window _ <;> rfl

theorem initial_unstacked {f : Nat → RawWindow → WindowState}
    (fresh : ∀ id window, (f id window).stacking = -1) :
    Unstacked (raw.windows.map f) := by
  intro id
  rw [Std.ExtTreeMap.getElem?_map]
  cases raw.windows[id]? with
  | none => rfl
  | some window => exact fresh id window

theorem placeRoots_unstacked (raw : RawState) :
    Unstacked (placeRoots raw).windows := by
  have kept : ∀ (ids : List Nat) (placed : RootPlacement),
      Unstacked placed.windows →
        Unstacked (ids.foldl (placeRootWindow raw) placed).windows := by
    intro ids
    induction ids with
    | nil => exact fun _ unstacked => unstacked
    | cons id rest ih =>
        intro placed unstacked
        refine ih _ ?_
        fun_cases placeRootWindow raw placed id <;>
          exact unstacked.insert (unstacked id)
  exact kept _ _ (initial_unstacked fun _ _ => rfl)

theorem geometryProfile_unstacked (raw : RawState) :
    Unstacked (applyGeometryProfile raw) := by
  rw [applyGeometryProfile]
  split
  · refine Unstacked.map (Unstacked.foldl ?_ _
      (initial_unstacked (placedState_unstacked raw))) fun _ _ => rfl
    exact fun windows id unstacked => unstacked.insert (unstacked id)
  · refine Unstacked.foldl ?_ _ (placeRoots_unstacked raw)
    exact fun windows id unstacked => unstacked.insert (unstacked id)

theorem applyFocusAndVisibility_unstacked (unstacked : Unstacked windows) :
    Unstacked (applyFocusAndVisibility raw windows) := by
  refine Unstacked.map ?_ fun _ _ => rfl
  have visibility : Unstacked (applyVisibility raw windows) := by
    rw [applyVisibility]
    apply Unstacked.map
    · apply Unstacked.foldl
      · exact fun windows id unstacked => unstacked.insert (unstacked id)
      · apply unstacked.map
        exact fun _ _ => rfl
    · exact fun _ _ => rfl
  unfold applyFocus
  split
  · exact visibility
  · exact visibility.insert (visibility _)

/-! ## Restacking -/

theorem insertBeside_perm (sibling id : Nat) (above : Bool)
    (band : List Nat) :
    (insertBeside sibling id above band).Perm (id :: band) := by
  induction band with
  | nil => exact List.Perm.refl _
  | cons head rest ih =>
      rw [insertBeside]
      split
      · split
        · exact List.Perm.swap id head rest
        · exact List.Perm.refl _
      · exact (ih.cons head).trans (List.Perm.swap id head rest)

theorem restack_perm (raw : RawState) (band : List Nat) (id : Nat) :
    (restack raw band id).Perm band := by
  fun_cases restack raw band id with
  | case1 => exact List.Perm.refl band
  | case2 operation above member others _ up =>
      have present : id ∈ band := Decidable.not_not.mp member
      exact (List.perm_append_singleton id others).trans
        (List.perm_cons_erase present).symm
  | case3 operation above member others _ down =>
      exact (List.perm_cons_erase (Decidable.not_not.mp member)).symm
  | case4 operation above member others _ =>
      exact (insertBeside_perm _ _ _ _).trans
        (List.perm_cons_erase (Decidable.not_not.mp member)).symm

theorem foldl_restack_perm (raw : RawState) (ids band : List Nat) :
    (ids.foldl (restack raw) band).Perm band := by
  induction ids generalizing band with
  | nil => exact List.Perm.refl band
  | cons id rest ih => exact (ih _).trans (restack_perm raw band id)

theorem mem_restackOperations {band : List Nat} {id : Nat} :
    id ∈ restackOperations raw band ↔
      id ∈ band ∧ (raw.window id).stackSerial ≠ 0 := by
  rw [restackOperations, List.mem_insertionSort, List.mem_filter,
    decide_eq_true_eq]

/-- Whenever a request is replayed, its window is in the band, and so is the
sibling that it names once the window is taken out. -/
def RestackRefersKnown (raw : RawState) (band : List Nat) : Prop :=
  ∀ before id after, restackOperations raw band = before ++ id :: after →
    id ∈ before.foldl (restack raw) band ∧
      ((raw.window id).stackSibling ≠ 0 →
        (raw.window id).stackSibling ∈
          (before.foldl (restack raw) band).erase id)

/-- What validation grants the sibling of a restack request. -/
theorem Valid.stackSibling (valid : Valid raw) {id : Nat}
    (known : id ∈ raw.windows) (requested : (raw.window id).stackSerial ≠ 0)
    (named : (raw.window id).stackSibling ≠ 0) :
    (raw.window id).stackSibling ≠ id ∧
      (raw.window id).stackSibling ∈ raw.windows ∧
      (raw.window (raw.window id).stackSibling).transientFor = 0 ∧
      (raw.window (raw.window id).stackSibling).overrideRedirect =
        (raw.window id).overrideRedirect := by
  have admissible := valid.windows id _ (RawState.window_known known)
  have record := admissible.record
  have references := admissible.references
  have itself := valid.windowId known
  simp only [refusesWindow, Bool.or_eq_false_iff,
    decide_eq_false_iff_not] at record
  unfold validateReferences at references
  split at references
  · cases references
  · split at references
    · cases references
    · unfold validateStacking at references
      rw [if_neg requested] at references
      split at references
      · cases references
      · cases found : raw.windows[(raw.window id).stackSibling]? with
        | none =>
            rw [found] at references
            cases references
        | some sibling =>
            rw [found] at references
            simp only [Bool.or_eq_true, decide_eq_true_eq,
              ite_eq_right_iff, reduceCtorEq, imp_false, not_or,
              Decidable.not_not] at references
            have shown : raw.window (raw.window id).stackSibling = sibling :=
              RawState.window_eq found
            rw [shown]
            exact ⟨by omega, KeyMap.mem_of_lookup found, references⟩

theorem restackRefersKnown_of_closed {band : List Nat}
    (closed : ∀ id ∈ band, (raw.window id).stackSerial ≠ 0 →
      (raw.window id).stackSibling ≠ 0 →
        (raw.window id).stackSibling ≠ id ∧
          (raw.window id).stackSibling ∈ band) :
    RestackRefersKnown raw band := by
  intro before id after split
  have operation : id ∈ restackOperations raw band := by
    rw [split]
    exact List.mem_append_right _ List.mem_cons_self
  obtain ⟨member, requested⟩ := mem_restackOperations.mp operation
  have same := foldl_restack_perm raw before band
  refine ⟨same.mem_iff.mpr member, fun named => ?_⟩
  obtain ⟨other, inside⟩ := closed id member requested named
  exact (List.mem_erase_of_ne other).mpr (same.mem_iff.mpr inside)

/-! ## The two bands -/

def managedRoots (raw : RawState) : List Nat :=
  raw.windows.keys.filter fun id =>
    !(raw.window id).overrideRedirect && (raw.window id).transientFor = 0

def overrides (raw : RawState) : List Nat :=
  raw.windows.keys.filter fun id => (raw.window id).overrideRedirect

theorem mem_managedRoots {id : Nat} :
    id ∈ managedRoots raw ↔ id ∈ raw.windows ∧
      (raw.window id).overrideRedirect = false ∧
        (raw.window id).transientFor = 0 := by
  simp only [managedRoots, List.mem_filter, Std.ExtTreeMap.mem_keys,
    Bool.and_eq_true, Bool.not_eq_true', decide_eq_true_eq]

theorem mem_overrides {id : Nat} :
    id ∈ overrides raw ↔ id ∈ raw.windows ∧
      (raw.window id).overrideRedirect = true := by
  simp only [overrides, List.mem_filter, Std.ExtTreeMap.mem_keys]

theorem sortIds_perm (raw : RawState) (ids : List Nat) :
    (sortIds raw ids).Perm ids :=
  List.perm_insertionSort _ _

theorem applyRestack_perm (raw : RawState) (ids : List Nat) :
    (applyRestack raw (sortIds raw ids)).Perm ids :=
  (foldl_restack_perm raw _ _).trans (sortIds_perm raw ids)

theorem restack_managedRoots (valid : Valid raw) :
    RestackRefersKnown raw (sortIds raw (managedRoots raw)) := by
  apply restackRefersKnown_of_closed
  intro id member requested named
  obtain ⟨known, managed, _⟩ := mem_managedRoots.mp (mem_sortIds.mp member)
  obtain ⟨other, present, top, same⟩ := valid.stackSibling known requested
    named
  exact ⟨other, mem_sortIds.mpr
    (mem_managedRoots.mpr ⟨present, same.trans managed, top⟩)⟩

theorem restack_overrides (valid : Valid raw) :
    RestackRefersKnown raw (sortIds raw (overrides raw)) := by
  apply restackRefersKnown_of_closed
  intro id member requested named
  obtain ⟨known, override⟩ := mem_overrides.mp (mem_sortIds.mp member)
  obtain ⟨other, present, _, same⟩ := valid.stackSibling known requested named
  exact ⟨other, mem_sortIds.mpr
    (mem_overrides.mpr ⟨present, same.trans override⟩)⟩

/-! ## The trees of transients -/

def transientChildren (raw : RawState) (windows : KeyMap WindowState)
    (id : Nat) : List Nat :=
  sortIds raw (visibleChildren raw windows id)

theorem emitTransientTree_eq (fuel id : Nat) :
    emitTransientTree raw windows fuel id =
      listTree (transientChildren raw windows) fuel id := by
  induction fuel generalizing id with
  | zero => rfl
  | succ fuel ih =>
      rw [emitTransientTree, listTree, funext ih, transientChildren]

theorem mem_transientChildren {id child : Nat} :
    child ∈ transientChildren raw windows id ↔ child ∈ raw.windows ∧
      (raw.window child).overrideRedirect = false ∧
        (raw.window child).transientFor = id ∧
          (windows[child]?.getD {}).visible = true := by
  simp only [transientChildren, mem_sortIds, visibleChildren, List.mem_filter,
    Std.ExtTreeMap.mem_keys, Bool.and_eq_true, Bool.not_eq_true',
    decide_eq_true_eq, and_assoc]

/-- The level of a window; no window at all stands above the roots. -/
def RawState.level (raw : RawState) (id : Nat) : Nat :=
  if id = 0 then 0 else raw.depth id + 1

theorem depth_root {id : Nat} (top : (raw.window id).transientFor = 0) :
    raw.depth id = 0 := by
  rw [RawState.depth, top, transientDepth, if_pos rfl]

theorem transientForest (valid : Valid raw) :
    Forest (transientChildren raw windows)
      (fun id => (raw.window id).transientFor) raw.level where
  parent isChild := (mem_transientChildren.mp isChild).2.2.1
  deeper := by
    intro node child isChild
    obtain ⟨known, managed, parent, _⟩ := mem_transientChildren.mp isChild
    simp only [RawState.level, if_neg (valid.id_ne_zero known)]
    split
    · rename_i none
      rw [depth_root (parent.trans none)]
    · rename_i some
      rw [valid.depth_parent ⟨known, managed, parent ▸ some⟩, parent]
  distinct node := by
    apply (sortIds_perm raw _).nodup_iff.mpr
    exact (KeyMap.keys_nodup raw.windows).filter _

/-- No chain of transients is longer than the rounds of the walk. -/
theorem Valid.depth_le (valid : Valid raw) {id : Nat}
    (known : id ∈ raw.windows) : raw.depth id ≤ maximumWindows + 1 := by
  have bound : ∀ fuel current, transientDepth raw fuel current ≤ fuel := by
    intro fuel
    induction fuel with
    | zero => exact fun _ => Nat.le_refl 0
    | succ fuel ih =>
        intro current
        rw [transientDepth]
        split
        · exact Nat.zero_le _
        · exact Nat.succ_le_succ (ih _)
  have walk := valid.acyclic id known
  rw [transientCycle, if_neg (valid.id_ne_zero known), if_neg (by simp),
    RawState.window_known known] at walk
  rw [RawState.depth, transientDepth_fuel walk 1]
  exact bound _ _

/-- The rounds of the trees. -/
def treeRounds : Nat := maximumWindows + 2

/-- The shown roots of the managed windows, the fullscreen ones last. -/
def shownRoots (raw : RawState) (windows : KeyMap WindowState) : List Nat :=
  let band := applyRestack raw (sortIds raw (managedRoots raw))
  let fullscreen (id : Nat) : Bool :=
    (windows[id]?.getD {}).appliedState = .fullscreen
  (band.filter (!fullscreen ·) ++ band.filter (fullscreen ·)).filter
    fun id => (windows[id]?.getD {}).visible

def shownTrees (raw : RawState) (windows : KeyMap WindowState) : List Nat :=
  (shownRoots raw windows).flatMap
    (listTree (transientChildren raw windows) treeRounds)

def shownOverrides (raw : RawState) (windows : KeyMap WindowState) :
    List Nat :=
  (applyRestack raw (sortIds raw (overrides raw))).filter
    fun id => (windows[id]?.getD {}).visible

theorem stackingOrder_eq :
    stackingOrder raw windows =
      shownTrees raw windows ++ shownOverrides raw windows := by
  have trees : emitTransientTree raw windows (maximumWindows + 2) =
      listTree (transientChildren raw windows) treeRounds :=
    funext fun id => emitTransientTree_eq _ id
  rw [stackingOrder, trees]
  rfl

theorem filter_parts_perm (part : Nat → Bool) (ids : List Nat) :
    (ids.filter (!part ·) ++ ids.filter part).Perm ids :=
  List.perm_append_comm.trans (List.filter_append_perm part ids)

theorem shownRoots_perm : (shownRoots raw windows).Perm
    ((managedRoots raw).filter
      fun id => (windows[id]?.getD {}).visible) :=
  ((filter_parts_perm _ _).trans (applyRestack_perm raw _)).filter _

theorem shownOverrides_perm : (shownOverrides raw windows).Perm
    ((overrides raw).filter fun id => (windows[id]?.getD {}).visible) :=
  (applyRestack_perm raw _).filter _

theorem mem_shownRoots {id : Nat} : id ∈ shownRoots raw windows ↔
    id ∈ managedRoots raw ∧ (windows[id]?.getD {}).visible = true := by
  rw [shownRoots_perm.mem_iff, List.mem_filter]

theorem mem_shownOverrides {id : Nat} : id ∈ shownOverrides raw windows ↔
    id ∈ overrides raw ∧ (windows[id]?.getD {}).visible = true := by
  rw [shownOverrides_perm.mem_iff, List.mem_filter]

theorem sublist_pair_append {first second : Nat} {front back : List Nat}
    (inFront : first ∈ front) (inBack : second ∈ back) :
    [first, second].Sublist (front ++ back) :=
  (List.singleton_sublist.mpr inFront).append
    (List.singleton_sublist.mpr inBack)

/-- The visible windows are those that are to be shown. -/
structure Visibly (raw : RawState) (windows : KeyMap WindowState) : Prop where
  shown : ∀ id ∈ raw.windows,
    (windows[id]?.getD {}).visible = true ↔ Shown raw id
  hidden : ∀ id, id ∉ raw.windows → (windows[id]?.getD {}).visible = false

section Trees

variable (valid : Valid raw) (visibly : Visibly raw windows)

include valid visibly

/-- A managed window that is shown is listed in the tree of a shown root. -/
theorem Shown.listed {id : Nat} (shown : Shown raw id)
    (managed : (raw.window id).overrideRedirect = false) :
    ∃ root ∈ managedRoots raw, (windows[root]?.getD {}).visible = true ∧
      id ∈ listTree (transientChildren raw windows) (raw.depth id + 1)
        root := by
  induction shown with
  | @root id isRoot wants unminimized =>
      have shown : Shown raw id := .root isRoot wants unminimized
      have top : (raw.window id).transientFor = 0 := by
        rcases isRoot.2 with override | top
        · cases managed.symm.trans override
        · exact top
      exact ⟨id, mem_managedRoots.mpr ⟨isRoot.1, managed, top⟩,
        (visibly.shown id isRoot.1).mpr shown, mem_listTree_self _ _⟩
  | @transient id isTransient wants unminimized parent ih =>
      have shown : Shown raw id :=
        .transient isTransient wants unminimized parent
      obtain ⟨root, isRoot, visible, above⟩ := ih (valid.parent isTransient).2
      refine ⟨root, isRoot, visible, ?_⟩
      have isChild : id ∈ transientChildren raw windows
          (raw.window id).transientFor :=
        mem_transientChildren.mpr ⟨isTransient.1, isTransient.2.1, rfl,
          (visibly.shown id isTransient.1).mpr shown⟩
      rw [valid.depth_parent isTransient]
      exact (listTree_child above isChild).subset (by simp)

/-- The trees hold exactly the managed windows that are visible. -/
theorem mem_shownTrees {id : Nat} : id ∈ shownTrees raw windows ↔
    id ∈ raw.windows ∧ (raw.window id).overrideRedirect = false ∧
      (windows[id]?.getD {}).visible = true := by
  rw [shownTrees, List.mem_flatMap]
  constructor
  · rintro ⟨root, isRoot, below⟩
    rcases mem_listTree below with rfl | ⟨above, isChild⟩
    · obtain ⟨top, visible⟩ := mem_shownRoots.mp isRoot
      obtain ⟨known, managed, _⟩ := mem_managedRoots.mp top
      exact ⟨known, managed, visible⟩
    · obtain ⟨known, managed, _, visible⟩ := mem_transientChildren.mp isChild
      exact ⟨known, managed, visible⟩
  · rintro ⟨known, managed, visible⟩
    have shown := (visibly.shown id known).mp visible
    obtain ⟨root, isRoot, rootVisible, listed⟩ :=
      shown.listed valid visibly managed
    have depth := valid.depth_le known
    refine ⟨root, mem_shownRoots.mpr ⟨isRoot, rootVisible⟩, ?_⟩
    exact (listTree_monotone (by unfold treeRounds; omega) root).subset listed

theorem mem_stackingOrder_iff {id : Nat} :
    id ∈ stackingOrder raw windows ↔
      id ∈ raw.windows ∧ (windows[id]?.getD {}).visible = true := by
  rw [stackingOrder_eq, List.mem_append, mem_shownTrees valid visibly,
    mem_shownOverrides, mem_overrides]
  cases (raw.window id).overrideRedirect <;> simp

theorem stackingOrder_nodup : (stackingOrder raw windows).Nodup := by
  have forest := @transientForest raw windows valid
  have rootsDistinct : (shownRoots raw windows).Nodup :=
    shownRoots_perm.nodup_iff.mpr
      (((KeyMap.keys_nodup raw.windows).filter _).filter _)
  have overridesDistinct : (shownOverrides raw windows).Nodup :=
    shownOverrides_perm.nodup_iff.mpr
      (((KeyMap.keys_nodup raw.windows).filter _).filter _)
  have level : ∀ root ∈ shownRoots raw windows, raw.level root = 1 := by
    intro root isRoot
    obtain ⟨known, _, top⟩ := mem_managedRoots.mp (mem_shownRoots.mp isRoot).1
    rw [RawState.level, if_neg (valid.id_ne_zero known), depth_root top]
  rw [stackingOrder_eq, List.nodup_append']
  refine ⟨forest.flatMap_nodup rootsDistinct level
    (fun root _ => forest.listTree_nodup _ root), overridesDistinct, ?_⟩
  intro id inTrees inOverrides
  have managed := ((mem_shownTrees valid visibly).mp inTrees).2.1
  have override := (mem_overrides.mp (mem_shownOverrides.mp inOverrides).1).2
  cases managed.symm.trans override

/-- A visible transient comes after its parent. -/
theorem transient_after_parent {id : Nat} (isTransient : raw.IsTransient id)
    (visible : (windows[id]?.getD {}).visible = true) :
    [(raw.window id).transientFor, id].Sublist
      (stackingOrder raw windows) := by
  have shown := (visibly.shown id isTransient.1).mp visible
  have parentShown := (shown_transient_iff isTransient).mp shown
  obtain ⟨present, managed⟩ := valid.parent isTransient
  obtain ⟨root, isRoot, rootVisible, listed⟩ :=
    parentShown.2.listed valid visibly managed
  have isChild : id ∈ transientChildren raw windows
      (raw.window id).transientFor :=
    mem_transientChildren.mpr ⟨isTransient.1, isTransient.2.1, rfl, visible⟩
  have depth := valid.depth_le isTransient.1
  have deeper := valid.depth_parent isTransient
  have inTree : [(raw.window id).transientFor, id].Sublist
      (listTree (transientChildren raw windows) treeRounds root) :=
    (listTree_child listed isChild).trans
      (listTree_monotone (by unfold treeRounds; omega) root)
  rw [stackingOrder_eq, shownTrees, List.flatMap_def]
  exact (inTree.trans (List.sublist_flatten_of_mem (List.mem_map_of_mem
    (mem_shownRoots.mpr ⟨isRoot, rootVisible⟩)))).trans
      (List.sublist_append_left _ _)

end Trees

/-- A visible override comes after every managed window that is visible. -/
theorem override_after_managed {managed override : Nat}
    (isManaged : managed ∈ shownTrees raw windows)
    (isOverride : override ∈ shownOverrides raw windows) :
    [managed, override].Sublist (stackingOrder raw windows) := by
  rw [stackingOrder_eq]
  exact sublist_pair_append isManaged isOverride

/-- A fullscreen root comes after every other root. -/
theorem fullscreen_after_root {root fullscreen : Nat}
    (isRoot : root ∈ shownRoots raw windows)
    (isFullscreen : fullscreen ∈ shownRoots raw windows)
    (plain : (windows[root]?.getD {}).appliedState ≠ .fullscreen)
    (full : (windows[fullscreen]?.getD {}).appliedState = .fullscreen) :
    [root, fullscreen].Sublist (stackingOrder raw windows) := by
  have ordered : [root, fullscreen].Sublist (shownRoots raw windows) := by
    rw [shownRoots, List.mem_filter] at isRoot isFullscreen
    simp only [List.mem_append, List.mem_filter] at isRoot isFullscreen
    rw [shownRoots, List.filter_append]
    apply sublist_pair_append
    · simp only [List.mem_filter, isRoot.2, and_true]
      exact isRoot.1.resolve_right fun other => plain (by simpa using other.2)
    · simp only [List.mem_filter, isFullscreen.2, and_true]
      exact isFullscreen.1.resolve_left fun other => by simp [full] at other
  rw [stackingOrder_eq, shownTrees]
  exact (ordered.trans (sublist_flatMap_listTree _ _)).trans
    (List.sublist_append_left _ _)

end Glasswyrm.Wm
