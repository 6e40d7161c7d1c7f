import Glasswyrm.Wm.Focus
import Glasswyrm.Wm.Transients

namespace Glasswyrm.Wm

open Lifecycle Output Library

/-! Which windows of an accepted state are visible, and that visibility and
focus leave every window where it was placed. -/

variable {raw : RawState} {windows before middle after : KeyMap WindowState}

/-! ## Placement -/

/-- What the geometry decides of a state. -/
def WindowState.placement (state : WindowState) : WindowState :=
  { state with
    stacking := -1
    visible := false
    focused := false
    fullscreenEligible := .false
    directScanoutEligible := .unknown }

/-- What the window alone decides of a state. -/
def WindowState.identity (state : WindowState) : WindowState :=
  { state.placement with
    outputId := 0
    finalX := 0
    finalY := 0
    finalWidth := 0
    finalHeight := 0 }

theorem identity_of_placement {first second : WindowState}
    (same : first.placement = second.placement) :
    first.identity = second.identity := by
  rw [WindowState.identity, same, WindowState.identity]

def SamePlacement (before after : KeyMap WindowState) : Prop :=
  ∀ id : Nat, after[id]?.map WindowState.placement =
    before[id]?.map WindowState.placement

theorem SamePlacement.refl (windows : KeyMap WindowState) :
    SamePlacement windows windows := fun _ => rfl

theorem SamePlacement.trans (first : SamePlacement before middle)
    (second : SamePlacement middle after) : SamePlacement before after :=
  fun id => (second id).trans (first id)

theorem SamePlacement.insert {id : Nat} {state next : WindowState}
    (found : windows[id]? = some state)
    (same : next.placement = state.placement) :
    SamePlacement windows (windows.insert id next) := by
  intro other
  rw [KeyMap.lookup_insert]
  split
  · rename_i here
    rw [← here, found, Option.map_some, Option.map_some, same]
  · rfl

theorem SamePlacement.map {f : Nat → WindowState → WindowState}
    (same : ∀ id state, (f id state).placement = state.placement) :
    SamePlacement windows (windows.map f) := by
  intro id
  rw [Std.ExtTreeMap.getElem?_map, Option.map_map]
  cases windows[id]? with
  | none => rfl
  | some state => simp [same]

theorem SamePlacement.found (same : SamePlacement before after) {id : Nat}
    {state : WindowState} (found : before[id]? = some state) :
    ∃ next, after[id]? = some next ∧ next.placement = state.placement := by
  have here := same id
  rw [found] at here
  exact Option.map_eq_some_iff.mp here

theorem SamePlacement.symm (same : SamePlacement before after) :
    SamePlacement after before := fun id => (same id).symm

theorem SamePlacement.mem (same : SamePlacement before after) {id : Nat} :
    id ∈ after ↔ id ∈ before := by
  rw [KeyMap.mem_iff, KeyMap.mem_iff]
  constructor
  · rintro ⟨state, found⟩
    obtain ⟨next, there, _⟩ := same.symm.found found
    exact ⟨next, there⟩
  · rintro ⟨state, found⟩
    obtain ⟨next, there, _⟩ := same.found found
    exact ⟨next, there⟩

/-- The states of the windows of a raw state. -/
structure Describes (raw : RawState) (windows : KeyMap WindowState) :
    Prop where
  known : ∀ id, id ∈ windows ↔ id ∈ raw.windows
  identity : ∀ (id : Nat) state, windows[id]? = some state →
    state.identity = initialState raw id (raw.window id)

theorem Describes.later (describes : Describes raw before)
    (same : SamePlacement before after) : Describes raw after where
  known id := same.mem.trans (describes.known id)
  identity id state found := by
    obtain ⟨earlier, there, placed⟩ := same.symm.found found
    rw [← identity_of_placement placed]
    exact describes.identity id earlier there

theorem Describes.lookup (describes : Describes raw windows) {id : Nat}
    (known : id ∈ raw.windows) :
    windows[id]? = some (windows[id]?.getD {}) := by
  obtain ⟨state, found⟩ := KeyMap.mem_iff.mp ((describes.known id).mpr known)
  rw [found, Option.getD_some]

section

variable {id : Nat} {state : WindowState}
  (describes : Describes raw windows) (found : windows[id]? = some state)

include describes found

theorem Describes.transientFor :
    state.transientFor = (raw.window id).transientFor :=
  congrArg WindowState.transientFor (describes.identity id state found)

theorem Describes.appliedState :
    state.appliedState = appliedState (raw.window id) :=
  congrArg WindowState.appliedState (describes.identity id state found)

theorem Describes.overrideRedirect :
    state.overrideRedirect = (raw.window id).overrideRedirect :=
  congrArg WindowState.overrideRedirect (describes.identity id state found)

theorem Describes.managed :
    state.managed = !(raw.window id).overrideRedirect :=
  congrArg WindowState.managed (describes.identity id state found)

end

/-! ## Visibility -/

/-- A window that asks to be shown, as do all that it is transient for. -/
inductive Shown (raw : RawState) : Nat → Prop
  | root {id : Nat} (root : raw.IsRoot id)
      (wants : (raw.window id).wantsMap = true)
      (unminimized : (raw.window id).overrideRedirect = true ∨
        appliedState (raw.window id) ≠ .minimized) : Shown raw id
  | transient {id : Nat} (isTransient : raw.IsTransient id)
      (wants : (raw.window id).wantsMap = true)
      (unminimized : appliedState (raw.window id) ≠ .minimized)
      (parent : Shown raw (raw.window id).transientFor) : Shown raw id

/-- A transient that is shown only with the given parent. -/
def shownWith (_ : Nat) (state parent : WindowState) : WindowState :=
  { state with visible := state.visible && parent.visible }

theorem foldl_hideWithParent {ids : List Nat}
    (known : ∀ id ∈ ids, id ∈ raw.windows)
    (describes : Describes raw windows) :
    ids.foldl hideWithParent windows =
        ids.foldl
          (propagate (fun id => (raw.window id).transientFor) shownWith {})
          windows ∧
      SamePlacement windows (ids.foldl hideWithParent windows) := by
  induction ids generalizing windows with
  | nil => exact ⟨rfl, .refl windows⟩
  | cons head rest ih =>
      obtain ⟨here, others⟩ := List.forall_mem_cons.mp known
      have found := describes.lookup here
      have parent := describes.transientFor found
      have step : hideWithParent windows head =
          propagate (fun id => (raw.window id).transientFor) shownWith {}
            windows head := by
        simp only [hideWithParent, propagate, shownWith, parent]
      have placed : SamePlacement windows (hideWithParent windows head) :=
        .insert found rfl
      obtain ⟨same, later⟩ := ih others (describes.later placed)
      rw [List.foldl_cons, List.foldl_cons, ← step]
      exact ⟨same, placed.trans later⟩

/-- The windows with what each of them asks for. -/
def wantedWindows (raw : RawState) (windows : KeyMap WindowState) :
    KeyMap WindowState :=
  windows.map fun id state =>
    { state with visible := wantsVisible (raw.window id) state }

theorem wantedWindows_placement (raw : RawState)
    (windows : KeyMap WindowState) :
    SamePlacement windows (wantedWindows raw windows) :=
  .map fun _ _ => rfl

theorem applyVisibility_placement (describes : Describes raw windows) :
    SamePlacement windows (applyVisibility raw windows) := by
  have wanted := wantedWindows_placement raw windows
  have known : ∀ id ∈ transientParentFirst raw, id ∈ raw.windows :=
    fun id member => (mem_transientParentFirst.mp member).1
  have shown := (foldl_hideWithParent known (describes.later wanted)).2
  exact (wanted.trans shown).trans (.map fun _ _ => rfl)

/-- What a window asks for on its own. -/
def asksToShow (window : RawWindow) : Bool :=
  window.wantsMap &&
    (window.overrideRedirect || appliedState window ≠ .minimized)

theorem Shown.asks {id : Nat} (shown : Shown raw id) :
    asksToShow (raw.window id) = true := by
  cases shown with
  | root _ wants unminimized =>
      rcases unminimized with override | normal
      · simp [asksToShow, wants, override]
      · simp [asksToShow, wants, normal]
  | transient _ wants unminimized _ => simp [asksToShow, wants, unminimized]

theorem shown_root_iff {id : Nat} (root : raw.IsRoot id) :
    Shown raw id ↔ asksToShow (raw.window id) = true := by
  refine ⟨Shown.asks, fun asks => ?_⟩
  obtain ⟨wants, unminimized⟩ := Bool.and_eq_true_iff.mp asks
  exact .root root wants (by simpa using unminimized)

theorem shown_transient_iff {id : Nat} (isTransient : raw.IsTransient id) :
    Shown raw id ↔ asksToShow (raw.window id) = true ∧
      Shown raw (raw.window id).transientFor := by
  constructor
  · intro shown
    refine ⟨shown.asks, ?_⟩
    cases shown with
    | root root => exact absurd isTransient root.not_isTransient
    | transient _ _ _ parent => exact parent
  · rintro ⟨asks, parent⟩
    obtain ⟨wants, unminimized⟩ := Bool.and_eq_true_iff.mp asks
    refine .transient isTransient wants ?_ parent
    simpa [isTransient.2.1] using unminimized

theorem wantedWindows_visible (describes : Describes raw windows) {id : Nat}
    (known : id ∈ raw.windows) :
    ((wantedWindows raw windows)[id]?.getD {}).visible =
      asksToShow (raw.window id) := by
  have found := describes.lookup known
  rw [wantedWindows, Std.ExtTreeMap.getElem?_map, found, Option.map_some,
    Option.getD_some]
  simp only [wantsVisible, describes.appliedState found, asksToShow]

/-- A window is visible exactly if it is shown. -/
theorem applyVisibility_visible (valid : Valid raw)
    (describes : Describes raw windows) {id : Nat}
    (known : id ∈ raw.windows) :
    ((applyVisibility raw windows)[id]?.getD {}).visible = true ↔
      Shown raw id := by
  have transients : ∀ id ∈ transientParentFirst raw, id ∈ raw.windows :=
    fun id member => (mem_transientParentFirst.mp member).1
  have wanted := describes.later (wantedWindows_placement raw windows)
  have folded := (foldl_hideWithParent transients wanted).1
  have eligible : ∀ id : Nat,
      ((applyVisibility raw windows)[id]?.getD {}).visible =
        (((transientParentFirst raw).foldl
          (propagate (fun id => (raw.window id).transientFor) shownWith {})
          (wantedWindows raw windows))[id]?.getD {}).visible := by
    intro id
    rw [← folded]
    simp only [applyVisibility, Std.ExtTreeMap.getElem?_map]
    rw [wantedWindows]
    cases ((transientParentFirst raw).foldl hideWithParent _)[id]? <;> rfl
  rw [eligible]
  -- A parent has less depth than its transients.
  induction depth : raw.depth id using Nat.strong_induction_on
    generalizing id with
  | _ depth ih =>
      rcases isTransient_or_isRoot known with isTransient | root
      · obtain ⟨parentKnown, _⟩ := valid.parent isTransient
        have deeper := valid.depth_parent isTransient
        rw [foldl_propagate valid.parentsFirst
            (mem_transientParentFirst.mpr isTransient), Option.getD_some,
          shown_transient_iff isTransient, shownWith, Bool.and_eq_true,
          wantedWindows_visible describes known]
        exact and_congr_right fun _ =>
          ih (raw.depth (raw.window id).transientFor) (by omega)
            parentKnown rfl
      · have absent : id ∉ transientParentFirst raw := fun member =>
          root.not_isTransient (mem_transientParentFirst.mp member)
        rw [foldl_propagate_absent absent, shown_root_iff root,
          wantedWindows_visible describes known]

/-! ## Focus -/

theorem maxElement_mem {key : Nat → List Nat} {ids : List Nat}
    {selected : Nat} (found : maxElement key ids = some selected) :
    selected ∈ ids := by
  cases ids with
  | nil => cases found
  | cons first rest =>
      obtain rfl := Option.some.inj found
      have kept : ∀ (rest : List Nat) (best : Nat),
          rest.foldl (fun best id => if key best < key id then id else best)
            best ∈ best :: rest := by
        intro rest
        induction rest with
        | nil => simp
        | cons id rest ih =>
            intro best
            rw [List.foldl_cons]
            rcases List.mem_cons.mp (ih (if key best < key id then id
              else best)) with same | later
            · rw [same]
              split
              · simp
              · simp
            · exact List.mem_cons_of_mem _ (List.mem_cons_of_mem _ later)
      exact kept rest first

/-- Focus goes to a visible managed window that takes input. -/
theorem selectFocus_candidate {selected : Nat}
    (found : selectFocus raw windows = some selected) :
    selected ∈ raw.windows ∧ focusCandidate raw windows selected = true := by
  have member := maxElement_mem found
  rw [List.mem_filter, Std.ExtTreeMap.mem_keys] at member
  exact member

theorem applyFocus_placement (describes : Describes raw windows) :
    SamePlacement windows (applyFocus raw windows) := by
  unfold applyFocus
  split
  · exact .refl windows
  · rename_i selected found
    exact .insert (describes.lookup (selectFocus_candidate found).1) rfl

theorem applyFocusAndVisibility_placement (describes : Describes raw windows) :
    SamePlacement windows (applyFocusAndVisibility raw windows) := by
  have visibility := applyVisibility_placement describes
  have focus := applyFocus_placement (describes.later visibility)
  exact (visibility.trans focus).trans (.map fun _ _ => rfl)

theorem applyFocus_visible (raw : RawState) (windows : KeyMap WindowState)
    (id : Nat) :
    ((applyFocus raw windows)[id]?.getD {}).visible =
      (windows[id]?.getD {}).visible := by
  unfold applyFocus
  split
  · rfl
  · rename_i selected found
    rw [KeyMap.lookup_insert]
    split
    · rename_i same
      rw [same]
      rfl
    · rfl

theorem applyFocusAndVisibility_visible (valid : Valid raw)
    (describes : Describes raw windows) {id : Nat}
    (known : id ∈ raw.windows) :
    ((applyFocusAndVisibility raw windows)[id]?.getD {}).visible = true ↔
      Shown raw id := by
  have eligible : ((applyFocusAndVisibility raw windows)[id]?.getD
      {}).visible =
        ((applyFocus raw (applyVisibility raw windows))[id]?.getD
          {}).visible := by
    rw [applyFocusAndVisibility, applyPresentationEligibility,
      Std.ExtTreeMap.getElem?_map]
    cases (applyFocus raw (applyVisibility raw windows))[id]? <;> rfl
  rw [eligible, applyFocus_visible,
    applyVisibility_visible valid describes known]

end Glasswyrm.Wm
