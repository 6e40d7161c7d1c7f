import Glasswyrm.Lifecycle.Projection
import Glasswyrm.Wm.Validation

namespace Glasswyrm.Wm

open Lifecycle Output

/-! Whether the window manager accepts a snapshot from which windows were
removed. -/

variable {snapshot committed rebased : LifecycleSnapshot}
  {operation : LifecycleOperation} {layout : Option OutputLayout}
  {screen : ScreenModel} {commit generation : Nat}

/-! ## The projected raw state -/

theorem rawState_windows (keyed : snapshot.Keyed) :
    (rawState (projectPolicy snapshot commit generation layout)
      screen).windows =
      snapshot.windows.map fun _ value => policyWindow snapshot value :=
  KeyMap.file_map_toList (policyWindow snapshot) RawWindow.windowId
    fun id value found => keyed id value found

theorem rawState_lookup (keyed : snapshot.Keyed) (id : Nat) :
    (rawState (projectPolicy snapshot commit generation layout)
      screen).windows[id]? =
      snapshot.windows[id]?.map (policyWindow snapshot) := by
  rw [rawState_windows keyed]
  simp

theorem rawState_hint (keyed : snapshot.Keyed) (id : Nat) :
    (rawState (projectPolicy snapshot commit generation layout)
      screen).outputHints[id]? =
      snapshot.windows[id]?.bind (policyHint layout) := by
  refine KeyMap.file_filterMap_lookup (policyHint layout)
    WindowOutputHint.windowId ?_ id
  intro other value hint found produced
  unfold policyHint at produced
  split at produced
  · rw [← Option.some.inj produced]
    exact keyed other value found
  · simp at produced

/-- The outputs and the context come from the layout and the screen alone. -/
theorem rawState_outputs (first second : LifecycleSnapshot)
    (commit' generation' : Nat) :
    (rawState (projectPolicy first commit generation layout)
      screen).outputs =
      (rawState (projectPolicy second commit' generation' layout)
        screen).outputs := rfl

/-! ## Snapshots with fewer windows -/

/-- `fewer` lacks some windows of `snapshot` and is otherwise the same to the
window manager. -/
structure Shrinks (snapshot fewer : LifecycleSnapshot) : Prop where
  workspace : fewer.workspaceId = snapshot.workspaceId
  submap : ∀ (id : Nat) (window : LifecycleWindow),
    fewer.windows[id]? = some window → snapshot.windows[id]? = some window

/-- No remaining window names a missing one as its transient parent, or as
the sibling of a restack request. -/
def ReferencesRemain (fewer : LifecycleSnapshot) : Prop :=
  ∀ (id : Nat) (window : LifecycleWindow), fewer.windows[id]? = some window →
    (window.transientFor ≠ 0 → window.transientFor ∈ fewer.windows) ∧
    (window.stackSerial ≠ 0 → window.stackSibling ≠ 0 →
      window.stackSibling ∈ fewer.windows)

theorem Shrinks.keyed {fewer : LifecycleSnapshot}
    (shrinks : Shrinks snapshot fewer) (keyed : snapshot.Keyed) :
    fewer.Keyed :=
  fun id window found => keyed id window (shrinks.submap id window found)

theorem Shrinks.lookup {fewer : LifecycleSnapshot}
    (shrinks : Shrinks snapshot fewer) (id : Nat) :
    fewer.windows[id]? = none ∨
      fewer.windows[id]? = snapshot.windows[id]? := by
  cases found : fewer.windows[id]? with
  | none => exact .inl rfl
  | some window => exact .inr (shrinks.submap id window found).symm

theorem Shrinks.samePolicyWindow {fewer : LifecycleSnapshot}
    (shrinks : Shrinks snapshot fewer) (value : LifecycleWindow) :
    policyWindow fewer value = Lifecycle.policyWindow snapshot value := by
  simp [Lifecycle.policyWindow, shrinks.workspace]

section

variable {windows fewer : KeyMap RawWindow} {window : RawWindow}

theorem lacksParent_submap
    (submap : ∀ id : Nat, fewer[id]? = none ∨ fewer[id]? = windows[id]?)
    (accepted : lacksParent windows window = false) :
    lacksParent fewer window = false ↔
      (window.transientFor ≠ 0 → window.transientFor ∈ fewer) := by
  unfold lacksParent at accepted ⊢
  by_cases rootless : window.transientFor = 0
  · simp [rootless]
  · rcases submap window.transientFor with gone | kept
    · have absent : window.transientFor ∉ fewer := by
        simp [KeyMap.mem_iff, gone]
      simp [rootless, absent]
    · cases found : windows[window.transientFor]? with
      | none => simp [rootless, found] at accepted
      | some target =>
          have present : window.transientFor ∈ fewer :=
            KeyMap.mem_of_lookup (kept.trans found)
          rw [found] at accepted
          rw [kept, found]
          simpa only [present, implies_true, iff_true] using accepted

theorem validateStacking_submap
    (submap : ∀ id : Nat, fewer[id]? = none ∨ fewer[id]? = windows[id]?)
    (accepted : validateStacking windows window = .none) :
    validateStacking fewer window = .none ↔
      (window.stackSerial ≠ 0 → window.stackSibling ≠ 0 →
        window.stackSibling ∈ fewer) := by
  unfold validateStacking at accepted ⊢
  split
  · rename_i unstacked
    simp [unstacked]
  · rename_i stacked
    rw [if_neg stacked] at accepted
    split
    · rename_i transient
      simp [transient] at accepted
    · rename_i managed
      rw [if_neg managed] at accepted
      split
      · rename_i alone
        simp [alone]
      · rename_i sibling
        rw [if_neg sibling] at accepted
        rcases submap window.stackSibling with gone | kept
        · have absent : window.stackSibling ∉ fewer := by
            simp [KeyMap.mem_iff, gone]
          simp [stacked, sibling, absent]
        · cases found : windows[window.stackSibling]? with
          | none => simp [found] at accepted
          | some target =>
              have present : window.stackSibling ∈ fewer :=
                KeyMap.mem_of_lookup (kept.trans found)
              rw [kept]
              simp only [found] at accepted ⊢
              rw [accepted]
              simp [present]

/-- The reference checks on a window that passed them before. -/
theorem validateReferences_submap
    (submap : ∀ id : Nat, fewer[id]? = none ∨ fewer[id]? = windows[id]?)
    (accepted : validateReferences windows window = .none) :
    validateReferences fewer window = .none ↔
      (window.transientFor ≠ 0 → window.transientFor ∈ fewer) ∧
      (window.stackSerial ≠ 0 → window.stackSibling ≠ 0 →
        window.stackSibling ∈ fewer) := by
  unfold validateReferences at accepted ⊢
  split at accepted
  · simp at accepted
  · rename_i own
    split at accepted
    · simp at accepted
    · rename_i parent
      have parentCheck := lacksParent_submap submap (by simpa using parent)
      have stackCheck := validateStacking_submap submap accepted
      rw [if_neg own, ← parentCheck, ← stackCheck]
      cases lacksParent fewer window <;> simp

end

/-! ## Validation of the smaller snapshot -/

section

variable {fewer : LifecycleSnapshot} {commit' generation' : Nat}

theorem Shrinks.raw_submap (shrinks : Shrinks snapshot fewer)
    (keyed : snapshot.Keyed) (id : Nat) :
    (rawState (projectPolicy fewer commit' generation' layout)
        screen).windows[id]? = none ∨
      (rawState (projectPolicy fewer commit' generation' layout)
        screen).windows[id]? =
        (rawState (projectPolicy snapshot commit generation layout)
          screen).windows[id]? := by
  rw [rawState_lookup (shrinks.keyed keyed), rawState_lookup keyed]
  rcases shrinks.lookup id with gone | kept
  · exact .inl (by rw [gone]; rfl)
  · refine .inr ?_
    rw [kept]
    exact congrArg (fun f => Option.map f snapshot.windows[id]?)
      (funext shrinks.samePolicyWindow)

theorem Shrinks.profile (shrinks : Shrinks snapshot fewer)
    (keyed : snapshot.Keyed)
    (accepted : validateProfile (rawState
      (projectPolicy snapshot commit generation layout) screen) = .none) :
    validateProfile (rawState
      (projectPolicy fewer commit' generation' layout) screen) = .none := by
  have hints : ∀ (id : Nat) (hint : WindowOutputHint),
      (rawState (projectPolicy fewer commit' generation' layout)
        screen).outputHints[id]? = some hint →
      (rawState (projectPolicy snapshot commit generation layout)
        screen).outputHints[id]? = some hint ∧ id ∈ fewer.windows := by
    intro id hint found
    rw [rawState_hint (shrinks.keyed keyed)] at found
    rw [rawState_hint keyed]
    obtain ⟨window, present, produced⟩ := Option.bind_eq_some_iff.mp found
    exact ⟨Option.bind_eq_some_iff.mpr
      ⟨window, shrinks.submap id window present, produced⟩,
      KeyMap.mem_of_lookup present⟩
  have known : ∀ id ∈ fewer.windows, id ∈ (rawState
      (projectPolicy fewer commit' generation' layout) screen).windows := by
    intro id member
    obtain ⟨window, found⟩ := KeyMap.mem_iff.mp member
    rw [KeyMap.mem_iff, rawState_lookup (shrinks.keyed keyed), found]
    exact ⟨policyWindow fewer window, rfl⟩
  unfold validateProfile at accepted ⊢
  rw [rawState_outputs fewer snapshot commit generation]
  split
  · rename_i multi
    rw [if_pos multi] at accepted
    obtain ⟨outputs, hintsAccepted⟩ :=
      EvaluationError.andThen_none_iff.mp accepted
    refine EvaluationError.andThen_none_iff.mpr ⟨outputs, ?_⟩
    unfold validateHints at hintsAccepted ⊢
    split at hintsAccepted
    · simp at hintsAccepted
    · split at hintsAccepted
      · simp at hintsAccepted
      · rename_i accepted
        rw [if_neg, if_neg]
        · rw [Bool.not_eq_true, List.any_eq_false] at accepted ⊢
          rintro ⟨id, hint⟩ member
          obtain ⟨before, present⟩ := hints id hint (KeyMap.mem_toList.mp member)
          have checked := accepted (id, hint) (KeyMap.mem_toList.mpr before)
          simp only [Bool.or_eq_true, Bool.not_eq_true', not_or] at checked ⊢
          refine ⟨checked.1, ?_⟩
          simpa using known id present
        · refine Nat.not_lt.mpr (KeyMap.size_le_of_keys fun id member => ?_)
          obtain ⟨hint, found⟩ := KeyMap.mem_iff.mp member
          exact known id (hints id hint found).2
  · rename_i single
    rw [if_neg single] at accepted
    have noHints : (rawState
        (projectPolicy snapshot commit generation layout)
          screen).outputHints = ∅ := by
      split at accepted
      · simp at accepted
      · rename_i empty
        simpa using empty
    have stillNone : (rawState
        (projectPolicy fewer commit' generation' layout)
          screen).outputHints = ∅ := by
      refine Std.ExtTreeMap.ext_getElem? fun id => ?_
      cases found : (rawState
          (projectPolicy fewer commit' generation' layout)
            screen).outputHints[id]? with
      | none => simp
      | some hint =>
          have before := (hints id hint found).1
          simp [noHints] at before
    simp [stillNone]

/-- Removing windows from an accepted snapshot breaks references and nothing
else. -/
theorem valid_shrunk_iff (shrinks : Shrinks snapshot fewer)
    (keyed : snapshot.Keyed)
    (accepted : Valid (rawState
      (projectPolicy snapshot commit generation layout) screen)) :
    Valid (rawState (projectPolicy fewer commit' generation' layout) screen) ↔
      ReferencesRemain fewer := by
  have submap : ∀ id : Nat,
      (rawState (projectPolicy fewer commit' generation' layout)
          screen).windows[id]? = none ∨
        (rawState (projectPolicy fewer commit' generation' layout)
          screen).windows[id]? =
          (rawState (projectPolicy snapshot commit generation layout)
            screen).windows[id]? :=
    shrinks.raw_submap keyed
  have fewerKeyed := shrinks.keyed keyed
  have lookup : ∀ (id : Nat) (window : RawWindow),
      (rawState (projectPolicy fewer commit' generation' layout)
        screen).windows[id]? = some window →
      (rawState (projectPolicy snapshot commit generation layout)
        screen).windows[id]? = some window := by
    intro id window found
    rcases submap id with gone | kept
    · simp [gone] at found
    · exact kept ▸ found
  have members : ∀ id : Nat, id ∈ (rawState
      (projectPolicy fewer commit' generation' layout) screen).windows ↔
        id ∈ fewer.windows := by
    intro id
    rw [rawState_windows fewerKeyed]
    simp
  have references : ∀ (id : Nat) (window : LifecycleWindow),
      fewer.windows[id]? = some window →
      (validateReferences (rawState
          (projectPolicy fewer commit' generation' layout) screen).windows
          (policyWindow fewer window) = .none ↔
        (window.transientFor ≠ 0 → window.transientFor ∈ fewer.windows) ∧
        (window.stackSerial ≠ 0 → window.stackSibling ≠ 0 →
          window.stackSibling ∈ fewer.windows)) := by
    intro id window found
    have raw : (rawState (projectPolicy fewer commit' generation' layout)
        screen).windows[id]? = some (policyWindow fewer window) := by
      rw [rawState_lookup fewerKeyed, found]
      rfl
    have before := (accepted.windows id _ (lookup id _ raw)).references
    rw [validateReferences_submap submap before]
    simp only [members]
    rfl
  constructor
  · intro valid id window found
    have raw : (rawState (projectPolicy fewer commit' generation' layout)
        screen).windows[id]? = some (policyWindow fewer window) := by
      rw [rawState_lookup fewerKeyed, found]
      rfl
    exact (references id window found).mp (valid.windows id _ raw).references
  · intro remain
    refine ⟨rfl, rfl, accepted.context, shrinks.profile keyed accepted.profile,
      ?_, ?_, ?_, ?_⟩
    · refine Nat.le_trans (KeyMap.size_le_of_keys fun id member => ?_)
        accepted.size
      obtain ⟨window, found⟩ := KeyMap.mem_iff.mp member
      exact KeyMap.mem_of_lookup (lookup id window found)
    · intro id window found
      have before := accepted.windows id window (lookup id window found)
      refine ⟨before.key, before.record, before.workspace, ?_⟩
      rw [rawState_lookup fewerKeyed] at found
      obtain ⟨source, present, rfl⟩ := Option.map_eq_some_iff.mp found
      exact (references id source present).mpr (remain id source present)
    · intro left right first second hfirst hsecond
      exact accepted.serials left right first second
        (lookup left first hfirst) (lookup right second hsecond)
    · intro id member
      obtain ⟨window, found⟩ := KeyMap.mem_iff.mp member
      exact transientCycle_of_submap lookup
        (accepted.acyclic id (KeyMap.mem_of_lookup (lookup id window found)))

end

/-! ## Destroy and client cleanup -/

/-- The committed windows that the operation takes away. -/
def removes (committed : LifecycleSnapshot) (operation : LifecycleOperation)
    (id : Nat) : Bool :=
  committed.windows.contains id &&
    match operation.kind with
    | .destroy => operation.window = id
    | .clientCleanup => !operation.proposed.windows.contains id
    | _ => false

def Removal (operation : LifecycleOperation) : Prop :=
  operation.kind = .destroy ∨ operation.kind = .clientCleanup

/-- No window that stays names a removed one as its transient parent, or as
the sibling of a restack request that is still recorded. -/
def NothingDangles (committed : LifecycleSnapshot)
    (operation : LifecycleOperation) : Prop :=
  ∀ (id : Nat) (window : LifecycleWindow),
    committed.windows[id]? = some window →
      removes committed operation id = false →
        removes committed operation window.transientFor = false ∧
        (window.stackSerial ≠ 0 →
          removes committed operation window.stackSibling = false)

theorem rebase_removal_lookup (removal : Removal operation)
    (success : rebaseLifecycleOperation committed operation = some rebased)
    (id : Nat) :
    rebased.windows[id]? =
      if removes committed operation id then none
      else committed.windows[id]? := by
  rcases rebase_cases success with
    ⟨hkind, _⟩ | ⟨hkind, present, rfl⟩ | ⟨hkind, rfl⟩ | ⟨hedits, _⟩
  · rcases removal with removal | removal <;> simp [removal] at hkind
  · rw [LifecycleSnapshot.eraseWindow_windows, KeyMap.lookup_erase]
    unfold removes
    simp only [hkind, Bool.and_eq_true, Std.ExtTreeMap.contains_iff_mem,
      decide_eq_true_eq]
    by_cases same : operation.window = id
    · subst same
      simp [present]
    · simp [same]
  · rw [LifecycleSnapshot.eraseUnless_lookup]
    unfold removes
    simp only [hkind, Std.ExtTreeMap.mem_keys, Bool.and_eq_true,
      Std.ExtTreeMap.contains_iff_mem, Bool.not_eq_true']
  · rcases removal with removal | removal <;>
      simp [removal, LifecycleOperationKind.edits] at hedits

theorem rebase_removal_shrinks (removal : Removal operation)
    (success : rebaseLifecycleOperation committed operation = some rebased) :
    Shrinks committed rebased := by
  refine ⟨?_, ?_⟩
  · rcases rebase_cases success with
      ⟨hkind, _⟩ | ⟨_, _, rfl⟩ | ⟨_, rfl⟩ | ⟨_, _, _, _, _, _, _, rfl⟩
    · rcases removal with removal | removal <;> simp [removal] at hkind
    · rfl
    · exact LifecycleSnapshot.eraseUnless_workspaceId _ _ _
    · rfl
  · intro id window found
    rw [rebase_removal_lookup removal success] at found
    split at found
    · simp at found
    · exact found

/-- The window manager accepts a removal exactly when nothing that stays
refers to what goes. -/
theorem removal_accepted_iff (commit generation : Nat)
    (keyed : committed.Keyed)
    (accepted : validate (rawState
      (projectPolicy committed commit generation layout) screen) = .none)
    (removal : Removal operation)
    (success : rebaseLifecycleOperation committed operation = some rebased)
    (commit' generation' : Nat) :
    validate (rawState
        (projectPolicy rebased commit' generation' layout) screen) = .none ↔
      NothingDangles committed operation := by
  have valid := validate_none_iff.mp accepted
  have shrinks := rebase_removal_shrinks removal success
  rw [validate_none_iff, valid_shrunk_iff shrinks keyed valid]
  have lookup := rebase_removal_lookup removal success
  -- an accepted snapshot has no window zero, so zero names nothing removed
  have zeroKept : removes committed operation 0 = false := by
    have missing : committed.windows.contains 0 = false := by
      rw [← Bool.not_eq_true, Std.ExtTreeMap.contains_iff_mem]
      intro member
      obtain ⟨window, found⟩ := KeyMap.mem_iff.mp member
      have raw := valid.windows 0 (policyWindow committed window)
        (by rw [rawState_lookup keyed, found]; rfl)
      have key := raw.key
      have record := raw.record
      simp [refusesWindow, ← key] at record
    simp [removes, missing]
  have kept_iff : ∀ id : Nat, id ∈ committed.windows →
      (id ∈ rebased.windows ↔ removes committed operation id = false) := by
    intro id member
    obtain ⟨window, found⟩ := KeyMap.mem_iff.mp member
    rw [KeyMap.mem_iff, lookup]
    cases removes committed operation id <;> simp [found]
  have gone : ∀ id : Nat, id ∈ rebased.windows →
      removes committed operation id = false := by
    intro id member
    obtain ⟨window, found⟩ := KeyMap.mem_iff.mp member
    exact (kept_iff id (KeyMap.mem_of_lookup
      (shrinks.submap id window found))).mp member
  have known : ∀ (id : Nat) (window : LifecycleWindow),
      committed.windows[id]? = some window →
      (window.transientFor ≠ 0 → window.transientFor ∈ committed.windows) ∧
      (window.stackSerial ≠ 0 → window.stackSibling ≠ 0 →
        window.stackSibling ∈ committed.windows) := by
    intro id window found
    have raw := valid.windows id (policyWindow committed window)
      (by rw [rawState_lookup keyed, found]; rfl)
    have present := (validateReferences_submap (fun _ => .inr rfl)
      raw.references).mp raw.references
    rw [rawState_windows keyed] at present
    simpa [policyWindow] using present
  constructor
  · intro remain id window found kept
    have still : rebased.windows[id]? = some window := by
      rw [lookup, kept]
      exact found
    obtain ⟨parent, sibling⟩ := remain id window still
    refine ⟨?_, fun stacked => ?_⟩
    · by_cases rootless : window.transientFor = 0
      · rw [rootless]
        exact zeroKept
      · exact gone _ (parent rootless)
    · by_cases alone : window.stackSibling = 0
      · rw [alone]
        exact zeroKept
      · exact gone _ (sibling stacked alone)
  · intro nothing id window found
    have before := shrinks.submap id window found
    obtain ⟨parent, sibling⟩ :=
      nothing id window before (gone id (KeyMap.mem_of_lookup found))
    obtain ⟨parentKnown, siblingKnown⟩ := known id window before
    exact ⟨fun transient =>
        (kept_iff _ (parentKnown transient)).mpr parent,
      fun stacked restacked =>
        (kept_iff _ (siblingKnown stacked restacked)).mpr (sibling stacked)⟩

/-! ## A dialog outliving its parent -/

def dialogScreen : ScreenModel where
  rootWindow := 1
  widthPixels := 1024
  heightPixels := 768

def mainWindow : LifecycleWindow where
  xid := 16
  parent := 1
  requestedWidth := 640
  requestedHeight := 480
  mapRequested := true
  creationSerial := 1
  mapSerial := 2

def dialogWindow : LifecycleWindow where
  xid := 32
  parent := 1
  requestedWidth := 200
  requestedHeight := 100
  mapRequested := true
  creationSerial := 3
  mapSerial := 4
  transientFor := 16
  policyWindowType := .dialog

def dialogSnapshot : LifecycleSnapshot where
  windows := .ofList [(16, mainWindow), (32, dialogWindow)]
  rootOrder := [16, 32]
  focusedWindow := 1

def destroyOperation (id : Nat) : LifecycleOperation where
  token := 1
  clientId := 1
  kind := .destroy
  window := id
  proposed := dialogSnapshot.eraseWindow id

theorem dialogSnapshot_keyed : dialogSnapshot.Keyed := by
  intro id window found
  have member := KeyMap.mem_toList.mpr found
  have entries : dialogSnapshot.windows.toList =
      [(16, mainWindow), (32, dialogWindow)] := by decide
  rw [entries] at member
  simp only [List.mem_cons, Prod.mk.injEq, List.not_mem_nil, or_false]
    at member
  rcases member with ⟨rfl, rfl⟩ | ⟨rfl, rfl⟩ <;> rfl

/-- Destroying the dialog is accepted, as nothing refers to it. -/
theorem removal_accepted_dialog :
    validate (rawState (projectPolicy (dialogSnapshot.eraseWindow 32) 3 3 none)
        dialogScreen) = .none ↔
      NothingDangles dialogSnapshot (destroyOperation 32) :=
  removal_accepted_iff 2 2 dialogSnapshot_keyed (by decide) (.inl rfl) (by decide) 3 3

/-- Destroying the main window first is not: the dialog still names it. -/
theorem removal_refused_for_transient :
    validate (rawState (projectPolicy dialogSnapshot 2 2 none)
        dialogScreen) = .none ∧
      (rebaseLifecycleOperation dialogSnapshot (destroyOperation 16)).map
        (fun rebased => validate
          (rawState (projectPolicy rebased 3 3 none) dialogScreen)) =
        some .unknownReference := by
  decide

end Glasswyrm.Wm
