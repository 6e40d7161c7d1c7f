import Glasswyrm.Lifecycle.Fields

namespace Glasswyrm.Lifecycle

/-! Rebasing a queued operation onto the snapshot that is committed when its
turn comes. -/

namespace LifecycleSnapshot

/-- The removal both `Destroy` and `ClientCleanup` perform on one window. -/
def eraseWindow (snapshot : LifecycleSnapshot) (id : Nat) :
    LifecycleSnapshot :=
  { snapshot with
    windows := snapshot.windows.erase id
    rootOrder := snapshot.rootOrder.filter (· ≠ id)
    focusedWindow :=
      if snapshot.focusedWindow = id then snapshot.rootWindow
      else snapshot.focusedWindow }

end LifecycleSnapshot

/-- The fields of one window that an operation of the given kind takes over
from its proposal; `none` for the kinds the switch does not handle. -/
def rebaseWindow (kind : LifecycleOperationKind)
    (source target : LifecycleWindow) : Option LifecycleWindow :=
  match kind with
  | .map | .unmap =>
      some { target with
        mapRequested := source.mapRequested
        mapSerial := source.mapSerial }
  | .configure =>
      some { target with
        requestedX := source.requestedX
        requestedY := source.requestedY
        requestedWidth := source.requestedWidth
        requestedHeight := source.requestedHeight
        requestedBorderWidth := source.requestedBorderWidth
        geometrySerial := source.geometrySerial
        stackSerial := source.stackSerial
        stackSibling := source.stackSibling
        stackMode := source.stackMode }
  | .overrideChange =>
      some { target with overrideRedirect := source.overrideRedirect }
  | .policyChange =>
      some { source with
        appliedX := target.appliedX
        appliedY := target.appliedY
        appliedWidth := target.appliedWidth
        appliedHeight := target.appliedHeight
        stacking := target.stacking
        policyVisible := target.policyVisible
        focused := target.focused }
  | .scaleChange => some { target with scale := source.scale }
  | .focus => some { target with focusSerial := source.focusSerial }
  | .create | .destroy | .clientCleanup => none

def rebaseLifecycleOperation (committed : LifecycleSnapshot)
    (operation : LifecycleOperation) : Option LifecycleSnapshot :=
  let source := operation.proposed.windows[operation.window]?
  let target := committed.windows[operation.window]?
  match operation.kind with
  | .create =>
      match source, target with
      | some window, none =>
          some { committed with
            windows := committed.windows.insert operation.window window
            rootOrder := committed.rootOrder ++ [operation.window] }
      | _, _ => none
  | .destroy =>
      match target with
      | some _ => some (committed.eraseWindow operation.window)
      | none => none
  | .clientCleanup =>
      some (committed.windows.keys.foldl
        (fun rebased id =>
          if operation.proposed.windows.contains id then rebased
          else rebased.eraseWindow id)
        committed)
  | kind =>
      match source, target with
      | some source, some target =>
          (rebaseWindow kind source target).map fun window =>
            { committed with
              windows := committed.windows.insert operation.window window }
      | _, _ => none

/-! What the rebase takes from the proposal, by kind and field. -/

/-- The fields of its own window that an operation of this kind copies from
the proposal. -/
def LifecycleOperationKind.copies :
    LifecycleOperationKind → WindowField → Bool
  | .create, _ | .destroy, _ => true
  | .clientCleanup, _ => false
  | .map, .mapRequested | .map, .mapSerial
  | .unmap, .mapRequested | .unmap, .mapSerial => true
  | .map, _ | .unmap, _ => false
  | .configure, .requestedX | .configure, .requestedY
  | .configure, .requestedWidth | .configure, .requestedHeight
  | .configure, .requestedBorderWidth | .configure, .geometrySerial
  | .configure, .stackSerial | .configure, .stackSibling
  | .configure, .stackMode => true
  | .configure, _ => false
  | .overrideChange, .overrideRedirect => true
  | .overrideChange, _ => false
  | .policyChange, .appliedX | .policyChange, .appliedY
  | .policyChange, .appliedWidth | .policyChange, .appliedHeight
  | .policyChange, .stacking | .policyChange, .policyVisible
  | .policyChange, .focused => false
  | .policyChange, _ => true
  | .scaleChange, .scalePrimaryOutput | .scaleChange, .scalePreferredNumerator
  | .scaleChange, .scalePreferredDenominator
  | .scaleChange, .scaleAcceptedBufferScale
  | .scaleChange, .scaleLayoutGeneration
  | .scaleChange, .scaleOutputMemberships
  | .scaleChange, .scaleHasOutputState | .scaleChange, .scalePresentation
  | .scaleChange, .scaledPixmapStorage
  | .scaleChange, .scalePresentationSerial
  | .scaleChange, .scaleEventSelections => true
  | .scaleChange, _ => false
  | .focus, .focusSerial => true
  | .focus, _ => false

/-- The operations whose rebase edits the record of one window that stays. -/
def LifecycleOperationKind.edits : LifecycleOperationKind → Bool
  | .create | .destroy | .clientCleanup => false
  | _ => true

/-- Whether the operation decides the given field of the given window. -/
def LifecycleOperation.copies (operation : LifecycleOperation) (id : Nat)
    (field : WindowField) : Bool :=
  match operation.kind with
  | .clientCleanup => !operation.proposed.windows.contains id
  | kind => operation.window = id && kind.copies field

theorem rebaseWindow_read {kind : LifecycleOperationKind}
    {source target window : LifecycleWindow}
    (rebased : rebaseWindow kind source target = some window)
    (field : WindowField) :
    window.read field =
      if kind.copies field then source.read field else target.read field := by
  cases kind <;> simp only [rebaseWindow, Option.some.injEq, reduceCtorEq]
    at rebased <;> subst rebased <;> cases field <;> rfl

theorem rebaseWindow_isSome (kind : LifecycleOperationKind)
    (source target : LifecycleWindow) :
    (rebaseWindow kind source target).isSome = kind.edits := by
  cases kind <;> rfl

namespace LifecycleSnapshot

@[simp] theorem eraseWindow_windows (snapshot : LifecycleSnapshot) (id : Nat) :
    (snapshot.eraseWindow id).windows = snapshot.windows.erase id := rfl

@[simp] theorem eraseWindow_rootOrder (snapshot : LifecycleSnapshot)
    (id : Nat) : (snapshot.eraseWindow id).rootOrder =
      snapshot.rootOrder.filter (· ≠ id) :=
  rfl

@[simp] theorem eraseWindow_workspaceId (snapshot : LifecycleSnapshot)
    (id : Nat) :
    (snapshot.eraseWindow id).workspaceId = snapshot.workspaceId := rfl

/-- The removal loop over a list of keys, as the client cleanup runs it. -/
def eraseUnless (snapshot : LifecycleSnapshot) (kept : Nat → Bool)
    (ids : List Nat) : LifecycleSnapshot :=
  ids.foldl
    (fun rebased id => if kept id then rebased else rebased.eraseWindow id)
    snapshot

@[simp] theorem eraseUnless_nil (snapshot : LifecycleSnapshot)
    (kept : Nat → Bool) : snapshot.eraseUnless kept [] = snapshot := rfl

theorem eraseUnless_cons (snapshot : LifecycleSnapshot) (kept : Nat → Bool)
    (id : Nat) (rest : List Nat) :
    snapshot.eraseUnless kept (id :: rest) =
      (if kept id then snapshot else snapshot.eraseWindow id).eraseUnless kept
        rest := rfl

theorem eraseUnless_lookup (snapshot : LifecycleSnapshot) (kept : Nat → Bool)
    (ids : List Nat) (id : Nat) :
    (snapshot.eraseUnless kept ids).windows[id]? =
      if id ∈ ids ∧ kept id = false then none else snapshot.windows[id]? := by
  induction ids generalizing snapshot with
  | nil => simp
  | cons head rest ih =>
      rw [eraseUnless_cons, ih]
      cases hkept : kept head with
      | true =>
          by_cases same : id = head
          · subst same
            simp [hkept]
          · simp [same]
      | false =>
          by_cases same : id = head
          · subst same
            simp [hkept]
          · simp [same, Std.ExtTreeMap.getElem?_erase, Ne.symm same]

theorem eraseUnless_workspaceId (snapshot : LifecycleSnapshot)
    (kept : Nat → Bool) (ids : List Nat) :
    (snapshot.eraseUnless kept ids).workspaceId = snapshot.workspaceId := by
  induction ids generalizing snapshot with
  | nil => rfl
  | cons head rest ih =>
      rw [eraseUnless_cons, ih]
      split <;> simp

theorem eraseUnless_rootOrder (snapshot : LifecycleSnapshot)
    (kept : Nat → Bool) (ids : List Nat) :
    (snapshot.eraseUnless kept ids).rootOrder =
      snapshot.rootOrder.filter fun id => !(id ∈ ids && !kept id) := by
  induction ids generalizing snapshot with
  | nil => simp
  | cons head rest ih =>
      rw [eraseUnless_cons, ih]
      cases hkept : kept head with
      | true =>
          refine List.filter_congr fun id _ => ?_
          by_cases same : id = head
          · subst same
            simp [hkept]
          · simp [same]
      | false =>
          simp only [Bool.false_eq_true, if_false, eraseWindow_rootOrder,
            List.filter_filter]
          refine List.filter_congr fun id _ => ?_
          by_cases same : id = head
          · subst same
            simp [hkept]
          · simp [same]

/-- Once the focus has fallen back to the root it stays there. -/
theorem eraseUnless_focusedWindow (snapshot : LifecycleSnapshot)
    (kept : Nat → Bool) (ids : List Nat) :
    (snapshot.eraseUnless kept ids).focusedWindow =
      if snapshot.focusedWindow ∈ ids ∧ kept snapshot.focusedWindow = false
      then snapshot.rootWindow else snapshot.focusedWindow := by
  induction ids generalizing snapshot with
  | nil => simp
  | cons head rest ih =>
      rw [eraseUnless_cons, ih]
      cases hkept : kept head with
      | true =>
          by_cases same : snapshot.focusedWindow = head
          · simp [same, hkept]
          · simp [same]
      | false =>
          by_cases same : snapshot.focusedWindow = head
          · simp [eraseWindow, same, hkept]
          · simp [eraseWindow, same]

end LifecycleSnapshot

/-- Everything a successful rebase can do. -/
theorem rebase_cases {committed rebased : LifecycleSnapshot}
    {operation : LifecycleOperation}
    (success : rebaseLifecycleOperation committed operation = some rebased) :
    (operation.kind = .create ∧ ∃ window,
      operation.proposed.windows[operation.window]? = some window ∧
      committed.windows[operation.window]? = none ∧
      rebased = { committed with
        windows := committed.windows.insert operation.window window
        rootOrder := committed.rootOrder ++ [operation.window] }) ∨
    (operation.kind = .destroy ∧
      operation.window ∈ committed.windows ∧
      rebased = committed.eraseWindow operation.window) ∨
    (operation.kind = .clientCleanup ∧
      rebased = committed.eraseUnless
        (fun id => operation.proposed.windows.contains id)
        committed.windows.keys) ∨
    (operation.kind.edits = true ∧ ∃ source target window,
      operation.proposed.windows[operation.window]? = some source ∧
      committed.windows[operation.window]? = some target ∧
      rebaseWindow operation.kind source target = some window ∧
      rebased = { committed with
        windows := committed.windows.insert operation.window window }) := by
  unfold rebaseLifecycleOperation at success
  cases hsource : operation.proposed.windows[operation.window]? with
  | none =>
      cases htarget : committed.windows[operation.window]? with
      | none =>
          cases hkind : operation.kind <;>
            simp_all [LifecycleSnapshot.eraseUnless]
      | some target =>
          have present : operation.window ∈ committed.windows :=
            by
            simp [Std.ExtTreeMap.mem_iff_isSome_getElem?, htarget]
          cases hkind : operation.kind <;>
            simp_all [LifecycleSnapshot.eraseUnless]
  | some source =>
      cases htarget : committed.windows[operation.window]? with
      | none =>
          cases hkind : operation.kind <;>
            simp_all [LifecycleSnapshot.eraseUnless]
      | some target =>
          have present : operation.window ∈ committed.windows :=
            by
            simp [Std.ExtTreeMap.mem_iff_isSome_getElem?, htarget]
          cases hkind : operation.kind <;>
            simp_all [LifecycleSnapshot.eraseUnless, rebaseWindow,
              LifecycleOperationKind.edits]

/-- What the operation leaves in the fields it decides: a removal leaves
nothing, every other kind its proposal. -/
def LifecycleOperation.written (operation : LifecycleOperation) (id : Nat)
    (field : WindowField) : Option field.Value :=
  match operation.kind with
  | .destroy | .clientCleanup => none
  | _ => operation.proposed.read id field

/-- Field by field, the rebase is the committed snapshot overwritten by what
the operation decides. -/
theorem rebase_read {committed rebased : LifecycleSnapshot}
    {operation : LifecycleOperation}
    (success : rebaseLifecycleOperation committed operation = some rebased)
    (id : Nat) (field : WindowField) :
    rebased.read id field =
      if operation.copies id field then operation.written id field
      else committed.read id field := by
  rcases rebase_cases success with
    ⟨hkind, window, hsource, _, rfl⟩ | ⟨hkind, _, rfl⟩ | ⟨hkind, rfl⟩ |
    ⟨hedits, source, target, window, hsource, htarget, hwindow, rfl⟩
  · by_cases same : operation.window = id
    · subst same
      simp [LifecycleSnapshot.read, LifecycleOperation.copies,
        LifecycleOperation.written, LifecycleOperationKind.copies, hkind,
        hsource]
    · simp [LifecycleSnapshot.read, LifecycleOperation.copies, hkind, same,
        Std.ExtTreeMap.getElem?_insert]
  · by_cases same : operation.window = id
    · subst same
      simp [LifecycleSnapshot.read, LifecycleOperation.copies,
        LifecycleOperation.written, LifecycleOperationKind.copies, hkind]
    · simp [LifecycleSnapshot.read, LifecycleOperation.copies, hkind, same,
        Std.ExtTreeMap.getElem?_erase]
  · have lookup := committed.eraseUnless_lookup
      (fun id => operation.proposed.windows.contains id)
      committed.windows.keys id
    cases kept : operation.proposed.windows.contains id with
    | true =>
        simp [LifecycleSnapshot.read, LifecycleOperation.copies, hkind, kept,
          lookup]
    | false =>
        have absent :
            (committed.eraseUnless
              (fun id => operation.proposed.windows.contains id)
              committed.windows.keys).windows[id]? = none := by
          rw [lookup]
          by_cases member : id ∈ committed.windows.keys
          · simp [member, kept]
          · have missing : committed.windows[id]? = none := by
              simpa using member
            simp [missing]
        simp [LifecycleSnapshot.read, LifecycleOperation.copies,
          LifecycleOperation.written, hkind, kept, absent]
  · have notCleanup : operation.copies id field =
        (decide (operation.window = id) && operation.kind.copies field) := by
      unfold LifecycleOperation.copies
      cases hkind : operation.kind <;> simp_all [LifecycleOperationKind.edits]
    have proposal : operation.written id field =
        operation.proposed.read id field := by
      unfold LifecycleOperation.written
      cases hkind : operation.kind <;> simp_all [LifecycleOperationKind.edits]
    rw [notCleanup, proposal]
    by_cases same : operation.window = id
    · subst same
      simp only [LifecycleSnapshot.read, Std.ExtTreeMap.getElem?_insert_self,
        Option.map_some, hsource, htarget, rebaseWindow_read hwindow field,
        decide_true, Bool.true_and]
      split <;> rfl
    · simp [LifecycleSnapshot.read, same, Std.ExtTreeMap.getElem?_insert]

end Glasswyrm.Lifecycle
