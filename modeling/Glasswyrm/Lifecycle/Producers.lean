import Glasswyrm.Lifecycle.Rebase

namespace Glasswyrm.Lifecycle

/-! The five places of the runtime that build lifecycle operations. -/

inductive CoreStackMode
  | above
  | below
  | topIf
  | bottomIf
  | opposite
deriving DecidableEq, Repr

structure ConfigureWindowRequest where
  x : Option Int := none
  y : Option Int := none
  width : Option Nat := none
  height : Option Nat := none
  borderWidth : Option Nat := none
  sibling : Option Nat := none
  stackMode : Option CoreStackMode := none
deriving DecidableEq, Repr

structure DeferredPolicyMutation where
  window : LifecycleWindow
  requestFocus : Bool := false
deriving DecidableEq

/-- The deferred requests, one constructor for each way the dispatcher fills
its result.  A created window is given as the record that the snapshot of the
server shows for it. -/
inductive DeferredMutation
  | create (created : LifecycleWindow)
  | destroy (window : Nat)
  | overrideRedirect (window : Nat) (value : Bool)
  | policy (change : DeferredPolicyMutation)
  | scale (window : Nat) (scale : WindowScaleState)
  | configure (window : Nat) (request : ConfigureWindowRequest)
  | map (window : Nat) (mapped : Bool)
deriving DecidableEq

def DeferredMutation.window : DeferredMutation → Nat
  | .create created => created.xid
  | .destroy window => window
  | .overrideRedirect window _ => window
  | .policy change => change.window.xid
  | .scale window _ => window
  | .configure window _ => window
  | .map window _ => window

structure InteractionBeginResult where
  focus : Bool := false
  raise : Bool := false
deriving DecidableEq, Repr

structure InteractiveGeometry where
  x : Int
  y : Int
  width : Nat
  height : Nat
deriving DecidableEq, Repr

structure ClientCleanupPlan where
  roots : List Nat := []
  postorder : List Nat := []
  affectsPolicy : Bool := false
deriving DecidableEq, Repr

/-! ## Edits of one window -/

def overrideEdit (value : Bool) (window : LifecycleWindow) :
    LifecycleWindow :=
  { window with overrideRedirect := value }

def policyEdit (change : DeferredPolicyMutation) (serial : Nat)
    (window : LifecycleWindow) : LifecycleWindow :=
  { change.window with
    appliedX := window.appliedX
    appliedY := window.appliedY
    appliedWidth := window.appliedWidth
    appliedHeight := window.appliedHeight
    stacking := window.stacking
    policyVisible := window.policyVisible
    focused := window.focused
    focusSerial :=
      if change.requestFocus then serial else change.window.focusSerial
    geometrySerial :=
      if change.window.requestedX ≠ window.requestedX ∨
          change.window.requestedY ≠ window.requestedY ∨
          change.window.requestedWidth ≠ window.requestedWidth ∨
          change.window.requestedHeight ≠ window.requestedHeight then serial
      else change.window.geometrySerial }

def scaleEdit (scale : WindowScaleState) (window : LifecycleWindow) :
    LifecycleWindow :=
  { window with scale := scale }

def configureEdit (request : ConfigureWindowRequest) (serial : Nat)
    (window : LifecycleWindow) : LifecycleWindow :=
  let placed : LifecycleWindow := { window with
    requestedX := request.x.getD window.requestedX
    requestedY := request.y.getD window.requestedY
    requestedWidth := request.width.getD window.requestedWidth
    requestedHeight := request.height.getD window.requestedHeight
    requestedBorderWidth :=
      request.borderWidth.getD window.requestedBorderWidth
    geometrySerial := serial }
  match request.stackMode with
  | none => placed
  | some mode =>
      { placed with
        stackSibling := request.sibling.getD 0
        stackMode := if mode = .above then .above else .below
        stackSerial := serial }

def mapEdit (mapped : Bool) (serial : Nat) (window : LifecycleWindow) :
    LifecycleWindow :=
  { window with mapRequested := mapped, mapSerial := serial }

def interactiveEdit (begun : InteractionBeginResult) (serial : Nat)
    (window : LifecycleWindow) : LifecycleWindow :=
  let intent : LifecycleWindow :=
    if begun.focus then { window with focusSerial := serial } else window
  if begun.raise then
    { intent with
      stackSerial := serial
      stackSibling := 0
      stackMode := .above }
  else intent

def geometryEdit (request : InteractiveGeometry) (serial : Nat)
    (window : LifecycleWindow) : LifecycleWindow :=
  { window with
    requestedX := request.x
    requestedY := request.y
    requestedWidth := request.width
    requestedHeight := request.height
    geometrySerial := serial }

/-! ## Proposals -/

namespace LifecycleSnapshot

def editWindow (snapshot : LifecycleSnapshot) (id : Nat)
    (edit : LifecycleWindow → LifecycleWindow) : Option LifecycleSnapshot :=
  (snapshot.windows[id]?).map fun window =>
    { snapshot with windows := snapshot.windows.insert id (edit window) }

/-- The snapshot of the server once the window has been created, unless its
identifier is taken. -/
def proposeCreateLifecycle (server : LifecycleSnapshot)
    (created : LifecycleWindow) (creationSerial : Nat) :
    Option LifecycleSnapshot :=
  if server.windows.contains created.xid then none
  else
    some { server with
      windows := server.windows.insert created.xid
        { created with creationSerial := creationSerial }
      rootOrder := server.rootOrder ++ [created.xid] }

def proposeDestroyLifecycle (server : LifecycleSnapshot) (xid : Nat) :
    Option LifecycleSnapshot :=
  if server.windows.contains xid then some (server.eraseWindow xid) else none

end LifecycleSnapshot

/-! ## The producers -/

def deferLifecycle (committed server : LifecycleSnapshot)
    (client sequence token serial : Nat) (mutation : DeferredMutation) :
    Option LifecycleOperation :=
  let operation (kind : LifecycleOperationKind)
      (proposed : LifecycleSnapshot) : LifecycleOperation := {
    token := token
    clientId := client
    requestSequence := sequence
    kind := kind
    window := mutation.window
    proposed := proposed }
  match mutation with
  | .create created =>
      (server.proposeCreateLifecycle created serial).map (operation .create)
  | .destroy window =>
      (server.proposeDestroyLifecycle window).map (operation .destroy)
  | .overrideRedirect window value =>
      (committed.editWindow window (overrideEdit value)).map
        (operation .overrideChange)
  | .policy change =>
      (committed.editWindow change.window.xid (policyEdit change serial)).map
        (operation .policyChange)
  | .scale window scale =>
      (committed.editWindow window (scaleEdit scale)).map
        (operation .scaleChange)
  | .configure window request =>
      (committed.editWindow window (configureEdit request serial)).map
        (operation .configure)
  | .map window mapped =>
      (committed.editWindow window (mapEdit mapped serial)).map
        (operation (if mapped then .map else .unmap))

def beginInteractivePointer (committed : LifecycleSnapshot)
    (token serial target : Nat) (begun : InteractionBeginResult) :
    Option LifecycleOperation :=
  (committed.editWindow target (interactiveEdit begun serial)).map
    fun proposed =>
      { token := token, kind := .focus, window := target
        proposed := proposed }

def updateInteractiveGeometry (committed : LifecycleSnapshot)
    (token serial target : Nat) (request : InteractiveGeometry) :
    Option LifecycleOperation :=
  (committed.editWindow target (geometryEdit request serial)).map
    fun proposed =>
      { token := token, kind := .configure, window := target
        proposed := proposed }

def handleInteractiveClose (server : LifecycleSnapshot)
    (token target : Nat) : Option LifecycleOperation :=
  (server.proposeDestroyLifecycle target).map fun proposed =>
    { token := token, kind := .destroy, window := target
      proposed := proposed }

def cancelClientLifecycle (committed : LifecycleSnapshot)
    (client token : Nat) (plan : ClientCleanupPlan) :
    Option LifecycleOperation :=
  if plan.affectsPolicy then
    some {
      token := token
      clientId := client
      kind := .clientCleanup
      window := plan.roots.headD 0
      proposed :=
        plan.postorder.foldl LifecycleSnapshot.eraseWindow committed }
  else none

inductive LifecycleProducer
  | deferLifecycle (client sequence : Nat) (mutation : DeferredMutation)
  | beginInteractivePointer (target : Nat) (begun : InteractionBeginResult)
  | updateInteractiveGeometry (target : Nat) (request : InteractiveGeometry)
  | handleInteractiveClose (target : Nat)
  | cancelClientLifecycle (client : Nat) (plan : ClientCleanupPlan)
deriving DecidableEq

/-- The operation a producer builds while the server shows the committed
snapshot. -/
def LifecycleProducer.operation (committed : LifecycleSnapshot)
    (token serial : Nat) : LifecycleProducer → Option LifecycleOperation
  | .deferLifecycle client sequence mutation =>
      Lifecycle.deferLifecycle committed committed client sequence token
        serial mutation
  | .beginInteractivePointer target begun =>
      Lifecycle.beginInteractivePointer committed token serial target begun
  | .updateInteractiveGeometry target request =>
      Lifecycle.updateInteractiveGeometry committed token serial target
        request
  | .handleInteractiveClose target =>
      Lifecycle.handleInteractiveClose committed token target
  | .cancelClientLifecycle client plan =>
      Lifecycle.cancelClientLifecycle committed client token plan

/-! ## What the rebase onto the same snapshot keeps -/

/-- Rebased onto the snapshot it was built from, the operation still has every
change of its proposal. -/
def KeepsIntent (committed : LifecycleSnapshot)
    (operation : LifecycleOperation) : Prop :=
  ∃ rebased, rebaseLifecycleOperation committed operation = some rebased ∧
    (∀ id field,
      operation.proposed.read id field ≠ committed.read id field →
        rebased.read id field = operation.proposed.read id field) ∧
    (operation.proposed.rootOrder ≠ committed.rootOrder →
      rebased.rootOrder = operation.proposed.rootOrder) ∧
    (operation.proposed.focusedWindow ≠ committed.focusedWindow →
      rebased.focusedWindow = operation.proposed.focusedWindow)

theorem KeepsIntent.of_same {committed : LifecycleSnapshot}
    {operation : LifecycleOperation}
    (same : rebaseLifecycleOperation committed operation =
      some operation.proposed) : KeepsIntent committed operation :=
  ⟨operation.proposed, same, fun _ _ _ => rfl, fun _ => rfl, fun _ => rfl⟩

/-- An edit survives exactly when its kind copies every field it changed. -/
theorem keepsIntent_edit_iff {committed : LifecycleSnapshot}
    {operation : LifecycleOperation} {window : LifecycleWindow}
    {edit : LifecycleWindow → LifecycleWindow}
    (edits : operation.kind.edits = true)
    (found : committed.windows[operation.window]? = some window)
    (proposed : operation.proposed = { committed with
      windows := committed.windows.insert operation.window (edit window) }) :
    KeepsIntent committed operation ↔
      ∀ field, operation.kind.copies field = false →
        (edit window).read field = window.read field := by
  obtain ⟨result, built⟩ : ∃ result,
      rebaseWindow operation.kind (edit window) window = some result := by
    rw [← Option.isSome_iff_exists, rebaseWindow_isSome, edits]
  have rebased : rebaseLifecycleOperation committed operation =
      some { committed with
        windows := committed.windows.insert operation.window result } := by
    have source : operation.proposed.windows[operation.window]? =
        some (edit window) := by
      simp [proposed]
    unfold rebaseLifecycleOperation
    rw [source, found]
    cases hkind : operation.kind <;>
      simp_all [LifecycleOperationKind.edits]
  have read := rebaseWindow_read built
  constructor
  · rintro ⟨other, same, fields, _⟩ field dropped
    obtain rfl := Option.some.inj (rebased.symm.trans same)
    by_contra changed
    have kept := fields operation.window field (by
      simpa [proposed, LifecycleSnapshot.read, found] using changed)
    rw [proposed] at kept
    simp [LifecycleSnapshot.read, read field, dropped] at kept
    exact changed kept.symm
  · intro copied
    refine ⟨_, rebased, fun id field changed => ?_, ?_, ?_⟩
    · rw [proposed] at changed ⊢
      by_cases own : operation.window = id
      · subst own
        simp only [LifecycleSnapshot.read,
          Std.ExtTreeMap.getElem?_insert_self, Option.map_some, read field]
        by_cases taken : operation.kind.copies field = true
        · rw [if_pos taken]
        · rw [if_neg taken, copied field (by simpa using taken)]
      · simp [LifecycleSnapshot.read, KeyMap.lookup_insert, own]
    · intro changed
      simp [proposed] at changed
    · intro changed
      simp [proposed] at changed

theorem LifecycleSnapshot.editWindow_some {snapshot edited : LifecycleSnapshot}
    {id : Nat} {edit : LifecycleWindow → LifecycleWindow}
    (success : snapshot.editWindow id edit = some edited) :
    ∃ window, snapshot.windows[id]? = some window ∧
      edited = { snapshot with
        windows := snapshot.windows.insert id (edit window) } := by
  obtain ⟨window, found, same⟩ := Option.map_eq_some_iff.mp success
  exact ⟨window, found, same.symm⟩

/-- A producer whose edit stays within the fields of its kind keeps its
intent. -/
theorem keepsIntent_of_editWindow {committed : LifecycleSnapshot}
    {operation : LifecycleOperation}
    {edit : LifecycleWindow → LifecycleWindow}
    (edits : operation.kind.edits = true)
    (within : ∀ window field, operation.kind.copies field = false →
      (edit window).read field = window.read field)
    (built : committed.editWindow operation.window edit =
      some operation.proposed) : KeepsIntent committed operation := by
  obtain ⟨window, found, proposed⟩ :=
    LifecycleSnapshot.editWindow_some built
  exact (keepsIntent_edit_iff edits found proposed).mpr (within window)

theorem overrideEdit_within (value : Bool) (window : LifecycleWindow)
    (field : WindowField)
    (other : LifecycleOperationKind.overrideChange.copies field = false) :
    (overrideEdit value window).read field = window.read field := by
  cases field <;>
    first | rfl | simp [LifecycleOperationKind.copies] at other

theorem policyEdit_within (change : DeferredPolicyMutation) (serial : Nat)
    (window : LifecycleWindow) (field : WindowField)
    (other : LifecycleOperationKind.policyChange.copies field = false) :
    (policyEdit change serial window).read field = window.read field := by
  cases field <;>
    first | rfl | simp [LifecycleOperationKind.copies] at other

theorem scaleEdit_within (scale : WindowScaleState)
    (window : LifecycleWindow) (field : WindowField)
    (other : LifecycleOperationKind.scaleChange.copies field = false) :
    (scaleEdit scale window).read field = window.read field := by
  cases field <;>
    first | rfl | simp [LifecycleOperationKind.copies] at other

theorem configureEdit_within (request : ConfigureWindowRequest)
    (serial : Nat) (window : LifecycleWindow) (field : WindowField)
    (other : LifecycleOperationKind.configure.copies field = false) :
    (configureEdit request serial window).read field = window.read field := by
  unfold configureEdit
  cases request.stackMode <;> cases field <;>
    first | rfl | simp [LifecycleOperationKind.copies] at other

theorem mapEdit_within (mapped : Bool) (serial : Nat)
    (window : LifecycleWindow) (field : WindowField)
    (other : LifecycleOperationKind.map.copies field = false) :
    (mapEdit mapped serial window).read field = window.read field := by
  cases field <;>
    first | rfl | simp [LifecycleOperationKind.copies] at other

theorem geometryEdit_within (request : InteractiveGeometry) (serial : Nat)
    (window : LifecycleWindow) (field : WindowField)
    (other : LifecycleOperationKind.configure.copies field = false) :
    (geometryEdit request serial window).read field = window.read field := by
  cases field <;>
    first | rfl | simp [LifecycleOperationKind.copies] at other

/-- The raise of an interaction stays within a `Focus` only when it changes
nothing. -/
theorem interactiveEdit_within_iff (begun : InteractionBeginResult)
    (serial : Nat) (window : LifecycleWindow) :
    (∀ field, LifecycleOperationKind.focus.copies field = false →
      (interactiveEdit begun serial window).read field =
        window.read field) ↔
      (begun.raise = true → window.stackSerial = serial ∧
        window.stackSibling = 0 ∧ window.stackMode = .above) := by
  unfold interactiveEdit
  cases hraise : begun.raise with
  | false =>
      simp only [Bool.false_eq_true, if_false, false_imp_iff, iff_true]
      intro field other
      cases begun.focus <;> cases field <;>
        first | rfl | simp [LifecycleOperationKind.copies] at other
  | true =>
      simp only [if_true, true_imp_iff]
      constructor
      · intro within
        exact ⟨(within .stackSerial rfl).symm, (within .stackSibling rfl).symm,
          (within .stackMode rfl).symm⟩
      · rintro ⟨sameSerial, sameSibling, sameMode⟩ field other
        cases begun.focus <;> cases field <;>
          first
          | rfl
          | exact sameSerial.symm
          | exact sameSibling.symm
          | exact sameMode.symm
          | simp [LifecycleOperationKind.copies] at other

theorem keepsIntent_create {committed : LifecycleSnapshot}
    {operation : LifecycleOperation} {created : LifecycleWindow}
    {serial : Nat} (kind : operation.kind = .create)
    (own : operation.window = created.xid)
    (proposed : committed.proposeCreateLifecycle created serial =
      some operation.proposed) : KeepsIntent committed operation := by
  unfold LifecycleSnapshot.proposeCreateLifecycle at proposed
  split at proposed
  · simp at proposed
  · rename_i fresh
    have absent : committed.windows[created.xid]? = none := by
      apply Std.ExtTreeMap.getElem?_eq_none
      rwa [Std.ExtTreeMap.mem_iff_contains]
    have same := Option.some.inj proposed
    apply KeepsIntent.of_same
    simp [rebaseLifecycleOperation, kind, own, ← same, absent]

theorem keepsIntent_destroy {committed : LifecycleSnapshot}
    {operation : LifecycleOperation} (kind : operation.kind = .destroy)
    (proposed : committed.proposeDestroyLifecycle operation.window =
      some operation.proposed) : KeepsIntent committed operation := by
  unfold LifecycleSnapshot.proposeDestroyLifecycle at proposed
  split at proposed
  · rename_i present
    obtain ⟨window, found⟩ := KeyMap.mem_iff.mp
      (Std.ExtTreeMap.mem_iff_contains.mpr present)
    apply KeepsIntent.of_same
    simp only [rebaseLifecycleOperation, kind, found]
    exact proposed
  · simp at proposed

/-- A cleanup also drops identifiers that have no window record, and those the
rebase does not look at. -/
theorem keepsIntent_cleanup_iff {committed : LifecycleSnapshot}
    {operation : LifecycleOperation} {ids : List Nat}
    (kind : operation.kind = .clientCleanup)
    (proposed : operation.proposed =
      ids.foldl LifecycleSnapshot.eraseWindow committed) :
    KeepsIntent committed operation ↔
      (∀ id ∈ ids, id ∈ committed.rootOrder → id ∈ committed.windows) ∧
        (committed.focusedWindow ∈ ids →
          committed.focusedWindow = committed.rootWindow ∨
            committed.focusedWindow ∈ committed.windows) := by
  have erased : operation.proposed =
      committed.eraseUnless (fun _ => false) ids := by
    rw [proposed]
    rfl
  have kept : ∀ id, operation.proposed.windows.contains id = true ↔
      id ∈ committed.windows ∧ id ∉ ids := by
    intro id
    rw [← Std.ExtTreeMap.mem_iff_contains,
      Std.ExtTreeMap.mem_iff_isSome_getElem?, erased,
      LifecycleSnapshot.eraseUnless_lookup,
      Std.ExtTreeMap.mem_iff_isSome_getElem?]
    by_cases listed : id ∈ ids <;> simp [listed]
  have dropped : ∀ id, id ∈ committed.windows →
      (operation.proposed.windows.contains id = false ↔ id ∈ ids) := by
    intro id present
    rw [← Bool.not_eq_true, kept]
    simp [present]
  have rebased : rebaseLifecycleOperation committed operation =
      some (committed.eraseUnless
        (fun id => operation.proposed.windows.contains id)
        committed.windows.keys) := by
    simp [rebaseLifecycleOperation, kind, LifecycleSnapshot.eraseUnless]
  have rootOrder : (committed.eraseUnless
        (fun id => operation.proposed.windows.contains id)
        committed.windows.keys).rootOrder =
      committed.rootOrder.filter
        fun id => !(id ∈ committed.windows && id ∈ ids) := by
    rw [LifecycleSnapshot.eraseUnless_rootOrder]
    refine List.filter_congr fun id _ => ?_
    by_cases present : id ∈ committed.windows
    · by_cases listed : id ∈ ids
      · simp [present, listed, (dropped id present).mpr listed]
      · have stays := mt (dropped id present).mp listed
        simp [present, listed, stays]
    · simp [present]
  have focus : (committed.eraseUnless
        (fun id => operation.proposed.windows.contains id)
        committed.windows.keys).focusedWindow =
      if committed.focusedWindow ∈ committed.windows ∧
          committed.focusedWindow ∈ ids then committed.rootWindow
      else committed.focusedWindow := by
    rw [LifecycleSnapshot.eraseUnless_focusedWindow]
    refine if_congr ?_ rfl rfl
    rw [Std.ExtTreeMap.mem_keys]
    exact and_congr_right fun present => dropped _ present
  have proposedOrder : operation.proposed.rootOrder =
      committed.rootOrder.filter fun id => !decide (id ∈ ids) := by
    rw [erased, LifecycleSnapshot.eraseUnless_rootOrder]
    simp
  have proposedFocus : operation.proposed.focusedWindow =
      if committed.focusedWindow ∈ ids then committed.rootWindow
      else committed.focusedWindow := by
    rw [erased, LifecycleSnapshot.eraseUnless_focusedWindow]
    simp
  constructor
  · rintro ⟨other, same, _, sameOrder, sameFocus⟩
    obtain rfl := Option.some.inj (rebased.symm.trans same)
    refine ⟨fun id listed ordered => ?_, fun listed => ?_⟩
    · have gone : id ∉ operation.proposed.rootOrder := by
        simp [proposedOrder, listed]
      have changed : operation.proposed.rootOrder ≠ committed.rootOrder :=
        fun kept => gone (kept ▸ ordered)
      rw [← sameOrder changed, rootOrder] at gone
      simpa [ordered, listed] using gone
    · by_contra neither
      simp only [not_or] at neither
      rw [if_pos listed] at proposedFocus
      have fallen := sameFocus (by
        rw [proposedFocus]
        exact Ne.symm neither.1)
      rw [focus, proposedFocus, if_neg fun both => neither.2 both.1] at fallen
      exact neither.1 fallen
  · rintro ⟨ordered, focused⟩
    refine ⟨_, rebased, fun id field _ => ?_, fun _ => ?_, fun _ => ?_⟩
    · rw [erased, LifecycleSnapshot.read, LifecycleSnapshot.read,
        LifecycleSnapshot.eraseUnless_lookup,
        LifecycleSnapshot.eraseUnless_lookup, ← erased]
      by_cases present : id ∈ committed.windows
      · simp [present, dropped id present]
      · simp [present]
    · rw [rootOrder, proposedOrder]
      refine List.filter_congr fun id member => ?_
      by_cases listed : id ∈ ids
      · simp [listed, ordered id listed member]
      · simp [listed]
    · rw [focus, proposedFocus]
      by_cases listed : committed.focusedWindow ∈ ids
      · rcases focused listed with root | present
        · simp [← root]
        · simp [listed, present]
      · simp [listed]

/-! ## Every producer -/

/-- The producer files each of its changes under a kind that carries it: an
interaction does not raise, and a cleanup names only windows with a record
among those it takes out of the root order or the focus. -/
def LifecycleProducer.Files (committed : LifecycleSnapshot) (serial : Nat) :
    LifecycleProducer → Prop
  | .beginInteractivePointer target begun =>
      begun.raise = true → ∀ window, committed.windows[target]? = some window →
        window.stackSerial = serial ∧ window.stackSibling = 0 ∧
          window.stackMode = .above
  | .cancelClientLifecycle _ plan =>
      (∀ id ∈ plan.postorder, id ∈ committed.rootOrder →
        id ∈ committed.windows) ∧
      (committed.focusedWindow ∈ plan.postorder →
        committed.focusedWindow = committed.rootWindow ∨
          committed.focusedWindow ∈ committed.windows)
  | _ => True

theorem deferLifecycle_keepsIntent {committed : LifecycleSnapshot}
    {client sequence token serial : Nat} {mutation : DeferredMutation}
    {operation : LifecycleOperation}
    (built : deferLifecycle committed committed client sequence token serial
      mutation = some operation) : KeepsIntent committed operation := by
  cases mutation with
  | create created =>
      obtain ⟨proposed, success, rfl⟩ := Option.map_eq_some_iff.mp built
      exact keepsIntent_create rfl rfl success
  | destroy window =>
      obtain ⟨proposed, success, rfl⟩ := Option.map_eq_some_iff.mp built
      exact keepsIntent_destroy rfl success
  | overrideRedirect window value =>
      obtain ⟨proposed, success, rfl⟩ := Option.map_eq_some_iff.mp built
      exact keepsIntent_of_editWindow rfl (overrideEdit_within value) success
  | policy change =>
      obtain ⟨proposed, success, rfl⟩ := Option.map_eq_some_iff.mp built
      exact keepsIntent_of_editWindow rfl (policyEdit_within change serial)
        success
  | scale window scale =>
      obtain ⟨proposed, success, rfl⟩ := Option.map_eq_some_iff.mp built
      exact keepsIntent_of_editWindow rfl (scaleEdit_within scale) success
  | configure window request =>
      obtain ⟨proposed, success, rfl⟩ := Option.map_eq_some_iff.mp built
      exact keepsIntent_of_editWindow rfl
        (configureEdit_within request serial) success
  | map window mapped =>
      obtain ⟨proposed, success, rfl⟩ := Option.map_eq_some_iff.mp built
      cases mapped with
      | true =>
          exact keepsIntent_of_editWindow rfl (mapEdit_within true serial)
            success
      | false =>
          exact keepsIntent_of_editWindow rfl
            (fun window field other => mapEdit_within false serial window field
              (by cases field <;> simp_all [LifecycleOperationKind.copies]))
            success

theorem beginInteractivePointer_keepsIntent_iff
    {committed : LifecycleSnapshot} {token serial target : Nat}
    {begun : InteractionBeginResult} {operation : LifecycleOperation}
    (built : beginInteractivePointer committed token serial target begun =
      some operation) :
    KeepsIntent committed operation ↔
      (LifecycleProducer.beginInteractivePointer target begun).Files committed
        serial := by
  obtain ⟨proposed, success, rfl⟩ := Option.map_eq_some_iff.mp built
  obtain ⟨window, found, rfl⟩ := LifecycleSnapshot.editWindow_some success
  rw [keepsIntent_edit_iff rfl found rfl]
  refine (interactiveEdit_within_iff begun serial window).trans ?_
  simp [LifecycleProducer.Files, found]

/-- The rebase of an operation onto the snapshot that its producer read keeps
all of the proposal exactly when the producer filed its changes under a kind
that carries them. -/
theorem keeps_intent_iff (committed : LifecycleSnapshot)
    (token serial : Nat) (producer : LifecycleProducer)
    (operation : LifecycleOperation)
    (built : producer.operation committed token serial = some operation) :
    KeepsIntent committed operation ↔ producer.Files committed serial := by
  cases producer with
  | deferLifecycle client sequence mutation =>
      exact iff_of_true (deferLifecycle_keepsIntent built) trivial
  | beginInteractivePointer target begun =>
      exact beginInteractivePointer_keepsIntent_iff built
  | updateInteractiveGeometry target request =>
      refine iff_of_true ?_ trivial
      obtain ⟨proposed, success, rfl⟩ := Option.map_eq_some_iff.mp built
      exact keepsIntent_of_editWindow rfl (geometryEdit_within request serial)
        success
  | handleInteractiveClose target =>
      refine iff_of_true ?_ trivial
      obtain ⟨proposed, success, rfl⟩ := Option.map_eq_some_iff.mp built
      exact keepsIntent_destroy rfl success
  | cancelClientLifecycle client plan =>
      simp only [LifecycleProducer.operation, cancelClientLifecycle] at built
      split at built
      · obtain rfl := Option.some.inj built
        exact keepsIntent_cleanup_iff rfl rfl
      · simp at built

/-! An interaction on one of two windows, with `raise_on_focus`. -/

def raiseCommitted : LifecycleSnapshot where
  windows := (({} : KeyMap LifecycleWindow).insert 16
    { xid := 16, parent := 1, mapRequested := true, managed := true }).insert
      32 { xid := 32, parent := 1, mapRequested := true, managed := true }
  rootOrder := [16, 32]

def raiseOperation (begun : InteractionBeginResult) : LifecycleOperation :=
  (beginInteractivePointer raiseCommitted 1 7 16 begun).getD {}

theorem keeps_intent_focus :
    KeepsIntent raiseCommitted (raiseOperation { focus := true }) ↔
      (LifecycleProducer.beginInteractivePointer 16
        { focus := true }).Files raiseCommitted 7 :=
  keeps_intent_iff raiseCommitted 1 7
    (.beginInteractivePointer 16 { focus := true }) _ (by decide)

/-- The raise is in the proposal and not in the rebased snapshot. -/
theorem interactive_raise_dropped :
    (LifecycleProducer.beginInteractivePointer 16
        { focus := true, raise := true }).operation raiseCommitted 1 7 =
      some (raiseOperation { focus := true, raise := true }) ∧
    ¬KeepsIntent raiseCommitted
      (raiseOperation { focus := true, raise := true }) := by
  refine ⟨by decide, ?_⟩
  rintro ⟨rebased, success, fields, _⟩
  have kept := fields 16 .stackSerial (by decide)
  have read := rebase_read success 16 .stackSerial
  rw [kept] at read
  revert read
  decide

end Glasswyrm.Lifecycle
