import Glasswyrm.Library.Run
import Glasswyrm.Lifecycle.Fields
import Glasswyrm.Lifecycle.Projection
import Glasswyrm.Server.OutputSceneProjection

namespace Glasswyrm.Lifecycle

open Output Wm
open Compositor (SurfaceScaleMode)
open Server (SurfaceOutputProjection projectSurfaceOutputs)

/-! How the server reads the window manager's answer: `apply_policy_result`
checks the answer window by window and writes it into the snapshot. -/

/-- The answer for one window as it stands on the wire: the enumerations and
flags are still numbers. -/
structure PolicyWindowState where
  windowId : Nat
  transientFor : Nat := 0
  workspaceId : Nat
  outputId : Nat
  finalX : Int
  finalY : Int
  finalWidth : Nat
  finalHeight : Nat
  stacking : Int
  windowType : Nat
  appliedState : Nat
  visible : Nat
  focused : Nat
  managed : Nat
  decorationEligible : Nat
  overrideRedirect : Nat
  attentionRequested : Nat
  fullscreenEligible : Nat
  directScanoutEligible : Nat
  flags : Nat := 0
deriving DecidableEq, Repr

structure PolicyBindingsUpsert where
  moveModifiers : Nat
  resizeModifiers : Nat
  closeModifiers : Nat
  moveButton : Nat
  resizeButton : Nat
  closeKeysym : Nat
  minimumWidth : Nat
  minimumHeight : Nat
  raiseOnFocus : Nat
  consumeWmBindings : Nat
deriving DecidableEq, Repr

structure PolicySnapshotResult where
  generation : Nat := 0
  hash : UInt64 := 0
  windows : List PolicyWindowState
  bindings : Option PolicyBindingsUpsert := none
deriving DecidableEq, Repr

/-! ## Outputs of a surface -/

def scaleMode (scale : WindowScaleState) : SurfaceScaleMode :=
  if scale.presentation = .scaleAwareActive then .scaledPixmap else .legacy

def clientScale (scale : WindowScaleState) : Nat :=
  if scale.presentation = .scaleAwareActive then scale.acceptedBufferScale
  else 1

def invalidateScaledPixmap (scale : WindowScaleState) : WindowScaleState :=
  if scale.presentation ≠ .scaleAwareActive then scale
  else
    { scale with
      presentation := .scaleAwareAwaitingPixmap
      scaledPixmapStorage := none
      presentationSerial := 0 }

def applyProjectedScale (window : LifecycleWindow)
    (projected : SurfaceOutputProjection) : LifecycleWindow :=
  { window with
    assignedOutputId := projected.primaryOutputId
    outputMemberships := projected.outputIds
    scale := { window.scale with
      hasOutputState := true
      preferredScaleNumerator := projected.preferredScaleNumerator
      preferredScaleDenominator := projected.preferredScaleDenominator
      layoutGeneration := projected.layoutGeneration } }

/-! ## One window of the answer -/

def uint16Maximum : Nat := 65535
def int16Minimum : Int := -32768
def int16Maximum : Int := 32767

def validOutput (proposed : LifecycleSnapshot)
    (layout : Option OutputLayout) (state : PolicyWindowState) : Bool :=
  match layout with
  | some layout => layout.states[state.outputId]?.any (·.enabled)
  | none => state.outputId = proposed.outputId

def refusesState (proposed : LifecycleSnapshot)
    (layout : Option OutputLayout) (state : PolicyWindowState) : Bool :=
  state.workspaceId ≠ proposed.workspaceId ||
    !validOutput proposed layout state ||
    state.finalWidth = 0 || state.finalHeight = 0 ||
    state.finalWidth > uint16Maximum || state.finalHeight > uint16Maximum ||
    state.finalX < int16Minimum || state.finalX > int16Maximum ||
    state.finalY < int16Minimum || state.finalY > int16Maximum ||
    state.windowType > 3 || state.appliedState < 1 || state.appliedState > 4 ||
    state.visible > 1 || state.focused > 1 || state.managed > 1 ||
    state.decorationEligible > 1 || state.overrideRedirect > 1 ||
    state.attentionRequested > 1 || state.fullscreenEligible > 2 ||
    state.directScanoutEligible > 2

/-- A placed window whose size changes. -/
def resizes (window : LifecycleWindow) (state : PolicyWindowState) : Bool :=
  window.appliedWidth ≠ 0 && window.appliedHeight ≠ 0 &&
    (window.appliedWidth ≠ state.finalWidth ||
      window.appliedHeight ≠ state.finalHeight)

def applyWindowState (window : LifecycleWindow) (state : PolicyWindowState) :
    LifecycleWindow :=
  { window with
    scale :=
      if resizes window state then invalidateScaledPixmap window.scale
      else window.scale
    appliedX := state.finalX
    appliedY := state.finalY
    appliedWidth := state.finalWidth
    appliedHeight := state.finalHeight
    stacking := state.stacking
    policyVisible := state.visible ≠ 0
    focused := state.focused ≠ 0
    windowType := state.windowType
    appliedState := state.appliedState
    managed := state.managed ≠ 0
    decorationEligible := state.decorationEligible ≠ 0
    overrideRedirect := state.overrideRedirect ≠ 0
    attentionRequested := state.attentionRequested ≠ 0
    fullscreenEligible := state.fullscreenEligible
    directScanoutEligible := state.directScanoutEligible }

/-- The window after the answer, with its outputs when there is a layout. -/
def applyPolicyWindow (layout : Option OutputLayout)
    (window : LifecycleWindow) (state : PolicyWindowState) :
    Option LifecycleWindow :=
  let applied := applyWindowState window state
  match layout with
  | none => some applied
  | some layout =>
      (projectSurfaceOutputs layout state.outputId state.finalX state.finalY
        state.finalWidth state.finalHeight (state.visible ≠ 0)
        (clientScale applied.scale) (scaleMode applied.scale)).map
          (applyProjectedScale applied)

/-! ## The whole answer -/

/-- What the loop over the answer carries. -/
structure PolicyApplication where
  evaluated : LifecycleSnapshot
  visible : List (Int × Nat) := []
deriving DecidableEq

def applyPolicyState (proposed : LifecycleSnapshot)
    (layout : Option OutputLayout) (carried : PolicyApplication)
    (state : PolicyWindowState) : Option PolicyApplication :=
  match carried.evaluated.windows[state.windowId]? with
  | none => none
  | some window =>
      if refusesState proposed layout state then none
      else
        match applyPolicyWindow layout window state with
        | none => none
        | some applied =>
            if state.focused ≠ 0 &&
                (carried.evaluated.focusedWindow ≠ proposed.rootWindow ||
                  state.visible = 0 || state.managed = 0) then none
            else if state.visible = 0 && state.stacking ≠ -1 then none
            else
              some {
                evaluated := { carried.evaluated with
                  windows := carried.evaluated.windows.insert state.windowId
                    applied
                  focusedWindow :=
                    if state.focused ≠ 0 then state.windowId
                    else carried.evaluated.focusedWindow }
                visible :=
                  if state.visible ≠ 0 then
                    carried.visible ++ [(state.stacking, state.windowId)]
                  else carried.visible }

def stackedBefore (left right : Int × Nat) : Prop :=
  left.1 < right.1 ∨ (left.1 = right.1 ∧ left.2 ≤ right.2)

instance : DecidableRel stackedBefore := fun _ _ =>
  inferInstanceAs (Decidable (_ ∨ _))

def stackingConsecutive (visible : List (Int × Nat)) : Bool :=
  visible.zipIdx.all fun (entry, index) => entry.1 = (index : Int)

def applyPolicyResult (proposed : LifecycleSnapshot)
    (result : PolicySnapshotResult) (layout : Option OutputLayout) :
    Option LifecycleSnapshot :=
  if result.windows.length ≠ proposed.windows.size then none
  else
    let start : PolicyApplication := {
      evaluated := { proposed with focusedWindow := proposed.rootWindow } }
    match result.windows.foldlM (applyPolicyState proposed layout) start with
    | none => none
    | some applied =>
        let visible := applied.visible.insertionSort stackedBefore
        if !stackingConsecutive visible then none
        else
          let visibleIds := visible.map (·.2)
          some { applied.evaluated with
            rootOrder :=
              proposed.rootOrder.filter (fun id => !visibleIds.contains id) ++
                visibleIds }

/-! ## What an answer can change -/

/-- The fields that an answer of the policy peer may write. -/
def WindowField.policyApplied : WindowField → Bool
  | .appliedX | .appliedY | .appliedWidth | .appliedHeight | .stacking
  | .policyVisible | .focused | .windowType | .appliedState | .managed
  | .decorationEligible | .overrideRedirect | .attentionRequested
  | .fullscreenEligible | .directScanoutEligible | .assignedOutputId
  | .outputMemberships | .scaleHasOutputState | .scalePreferredNumerator
  | .scalePreferredDenominator | .scaleLayoutGeneration | .scalePresentation
  | .scaledPixmapStorage | .scalePresentationSerial => true
  | _ => false

theorem applyWindowState_read (window : LifecycleWindow)
    (state : PolicyWindowState) {field : WindowField}
    (kept : field.policyApplied = false) :
    (applyWindowState window state).read field = window.read field := by
  cases field <;> first | rfl | simp [WindowField.policyApplied] at kept
  -- the fields of the scale record that an invalidation leaves alone
  all_goals
    simp only [applyWindowState, LifecycleWindow.read, invalidateScaledPixmap]
    split
    · split <;> rfl
    · rfl

theorem applyProjectedScale_read (window : LifecycleWindow)
    (projected : SurfaceOutputProjection) {field : WindowField}
    (kept : field.policyApplied = false) :
    (applyProjectedScale window projected).read field = window.read field := by
  cases field <;> first | rfl | simp [WindowField.policyApplied] at kept

theorem applyPolicyWindow_read {layout : Option OutputLayout}
    {window applied : LifecycleWindow} {state : PolicyWindowState}
    (success : applyPolicyWindow layout window state = some applied)
    {field : WindowField} (kept : field.policyApplied = false) :
    applied.read field = window.read field := by
  unfold applyPolicyWindow at success
  cases layout with
  | none =>
      obtain rfl := Option.some.inj success
      exact applyWindowState_read window state kept
  | some layout =>
      obtain ⟨projected, _, rfl⟩ := Option.map_eq_some_iff.mp success
      rw [applyProjectedScale_read _ _ kept]
      exact applyWindowState_read window state kept

/-- What one accepted entry of the answer does to the snapshot. -/
theorem applyPolicyState_some {proposed : LifecycleSnapshot}
    {layout : Option OutputLayout} {carried next : PolicyApplication}
    {state : PolicyWindowState}
    (success : applyPolicyState proposed layout carried state = some next) :
    ∃ window applied,
      carried.evaluated.windows[state.windowId]? = some window ∧
      applyPolicyWindow layout window state = some applied ∧
      next.evaluated = { carried.evaluated with
        windows := carried.evaluated.windows.insert state.windowId applied
        focusedWindow := next.evaluated.focusedWindow } := by
  unfold applyPolicyState at success
  split at success
  · simp at success
  · rename_i window found
    split at success
    · simp at success
    · split at success
      · simp at success
      · rename_i applied written
        split at success
        · simp at success
        · split at success
          · simp at success
          · obtain rfl := Option.some.inj success
            exact ⟨window, applied, found, written, rfl⟩

/-- What a whole answer leaves as it was: the windows there are, and every
field outside the policy's own. -/
structure PolicyApplication.Keeps (proposed : LifecycleSnapshot)
    (carried : PolicyApplication) : Prop where
  fields : ∀ id (field : WindowField), field.policyApplied = false →
    carried.evaluated.read id field = proposed.read id field
  rootWindow : carried.evaluated.rootWindow = proposed.rootWindow
  workspaceId : carried.evaluated.workspaceId = proposed.workspaceId
  outputId : carried.evaluated.outputId = proposed.outputId

theorem applyPolicyState_keeps {proposed : LifecycleSnapshot}
    {layout : Option OutputLayout} {carried next : PolicyApplication}
    {state : PolicyWindowState} (keeps : carried.Keeps proposed)
    (success : applyPolicyState proposed layout carried state = some next) :
    next.Keeps proposed := by
  obtain ⟨window, applied, found, written, result⟩ :=
    applyPolicyState_some success
  refine ⟨fun id field kept => ?_, ?_, ?_, ?_⟩
  · rw [← keeps.fields id field kept, result]
    by_cases same : state.windowId = id
    · subst same
      simp [LifecycleSnapshot.read, found,
        applyPolicyWindow_read written kept]
    · simp [LifecycleSnapshot.read, KeyMap.lookup_insert, same]
  · rw [result]; exact keeps.rootWindow
  · rw [result]; exact keeps.workspaceId
  · rw [result]; exact keeps.outputId

theorem applyPolicyResult_some {proposed evaluated : LifecycleSnapshot}
    {result : PolicySnapshotResult} {layout : Option OutputLayout}
    (success : applyPolicyResult proposed result layout = some evaluated) :
    result.windows.length = proposed.windows.size ∧
    ∃ applied : PolicyApplication,
      result.windows.foldlM (applyPolicyState proposed layout)
        { evaluated := { proposed with
            focusedWindow := proposed.rootWindow } } = some applied ∧
      stackingConsecutive (applied.visible.insertionSort stackedBefore) =
        true ∧
      evaluated = { applied.evaluated with
        rootOrder := evaluated.rootOrder } := by
  unfold applyPolicyResult at success
  split at success
  · simp at success
  · rename_i complete
    simp only at success
    split at success
    · simp at success
    · rename_i applied finished
      split at success
      · simp at success
      · rename_i consecutive
        obtain rfl := Option.some.inj success
        exact ⟨by simpa using complete, applied, finished,
          by simpa using consecutive, rfl⟩

theorem applyPolicyResult_keeps {proposed evaluated : LifecycleSnapshot}
    {result : PolicySnapshotResult} {layout : Option OutputLayout}
    (success : applyPolicyResult proposed result layout = some evaluated) :
    PolicyApplication.Keeps proposed { evaluated := evaluated } := by
  obtain ⟨_, applied, finished, _, final⟩ := applyPolicyResult_some success
  have keeps : applied.Keeps proposed :=
    Library.foldlM_preserves
      (fun _ _ _ held taken => applyPolicyState_keeps held taken)
      ⟨fun _ _ _ => rfl, rfl, rfl, rfl⟩ finished
  refine ⟨fun id field kept => ?_, ?_, ?_, ?_⟩
  · rw [← keeps.fields id field kept, final]
    rfl
  · rw [final]; exact keeps.rootWindow
  · rw [final]; exact keeps.workspaceId
  · rw [final]; exact keeps.outputId

/-- The answer of the policy peer changes only the fields that are its own. -/
theorem applyPolicyResult_read {proposed evaluated : LifecycleSnapshot}
    {result : PolicySnapshotResult} {layout : Option OutputLayout}
    (success : applyPolicyResult proposed result layout = some evaluated)
    (id : Nat) {field : WindowField} (kept : field.policyApplied = false) :
    evaluated.read id field = proposed.read id field :=
  (applyPolicyResult_keeps success).fields id field kept

end Glasswyrm.Lifecycle
