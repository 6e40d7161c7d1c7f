import Glasswyrm.Library.Records
import Glasswyrm.Lifecycle.Evaluation
import Glasswyrm.Wm.PolicyHash

namespace Glasswyrm.Ipc

open Lifecycle Library

/-! The wire form of the window manager's answer. -/

/-- A flag of the public record as the wire carries it. -/
def flag (value : Nat) : Nat := if value ≠ 0 then 1 else 0

/-- What `make_payload` hands out: bytes that it could read back. -/
def makePayload (encode : α → List UInt8)
    (decode : List UInt8 → Except CodecStatus α) (value : α) :
    Option (List UInt8) :=
  match decode (encode value) with
  | .ok _ => some (encode value)
  | .error _ => none

/-! ## Window states -/

def windowStateWidths : List Nat :=
  [4, 4, 4, 4, 8, 4, 4, 4, 4, 4, 2, 2, 1, 1, 1, 1, 1, 1, 1, 1, 4, 4]

def encodeWindowState (state : PolicyWindowState) : List UInt8 :=
  writeRecord (windowStateWidths.zip
    [state.windowId, state.transientFor, state.workspaceId, 0,
      state.outputId, unsigned 4 state.finalX, unsigned 4 state.finalY,
      state.finalWidth, state.finalHeight, unsigned 4 state.stacking,
      state.windowType, state.appliedState, flag state.visible,
      flag state.focused, flag state.managed, flag state.decorationEligible,
      flag state.overrideRedirect, flag state.attentionRequested,
      state.fullscreenEligible, state.directScanoutEligible, state.flags, 0])

def refusesWindowState (state : PolicyWindowState) (first second : Nat) :
    Bool :=
  state.windowId = 0 || state.workspaceId = 0 || state.outputId = 0 ||
    state.finalWidth = 0 || state.finalHeight = 0 || state.windowType > 3 ||
    state.appliedState < 1 || state.appliedState > 4 || state.visible > 1 ||
    state.focused > 1 || state.managed > 1 || state.decorationEligible > 1 ||
    state.overrideRedirect > 1 || state.attentionRequested > 1 ||
    state.fullscreenEligible > 2 || state.directScanoutEligible > 2 ||
    state.flags ≠ 0 || first ≠ 0 || second ≠ 0

/-- The state that the fields of a record stand for, with the two reserved
fields. -/
def windowStateOf : List Nat → Option (PolicyWindowState × Nat × Nat)
  | [windowId, transientFor, workspaceId, first, outputId, finalX, finalY,
      finalWidth, finalHeight, stacking, windowType, appliedState, visible,
      focused, managed, decorationEligible, overrideRedirect,
      attentionRequested, fullscreenEligible, directScanoutEligible, flags,
      second] =>
      some ({
        windowId, transientFor, workspaceId, outputId
        finalX := signed 4 finalX
        finalY := signed 4 finalY
        finalWidth, finalHeight
        stacking := signed 4 stacking
        windowType, appliedState, visible, focused, managed
        decorationEligible, overrideRedirect, attentionRequested
        fullscreenEligible, directScanoutEligible, flags }, first, second)
  | _ => none

def decodeWindowState (bytes : List UInt8) :
    Except CodecStatus PolicyWindowState :=
  match readRecord windowStateWidths bytes with
  | .error status => .error status
  | .ok values =>
      match windowStateOf values with
      | none => .error .truncated
      | some (state, first, second) =>
          if refusesWindowState state first second then .error .invalidValue
          else .ok state

/-! ## Bindings -/

def bindingsWidths : List Nat := [2, 2, 2, 2, 1, 1, 2, 4, 4, 4, 1, 1, 2, 4]

def encodeBindings (bindings : PolicyBindingsUpsert) : List UInt8 :=
  writeRecord (bindingsWidths.zip
    [bindings.moveModifiers, bindings.resizeModifiers,
      bindings.closeModifiers, 0, bindings.moveButton, bindings.resizeButton,
      0, bindings.closeKeysym, bindings.minimumWidth, bindings.minimumHeight,
      flag bindings.raiseOnFocus, flag bindings.consumeWmBindings, 0, 0])

def coreModifierMask : Nat := 255
def maximumBindingDimension : Nat := 16384

def refusesBindings (bindings : PolicyBindingsUpsert)
    (reserved : List Nat) : Bool :=
  bindings.moveModifiers ||| bindings.resizeModifiers |||
      bindings.closeModifiers > coreModifierMask ||
    bindings.moveButton < 1 || bindings.moveButton > 9 ||
    bindings.resizeButton < 1 || bindings.resizeButton > 9 ||
    bindings.closeKeysym = 0 || bindings.minimumWidth = 0 ||
    bindings.minimumHeight = 0 ||
    bindings.minimumWidth > maximumBindingDimension ||
    bindings.minimumHeight > maximumBindingDimension ||
    bindings.raiseOnFocus > 1 || bindings.consumeWmBindings > 1 ||
    reserved.any (· ≠ 0)

def bindingsOf : List Nat → Option (PolicyBindingsUpsert × List Nat)
  | [moveModifiers, resizeModifiers, closeModifiers, first, moveButton,
      resizeButton, second, closeKeysym, minimumWidth, minimumHeight,
      raiseOnFocus, consumeWmBindings, third, fourth] =>
      some ({
        moveModifiers, resizeModifiers, closeModifiers, moveButton
        resizeButton, closeKeysym, minimumWidth, minimumHeight, raiseOnFocus
        consumeWmBindings }, [first, second, third, fourth])
  | _ => none

def decodeBindings (bytes : List UInt8) :
    Except CodecStatus PolicyBindingsUpsert :=
  match readRecord bindingsWidths bytes with
  | .error status => .error status
  | .ok values =>
      match bindingsOf values with
      | none => .error .truncated
      | some (bindings, reserved) =>
          if refusesBindings bindings reserved then .error .invalidValue
          else .ok bindings

/-! ## Reading back -/

theorem makePayload_some {encode : α → List UInt8}
    {decode : List UInt8 → Except CodecStatus α} {value : α}
    {bytes : List UInt8} (made : makePayload encode decode value = some bytes) :
    bytes = encode value ∧ ∃ read, decode bytes = .ok read := by
  unfold makePayload at made
  split at made
  · rename_i read success
    obtain rfl := Option.some.inj made
    exact ⟨rfl, read, success⟩
  · cases made

theorem decodeWindowState_ok {bytes : List UInt8} {state : PolicyWindowState}
    (success : decodeWindowState bytes = .ok state) :
    ∃ values, readRecord windowStateWidths bytes = .ok values ∧
      windowStateOf values = some (state, 0, 0) ∧ state.flags = 0 := by
  unfold decodeWindowState at success
  split at success
  · cases success
  · rename_i values read
    split at success
    · cases success
    · rename_i found first second fields
      split at success
      · cases success
      · rename_i admitted
        obtain rfl := Except.ok.inj success
        simp only [refusesWindowState, Bool.or_eq_true, decide_eq_true_eq,
          not_or, ne_eq, Decidable.not_not] at admitted
        obtain ⟨⟨⟨_, flags⟩, rfl⟩, rfl⟩ := admitted
        exact ⟨values, read, fields, flags⟩

end Glasswyrm.Ipc
