import Glasswyrm.Ipc.PolicyContract

namespace Glasswyrm.Lifecycle

open Output Wm Library

/-! How the server checks the window manager's answer: the records it decodes
are hashed and compared with the acknowledgement. -/

def validSubmissionProfile (submission : PolicySnapshotSubmission)
    (outputModel : Bool) : Bool :=
  if !outputModel then
    submission.outputs.isEmpty && submission.outputHints.isEmpty
  else
    let outputIds := submission.outputs.map (·.outputId)
    let windowIds := submission.windows.map (·.windowId)
    !submission.outputs.isEmpty && submission.outputs.length ≤ 8 &&
      submission.outputHints.length ≤ submission.windows.length &&
      !outputIds.contains 0 && outputIds.Nodup &&
      submission.outputs.countP (fun output =>
        output.enabled && output.primary) = 1 &&
      (submission.outputHints.map (·.windowId)).Nodup &&
      submission.outputHints.all fun hint =>
        hint.windowId ≠ 0 && windowIds.contains hint.windowId &&
          (hint.previousOutputId = 0 ||
            outputIds.contains hint.previousOutputId) &&
          (hint.preferredOutputId = 0 ||
            outputIds.contains hint.preferredOutputId)

/-! ## Hash -/

def hashPolicyContext (context : Context) (hash : UInt64) : UInt64 :=
  hash |> hashLittle 4 context.rootWindowId
    |> hashLittle 4 context.workspaceId
    |> hashLittle 8 context.outputId
    |> hashSigned 4 context.workX
    |> hashSigned 4 context.workY
    |> hashLittle 4 context.workWidth
    |> hashLittle 4 context.workHeight
    |> hashLittle 4 context.flags

def hashPolicyOutput (output : OutputContext) (hash : UInt64) : UInt64 :=
  hash |> hashLittle 8 output.outputId
    |> hashSigned 4 output.logical.x
    |> hashSigned 4 output.logical.y
    |> hashLittle 4 output.logical.width
    |> hashLittle 4 output.logical.height
    |> hashSigned 4 output.work.x
    |> hashSigned 4 output.work.y
    |> hashLittle 4 output.work.width
    |> hashLittle 4 output.work.height
    |> hashLittle 4 output.scaleNumerator
    |> hashLittle 4 output.scaleDenominator
    |> hashLittle 1 (transformValue output.transform)
    |> hashLittle 1 output.enabled.toNat
    |> hashLittle 1 output.primary.toNat
    |> hashLittle 4 output.flags

def hashPolicyHint (hint : WindowOutputHint) (hash : UInt64) : UInt64 :=
  hash |> hashLittle 4 hint.windowId
    |> hashLittle 8 hint.previousOutputId
    |> hashLittle 8 hint.preferredOutputId
    |> hashLittle 4 hint.flags

/-- The records in the order of their identifiers; `emplace` keeps the first
of each. -/
def recordMap (key : α → Nat) (records : List α) : KeyMap α :=
  records.foldl (fun map record => map.insertIfNew (key record) record) ∅

def hashSubmittedOutputs (submission : PolicySnapshotSubmission)
    (hash : UInt64) : UInt64 :=
  let outputs := recordMap OutputContext.outputId submission.outputs
  let hints := recordMap WindowOutputHint.windowId submission.outputHints
  let hashed := outputs.toList.foldl
    (fun hash entry => hashPolicyOutput entry.2 hash)
    (hashLittle 4 outputs.size hash)
  hints.toList.foldl (fun hash entry => hashPolicyHint entry.2 hash)
    (hashLittle 4 hints.size hashed)

def hashPolicyState (state : PolicyWindowState) (hash : UInt64) : UInt64 :=
  hash |> hashLittle 4 state.windowId
    |> hashLittle 4 state.transientFor
    |> hashLittle 4 state.workspaceId
    |> hashLittle 4 0
    |> hashLittle 8 state.outputId
    |> hashSigned 4 state.finalX
    |> hashSigned 4 state.finalY
    |> hashLittle 4 state.finalWidth
    |> hashLittle 4 state.finalHeight
    |> hashSigned 4 state.stacking
    |> hashLittle 2 state.windowType
    |> hashLittle 2 state.appliedState
    |> hashLittle 1 state.visible
    |> hashLittle 1 state.focused
    |> hashLittle 1 state.managed
    |> hashLittle 1 state.decorationEligible
    |> hashLittle 1 state.overrideRedirect
    |> hashLittle 1 state.attentionRequested
    |> hashLittle 1 state.fullscreenEligible
    |> hashLittle 1 state.directScanoutEligible
    |> hashLittle 4 0
    |> hashLittle 4 0

def hashPolicyBindings (bindings : PolicyBindingsUpsert) (hash : UInt64) :
    UInt64 :=
  hash |> hashLittle 2 bindings.moveModifiers
    |> hashLittle 2 bindings.resizeModifiers
    |> hashLittle 2 bindings.closeModifiers
    |> hashLittle 1 bindings.moveButton
    |> hashLittle 1 bindings.resizeButton
    |> hashLittle 4 bindings.closeKeysym
    |> hashLittle 4 bindings.minimumWidth
    |> hashLittle 4 bindings.minimumHeight
    |> hashLittle 1 bindings.raiseOnFocus
    |> hashLittle 1 bindings.consumeWmBindings

def canonicalPolicyHash (result : PolicySnapshotResult)
    (submission : PolicySnapshotSubmission) (screen : ScreenModel) : UInt64 :=
  let outputModel := !submission.outputs.isEmpty
  let context :=
    hashBytes (tagBytes (if outputModel then "glasswyrm-policy-v3"
      else "glasswyrm-policy-v1")) hashBasis
    |> hashLittle 8 result.generation
    |> hashPolicyContext (policyContext submission screen)
  let outputs :=
    if outputModel then hashSubmittedOutputs submission context else context
  let windows := result.windows.foldl
    (fun hash state => hashPolicyState state hash) outputs
  match result.bindings with
  | none => windows
  | some bindings =>
      hashBytes (tagBytes (if outputModel then "glasswyrm-policy-v3"
        else "glasswyrm-policy-v2")) hashBasis
      |> hashLittle 8 windows.toNat
      |> hashPolicyBindings bindings

/-! ## Decoded records -/

theorem hashSigned_signed (width bits : Nat) (hash : UInt64) :
    hashSigned width (signed width bits) hash = hashLittle width bits hash := by
  rw [hashSigned, unsigned_signed, hashLittle_mod]

/-- A decoded state has the hash of the bytes it was decoded from. -/
theorem hashPolicyState_decoded {bytes : List UInt8}
    {state : PolicyWindowState}
    (decoded : Ipc.decodeWindowState bytes = .ok state) (hash : UInt64) :
    hashPolicyState state hash = hashBytes bytes hash := by
  obtain ⟨values, read, fields, flags⟩ := Ipc.decodeWindowState_ok decoded
  rw [← writeRecord_readRecord read, ← hashFields_eq]
  unfold Ipc.windowStateOf at fields
  split at fields
  · simp only [Option.some.injEq, Prod.mk.injEq] at fields
    obtain ⟨rfl, rfl, rfl⟩ := fields
    simp only [hashPolicyState, hashSigned_signed, hashFields,
      Ipc.windowStateWidths, List.zip_cons_cons, List.zip_nil_right,
      List.foldl_cons, List.foldl_nil] at flags ⊢
    rw [flags]
  · cases fields

end Glasswyrm.Lifecycle
