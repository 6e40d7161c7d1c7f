import Glasswyrm.Library.Bytes
import Glasswyrm.Wm.Policy

namespace Glasswyrm.Wm

open Lifecycle Output Library

/-! The hash of a policy, as the window manager computes it. -/

def windowTypeValue : PolicyWindowType → Nat
  | .unknown => 0
  | .normal => 1
  | .dialog => 2
  | .utility => 3

def transformValue : OutputTransform → Nat
  | .normal => 0
  | .rotate90 => 1
  | .rotate180 => 2
  | .rotate270 => 3
  | .flipped => 4
  | .flipped90 => 5
  | .flipped180 => 6
  | .flipped270 => 7

structure InteractiveBindings where
  moveModifiers : Nat := 8
  resizeModifiers : Nat := 8
  closeModifiers : Nat := 8
  moveButton : Nat := 1
  resizeButton : Nat := 3
  closeKeysym : Nat := 0xffc1
  minimumWidth : Nat := 96
  minimumHeight : Nat := 64
  raiseOnFocus : Bool := true
  consumeWmBindings : Bool := true
deriving DecidableEq, Repr

/-- The characters of a tag; all are below 128. -/
def tagBytes (tag : String) : List UInt8 :=
  tag.toList.map fun character => UInt8.ofNat character.toNat

def hashContext (context : Context) (hash : UInt64) : UInt64 :=
  hash |> hashLittle 4 context.rootWindowId
    |> hashLittle 4 context.workspaceId
    |> hashLittle 8 context.outputId
    |> hashSigned 4 context.workX
    |> hashSigned 4 context.workY
    |> hashLittle 4 context.workWidth
    |> hashLittle 4 context.workHeight
    |> hashLittle 4 context.flags

def hashRectangle (rectangle : Rectangle) (hash : UInt64) : UInt64 :=
  hash |> hashSigned 4 rectangle.x
    |> hashSigned 4 rectangle.y
    |> hashLittle 4 rectangle.width
    |> hashLittle 4 rectangle.height

def hashOutput (output : OutputContext) (hash : UInt64) : UInt64 :=
  hash |> hashLittle 8 output.outputId
    |> hashRectangle output.logical
    |> hashRectangle output.work
    |> hashLittle 4 output.scaleNumerator
    |> hashLittle 4 output.scaleDenominator
    |> hashLittle 1 (transformValue output.transform)
    |> hashLittle 1 output.enabled.toNat
    |> hashLittle 1 output.primary.toNat
    |> hashLittle 4 output.flags

def hashHint (hint : WindowOutputHint) (hash : UInt64) : UInt64 :=
  hash |> hashLittle 4 hint.windowId
    |> hashLittle 8 hint.previousOutputId
    |> hashLittle 8 hint.preferredOutputId
    |> hashLittle 4 hint.flags

def encodePolicyWindowState (state : WindowState) : List UInt8 :=
  littleBytes 4 state.windowId ++
    littleBytes 4 state.transientFor ++
    littleBytes 4 state.workspaceId ++
    littleBytes 4 0 ++
    littleBytes 8 state.outputId ++
    littleBytes 4 (unsigned 4 state.finalX) ++
    littleBytes 4 (unsigned 4 state.finalY) ++
    littleBytes 4 state.finalWidth ++
    littleBytes 4 state.finalHeight ++
    littleBytes 4 (unsigned 4 state.stacking) ++
    littleBytes 2 (windowTypeValue state.windowType) ++
    littleBytes 2 state.appliedState.value ++
    littleBytes 1 state.visible.toNat ++
    littleBytes 1 state.focused.toNat ++
    littleBytes 1 state.managed.toNat ++
    littleBytes 1 state.decorationEligible.toNat ++
    littleBytes 1 state.overrideRedirect.toNat ++
    littleBytes 1 state.attentionRequested.toNat ++
    littleBytes 1 state.fullscreenEligible.value ++
    littleBytes 1 state.directScanoutEligible.value ++
    littleBytes 4 0 ++
    littleBytes 4 0

/-- The outputs and the hints of the multi-output profile. -/
def hashOutputs (policy : PolicyState) (hash : UInt64) : UInt64 :=
  let outputs := policy.outputs.toList.foldl
    (fun hash entry => hashOutput entry.2 hash)
    (hashLittle 4 policy.outputs.size hash)
  policy.outputHints.toList.foldl (fun hash entry => hashHint entry.2 hash)
    (hashLittle 4 policy.outputHints.size outputs)

def policyHash (policy : PolicyState) : UInt64 :=
  let tag := if policy.outputs.isEmpty then "glasswyrm-policy-v1"
    else "glasswyrm-policy-v3"
  let context := hashBytes (tagBytes tag) hashBasis
    |> hashLittle 8 policy.generation
    |> hashContext policy.context
  let outputs :=
    if policy.outputs.isEmpty then context else hashOutputs policy context
  policy.outputOrder.foldl
    (fun hash id => hashBytes
      (encodePolicyWindowState (policy.windows[id]?.getD {})) hash) outputs

def interactivePolicyHash (policy : PolicyState)
    (bindings : InteractiveBindings) : UInt64 :=
  let tag := if policy.outputs.isEmpty then "glasswyrm-policy-v2"
    else "glasswyrm-policy-v3"
  hashBytes (tagBytes tag) hashBasis
    |> hashLittle 8 policy.hash.toNat
    |> hashLittle 2 bindings.moveModifiers
    |> hashLittle 2 bindings.resizeModifiers
    |> hashLittle 2 bindings.closeModifiers
    |> hashLittle 1 bindings.moveButton
    |> hashLittle 1 bindings.resizeButton
    |> hashLittle 4 bindings.closeKeysym
    |> hashLittle 4 bindings.minimumWidth
    |> hashLittle 4 bindings.minimumHeight
    |> hashLittle 1 bindings.raiseOnFocus.toNat
    |> hashLittle 1 bindings.consumeWmBindings.toNat

end Glasswyrm.Wm
