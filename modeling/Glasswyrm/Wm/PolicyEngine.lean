import Glasswyrm.Wm.Placement
import Glasswyrm.Wm.MultiOutput
import Glasswyrm.Wm.Focus
import Glasswyrm.Wm.Ordering
import Glasswyrm.Wm.PolicyHash

namespace Glasswyrm.Wm

open Lifecycle Output

/-- The geometry and output of every window, by the profile in use. -/
def applyGeometryProfile (raw : RawState) : KeyMap WindowState :=
  if raw.outputs.isEmpty then
    assignOutputs raw (applyPlacementAndFullscreenGeometry raw)
  else applyMultiOutputGeometry raw

/-- The windows of the policy with their stacking order. -/
def evaluateWindows (raw : RawState) : StackedWindows :=
  applyStackingAndTransientOrdering raw
    (applyFocusAndVisibility raw (applyGeometryProfile raw))

/-- The policy of a state before it is hashed. -/
def unhashedPolicy (raw : RawState) (generation : Nat) : PolicyState :=
  let stacked := evaluateWindows raw
  { generation
    context := raw.context
    outputs := if raw.outputs.isEmpty then ∅ else raw.outputs
    outputHints := if raw.outputs.isEmpty then ∅ else raw.outputHints
    windows := stacked.windows
    outputOrder := stacked.outputOrder }

def evaluate (raw : RawState) (generation : Nat) : Evaluation :=
  if validate raw ≠ .none then { error := validate raw }
  else if generation = 0 then { error := .invalidWindow }
  else
    let policy := unhashedPolicy raw generation
    { policy := { policy with hash := policyHash policy } }

theorem evaluate_accepted {raw : RawState} {generation : Nat}
    (accepted : (evaluate raw generation).error = .none) :
    validate raw = .none ∧ generation ≠ 0 ∧
      (evaluate raw generation).policy =
        { unhashedPolicy raw generation with
          hash := policyHash (unhashedPolicy raw generation) } := by
  revert accepted
  fun_cases evaluate raw generation with
  | case1 refused => exact fun valid => absurd valid refused
  | case2 valid => exact fun impossible => by cases impossible
  | case3 valid nonzero policy =>
      exact fun _ => ⟨Decidable.not_not.mp valid, nonzero, rfl⟩

end Glasswyrm.Wm
