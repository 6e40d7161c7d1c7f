import Glasswyrm.Output.Types

namespace Glasswyrm.Output

/-! The configurations of a single output whose mode is fixed. -/

inductive DrmConfigurationError
  | none
  | notSingleFixedOutput
  | outputIdentityChanged
  | physicalModeChanged
  | logicalPositionChanged
  | primaryStateChanged
  | enabledStateChanged
deriving DecidableEq, Repr

def isSingleFixedDrmOutputProfile (layout : OutputLayout) : Bool :=
  match layout.outputOrder with
  | [id] =>
      layout.descriptors.size = 1 && layout.states.size = 1 &&
        (layout.descriptors[id]?.any fun descriptor =>
          descriptor.id = id && descriptor.kind = .drm &&
            !descriptor.modeConfigurable && descriptor.scaleConfigurable &&
            descriptor.transformConfigurable) &&
        layout.states[id]?.any (·.outputId = id)
  | _ => false

def validateSingleFixedDrmConfiguration (committed candidate : OutputLayout) :
    DrmConfigurationError :=
  if !isSingleFixedDrmOutputProfile committed ||
      !isSingleFixedDrmOutputProfile candidate then .notSingleFixedOutput
  else
    let committedId := committed.outputOrder.headD 0
    let candidateId := candidate.outputOrder.headD 0
    let before := committed.states[committedId]?.getD {}
    let after := candidate.states[candidateId]?.getD {}
    if committedId ≠ candidateId then .outputIdentityChanged
    else if before.modeId ≠ after.modeId ||
        before.physicalWidth ≠ after.physicalWidth ||
        before.physicalHeight ≠ after.physicalHeight ||
        before.refreshMillihertz ≠ after.refreshMillihertz then
      .physicalModeChanged
    else if before.logicalX ≠ after.logicalX ||
        before.logicalY ≠ after.logicalY then .logicalPositionChanged
    else if before.primary ≠ after.primary ||
        committed.primaryOutputId ≠ candidate.primaryOutputId then
      .primaryStateChanged
    else if before.enabled ≠ after.enabled then .enabledStateChanged
    else .none

end Glasswyrm.Output
