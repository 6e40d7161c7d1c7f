import Glasswyrm.Lifecycle.Types

namespace Glasswyrm.Lifecycle

/-! The fields of a lifecycle window as data, so that statements about "every
field" quantify over names instead of listing the record.  The scale record is
split into its own fields, since the policy writes some of them and clients
write the others. -/

inductive WindowField
  | xid | parent | windowClass
  | requestedX | requestedY | requestedWidth | requestedHeight
  | requestedBorderWidth
  | overrideRedirect | mapRequested | policyVisible | focused
  | creationSerial | mapSerial | focusSerial | geometrySerial
  | stackSerial | stackSibling | stackMode
  | transientFor | policyWindowType | decorationPreference
  | fullscreenRequested | maximizedRequested | aboveRequested
  | bypassCompositor | attentionRequested | inputRequested
  | minimumWidth | minimumHeight | maximumWidth | maximumHeight
  | savedNormalGeometry
  | appliedX | appliedY | stacking | appliedWidth | appliedHeight
  | windowType | appliedState | managed | decorationEligible
  | fullscreenEligible | directScanoutEligible
  | assignedOutputId | outputMemberships
  | scalePrimaryOutput | scalePreferredNumerator | scalePreferredDenominator
  | scaleAcceptedBufferScale | scaleLayoutGeneration | scaleOutputMemberships
  | scaleHasOutputState | scalePresentation | scaledPixmapStorage
  | scalePresentationSerial | scaleEventSelections
deriving DecidableEq, Repr

namespace WindowField

@[reducible] def Value : WindowField → Type
  | xid | parent | requestedWidth | requestedHeight | requestedBorderWidth
  | creationSerial | mapSerial | focusSerial | geometrySerial | stackSerial
  | stackSibling | transientFor | minimumWidth | minimumHeight | maximumWidth
  | maximumHeight | appliedWidth | appliedHeight | windowType | appliedState
  | fullscreenEligible | directScanoutEligible | assignedOutputId
  | scalePrimaryOutput | scalePreferredNumerator | scalePreferredDenominator
  | scaleAcceptedBufferScale | scaleLayoutGeneration
  | scalePresentationSerial => Nat
  | requestedX | requestedY | appliedX | appliedY | stacking => Int
  | overrideRedirect | mapRequested | policyVisible | focused
  | fullscreenRequested | maximizedRequested | aboveRequested
  | bypassCompositor | attentionRequested | inputRequested | managed
  | decorationEligible | scaleHasOutputState => Bool
  | windowClass => WindowClass
  | stackMode => LifecycleStackMode
  | policyWindowType => PolicyWindowType
  | decorationPreference => PolicyDecoration
  | savedNormalGeometry => Option SavedWindowGeometry
  | outputMemberships | scaleOutputMemberships => List Nat
  | scalePresentation => WindowScalePresentationState
  | scaledPixmapStorage => Option Nat
  | scaleEventSelections => KeyMap Nat

end WindowField

def LifecycleWindow.read (window : LifecycleWindow) :
    (field : WindowField) → field.Value
  | .xid => window.xid
  | .parent => window.parent
  | .windowClass => window.windowClass
  | .requestedX => window.requestedX
  | .requestedY => window.requestedY
  | .requestedWidth => window.requestedWidth
  | .requestedHeight => window.requestedHeight
  | .requestedBorderWidth => window.requestedBorderWidth
  | .overrideRedirect => window.overrideRedirect
  | .mapRequested => window.mapRequested
  | .policyVisible => window.policyVisible
  | .focused => window.focused
  | .creationSerial => window.creationSerial
  | .mapSerial => window.mapSerial
  | .focusSerial => window.focusSerial
  | .geometrySerial => window.geometrySerial
  | .stackSerial => window.stackSerial
  | .stackSibling => window.stackSibling
  | .stackMode => window.stackMode
  | .transientFor => window.transientFor
  | .policyWindowType => window.policyWindowType
  | .decorationPreference => window.decorationPreference
  | .fullscreenRequested => window.fullscreenRequested
  | .maximizedRequested => window.maximizedRequested
  | .aboveRequested => window.aboveRequested
  | .bypassCompositor => window.bypassCompositor
  | .attentionRequested => window.attentionRequested
  | .inputRequested => window.inputRequested
  | .minimumWidth => window.minimumWidth
  | .minimumHeight => window.minimumHeight
  | .maximumWidth => window.maximumWidth
  | .maximumHeight => window.maximumHeight
  | .savedNormalGeometry => window.savedNormalGeometry
  | .appliedX => window.appliedX
  | .appliedY => window.appliedY
  | .stacking => window.stacking
  | .appliedWidth => window.appliedWidth
  | .appliedHeight => window.appliedHeight
  | .windowType => window.windowType
  | .appliedState => window.appliedState
  | .managed => window.managed
  | .decorationEligible => window.decorationEligible
  | .fullscreenEligible => window.fullscreenEligible
  | .directScanoutEligible => window.directScanoutEligible
  | .assignedOutputId => window.assignedOutputId
  | .outputMemberships => window.outputMemberships
  | .scalePrimaryOutput => window.scale.primaryOutput
  | .scalePreferredNumerator => window.scale.preferredScaleNumerator
  | .scalePreferredDenominator => window.scale.preferredScaleDenominator
  | .scaleAcceptedBufferScale => window.scale.acceptedBufferScale
  | .scaleLayoutGeneration => window.scale.layoutGeneration
  | .scaleOutputMemberships => window.scale.outputMemberships
  | .scaleHasOutputState => window.scale.hasOutputState
  | .scalePresentation => window.scale.presentation
  | .scaledPixmapStorage => window.scale.scaledPixmapStorage
  | .scalePresentationSerial => window.scale.presentationSerial
  | .scaleEventSelections => window.scale.eventSelections

/-- A field of a window of the snapshot; `none` when the window is absent. -/
def LifecycleSnapshot.read (snapshot : LifecycleSnapshot) (id : Nat)
    (field : WindowField) : Option field.Value :=
  (snapshot.windows[id]?).map (·.read field)

end Glasswyrm.Lifecycle
