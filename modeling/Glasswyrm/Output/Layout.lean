import Mathlib.Data.List.Lex
import Mathlib.Data.List.Sort
import Glasswyrm.Output.Mapping

namespace Glasswyrm.Output

open Lifecycle

/-! The validation of an output layout: the first check that fails gives the
error, with the output it is about. -/

def kMaximumOutputs : Nat := 8
def kMaximumOutputNameBytes : Nat := 63
def kMaximumPhysicalExtent : Nat := 4096
def kMaximumPhysicalPixels : Nat := 16777216
def kMaximumTotalOutputPixels : Nat := 67108864
def kMaximumRootLogicalWidth : Nat := 32767
def kMaximumRootLogicalHeight : Nat := 32767
def kMaximumModesPerOutput : Nat := 128
def kAllOutputTransformsMask : Nat := 255

inductive LayoutValidationError
  | none
  | tooManyOutputs
  | incompleteInventory
  | noEnabledOutput
  | invalidPrimaryOutput
  | invalidIdentity
  | invalidName
  | invalidDescriptor
  | invalidPosition
  | overlappingOutputs
  | invalidRootExtent
  | invalidScale
  | unsupportedTransform
  | invalidMode
  | invalidLogicalExtent
  | invalidDisabledState
  | invalidGeneration
  | invalidOutputOrder
  | physicalLimitExceeded
deriving DecidableEq, Repr

structure LayoutValidationResult where
  error : LayoutValidationError := .none
  outputId : Nat := 0
deriving DecidableEq, Repr

namespace LayoutValidationResult

def valid (result : LayoutValidationResult) : Bool := result.error = .none

/-- The next check runs only when this one found nothing. -/
def andThen (first next : LayoutValidationResult) : LayoutValidationResult :=
  if first.valid then next else first

/-- A failure unless the check succeeds. -/
def require (check : Bool) (error : LayoutValidationError)
    (outputId : Nat) : LayoutValidationResult :=
  if check then {} else { error, outputId }

def all : List LayoutValidationResult → LayoutValidationResult
  | [] => {}
  | result :: rest => result.andThen (all rest)

theorem andThen_valid {first next : LayoutValidationResult} :
    (first.andThen next).valid = true ↔
      first.valid = true ∧ next.valid = true := by
  unfold andThen
  split <;> simp_all

theorem require_valid {check : Bool} {error : LayoutValidationError}
    (fails : error ≠ .none) (outputId : Nat) :
    (require check error outputId).valid = true ↔ check = true := by
  unfold require valid
  split <;> simp_all

theorem all_valid {results : List LayoutValidationResult} :
    (all results).valid = true ↔ ∀ result ∈ results, result.valid = true := by
  induction results with
  | nil => simp [all, valid]
  | cons result rest ih => rw [all, andThen_valid, ih, List.forall_mem_cons]

end LayoutValidationResult

open LayoutValidationResult

/-! ## Descriptors -/

def transformBit : OutputTransform → Nat
  | .normal => 0
  | .rotate90 => 1
  | .rotate180 => 2
  | .rotate270 => 3
  | .flipped => 4
  | .flipped90 => 5
  | .flipped180 => 6
  | .flipped270 => 7

def supportsTransform (descriptor : OutputDescriptor)
    (transform : OutputTransform) : Bool :=
  descriptor.supportedTransformMask.testBit (transformBit transform)

def validOutputScale (scale : RationalScale) (denominatorLimit : Nat) : Bool :=
  denominatorLimit ≠ 0 && scale.denominator ≤ denominatorLimit &&
    scale.validOutputScale

def validName (name : List UInt8) : Bool :=
  !name.isEmpty && name.length ≤ kMaximumOutputNameBytes

def descriptorLimitsAreValid (descriptor : OutputDescriptor) : Bool :=
  descriptor.maximumPhysicalWidth ≠ 0 &&
    descriptor.maximumPhysicalHeight ≠ 0 &&
    descriptor.maximumPhysicalPixels ≠ 0 &&
    descriptor.maximumPhysicalWidth ≤ kMaximumPhysicalExtent &&
    descriptor.maximumPhysicalHeight ≤ kMaximumPhysicalExtent &&
    descriptor.maximumPhysicalPixels ≤ kMaximumPhysicalPixels &&
    descriptor.maximumScaleDenominator ≠ 0 &&
    descriptor.maximumScaleDenominator ≤ kMaximumScaleDenominator &&
    validOutputScale descriptor.minimumScale
      descriptor.maximumScaleDenominator &&
    validOutputScale descriptor.maximumScale
      descriptor.maximumScaleDenominator &&
    descriptor.minimumScale.inRange { numerator := 1, denominator := 1 }
      descriptor.maximumScale &&
    descriptor.maximumScale.inRange descriptor.minimumScale
      { numerator := 4, denominator := 1 }

def descriptorMetadataIsValid (descriptor : OutputDescriptor) : Bool :=
  decide (descriptor.physicalWidthMm = 0 ↔ descriptor.physicalHeightMm = 0) &&
    descriptor.supportedTransformMask ≤ kAllOutputTransformsMask &&
    descriptor.supportedTransformMask ≠ 0 &&
    match descriptor.kind with
    | .headless =>
        !descriptor.arbitraryHeadlessMode || descriptor.modeConfigurable
    | .drm => !descriptor.arbitraryHeadlessMode

/-- Products of two 32-bit extents do not overflow in 64 bits. -/
def validMode (descriptor : OutputDescriptor) (mode : OutputMode) : Bool :=
  mode.id ≠ 0 && mode.outputId = descriptor.id && validName mode.name &&
    mode.physicalWidth ≠ 0 && mode.physicalHeight ≠ 0 &&
    mode.refreshMillihertz ≠ 0 &&
    mode.physicalWidth ≤ descriptor.maximumPhysicalWidth &&
    mode.physicalHeight ≤ descriptor.maximumPhysicalHeight &&
    mode.physicalWidth * mode.physicalHeight ≤
      descriptor.maximumPhysicalPixels

def validDescriptorModes (descriptor : OutputDescriptor) : Bool :=
  descriptor.modes.length ≤ kMaximumModesPerOutput &&
    descriptor.modes.all (validMode descriptor) &&
    (descriptor.modes.map (·.id)).Nodup &&
    descriptor.modes.countP (·.current) ≤ 1

/-! ## States -/

def outputRectanglesOverlap (left right : OutputState) : Bool :=
  left.logicalX < right.logicalX + right.logicalWidth &&
    right.logicalX < left.logicalX + left.logicalWidth &&
    left.logicalY < right.logicalY + right.logicalHeight &&
    right.logicalY < left.logicalY + left.logicalHeight

def stateMatchesMode (descriptor : OutputDescriptor) (state : OutputState) :
    Bool :=
  match descriptor.modes.find? (·.id = state.modeId) with
  | some mode =>
      mode.current && state.physicalWidth = mode.physicalWidth &&
        state.physicalHeight = mode.physicalHeight &&
        state.refreshMillihertz = mode.refreshMillihertz
  | none =>
      descriptor.kind = .headless && descriptor.arbitraryHeadlessMode &&
        state.modeId ≠ 0 && state.physicalWidth ≠ 0 &&
        state.physicalHeight ≠ 0 && state.refreshMillihertz ≠ 0

def OutputState.pixels (state : OutputState) : Nat :=
  state.physicalWidth * state.physicalHeight

def validScaleState (descriptor : OutputDescriptor) (state : OutputState) :
    Bool :=
  descriptorLimitsAreValid descriptor &&
    validOutputScale state.scale descriptor.maximumScaleDenominator &&
    state.scale.inRange descriptor.minimumScale descriptor.maximumScale

def validModeState (descriptor : OutputDescriptor) (state : OutputState) :
    Bool :=
  validDescriptorModes descriptor &&
    state.physicalWidth ≤ descriptor.maximumPhysicalWidth &&
    state.physicalHeight ≤ descriptor.maximumPhysicalHeight &&
    state.pixels ≤ descriptor.maximumPhysicalPixels &&
    (!state.enabled ||
      (descriptor.connected && stateMatchesMode descriptor state))

def validLogicalExtent (state : OutputState) : Bool :=
  !state.enabled ||
    deriveLogicalExtent
        (transformedPhysicalExtent
          { width := state.physicalWidth, height := state.physicalHeight }
          state.transform) state.scale =
      some { width := state.logicalWidth, height := state.logicalHeight }

def validDisabledState (state : OutputState) : Bool :=
  state.enabled ||
    (!state.primary && state.logicalX = 0 && state.logicalY = 0 &&
      state.logicalWidth = 0 && state.logicalHeight = 0 &&
      state.physicalWidth = 0 && state.physicalHeight = 0 &&
      state.refreshMillihertz = 0)

/-! ## Layouts -/

namespace OutputLayout

def descriptor (layout : OutputLayout) (id : Nat) : OutputDescriptor :=
  layout.descriptors[id]?.getD {}

/-- The enabled outputs by identifier. -/
def enabledEntries (layout : OutputLayout) : List (Nat × OutputState) :=
  layout.states.toList.filter (·.2.enabled)

def primaryEntries (layout : OutputLayout) : List (Nat × OutputState) :=
  layout.enabledEntries.filter (·.2.primary)

def rootWidth (layout : OutputLayout) : Int :=
  layout.enabledEntries.foldl (fun width entry =>
    max width (entry.2.logicalX + entry.2.logicalWidth)) 0

def rootHeight (layout : OutputLayout) : Int :=
  layout.enabledEntries.foldl (fun height entry =>
    max height (entry.2.logicalY + entry.2.logicalHeight)) 0

def orderKey (entry : Nat × OutputState) : List Int :=
  if entry.2.enabled then [0, entry.2.logicalY, entry.2.logicalX, entry.1]
  else [1, entry.1]

def expectedOutputOrder (layout : OutputLayout) : List Nat :=
  (layout.states.toList.insertionSort fun left right =>
    orderKey left ≤ orderKey right).map (·.1)

end OutputLayout

/-! ## Validation -/

def validateInventory (layout : OutputLayout) : LayoutValidationResult :=
  (require (layout.descriptors.size ≤ kMaximumOutputs &&
    layout.states.size ≤ kMaximumOutputs) .tooManyOutputs 0).andThen <|
  (require (layout.descriptors.size = layout.states.size)
    .incompleteInventory 0).andThen <|
  all (layout.descriptors.keys.map fun id =>
    require (layout.states.contains id) .incompleteInventory id)

def validatePrimary (layout : OutputLayout) : LayoutValidationResult :=
  let selected := (layout.primaryEntries.getLast?.map (·.1)).getD 0
  (require (!layout.enabledEntries.isEmpty) .noEnabledOutput 0).andThen <|
  require (layout.primaryEntries.length = 1 && layout.primaryOutputId ≠ 0 &&
      layout.primaryOutputId = selected &&
      (layout.descriptor selected).primaryEligible)
    .invalidPrimaryOutput layout.primaryOutputId

/-- The loop over the descriptors; the names met so far are carried. -/
def validateDescriptors (layout : OutputLayout) :
    List (List UInt8) → List (Nat × OutputDescriptor) → LayoutValidationResult
  | _, [] => {}
  | names, (id, descriptor) :: rest =>
      let identified := layout.states[id]?.any (·.outputId = id)
      let placed := layout.states[id]?.any fun state =>
        !state.enabled || (0 ≤ state.logicalX && 0 ≤ state.logicalY)
      (require (id ≠ 0 && descriptor.id = id && identified)
        .invalidIdentity id).andThen <|
      (require (validName descriptor.name && !names.contains descriptor.name)
        .invalidName id).andThen <|
      (require (descriptorMetadataIsValid descriptor)
        .invalidDescriptor id).andThen <|
      (require placed .invalidPosition id).andThen <|
      validateDescriptors layout (descriptor.name :: names) rest

def validateOverlaps : List (Nat × OutputState) → LayoutValidationResult
  | [] => {}
  | left :: rest =>
      (all (rest.map fun right =>
        require (!outputRectanglesOverlap left.2 right.2) .overlappingOutputs
          right.2.outputId)).andThen <|
      validateOverlaps rest

def validateRoot (layout : OutputLayout) : LayoutValidationResult :=
  require (layout.rootWidth ≠ 0 && layout.rootHeight ≠ 0 &&
      layout.rootWidth ≤ kMaximumRootLogicalWidth &&
      layout.rootHeight ≤ kMaximumRootLogicalHeight &&
      layout.rootLogicalWidth = layout.rootWidth &&
      layout.rootLogicalHeight = layout.rootHeight)
    .invalidRootExtent 0

/-- The outputs with a state are those with a descriptor here, so the enabled
ones are taken from the states. -/
def validateInventoryGeometry (layout : OutputLayout) :
    LayoutValidationResult :=
  (validateInventory layout).andThen <|
  (validatePrimary layout).andThen <|
  (validateDescriptors layout [] layout.descriptors.toList).andThen <|
  (validateOverlaps layout.enabledEntries).andThen <|
  validateRoot layout

/-- The loop over the modes and the pixels; the mode identifiers met and the
pixels of the enabled outputs so far are carried. -/
def validateModes (layout : OutputLayout) :
    List Nat → Nat → List (Nat × OutputState) → LayoutValidationResult
  | _, _, [] => {}
  | seen, total, (id, state) :: rest =>
      let descriptor := layout.descriptor id
      let identifiers := descriptor.modes.map (·.id)
      let counted := if state.enabled then state.pixels else 0
      (require (identifiers.Nodup && identifiers.all (!seen.contains ·))
        .invalidMode id).andThen <|
      (require (validModeState descriptor state) .invalidMode id).andThen <|
      (require (counted ≤ kMaximumTotalOutputPixels - total)
        .physicalLimitExceeded id).andThen <|
      validateModes layout (seen ++ identifiers) (total + counted) rest

def validateStates (layout : OutputLayout)
    (check : OutputDescriptor → OutputState → Bool)
    (error : LayoutValidationError) : LayoutValidationResult :=
  all (layout.states.toList.map fun (id, state) =>
    require (check (layout.descriptor id) state) error id)

def validateScaleModeState (layout : OutputLayout) : LayoutValidationResult :=
  (validateStates layout validScaleState .invalidScale).andThen <|
  (validateStates layout
    (fun descriptor state => supportsTransform descriptor state.transform)
    .unsupportedTransform).andThen <|
  (validateModes layout [] 0 layout.states.toList).andThen <|
  (validateStates layout (fun _ state => validLogicalExtent state)
    .invalidLogicalExtent).andThen <|
  validateStates layout (fun _ state => validDisabledState state)
    .invalidDisabledState

def validateMetadata (layout : OutputLayout) : LayoutValidationResult :=
  (require (layout.generation ≠ 0) .invalidGeneration 0).andThen <|
  (validateStates layout
    (fun _ state => state.generation = layout.generation)
    .invalidGeneration).andThen <|
  require (layout.enabledOutputCount = layout.enabledEntries.length &&
      layout.outputOrder = layout.expectedOutputOrder)
    .invalidOutputOrder 0

def validateLayout (layout : OutputLayout) : LayoutValidationResult :=
  (validateInventoryGeometry layout).andThen <|
  (validateScaleModeState layout).andThen <|
  validateMetadata layout

end Glasswyrm.Output
