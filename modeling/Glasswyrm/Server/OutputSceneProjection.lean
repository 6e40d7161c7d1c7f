import Glasswyrm.Compositor.Types
import Glasswyrm.Output.ValidLayout

namespace Glasswyrm.Server

open Output Compositor

/-! The records of a layout, and the outputs that a window's surface is on. -/

/-- The enumerations of the layout and of the wire have the same values. -/
def colorRecord (color : SdrMetadata) : SdrColorMetadata where
  colorSpace :=
    match color.colorSpace with
    | .srgb => .srgb
    | .displayP3 => .displayP3
  transferFunction :=
    match color.transferFunction with
    | .srgb => .srgb
    | .linear => .linear
  primaries :=
    match color.primaries with
    | .srgb => .srgb
    | .displayP3 => .displayP3
  luminanceAvailable := color.luminanceAvailable
  minimumLuminanceMillinit := color.minimumLuminanceMillinit
  maximumLuminanceMillinit := color.maximumLuminanceMillinit
  maxFrameAverageLuminanceMillinit := color.maxFrameAverageLuminanceMillinit

def outputRecord (state : OutputState) : OutputUpsert where
  outputId := state.outputId
  enabled := state.enabled
  logicalX := state.logicalX
  logicalY := state.logicalY
  logicalWidth := state.logicalWidth
  logicalHeight := state.logicalHeight
  physicalPixelWidth := state.physicalWidth
  physicalPixelHeight := state.physicalHeight
  refreshMillihertz := state.refreshMillihertz
  scaleNumerator := state.scale.numerator
  scaleDenominator := state.scale.denominator
  transform := state.transform
  color := colorRecord state.color

def intersects (leftX leftY : Int) (leftWidth leftHeight : Nat)
    (right : OutputState) : Bool :=
  leftX < right.logicalX + right.logicalWidth &&
    leftY < right.logicalY + right.logicalHeight &&
    right.logicalX < leftX + leftWidth && right.logicalY < leftY + leftHeight

structure SurfaceOutputProjection where
  primaryOutputId : Nat := 0
  outputIds : List Nat := []
  preferredScaleNumerator : Nat := 1
  preferredScaleDenominator : Nat := 1
  clientBufferScale : Nat := 1
  scaleMode : SurfaceScaleMode := .legacy
  layoutGeneration : Nat := 0
deriving DecidableEq, Repr

/-- The layout's own state of an output; the order of a layout lists only
outputs that it has. -/
def stateOf (layout : OutputLayout) (id : Nat) : OutputState :=
  layout.states[id]?.getD {}

theorem stateOf_lookup {layout : OutputLayout} {id : Nat} {state : OutputState}
    (found : layout.states[id]? = some state) : stateOf layout id = state := by
  rw [stateOf, found, Option.getD_some]

theorem stateOf_enabled {layout : OutputLayout} {id : Nat}
    (on : (stateOf layout id).enabled = true) :
    layout.states[id]? = some (stateOf layout id) := by
  unfold stateOf at on ⊢
  cases found : layout.states[id]? with
  | none =>
      rw [found] at on
      cases on
  | some state => rfl

def projectSurfaceOutputs (layout : OutputLayout) (assignedOutputId : Nat)
    (logicalX logicalY : Int) (logicalWidth logicalHeight : Nat)
    (visible : Bool) (clientBufferScale : Nat) (scaleMode : SurfaceScaleMode) :
    Option SurfaceOutputProjection :=
  match layout.states[assignedOutputId]? with
  | none => none
  | some primary =>
      if !primary.enabled || logicalWidth = 0 || logicalHeight = 0 ||
          clientBufferScale = 0 || 4 < clientBufferScale then none
      else
        some {
          primaryOutputId := assignedOutputId
          outputIds :=
            if visible then
              layout.outputOrder.filter fun id =>
                (stateOf layout id).enabled && intersects logicalX logicalY
                  logicalWidth logicalHeight (stateOf layout id)
            else []
          preferredScaleNumerator := primary.scale.numerator
          preferredScaleDenominator := primary.scale.denominator
          clientBufferScale
          scaleMode
          layoutGeneration := layout.generation }

/-- The output part of a submission: the primary output comes first. -/
structure OutputSceneRecords where
  outputs : List OutputUpsert
  primaryOutputId : Nat
  outputLayoutGeneration : Nat
deriving DecidableEq

def populateOutputSceneRecords (layout : OutputLayout) :
    Option OutputSceneRecords :=
  let others := layout.outputOrder.filter (· ≠ layout.primaryOutputId)
  let outputs := (layout.primaryOutputId :: others).map fun id =>
    outputRecord (stateOf layout id)
  if outputs.length = layout.states.size then
    some {
      outputs
      primaryOutputId := layout.primaryOutputId
      outputLayoutGeneration := layout.generation }
  else none

end Glasswyrm.Server
