import Glasswyrm.Compositor.OutputDamage
import Glasswyrm.Render.SceneRenderer

namespace Glasswyrm.Render

open Library Compositor Output

structure OutputSpec where
  outputId : Nat := 0
  width : Nat := 0
  height : Nat := 0
  refreshMillihz : Nat := 0
deriving DecidableEq, Repr

structure OutputFrameResult where
  output : OutputSpec := {}
  logical : LogicalRectangle := {}
  scale : RationalScale := {}
  transform : OutputTransform := .normal
  frame : SoftwareFrame := {}
  damage : List Rectangle := []
  visibleHash : UInt64 := 0

def transformValue : OutputTransform → Nat
  | .normal => 0
  | .rotate90 => 1
  | .rotate180 => 2
  | .rotate270 => 3
  | .flipped => 4
  | .flipped90 => 5
  | .flipped180 => 6
  | .flipped270 => 7

/-! ## The hash over all outputs -/

def appendBytes (count : Nat) (hash : UInt64) (value : Nat) : UInt64 :=
  (List.range count).foldl (fun hash (byte : Nat) =>
    appendByte hash (UInt8.ofNat (value / 256 ^ byte))) hash

def appendU32 : UInt64 → Nat → UInt64 := appendBytes 4
def appendU64 : UInt64 → Nat → UInt64 := appendBytes 8

def frameSetTag : String := "glasswyrm-output-frame-set-v1"

def calculateFrameSetAggregateHash (outputs : KeyMap OutputFrameResult)
    (layoutGeneration primaryOutputId : Nat) : UInt64 :=
  let tagged := frameSetTag.toList.foldl (fun hash character =>
    appendByte hash (UInt8.ofNat character.toNat)) fnvOffset
  let headed := appendU64 (appendU64 tagged layoutGeneration) primaryOutputId
  outputs.toList.foldl (fun hash entry =>
    let output := entry.2
    let hash := appendU64 hash entry.1
    let hash := appendU32 hash output.output.width
    let hash := appendU32 hash output.output.height
    let hash := appendU32 hash output.scale.numerator
    let hash := appendU32 hash output.scale.denominator
    let hash := appendU32 hash (transformValue output.transform)
    appendU64 hash output.visibleHash.toNat) headed

/-! ## The set of frames -/

structure SoftwareFrameSet where
  outputs : KeyMap OutputFrameResult := ∅
  totalPixels : Nat := 0
  aggregateHash : UInt64 := 0
  layoutGeneration : Nat := 0
  primaryOutputId : Nat := 0
  commitId : Nat := 0
  generation : Nat := 0
  ordinal : Nat := 0
  finalized : Bool := false

/-- The damage rectangle lies on the output and has an area. -/
def validDamage (output : OutputSpec) (rectangle : Rectangle) : Bool :=
  0 ≤ rectangle.x && 0 ≤ rectangle.y && rectangle.width ≠ 0 &&
    rectangle.height ≠ 0 && rectangle.right ≤ output.width &&
    rectangle.bottom ≤ output.height

def consistentFrame (output : OutputFrameResult) : Bool :=
  output.output.outputId ≠ 0 && output.frame.enabled &&
    output.frame.id = output.output.outputId &&
    output.frame.width = output.output.width &&
    output.frame.height = output.output.height &&
    output.output.width ≠ 0 && output.output.height ≠ 0 &&
    0 ≤ output.logical.x && 0 ≤ output.logical.y &&
    output.logical.width ≠ 0 && output.logical.height ≠ 0 &&
    output.scale.validOutputScale

namespace SoftwareFrameSet

def append (frames : SoftwareFrameSet) (output : OutputFrameResult) :
    Except String SoftwareFrameSet :=
  let pixels := output.output.width * output.output.height
  match firstError [
    (frames.finalized, "software frame set is already finalized"),
    (frames.outputs.size = Wm.maximumOutputs,
      "software frame set exceeds the output limit"),
    (!consistentFrame output,
      "software output frame metadata is inconsistent"),
    (maximumDamageRectangles < output.damage.length,
      "software output frame exceeds the damage limit"),
    (!output.damage.all (validDamage output.output),
      "software output frame damage is outside its physical extent"),
    (maximumTotalOutputPixels - frames.totalPixels < pixels,
      "software frame set exceeds the total pixel limit"),
    (frames.outputs.contains output.output.outputId,
      "software frame set contains a duplicate output ID")] with
  | some error => .error error
  | none =>
      .ok { frames with
        outputs := frames.outputs.insert output.output.outputId
          { output with visibleHash := output.frame.visibleHash }
        totalPixels := frames.totalPixels + pixels }

def finalize (frames : SoftwareFrameSet)
    (layoutGeneration primaryOutputId commitId generation ordinal : Nat) :
    Except String SoftwareFrameSet :=
  match firstError [
    (frames.finalized, "software frame set is already finalized"),
    (frames.outputs.isEmpty || layoutGeneration = 0 || primaryOutputId = 0 ||
        commitId = 0 || generation = 0 || ordinal = 0 ||
        !frames.outputs.contains primaryOutputId,
      "software frame set commit metadata is incomplete")] with
  | some error => .error error
  | none =>
      .ok { frames with
        layoutGeneration, primaryOutputId, commitId, generation, ordinal
        aggregateHash := calculateFrameSetAggregateHash frames.outputs
          layoutGeneration primaryOutputId
        finalized := true }

/-- What `append` checks of a frame before it joins the set. -/
structure Joins (frames : SoftwareFrameSet) (output : OutputFrameResult) :
    Prop where
  unfinished : frames.finalized = false
  room : frames.outputs.size ≠ Wm.maximumOutputs
  consistent : consistentFrame output = true
  damage : output.damage.length ≤ maximumDamageRectangles
  damageValid : output.damage.all (validDamage output.output) = true
  pixels : output.output.width * output.output.height ≤
    maximumTotalOutputPixels - frames.totalPixels
  fresh : frames.outputs.contains output.output.outputId = false

def joined (frames : SoftwareFrameSet) (output : OutputFrameResult) :
    SoftwareFrameSet :=
  { frames with
    outputs := frames.outputs.insert output.output.outputId
      { output with visibleHash := output.frame.visibleHash }
    totalPixels := frames.totalPixels +
      output.output.width * output.output.height }

theorem append_ok_iff {frames next : SoftwareFrameSet}
    {output : OutputFrameResult} :
    frames.append output = .ok next ↔
      frames.Joins output ∧ next = frames.joined output := by
  unfold append
  simp only
  split
  · rename_i error found
    refine ⟨(fun impossible => by cases impossible), ?_⟩
    rintro ⟨⟨unfinished, room, consistent, damage, valid, pixels, fresh⟩, _⟩
    have clean : firstError [
        (frames.finalized, "software frame set is already finalized"),
        (frames.outputs.size = Wm.maximumOutputs,
          "software frame set exceeds the output limit"),
        (!consistentFrame output,
          "software output frame metadata is inconsistent"),
        (maximumDamageRectangles < output.damage.length,
          "software output frame exceeds the damage limit"),
        (!output.damage.all (validDamage output.output),
          "software output frame damage is outside its physical extent"),
        (maximumTotalOutputPixels - frames.totalPixels <
            output.output.width * output.output.height,
          "software frame set exceeds the total pixel limit"),
        (frames.outputs.contains output.output.outputId,
          "software frame set contains a duplicate output ID")] = none := by
      rw [firstError_none_iff]
      simp only [List.forall_mem_cons]
      simp [unfinished, room, consistent, damage, valid, pixels, fresh]
    rw [clean] at found
    cases found
  · rename_i clean
    rw [firstError_none_iff] at clean
    simp only [List.forall_mem_cons, decide_eq_false_iff_not,
      Bool.not_eq_false', Nat.not_lt] at clean
    obtain ⟨unfinished, room, consistent, damage, valid, pixels, fresh, _⟩ :=
      clean
    have joins : frames.Joins output :=
      ⟨unfinished, room, consistent, damage, valid, pixels, fresh⟩
    constructor
    · intro same
      exact ⟨joins, (Except.ok.inj same).symm⟩
    · rintro ⟨_, rfl⟩
      rfl

end SoftwareFrameSet

end Glasswyrm.Render
