import Glasswyrm.Compositor.DamageRegion

namespace Glasswyrm.Drm

open Compositor Compositor.Rectangle

inductive FullCopyReason
  | none
  | firstUse
  | historyMiss
  | damageUnavailable
  | canonicalMismatch
  | virtualTerminalResume
  | outputConfigurationChanged
deriving DecidableEq, Repr

structure DamageCopyPlan where
  rectangles : List Rectangle := []
  completedDamage : List Rectangle := []
  fullFrameBytes : Nat := 0
  copiedBytes : Nat := 0
  historySpan : Nat := 0
  fullCopyReason : FullCopyReason := .none
deriving DecidableEq, Repr

def DamageCopyPlan.fullCopy (plan : DamageCopyPlan) : Bool :=
  plan.fullCopyReason ≠ .none

structure CompletedDamage where
  generation : Nat := 0
  rectangles : List Rectangle := []
deriving DecidableEq, Repr

structure DamageCopyHistory where
  width : Nat
  height : Nat
  completed : List CompletedDamage := []
deriving DecidableEq, Repr

def uint64Maximum : Nat := 18446744073709551615

def byteCount (rectangles : List Rectangle) : Nat :=
  min uint64Maximum (rectangles.foldl (fun total rectangle =>
    total + rectangle.width * rectangle.height * 4) 0)

namespace DamageCopyHistory

def maximumCompletedFrames : Nat := 8

def bounds (history : DamageCopyHistory) : Rectangle :=
  { width := history.width, height := history.height }

/-- The region that the rectangles leave on the output. -/
def normalized (history : DamageCopyHistory) (rectangles : List Rectangle) :
    DamageRegion :=
  rectangles.foldl .add { outputBounds := history.bounds }

def fullPlan (history : DamageCopyHistory) (reason : FullCopyReason)
    (completedDamage : List Rectangle) : DamageCopyPlan :=
  { fullFrameBytes := history.width * history.height * 4
    copiedBytes := history.width * history.height * 4
    fullCopyReason := reason
    rectangles :=
      if history.width ≠ 0 ∧ history.height ≠ 0 then [history.bounds] else []
    completedDamage :=
      if completedDamage = [] ∨ reason = .canonicalMismatch ∨
          reason = .virtualTerminalResume ∨
          reason = .outputConfigurationChanged then
        (DamageRegion.addFullOutput
          { outputBounds := history.bounds }).rectangles
      else (history.normalized completedDamage).rectangles }

/-- The loop over the completed frames; `expected` is the generation that the
next entry in range must have. -/
def appendHistory (first last : Nat) :
    List CompletedDamage → Nat → List Rectangle → Option (List Rectangle)
  | [], expected, rectangles =>
      if expected = last + 1 then some rectangles else none
  | entry :: rest, expected, rectangles =>
      if entry.generation < first then
        appendHistory first last rest expected rectangles
      else if last < entry.generation then
        if expected = last + 1 then some rectangles else none
      else if entry.generation ≠ expected then none
      else
        appendHistory first last rest (expected + 1)
          (rectangles ++ entry.rectangles)

/-- The damage between two generations; none where a frame is missing. -/
def missingDamage (history : DamageCopyHistory) (first last : Nat) :
    Option (List Rectangle) :=
  if last < first then some []
  else appendHistory first last history.completed first []

def plan (history : DamageCopyHistory) (bufferContentValid : Bool)
    (bufferGeneration targetGeneration : Nat) (currentDamage : List Rectangle)
    (forcedReason : FullCopyReason) : DamageCopyPlan :=
  if forcedReason ≠ .none then history.fullPlan forcedReason currentDamage
  else if !bufferContentValid then history.fullPlan .firstUse currentDamage
  else if targetGeneration ≤ bufferGeneration then
    history.fullPlan .historyMiss currentDamage
  else if currentDamage = [] then
    history.fullPlan .damageUnavailable currentDamage
  else
    match history.missingDamage (bufferGeneration + 1)
        (targetGeneration - 1) with
    | none => history.fullPlan .historyMiss currentDamage
    | some missing =>
        let region := history.normalized (missing ++ currentDamage)
        if region.rectangles = [] then
          history.fullPlan .damageUnavailable currentDamage
        else
          { rectangles := region.rectangles
            fullFrameBytes := history.width * history.height * 4
            copiedBytes := byteCount region.rectangles
            historySpan := targetGeneration - bufferGeneration
            completedDamage := (history.normalized currentDamage).rectangles }

def recordCompleted (history : DamageCopyHistory) (plan : DamageCopyPlan)
    (generation : Nat) : DamageCopyHistory :=
  let kept :=
    if history.completed.getLast?.any (generation ≤ ·.generation) then []
    else history.completed
  let extended := kept ++ [{ generation, rectangles := plan.completedDamage }]
  { history with
    completed := extended.drop (extended.length - maximumCompletedFrames) }

def clear (history : DamageCopyHistory) : DamageCopyHistory :=
  { history with completed := [] }

end DamageCopyHistory

end Glasswyrm.Drm
