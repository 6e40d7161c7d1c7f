import Mathlib.Data.List.Sort
import Glasswyrm.Compositor.Rectangle

namespace Glasswyrm.Compositor

open Rectangle

structure DamageRegion where
  outputBounds : Rectangle
  rectangles : List Rectangle := []
  fullOutput : Bool := false
deriving DecidableEq, Repr

namespace DamageRegion

def maximumRectangles : Nat := 4096

def addFullOutput (region : DamageRegion) : DamageRegion :=
  { region with
    rectangles :=
      if !region.outputBounds.empty && region.outputBounds.hasValidExtents
      then [region.outputBounds] else []
    fullOutput := true }

def Before (left right : Rectangle) : Prop :=
  if left.y ≠ right.y then left.y < right.y
  else if left.x ≠ right.x then left.x < right.x
  else if left.height ≠ right.height then left.height < right.height
  else left.width ≤ right.width

instance : DecidableRel Before := fun _ _ => by
  unfold Before
  infer_instance

def normalize (region : DamageRegion) : DamageRegion :=
  { region with rectangles := region.rectangles.insertionSort Before }

/-- The loop that unites the candidate with every rectangle it touches; after
each union the scan starts over.  Each round removes one rectangle, so the
length of the list bounds the rounds. -/
def absorb : Nat → Rectangle → List Rectangle →
    Option (Rectangle × List Rectangle)
  | 0, candidate, rectangles => some (candidate, rectangles)
  | rounds + 1, candidate, rectangles =>
      match rectangles.find? candidate.overlapsOrIsCompatiblyAdjacent with
      | none => some (candidate, rectangles)
      | some touched =>
          match candidate.boundingUnion touched with
          | none => none
          | some united => absorb rounds united (rectangles.erase touched)

def add (region : DamageRegion) (rectangle : Rectangle) : DamageRegion :=
  if region.fullOutput then region
  else
    match rectangle.intersection region.outputBounds with
    | none => region
    | some clipped =>
        match absorb region.rectangles.length clipped region.rectangles with
        | none => region.addFullOutput
        | some (candidate, kept) =>
            let added := { region with rectangles := kept ++ [candidate] }
            if added.rectangles.length > maximumRectangles then
              added.addFullOutput
            else added.normalize

/-! ## What a region covers -/

def Covers (region : DamageRegion) (x y : Int) : Prop :=
  ∃ rectangle ∈ region.rectangles, rectangle.Contains x y

/-- Every rectangle has an area and lies within the output, and the full
output is covered once it has been asked for. -/
structure Wellformed (region : DamageRegion) : Prop where
  bounded : ∀ rectangle ∈ region.rectangles,
    rectangle.Within region.outputBounds
  solid : ∀ rectangle ∈ region.rectangles, rectangle.empty = false
  full : region.fullOutput = true → ∀ x y,
    region.outputBounds.hasValidExtents = true →
      region.outputBounds.Contains x y → region.Covers x y

@[simp] theorem add_outputBounds (region : DamageRegion)
    (rectangle : Rectangle) :
    (region.add rectangle).outputBounds = region.outputBounds := by
  unfold add
  split
  · rfl
  · split
    · rfl
    · split
      · rfl
      · simp only
        split <;> rfl

theorem normalize_covers (region : DamageRegion) (x y : Int) :
    region.normalize.Covers x y ↔ region.Covers x y := by
  simp only [Covers, normalize, List.mem_insertionSort]

theorem addFullOutput_covers {region : DamageRegion} {x y : Int}
    (valid : region.outputBounds.hasValidExtents = true)
    (inside : region.outputBounds.Contains x y) :
    region.addFullOutput.Covers x y := by
  refine ⟨region.outputBounds, ?_, inside⟩
  simp [addFullOutput, valid, inside.not_empty]

/-- Nothing that was covered is lost when the candidate absorbs what it
touches. -/
theorem absorb_covers {rounds : Nat} {candidate united : Rectangle}
    {rectangles kept : List Rectangle}
    (absorbed : absorb rounds candidate rectangles = some (united, kept))
    {x y : Int} (inside : candidate.Contains x y ∨
      ∃ rectangle ∈ rectangles, rectangle.Contains x y) :
    united.Contains x y ∨ ∃ rectangle ∈ kept, rectangle.Contains x y := by
  induction rounds generalizing candidate rectangles with
  | zero =>
      obtain ⟨rfl, rfl⟩ := Prod.mk.inj (Option.some.inj absorbed)
      exact inside
  | succ rounds ih =>
      unfold absorb at absorbed
      split at absorbed
      · obtain ⟨rfl, rfl⟩ := Prod.mk.inj (Option.some.inj absorbed)
        exact inside
      · rename_i touched found
        split at absorbed
        · simp at absorbed
        · rename_i joined union
          refine ih absorbed ?_
          rcases inside with inside | ⟨rectangle, member, inside⟩
          · exact .inl (boundingUnion_contains union (.inl inside))
          · by_cases same : rectangle = touched
            · subst same
              exact .inl (boundingUnion_contains union (.inr inside))
            · exact .inr ⟨rectangle,
                (List.mem_erase_of_ne same).mpr member, inside⟩

theorem add_covers {region : DamageRegion} {rectangle : Rectangle}
    {x y : Int} (wellformed : region.Wellformed)
    (valid : region.outputBounds.hasValidExtents = true)
    (rectangleValid : rectangle.hasValidExtents = true)
    (inside : region.Covers x y ∨
      (rectangle.Contains x y ∧ region.outputBounds.Contains x y)) :
    (region.add rectangle).Covers x y := by
  have within : region.outputBounds.Contains x y := by
    rcases inside with ⟨covering, member, covered⟩ | ⟨_, within⟩
    · exact (wellformed.bounded covering member).contains covered
    · exact within
  unfold add
  split
  · rename_i full
    exact wellformed.full full x y valid within
  · split
    · rename_i apart
      rcases inside with covered | ⟨inRectangle, _⟩
      · exact covered
      · obtain ⟨common, meets⟩ :=
          intersection_isSome rectangleValid valid inRectangle within
        simp [apart] at meets
    · rename_i clipped meets
      have candidates : clipped.Contains x y ∨
          ∃ other ∈ region.rectangles, other.Contains x y := by
        rcases inside with covered | both
        · exact .inr covered
        · exact .inl ((intersection_contains meets x y).mpr both)
      split
      · exact addFullOutput_covers valid within
      · rename_i united kept absorbed
        have covered := absorb_covers absorbed candidates
        simp only
        split
        · exact addFullOutput_covers valid within
        · rw [normalize_covers]
          rcases covered with own | ⟨other, member, covered⟩
          · exact ⟨united, by simp, own⟩
          · exact ⟨other, by simp [member], covered⟩

/-- What the candidate and every rectangle satisfy, unions included, is kept
when the candidate absorbs what it touches. -/
theorem absorb_keeps (good : Rectangle → Prop)
    (unites : ∀ {left other union : Rectangle},
      left.boundingUnion other = some union → good left → good other →
        good union)
    {rounds : Nat} {candidate united : Rectangle}
    {rectangles kept : List Rectangle}
    (absorbed : absorb rounds candidate rectangles = some (united, kept))
    (candidateGood : good candidate)
    (allGood : ∀ rectangle ∈ rectangles, good rectangle) :
    good united ∧ ∀ rectangle ∈ kept, good rectangle := by
  induction rounds generalizing candidate rectangles with
  | zero =>
      obtain ⟨rfl, rfl⟩ := Prod.mk.inj (Option.some.inj absorbed)
      exact ⟨candidateGood, allGood⟩
  | succ rounds ih =>
      unfold absorb at absorbed
      split at absorbed
      · obtain ⟨rfl, rfl⟩ := Prod.mk.inj (Option.some.inj absorbed)
        exact ⟨candidateGood, allGood⟩
      · rename_i touched found
        split at absorbed
        · simp at absorbed
        · rename_i joined union
          refine ih absorbed ?_ fun rectangle member =>
            allGood rectangle (List.mem_of_mem_erase member)
          exact unites union candidateGood
            (allGood touched (List.mem_of_find?_eq_some found))

theorem addFullOutput_wellformed (region : DamageRegion) :
    region.addFullOutput.Wellformed := by
  have only : ∀ rectangle ∈ region.addFullOutput.rectangles,
      rectangle = region.outputBounds ∧ rectangle.empty = false := by
    intro rectangle member
    simp only [addFullOutput] at member
    split at member
    · rename_i drawable
      obtain rfl := List.mem_singleton.mp member
      rw [Bool.and_eq_true, Bool.not_eq_true'] at drawable
      exact ⟨rfl, drawable.1⟩
    · simp at member
  refine ⟨fun rectangle member => ?_, fun rectangle member =>
    (only rectangle member).2, fun _ x y valid inside =>
      addFullOutput_covers valid inside⟩
  obtain ⟨rfl, _⟩ := only rectangle member
  exact Within.refl _

theorem add_wellformed {region : DamageRegion} (wellformed : region.Wellformed)
    (rectangle : Rectangle) : (region.add rectangle).Wellformed := by
  unfold add
  split
  · exact wellformed
  · rename_i partly
    split
    · exact wellformed
    · rename_i clipped meets
      split
      · exact addFullOutput_wellformed region
      · rename_i united kept absorbed
        obtain ⟨own, others⟩ := absorb_keeps _ boundingUnion_within absorbed
          (intersection_within meets).2 wellformed.bounded
        obtain ⟨ownSolid, othersSolid⟩ := absorb_keeps _ boundingUnion_solid
          absorbed (intersection_some meets).2.2.2.1 wellformed.solid
        simp only
        split
        · exact addFullOutput_wellformed _
        · have sorted : ∀ other, other ∈
              ({ region with rectangles := kept ++ [united] } :
                DamageRegion).normalize.rectangles →
                other ∈ kept ∨ other = united := by
            intro other member
            simpa only [normalize, List.mem_insertionSort, List.mem_append,
              List.mem_singleton] using member
          refine ⟨fun other member => ?_, fun other member => ?_,
            fun full => absurd full partly⟩
          · rcases sorted other member with member | rfl
            · exact others other member
            · exact own
          · rcases sorted other member with member | rfl
            · exact othersSolid other member
            · exact ownSolid

theorem initial_wellformed (bounds : Rectangle) :
    ({ outputBounds := bounds } : DamageRegion).Wellformed :=
  ⟨by simp, by simp, by simp⟩

/-! ## Regions that grow -/

/-- The second region is the first with more added to it. -/
structure Grows (region next : DamageRegion) : Prop where
  bounds : next.outputBounds = region.outputBounds
  wellformed : region.Wellformed → next.Wellformed
  covers : region.Wellformed → region.outputBounds.hasValidExtents = true →
    ∀ x y, region.Covers x y → next.Covers x y

theorem Grows.refl (region : DamageRegion) : region.Grows region :=
  ⟨rfl, id, fun _ _ _ _ covered => covered⟩

theorem Grows.trans {first second third : DamageRegion}
    (left : first.Grows second) (right : second.Grows third) :
    first.Grows third where
  bounds := right.bounds.trans left.bounds
  wellformed := right.wellformed ∘ left.wellformed
  covers := fun wellformed valid x y covered =>
    right.covers (left.wellformed wellformed) (left.bounds ▸ valid) x y
      (left.covers wellformed valid x y covered)

theorem foldl_grows {ι : Type*} {step : DamageRegion → ι → DamageRegion}
    (grows : ∀ (region : DamageRegion) input, region.Grows (step region input))
    (region : DamageRegion) (inputs : List ι) :
    region.Grows (inputs.foldl step region) := by
  induction inputs generalizing region with
  | nil => exact .refl region
  | cons input rest ih => exact (grows region input).trans (ih _)

/-- A rectangle out of range meets nothing and is dropped. -/
theorem add_invalid (region : DamageRegion) {rectangle : Rectangle}
    (invalid : rectangle.hasValidExtents = false ∨
      region.outputBounds.hasValidExtents = false) :
    region.add rectangle = region := by
  have apart : rectangle.intersection region.outputBounds = none := by
    rcases invalid with invalid | invalid <;>
      simp [Rectangle.intersection, invalid]
  unfold add
  simp only [apart, ite_self]

theorem add_grows (region : DamageRegion) (rectangle : Rectangle) :
    region.Grows (region.add rectangle) := by
  refine ⟨add_outputBounds region rectangle, (add_wellformed · rectangle), ?_⟩
  intro wellformed valid x y covered
  by_cases extents : rectangle.hasValidExtents = true
  · exact add_covers wellformed valid extents (.inl covered)
  · rw [add_invalid region (.inl (by simpa using extents))]
    exact covered

theorem absorb_apart {rounds : Nat} {candidate : Rectangle}
    {rectangles : List Rectangle}
    (apart : ∀ other ∈ rectangles,
      candidate.overlapsOrIsCompatiblyAdjacent other = false) :
    absorb rounds candidate rectangles = some (candidate, rectangles) := by
  cases rounds with
  | zero => rfl
  | succ rounds =>
      have none_touched :
          rectangles.find? candidate.overlapsOrIsCompatiblyAdjacent = none :=
        List.find?_eq_none.mpr fun other member => by simp [apart other member]
      simp [absorb, none_touched]

/-- A rectangle within the output that touches none of those present joins
them. -/
theorem add_apart {region : DamageRegion} {rectangle : Rectangle}
    (partly : region.fullOutput = false)
    (clipped : rectangle.intersection region.outputBounds = some rectangle)
    (apart : ∀ other ∈ region.rectangles,
      rectangle.overlapsOrIsCompatiblyAdjacent other = false)
    (room : region.rectangles.length < maximumRectangles) :
    (region.add rectangle).fullOutput = false ∧
      (region.add rectangle).rectangles.Perm
        (rectangle :: region.rectangles) := by
  have short : ¬(region.rectangles ++ [rectangle]).length >
      maximumRectangles := by
    rw [List.length_append, List.length_singleton]
    omega
  unfold add
  simp only [partly, Bool.false_eq_true, if_false, clipped,
    absorb_apart apart, short]
  refine ⟨rfl, ?_⟩
  exact (List.perm_insertionSort _ _).trans (List.perm_append_singleton _ _)

end DamageRegion

end Glasswyrm.Compositor
