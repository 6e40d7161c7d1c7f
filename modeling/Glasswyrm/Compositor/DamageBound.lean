import Glasswyrm.Compositor.DamageRegion
import Mathlib.Data.List.Induction

namespace Glasswyrm.Compositor

open Rectangle

/-! Damage regions stay small: their rectangles do not touch, and there are
never more of them than are allowed. -/

namespace Rectangle

theorem overlapsOrIsCompatiblyAdjacent_comm (left other : Rectangle) :
    left.overlapsOrIsCompatiblyAdjacent other =
      other.overlapsOrIsCompatiblyAdjacent left := by
  unfold overlapsOrIsCompatiblyAdjacent
  grind

/-- Rectangles that have a point in common touch. -/
theorem touches_of_contains {left other : Rectangle}
    (extents : left.hasValidExtents = true ∧ other.hasValidExtents = true)
    {x y : Int} (inLeft : left.Contains x y) (inOther : other.Contains x y) :
    left.overlapsOrIsCompatiblyAdjacent other = true := by
  have leftSolid := inLeft.not_empty
  have otherSolid := inOther.not_empty
  simp only [Contains] at inLeft inOther
  unfold overlapsOrIsCompatiblyAdjacent
  simp only [leftSolid, otherSolid, extents.1, extents.2, Bool.not_true,
    Bool.or_self, Bool.false_eq_true, if_false, Bool.or_eq_true,
    Bool.and_eq_true, decide_eq_true_eq]
  exact Or.inl (Or.inl (by omega))

theorem boundingUnion_extents {left other result : Rectangle}
    (united : left.boundingUnion other = some result)
    (leftValid : left.hasValidExtents = true)
    (otherValid : other.hasValidExtents = true) :
    result.hasValidExtents = true := by
  unfold boundingUnion at united
  simp only [leftValid, otherValid, Bool.not_true, Bool.or_self,
    Bool.false_eq_true, if_false] at united
  split at united
  · obtain rfl := Option.some.inj united
    exact otherValid
  split at united
  · obtain rfl := Option.some.inj united
    exact leftValid
  split at united
  · cases united
  · obtain rfl := Option.some.inj united
    rw [hasValidExtents_iff] at leftValid otherValid ⊢
    simp only [right, bottom] at leftValid otherValid ⊢
    omega

end Rectangle

namespace DamageRegion

instance : Std.Total Before := by
  refine ⟨fun left right => ?_⟩
  unfold Before
  grind

instance : IsTrans Rectangle Before := by
  refine ⟨fun first second third => ?_⟩
  unfold Before
  grind

/-- When the rounds are as many as the rectangles, the candidate absorbs all
that it touches. -/
theorem absorb_settled {rounds : Nat} {candidate united : Rectangle}
    {rectangles kept : List Rectangle} (enough : rectangles.length ≤ rounds)
    (absorbed : absorb rounds candidate rectangles = some (united, kept)) :
    kept.Sublist rectangles ∧ ∀ other ∈ kept,
      united.overlapsOrIsCompatiblyAdjacent other = false := by
  induction rounds generalizing candidate rectangles with
  | zero =>
      obtain ⟨rfl, rfl⟩ := Prod.mk.inj (Option.some.inj absorbed)
      obtain rfl := List.length_eq_zero_iff.mp (Nat.le_zero.mp enough)
      exact ⟨List.Sublist.refl _, List.forall_mem_nil _⟩
  | succ rounds ih =>
      unfold absorb at absorbed
      split at absorbed
      · rename_i none
        obtain ⟨rfl, rfl⟩ := Prod.mk.inj (Option.some.inj absorbed)
        refine ⟨List.Sublist.refl _, fun other member => ?_⟩
        simpa using List.find?_eq_none.mp none other member
      · rename_i touched found
        split at absorbed
        · cases absorbed
        · have member := List.mem_of_find?_eq_some found
          have fewer := List.length_erase_of_mem member
          obtain ⟨sublist, apart⟩ := ih (by omega) absorbed
          exact ⟨sublist.trans List.erase_sublist, apart⟩

/-- What every region has that was made by adding rectangles. -/
structure Bounded (region : DamageRegion) : Prop
    extends Wellformed region where
  extents : ∀ rectangle ∈ region.rectangles,
    rectangle.hasValidExtents = true
  apart : region.rectangles.Pairwise fun left right =>
    left.overlapsOrIsCompatiblyAdjacent right = false
  sorted : region.rectangles.Pairwise Before
  few : region.rectangles.length ≤ maximumRectangles

theorem addFullOutput_bounded (region : DamageRegion) :
    region.addFullOutput.Bounded := by
  refine ⟨addFullOutput_wellformed region, ?_, ?_, ?_, ?_⟩ <;>
    unfold addFullOutput <;> simp only <;> split
  · rename_i drawable
    rw [Bool.and_eq_true] at drawable
    exact List.forall_mem_singleton.mpr drawable.2
  · exact List.forall_mem_nil _
  · exact List.pairwise_singleton _ _
  · exact List.Pairwise.nil
  · exact List.pairwise_singleton _ _
  · exact List.Pairwise.nil
  · exact Nat.succ_le_of_lt (by decide : 0 < maximumRectangles)
  · exact Nat.zero_le _

theorem add_bounded {region : DamageRegion} (bounded : region.Bounded)
    (rectangle : Rectangle) : (region.add rectangle).Bounded := by
  have wellformed := add_wellformed bounded.toWellformed rectangle
  unfold add at wellformed ⊢
  split at wellformed
  · rename_i full
    rw [if_pos full]
    exact bounded
  rename_i partly
  rw [if_neg partly]
  split at wellformed
  · exact bounded
  · rename_i clipped meets
    split at wellformed
    · exact addFullOutput_bounded region
    · rename_i united kept absorbed
      simp only at wellformed ⊢
      split
      · exact addFullOutput_bounded _
      · rename_i short
        rw [if_neg short] at wellformed
        obtain ⟨sublist, separate⟩ :=
          absorb_settled (Nat.le_refl _) absorbed
        obtain ⟨own, others⟩ := absorb_keeps
          (fun rectangle => rectangle.hasValidExtents = true)
          boundingUnion_extents absorbed (intersection_some meets).2.2.1
          bounded.extents
        have order := List.perm_insertionSort Before (kept ++ [united])
        refine ⟨wellformed, fun part member => ?_, ?_,
          List.pairwise_insertionSort Before _, ?_⟩
        · rcases List.mem_append.mp (order.mem_iff.mp member) with held | last
          · exact others part held
          · obtain rfl := List.mem_singleton.mp last
            exact own
        · refine (order.symm.pairwise_iff fun {left right} apart => ?_).mp ?_
          · rw [overlapsOrIsCompatiblyAdjacent_comm]
            exact apart
          · refine List.pairwise_append.mpr ⟨bounded.apart.sublist sublist,
              List.pairwise_singleton _ _, fun left held right last => ?_⟩
            obtain rfl := List.mem_singleton.mp last
            rw [overlapsOrIsCompatiblyAdjacent_comm]
            exact separate left held
        · rw [normalize, List.length_insertionSort]
          exact Nat.le_of_not_gt short

/-- No point lies in two rectangles. -/
theorem Bounded.disjoint {region : DamageRegion} (bounded : region.Bounded) :
    region.rectangles.Pairwise fun left right =>
      ∀ x y, ¬(left.Contains x y ∧ right.Contains x y) := by
  refine bounded.apart.imp_of_mem fun {left right} here there apart x y => ?_
  rintro ⟨inLeft, inRight⟩
  have touching := touches_of_contains
    ⟨bounded.extents left here, bounded.extents right there⟩ inLeft inRight
  rw [apart] at touching
  cases touching

/-- Whatever is added, the rectangles stay within the bounds, apart, in order
and few, and cover what was added of them within the bounds, unless its far
edges are out of range: then it changes nothing. -/
theorem additions_exact (bounds : Rectangle) (rectangles : List Rectangle) :
    (rectangles.foldl add { outputBounds := bounds }).Bounded ∧
      ((rectangles.foldl add { outputBounds := bounds }).rectangles.Pairwise
        fun left right => ∀ x y, ¬(left.Contains x y ∧ right.Contains x y)) ∧
      (∀ rectangle ∈ (rectangles.foldl add
        { outputBounds := bounds }).rectangles, rectangle.Within bounds) ∧
      (∀ rectangle ∈ rectangles, bounds.hasValidExtents = true →
        rectangle.hasValidExtents = true → ∀ x y, bounds.Contains x y →
          rectangle.Contains x y →
            (rectangles.foldl add { outputBounds := bounds }).Covers x y) ∧
      ∀ rectangle : Rectangle, rectangle.hasValidExtents = false ∨
        bounds.hasValidExtents = false →
          (rectangles.foldl add { outputBounds := bounds }).add rectangle =
            rectangles.foldl add { outputBounds := bounds } := by
  have kept : (rectangles.foldl add { outputBounds := bounds }).Bounded ∧
      (rectangles.foldl add { outputBounds := bounds }).outputBounds =
        bounds ∧
      ∀ rectangle ∈ rectangles, bounds.hasValidExtents = true →
        rectangle.hasValidExtents = true → ∀ x y, bounds.Contains x y →
          rectangle.Contains x y →
            (rectangles.foldl add { outputBounds := bounds }).Covers x y := by
    induction rectangles using List.reverseRecOn with
    | nil =>
        exact ⟨⟨initial_wellformed bounds, List.forall_mem_nil _,
          List.Pairwise.nil, List.Pairwise.nil, Nat.zero_le _⟩, rfl,
          List.forall_mem_nil _⟩
    | append_singleton earlier last ih =>
        obtain ⟨bounded, same, covers⟩ := ih
        rw [List.foldl_append, List.foldl_cons, List.foldl_nil]
        refine ⟨add_bounded bounded last, (add_outputBounds _ last).trans same,
          List.forall_mem_append.mpr ⟨?_, ?_⟩⟩
        · intro rectangle member valid extents x y within inside
          exact (add_grows _ last).covers bounded.toWellformed
            (by rw [same]; exact valid) x y
            (covers rectangle member valid extents x y within inside)
        · refine List.forall_mem_singleton.mpr ?_
          intro valid extents x y within inside
          exact add_covers bounded.toWellformed (by rw [same]; exact valid)
            extents (.inr ⟨inside, by rw [same]; exact within⟩)
  obtain ⟨bounded, same, covers⟩ := kept
  refine ⟨bounded, bounded.disjoint, fun rectangle member => ?_, covers,
    fun rectangle invalid => ?_⟩
  · rw [← same]
    exact bounded.bounded rectangle member
  · refine add_invalid _ ?_
    rw [same]
    exact invalid

/-- A rectangle whose far edge is out of range is not covered where it lies
within the bounds. -/
theorem wide_addition_dropped :
    ¬(∀ x y, (⟨0, 0, 10, 10⟩ : Rectangle).Contains x y →
      (⟨0, 0, 4294967295, 10⟩ : Rectangle).Contains x y →
        ([⟨0, 0, 4294967295, 10⟩].foldl add
          { outputBounds := ⟨0, 0, 10, 10⟩ }).Covers x y) := by
  intro covers
  have covered := covers 0 0 (by decide) (by decide)
  rw [List.foldl_cons, List.foldl_nil,
    add_invalid _ (.inl (by decide))] at covered
  obtain ⟨_, member, _⟩ := covered
  cases member

end DamageRegion

end Glasswyrm.Compositor
