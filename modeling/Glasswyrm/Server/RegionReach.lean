import Glasswyrm.Server.RegionAlgebra

namespace Glasswyrm.Server.XFixesRegion

open Glasswyrm.Geometry (Rectangle intersect intersect_some intersect_points)
open Library

/-! Where a rectangle is cut, the offset of the cut is a signed 32-bit
difference.  A function on regions has a meaning when every rectangle that it
comes to cut can be cut. -/

def CutsFit (held : Nat) (fragments : List Rectangle) (removed : Rectangle) :
    Prop :=
  Meets (cutFragment held removed) (fun _ fragment => CutFits fragment removed)
    [] fragments

def AdditionFits (destination : List Rectangle) (rectangle : Rectangle) :
    Prop :=
  valid rectangle = true →
    Meets (cutFragments destination.length) (CutsFit destination.length)
      [rectangle] destination

def AdditionsFit (destination rectangles : List Rectangle) : Prop :=
  Meets addRectangle AdditionFits destination rectangles

def NormalizeFits (rectangles : List Rectangle) : Prop :=
  rectangles.length ≤ kMaximumXFixesRegionRectangles →
    AdditionsFit [] rectangles

def UnionFits (left right : List Rectangle) : Prop :=
  NormalizeFits left ∧
    ∀ result, normalizeRegion left = .ok result → AdditionsFit result right

def OverlapFits (first : Rectangle) (intersections : List Rectangle)
    (second : Rectangle) : Prop :=
  ∀ overlap, intersect first second = some overlap →
    AdditionFits intersections overlap

def OverlapsFit (right intersections : List Rectangle) (first : Rectangle) :
    Prop :=
  Meets (overlapWith first) (OverlapFits first) intersections right

def IntersectFits (left right : List Rectangle) : Prop :=
  Meets (overlapsWith right) (OverlapsFit right) [] left

def SubtractionFits (result : List Rectangle) (removed : Rectangle) : Prop :=
  CutsFit 0 result removed ∧
    ∀ next, cutFragments 0 result removed = .ok next → NormalizeFits next

def SubtractFits (left right : List Rectangle) : Prop :=
  NormalizeFits left ∧
    ∀ result, normalizeRegion left = .ok result →
      Meets subtractFrom SubtractionFits result right

/-! ## What has no meaning -/

theorem cutFragments_overflow (held : Nat) (fragments : List Rectangle)
    (removed : Rectangle) :
    cutFragments held fragments removed = .error .overflow ↔
      ¬CutsFit held fragments removed := by
  refine foldlM_error_iff (fun next fragment => ?_) [] fragments
  unfold cutFragment
  rw [Except.bind_eq_error_iff, subtractOne_error]
  simp only [true_and, or_iff_left_iff_imp]
  rintro ⟨pieces, _, failed⟩
  rw [ite_eq_iff] at failed
  obtain ⟨_, wrong⟩ | ⟨_, wrong⟩ := failed <;> cases wrong

theorem addRectangle_overflow (destination : List Rectangle)
    (rectangle : Rectangle) :
    addRectangle destination rectangle = .error .overflow ↔
      ¬AdditionFits destination rectangle := by
  have outside : fragmentsOutside destination rectangle = .error .overflow ↔
      ¬Meets (cutFragments destination.length) (CutsFit destination.length)
        [rectangle] destination :=
    foldlM_error_iff (cutFragments_overflow destination.length) _ _
  unfold addRectangle AdditionFits
  split
  · rename_i refused
    have invalid : valid rectangle ≠ true := by simpa using refused
    refine iff_of_false (fun failed => ?_) (fun fits =>
      fits fun admitted => absurd admitted invalid)
    rw [ite_eq_iff] at failed
    obtain ⟨_, wrong⟩ | ⟨_, wrong⟩ := failed <;> cases wrong
  · rename_i admitted
    rw [Except.bind_eq_error_iff, outside, Classical.not_imp,
      and_iff_right (by simpa using admitted)]
    simp only [or_iff_left_iff_imp]
    rintro ⟨fragments, _, failed⟩
    rw [ite_eq_iff] at failed
    obtain ⟨_, wrong⟩ | ⟨_, wrong⟩ := failed <;> cases wrong

theorem addRectangles_overflow (destination rectangles : List Rectangle) :
    addRectangles destination rectangles = .error .overflow ↔
      ¬AdditionsFit destination rectangles :=
  foldlM_error_iff addRectangle_overflow destination rectangles

theorem normalizeRegion_overflow (rectangles : List Rectangle) :
    normalizeRegion rectangles = .error .overflow ↔
      ¬NormalizeFits rectangles := by
  unfold normalizeRegion NormalizeFits
  split
  · rename_i many
    refine iff_of_false (fun wrong => ?_) (fun fits => fits fun few => ?_)
    · cases wrong
    · omega
  · rename_i few
    rw [addRectangles_overflow, Classical.not_imp,
      and_iff_right (Nat.le_of_not_lt few)]

/-- Two stages, of which the second takes what the first makes. -/
theorem bind_overflow_iff {α β : Type} {first : Except RegionFault α}
    {second : α → Except RegionFault β} {fits : Prop} {allowed : α → Prop}
    (begins : first = .error .overflow ↔ ¬fits)
    (goes : ∀ value, second value = .error .overflow ↔ ¬allowed value) :
    (first >>= second) = .error .overflow ↔
      ¬(fits ∧ ∀ value, first = .ok value → allowed value) := by
  rw [Except.bind_eq_error_iff, begins, not_and_or]
  refine or_congr_right ?_
  simp only [goes, not_forall]
  exact exists_congr fun value => exists_prop.symm

theorem unionRegions_overflow (left right : List Rectangle) :
    unionRegions left right = .error .overflow ↔ ¬UnionFits left right :=
  bind_overflow_iff (normalizeRegion_overflow left)
    fun result => addRectangles_overflow result right

theorem overlapWith_overflow (first : Rectangle)
    (intersections : List Rectangle) (second : Rectangle) :
    overlapWith first intersections second = .error .overflow ↔
      ¬OverlapFits first intersections second := by
  unfold overlapWith OverlapFits
  cases met : intersect first second with
  | none => simp [pure, Except.pure]
  | some overlap =>
      simp only [Option.some.injEq, forall_eq']
      exact addRectangle_overflow intersections overlap

theorem intersectRegions_overflow (left right : List Rectangle) :
    intersectRegions left right = .error .overflow ↔
      ¬IntersectFits left right :=
  foldlM_error_iff
    (fun intersections first =>
      foldlM_error_iff (overlapWith_overflow first) intersections right)
    [] left

theorem subtractFrom_overflow (result : List Rectangle)
    (removed : Rectangle) :
    subtractFrom result removed = .error .overflow ↔
      ¬SubtractionFits result removed :=
  bind_overflow_iff (cutFragments_overflow 0 result removed)
    normalizeRegion_overflow

theorem subtractRegions_overflow (left right : List Rectangle) :
    subtractRegions left right = .error .overflow ↔
      ¬SubtractFits left right :=
  bind_overflow_iff (normalizeRegion_overflow left)
    fun result => foldlM_error_iff subtractFrom_overflow result right

/-! ## What is refused

A function answers with no region only where it comes to hold more rectangles
than a region may have, or is given one that reaches beyond 32 bits. -/

/-- A rectangle that is empty or ends within 32 bits. -/
def Near (rectangle : Rectangle) : Prop :=
  rectangle.empty = true ∨ valid rectangle = true

instance (rectangle : Rectangle) : Decidable (Near rectangle) :=
  inferInstanceAs (Decidable (_ ∨ _))

def Narrow (points : Set (Int × Int)) : Prop :=
  ∀ rectangle : Rectangle, rectangle.empty = false →
    rectangle.points ⊆ points →
      rectangle.width ≤ 2 ^ 31 ∧ rectangle.height ≤ 2 ^ 31

theorem narrow_of_box {box : Rectangle} {points : Set (Int × Int)}
    (small : box.width ≤ 2 ^ 31 ∧ box.height ≤ 2 ^ 31)
    (inside : points ⊆ box.points) : Narrow points := by
  intro rectangle full within
  have edges := Rectangle.extents_le_of_points_subset full
    (within.trans inside)
  simp only [Rectangle.right, Rectangle.bottom] at edges
  omega

theorem Narrow.subset {points other : Set (Int × Int)} (narrow : Narrow points)
    (inside : other ⊆ points) : Narrow other :=
  fun rectangle full within => narrow rectangle full (within.trans inside)

theorem cutFits_of_extents {source removed : Rectangle}
    (width : source.width ≤ 2 ^ 31) (height : source.height ≤ 2 ^ 31) :
    CutFits source removed := by
  intro overlap met
  obtain ⟨x1, y1, x2, y2, wide, high⟩ := intersect_some met
  simp only [Rectangle.right, Rectangle.bottom] at x2 y2
  omega

theorem cutsFit_of_narrow {held : Nat} {fragments : List Rectangle}
    {removed : Rectangle} {points : Set (Int × Int)} (narrow : Narrow points)
    (makes : MakeUp fragments points) : CutsFit held fragments removed := by
  refine Meets.of_invariant (fun _ => True) ?_
    (fun _ _ _ _ _ _ => trivial) trivial
  intro _ fragment member _
  have extents := narrow fragment (makes.sound fragment member).not_empty
    (makes.subset member)
  exact cutFits_of_extents extents.1 extents.2

theorem additionFits_of_narrow {destination : List Rectangle}
    {rectangle : Rectangle} (representable : rectangle.Representable)
    (narrow : Narrow rectangle.points) :
    AdditionFits destination rectangle := by
  intro admitted
  refine Meets.of_invariant (fun fragments => ∃ points,
    MakeUp fragments points ∧ points ⊆ rectangle.points) ?_ ?_
    ⟨rectangle.points, makeUp_single ⟨representable, admitted⟩ rfl, le_rfl⟩
  · rintro fragments removed _ ⟨points, makes, inside⟩
    exact cutsFit_of_narrow (narrow.subset inside) makes
  · rintro fragments removed _ next ⟨points, makes, inside⟩ cut
    exact ⟨_, cutFragments_makeUp makes cut, Set.sdiff_subset.trans inside⟩

theorem additionsFit_of_narrow {destination rectangles : List Rectangle}
    (representable : ∀ rectangle ∈ rectangles, rectangle.Representable)
    (narrow : Narrow (covered Rectangle.points rectangles)) :
    AdditionsFit destination rectangles :=
  Meets.of_invariant (fun _ => True)
    (fun _ rectangle member _ =>
      additionFits_of_narrow (representable rectangle member)
        (narrow.subset (shape_subset_covered member)))
    (fun _ _ _ _ _ _ => trivial) trivial

section

variable {left right : List Rectangle}
  (first : ∀ rectangle ∈ left, rectangle.Representable)
  (narrow : Narrow (covered Rectangle.points left))

include first narrow

theorem normalizeFits_of_narrow : NormalizeFits left :=
  fun _ => additionsFit_of_narrow first narrow

theorem unionFits_of_narrow
    (second : ∀ rectangle ∈ right, rectangle.Representable)
    (also : Narrow (covered Rectangle.points right)) :
    UnionFits left right :=
  ⟨normalizeFits_of_narrow first narrow,
    fun _ _ => additionsFit_of_narrow second also⟩

theorem intersectFits_of_narrow
    (second : ∀ rectangle ∈ right, rectangle.Representable) :
    IntersectFits left right := by
  refine Meets.of_invariant (fun _ => True) ?_
    (fun _ _ _ _ _ _ => trivial) trivial
  intro _ rectangle member _
  refine Meets.of_invariant (fun _ => True) ?_
    (fun _ _ _ _ _ _ => trivial) trivial
  intro _ other also _ overlap met
  refine additionFits_of_narrow
    (overlap_representable (first rectangle member) (second other also) met)
    (narrow.subset ?_)
  rw [intersect_points met]
  exact Set.inter_subset_left.trans (shape_subset_covered member)

theorem subtractFits_of_narrow : SubtractFits left right := by
  refine ⟨normalizeFits_of_narrow first narrow, fun result normalized => ?_⟩
  refine Meets.of_invariant (fun result => ∃ points,
    IsRegion result points ∧ points ⊆ covered Rectangle.points left) ?_ ?_
    ⟨_, normalizeRegion_isRegion first normalized, le_rfl⟩
  · rintro state removed _ ⟨points, region, inner⟩
    refine ⟨cutsFit_of_narrow (narrow.subset inner) region.toMakeUp,
      fun next cut => ?_⟩
    have makes := cutFragments_makeUp region.toMakeUp cut
    refine normalizeFits_of_narrow makes.representable (narrow.subset ?_)
    rw [makes.covers]
    exact Set.sdiff_subset.trans inner
  · rintro state removed _ next ⟨points, region, inner⟩ taken
    exact ⟨_, subtractFrom_isRegion region taken,
      Set.sdiff_subset.trans inner⟩

end

end Glasswyrm.Server.XFixesRegion
