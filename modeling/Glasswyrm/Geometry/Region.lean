import Glasswyrm.Geometry.Rectangle
import Glasswyrm.Library.CheckedInteger
import Glasswyrm.Library.Coalesce
import Mathlib.Data.List.Induction
import Mathlib.Data.List.Sort

namespace Glasswyrm.Geometry

open Library

/-! Regions that cover what is added to them with few rectangles: two that
touch become the rectangle around both. -/

def touches (left right : Rectangle) : Bool :=
  left.x ≤ right.right && right.x ≤ left.right && left.y ≤ right.bottom &&
    right.y ≤ left.bottom

def bounds (left right : Rectangle) : Rectangle :=
  let x1 := min left.x right.x
  let y1 := min left.y right.y
  let x2 := max left.right right.right
  let y2 := max left.bottom right.bottom
  { x := x1
    y := y1
    width := castUint32 (x2 - x1)
    height := castUint32 (y2 - y1) }

def mergeTouching (left right : Rectangle) : Option Rectangle :=
  if touches left right then some (bounds left right) else none

structure Region where
  bounds : Rectangle
  rectangles : List Rectangle := []
deriving DecidableEq, Repr

namespace Region

def kMaximumRectangles : Nat := 1024

def add (region : Region) (rectangle : Rectangle) : Region :=
  match intersect region.bounds rectangle with
  | none => region
  | some clipped =>
      let rectangles := (settle mergeTouching
        (region.rectangles ++ [clipped])).insertionSort Before
      if kMaximumRectangles < rectangles.length then
        { region with rectangles := [region.bounds] }
      else { region with rectangles }

def empty (region : Region) : Bool := region.rectangles.isEmpty

/-! ## Merging -/

/-- A rectangle with an area that lies within the bounds. -/
structure Inside (outer rectangle : Rectangle) : Prop where
  solid : 0 < rectangle.width ∧ 0 < rectangle.height
  across : outer.x ≤ rectangle.x ∧ rectangle.right ≤ outer.right
  down : outer.y ≤ rectangle.y ∧ rectangle.bottom ≤ outer.bottom

theorem touches_comm (left right : Rectangle) :
    touches left right = touches right left := by
  unfold touches
  grind

theorem intersect_inside {outer rectangle clipped : Rectangle}
    (met : intersect outer rectangle = some clipped) :
    Inside outer clipped := by
  obtain ⟨x1, y1, x2, y2, width, height⟩ := intersect_some met
  exact ⟨⟨width, height⟩, by omega, by omega⟩

theorem inside_points {outer rectangle : Rectangle}
    (inside : Inside outer rectangle) : rectangle.points ⊆ outer.points := by
  obtain ⟨_, across, down⟩ := inside
  rintro point ⟨left, right, top, bottom⟩
  exact ⟨by omega, by omega, by omega, by omega⟩

theorem mergeTouching_joins {outer left right whole : Rectangle}
    (representable : outer.Representable)
    (merged : mergeTouching left right = some whole)
    (here : Inside outer left) (there : Inside outer right) :
    left.points ∪ right.points ⊆ whole.points ∧ Inside outer whole := by
  obtain ⟨⟨width1, height1⟩, across1, down1⟩ := here
  obtain ⟨⟨width2, height2⟩, across2, down2⟩ := there
  obtain ⟨_, _, wide, high⟩ := representable
  unfold mergeTouching at merged
  rw [ite_eq_iff] at merged
  obtain ⟨_, same⟩ | ⟨_, wrong⟩ := merged
  · obtain rfl := Option.some.inj same
    simp only [Rectangle.right, Rectangle.bottom] at *
    have width := castUint32_of_fits (max (left.x + left.width)
      (right.x + right.width) - min left.x right.x) (by omega) (by omega)
    have height := castUint32_of_fits (max (left.y + left.height)
      (right.y + right.height) - min left.y right.y) (by omega) (by omega)
    refine ⟨?_, ⟨?_, ?_⟩, ?_, ?_⟩
    · rintro point (inside | inside) <;>
        simp only [Geometry.bounds, Rectangle.points, Rectangle.Contains,
          Rectangle.right, Rectangle.bottom, Set.mem_ofPred_eq] at inside ⊢ <;>
        omega
    all_goals
      simp only [Geometry.bounds, Rectangle.right, Rectangle.bottom]
      omega
  · cases wrong

/-! ## What a region keeps -/

structure Wellformed (region : Region) : Prop where
  inside : ∀ rectangle ∈ region.rectangles, Inside region.bounds rectangle
  apart : region.rectangles.Pairwise fun left right =>
    touches left right = false
  sorted : region.rectangles.Pairwise Before
  few : region.rectangles.length ≤ kMaximumRectangles

theorem add_bounds (region : Region) (rectangle : Rectangle) :
    (region.add rectangle).bounds = region.bounds := by
  unfold add
  split
  · rfl
  · simp only
    split <;> rfl

/-- What is kept after an addition, and what it covers. -/
theorem add_wellformed {region : Region} (wellformed : region.Wellformed)
    (representable : region.bounds.Representable) (rectangle : Rectangle) :
    (region.add rectangle).Wellformed ∧
      covered Rectangle.points region.rectangles ∪
          (region.bounds.points ∩ rectangle.points) ⊆
        covered Rectangle.points (region.add rectangle).rectangles := by
  unfold add
  split
  · rename_i apart
    refine ⟨wellformed, Set.union_subset subset_rfl ?_⟩
    exact fun point both =>
      absurd both (intersect_none apart point.1 point.2)
  · rename_i clipped met
    have clip := intersect_inside met
    have inside : ∀ part ∈ region.rectangles ++ [clipped],
        Inside region.bounds part :=
      List.forall_mem_append.mpr
        ⟨wellformed.inside, List.forall_mem_singleton.mpr clip⟩
    obtain ⟨covers, kept⟩ :=
      (settle_coalesced mergeTouching _).covers_more
        Rectangle.points (Inside region.bounds)
        (fun _ _ _ merged => mergeTouching_joins representable merged) inside
    have order := List.perm_insertionSort Before
      (settle mergeTouching (region.rectangles ++ [clipped]))
    rw [covered_append, covered_cons, covered_nil, Set.union_empty,
      intersect_points met] at covers
    simp only
    split
    · have whole : Inside region.bounds region.bounds := by
        obtain ⟨solid, across, down⟩ := clip
        simp only [Rectangle.right, Rectangle.bottom] at across down
        exact ⟨by omega, ⟨le_rfl, le_rfl⟩, le_rfl, le_rfl⟩
      refine ⟨⟨List.forall_mem_singleton.mpr whole,
        List.pairwise_singleton _ _, List.pairwise_singleton _ _,
        Nat.succ_le_of_lt (by decide : 0 < kMaximumRectangles)⟩, ?_⟩
      rw [covered_cons, covered_nil, Set.union_empty]
      refine Set.union_subset ?_ Set.inter_subset_left
      rintro point ⟨part, member, within⟩
      exact inside_points (wellformed.inside part member) within
    · rename_i few
      refine ⟨⟨fun part member => kept part (order.mem_iff.mp member), ?_,
        List.pairwise_insertionSort Before _, Nat.le_of_not_lt few⟩, ?_⟩
      · have settled := settle_settled mergeTouching
          (region.rectangles ++ [clipped])
        refine (order.symm.pairwise_iff ?_).mp (settled.imp ?_)
        · intro left right separate
          rw [touches_comm]
          exact separate
        · intro left right unmerged
          unfold mergeTouching at unmerged
          by_contra touching
          rw [if_pos (by simpa using touching)] at unmerged
          cases unmerged
      · exact covers.trans (covered_perm order.symm).subset

/-! ## Queries -/

/-- Two rectangles meet where they have points in common. -/
theorem intersect_isSome_iff (left right : Rectangle) :
    (intersect left right).isSome ↔ (left.points ∩ right.points).Nonempty := by
  cases met : intersect left right with
  | none =>
      refine iff_of_false (by simp) ?_
      rintro ⟨point, both⟩
      exact intersect_none met point.1 point.2 both
  | some both =>
      obtain ⟨_, _, _, _, width, height⟩ := intersect_some met
      refine iff_of_true rfl ?_
      rw [← intersect_points met]
      refine ⟨(both.x, both.y), ?_⟩
      simp only [Rectangle.mem_points, Rectangle.Contains, Rectangle.right,
        Rectangle.bottom]
      omega

/-- What asking the rectangles of a region tells of the points it covers. -/
structure Answers (region : Region) : Prop where
  empty : region.empty = true ↔
    covered Rectangle.points region.rectangles = ∅
  intersects : ∀ query : Rectangle,
    (∃ rectangle ∈ region.rectangles, (intersect rectangle query).isSome) ↔
      (covered Rectangle.points region.rectangles ∩ query.points).Nonempty

theorem Wellformed.answers {region : Region} (wellformed : region.Wellformed) :
    region.Answers := by
  have intersects : ∀ query : Rectangle,
      (∃ rectangle ∈ region.rectangles, (intersect rectangle query).isSome) ↔
        (covered Rectangle.points region.rectangles ∩
          query.points).Nonempty := by
    intro query
    simp only [intersect_isSome_iff]
    constructor
    · rintro ⟨rectangle, member, point, inside, asked⟩
      exact ⟨point, ⟨rectangle, member, inside⟩, asked⟩
    · rintro ⟨point, ⟨rectangle, member, inside⟩, asked⟩
      exact ⟨rectangle, member, point, inside, asked⟩
  refine ⟨?_, intersects⟩
  unfold empty
  rw [List.isEmpty_iff]
  constructor
  · intro none
    rw [none, covered_nil]
  · intro nothing
    by_contra some
    obtain ⟨rectangle, rest, held⟩ := List.exists_cons_of_ne_nil some
    have member : rectangle ∈ region.rectangles := by
      rw [held]
      exact List.mem_cons_self
    have solid := (wellformed.inside rectangle member).solid
    have corner : (rectangle.x, rectangle.y) ∈
        covered Rectangle.points region.rectangles := by
      refine ⟨rectangle, member, ?_⟩
      simp only [Rectangle.mem_points, Rectangle.Contains, Rectangle.right,
        Rectangle.bottom]
      omega
    rw [nothing] at corner
    exact corner

/-- Whatever is added, what lies within the bounds is covered by few
rectangles that do not touch one another. -/
theorem additions_covered {outer : Rectangle}
    (representable : outer.Representable) (rectangles : List Rectangle) :
    (rectangles.foldl add { bounds := outer }).Wellformed ∧
      (∀ rectangle ∈ rectangles, outer.points ∩ rectangle.points ⊆
        covered Rectangle.points
          (rectangles.foldl add { bounds := outer }).rectangles) ∧
      (rectangles.foldl add { bounds := outer }).Answers := by
  have kept : (rectangles.foldl add { bounds := outer }).bounds = outer ∧
      (rectangles.foldl add { bounds := outer }).Wellformed ∧
      ∀ rectangle ∈ rectangles, outer.points ∩ rectangle.points ⊆
        covered Rectangle.points
          (rectangles.foldl add { bounds := outer }).rectangles := by
    induction rectangles using List.reverseRecOn with
    | nil =>
        exact ⟨rfl, ⟨List.forall_mem_nil _, List.Pairwise.nil,
          List.Pairwise.nil, Nat.zero_le _⟩, List.forall_mem_nil _⟩
    | append_singleton earlier last ih =>
        obtain ⟨same, wellformed, covers⟩ := ih
        rw [List.foldl_append, List.foldl_cons, List.foldl_nil]
        obtain ⟨after, more⟩ :=
          add_wellformed wellformed (by rw [same]; exact representable) last
        rw [same] at more
        refine ⟨(add_bounds _ last).trans same, after,
          List.forall_mem_append.mpr ⟨fun rectangle member => ?_, ?_⟩⟩
        · exact (covers rectangle member).trans
            (Set.subset_union_left.trans more)
        · exact List.forall_mem_singleton.mpr
            (Set.subset_union_right.trans more)
  exact ⟨kept.2.1, kept.2.2, kept.2.1.answers⟩

theorem additions_covered_two :
    ([⟨0, 0, 2, 2⟩, ⟨2, 2, 4, 4⟩].foldl add
      { bounds := ⟨0, 0, 8, 8⟩ }).Wellformed :=
  (@additions_covered ⟨0, 0, 8, 8⟩ (by decide)
    [⟨0, 0, 2, 2⟩, ⟨2, 2, 4, 4⟩]).1

end Region

end Glasswyrm.Geometry
