import Glasswyrm.Library.CyclicEdges
import Mathlib.Analysis.Convex.Hull
import Mathlib.Analysis.Convex.Segment
import Mathlib.Data.List.Triplewise
import Mathlib.Data.Real.Basic
import Mathlib.Tactic.FieldSimp
import Mathlib.Tactic.Linarith
import Mathlib.Tactic.LinearCombination

namespace Glasswyrm.Server

open Library

/-! Convex polygons over the grid of pixels, and the centres that they
contain. -/

structure RasterPoint where
  x : Int := 0
  y : Int := 0
deriving DecidableEq, Repr

/-- Twice the signed area of a triangle. -/
def turn (a b c : RasterPoint) : Int :=
  (b.x - a.x) * (c.y - a.y) - (b.y - a.y) * (c.x - a.x)

/-- The vertices are listed in order along a convex curve that runs round the
polygon once, one way or the other; vertices may coincide or lie on an edge. -/
structure ConvexPolygon (points : List RasterPoint) (side : Int) : Prop where
  orientation : side = 1 ∨ side = -1
  turns : points.Triplewise fun a b c => 0 ≤ side * turn a b c
  solid : ∃ a ∈ points, ∃ b ∈ points, ∃ c ∈ points, turn a b c ≠ 0

/-! ## Turns -/

theorem turn_rotate (a b c : RasterPoint) : turn a b c = turn b c a := by
  unfold turn
  ring

theorem turn_swap (a b c : RasterPoint) : turn a b c = -turn a c b := by
  unfold turn
  ring

/-- Four points and the turns of each three of them. -/
theorem turn_balance (a b c d : RasterPoint) (h : Int) :
    turn b c d * (2 * a.y - h) + turn a b d * (2 * c.y - h) =
      turn a c d * (2 * b.y - h) + turn a b c * (2 * d.y - h) := by
  unfold turn
  ring

/-- On a line every two points turn to a third one the same way. -/
theorem turn_on_line {a b c d : RasterPoint} (isC : turn a b c = 0)
    (isD : turn a b d = 0) (point : RasterPoint) :
    turn c d point * (b.y - a.y) = turn a b point * (d.y - c.y) := by
  unfold turn at *
  linear_combination (point.y - d.y) * isC - (point.y - c.y) * isD

namespace ConvexPolygon

variable {points : List RasterPoint} {side : Int}
  (convex : ConvexPolygon points side)

include convex

theorem turns_at {i j k : Nat} {a b c : RasterPoint} (ij : i < j) (jk : j < k)
    (isA : points[i]? = some a) (isB : points[j]? = some b)
    (isC : points[k]? = some c) : 0 ≤ side * turn a b c := by
  obtain ⟨_, rfl⟩ := List.getElem?_eq_some_iff.mp isA
  obtain ⟨_, rfl⟩ := List.getElem?_eq_some_iff.mp isB
  obtain ⟨last, rfl⟩ := List.getElem?_eq_some_iff.mp isC
  exact List.triplewise_iff_getElem.mp convex.turns i j k ij jk last

/-- A line that all vertices lie on leaves the polygon no area. -/
theorem not_on_line {a b : RasterPoint} (slanted : b.y ≠ a.y)
    (line : ∀ point ∈ points, turn a b point = 0) : False := by
  obtain ⟨p, isP, q, isQ, r, isR, solid⟩ := convex.solid
  have same := turn_on_line (line p isP) (line q isQ) r
  rw [line r isR, zero_mul] at same
  rcases mul_eq_zero.mp same with flat | level
  · exact solid flat
  · exact slanted (by omega)

section

variable {i j k l : Nat} {a b c d : RasterPoint} (ij : i < j) (jk : j < k)
  (kl : k < l) (isA : points[i]? = some a) (isB : points[j]? = some b)
  (isC : points[k]? = some c) (isD : points[l]? = some d) {h s : Int}

include ij jk kl isA isB isC isD

/-- Four vertices that lie below and above a height in turn are on a line. -/
theorem alternating_flat (below : s * (2 * a.y - h) < 0)
    (above : 0 < s * (2 * b.y - h)) (below' : s * (2 * c.y - h) < 0)
    (above' : 0 < s * (2 * d.y - h)) :
    side * turn a b c = 0 ∧ side * turn a b d = 0 := by
  have bcd := convex.turns_at jk kl isB isC isD
  have acd := convex.turns_at (ij.trans jk) kl isA isC isD
  have abd := convex.turns_at ij (jk.trans kl) isA isB isD
  have abc := convex.turns_at ij jk isA isB isC
  have balance : side * turn b c d * (s * (2 * a.y - h)) +
      side * turn a b d * (s * (2 * c.y - h)) =
        side * turn a c d * (s * (2 * b.y - h)) +
          side * turn a b c * (s * (2 * d.y - h)) := by
    linear_combination side * s * turn_balance a b c d h
  have first := mul_nonpos_of_nonneg_of_nonpos bcd below.le
  have second := mul_nonpos_of_nonneg_of_nonpos abd below'.le
  have third := mul_nonneg acd above.le
  have fourth := mul_nonneg abc above'.le
  constructor
  · have none : side * turn a b c * (s * (2 * d.y - h)) = 0 := by linarith
    exact (mul_eq_zero.mp none).resolve_right above'.ne'
  · have none : side * turn a b d * (s * (2 * c.y - h)) = 0 := by linarith
    exact (mul_eq_zero.mp none).resolve_right below'.ne

/-- The vertices do not alternate about a height. -/
theorem not_alternating (below : s * (2 * a.y - h) < 0)
    (above : 0 < s * (2 * b.y - h)) (below' : s * (2 * c.y - h) < 0)
    (above' : 0 < s * (2 * d.y - h)) : False := by
  have real : side ≠ 0 := by
    rcases convex.orientation with rfl | rfl <;> decide
  obtain ⟨abc, abd⟩ :=
    convex.alternating_flat ij jk kl isA isB isC isD below above below' above'
  replace abc := (mul_eq_zero.mp abc).resolve_left real
  replace abd := (mul_eq_zero.mp abd).resolve_left real
  have up : 0 < s * (b.y - a.y) := by linarith
  have down : s * (c.y - b.y) < 0 := by linarith
  have again : 0 < s * (d.y - c.y) := by linarith
  have whole : 0 < s * (d.y - a.y) := by linarith
  have aba : turn a b a = 0 := by unfold turn; ring
  have abb : turn a b b = 0 := by unfold turn; ring
  -- what a turn at another two of the four says about the turn at the first two
  have fall (point : RasterPoint) (held : 0 ≤ side * turn b c point) :
      side * turn a b point ≤ 0 := by
    have same : side * turn b c point * (s * (b.y - a.y)) =
        side * turn a b point * (s * (c.y - b.y)) := by
      linear_combination side * s * turn_on_line abb abc point
    by_contra positive
    have left := mul_nonneg held up.le
    have right := mul_neg_of_pos_of_neg (not_le.mp positive) down
    linarith
  have rise (point : RasterPoint) (held : 0 ≤ side * turn c d point) :
      0 ≤ side * turn a b point := by
    have same : side * turn c d point * (s * (b.y - a.y)) =
        side * turn a b point * (s * (d.y - c.y)) := by
      linear_combination side * s * turn_on_line abc abd point
    by_contra negative
    have left := mul_nonneg held up.le
    have right := mul_neg_of_neg_of_pos (not_le.mp negative) again
    linarith
  have span (point : RasterPoint) (held : 0 ≤ side * turn a point d) :
      side * turn a b point ≤ 0 := by
    have same : side * turn a d point * (s * (b.y - a.y)) =
        side * turn a b point * (s * (d.y - a.y)) := by
      linear_combination side * s * turn_on_line aba abd point
    rw [turn_swap] at held
    by_contra positive
    have left : side * turn a d point * (s * (b.y - a.y)) ≤ 0 :=
      mul_nonpos_of_nonpos_of_nonneg (by linarith) up.le
    have right := mul_pos (not_le.mp positive) whole
    linarith
  refine convex.not_on_line (a := a) (b := b) ?_ fun point member => ?_
  · rintro same
    rw [same, sub_self, mul_zero] at up
    exact lt_irrefl 0 up
  obtain ⟨t, isPoint⟩ := List.mem_iff_getElem?.mp member
  suffices none : side * turn a b point = 0 from
    (mul_eq_zero.mp none).resolve_left real
  rcases lt_trichotomy t i with before | rfl | after
  · have mab := convex.turns_at before ij isPoint isA isB
    have mbc := convex.turns_at (before.trans ij) jk isPoint isB isC
    rw [turn_rotate] at mab mbc
    exact le_antisymm (fall point mbc) mab
  · rw [isA] at isPoint
    obtain rfl := Option.some.inj isPoint
    rw [aba, mul_zero]
  rcases lt_trichotomy t j with before | rfl | after'
  · have mbc := convex.turns_at before jk isPoint isB isC
    have mcd := convex.turns_at (before.trans jk) kl isPoint isC isD
    rw [turn_rotate] at mbc mcd
    exact le_antisymm (fall point mbc) (rise point mcd)
  · rw [isB] at isPoint
    obtain rfl := Option.some.inj isPoint
    rw [abb, mul_zero]
  have abm := convex.turns_at ij after' isA isB isPoint
  rcases lt_trichotomy t k with before | rfl | after''
  · have amd := convex.turns_at after (before.trans kl) isA isPoint isD
    exact le_antisymm (span point amd) abm
  · rw [isC] at isPoint
    obtain rfl := Option.some.inj isPoint
    rw [abc, mul_zero]
  · have bcm := convex.turns_at jk after'' isB isC isPoint
    exact le_antisymm (fall point bcm) abm

end

end ConvexPolygon

/-! ## The edges about a row -/

/-- Twice the height of the centres of a row. -/
def scanHeight (y : Int) : Int := 2 * y + 1

def belowHeight (h : Int) (point : RasterPoint) : Bool := 2 * point.y < h

namespace ConvexPolygon

variable {points : List RasterPoint} {side : Int}
  (convex : ConvexPolygon points side)

include convex

theorem neverAlternates (row : Int) :
    NeverAlternates (belowHeight (scanHeight row)) points := by
  intro i j k l w x y z ij jk kl isW isX isY isZ leaves returns
  by_contra leaves'
  unfold belowHeight scanHeight at *
  by_cases below : 2 * w.y < 2 * row + 1
  · simp only [below, decide_true, ne_eq,
      decide_eq_true_eq] at leaves returns leaves'
    exact @not_alternating points side convex i j k l w x y z ij jk kl isW isX
      isY isZ (2 * row + 1) 1 (by omega) (by omega) (by omega) (by omega)
  · simp only [below, decide_false, ne_eq, decide_eq_false_iff_not,
      Decidable.not_not] at leaves returns leaves'
    exact @not_alternating points side convex i j k l w x y z ij jk kl isW isX
      isY isZ (2 * row + 1) (-1) (by omega) (by omega) (by omega) (by omega)

/-- All vertices lie on the inner side of every edge. -/
theorem supported {edge : RasterPoint × RasterPoint}
    (member : edge ∈ cyclicEdges points) {point : RasterPoint}
    (vertex : point ∈ points) : 0 ≤ side * turn edge.1 edge.2 point := by
  obtain ⟨t, isPoint⟩ := List.mem_iff_getElem?.mp vertex
  obtain ⟨i, inside, rfl⟩ := List.mem_iff_getElem.mp member
  rw [cyclicEdges, List.length_zip, List.length_rotate, Nat.min_self] at inside
  simp only [cyclicEdges, List.getElem_zip, List.getElem_rotate]
  have isFirst : points[i]? = some points[i] := List.getElem?_eq_getElem inside
  have flat (a : RasterPoint) : turn a a point = 0 := by unfold turn; ring
  have atFirst (a b : RasterPoint) : turn a b a = 0 := by unfold turn; ring
  have atSecond (a b : RasterPoint) : turn a b b = 0 := by unfold turn; ring
  by_cases last : i + 1 < points.length
  · simp only [Nat.mod_eq_of_lt last]
    have isSecond : points[i + 1]? = some points[i + 1] :=
      List.getElem?_eq_getElem last
    rcases lt_trichotomy t i with before | rfl | after
    · rw [← turn_rotate]
      exact convex.turns_at before (Nat.lt_succ_self i) isPoint isFirst isSecond
    · rw [isFirst] at isPoint
      obtain rfl := Option.some.inj isPoint
      rw [atFirst, mul_zero]
    · rcases Nat.eq_or_lt_of_le after with rfl | after
      · rw [isSecond] at isPoint
        obtain rfl := Option.some.inj isPoint
        rw [atSecond, mul_zero]
      · exact convex.turns_at (Nat.lt_succ_self i) after isFirst isSecond
          isPoint
  · have wrap : i + 1 = points.length := by omega
    simp only [wrap, Nat.mod_self]
    have isSecond : points[0]? = some points[0] :=
      List.getElem?_eq_getElem (by omega)
    rw [turn_rotate]
    rcases Nat.eq_zero_or_pos t with rfl | after
    · rw [isSecond] at isPoint
      obtain rfl := Option.some.inj isPoint
      rw [← turn_rotate, atSecond, mul_zero]
    · rcases lt_trichotomy t i with before | rfl | beyond
      · exact convex.turns_at after before isSecond isPoint isFirst
      · rw [isFirst] at isPoint
        obtain rfl := Option.some.inj isPoint
        rw [← turn_rotate, atFirst, mul_zero]
      · have short := (List.getElem?_eq_some_iff.mp isPoint).1
        omega

end ConvexPolygon

/-! ## The area of the polygon -/

/-- The points of a polygon in the plane. -/
def polygonArea (points : List RasterPoint) : Set (ℝ × ℝ) :=
  convexHull ℝ {p | ∃ v ∈ points, p = ((v.x : ℝ), (v.y : ℝ))}

noncomputable def pixelCentre (x y : Int) : ℝ × ℝ := ((x : ℝ) + 1 / 2, (y : ℝ) + 1 / 2)

/-- The centre of a pixel lies in the polygon, and so does a point to its left:
a centre on the right boundary counts, one on the left boundary does not. -/
def CentreCovered (points : List RasterPoint) (x y : Int) : Prop :=
  pixelCentre x y ∈ polygonArea points ∧
    ∃ u < (x : ℝ) + 1 / 2, (u, (y : ℝ) + 1 / 2) ∈ polygonArea points

theorem vertex_mem {points : List RasterPoint} {v : RasterPoint}
    (vertex : v ∈ points) : ((v.x : ℝ), (v.y : ℝ)) ∈ polygonArea points :=
  subset_convexHull ℝ _ ⟨v, vertex, rfl⟩

/-- What holds of a linear function at the vertices holds in the area. -/
theorem area_bounded {points : List RasterPoint} {α β γ : ℝ}
    (bounded : ∀ v ∈ points, γ ≤ α * v.x + β * v.y) {p : ℝ × ℝ}
    (member : p ∈ polygonArea points) : γ ≤ α * p.1 + β * p.2 := by
  have linear : IsLinearMap ℝ fun p : ℝ × ℝ => α * p.1 + β * p.2 := by
    constructor
    · intro p q
      simp only [Prod.fst_add, Prod.snd_add]
      ring
    · intro c p
      simp only [Prod.smul_fst, Prod.smul_snd, smul_eq_mul]
      ring
  refine convexHull_min ?_ (convex_halfSpace_ge linear γ) member
  rintro _ ⟨v, vertex, rfl⟩
  exact bounded v vertex

/-- A level between two points of the area belongs to it. -/
theorem area_between {points : List RasterPoint} {u v w height : ℝ}
    (first : (u, height) ∈ polygonArea points)
    (last : (w, height) ∈ polygonArea points) (left : u < v) (right : v ≤ w) :
    (v, height) ∈ polygonArea points := by
  have span : 0 < w - u := by linarith
  have part : (v - u) / (w - u) ∈ Set.Icc (0 : ℝ) 1 := by
    constructor
    · exact div_nonneg (by linarith) span.le
    · rw [div_le_one span]
      linarith
  have between := (convex_convexHull ℝ _).add_smul_sub_mem first last part
  have same : (u, height) + ((v - u) / (w - u)) • ((w, height) - (u, height)) =
      ((v, height) : ℝ × ℝ) := by
    ext
    · simp only [Prod.fst_add, Prod.smul_fst, Prod.fst_sub, smul_eq_mul]
      rw [div_mul_cancel₀ _ span.ne']
      ring
    · simp only [Prod.snd_add, Prod.smul_snd, Prod.snd_sub, sub_self,
        smul_zero, add_zero]
  rw [same] at between
  exact between

/-- An edge runs through the rows between its ends. -/
theorem crossing_mem {points : List RasterPoint} {a b : RasterPoint}
    (isA : a ∈ points) (isB : b ∈ points) {y : Int}
    (crosses : (2 * a.y < scanHeight y ∧ scanHeight y < 2 * b.y) ∨
      (2 * b.y < scanHeight y ∧ scanHeight y < 2 * a.y)) :
    ∃ u : ℝ, (u, (y : ℝ) + 1 / 2) ∈ polygonArea points ∧
      ((b.y : ℝ) - a.y) * (u - a.x) =
        ((b.x : ℝ) - a.x) * ((y : ℝ) + 1 / 2 - a.y) := by
  unfold scanHeight at crosses
  have heights : ((a.y : ℝ) < y + 1 / 2 ∧ (y : ℝ) + 1 / 2 < b.y) ∨
      ((b.y : ℝ) < y + 1 / 2 ∧ (y : ℝ) + 1 / 2 < a.y) := by
    rcases crosses with ⟨low, high⟩ | ⟨low, high⟩
    · left
      have low : (2 * a.y : ℝ) < 2 * y + 1 := by exact_mod_cast low
      have high : (2 * y + 1 : ℝ) < 2 * b.y := by exact_mod_cast high
      constructor <;> linarith
    · right
      have low : (2 * b.y : ℝ) < 2 * y + 1 := by exact_mod_cast low
      have high : (2 * y + 1 : ℝ) < 2 * a.y := by exact_mod_cast high
      constructor <;> linarith
  have slanted : (b.y : ℝ) - a.y ≠ 0 := by
    rcases heights with ⟨low, high⟩ | ⟨low, high⟩
    · exact ne_of_gt (by linarith)
    · exact ne_of_lt (by linarith)
  have part : ((y : ℝ) + 1 / 2 - a.y) / (b.y - a.y) ∈ Set.Icc (0 : ℝ) 1 := by
    rcases heights with ⟨low, high⟩ | ⟨low, high⟩
    · constructor
      · exact div_nonneg (by linarith) (by linarith)
      · rw [div_le_one (by linarith)]
        linarith
    · constructor
      · exact div_nonneg_of_nonpos (by linarith) (by linarith)
      · rw [div_le_one_of_neg (by linarith)]
        linarith
  have on := (convex_convexHull ℝ _).add_smul_sub_mem (vertex_mem isA)
    (vertex_mem isB) part
  refine ⟨a.x + ((y : ℝ) + 1 / 2 - a.y) / (b.y - a.y) * (b.x - a.x), ?_, ?_⟩
  · have same : ((a.x : ℝ), (a.y : ℝ)) +
        (((y : ℝ) + 1 / 2 - a.y) / (b.y - a.y)) •
          (((b.x : ℝ), (b.y : ℝ)) - ((a.x : ℝ), (a.y : ℝ))) =
        ((a.x : ℝ) + ((y : ℝ) + 1 / 2 - a.y) / (b.y - a.y) * (b.x - a.x),
          (y : ℝ) + 1 / 2) := by
      ext
      · simp only [Prod.fst_add, Prod.smul_fst, Prod.fst_sub, smul_eq_mul]
      · simp only [Prod.snd_add, Prod.smul_snd, Prod.snd_sub, smul_eq_mul]
        rw [div_mul_cancel₀ _ slanted]
        ring
    rw [same] at on
    exact on
  · field_simp
    ring

/-- Twice the turn of an edge to a point given by twice its coordinates. -/
def edgeReach (edge : RasterPoint × RasterPoint) (h c : Int) : Int :=
  (edge.2.x - edge.1.x) * (h - 2 * edge.1.y) -
    (edge.2.y - edge.1.y) * (c - 2 * edge.1.x)

namespace ConvexPolygon

variable {points : List RasterPoint} {side : Int}
  (convex : ConvexPolygon points side)

include convex

theorem area_supported {edge : RasterPoint × RasterPoint}
    (member : edge ∈ cyclicEdges points) {p : ℝ × ℝ}
    (inside : p ∈ polygonArea points) :
    0 ≤ (side : ℝ) * (((edge.2.x : ℝ) - edge.1.x) * (p.2 - edge.1.y) -
      ((edge.2.y : ℝ) - edge.1.y) * (p.1 - edge.1.x)) := by
  have bounded : ∀ v ∈ points,
      (side : ℝ) * (((edge.2.x : ℝ) - edge.1.x) * edge.1.y -
          ((edge.2.y : ℝ) - edge.1.y) * edge.1.x) ≤
        (-(side * ((edge.2.y : ℝ) - edge.1.y))) * v.x +
          (side * ((edge.2.x : ℝ) - edge.1.x)) * v.y := by
    intro v vertex
    have held : (0 : ℝ) ≤ (side * turn edge.1 edge.2 v : Int) := by
      exact_mod_cast convex.supported member vertex
    unfold turn at held
    push_cast at held
    linarith
  have below := area_bounded bounded inside
  linarith

/-- A centre is covered when it lies to the left of the right edge of its row,
or on it, and to the right of the left one. -/
theorem centreCovered_iff {right left : RasterPoint × RasterPoint}
    (isRight : right ∈ cyclicEdges points)
    (isLeft : left ∈ cyclicEdges points) {x y : Int}
    (crosses : ∀ edge ∈ [right, left],
      (2 * edge.1.y < scanHeight y ∧ scanHeight y < 2 * edge.2.y) ∨
        (2 * edge.2.y < scanHeight y ∧ scanHeight y < 2 * edge.1.y))
    (up : 0 < side * (right.2.y - right.1.y))
    (down : side * (left.2.y - left.1.y) < 0) :
    CentreCovered points x y ↔
      0 ≤ side * edgeReach right (scanHeight y) (2 * x + 1) ∧
        0 < side * edgeReach left (scanHeight y) (2 * x + 1) := by
  have up : (0 : ℝ) < side * ((right.2.y : ℝ) - right.1.y) := by
    exact_mod_cast up
  have down : (side : ℝ) * ((left.2.y : ℝ) - left.1.y) < 0 := by
    exact_mod_cast down
  have twice (edge : RasterPoint × RasterPoint) :
      ((side * edgeReach edge (scanHeight y) (2 * x + 1) : Int) : ℝ) =
        2 * (side * (((edge.2.x : ℝ) - edge.1.x) * (y + 1 / 2 - edge.1.y) -
          ((edge.2.y : ℝ) - edge.1.y) * (x + 1 / 2 - edge.1.x))) := by
    unfold edgeReach scanHeight
    push_cast
    ring
  constructor
  · rintro ⟨centre, u, before, there⟩
    have first := convex.area_supported isRight centre
    have second := convex.area_supported isLeft there
    simp only [pixelCentre] at first second
    constructor
    · have whole := twice right
      have positive : (0 : ℝ) ≤ (side * edgeReach right (scanHeight y)
          (2 * x + 1) : Int) := by
        rw [whole]
        linarith
      exact_mod_cast positive
    · have gain : 0 < -(side * ((left.2.y : ℝ) - left.1.y)) *
          ((x : ℝ) + 1 / 2 - u) := mul_pos (by linarith) (by linarith)
      have positive : (0 : ℝ) < (side * edgeReach left (scanHeight y)
          (2 * x + 1) : Int) := by
        rw [twice left]
        linarith
      exact_mod_cast positive
  · rintro ⟨first, second⟩
    obtain ⟨w, onRight, atRight⟩ := crossing_mem
      (mem_cyclicEdges isRight).1 (mem_cyclicEdges isRight).2
      (crosses right List.mem_cons_self)
    obtain ⟨u, onLeft, atLeft⟩ := crossing_mem
      (mem_cyclicEdges isLeft).1 (mem_cyclicEdges isLeft).2
      (crosses left (List.mem_cons_of_mem _ List.mem_cons_self))
    have first : (0 : ℝ) ≤ (side * edgeReach right (scanHeight y)
        (2 * x + 1) : Int) := by exact_mod_cast first
    have second : (0 : ℝ) < (side * edgeReach left (scanHeight y)
        (2 * x + 1) : Int) := by exact_mod_cast second
    rw [twice] at first second
    have before : (x : ℝ) + 1 / 2 ≤ w := by
      by_contra beyond
      have loss := mul_pos up (sub_pos.mpr (not_le.mp beyond))
      have same : (side : ℝ) * (((right.2.x : ℝ) - right.1.x) *
          (y + 1 / 2 - right.1.y) - ((right.2.y : ℝ) - right.1.y) *
            (x + 1 / 2 - right.1.x)) =
          -(side * ((right.2.y : ℝ) - right.1.y) * ((x : ℝ) + 1 / 2 - w)) := by
        linear_combination -(side : ℝ) * atRight
      linarith
    have after : u < (x : ℝ) + 1 / 2 := by
      by_contra behind
      have loss : side * ((left.2.y : ℝ) - left.1.y) *
          (u - ((x : ℝ) + 1 / 2)) ≤ 0 :=
        mul_nonpos_of_nonpos_of_nonneg down.le (by linarith)
      have same : (side : ℝ) * (((left.2.x : ℝ) - left.1.x) *
          (y + 1 / 2 - left.1.y) - ((left.2.y : ℝ) - left.1.y) *
            (x + 1 / 2 - left.1.x)) =
          side * ((left.2.y : ℝ) - left.1.y) * (u - ((x : ℝ) + 1 / 2)) := by
        linear_combination -(side : ℝ) * atLeft
      linarith
    exact ⟨area_between onLeft onRight after before, u, after, onLeft⟩

/-- No centre of a row lies at once left of the left edge and right of the
right one. -/
theorem edges_ordered {right left : RasterPoint × RasterPoint}
    (isRight : right ∈ cyclicEdges points)
    (isLeft : left ∈ cyclicEdges points) {y c : Int}
    (crosses : (2 * left.1.y < scanHeight y ∧ scanHeight y < 2 * left.2.y) ∨
      (2 * left.2.y < scanHeight y ∧ scanHeight y < 2 * left.1.y))
    (up : 0 < side * (right.2.y - right.1.y))
    (down : side * (left.2.y - left.1.y) < 0)
    (before : side * edgeReach left (scanHeight y) c ≤ 0) :
    0 ≤ side * edgeReach right (scanHeight y) c := by
  obtain ⟨u, onLeft, atLeft⟩ := crossing_mem
    (mem_cyclicEdges isLeft).1 (mem_cyclicEdges isLeft).2 crosses
  have inside := convex.area_supported isRight onLeft
  simp only at inside
  have up : (0 : ℝ) < side * ((right.2.y : ℝ) - right.1.y) := by
    exact_mod_cast up
  have down : (side : ℝ) * ((left.2.y : ℝ) - left.1.y) < 0 := by
    exact_mod_cast down
  have twice (edge : RasterPoint × RasterPoint) :
      ((side * edgeReach edge (scanHeight y) c : Int) : ℝ) =
        2 * (side * (((edge.2.x : ℝ) - edge.1.x) * (y + 1 / 2 - edge.1.y) -
          ((edge.2.y : ℝ) - edge.1.y) * (c / 2 - edge.1.x))) := by
    unfold edgeReach scanHeight
    push_cast
    ring
  have before : ((side * edgeReach left (scanHeight y) c : Int) : ℝ) ≤ 0 := by
    exact_mod_cast before
  rw [twice] at before
  have beyond : (c : ℝ) / 2 ≤ u := by
    by_contra behind
    have gain := mul_pos_of_neg_of_neg down (sub_neg.mpr (not_le.mp behind))
    have same : (side : ℝ) * (((left.2.x : ℝ) - left.1.x) *
        (y + 1 / 2 - left.1.y) - ((left.2.y : ℝ) - left.1.y) *
          (c / 2 - left.1.x)) =
        side * ((left.2.y : ℝ) - left.1.y) * (u - c / 2) := by
      linear_combination -(side : ℝ) * atLeft
    linarith
  have gain := mul_nonneg up.le (sub_nonneg.mpr beyond)
  have result : (0 : ℝ) ≤
      ((side * edgeReach right (scanHeight y) c : Int) : ℝ) := by
    rw [twice]
    linarith
  exact_mod_cast result

end ConvexPolygon

/-- Rows above or below all vertices have no covered centre. -/
theorem not_covered_outside {points : List RasterPoint} {x y : Int}
    (apart : (∀ v ∈ points, 2 * v.y < scanHeight y) ∨
      ∀ v ∈ points, scanHeight y < 2 * v.y) : ¬CentreCovered points x y := by
  rintro ⟨inside, _⟩
  unfold scanHeight at apart
  rcases apart with below | above
  · have bounded : ∀ v ∈ points, -(y : ℝ) ≤ 0 * v.x + (-1) * v.y := by
      intro v vertex
      have less : (v.y : ℝ) ≤ y := by
        have here := below v vertex
        exact_mod_cast (by omega : v.y ≤ y)
      linarith
    have held := area_bounded bounded inside
    simp only [pixelCentre] at held
    linarith
  · have bounded : ∀ v ∈ points, (y : ℝ) + 1 ≤ 0 * v.x + 1 * v.y := by
      intro v vertex
      have less : (y : ℝ) + 1 ≤ v.y := by
        have here := above v vertex
        exact_mod_cast (by omega : y + 1 ≤ v.y)
      linarith
    have held := area_bounded bounded inside
    simp only [pixelCentre] at held
    linarith

end Glasswyrm.Server
