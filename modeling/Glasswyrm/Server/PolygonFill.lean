import Glasswyrm.Server.ConvexPolygon
import Glasswyrm.Server.EllipseFill

namespace Glasswyrm.Server

open Library

/-! Filled polygons.  Crossings are counted in half pixels and rounded towards
the first vertex of their edge. -/

def crossing (scanY : Int) (edge : RasterPoint × RasterPoint) : Option Int :=
  let ay := edge.1.y * 2
  let yb := edge.2.y * 2
  if (ay ≤ scanY ∧ scanY < yb) ∨ (yb ≤ scanY ∧ scanY < ay) then
    let numerator := (scanY - ay) * (edge.2.x - edge.1.x)
    some (edge.1.x * 2 + (numerator * 2).tdiv (yb - ay))
  else none

/-- The crossings of a row in ascending order. -/
def rowCrossings (points : List RasterPoint) (scanY : Int) : List Int :=
  ((cyclicEdges points).filterMap (crossing scanY)).insertionSort (· ≤ ·)

def fillSpan (destination : PixelStorage) (foreground planeMask : UInt32)
    (y left right : Int) (raster : Raster UInt32) : Raster UInt32 :=
  let firstX := (left + 1).tdiv 2
  let lastX := (right - 1).tdiv 2
  let start := max firstX 0
  Raster.paintRow (plot destination foreground planeMask) start y
    (min (lastX + 1) destination.width - start).toNat raster

/-- The crossings are taken in pairs. -/
def fillSpans (destination : PixelStorage) (foreground planeMask : UInt32)
    (y : Int) : List Int → Raster UInt32 → Raster UInt32
  | left :: right :: rest, raster =>
      fillSpans destination foreground planeMask y rest
        (fillSpan destination foreground planeMask y left right raster)
  | _, raster => raster

def minimumY (points : List RasterPoint) : Int :=
  points.foldl (fun minimum point => min minimum point.y) (points.headD {}).y

def maximumY (points : List RasterPoint) : Int :=
  points.foldl (fun maximum point => max maximum point.y) (points.headD {}).y

def fillConvexPolygon (destination : PixelStorage) (points : List RasterPoint)
    (foreground planeMask : UInt32) : PixelStorage :=
  if points.length < 3 then destination
  else
    let top := max (minimumY points) 0
    let bottom := min (maximumY points) destination.height
    { destination with
      pixels := (List.range (bottom - top).toNat).foldl
        (fun raster (row : Nat) =>
          let y := top + row
          fillSpans destination foreground planeMask y
            (rowCrossings points (y * 2 + 1)) raster)
        destination.pixels }

/-! ## What rounding does to a crossing -/

/-- An edge that runs through a height between those of its vertices. -/
def Crosses (h : Int) (edge : RasterPoint × RasterPoint) : Prop :=
  (2 * edge.1.y < h ∧ h < 2 * edge.2.y) ∨ (2 * edge.2.y < h ∧ h < 2 * edge.1.y)

instance (h : Int) (edge : RasterPoint × RasterPoint) :
    Decidable (Crosses h edge) :=
  inferInstanceAs (Decidable (_ ∨ _))

/-- How far a point of a row lies beyond an edge to the right, as a multiple of
the height of the edge. -/
def pastEdge (edge : RasterPoint × RasterPoint) (h c : Int) : Int :=
  -((edge.2.y - edge.1.y).sign * edgeReach edge h c)

/-- The edge runs to the left, and the centre lies to its right by less than
half a pixel. -/
def Misjudged (edge : RasterPoint × RasterPoint) (h x : Int) : Prop :=
  edge.2.x < edge.1.x ∧ 0 < pastEdge edge h (2 * x + 1) ∧
    pastEdge edge h (2 * x + 1) < (edge.2.y - edge.1.y).natAbs

/-- Rounded towards its first vertex the crossing is not right of the left
border of the drawable. -/
def NotRight (edge : RasterPoint × RasterPoint) (h : Int) : Prop :=
  0 ≤ pastEdge edge h 0 ∨ (edge.1.x ≤ edge.2.x ∧ 0 < pastEdge edge h 1)

def NotLeft (edge : RasterPoint × RasterPoint) (h : Int) : Prop :=
  pastEdge edge h 0 ≤ 0 ∨ (edge.2.x < edge.1.x ∧ pastEdge edge h (-1) < 0)

/-- A crossing: its whole part in half pixels, and what rounding adds. -/
structure RoundedCrossing (edge : RasterPoint × RasterPoint)
    (h whole extra : Int) : Prop where
  value : crossing h edge = some (whole + extra)
  bit : extra = 0 ∨ extra = 1
  floor : ∀ c, c ≤ whole ↔ pastEdge edge h c ≤ 0
  misjudged : ∀ x, Misjudged edge h x ↔ extra = 1 ∧ 2 * x + 1 = whole + 1
  notRight : NotRight edge h ↔ whole + extra ≤ 0
  notLeft : NotLeft edge h ↔ 0 ≤ whole + extra

/-- The quotient of the code by the height of the edge alone. -/
theorem crossing_quotient {edge : RasterPoint × RasterPoint} {h : Int}
    (crosses : Crosses h edge) :
    crossing h edge = some (2 * edge.1.x +
      ((edge.2.y - edge.1.y).sign * (h - 2 * edge.1.y) *
        (edge.2.x - edge.1.x)).tdiv (edge.2.y - edge.1.y).natAbs) := by
  obtain ⟨a, b⟩ := edge
  unfold Crosses at crosses
  simp only at crosses ⊢
  have halved : ((h - a.y * 2) * (b.x - a.x) * 2).tdiv (b.y * 2 - a.y * 2) =
      ((h - 2 * a.y) * (b.x - a.x)).tdiv (b.y - a.y) := by
    rw [← Int.sub_mul, Int.mul_tdiv_mul_of_pos_left _ _ (by decide),
      Int.mul_comm a.y]
  have turned : ((h - 2 * a.y) * (b.x - a.x)).tdiv (b.y - a.y) =
      ((b.y - a.y).sign * (h - 2 * a.y) * (b.x - a.x)).tdiv
        (b.y - a.y).natAbs := by
    rcases crosses with ⟨low, high⟩ | ⟨low, high⟩
    · rw [Int.sign_eq_one_of_pos (by omega), Int.natAbs_of_nonneg (by omega),
        one_mul]
    · rw [Int.sign_eq_neg_one_of_neg (by omega),
        Int.ofNat_natAbs_of_nonpos (by omega), neg_one_mul, neg_mul,
        Int.neg_tdiv_neg]
  unfold crossing
  simp only
  rw [if_pos (by omega), halved, turned, Int.mul_comm a.x]

theorem crossing_rounded {edge : RasterPoint × RasterPoint} {h : Int}
    (crosses : Crosses h edge) :
    ∃ whole extra, RoundedCrossing edge h whole extra := by
  have value := crossing_quotient crosses
  obtain ⟨a, b⟩ := edge
  unfold Crosses at crosses
  simp only at crosses value
  generalize isRun : b.x - a.x = run at value
  generalize isRise : b.y - a.y = rise at value
  generalize isPart : rise.sign * (h - 2 * a.y) = part at value
  have deep : 0 < part := by
    rw [← isPart]
    rcases crosses with ⟨low, high⟩ | ⟨low, high⟩
    · rw [Int.sign_eq_one_of_pos (by omega)]
      omega
    · rw [Int.sign_eq_neg_one_of_neg (by omega)]
      omega
  have height : (0 : Int) < rise.natAbs := by omega
  have past : ∀ c, pastEdge (a, b) h c =
      rise.natAbs * (c - 2 * a.x) - part * run := by
    intro c
    rw [← Int.sign_mul_self_eq_natAbs, ← isPart, pastEdge, edgeReach, isRise,
      isRun]
    ring
  have later : ∀ c, pastEdge (a, b) h (c + 1) =
      pastEdge (a, b) h c + rise.natAbs := by
    intro c
    rw [past, past]
    ring
  have product : 0 ≤ part * run ↔ 0 ≤ run := mul_nonneg_iff_of_pos_left deep
  generalize isWhole : 2 * a.x + part * run / rise.natAbs = whole
  have floor : ∀ c, c ≤ whole ↔ pastEdge (a, b) h c ≤ 0 := by
    intro c
    rw [past, ← isWhole, ← sub_le_iff_le_add', Int.le_ediv_iff_mul_le height,
      mul_comm, sub_nonpos]
  have exact : (rise.natAbs : Int) ∣ part * run ↔
      pastEdge (a, b) h whole = 0 := by
    rw [past, ← isWhole, add_sub_cancel_left, sub_eq_zero]
    exact ⟨Int.mul_ediv_cancel', fun same => ⟨_, same.symm⟩⟩
  have extra : ∃ extra : Int, crossing h (a, b) = some (whole + extra) ∧
      (extra = 0 ∨ extra = 1) ∧
      (extra = 0 → 0 ≤ run ∨ pastEdge (a, b) h whole = 0) ∧
      (extra = 1 → run < 0 ∧ pastEdge (a, b) h whole ≠ 0) := by
    rw [value, Int.tdiv_eq_ediv]
    split
    · rename_i down
      refine ⟨0, by rw [← isWhole, add_assoc], Or.inl rfl, fun _ => ?_, ?_⟩
      · rwa [product, exact] at down
      · exact fun wrong => absurd wrong (by decide)
    · rename_i up
      rw [product, exact, not_or, not_le] at up
      refine ⟨1, ?_, Or.inr rfl, fun wrong => absurd wrong (by decide),
        fun _ => up⟩
      rw [← isWhole, Int.sign_eq_one_of_pos height, add_assoc]
  obtain ⟨extra, value, bit, plain, raised⟩ := extra
  have here := (floor whole).mp le_rfl
  have step := later (whole - 1)
  rw [Int.sub_add_cancel] at step
  have zero : whole = 0 → pastEdge (a, b) h whole = pastEdge (a, b) h 0 := by
    rintro rfl
    rfl
  have before : whole = -1 →
      pastEdge (a, b) h whole = pastEdge (a, b) h (-1) := by
    rintro rfl
    rfl
  have atZero := floor 0
  have atOne := floor 1
  have atMinusOne := floor (-1)
  have next := later 0
  rw [Int.zero_add] at next
  refine ⟨whole, extra, value, bit, floor, fun x => ?_, ?_, ?_⟩
  · have up := floor (2 * x + 1)
    have down := floor (2 * x)
    have reached := later (2 * x)
    have same : 2 * x = whole →
        pastEdge (a, b) h whole = pastEdge (a, b) h (2 * x) := by
      rintro rfl
      rfl
    unfold Misjudged
    simp only [isRise]
    omega
  · unfold NotRight
    simp only
    omega
  · unfold NotLeft
    simp only
    omega

/-! ## The pixels of a row -/

/-- The columns that the loop over a span visits. -/
def Painted (left right : Int) (width : Nat) (x : Int) : Prop :=
  max ((left + 1).tdiv 2) 0 ≤ x ∧ x ≤ (right - 1).tdiv 2 ∧ x < width

instance (left right : Int) (width : Nat) (x : Int) :
    Decidable (Painted left right width x) :=
  inferInstanceAs (Decidable (_ ∧ _ ∧ _))

/-- A column is visited when its centre lies between the crossings; a right
crossing of 0 is divided towards 0 and lets the first column in. -/
theorem painted_iff {left right x : Int} {width : Nat} (first : 0 ≤ x)
    (last : x < width) :
    Painted left right width x ↔ left < 2 * x + 1 ∧
      (2 * x + 1 ≤ right ∨ (right = 0 ∧ x = 0)) := by
  unfold Painted
  rw [Int.tdiv_eq_ediv, Int.tdiv_eq_ediv, show Int.sign 2 = 1 from rfl]
  split <;> split <;> omega

/-- The columns of a row are those of the rule exactly when rounding moves both
crossings over the same centre of the drawable or none, and neither to the left
border. -/
theorem row_exact_iff {rightWhole leftWhole rightExtra leftExtra : Int}
    {width : Nat} (ordered : leftWhole ≤ rightWhole)
    (rightBit : rightExtra = 0 ∨ rightExtra = 1)
    (leftBit : leftExtra = 0 ∨ leftExtra = 1) :
    (∀ x : Int, 0 ≤ x → x < width →
      (Painted (min (rightWhole + rightExtra) (leftWhole + leftExtra))
        (max (rightWhole + rightExtra) (leftWhole + leftExtra)) width x ↔
          leftWhole < 2 * x + 1 ∧ 2 * x + 1 ≤ rightWhole)) ↔
      (∀ x : Int, 0 ≤ x → x < width →
        ((rightExtra = 1 ∧ 2 * x + 1 = rightWhole + 1) ↔
          (leftExtra = 1 ∧ 2 * x + 1 = leftWhole + 1))) ∧
        (0 < width → 0 ≤ rightWhole + rightExtra ∨
          0 ≤ leftWhole + leftExtra →
            0 < rightWhole + rightExtra ∨ 0 < leftWhole + leftExtra) := by
  constructor
  · intro same
    refine ⟨fun x first last => ?_, fun some => ?_⟩
    · have here := same x first last
      rw [painted_iff first last] at here
      omega
    · have here := same 0 le_rfl (by omega)
      rw [painted_iff le_rfl (by omega)] at here
      omega
  · rintro ⟨moved, border⟩ x first last
    have here := moved x first last
    rw [painted_iff first last]
    omega

theorem belowHeight_ne_iff {edge : RasterPoint × RasterPoint} {y : Int} :
    (belowHeight (scanHeight y) edge.1 != belowHeight (scanHeight y) edge.2) =
      decide (Crosses (scanHeight y) edge) := by
  rw [Bool.eq_iff_iff, decide_eq_true_eq]
  unfold belowHeight Crosses scanHeight
  simp only [bne_iff_ne, ne_eq, decide_eq_decide]
  omega

theorem crossing_none {edge : RasterPoint × RasterPoint} {y : Int}
    (apart : ¬Crosses (scanHeight y) edge) :
    crossing (scanHeight y) edge = none := by
  unfold Crosses scanHeight at apart
  unfold crossing scanHeight
  simp only
  rw [if_neg (by omega)]

/-- Only the edges between the sides have crossings. -/
theorem filterMap_crossing (edges : List (RasterPoint × RasterPoint))
    (y : Int) :
    edges.filterMap (crossing (scanHeight y)) =
      (changes (belowHeight (scanHeight y)) edges).filterMap
        (crossing (scanHeight y)) := by
  unfold changes
  induction edges with
  | nil => rfl
  | cons edge edges ih =>
      by_cases crosses : Crosses (scanHeight y) edge
      · have changed := (belowHeight_ne_iff).trans (decide_eq_true crosses)
        rw [List.filter_cons, if_pos changed, List.filterMap_cons,
          List.filterMap_cons, ih]
      · have same := (belowHeight_ne_iff).trans (decide_eq_false crosses)
        rw [List.filter_cons, if_neg (Bool.eq_false_iff.mp same),
          List.filterMap_cons, crossing_none crosses, ih]

theorem insertionSort_pair (first second : Int) :
    [first, second].insertionSort (· ≤ ·) =
      [min first second, max first second] := by
  simp only [List.insertionSort_cons, List.insertionSort_nil,
    List.orderedInsert_nil, List.orderedInsert_cons]
  split
  · rw [min_eq_left ‹_›, max_eq_right ‹_›]
  · rw [min_eq_right (by omega), max_eq_left (by omega)]

/-- The two edges of a row: the right one and the left one. -/
structure RowEdges (points : List RasterPoint) (side y : Int)
    (right left : RasterPoint × RasterPoint) : Prop where
  isRight : right ∈ cyclicEdges points
  isLeft : left ∈ cyclicEdges points
  rightCrosses : Crosses (scanHeight y) right
  leftCrosses : Crosses (scanHeight y) left
  up : 0 < side * (right.2.y - right.1.y)
  down : side * (left.2.y - left.1.y) < 0
  only : ∀ edge ∈ cyclicEdges points, Crosses (scanHeight y) edge →
    edge = right ∨ edge = left
  crossings : ∀ rightCrossing leftCrossing : Int,
    crossing (scanHeight y) right = some rightCrossing →
    crossing (scanHeight y) left = some leftCrossing →
      rowCrossings points (scanHeight y) =
        [min rightCrossing leftCrossing, max rightCrossing leftCrossing]

namespace ConvexPolygon

variable {points : List RasterPoint} {side : Int}
  (convex : ConvexPolygon points side)

include convex

/-- A row between vertices below and above it has two edges. -/
theorem rowEdges {y : Int}
    (below : ∃ v ∈ points, 2 * v.y < scanHeight y)
    (above : ∃ v ∈ points, scanHeight y < 2 * v.y) :
    ∃ right left, RowEdges points side y right left := by
  obtain ⟨low, isLow, below⟩ := below
  obtain ⟨high, isHigh, above⟩ := above
  obtain ⟨a, b, c, d, two, isB, isC, isD⟩ :=
    (convex.neverAlternates y).changes ⟨low, isLow, high, isHigh, by
      unfold belowHeight
      simp only [ne_eq, decide_eq_decide]
      omega⟩
  have member (edge : RasterPoint × RasterPoint) :
      edge ∈ [(a, b), (c, d)] ↔ edge ∈ cyclicEdges points ∧
        Crosses (scanHeight y) edge := by
    rw [← two, changes, List.mem_filter, belowHeight_ne_iff,
      decide_eq_true_eq]
  obtain ⟨isFirst, firstCrosses⟩ := (member (a, b)).mp List.mem_cons_self
  obtain ⟨isSecond, secondCrosses⟩ :=
    (member (c, d)).mp (List.mem_cons_of_mem _ List.mem_cons_self)
  have crossings (p q : Int) (isP : crossing (scanHeight y) (a, b) = some p)
      (isQ : crossing (scanHeight y) (c, d) = some q) :
      rowCrossings points (scanHeight y) = [min p q, max p q] := by
    rw [rowCrossings, filterMap_crossing, two, List.filterMap_cons,
      List.filterMap_cons, List.filterMap_nil, isP, isQ]
    exact insertionSort_pair p q
  have only (edge : RasterPoint × RasterPoint)
      (isEdge : edge ∈ cyclicEdges points)
      (crosses : Crosses (scanHeight y) edge) :
      edge = (a, b) ∨ edge = (c, d) := by
    have here := (member edge).mpr ⟨isEdge, crosses⟩
    simpa using here
  -- one edge goes up and the other comes down
  have opposite : 0 < (b.y - a.y) ∧ d.y - c.y < 0 ∨
      b.y - a.y < 0 ∧ 0 < d.y - c.y := by
    unfold Crosses at firstCrosses secondCrosses
    unfold belowHeight at isB isC isD
    simp only at firstCrosses secondCrosses
    rcases firstCrosses with ⟨lower, upper⟩ | ⟨lower, upper⟩
    · rw [decide_eq_true lower] at isC
      rw [Bool.not_true, decide_eq_false_iff_not] at isC
      omega
    · rw [decide_eq_false (by omega : ¬2 * a.y < scanHeight y)] at isC
      rw [Bool.not_false, decide_eq_true_eq] at isC
      omega
  have swapped (p q : Int) (isP : crossing (scanHeight y) (c, d) = some p)
      (isQ : crossing (scanHeight y) (a, b) = some q) :
      rowCrossings points (scanHeight y) = [min p q, max p q] := by
    rw [crossings q p isQ isP, min_comm, max_comm]
  rcases convex.orientation with rfl | rfl
  · rcases opposite with ⟨up, down⟩ | ⟨down, up⟩
    · exact ⟨(a, b), (c, d), isFirst, isSecond, firstCrosses, secondCrosses,
        by simpa using up, by simpa using down, only, crossings⟩
    · exact ⟨(c, d), (a, b), isSecond, isFirst, secondCrosses, firstCrosses,
        by simpa using up, by simpa using down,
        fun edge isEdge crosses => (only edge isEdge crosses).symm, swapped⟩
  · rcases opposite with ⟨up, down⟩ | ⟨down, up⟩
    · exact ⟨(c, d), (a, b), isSecond, isFirst, secondCrosses, firstCrosses,
        by simpa using down, by simpa using up,
        fun edge isEdge crosses => (only edge isEdge crosses).symm, swapped⟩
    · exact ⟨(a, b), (c, d), isFirst, isSecond, firstCrosses, secondCrosses,
        by simpa using down, by simpa using up, only, crossings⟩

end ConvexPolygon

/-- The columns of a row with two crossings. -/
def RowPainted (points : List RasterPoint) (width : Nat) (y x : Int) : Prop :=
  ∃ left right, rowCrossings points (scanHeight y) = [left, right] ∧
    Painted left right width x

/-- Where rounding moves one crossing of a row over the centre of a pixel it
moves the other one over the same centre, and the greater of the crossings is
not rounded to the left border of the drawable. -/
def RowExact (points : List RasterPoint) (width : Nat) (y : Int) : Prop :=
  (∀ edge ∈ cyclicEdges points, Crosses (scanHeight y) edge →
    ∀ x : Int, 0 ≤ x → x < width → Misjudged edge (scanHeight y) x →
      ∀ other ∈ cyclicEdges points, Crosses (scanHeight y) other →
        Misjudged other (scanHeight y) x) ∧
  (0 < width →
    (∃ edge ∈ cyclicEdges points, Crosses (scanHeight y) edge ∧
      NotLeft edge (scanHeight y)) →
    ∃ edge ∈ cyclicEdges points, Crosses (scanHeight y) edge ∧
      ¬NotRight edge (scanHeight y))

section

variable {points : List RasterPoint} {side y : Int}
  {right left : RasterPoint × RasterPoint}
  (convex : ConvexPolygon points side)
  (row : RowEdges points side y right left)

include convex row

theorem RowEdges.exact_iff (width : Nat) :
    RowExact points width y ↔ ∀ x : Int, 0 ≤ x → x < width →
      (RowPainted points width y x ↔ CentreCovered points x y) := by
  obtain ⟨rightWhole, rightExtra, isRight⟩ := crossing_rounded row.rightCrosses
  obtain ⟨leftWhole, leftExtra, isLeft⟩ := crossing_rounded row.leftCrosses
  have crossings := row.crossings _ _ isRight.value isLeft.value
  have painted : ∀ x, RowPainted points width y x ↔
      Painted (min (rightWhole + rightExtra) (leftWhole + leftExtra))
        (max (rightWhole + rightExtra) (leftWhole + leftExtra)) width x := by
    intro x
    unfold RowPainted
    rw [crossings]
    simp only [List.cons.injEq, and_true]
    constructor
    · rintro ⟨_, _, ⟨rfl, rfl⟩, painted⟩
      exact painted
    · exact fun painted => ⟨_, _, ⟨rfl, rfl⟩, painted⟩
  -- the sign of an edge tells on which side of the polygon it is
  have signs : (right.2.y - right.1.y).sign = side ∧
      (left.2.y - left.1.y).sign = -side := by
    have up := row.up
    have down := row.down
    rcases convex.orientation with rfl | rfl
    · rw [Int.sign_eq_one_of_pos (by omega),
        Int.sign_eq_neg_one_of_neg (by omega)]
      exact ⟨rfl, rfl⟩
    · rw [Int.sign_eq_neg_one_of_neg (by omega),
        Int.sign_eq_one_of_pos (by omega)]
      exact ⟨rfl, rfl⟩
  have atRight : ∀ c, c ≤ rightWhole ↔
      0 ≤ side * edgeReach right (scanHeight y) c := by
    intro c
    rw [isRight.floor, pastEdge, signs.1]
    exact neg_nonpos
  have atLeft : ∀ c, c ≤ leftWhole ↔
      side * edgeReach left (scanHeight y) c ≤ 0 := by
    intro c
    rw [isLeft.floor, pastEdge, signs.2, neg_mul, neg_neg]
  have ordered : leftWhole ≤ rightWhole :=
    (atRight leftWhole).mpr (convex.edges_ordered row.isRight row.isLeft
      row.leftCrosses row.up row.down ((atLeft leftWhole).mp le_rfl))
  have covered : ∀ x, CentreCovered points x y ↔
      leftWhole < 2 * x + 1 ∧ 2 * x + 1 ≤ rightWhole := by
    intro x
    rw [convex.centreCovered_iff row.isRight row.isLeft (by
      intro edge member
      rcases List.mem_cons.mp member with rfl | member
      · exact row.rightCrosses
      · rw [List.mem_singleton.mp member]
        exact row.leftCrosses) row.up row.down, atRight, ← not_le, ← not_le,
      atLeft]
    exact and_comm
  simp only [painted, covered]
  rw [row_exact_iff ordered isRight.bit isLeft.bit]
  unfold RowExact
  refine and_congr ?_ (imp_congr_right fun some => ?_)
  · constructor
    · intro moved x first last
      rw [← isRight.misjudged, ← isLeft.misjudged]
      exact ⟨fun met => moved right row.isRight row.rightCrosses x first last
          met left row.isLeft row.leftCrosses,
        fun met => moved left row.isLeft row.leftCrosses x first last met
          right row.isRight row.rightCrosses⟩
    · intro moved edge isEdge crosses x first last met other isOther crosses'
      have both := moved x first last
      rw [← isRight.misjudged, ← isLeft.misjudged] at both
      rcases row.only edge isEdge crosses with rfl | rfl
      · rcases row.only other isOther crosses' with rfl | rfl
        · exact met
        · exact both.mp met
      · rcases row.only other isOther crosses' with rfl | rfl
        · exact both.mpr met
        · exact met
  · rw [← isRight.notLeft, ← isLeft.notLeft, ← not_le, ← not_le,
      ← isRight.notRight, ← isLeft.notRight]
    refine imp_congr ⟨?_, ?_⟩ ⟨?_, ?_⟩
    · rintro ⟨edge, isEdge, crosses, notLeft⟩
      rcases row.only edge isEdge crosses with rfl | rfl
      · exact Or.inl notLeft
      · exact Or.inr notLeft
    · rintro (notLeft | notLeft)
      · exact ⟨right, row.isRight, row.rightCrosses, notLeft⟩
      · exact ⟨left, row.isLeft, row.leftCrosses, notLeft⟩
    · rintro ⟨edge, isEdge, crosses, beyond⟩
      rcases row.only edge isEdge crosses with rfl | rfl
      · exact Or.inl beyond
      · exact Or.inr beyond
    · rintro (beyond | beyond)
      · exact ⟨right, row.isRight, row.rightCrosses, beyond⟩
      · exact ⟨left, row.isLeft, row.leftCrosses, beyond⟩

end

/-! ## The whole polygon -/

/-- The rule at every row of a drawable. -/
def FillExact (points : List RasterPoint) (width height : Nat) : Prop :=
  ∀ y : Int, 0 ≤ y → y < height → RowExact points width y

open scoped Classical in
/-- Whatever a drawable holds and whatever is painted, exactly the pixels whose
centres are covered are painted. -/
def PolygonFilled (points : List RasterPoint) (width height : Nat) : Prop :=
  ∀ (pixels : Raster UInt32) (foreground planeMask : UInt32) (x y : Int),
    (fillConvexPolygon { width, height, pixels } points foreground
        planeMask).pixels x y =
      if (0 ≤ x ∧ x < width ∧ 0 ≤ y ∧ y < height) ∧ CentreCovered points x y
      then applyPlanes foreground (pixels x y) planeMask
      else pixels x y

/-- A row that no edge crosses. -/
theorem row_idle {points : List RasterPoint} {y : Int}
    (apart : ¬((∃ v ∈ points, 2 * v.y < scanHeight y) ∧
      ∃ v ∈ points, scanHeight y < 2 * v.y)) :
    (∀ edge ∈ cyclicEdges points, ¬Crosses (scanHeight y) edge) ∧
      rowCrossings points (scanHeight y) = [] ∧
      ∀ x, ¬CentreCovered points x y := by
  have none : ∀ edge ∈ cyclicEdges points, ¬Crosses (scanHeight y) edge := by
    intro edge member crosses
    obtain ⟨first, second⟩ := mem_cyclicEdges member
    rcases crosses with ⟨low, high⟩ | ⟨low, high⟩
    · exact apart ⟨⟨_, first, low⟩, ⟨_, second, high⟩⟩
    · exact apart ⟨⟨_, second, low⟩, ⟨_, first, high⟩⟩
  refine ⟨none, ?_, fun x => not_covered_outside ?_⟩
  · have nothing : (cyclicEdges points).filterMap (crossing (scanHeight y)) =
        [] := List.filterMap_eq_nil_iff.mpr fun edge member =>
      crossing_none (none edge member)
    rw [rowCrossings, nothing]
    rfl
  · rw [not_and_or] at apart
    refine apart.symm.imp (fun no v vertex => ?_) (fun no v vertex => ?_)
    · have here := not_exists.mp no v
      rw [not_and] at here
      have level := here vertex
      unfold scanHeight at level ⊢
      omega
    · have here := not_exists.mp no v
      rw [not_and] at here
      have level := here vertex
      unfold scanHeight at level ⊢
      omega

theorem minimumY_le {points : List RasterPoint} {v : RasterPoint}
    (vertex : v ∈ points) : minimumY points ≤ v.y := by
  suffices general : ∀ (rest : List RasterPoint) (start : Int),
      rest.foldl (fun minimum point => min minimum point.y) start ≤ start ∧
        ∀ point ∈ rest, rest.foldl
          (fun minimum point => min minimum point.y) start ≤ point.y from
    (general points _).2 v vertex
  intro rest
  induction rest with
  | nil => exact fun start => ⟨le_rfl, List.forall_mem_nil _⟩
  | cons head tail ih =>
      intro start
      obtain ⟨low, all⟩ := ih (min start head.y)
      rw [List.foldl_cons]
      exact ⟨low.trans (min_le_left _ _),
        List.forall_mem_cons.mpr ⟨low.trans (min_le_right _ _), all⟩⟩

theorem le_maximumY {points : List RasterPoint} {v : RasterPoint}
    (vertex : v ∈ points) : v.y ≤ maximumY points := by
  suffices general : ∀ (rest : List RasterPoint) (start : Int),
      start ≤ rest.foldl (fun maximum point => max maximum point.y) start ∧
        ∀ point ∈ rest, point.y ≤ rest.foldl
          (fun maximum point => max maximum point.y) start from
    (general points _).2 v vertex
  intro rest
  induction rest with
  | nil => exact fun start => ⟨le_rfl, List.forall_mem_nil _⟩
  | cons head tail ih =>
      intro start
      obtain ⟨high, all⟩ := ih (max start head.y)
      rw [List.foldl_cons]
      exact ⟨(le_max_left _ _).trans high,
        List.forall_mem_cons.mpr ⟨(le_max_right _ _).trans high, all⟩⟩

theorem ConvexPolygon.three_le_length {points : List RasterPoint} {side : Int}
    (convex : ConvexPolygon points side) : 3 ≤ points.length := by
  obtain ⟨a, isA, b, isB, c, isC, solid⟩ := convex.solid
  have distinct : [a, b, c].Nodup := by
    simp only [List.nodup_cons, List.mem_cons, List.not_mem_nil, or_false,
      not_or, not_false_eq_true, List.nodup_nil, and_true]
    refine ⟨⟨?_, ?_⟩, ?_⟩
    all_goals
      rintro rfl
      exact solid (by unfold turn; ring)
  have inside : [a, b, c] ⊆ points := by
    intro point member
    simp only [List.mem_cons, List.not_mem_nil, or_false] at member
    rcases member with rfl | rfl | rfl
    · exact isA
    · exact isB
    · exact isC
  exact (distinct.subperm inside).length_le

/-- The rows of a convex polygon have no crossings or two. -/
theorem ConvexPolygon.crossings_cases {points : List RasterPoint} {side : Int}
    (convex : ConvexPolygon points side) (y : Int) :
    rowCrossings points (scanHeight y) = [] ∨
      ∃ left right, rowCrossings points (scanHeight y) = [left, right] := by
  by_cases both : (∃ v ∈ points, 2 * v.y < scanHeight y) ∧
      ∃ v ∈ points, scanHeight y < 2 * v.y
  · obtain ⟨right, left, row⟩ := convex.rowEdges both.1 both.2
    obtain ⟨_, _, isRight⟩ := crossing_rounded row.rightCrosses
    obtain ⟨_, _, isLeft⟩ := crossing_rounded row.leftCrosses
    exact Or.inr ⟨_, _, row.crossings _ _ isRight.value isLeft.value⟩
  · exact Or.inl (row_idle both).2.1

open scoped Classical in
theorem ConvexPolygon.fill_apply {points : List RasterPoint} {side : Int}
    (convex : ConvexPolygon points side) (width height : Nat)
    (pixels : Raster UInt32) (foreground planeMask : UInt32) (x y : Int) :
    (fillConvexPolygon { width, height, pixels } points foreground
        planeMask).pixels x y =
      if (0 ≤ x ∧ x < width ∧ 0 ≤ y ∧ y < height) ∧
          RowPainted points width y x
      then applyPlanes foreground (pixels x y) planeMask
      else pixels x y := by
  have long := convex.three_le_length
  unfold fillConvexPolygon
  rw [if_neg (by omega)]
  simp only
  have steps (y : Int) (raster : Raster UInt32) (x' y' : Int) :
      fillSpans { width, height, pixels } foreground planeMask y
          (rowCrossings points (y * 2 + 1)) raster x' y' =
        if y' = y then
          if RowPainted points width y x' then
            plot { width, height, pixels } foreground planeMask x' y
              (raster x' y')
          else raster x' y'
        else raster x' y' := by
    rw [Int.mul_comm y, show 2 * y + 1 = scanHeight y from rfl]
    unfold RowPainted
    rcases convex.crossings_cases y with none | ⟨left, right, two⟩
    · rw [none]
      simp only [fillSpans, reduceCtorEq, false_and, exists_false, if_false,
        ite_self]
    · rw [two]
      simp only [fillSpans, fillSpan, Raster.paintRow_apply, List.cons.injEq,
        and_true]
      by_cases here : y' = y
      · subst here
        simp only [and_true, if_true]
        have same : (max ((left + 1).tdiv 2) 0 ≤ x' ∧
            x' < max ((left + 1).tdiv 2) 0 +
              ((min ((right - 1).tdiv 2 + 1) width -
                max ((left + 1).tdiv 2) 0).toNat : Nat)) ↔
            ∃ l r, (left = l ∧ right = r) ∧ Painted l r width x' := by
          constructor
          · intro inside
            refine ⟨left, right, ⟨rfl, rfl⟩, ?_⟩
            unfold Painted
            omega
          · rintro ⟨_, _, ⟨rfl, rfl⟩, painted⟩
            unfold Painted at painted
            omega
        simp only [same]
      · simp only [here, and_false, if_false]
  refine (@Raster.foldl_rows UInt32
    (fun y => fillSpans { width, height, pixels } foreground planeMask y
      (rowCrossings points (y * 2 + 1)))
    (fun y x colour => if RowPainted points width y x then
      plot { width, height, pixels } foreground planeMask x y colour
      else colour) steps _ _ pixels x y).trans ?_
  by_cases painted : RowPainted points width y x
  · obtain ⟨left, right, two, first, last, inside⟩ := painted
    have both : (∃ v ∈ points, 2 * v.y < scanHeight y) ∧
        ∃ v ∈ points, scanHeight y < 2 * v.y := by
      by_contra apart
      rw [(row_idle apart).2.1] at two
      cases two
    obtain ⟨⟨low, isLow, below⟩, high, isHigh, above⟩ := both
    have lowest := minimumY_le isLow
    have highest := le_maximumY isHigh
    unfold scanHeight at below above
    have again : RowPainted points width y x :=
      ⟨left, right, two, first, last, inside⟩
    simp only [again, if_true, and_true, plot]
    by_cases visible : 0 ≤ y ∧ y < height
    · rw [if_pos (by omega), if_neg (by omega), if_pos (by omega)]
    · rw [if_neg (by omega), if_neg (by omega)]
  · simp only [painted, if_false, ite_self, and_false]

/-- A convex polygon is filled by the rule exactly when rounding does no harm
in any row of the drawable. -/
theorem fillConvexPolygon_exact_iff {points : List RasterPoint} {side : Int}
    (convex : ConvexPolygon points side) (width height : Nat) :
    PolygonFilled points width height ↔ FillExact points width height := by
  have rows : ∀ y : Int, RowExact points width y ↔
      ∀ x : Int, 0 ≤ x → x < width →
        (RowPainted points width y x ↔ CentreCovered points x y) := by
    intro y
    by_cases both : (∃ v ∈ points, 2 * v.y < scanHeight y) ∧
        ∃ v ∈ points, scanHeight y < 2 * v.y
    · obtain ⟨right, left, row⟩ := convex.rowEdges both.1 both.2
      exact row.exact_iff convex width
    · obtain ⟨none, empty, uncovered⟩ := row_idle both
      refine iff_of_true ⟨?_, ?_⟩ fun x _ _ => iff_of_false ?_ (uncovered x)
      · exact fun edge isEdge crosses => absurd crosses (none edge isEdge)
      · rintro _ ⟨edge, isEdge, crosses, _⟩
        exact absurd crosses (none edge isEdge)
      · rintro ⟨_, _, two, _⟩
        rw [empty] at two
        cases two
  constructor
  · intro filled y top bottom
    refine (rows y).mpr fun x first last => ?_
    have here := filled (fun _ _ => 0) 0 0 x y
    rw [convex.fill_apply] at here
    have visible : 0 ≤ x ∧ x < width ∧ 0 ≤ y ∧ y < height :=
      ⟨first, last, top, bottom⟩
    have marked : applyPlanes 0 0 0 ≠ 0 := by decide
    by_cases painted : RowPainted points width y x
    · rw [if_pos ⟨visible, painted⟩] at here
      refine iff_of_true painted ?_
      by_contra uncovered
      rw [if_neg fun both => uncovered both.2] at here
      exact marked here
    · rw [if_neg fun both => painted both.2] at here
      refine iff_of_false painted fun covered => ?_
      rw [if_pos ⟨visible, covered⟩] at here
      exact marked here.symm
  · intro exact pixels foreground planeMask x y
    rw [convex.fill_apply]
    have same : (0 ≤ x ∧ x < width ∧ 0 ≤ y ∧ y < height) →
        (RowPainted points width y x ↔ CentreCovered points x y) :=
      fun visible => (rows y).mp (exact y visible.2.2.1 visible.2.2.2) x
        visible.1 visible.2.1
    by_cases painted : (0 ≤ x ∧ x < width ∧ 0 ≤ y ∧ y < height) ∧
        RowPainted points width y x
    · rw [if_pos painted,
        if_pos ⟨painted.1, (same painted.1).mp painted.2⟩]
    · rw [if_neg painted, if_neg fun covered =>
        painted ⟨covered.1, (same covered.1).mpr covered.2⟩]

/-- A triangle whose slanted edge runs through the corners of the pixels. -/
def cornerTriangle : List RasterPoint := [⟨0, 0⟩, ⟨4, 0⟩, ⟨0, 4⟩]

theorem cornerTriangle_convex : ConvexPolygon cornerTriangle 1 := by
  refine ⟨Or.inl rfl, ?_, ⟨0, 0⟩, ?_, ⟨4, 0⟩, ?_, ⟨0, 4⟩, ?_, by decide⟩
  · simp [cornerTriangle, turn]
  · decide
  · decide
  · decide

theorem fillConvexPolygon_exact_iff_triangle :
    PolygonFilled cornerTriangle 4 4 ↔ FillExact cornerTriangle 4 4 :=
  fillConvexPolygon_exact_iff cornerTriangle_convex 4 4

/-- A square to the left of the drawable. -/
def outerSquare : List RasterPoint := [⟨-4, 0⟩, ⟨0, 0⟩, ⟨0, 4⟩, ⟨-4, 4⟩]

/-- A pixel whose centre lies outside the square, whatever is said of its
boundary, is painted. -/
theorem outer_square_painted :
    ConvexPolygon outerSquare 1 ∧ pixelCentre 0 0 ∉ polygonArea outerSquare ∧
      (fillConvexPolygon ⟨1, 1, fun _ _ => 0xff000000⟩ outerSquare 0xff
        0xffffff).pixels 0 0 = 0xff0000ff ∧
      ¬PolygonFilled outerSquare 1 1 := by
  have outside : pixelCentre 0 0 ∉ polygonArea outerSquare := by
    intro inside
    have bounded : ∀ v ∈ outerSquare, (0 : ℝ) ≤ (-1) * v.x + 0 * v.y := by
      intro v vertex
      simp only [outerSquare, List.mem_cons, List.not_mem_nil, or_false]
        at vertex
      rcases vertex with rfl | rfl | rfl | rfl <;> norm_num
    have held := area_bounded bounded inside
    simp only [pixelCentre] at held
    norm_num at held
  refine ⟨⟨Or.inl rfl, ?_, ⟨-4, 0⟩, ?_, ⟨0, 0⟩, ?_, ⟨0, 4⟩, ?_, by decide⟩,
    outside, by decide +kernel, ?_⟩
  · simp [outerSquare, turn, List.triplewise_cons]
  · decide
  · decide
  · decide
  · intro filled
    have here := filled (fun _ _ => 0xff000000) 0xff 0xffffff 0 0
    rw [if_neg fun both => outside both.2.1] at here
    exact absurd here (by decide +kernel)

end Glasswyrm.Server
