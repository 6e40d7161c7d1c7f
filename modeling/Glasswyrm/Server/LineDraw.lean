import Glasswyrm.Library.LatticeLine
import Glasswyrm.Server.ConvexPolygon
import Glasswyrm.Server.EllipseFill

namespace Glasswyrm.Server

open Library

/-! Lines.  The loop has no counter: it ends when it comes upon the second
point. -/

namespace DrawLine

structure Line where
  second : RasterPoint
  dx : Int
  dy : Int
  sx : Int
  sy : Int

structure LineState where
  first : RasterPoint
  error : Int

/-- A coordinate moved by one, with what this does to the error. -/
def advance (moves : Bool) (error change position direction : Int) :
    Option (Int × Int) :=
  if moves then do
    let error ← int64 (error + change)
    let position ← int32 (position + direction)
    return (error, position)
  else some (error, position)

def step (line : Line) (state : LineState) : Option LineState := do
  let doubled ← int64 (state.error * 2)
  let across ← advance (decide (line.dy ≤ doubled)) state.error line.dy
    state.first.x line.sx
  let down ← advance (decide (doubled ≤ line.dx)) across.1 line.dx
    state.first.y line.sy
  return { first := { x := across.2, y := down.2 }, error := down.1 }

/-- The points in the order in which the loop plots them, if it ends within so
many rounds. -/
def visited (line : Line) : Nat → LineState → Option (List RasterPoint)
  | 0, _ => none
  | rounds + 1, state =>
      if state.first = line.second then some [state.first]
      else do
        let next ← step line state
        let rest ← visited line rounds next
        return state.first :: rest

def absolute (value : Int) : Option Int :=
  int64 (if value < 0 then -value else value)

def begin (first second : RasterPoint) : Option (Line × LineState) := do
  let across ← int64 (second.x - first.x)
  let dx ← absolute across
  let down ← int64 (second.y - first.y)
  let length ← absolute down
  let dy ← int64 (-length)
  let error ← int64 (dx + dy)
  return ({
    second
    dx
    dy
    sx := if first.x < second.x then 1 else -1
    sy := if first.y < second.y then 1 else -1 }, { first, error })

def points (rounds : Nat) (first second : RasterPoint) :
    Option (List RasterPoint) := do
  let started ← begin first second
  visited started.1 rounds started.2

def plotPoint (foreground planeMask : UInt32) (storage : PixelStorage)
    (point : RasterPoint) : PixelStorage :=
  { storage with
    pixels := storage.pixels.store point.x point.y
      (plot storage foreground planeMask point.x point.y
        (storage.pixels point.x point.y)) }

def drawLine (rounds : Nat) (destination : PixelStorage)
    (first second : RasterPoint) (foreground planeMask : UInt32) :
    Option PixelStorage := do
  let line ← points rounds first second
  return line.foldl (plotPoint foreground planeMask) destination

/-! ## The points of the line -/

/-- The values that a coordinate holds. -/
def Fits (value : Int) : Prop := -2 ^ 31 ≤ value ∧ value < 2 ^ 31

/-- A line to be drawn, with its lengths along both axes. -/
structure Span where
  first : RasterPoint
  second : RasterPoint
  fits : (Fits first.x ∧ Fits first.y) ∧ Fits second.x ∧ Fits second.y

namespace Span

variable (span : Span)

def across : Nat := (span.second.x - span.first.x).natAbs

def down : Nat := (span.second.y - span.first.y).natAbs

def sx : Int := if span.first.x < span.second.x then 1 else -1

def sy : Int := if span.first.y < span.second.y then 1 else -1

def length : Nat := max span.across span.down

/-- How many steps were made along each axis after so many rounds: one along
the longer, and along the other what is nearest to the line. -/
def stepsAcross (rounds : Nat) : Nat :=
  if span.down ≤ span.across then rounds
  else nearestRise span.down span.across rounds

def stepsDown (rounds : Nat) : Nat :=
  if span.down ≤ span.across then nearestRise span.across span.down rounds
  else rounds

def point (rounds : Nat) : RasterPoint where
  x := span.first.x + span.sx * span.stepsAcross rounds
  y := span.first.y + span.sy * span.stepsDown rounds

def line : Line where
  second := span.second
  dx := span.across
  dy := -span.down
  sx := span.sx
  sy := span.sy

def state (rounds : Nat) : LineState where
  first := span.point rounds
  error := span.across - span.down - span.down * span.stepsAcross rounds +
    span.across * span.stepsDown rounds

variable {span}

theorem sx_unit : span.sx = 1 ∨ span.sx = -1 := by
  unfold sx
  split <;> simp

theorem sy_unit : span.sy = 1 ∨ span.sy = -1 := by
  unfold sy
  split <;> simp

theorem sx_across : span.sx * span.across = span.second.x - span.first.x := by
  unfold sx across
  split <;> omega

theorem sy_down : span.sy * span.down = span.second.y - span.first.y := by
  unfold sy down
  split <;> omega

theorem absolute_eq {value : Int} (fits : -2 ^ 63 < value ∧ value < 2 ^ 63) :
    absolute value = some (value.natAbs : Int) := by
  have same : (if value < 0 then -value else value) = value.natAbs := by
    split <;> omega
  unfold absolute
  rw [same]
  exact int64_eq_some (by omega) (by omega)

/-- The lengths of a span. -/
theorem lengths_lt : span.across < 2 ^ 32 ∧ span.down < 2 ^ 32 := by
  obtain ⟨⟨x1, y1⟩, x2, y2⟩ := span.fits
  unfold Fits at *
  unfold across down
  omega

theorem state_zero : span.state 0 =
    { first := span.first, error := span.across - span.down } := by
  have origin : ∀ major minor : Nat, nearestRise major minor 0 = 0 := by
    intro major minor
    rcases Nat.eq_zero_or_pos major with rfl | positive
    · simp [nearestRise]
    · exact nearestRise_zero positive
  simp [state, point, stepsAcross, stepsDown, origin]

theorem begin_eq : begin span.first span.second =
    some (span.line, span.state 0) := by
  obtain ⟨wide, high⟩ := span.lengths_lt
  have across : (span.across : Int) =
      (span.second.x - span.first.x).natAbs := rfl
  have down : (span.down : Int) = (span.second.y - span.first.y).natAbs := rfl
  unfold begin
  rw [@int64_eq_some (span.second.x - span.first.x) (by omega)
      (by omega),
    @int64_eq_some (span.second.y - span.first.y) (by omega)
      (by omega)]
  simp only [Option.bind_eq_bind, Option.bind_some]
  rw [absolute_eq (by omega), absolute_eq (by omega), Option.bind_some,
    Option.bind_some, ← across, ← down, int64_eq_some (by omega) (by omega),
    Option.bind_some, int64_eq_some (by omega) (by omega), Option.bind_some,
    state_zero]
  rfl

/-- A coordinate on the way. -/
theorem fits_between {start finish direction : Int} {total steps : Nat}
    (ends : Fits start ∧ Fits finish)
    (unit : direction = 1 ∨ direction = -1)
    (reach : direction * total = finish - start) (within : steps ≤ total) :
    Fits (start + direction * steps) := by
  unfold Fits at *
  rcases unit with rfl | rfl <;> omega

theorem advance_eq {moves : Bool} {error change position direction : Int}
    (sum : moves = true → -2 ^ 63 ≤ error + change ∧ error + change < 2 ^ 63)
    (place : moves = true → Fits (position + direction)) :
    advance moves error change position direction =
      some (error + if moves then change else 0,
        position + if moves then direction else 0) := by
  unfold advance
  cases moves with
  | false => simp
  | true =>
      obtain ⟨low, high⟩ := sum rfl
      obtain ⟨near, far⟩ := place rfl
      rw [if_pos rfl, int64_eq_some low high, int32_eq_some near far]
      rfl

/-- A round in which nothing overflows. -/
theorem step_eq {line : Line} {state next : LineState} (across down : Bool)
    (wide : (-2 ^ 34 ≤ line.dy ∧ line.dy ≤ 0) ∧
      0 ≤ line.dx ∧ line.dx ≤ 2 ^ 34)
    (small : -2 ^ 34 ≤ state.error ∧ state.error ≤ 2 ^ 34)
    (moves : across = decide (line.dy ≤ state.error * 2) ∧
      down = decide (state.error * 2 ≤ line.dx))
    (x : next.first.x = state.first.x + if across then line.sx else 0)
    (y : next.first.y = state.first.y + if down then line.sy else 0)
    (error : next.error = state.error + (if across then line.dy else 0) +
      if down then line.dx else 0)
    (fits : Fits next.first.x ∧ Fits next.first.y) :
    step line state = some next := by
  obtain ⟨first, last⟩ := moves
  have acrossFits : across = true → Fits (state.first.x + line.sx) := by
    rintro rfl
    rw [if_pos rfl] at x
    exact x ▸ fits.1
  have downFits : down = true → Fits (state.first.y + line.sy) := by
    rintro rfl
    rw [if_pos rfl] at y
    exact y ▸ fits.2
  unfold step
  rw [@int64_eq_some (state.error * 2) (by omega) (by omega)]
  simp only [Option.bind_eq_bind, Option.bind_some]
  rw [← first, ← last, advance_eq (fun _ => by omega) acrossFits,
    Option.bind_some, advance_eq (fun _ => by split <;> omega) downFits,
    Option.bind_some, ← x, ← y, ← error]
  rfl

theorem point_fits {rounds : Nat} (within : rounds ≤ span.length) :
    Fits (span.point rounds).x ∧ Fits (span.point rounds).y := by
  obtain ⟨⟨x1, y1⟩, x2, y2⟩ := span.fits
  have inside : span.stepsAcross rounds ≤ span.across ∧
      span.stepsDown rounds ≤ span.down := by
    unfold length at within
    unfold stepsAcross stepsDown
    split
    · rename_i flat
      refine ⟨by omega, ?_⟩
      rcases Nat.eq_zero_or_pos span.across with none | positive
      · simp [nearestRise, none]
      · exact nearestRise_le positive (by omega)
    · rename_i steep
      exact ⟨nearestRise_le (by omega) (by omega), by omega⟩
  exact ⟨fits_between ⟨x1, x2⟩ sx_unit sx_across inside.1,
    fits_between ⟨y1, y2⟩ sy_unit sy_down inside.2⟩

theorem step_state {rounds : Nat} (more : rounds < span.length) :
    step span.line (span.state rounds) = some (span.state (rounds + 1)) := by
  obtain ⟨wide, high⟩ := span.lengths_lt
  have fits := @point_fits span (rounds + 1) more
  have range : (-2 ^ 34 ≤ span.line.dy ∧ span.line.dy ≤ 0) ∧
      0 ≤ span.line.dx ∧ span.line.dx ≤ 2 ^ 34 := by
    simp only [line]
    omega
  have dx : span.line.dx = span.across := rfl
  have dy : span.line.dy = -span.down := rfl
  unfold length at more
  by_cases flat : span.down ≤ span.across
  · have positive : 0 < span.across := by omega
    obtain ⟨low, top⟩ := riseError_bounds span.down positive rounds
    have error : ∀ rounds, (span.state rounds).error =
        riseError span.across span.down rounds + span.across - span.down := by
      intro rounds
      simp only [state, stepsAcross, stepsDown, flat, if_true, riseError]
      ring
    refine step_eq true
      (decide (2 * (riseError span.across span.down rounds - span.down)
        ≤ -span.across)) range (by rw [error]; omega) ⟨?_, ?_⟩ ?_ ?_ ?_ fits
    · rw [eq_comm, decide_eq_true_eq, error]
      omega
    · rw [decide_eq_decide, error]
      omega
    · simp only [state, point, stepsAcross, flat, if_true, line]
      push_cast
      ring
    · simp only [state, point, stepsDown, flat, if_true, line,
        nearestRise_succ positive flat, decide_eq_true_eq]
      split <;> push_cast <;> ring
    · simp only [error, riseError_succ positive flat, if_true, line,
        decide_eq_true_eq]
      split <;> ring
  · have positive : 0 < span.down := by omega
    have steep : span.across ≤ span.down := by omega
    obtain ⟨low, top⟩ :=
      riseError_bounds span.across positive rounds
    have error : ∀ rounds, (span.state rounds).error =
        span.across - span.down - riseError span.down span.across rounds := by
      intro rounds
      simp only [state, stepsAcross, stepsDown, flat, if_false, riseError]
      ring
    refine step_eq (decide
        (2 * (riseError span.down span.across rounds - span.across)
          ≤ -span.down)) true range (by rw [error]; omega) ⟨?_, ?_⟩ ?_ ?_ ?_ fits
    · rw [decide_eq_decide, error]
      omega
    · rw [eq_comm, decide_eq_true_eq, error]
      omega
    · simp only [state, point, stepsAcross, flat, if_false, line,
        nearestRise_succ positive steep, decide_eq_true_eq]
      split <;> push_cast <;> ring
    · simp only [state, point, stepsDown, flat, if_false, if_true, line]
      push_cast
      ring
    · simp only [error, riseError_succ positive steep, if_true, line,
        decide_eq_true_eq]
      split <;> ring

theorem line_second : span.line.second = span.second := rfl

theorem state_first (rounds : Nat) :
    (span.state rounds).first = span.point rounds := rfl

theorem point_length : span.point span.length = span.second := by
  have ends : span.stepsAcross span.length = span.across ∧
      span.stepsDown span.length = span.down := by
    unfold stepsAcross stepsDown length
    split
    · rename_i flat
      rw [max_eq_left flat]
      refine ⟨rfl, ?_⟩
      rcases Nat.eq_zero_or_pos span.across with none | positive
      · simp only [nearestRise, none]
        omega
      · exact nearestRise_end positive
    · rename_i steep
      rw [max_eq_right (by omega)]
      exact ⟨nearestRise_end (by omega), rfl⟩
  have x := span.sx_across
  have y := span.sy_down
  unfold point
  rw [ends.1, ends.2, x, y]
  simp

/-- The coordinate along the longer axis has not come to its end before. -/
theorem point_ne {rounds : Nat} (more : rounds < span.length) :
    span.point rounds ≠ span.second := by
  intro same
  have x := span.sx_across
  have y := span.sy_down
  have atX := congrArg RasterPoint.x same
  have atY := congrArg RasterPoint.y same
  unfold length at more
  simp only [point, stepsAcross, stepsDown] at atX atY
  by_cases flat : span.down ≤ span.across
  · rw [if_pos flat] at atX
    rcases span.sx_unit with unit | unit <;> rw [unit] at x atX <;> omega
  · rw [if_neg flat] at atY
    rcases span.sy_unit with unit | unit <;> rw [unit] at y atY <;> omega

/-- The loop visits the points of the line one after the other and ends at the
last. -/
theorem visited_eq {rounds remaining done : Nat}
    (length : done + remaining = span.length) (enough : remaining < rounds) :
    visited span.line rounds (span.state done) =
      some ((List.range' done (remaining + 1)).map span.point) := by
  induction remaining generalizing done rounds with
  | zero =>
      obtain ⟨rounds, rfl⟩ := Nat.exists_eq_succ_of_ne_zero
        (Nat.ne_of_gt (Nat.zero_lt_of_lt enough))
      have last : span.point done = span.second := by
        rw [← point_length, ← length, Nat.add_zero]
      rw [Nat.succ_eq_add_one, visited, state_first]
      exact if_pos last
  | succ remaining ih =>
      obtain ⟨rounds, rfl⟩ := Nat.exists_eq_succ_of_ne_zero
        (Nat.ne_of_gt (Nat.zero_lt_of_lt enough))
      have further : done < span.length := by omega
      have onward : visited span.line rounds (span.state (done + 1)) =
          some ((List.range' (done + 1) (remaining + 1)).map span.point) :=
        ih (by omega) (by omega)
      rw [Nat.succ_eq_add_one, visited, state_first,
        line_second, if_neg (point_ne further), step_state further]
      simp only [Option.bind_eq_bind, Option.bind_some, onward]
      rfl

/-- Fewer rounds do not bring the loop to its end. -/
theorem visited_none {rounds done : Nat}
    (short : done + rounds ≤ span.length) :
    visited span.line rounds (span.state done) = none := by
  induction rounds generalizing done with
  | zero => rfl
  | succ rounds ih =>
      have further : done < span.length := by omega
      rw [visited, state_first, line_second, if_neg (point_ne further),
        step_state further]
      have never : visited span.line rounds (span.state (done + 1)) = none :=
        ih (by omega)
      simp only [Option.bind_eq_bind, Option.bind_some, never]
      rfl

theorem points_eq (rounds : Nat) :
    points rounds span.first span.second =
      if span.length < rounds then
        some ((List.range (span.length + 1)).map span.point)
      else none := by
  unfold points
  rw [begin_eq]
  simp only [Option.bind_eq_bind, Option.bind_some]
  split
  · rename_i enough
    rw [List.range_eq_range']
    exact visited_eq (Nat.zero_add _) enough
  · rename_i short
    exact visited_none (by omega)

/-! ## What the points are like -/

/-- Neighbours, diagonal ones included. -/
def Adjacent (left right : RasterPoint) : Prop :=
  left ≠ right ∧ |right.x - left.x| ≤ 1 ∧ |right.y - left.y| ≤ 1

/-- Within half a pixel of the line along the shorter axis: the distance is
multiplied by the length along the longer one. -/
def Near (span : Span) (point : RasterPoint) : Prop :=
  2 * |(span.second.x - span.first.x) * (point.y - span.first.y) -
      (span.second.y - span.first.y) * (point.x - span.first.x)| ≤ span.length

theorem point_near {rounds : Nat} : span.Near (span.point rounds) := by
  have product : (span.second.x - span.first.x) *
        ((span.point rounds).y - span.first.y) -
      (span.second.y - span.first.y) *
        ((span.point rounds).x - span.first.x) =
      span.sx * span.sy * (span.across * span.stepsDown rounds -
        span.down * span.stepsAcross rounds) := by
    rw [← sx_across, ← sy_down]
    unfold point
    ring
  have units : |span.sx * span.sy| = 1 := by
    rcases span.sx_unit with x | x <;> rcases span.sy_unit with y | y <;>
      rw [x, y] <;> rfl
  unfold Near
  rw [product, abs_mul, units, one_mul]
  unfold stepsAcross stepsDown length
  split
  · rename_i flat
    rw [max_eq_left flat]
    rcases Nat.eq_zero_or_pos span.across with none | positive
    · obtain low : span.down = 0 := by omega
      simp [none, low]
    · obtain ⟨low, high⟩ :=
        riseError_bounds span.down positive rounds
      unfold riseError at low high
      have bound := abs_le.mpr ⟨le_of_lt low, high⟩
      rw [abs_mul] at bound
      exact bound
  · rename_i steep
    rw [max_eq_right (by omega)]
    obtain ⟨low, high⟩ := riseError_bounds span.across
      (show 0 < span.down by omega) rounds
    unfold riseError at low high
    have bound := abs_le.mpr ⟨le_of_lt low, high⟩
    rw [abs_mul, abs_sub_comm] at bound
    exact bound

theorem nearestRise_grows {major minor rounds : Nat} (positive : 0 < major)
    (flat : minor ≤ major) :
    nearestRise major minor (rounds + 1) = nearestRise major minor rounds ∨
      nearestRise major minor (rounds + 1) =
        nearestRise major minor rounds + 1 := by
  rw [nearestRise_succ positive flat]
  split
  · exact Or.inr rfl
  · exact Or.inl rfl

theorem point_adjacent {rounds : Nat} (more : rounds < span.length) :
    Adjacent (span.point rounds) (span.point (rounds + 1)) := by
  unfold length at more
  have acrossMoves : span.stepsAcross (rounds + 1) = span.stepsAcross rounds ∨
      span.stepsAcross (rounds + 1) = span.stepsAcross rounds + 1 := by
    unfold stepsAcross
    split
    · exact Or.inr rfl
    · exact nearestRise_grows (by omega) (by omega)
  have downMoves : span.stepsDown (rounds + 1) = span.stepsDown rounds ∨
      span.stepsDown (rounds + 1) = span.stepsDown rounds + 1 := by
    unfold stepsDown
    split
    · exact nearestRise_grows (by omega) (by omega)
    · exact Or.inr rfl
  have one : span.stepsAcross (rounds + 1) = span.stepsAcross rounds + 1 ∨
      span.stepsDown (rounds + 1) = span.stepsDown rounds + 1 := by
    unfold stepsAcross stepsDown
    split
    · exact Or.inl rfl
    · exact Or.inr rfl
  have x := span.sx_unit
  have y := span.sy_unit
  refine ⟨fun same => ?_, ?_, ?_⟩
  · have atX := congrArg RasterPoint.x same
    have atY := congrArg RasterPoint.y same
    simp only [point] at atX atY
    rcases x with x | x <;> rcases y with y | y <;> rw [x] at atX <;>
      rw [y] at atY <;> omega
  · rw [abs_le]
    simp only [point]
    rcases x with x | x <;> rw [x] <;> omega
  · rw [abs_le]
    simp only [point]
    rcases y with y | y <;> rw [y] <;> omega

/-- However it goes, the loop ends, after as many points as the longer axis
has; they lead from the first point to the second. -/
theorem points_trace (span : Span) :
    ∃ line : List RasterPoint,
      (∀ rounds, points rounds span.first span.second =
        if line.length ≤ rounds then some line else none) ∧
      (∀ rounds destination foreground planeMask, line.length ≤ rounds →
        drawLine rounds destination span.first span.second foreground
          planeMask =
          some (line.foldl (plotPoint foreground planeMask) destination)) ∧
      line.length = max (span.second.x - span.first.x).natAbs
        (span.second.y - span.first.y).natAbs + 1 ∧
      line.head? = some span.first ∧ line.getLast? = some span.second ∧
      (∀ point ∈ line, span.Near point) ∧ line.IsChain Adjacent := by
  have ends : ∀ rounds, points rounds span.first span.second =
      if ((List.range (span.length + 1)).map span.point).length ≤ rounds then
        some ((List.range (span.length + 1)).map span.point)
      else none := by
    intro rounds
    rw [points_eq, List.length_map, List.length_range]
    rfl
  refine ⟨(List.range (span.length + 1)).map span.point, ends,
    fun rounds destination foreground planeMask enough => ?_,
    ?_, ?_, ?_, ?_, ?_⟩
  · rw [drawLine, ends, if_pos enough]
    rfl
  · rw [List.length_map, List.length_range]
    rfl
  · rw [List.range_succ_eq_map, List.map_cons, List.head?_cons,
      ← state_first, state_zero]
  · rw [List.range_succ, List.map_append, List.map_singleton,
      List.getLast?_concat, point_length]
  · intro point member
    obtain ⟨rounds, _, rfl⟩ := List.mem_map.mp member
    exact point_near
  · rw [List.isChain_map, List.isChain_range_succ]
    exact fun rounds more => point_adjacent more

end Span

end DrawLine

end Glasswyrm.Server
