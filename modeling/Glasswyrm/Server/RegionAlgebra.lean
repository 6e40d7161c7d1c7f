import Glasswyrm.Library.Order
import Glasswyrm.Server.XFixesRegion

namespace Glasswyrm.Server.XFixesRegion

open Glasswyrm.Geometry (Rectangle Before intersect intersect_some
  intersect_points intersect_none intersect_contains)
open Library

/-! A region stands for the set of its points.  Each function on regions is
compared with the operation on sets. -/

/-- The rectangles that a region is made of. -/
structure Sound (rectangle : Rectangle) : Prop where
  representable : rectangle.Representable
  valid : valid rectangle = true

/-- Disjoint rectangles that together make up a set. -/
structure MakeUp (rectangles : List Rectangle) (points : Set (Int × Int)) :
    Prop where
  sound : ∀ rectangle ∈ rectangles, Sound rectangle
  apart : Library.Apart Rectangle.points rectangles
  covers : covered Rectangle.points rectangles = points

/-- A region in the order in which regions are kept. -/
structure IsRegion (rectangles : List Rectangle) (points : Set (Int × Int)) :
    Prop extends MakeUp rectangles points where
  sorted : rectangles.Pairwise Before

theorem valid_iff {rectangle : Rectangle} :
    valid rectangle = true ↔
      (0 < rectangle.width ∧ 0 < rectangle.height) ∧
        rectangle.right < 2 ^ 31 ∧ rectangle.bottom < 2 ^ 31 := by
  unfold valid int32Maximum
  simp only [Rectangle.empty, Bool.and_eq_true, Bool.not_eq_true',
    Bool.or_eq_false_iff, decide_eq_true_eq, decide_eq_false_iff_not]
  omega

theorem Sound.bounds {rectangle : Rectangle} (sound : Sound rectangle) :
    (-2 ^ 31 ≤ rectangle.x ∧ -2 ^ 31 ≤ rectangle.y) ∧
      (0 < rectangle.width ∧ 0 < rectangle.height) ∧
        rectangle.right < 2 ^ 31 ∧ rectangle.bottom < 2 ^ 31 :=
  ⟨⟨sound.representable.1.1, sound.representable.2.1.1⟩,
    valid_iff.mp sound.valid⟩

theorem Sound.of_bounds {rectangle : Rectangle}
    (low : -2 ^ 31 ≤ rectangle.x ∧ -2 ^ 31 ≤ rectangle.y)
    (extents : 0 < rectangle.width ∧ 0 < rectangle.height)
    (high : rectangle.right < 2 ^ 31 ∧ rectangle.bottom < 2 ^ 31) :
    Sound rectangle := by
  refine ⟨?_, valid_iff.mpr ⟨extents, high⟩⟩
  simp only [Rectangle.Representable, Rectangle.right, Rectangle.bottom] at *
  omega

theorem Sound.not_empty {rectangle : Rectangle} (sound : Sound rectangle) :
    rectangle.empty = false := by
  have bounds := sound.bounds
  simp only [Rectangle.empty, Bool.or_eq_false_iff, decide_eq_false_iff_not]
  omega

theorem makeUp_nil : MakeUp [] ∅ :=
  ⟨List.forall_mem_nil _, List.Pairwise.nil, covered_nil⟩

theorem MakeUp.append {first second : List Rectangle}
    {points others : Set (Int × Int)} (left : MakeUp first points)
    (right : MakeUp second others) (disjoint : Disjoint points others) :
    MakeUp (first ++ second) (points ∪ others) := by
  refine ⟨List.forall_mem_append.mpr ⟨left.sound, right.sound⟩,
    apart_append.mpr ⟨left.apart, right.apart, ?_⟩, ?_⟩
  · rw [left.covers, right.covers]
    exact disjoint
  · rw [covered_append, left.covers, right.covers]

theorem MakeUp.congr {rectangles : List Rectangle}
    {points others : Set (Int × Int)} (makes : MakeUp rectangles points)
    (same : points = others) : MakeUp rectangles others :=
  same ▸ makes

theorem MakeUp.subset {rectangles : List Rectangle}
    {points : Set (Int × Int)} (makes : MakeUp rectangles points)
    {rectangle : Rectangle} (member : rectangle ∈ rectangles) :
    rectangle.points ⊆ points :=
  makes.covers ▸ shape_subset_covered member

/-! ## One rectangle out of another -/

/-- Whether a rectangle can be cut: what is taken out of it begins less than
2^31 after it does. -/
def CutFits (source removed : Rectangle) : Prop :=
  ∀ overlap, intersect source removed = some overlap →
    overlap.x - source.x < 2 ^ 31 ∧ overlap.y - source.y < 2 ^ 31

theorem extentBetween_ok {far near : Int} {extent : Nat} (after : near < far)
    (ok : extentBetween far near = .ok extent) :
    (extent : Int) = far - near := by
  unfold extentBetween at ok
  split at ok
  · rename_i value fits
    obtain ⟨⟨_, high⟩, rfl⟩ := checkedInt_eq_some_iff.mp fits
    obtain rfl := Except.ok.inj ok
    exact castUint32_of_fits _ (by omega) (by omega)
  · cases ok

theorem extentBetween_error {far near : Int} (after : near < far)
    (fault : RegionFault) :
    extentBetween far near = .error fault ↔
      fault = .overflow ∧ 2 ^ 31 ≤ far - near := by
  unfold extentBetween
  split
  · rename_i value fits
    obtain ⟨⟨_, high⟩, rfl⟩ := checkedInt_eq_some_iff.mp fits
    simp only [reduceCtorEq, false_iff, not_and, not_le]
    exact fun _ => high
  · rename_i outside
    have wide : ¬(far - near < 2 ^ 31) := fun narrow =>
      absurd (int32_eq_some (by omega) narrow) (by simp [outside])
    simp only [Except.error.injEq]
    exact ⟨fun same => ⟨same.symm, by omega⟩, fun same => same.1.symm⟩

theorem makeUp_single {rectangle : Rectangle} {points : Set (Int × Int)}
    (sound : Sound rectangle) (same : rectangle.points = points) :
    MakeUp [rectangle] points := by
  refine ⟨List.forall_mem_singleton.mpr sound, List.pairwise_singleton _ _,
    ?_⟩
  rw [covered_cons, covered_nil, Set.union_empty, same]

/-- The piece on the far side of what is taken out. -/
theorem farPiece_makeUp {near far : Int} {piece : Rectangle}
    {points : Set (Int × Int)}
    (some : near < far → Sound piece ∧ piece.points = points)
    (none : ¬near < far → points = ∅) :
    MakeUp (if near < far then [piece] else []) points := by
  split
  · rename_i there
    exact makeUp_single (some there).1 (some there).2
  · rename_i nothing
    exact makeUp_nil.congr (none nothing).symm

/-- The piece on the near side, whose extent is a 32-bit difference. -/
theorem nearPiece_makeUp {near far : Int} {piece : Nat → Rectangle}
    {points : Set (Int × Int)} {pieces : List Rectangle}
    (ok : nearPiece far near piece = .ok pieces)
    (some : near < far → ∀ extent : Nat, (extent : Int) = far - near →
      Sound (piece extent) ∧ (piece extent).points = points)
    (none : ¬near < far → points = ∅) : MakeUp pieces points := by
  unfold nearPiece at ok
  split at ok
  · rename_i there
    obtain ⟨extent, known, same⟩ := Except.bind_eq_ok_iff.mp ok
    obtain rfl := Except.ok.inj same
    have exact := some there extent (extentBetween_ok there known)
    exact makeUp_single exact.1 exact.2
  · rename_i nothing
    obtain rfl := Except.ok.inj ok
    exact makeUp_nil.congr (none nothing).symm

/-- The points between four edges. -/
def box (left right top bottom : Int) : Set (Int × Int) :=
  {point | (left ≤ point.1 ∧ point.1 < right) ∧
    top ≤ point.2 ∧ point.2 < bottom}

section

variable {left right top bottom left' right' top' bottom' : Int}

theorem box_empty (thin : ¬left < right ∨ ¬top < bottom) :
    box left right top bottom = ∅ := by
  apply Set.eq_empty_of_forall_notMem
  rintro point ⟨across, down⟩
  omega

theorem box_disjoint (apart : (right ≤ left' ∨ right' ≤ left) ∨
      bottom ≤ top' ∨ bottom' ≤ top) :
    Disjoint (box left right top bottom) (box left' right' top' bottom') := by
  rw [Set.disjoint_left]
  rintro point ⟨across, down⟩ ⟨across', down'⟩
  omega

/-- A rectangle with these edges holds what lies between them. -/
theorem Sound.of_edges {rectangle : Rectangle}
    (near : rectangle.x = left ∧ rectangle.y = top)
    (far : rectangle.right = right ∧ rectangle.bottom = bottom)
    (low : -2 ^ 31 ≤ left ∧ -2 ^ 31 ≤ top) (some : left < right ∧ top < bottom)
    (high : right < 2 ^ 31 ∧ bottom < 2 ^ 31) :
    Sound rectangle ∧ rectangle.points = box left right top bottom := by
  obtain ⟨rfl, rfl⟩ := near
  obtain ⟨rfl, rfl⟩ := far
  refine ⟨.of_bounds low ?_ high, ?_⟩
  · simp only [Rectangle.right, Rectangle.bottom] at some
    omega
  · ext point
    exact and_assoc.symm

end

/-- What is left around the overlap: above, below, before and after it. -/
theorem points_sdiff {source removed overlap : Rectangle}
    (met : intersect source removed = some overlap) :
    source.points \ removed.points =
      box source.x source.right source.y overlap.y ∪
            box source.x source.right overlap.bottom source.bottom ∪
          box source.x overlap.x overlap.y overlap.bottom ∪
        box overlap.right source.right overlap.y overlap.bottom := by
  obtain ⟨x1, y1, x2, y2, width, height⟩ := intersect_some met
  have filled : overlap.right = overlap.x + overlap.width ∧
      overlap.bottom = overlap.y + overlap.height := ⟨rfl, rfl⟩
  ext point
  simp only [Set.mem_sdiff, Set.mem_union, Set.mem_ofPred_eq, box,
    Rectangle.points, Rectangle.Contains]
  omega

theorem subtractOne_makeUp {source removed : Rectangle}
    {pieces : List Rectangle} (sound : Sound source)
    (ok : subtractOne source removed = .ok pieces) :
    MakeUp pieces (source.points \ removed.points) := by
  unfold subtractOne at ok
  split at ok
  · rename_i apart
    obtain rfl := Except.ok.inj ok
    refine makeUp_single sound ?_
    rw [eq_comm, sdiff_eq_left, Set.disjoint_left]
    exact fun point inside also =>
      intersect_none apart point.1 point.2 ⟨inside, also⟩
  · rename_i overlap met
    obtain ⟨above, upper, ok⟩ := Except.bind_eq_ok_iff.mp ok
    obtain ⟨before, nearer, ok⟩ := Except.bind_eq_ok_iff.mp ok
    obtain rfl := Except.ok.inj ok
    obtain ⟨low, extents, high⟩ := sound.bounds
    obtain ⟨x1, y1, x2, y2, width, height⟩ := intersect_some met
    have across : source.x ≤ overlap.x ∧ overlap.x < overlap.right ∧
        overlap.right ≤ source.right := by
      simp only [Rectangle.right] at *
      omega
    have down : source.y ≤ overlap.y ∧ overlap.y < overlap.bottom ∧
        overlap.bottom ≤ source.bottom := by
      simp only [Rectangle.bottom] at *
      omega
    have right := castInt32_of_fits overlap.right (by omega) (by omega)
    have bottom := castInt32_of_fits overlap.bottom (by omega) (by omega)
    have beyond := castUint32_of_fits (source.right - overlap.right)
      (by omega) (by omega)
    have beneath := castUint32_of_fits (source.bottom - overlap.bottom)
      (by omega) (by omega)
    rw [points_sdiff met]
    refine MakeUp.append (MakeUp.append (MakeUp.append ?_ ?_ ?_) ?_ ?_) ?_ ?_
    · refine nearPiece_makeUp upper (fun there height known => ?_)
        fun nothing => box_empty (.inr nothing)
      refine Sound.of_edges ⟨rfl, rfl⟩ ⟨rfl, ?_⟩ low ?_ ?_
      · rw [Rectangle.bottom, known]
        exact add_sub_cancel _ _
      · omega
      · omega
    · refine farPiece_makeUp (fun there => ?_)
        fun nothing => box_empty (.inr nothing)
      refine Sound.of_edges ⟨rfl, bottom⟩ ⟨rfl, ?_⟩ ?_ ?_ high
      · rw [Rectangle.bottom, bottom, beneath]
        exact add_sub_cancel _ _
      · omega
      · omega
    · exact box_disjoint (.inr (.inl (by omega)))
    · refine nearPiece_makeUp nearer (fun there width known => ?_)
        fun nothing => box_empty (.inl nothing)
      refine Sound.of_edges ⟨rfl, rfl⟩ ⟨?_, rfl⟩ ?_ ?_ ?_
      · rw [Rectangle.right, known]
        exact add_sub_cancel _ _
      · omega
      · omega
      · omega
    · refine Set.disjoint_union_left.mpr ⟨?_, ?_⟩
      · exact box_disjoint (.inr (.inl le_rfl))
      · exact box_disjoint (.inr (.inr le_rfl))
    · refine farPiece_makeUp (fun there => ?_)
        fun nothing => box_empty (.inl nothing)
      refine Sound.of_edges ⟨right, rfl⟩ ⟨?_, rfl⟩ ?_ ?_ ?_
      · rw [Rectangle.right, right, beyond]
        exact add_sub_cancel _ _
      · omega
      · omega
      · omega
    · refine Set.disjoint_union_left.mpr ⟨Set.disjoint_union_left.mpr ⟨?_, ?_⟩,
        ?_⟩
      · exact box_disjoint (.inr (.inl le_rfl))
      · exact box_disjoint (.inr (.inr le_rfl))
      · exact box_disjoint (.inl (.inl (by omega)))

theorem nearPiece_error (near far : Int) (piece : Nat → Rectangle)
    (reach : near ≤ far) (fault : RegionFault) :
    nearPiece far near piece = .error fault ↔
      fault = .overflow ∧ 2 ^ 31 ≤ far - near := by
  unfold nearPiece
  split
  · rename_i there
    rw [Except.bind_eq_error_iff, extentBetween_error there]
    simp [pure, Except.pure]
  · simp only [pure, Except.pure, reduceCtorEq, false_iff, not_and, not_le]
    omega

theorem subtractOne_error {source removed : Rectangle} (fault : RegionFault) :
    subtractOne source removed = .error fault ↔
      fault = .overflow ∧ ¬CutFits source removed := by
  unfold subtractOne CutFits
  cases met : intersect source removed with
  | none => simp
  | some overlap =>
      obtain ⟨x1, y1, _⟩ := intersect_some met
      have above := nearPiece_error source.y overlap.y
        (fun height => { source with height }) (by omega)
      have goes : overlap.y - source.y < 2 ^ 31 → ∃ pieces,
          nearPiece overlap.y source.y
            (fun height => { source with height }) = .ok pieces := by
        intro narrow
        cases taken : nearPiece overlap.y source.y
            (fun height => { source with height }) with
        | ok pieces => exact ⟨pieces, rfl⟩
        | error failure => exact absurd ((above failure).mp taken).2 (by omega)
      have before := nearPiece_error source.x overlap.x
        (fun width => { overlap with x := source.x, width }) (by omega)
      simp only [Option.some.injEq, forall_eq', Except.bind_eq_error_iff,
        above, before, pure, Except.pure, reduceCtorEq, and_false,
        exists_false, or_false, not_and_or, not_lt]
      constructor
      · rintro (⟨outside, wide⟩ | ⟨pieces, _, outside, wide⟩)
        · exact ⟨outside, Or.inr wide⟩
        · exact ⟨outside, Or.inl wide⟩
      · rintro ⟨outside, wide⟩
        by_cases narrow : overlap.y - source.y < 2 ^ 31
        · obtain ⟨pieces, cut⟩ := goes narrow
          exact Or.inr ⟨pieces, cut, outside, by omega⟩
        · exact Or.inl ⟨outside, by omega⟩

/-! ## One rectangle into a region -/

theorem mergePair_joins {left right whole : Rectangle} (first : Sound left)
    (second : Sound right) (merged : mergePair left right = some whole) :
    whole.points = left.points ∪ right.points ∧ Sound whole := by
  have here := first.bounds
  have there := second.bounds
  simp only [Rectangle.right, Rectangle.bottom] at here there
  unfold mergePair at merged
  rw [ite_eq_iff, ite_eq_iff] at merged
  obtain ⟨⟨top, height, edge⟩, same⟩ |
    ⟨_, ⟨⟨side, width, edge⟩, same⟩ | ⟨_, wrong⟩⟩ := merged
  · have sum := castUint32_of_fits (left.width + right.width)
      (by omega) (by simp only [Rectangle.right] at edge; omega)
    obtain rfl := Option.some.inj same
    simp only [Rectangle.right] at edge
    refine ⟨?_, ?_⟩
    · ext point
      simp only [Rectangle.points, Rectangle.Contains, Rectangle.right,
        Rectangle.bottom, Set.mem_union, Set.mem_ofPred_eq]
      omega
    · apply Sound.of_bounds <;>
        simp only [Rectangle.right, Rectangle.bottom] <;> omega
  · have sum := castUint32_of_fits (left.height + right.height)
      (by omega) (by simp only [Rectangle.bottom] at edge; omega)
    obtain rfl := Option.some.inj same
    simp only [Rectangle.bottom] at edge
    refine ⟨?_, ?_⟩
    · ext point
      simp only [Rectangle.points, Rectangle.Contains, Rectangle.right,
        Rectangle.bottom, Set.mem_union, Set.mem_ofPred_eq]
      omega
    · apply Sound.of_bounds <;>
        simp only [Rectangle.right, Rectangle.bottom] <;> omega
  · cases wrong

/-- Cutting the fragments one after the other leaves what was left of those
before and what the cut leaves of these. -/
theorem cutFrom_makeUp {held : Nat} {removed : Rectangle}
    {fragments state next : List Rectangle} {points : Set (Int × Int)}
    (begun : MakeUp state points)
    (sound : ∀ fragment ∈ fragments, Sound fragment)
    (apart : Library.Apart Rectangle.points fragments)
    (disjoint : Disjoint points (covered Rectangle.points fragments))
    (ok : fragments.foldlM (cutFragment held removed) state = .ok next) :
    MakeUp next
      (points ∪ (covered Rectangle.points fragments \ removed.points)) := by
  induction fragments generalizing state points with
  | nil =>
      obtain rfl := Except.ok.inj ok
      refine begun.congr ?_
      rw [covered_nil, Set.empty_sdiff, Set.union_empty]
  | cons fragment rest ih =>
      rw [List.foldlM_cons, Except.bind_eq_ok_iff] at ok
      obtain ⟨after, taken, ok⟩ := ok
      obtain ⟨pieces, cut, kept⟩ := Except.bind_eq_ok_iff.mp taken
      rw [ite_eq_iff] at kept
      obtain ⟨_, wrong⟩ | ⟨_, same⟩ := kept
      · cases wrong
      obtain rfl := Except.ok.inj same
      rw [List.forall_mem_cons] at sound
      rw [covered_cons, Set.disjoint_union_right] at disjoint
      rw [apart_cons] at apart
      have made := subtractOne_makeUp sound.1 cut
      have more := begun.append made
        (disjoint.1.mono_right Set.sdiff_subset)
      refine (ih more sound.2 apart.2 ?_ ok).congr ?_
      · rw [Set.disjoint_union_left]
        exact ⟨disjoint.2, apart.1.mono_left Set.sdiff_subset⟩
      · rw [covered_cons, Set.union_sdiff_distrib, Set.union_assoc]

theorem cutFragments_makeUp {held : Nat} {removed : Rectangle}
    {fragments next : List Rectangle} {points : Set (Int × Int)}
    (makes : MakeUp fragments points)
    (ok : cutFragments held fragments removed = .ok next) :
    MakeUp next (points \ removed.points) := by
  refine (cutFrom_makeUp makeUp_nil makes.sound makes.apart
    (Set.empty_disjoint _) ok).congr ?_
  rw [makes.covers, Set.empty_union]

theorem fragmentsOutside_makeUp {destination fragments : List Rectangle}
    {rectangle : Rectangle} (sound : Sound rectangle)
    (ok : fragmentsOutside destination rectangle = .ok fragments) :
    MakeUp fragments
      (rectangle.points \ covered Rectangle.points destination) := by
  refine foldlM_accumulates
    (fun done fragments => MakeUp fragments
      (rectangle.points \ covered Rectangle.points done)) ?_ ?_ ok
  · intro done fragments removed next _ makes cut
    refine (cutFragments_makeUp makes cut).congr ?_
    rw [covered_append, covered_cons, covered_nil, Set.union_empty,
      Set.sdiff_sdiff]
  · refine makeUp_single sound ?_
    rw [covered_nil, Set.sdiff_empty]

theorem addRectangle_isRegion {destination result : List Rectangle}
    {rectangle : Rectangle} {points : Set (Int × Int)}
    (representable : rectangle.Representable)
    (region : IsRegion destination points)
    (ok : addRectangle destination rectangle = .ok result) :
    IsRegion result (points ∪ rectangle.points) := by
  unfold addRectangle at ok
  split at ok
  · rw [ite_eq_iff] at ok
    obtain ⟨nothing, same⟩ | ⟨_, wrong⟩ := ok
    · obtain rfl := Except.ok.inj same
      rw [Rectangle.points_of_empty nothing, Set.union_empty]
      exact region
    · cases wrong
  · rename_i admitted
    have sound : Sound rectangle := ⟨representable, by simpa using admitted⟩
    obtain ⟨fragments, cut, ok⟩ := Except.bind_eq_ok_iff.mp ok
    simp only at ok
    rw [ite_eq_iff] at ok
    obtain ⟨_, same⟩ | ⟨_, wrong⟩ := ok
    · obtain rfl := Except.ok.inj same
      have outside := fragmentsOutside_makeUp sound cut
      rw [region.covers] at outside
      have both := region.toMakeUp.append outside Set.disjoint_sdiff_right
      obtain ⟨covers, apart, each⟩ :=
        (coalesce_coalesced mergePair _).covers
          Rectangle.points Sound
          (fun _ _ _ merged first second =>
            mergePair_joins first second merged) both.sound both.apart
      have order := List.perm_insertionSort Before
        (coalesce mergePair (destination ++ fragments))
      refine ⟨⟨?_, apart.perm order.symm, ?_⟩,
        List.pairwise_insertionSort Before _⟩
      · exact fun part member => each part (order.mem_iff.mp member)
      · refine (covered_perm order).trans (covers.trans ?_)
        rw [both.covers, Set.union_sdiff_self]
    · cases wrong

theorem addRectangles_isRegion {destination rectangles result : List Rectangle}
    {points : Set (Int × Int)}
    (representable : ∀ rectangle ∈ rectangles, rectangle.Representable)
    (region : IsRegion destination points)
    (ok : addRectangles destination rectangles = .ok result) :
    IsRegion result (points ∪ covered Rectangle.points rectangles) := by
  refine foldlM_accumulates
    (fun done result => IsRegion result
      (points ∪ covered Rectangle.points done)) ?_ ?_ ok
  · intro done state rectangle next member made added
    have more := addRectangle_isRegion (representable rectangle member) made
      added
    rwa [covered_append, covered_cons, covered_nil, Set.union_empty,
      ← Set.union_assoc]
  · rw [covered_nil, Set.union_empty]
    exact region

/-! ## How many rectangles there are -/

theorem addRectangles_length {destination rectangles result : List Rectangle}
    (few : destination.length ≤ kMaximumXFixesRegionRectangles)
    (ok : addRectangles destination rectangles = .ok result) :
    result.length ≤ kMaximumXFixesRegionRectangles := by
  refine foldlM_accumulates
    (fun _ result =>
      result.length ≤ kMaximumXFixesRegionRectangles) ?_ few ok
  intro _ state rectangle next _ within added
  unfold addRectangle at added
  split at added
  · rw [ite_eq_iff] at added
    obtain ⟨_, same⟩ | ⟨_, wrong⟩ := added
    · obtain rfl := Except.ok.inj same
      exact within
    · cases wrong
  · obtain ⟨fragments, _, added⟩ := Except.bind_eq_ok_iff.mp added
    simp only at added
    rw [ite_eq_iff] at added
    obtain ⟨short, same⟩ | ⟨_, wrong⟩ := added
    · obtain rfl := Except.ok.inj same
      exact short
    · cases wrong

theorem unionRegions_length {left right result : List Rectangle}
    (ok : unionRegions left right = .ok result) :
    result.length ≤ kMaximumXFixesRegionRectangles := by
  obtain ⟨normal, normalized, added⟩ := Except.bind_eq_ok_iff.mp ok
  unfold normalizeRegion at normalized
  rw [ite_eq_iff] at normalized
  obtain ⟨_, wrong⟩ | ⟨_, normalized⟩ := normalized
  · cases wrong
  · exact addRectangles_length
      (addRectangles_length (Nat.zero_le _) normalized) added

theorem isRegion_nil : IsRegion [] ∅ := ⟨makeUp_nil, List.Pairwise.nil⟩

theorem IsRegion.congr {rectangles : List Rectangle}
    {points others : Set (Int × Int)} (region : IsRegion rectangles points)
    (same : points = others) : IsRegion rectangles others :=
  same ▸ region

section

variable {left right result : List Rectangle}

theorem normalizeRegion_isRegion
    (representable : ∀ rectangle ∈ left, rectangle.Representable)
    (ok : normalizeRegion left = .ok result) :
    IsRegion result (covered Rectangle.points left) := by
  unfold normalizeRegion at ok
  rw [ite_eq_iff] at ok
  obtain ⟨_, wrong⟩ | ⟨_, added⟩ := ok
  · cases wrong
  · refine (addRectangles_isRegion representable isRegion_nil added).congr ?_
    rw [Set.empty_union]

theorem unionRegions_isRegion
    (first : ∀ rectangle ∈ left, rectangle.Representable)
    (second : ∀ rectangle ∈ right, rectangle.Representable)
    (ok : unionRegions left right = .ok result) :
    IsRegion result (covered Rectangle.points left ∪
      covered Rectangle.points right) := by
  obtain ⟨normal, normalized, added⟩ := Except.bind_eq_ok_iff.mp ok
  exact addRectangles_isRegion second
    (normalizeRegion_isRegion first normalized) added

theorem overlap_representable {first second overlap : Rectangle}
    (here : first.Representable) (there : second.Representable)
    (met : intersect first second = some overlap) :
    overlap.Representable := by
  obtain ⟨x1, y1, x2, y2, width, height⟩ := intersect_some met
  simp only [Rectangle.Representable, Rectangle.right, Rectangle.bottom] at *
  omega

theorem overlapWith_isRegion {intersections : List Rectangle}
    {points : Set (Int × Int)} {first second : Rectangle}
    (representable : first.Representable ∧ second.Representable)
    (region : IsRegion intersections points)
    (ok : overlapWith first intersections second = .ok result) :
    IsRegion result (points ∪ (first.points ∩ second.points)) := by
  unfold overlapWith at ok
  split at ok
  · rename_i apart
    obtain rfl := Except.ok.inj ok
    refine region.congr ?_
    have nothing : first.points ∩ second.points = ∅ := by
      ext point
      exact iff_of_false (intersect_none apart point.1 point.2) id
    rw [nothing, Set.union_empty]
  · rename_i overlap met
    rw [← intersect_points met]
    exact addRectangle_isRegion
      (overlap_representable representable.1 representable.2 met) region ok

theorem overlapsWith_isRegion {intersections : List Rectangle}
    {points : Set (Int × Int)} {first : Rectangle}
    (here : first.Representable)
    (there : ∀ rectangle ∈ right, rectangle.Representable)
    (region : IsRegion intersections points)
    (ok : overlapsWith right intersections first = .ok result) :
    IsRegion result
      (points ∪ (first.points ∩ covered Rectangle.points right)) := by
  refine foldlM_accumulates
    (fun done result => IsRegion result
      (points ∪ (first.points ∩ covered Rectangle.points done))) ?_ ?_ ok
  · intro done state second next member made added
    refine (overlapWith_isRegion ⟨here, there second member⟩ made
      added).congr ?_
    rw [covered_append, covered_cons, covered_nil, Set.union_empty,
      Set.inter_union_distrib_left, Set.union_assoc]
  · refine region.congr ?_
    rw [covered_nil, Set.inter_empty, Set.union_empty]

theorem intersectRegions_isRegion
    (first : ∀ rectangle ∈ left, rectangle.Representable)
    (second : ∀ rectangle ∈ right, rectangle.Representable)
    (ok : intersectRegions left right = .ok result) :
    IsRegion result (covered Rectangle.points left ∩
      covered Rectangle.points right) := by
  refine foldlM_accumulates
    (fun done result => IsRegion result
      (covered Rectangle.points done ∩ covered Rectangle.points right))
    ?_ ?_ ok
  · intro done state rectangle next member made added
    refine (overlapsWith_isRegion (first rectangle member) second made
      added).congr ?_
    rw [covered_append, covered_cons, covered_nil, Set.union_empty,
      Set.union_inter_distrib_right]
  · refine isRegion_nil.congr ?_
    rw [covered_nil, Set.empty_inter]

theorem MakeUp.representable {points : Set (Int × Int)}
    (makes : MakeUp left points) :
    ∀ rectangle ∈ left, rectangle.Representable :=
  fun rectangle member => (makes.sound rectangle member).representable

theorem subtractFrom_isRegion {points : Set (Int × Int)}
    {removed : Rectangle} (region : IsRegion left points)
    (ok : subtractFrom left removed = .ok result) :
    IsRegion result (points \ removed.points) := by
  obtain ⟨next, cut, normalized⟩ := Except.bind_eq_ok_iff.mp ok
  have makes := cutFragments_makeUp region.toMakeUp cut
  exact (normalizeRegion_isRegion makes.representable normalized).congr
    makes.covers

theorem subtractRegions_isRegion
    (first : ∀ rectangle ∈ left, rectangle.Representable)
    (ok : subtractRegions left right = .ok result) :
    IsRegion result (covered Rectangle.points left \
      covered Rectangle.points right) := by
  obtain ⟨normal, normalized, cut⟩ := Except.bind_eq_ok_iff.mp ok
  refine foldlM_accumulates
    (fun done result => IsRegion result
      (covered Rectangle.points left \ covered Rectangle.points done))
    ?_ ?_ cut
  · intro done state removed next _ made taken
    refine (subtractFrom_isRegion made taken).congr ?_
    rw [covered_append, covered_cons, covered_nil, Set.union_empty,
      Set.sdiff_sdiff]
  · refine (normalizeRegion_isRegion first normalized).congr ?_
    rw [covered_nil, Set.sdiff_empty]

end

/-! ## Translation -/

end Glasswyrm.Server.XFixesRegion
