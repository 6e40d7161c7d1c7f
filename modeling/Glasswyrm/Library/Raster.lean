import Glasswyrm.Library.Run
import Mathlib.Data.List.Induction

namespace Glasswyrm.Library

/-! Pictures and the loops that paint them.  A loop visits the points of a
rectangle row by row; what matters of it is the colour it leaves at each
point. -/

/-- A colour at every point of the plane. -/
abbrev Raster (α : Type*) := Int → Int → α

namespace Raster

variable {α : Type*} {β : Type*} {ι : Type*}

def store (raster : Raster α) (x y : Int) (colour : α) : Raster α :=
  fun x' y' => if x' = x ∧ y' = y then colour else raster x' y'

/-- The inner loop; each point is rewritten from the colour it holds. -/
def paintRow (value : Int → Int → α → α) (left y : Int) (width : Nat)
    (raster : Raster α) : Raster α :=
  (List.range width).foldl (fun raster (dx : Nat) =>
    raster.store (left + dx) y
      (value (left + dx) y (raster (left + dx) y))) raster

def paint (value : Int → Int → α → α) (left top : Int) (width height : Nat)
    (raster : Raster α) : Raster α :=
  (List.range height).foldl (fun raster (dy : Nat) =>
    paintRow value left (top + dy) width raster) raster

theorem store_apply (raster : Raster α) (x y : Int) (colour : α) (x' y' : Int) :
    raster.store x y colour x' y' =
      if x' = x ∧ y' = y then colour else raster x' y' := rfl

theorem paintRow_apply (value : Int → Int → α → α) (left y : Int)
    (width : Nat) (raster : Raster α) (x' y' : Int) :
    paintRow value left y width raster x' y' =
      if left ≤ x' ∧ x' < left + width ∧ y' = y then
        value x' y' (raster x' y')
      else raster x' y' := by
  induction width with
  | zero =>
      rw [if_neg (by omega)]
      rfl
  | succ width ih =>
      have row : paintRow value left y (width + 1) raster =
          (paintRow value left y width raster).store (left + width) y
            (value (left + width) y
              (paintRow value left y width raster (left + width) y)) := by
        simp only [paintRow, List.range_succ, List.foldl_append,
          List.foldl_cons, List.foldl_nil]
      rw [row, store_apply]
      by_cases last : x' = left + width ∧ y' = y
      · obtain ⟨rfl, rfl⟩ := last
        -- the point has not been visited before the last round
        have fresh : paintRow value left y' width raster (left + width) y' =
            raster (left + width) y' := by
          simp only [paintRow] at ih ⊢
          rw [ih, if_neg (by omega)]
        rw [if_pos ⟨rfl, rfl⟩, if_pos (by omega), fresh]
      · rw [if_neg last, ih]
        by_cases before : left ≤ x' ∧ x' < left + width ∧ y' = y
        · rw [if_pos before, if_pos (by omega)]
        · rw [if_neg before, if_neg (by omega)]

theorem paint_apply (value : Int → Int → α → α) (left top : Int)
    (width height : Nat) (raster : Raster α) (x y : Int) :
    paint value left top width height raster x y =
      if left ≤ x ∧ x < left + width ∧ top ≤ y ∧ y < top + height then
        value x y (raster x y)
      else raster x y := by
  induction height with
  | zero =>
      rw [if_neg (by omega)]
      rfl
  | succ height ih =>
      have rows : paint value left top width (height + 1) raster =
          paintRow value left (top + height) width
            (paint value left top width height raster) := by
        simp only [paint, List.range_succ, List.foldl_append, List.foldl_cons,
          List.foldl_nil]
      rw [rows, paintRow_apply]
      by_cases last :
          left ≤ x ∧ x < left + width ∧ y = top + height
      · rw [if_pos last, if_pos (by omega), ih, if_neg (by omega)]
      · rw [if_neg last, ih]
        by_cases before :
            left ≤ x ∧ x < left + width ∧ top ≤ y ∧ y < top + height
        · rw [if_pos before, if_pos (by omega)]
        · rw [if_neg before, if_neg (by omega)]

/-- A loop whose rounds each rewrite one row. -/
theorem foldl_rows {step : Int → Raster α → Raster α}
    {row : Int → Int → α → α}
    (steps : ∀ y raster x' y', step y raster x' y' =
      if y' = y then row y x' (raster x' y') else raster x' y')
    (top : Int) (height : Nat) (raster : Raster α) (x y : Int) :
    (List.range height).foldl (fun raster (dy : Nat) => step (top + dy) raster)
        raster x y =
      if top ≤ y ∧ y < top + height then row y x (raster x y)
      else raster x y := by
  induction height with
  | zero =>
      rw [if_neg (by omega)]
      rfl
  | succ height ih =>
      rw [List.range_succ, List.foldl_append, List.foldl_cons, List.foldl_nil,
        steps, ih]
      by_cases last : y = top + height
      · subst last
        rw [if_pos rfl, if_neg (by omega), if_pos (by omega)]
      · rw [if_neg last]
        by_cases before : top ≤ y ∧ y < top + height
        · rw [if_pos before, if_pos (by omega)]
        · rw [if_neg before, if_neg (by omega)]

/-- The inner loop with points that may have no value. -/
def paintRowM (value : Int → α → Option α) (left y : Int) (width : Nat)
    (raster : Raster α) : Option (Raster α) :=
  (List.range width).foldlM (fun raster (dx : Nat) =>
    (value (left + dx) (raster (left + dx) y)).map
      (raster.store (left + dx) y)) raster

/-- The loop with something worked out for every row first. -/
def paintM (row : Int → Option β) (value : β → Int → Int → α → Option α)
    (left top : Int) (width height : Nat) (raster : Raster α) :
    Option (Raster α) :=
  (List.range height).foldlM (fun raster (dy : Nat) =>
    (row (top + dy)).bind fun worked =>
      paintRowM (fun x => value worked x (top + dy)) left (top + dy) width
        raster) raster

/-- The loop is the plain one when every point has its value. -/
theorem paintM_eq_some {row : Int → Option β}
    {value : β → Int → Int → α → Option α} {worked : Int → β}
    {painted : Int → Int → α → α} {left top : Int} {width height : Nat}
    (rows : ∀ y, top ≤ y → y < top + height → row y = some (worked y))
    (values : ∀ x y, left ≤ x → x < left + width → top ≤ y →
      y < top + height → ∀ colour,
        value (worked y) x y colour = some (painted x y colour))
    (raster : Raster α) :
    paintM row value left top width height raster =
      some (paint painted left top width height raster) := by
  refine foldlM_eq_some (fun raster dy member => ?_) raster
  rw [List.mem_range] at member
  rw [rows _ (by omega) (by omega), Option.bind_some]
  refine foldlM_eq_some (fun raster dx inside => ?_) raster
  rw [List.mem_range] at inside
  simp only [values (left + dx) (top + dy) (by omega) (by omega) (by omega)
    (by omega), Option.map_some]

/-- Where the loop comes to an end every point has had a value. -/
theorem paintM_takes {row : Int → Option β}
    {value : β → Int → Int → α → Option α} {left top : Int}
    {width height : Nat} {raster painted : Raster α}
    (finished : paintM row value left top width height raster = some painted)
    {x y : Int} (first : left ≤ x) (last : x < left + width)
    (upper : top ≤ y) (lower : y < top + height) :
    ∃ worked colour colour', row y = some worked ∧
      value worked x y colour = some colour' := by
  have line : top + ((y - top).toNat : Nat) = y := by omega
  have column : left + ((x - left).toNat : Nat) = x := by omega
  obtain ⟨before, _, step⟩ := foldlM_takes finished (y - top).toNat
    (List.mem_range.mpr (by omega))
  rw [line] at step
  obtain ⟨worked, isRow, step⟩ := Option.bind_eq_some_iff.mp step
  obtain ⟨state, _, taken⟩ := foldlM_takes step (x - left).toNat
    (List.mem_range.mpr (by omega))
  rw [column] at taken
  obtain ⟨colour, valued, _⟩ := Option.map_eq_some_iff.mp taken
  exact ⟨worked, state x y, colour, isRow, valued⟩

/-- The colours of a rectangle row by row. -/
def readBlock (left top : Int) (width height : Nat) (raster : Raster α) :
    List α :=
  (List.range height).flatMap fun (dy : Nat) =>
    (List.range width).map fun (dx : Nat) => raster (left + dx) (top + dy)

theorem readBlock_getElem? (left top : Int) {width height dx dy : Nat}
    (raster : Raster α) (column : dx < width) (row : dy < height) :
    (readBlock left top width height raster)[dy * width + dx]? =
      some (raster (left + dx) (top + dy)) := by
  induction height with
  | zero => omega
  | succ height ih =>
      have rows : readBlock left top width (height + 1) raster =
          readBlock left top width height raster ++
            (List.range width).map fun (dx : Nat) =>
              raster (left + dx) (top + height) := by
        simp only [readBlock, List.range_succ, List.flatMap_append,
          List.flatMap_singleton]
      have length : (readBlock left top width height raster).length =
          height * width := by
        simp only [readBlock, List.length_flatMap, List.length_map,
          List.length_range, List.map_const', List.sum_replicate_nat]
      rw [rows]
      by_cases last : dy = height
      · subst last
        rw [List.getElem?_append_right (by omega), length,
          Nat.add_sub_cancel_left, List.getElem?_map,
          List.getElem?_range column]
        rfl
      · have before : dy * width + dx < height * width := by
          have step : (dy + 1) * width ≤ height * width :=
            Nat.mul_le_mul_right width (by omega)
          rw [Nat.add_one_mul] at step
          omega
        rw [List.getElem?_append_left (by omega)]
        exact ih (by omega)

end Raster

/-! ## Passes over one point

A pass may clear the point and then lays some strokes on it.  Only the strokes
laid since the last clearing decide the colour. -/

section

variable {α : Type*} {β : Type*}

structure Pass (β : Type*) where
  clears : Bool
  strokes : List β
deriving DecidableEq

/-- What is left of a history of passes: whether the point was cleared, and the
strokes on it since. -/
def residue (passes : List (Pass β)) : Pass β :=
  passes.foldl (fun left pass =>
    if pass.clears then pass
    else { left with strokes := left.strokes ++ pass.strokes })
    { clears := false, strokes := [] }

def lay (blend : α → β → α) (clear : α) (colour : α) (pass : Pass β) : α :=
  pass.strokes.foldl blend (if pass.clears then clear else colour)

theorem foldl_lay_residue (blend : α → β → α) (clear colour : α)
    (passes : List (Pass β)) :
    passes.foldl (lay blend clear) colour =
      lay blend clear colour (residue passes) := by
  induction passes using List.reverseRecOn with
  | nil => rfl
  | append_singleton passes pass ih =>
      rw [List.foldl_append, ih]
      simp only [residue, List.foldl_append, List.foldl_cons, List.foldl_nil]
      by_cases clears : pass.clears = true
      · simp [lay, clears]
      · simp only [lay, clears, Bool.false_eq_true, if_false,
          List.foldl_append]

theorem residue_clears (passes : List (Pass β)) :
    (residue passes).clears = passes.any (·.clears) := by
  induction passes using List.reverseRecOn with
  | nil => rfl
  | append_singleton passes pass ih =>
      simp only [residue, List.foldl_append, List.foldl_cons, List.foldl_nil,
        List.any_append, List.any_cons, List.any_nil] at ih ⊢
      cases clears : pass.clears <;> simp [clears, ih]

/-- A pass that does nothing leaves what was left before it. -/
theorem residue_idle {passes idle : List (Pass β)}
    (nothing : ∀ pass ∈ idle, pass = { clears := false, strokes := [] }) :
    residue (passes ++ idle) = residue passes := by
  induction idle using List.reverseRecOn with
  | nil => rw [List.append_nil]
  | append_singleton idle last ih =>
      have same := nothing last (List.mem_append_right _ List.mem_cons_self)
      have kept := ih fun pass member =>
        nothing pass (List.mem_append_left _ member)
      rw [← List.append_assoc, ← kept, same]
      simp only [residue, List.foldl_append, List.foldl_cons, List.foldl_nil,
        Bool.false_eq_true, if_false, List.append_nil]

/-- The last pass that clears the point is what is left of the history. -/
theorem residue_last {earlier later : List (Pass β)} {last : Pass β}
    (clears : last.clears = true)
    (nothing : ∀ pass ∈ later, pass = { clears := false, strokes := [] }) :
    residue (earlier ++ last :: later) = last := by
  have split : earlier ++ last :: later = (earlier ++ [last]) ++ later := by
    rw [List.append_assoc, List.singleton_append]
  rw [split, residue_idle nothing]
  simp only [residue, List.foldl_append, List.foldl_cons, List.foldl_nil,
    clears, if_true]

end

end Glasswyrm.Library
