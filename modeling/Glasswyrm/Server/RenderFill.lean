import Glasswyrm.Server.RenderRun
import Mathlib.Logic.Function.Iterate

namespace Glasswyrm.Server

open Glasswyrm.Geometry Library

/-! A fill composes a point once for each of the rectangles that it lies in. -/

section

variable {destination : RenderView} {operation : RenderOperator}
  {clip : List Rectangle}

/-- One pass of a fill over a pixel. -/
def fillOnce (destination : RenderView) (operation : RenderOperator)
    (color existing : PremultipliedColor) : PremultipliedColor :=
  destination.format.held (applyOperator operation color existing)

/-- The rectangles of a fill that a point is painted with. -/
def fillCount (rectangles clip : List Rectangle) (x y : Int) : Nat :=
  if visible clip x y then
    rectangles.countP fun rectangle => rectangle.Contains x y
  else 0

theorem mem_fillPoints {bounds rectangle : Rectangle} {x y : Int} :
    (x, y) ∈ fillPoints bounds rectangle ↔
      rectangle.Contains x y ∧ bounds.Contains x y := by
  unfold fillPoints
  split
  · rename_i apart
    exact ⟨fun member => (List.not_mem_nil member).elim,
      fun both => (intersect_none apart x y both).elim⟩
  · rename_i painted met
    exact mem_pointsOf.trans (intersect_contains met x y)

theorem fillPoints_nodup (bounds rectangle : Rectangle) :
    (fillPoints bounds rectangle).Nodup := by
  unfold fillPoints
  split
  · exact List.nodup_nil
  · exact pointsOf_nodup _

def fillMemory (destination : RenderView) (operation : RenderOperator)
    (clip : List Rectangle) (color : PremultipliedColor)
    (rectangles : List Rectangle) (memory : Memory) : Memory :=
  rectangles.foldl (fun memory rectangle =>
    paintPoints destination operation clip (fun _ => color)
      (fillPoints destination.bounds rectangle) memory) memory

theorem fillMemory_elsewhere {color : PremultipliedColor}
    {rectangles : List Rectangle} {memory : Memory} {address : Nat}
    (elsewhere : ∀ x y : Nat, x < destination.width → y < destination.height →
      0 < fillCount rectangles clip x y → ¬destination.Holds x y address) :
    fillMemory destination operation clip color rectangles memory address =
      memory address := by
  induction rectangles generalizing memory with
  | nil => rfl
  | cons rectangle rectangles ih =>
      rw [fillMemory, List.foldl_cons]
      refine (ih fun x y column row times => ?_).trans
        (paintPoints_elsewhere fun point member seen => ?_)
      · refine elsewhere x y column row (Nat.lt_of_lt_of_le times ?_)
        unfold fillCount
        split
        · rw [List.countP_cons]
          exact Nat.le_add_right _ _
        · exact Nat.le_refl _
      · obtain ⟨contains, within⟩ := mem_fillPoints.mp member
        have bounds := bounds_contains.mp within
        have left := Int.toNat_of_nonneg bounds.1.1
        have top := Int.toNat_of_nonneg bounds.2.1
        refine elsewhere _ _ (by omega) (by omega) ?_
        rw [left, top]
        unfold fillCount
        rw [if_pos seen]
        exact List.countP_pos_iff.mpr
          ⟨rectangle, List.mem_cons_self, decide_eq_true contains⟩

theorem fillMemory_load (valid : validSurface destination = true)
    (color : PremultipliedColor) (rectangles : List Rectangle)
    (memory : Memory) {x y : Nat} (column : x < destination.width)
    (row : y < destination.height) :
    loadPixel (fillMemory destination operation clip color rectangles memory)
        destination x y =
      (fillOnce destination operation color)^[fillCount rectangles clip x y]
        (loadPixel memory destination x y) := by
  induction rectangles generalizing memory with
  | nil =>
      have none : fillCount [] clip x y = 0 := by
        unfold fillCount
        split <;> rfl
      rw [none]
      rfl
  | cons rectangle rectangles ih =>
      rw [fillMemory, List.foldl_cons]
      refine (ih _).trans ?_
      have bounds : destination.bounds.Contains x y :=
        bounds_contains.mpr (by omega)
      have once : loadPixel (paintPoints destination operation clip
          (fun _ => color) (fillPoints destination.bounds rectangle) memory)
            destination x y =
          if ((x : Int), (y : Int)) ∈
              fillPoints destination.bounds rectangle ∧
              visible clip x y = true then
            fillOnce destination operation color
              (loadPixel memory destination x y)
          else loadPixel memory destination x y :=
        paintPoints_load valid (fillPoints_nodup _ _)
          (fun point member => (mem_fillPoints.mp member).2) memory column
      rw [once]
      simp only [mem_fillPoints, bounds, and_true]
      unfold fillCount
      by_cases seen : visible clip x y = true
      · simp only [seen, and_true, if_true, List.countP_cons,
          decide_eq_true_eq]
        by_cases contains : rectangle.Contains x y
        · rw [if_pos contains, if_pos contains, Function.iterate_succ_apply]
        · rw [if_neg contains, if_neg contains, Nat.add_zero]
      · simp only [seen, and_false, if_false, Bool.false_eq_true]

/-- Painted over, a pixel is well formed, be it as it was or not. -/
theorem fillOnce_premultiplied {color existing : PremultipliedColor}
    (formed : premultiplied color = true) {times : Nat} (painted : 0 < times)
    (there : operation = .over → premultiplied existing = true) :
    premultiplied ((fillOnce destination operation color)^[times] existing) =
      true := by
  induction times generalizing existing with
  | zero => exact absurd painted (Nat.lt_irrefl 0)
  | succ times ih =>
      rw [Function.iterate_succ_apply]
      have once : premultiplied (fillOnce destination operation color existing) =
          true :=
        held_premultiplied (applyOperator_premultiplied formed there) _
      rcases Nat.eq_zero_or_pos times with rfl | more
      · exact once
      · exact ih more fun _ => once

theorem fillDamage_covers {bounds : Rectangle} {rectangles : List Rectangle}
    {rectangle : Rectangle} (member : rectangle ∈ rectangles) {x y : Int}
    (contains : rectangle.Contains x y) (within : bounds.Contains x y) :
    Covers (fillDamage bounds rectangles) x y := by
  unfold fillDamage
  refine @run_achieves _ _ _ (Covers · x y) ?_ rectangle ?_ rectangles member
    none
  · intro damage other covered
    split
    · exact covered
    · exact unionDamage_keeps covered _
  · intro damage
    split
    · rename_i apart
      exact absurd ⟨contains, within⟩ (intersect_none apart x y)
    · rename_i painted met
      exact unionDamage_adds ((intersect_contains met x y).mpr
        ⟨contains, within⟩) damage

end

/-- What a fill leaves in the memory: a pixel is composed with the colour once
for each of the rectangles that it lies in, from what it holds by then. -/
structure Fills (memory : Memory) (destination : RenderView)
    (operation : RenderOperator) (color : PremultipliedColor)
    (times : Nat → Nat → Nat) (done : RenderOpResult × Memory) : Prop where
  failed : done.1.status ≠ .success → done.2 = memory
  elsewhere : ∀ address,
    (∀ x y, x < destination.width → y < destination.height → 0 < times x y →
      ¬destination.Holds x y address) → done.2 address = memory address
  composed : done.1.status = .success → ∀ x y, x < destination.width →
    y < destination.height →
      loadPixel done.2 destination x y =
        (fillOnce destination operation color)^[times x y]
          (loadPixel memory destination x y) ∧
      (∀ existing, PorterDuff operation color existing
        (applyOperator operation color existing)) ∧
      (0 < times x y →
        premultiplied (loadPixel done.2 destination x y) = true ∧
        Covers done.1.damage x y)

theorem renderFill_fills (memory : Memory) (destination : RenderView)
    (operation : RenderOperator) (color : PremultipliedColor)
    (rectangles clip : List Rectangle) :
    Fills memory destination operation color
      (fun x y => fillCount rectangles clip x y)
      (renderFill memory destination operation color rectangles clip) := by
  unfold renderFill
  split
  · exact ⟨fun _ => rfl, fun _ _ => rfl, fun success => by cases success⟩
  rename_i valid
  rw [Bool.not_eq_true', Bool.not_eq_false] at valid
  split
  · exact ⟨fun _ => rfl, fun _ _ => rfl, fun success => by cases success⟩
  rename_i formed
  rw [Bool.not_eq_true', Bool.not_eq_false] at formed
  dsimp only
  split
  · exact ⟨fun _ => rfl, fun _ _ => rfl, fun success => by cases success⟩
  rename_i checked
  refine ⟨fun failed => absurd rfl failed,
    fun address elsewhere => fillMemory_elsewhere elsewhere, ?_⟩
  intro _ x y column row
  have loaded := @fillMemory_load destination operation clip valid color
    rectangles memory x y column row
  refine ⟨loaded, applyOperator_porterDuff formed, fun painted => ?_⟩
  have bounds : destination.bounds.Contains x y :=
    bounds_contains.mpr (by omega)
  have seen : visible clip x y = true := by
    by_contra hidden
    simp [fillCount, hidden] at painted
  obtain ⟨rectangle, member, contains⟩ :
      ∃ rectangle ∈ rectangles, rectangle.Contains (x : Int) (y : Int) := by
    rw [fillCount, if_pos seen, List.countP_pos_iff] at painted
    obtain ⟨rectangle, member, contains⟩ := painted
    exact ⟨rectangle, member, of_decide_eq_true contains⟩
  constructor
  · have there : operation = .over →
        premultiplied (loadPixel memory destination x y) = true := by
      intro isOver
      by_cases format : destination.format = .argb8888Premultiplied
      · by_contra malformed
        refine checked ?_
        simp only [isOver, format, decide_true, Bool.true_and,
          List.any_eq_true, Bool.and_eq_true, Bool.not_eq_true']
        exact ⟨rectangle, member, ((x : Int), (y : Int)),
          mem_fillPoints.mpr ⟨contains, bounds⟩, seen,
          Bool.not_eq_true _ ▸ malformed⟩
      · exact loadPixel_premultiplied format x y
    have whole := @fillOnce_premultiplied destination operation color _ formed
      _ painted there
    rw [← loaded] at whole
    exact whole
  · obtain ⟨damage, united, covered⟩ :=
      fillDamage_covers member contains bounds
    rw [united, Option.bind_some]
    exact clippedDamage_covers covered seen

/-! ## Both -/

/-- Clips, formats and aliases are respected by both operations. -/
theorem render_correct (memory : Memory) (operation : RenderOperator)
    (destination : RenderView) (clip : List Rectangle) :
    (∀ (source : RenderView)
        (sourceX sourceY destinationX destinationY : Int)
        (width height : Nat),
      Composes memory destination source operation sourceX sourceY
        destinationX destinationY
        (fun x y => Composed destination source sourceX sourceY destinationX
          destinationY width height clip x y)
        (renderComposite memory destination source operation sourceX sourceY
          destinationX destinationY width height clip)) ∧
    ∀ (color : PremultipliedColor) (rectangles : List Rectangle),
      Fills memory destination operation color
        (fun x y => fillCount rectangles clip x y)
        (renderFill memory destination operation color rectangles clip) :=
  ⟨fun _ _ _ _ _ _ _ => renderComposite_composes memory operation clip,
    fun color rectangles =>
      renderFill_fills memory destination operation color rectangles clip⟩

/-- A pixel in two rectangles is not composed from what it held at first. -/
theorem renderFill_overlapping :
    let destination : RenderView :=
      { format := .argb8888Premultiplied
        width := 1
        height := 1
        stride := 4
        size := 4 }
    let memory : Memory := fun _ => 0
    let color : PremultipliedColor := { red := 64, alpha := 128 }
    let rectangle : Rectangle := { width := 1, height := 1 }
    let done := renderFill memory destination .over color
      [rectangle, rectangle] []
    done.1.status = .success ∧
      ¬PorterDuff .over color (loadPixel memory destination 0 0)
        (loadPixel done.2 destination 0 0) := by
  decide +kernel

end Glasswyrm.Server
