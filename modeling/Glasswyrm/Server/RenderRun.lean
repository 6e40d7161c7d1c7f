import Glasswyrm.Library.Run
import Glasswyrm.Server.RenderPixels

namespace Glasswyrm.Server

open Glasswyrm.Geometry Library

/-! The two operations as wholes. -/

/-! ## Colours -/

/-- A channel is the exact one, in parts of 255, rounded to the nearest. -/
def ChannelOver (source destination sourceAlpha result : UInt8) : Prop :=
  2 * |255 * (result.toNat : Int) - (255 * source.toNat +
    destination.toNat * (255 - sourceAlpha.toNat))| < 255

/-- The operators of Porter and Duff. -/
def PorterDuff (operation : RenderOperator)
    (source destination result : PremultipliedColor) : Prop :=
  match operation with
  | .src => result = source
  | .over =>
      ChannelOver source.red destination.red source.alpha result.red ∧
        ChannelOver source.green destination.green source.alpha
          result.green ∧
        ChannelOver source.blue destination.blue source.alpha result.blue ∧
        ChannelOver source.alpha destination.alpha source.alpha result.alpha

instance (source destination sourceAlpha result : UInt8) :
    Decidable (ChannelOver source destination sourceAlpha result) := by
  unfold ChannelOver
  infer_instance

instance (operation : RenderOperator)
    (source destination result : PremultipliedColor) :
    Decidable (PorterDuff operation source destination result) := by
  unfold PorterDuff
  cases operation <;> infer_instance

theorem premultiplied_iff {pixel : PremultipliedColor} :
    premultiplied pixel = true ↔ pixel.red ≤ pixel.alpha ∧
      pixel.green ≤ pixel.alpha ∧ pixel.blue ≤ pixel.alpha := by
  simp [premultiplied, and_assoc]

theorem overChannel_toNat {source destination sourceAlpha : UInt8}
    (within : source ≤ sourceAlpha) :
    (overChannel source destination sourceAlpha).toNat = source.toNat +
      (destination.toNat * (255 - sourceAlpha.toNat) + 127) / 255 := by
  have alpha := sourceAlpha.toNat_lt
  have channel := destination.toNat_lt
  have less := UInt8.le_iff_toNat_le.mp within
  have share : destination.toNat * (255 - sourceAlpha.toNat) ≤
      255 * (255 - sourceAlpha.toNat) :=
    Nat.mul_le_mul_right _ (by omega)
  unfold overChannel
  generalize destination.toNat * (255 - sourceAlpha.toNat) = product at share ⊢
  rw [UInt8.toNat_ofNat', Nat.min_eq_left (by omega)]
  exact Nat.mod_eq_of_lt (by omega)

theorem overChannel_nearest {source destination sourceAlpha : UInt8}
    (within : source ≤ sourceAlpha) :
    ChannelOver source destination sourceAlpha
      (overChannel source destination sourceAlpha) := by
  have alpha := sourceAlpha.toNat_lt
  unfold ChannelOver
  rw [overChannel_toNat within]
  have exact' : (destination.toNat : Int) * (255 - sourceAlpha.toNat) =
      ((destination.toNat * (255 - sourceAlpha.toNat) : Nat) : Int) := by
    rw [Nat.cast_mul, Nat.cast_sub (by omega)]
    rfl
  rw [exact']
  generalize destination.toNat * (255 - sourceAlpha.toNat) = product
  have bounds : |255 * ((source.toNat + (product + 127) / 255 : Nat) : Int) -
      (255 * source.toNat + product)| ≤ 127 := by
    rw [abs_le]
    omega
  omega

theorem overChannel_mono {source destination sourceAlpha alpha : UInt8}
    (within : source ≤ sourceAlpha) (below : destination ≤ alpha) :
    overChannel source destination sourceAlpha ≤
      overChannel sourceAlpha alpha sourceAlpha := by
  rw [UInt8.le_iff_toNat_le, overChannel_toNat within,
    overChannel_toNat (UInt8.le_refl _)]
  refine Nat.add_le_add (UInt8.le_iff_toNat_le.mp within)
    (Nat.div_le_div_right (Nat.add_le_add_right ?_ _))
  exact Nat.mul_le_mul_right _ (UInt8.le_iff_toNat_le.mp below)

variable {operation : RenderOperator} {source existing : PremultipliedColor}

theorem applyOperator_porterDuff (formed : premultiplied source = true)
    (existing : PremultipliedColor) :
    PorterDuff operation source existing
      (applyOperator operation source existing) := by
  obtain ⟨red, green, blue⟩ := premultiplied_iff.mp formed
  cases operation with
  | src => rfl
  | «over» =>
      exact ⟨overChannel_nearest red, overChannel_nearest green,
        overChannel_nearest blue, overChannel_nearest (UInt8.le_refl _)⟩

theorem applyOperator_premultiplied (formed : premultiplied source = true)
    (there : operation = .over → premultiplied existing = true) :
    premultiplied (applyOperator operation source existing) = true := by
  cases operation with
  | src => exact formed
  | «over» =>
      obtain ⟨red, green, blue⟩ := premultiplied_iff.mp formed
      obtain ⟨red', green', blue'⟩ := premultiplied_iff.mp (there rfl)
      exact premultiplied_iff.mpr ⟨overChannel_mono red red',
        overChannel_mono green green', overChannel_mono blue blue'⟩

theorem held_premultiplied {pixel : PremultipliedColor}
    (formed : premultiplied pixel = true) (format : RenderPixelFormat) :
    premultiplied (format.held pixel) = true := by
  have most : ∀ channel : UInt8, channel ≤ 255 := fun channel =>
    UInt8.le_iff_toNat_le.mpr (Nat.le_of_lt_succ channel.toNat_lt)
  cases format with
  | a1 => exact premultiplied_iff.mpr ⟨UInt8.zero_le, UInt8.zero_le,
      UInt8.zero_le⟩
  | a8 => exact premultiplied_iff.mpr ⟨UInt8.zero_le, UInt8.zero_le,
      UInt8.zero_le⟩
  | xrgb8888 => exact premultiplied_iff.mpr ⟨most _, most _, most _⟩
  | argb8888Premultiplied => exact formed

/-- Only a format with colours and alpha holds malformed pixels. -/
theorem loadPixel_premultiplied {memory : Memory} {view : RenderView}
    (format : view.format ≠ .argb8888Premultiplied) (x y : Nat) :
    premultiplied (loadPixel memory view x y) = true := by
  have most : ∀ channel : UInt8, channel ≤ 255 := fun channel =>
    UInt8.le_iff_toNat_le.mpr (Nat.le_of_lt_succ channel.toNat_lt)
  unfold loadPixel
  cases format' : view.format with
  | a1 => exact premultiplied_iff.mpr ⟨UInt8.zero_le, UInt8.zero_le,
      UInt8.zero_le⟩
  | a8 => exact premultiplied_iff.mpr ⟨UInt8.zero_le, UInt8.zero_le,
      UInt8.zero_le⟩
  | xrgb8888 => exact premultiplied_iff.mpr ⟨most _, most _, most _⟩
  | argb8888Premultiplied => exact absurd format' format

/-! ## Painting -/

def paintPoints (destination : RenderView) (operation : RenderOperator)
    (clip : List Rectangle) (colour : Int × Int → PremultipliedColor)
    (points : List (Int × Int)) (memory : Memory) : Memory :=
  points.foldl (fun memory point =>
    paintPixel destination operation clip memory point.1 point.2
      (colour point)) memory

section

variable {destination : RenderView} {clip : List Rectangle}
  {colour : Int × Int → PremultipliedColor}

theorem bounds_contains {view : RenderView} {x y : Int} :
    view.bounds.Contains x y ↔
      (0 ≤ x ∧ x < view.width) ∧ 0 ≤ y ∧ y < view.height := by
  simp [RenderView.bounds, Rectangle.Contains, Rectangle.right,
    Rectangle.bottom, and_assoc]

/-- Bytes of no painted pixel stay. -/
theorem paintPoints_elsewhere {points : List (Int × Int)} {memory : Memory}
    {address : Nat}
    (elsewhere : ∀ point ∈ points, visible clip point.1 point.2 = true →
      ¬destination.Holds point.1.toNat point.2.toNat address) :
    paintPoints destination operation clip colour points memory address =
      memory address := by
  induction points generalizing memory with
  | nil => rfl
  | cons point points ih =>
      change paintPoints destination operation clip colour points
        (paintPixel destination operation clip memory point.1 point.2
          (colour point)) address = memory address
      rw [ih fun other member => elsewhere other (.tail _ member)]
      unfold paintPixel
      split
      · rename_i seen
        exact storePixel_elsewhere memory _ (elsewhere point (.head _) seen)
      · rfl

/-- Each pixel is painted from what it held at first. -/
theorem paintPoints_load (valid : validSurface destination = true)
    {points : List (Int × Int)} (distinct : points.Nodup)
    (within : ∀ point ∈ points,
      destination.bounds.Contains point.1 point.2)
    (memory : Memory) {x y : Nat} (inside : x < destination.width) :
    loadPixel (paintPoints destination operation clip colour points memory)
        destination x y =
      if ((x : Int), (y : Int)) ∈ points ∧ visible clip x y = true then
        destination.format.held (applyOperator operation
          (colour ((x : Int), (y : Int))) (loadPixel memory destination x y))
      else loadPixel memory destination x y := by
  induction points generalizing memory with
  | nil => simp [paintPoints]
  | cons point points ih =>
      obtain ⟨fresh, distinct⟩ := List.nodup_cons.mp distinct
      have painted := ih distinct
        (fun other member => within other (.tail _ member))
        (paintPixel destination operation clip memory point.1 point.2
          (colour point))
      have bounds := bounds_contains.mp (within point (.head _))
      refine painted.trans ?_
      by_cases here : point = ((x : Int), (y : Int))
      · obtain rfl := here
        rw [if_neg (fun later => fresh later.1)]
        unfold paintPixel
        by_cases seen : visible clip x y = true
        · simp only [seen, if_true, Int.toNat_natCast, loadPixel_storePixel,
            List.mem_cons_self, and_self]
        · simp only [seen, if_false, and_false, Bool.false_eq_true]
      · have stays : loadPixel (paintPixel destination operation clip memory
            point.1 point.2 (colour point)) destination x y =
              loadPixel memory destination x y := by
          unfold paintPixel
          split
          · refine loadPixel_storePixel_other memory valid inside ?_ ?_ _
            · omega
            · rintro ⟨rfl, rfl⟩
              refine here (Prod.ext ?_ ?_) <;> dsimp only <;> omega
          · rfl
        simp only [stays, List.mem_cons, Ne.symm here, false_or]

end

/-! ## The visited points -/

theorem mem_cells {width height : Nat} {cell : Nat × Nat} :
    cell ∈ cells width height ↔ cell.1 < width ∧ cell.2 < height := by
  obtain ⟨x, y⟩ := cell
  simp [cells, and_comm]

theorem cells_nodup (width height : Nat) : (cells width height).Nodup := by
  unfold cells
  refine List.nodup_flatMap.mpr ⟨fun y _ => ?_, ?_⟩
  · exact List.nodup_range.map fun _ _ same => (Prod.mk.inj same).1
  · refine List.nodup_range.imp fun {y y'} different => ?_
    intro cell first second
    simp only [List.mem_map] at first second
    obtain ⟨_, _, rfl⟩ := first
    obtain ⟨_, _, same⟩ := second
    exact different (Prod.mk.inj same).2.symm

/-- The points of a rectangle, row by row. -/
def pointsOf (rectangle : Rectangle) : List (Int × Int) :=
  (cells rectangle.width rectangle.height).map fun cell =>
    (rectangle.x + cell.1, rectangle.y + cell.2)

theorem mem_pointsOf {rectangle : Rectangle} {x y : Int} :
    (x, y) ∈ pointsOf rectangle ↔ rectangle.Contains x y := by
  simp only [pointsOf, List.mem_map, mem_cells, Prod.mk.injEq,
    Rectangle.Contains, Rectangle.right, Rectangle.bottom]
  constructor
  · rintro ⟨cell, inside, rfl, rfl⟩
    omega
  · intro inside
    exact ⟨((x - rectangle.x).toNat, (y - rectangle.y).toNat), by
      dsimp only
      omega, by dsimp only; omega, by dsimp only; omega⟩

theorem pointsOf_nodup (rectangle : Rectangle) :
    (pointsOf rectangle).Nodup := by
  refine (cells_nodup _ _).map fun first second same => ?_
  obtain ⟨left, top⟩ := Prod.mk.inj same
  refine Prod.ext ?_ ?_ <;> omega

/-! ## Damage -/

def Covers (damage : Option Rectangle) (x y : Int) : Prop :=
  ∃ rectangle, damage = some rectangle ∧ rectangle.Contains x y

theorem unionDamage_keeps {current : Option Rectangle} {x y : Int}
    (covered : Covers current x y) (added : Rectangle) :
    Covers (unionDamage current added) x y := by
  obtain ⟨rectangle, rfl, contains⟩ := covered
  unfold unionDamage
  split
  · exact ⟨rectangle, rfl, contains⟩
  · refine ⟨_, rfl, ?_⟩
    unfold Rectangle.Contains Rectangle.right Rectangle.bottom at *
    dsimp only
    omega

theorem unionDamage_adds {added : Rectangle} {x y : Int}
    (contains : added.Contains x y) (current : Option Rectangle) :
    Covers (unionDamage current added) x y := by
  unfold unionDamage
  rw [contains.not_empty, if_neg Bool.false_ne_true]
  cases current with
  | none => exact ⟨added, rfl, contains⟩
  | some current =>
      refine ⟨_, rfl, ?_⟩
      unfold Rectangle.Contains Rectangle.right Rectangle.bottom at *
      dsimp only
      omega

/-- Damage that is clipped covers what is seen of it. -/
theorem clippedDamage_covers {painted : Rectangle} {clip : List Rectangle}
    {x y : Int} (contains : painted.Contains x y)
    (seen : visible clip x y = true) :
    Covers (clippedDamage painted clip) x y := by
  unfold clippedDamage
  split
  · exact ⟨painted, rfl, contains⟩
  · rename_i clipped
    unfold visible at seen
    rw [Bool.or_eq_true, or_iff_right clipped, List.any_eq_true] at seen
    obtain ⟨rectangle, member, within⟩ := seen
    refine @run_achieves _ _ _ (Covers · x y) ?_ rectangle ?_ clip member none
    · intro damage other covered
      split
      · exact covered
      · exact unionDamage_keeps covered _
    · intro damage
      split
      · rename_i apart
        exact absurd ⟨contains, of_decide_eq_true within⟩
          (intersect_none apart x y)
      · rename_i overlap met
        exact unionDamage_adds ((intersect_contains met x y).mpr
          ⟨contains, of_decide_eq_true within⟩) damage

/-! ## Composition -/

/-- The offsets along one axis that fall within the request, the source and the
destination. -/
theorem axis_within {extent near far : Nat} {start origin offset : Int} :
    (max (max 0 (-start)) (-origin) ≤ offset ∧
      offset < min (min (extent : Int) (near - start)) (far - origin)) ↔
      (0 ≤ origin + offset ∧ origin + offset < far) ∧
        (0 ≤ start + offset ∧ start + offset < near) ∧
        0 ≤ offset ∧ offset < extent := by
  rw [max_le_iff, max_le_iff, lt_min_iff, lt_min_iff]
  omega

/-- The point of the source for one of the destination. -/
structure Mapped (destination source : RenderView)
    (sourceX sourceY destinationX destinationY : Int) (width height : Nat)
    (x y : Int) : Prop where
  destination : destination.bounds.Contains x y
  source : source.bounds.Contains (sourceX + (x - destinationX))
    (sourceY + (y - destinationY))
  requested : (0 ≤ x - destinationX ∧ x - destinationX < width) ∧
    0 ≤ y - destinationY ∧ y - destinationY < height

section

variable {destination source : RenderView}
  {sourceX sourceY destinationX destinationY : Int} {width height : Nat}

theorem mapped_iff {x y : Int} :
    Mapped destination source sourceX sourceY destinationX destinationY width
        height x y ↔
      (max (max 0 (-sourceX)) (-destinationX) ≤ x - destinationX ∧
        x - destinationX < min (min (width : Int) (source.width - sourceX))
          (destination.width - destinationX)) ∧
      max (max 0 (-sourceY)) (-destinationY) ≤ y - destinationY ∧
        y - destinationY < min (min (height : Int) (source.height - sourceY))
          (destination.height - destinationY) := by
  rw [axis_within, axis_within, add_sub_cancel, add_sub_cancel]
  constructor
  · rintro ⟨here, there, horizontal, vertical⟩
    rw [bounds_contains] at here there
    exact ⟨⟨here.1, there.1, horizontal⟩, here.2, there.2, vertical⟩
  · rintro ⟨⟨left, from', horizontal⟩, top, below, vertical⟩
    exact ⟨bounds_contains.mpr ⟨left, top⟩, bounds_contains.mpr ⟨from', below⟩,
      horizontal, vertical⟩

theorem clipMapping_some {mapping : Mapping}
    (found : clipMapping destination source sourceX sourceY destinationX
      destinationY width height = some mapping) :
    (∀ x y, mapping.destination.Contains x y ↔
      Mapped destination source sourceX sourceY destinationX destinationY width
        height x y) ∧
      mapping.sourceX = sourceX + (mapping.destination.x - destinationX) ∧
      mapping.sourceY = sourceY + (mapping.destination.y - destinationY) := by
  unfold clipMapping at found
  dsimp only at found
  simp only [mapped_iff]
  generalize max (max 0 (-sourceX)) (-destinationX) = left at found ⊢
  generalize max (max 0 (-sourceY)) (-destinationY) = top at found ⊢
  generalize min (min (width : Int) (source.width - sourceX))
    (destination.width - destinationX) = right at found ⊢
  generalize min (min (height : Int) (source.height - sourceY))
    (destination.height - destinationY) = bottom at found ⊢
  split at found
  · cases found
  · obtain rfl := Option.some.inj found
    dsimp only
    refine ⟨fun x y => ?_, by omega, by omega⟩
    unfold Rectangle.Contains Rectangle.right Rectangle.bottom
    dsimp only
    omega

theorem clipMapping_none
    (unmapped : clipMapping destination source sourceX sourceY destinationX
      destinationY width height = none) (x y : Int) :
    ¬Mapped destination source sourceX sourceY destinationX destinationY width
      height x y := by
  unfold clipMapping at unmapped
  dsimp only at unmapped
  rw [mapped_iff]
  split at unmapped
  · rename_i apart
    rintro ⟨horizontal, vertical⟩
    rcases apart with across | down
    · exact absurd (lt_of_le_of_lt horizontal.1 horizontal.2)
        (not_lt.mpr across)
    · exact absurd (lt_of_le_of_lt vertical.1 vertical.2) (not_lt.mpr down)
  · cases unmapped

/-- The source is read well formed, and with it for `over` the destination. -/
theorem sampled_some {memory : Memory} {operation : RenderOperator}
    {mapping : Mapping} {visited : List (Nat × Nat)}
    {sampled : List PremultipliedColor}
    (read : visited.mapM (samplePixel memory destination source operation
      mapping) = .ok sampled) :
    sampled = visited.map (fun cell =>
        loadPixel memory source (mapping.sourceX + cell.1).toNat
          (mapping.sourceY + cell.2).toNat) ∧
      ∀ cell ∈ visited,
        premultiplied (loadPixel memory source
          (mapping.sourceX + cell.1).toNat
          (mapping.sourceY + cell.2).toNat) = true ∧
        (operation = .over →
          premultiplied (loadPixel memory destination
            (mapping.destination.x + cell.1).toNat
            (mapping.destination.y + cell.2).toNat) = true) := by
  have each := mapM_eq_ok read
  clear read
  induction each with
  | nil => exact ⟨rfl, List.forall_mem_nil _⟩
  | cons here _ ih =>
      unfold samplePixel at here
      dsimp only at here
      split at here
      · cases here
      rename_i formed
      split at here
      · cases here
      rename_i there
      obtain rfl := Except.ok.inj here
      rw [Bool.not_eq_true', Bool.not_eq_false] at formed
      refine ⟨by rw [List.map_cons, ← ih.1],
        List.forall_mem_cons.mpr ⟨⟨formed, fun isOver => ?_⟩, ih.2⟩⟩
      simpa [isOver] using there

/-- The points that a composition paints. -/
structure Composed (destination source : RenderView)
    (sourceX sourceY destinationX destinationY : Int) (width height : Nat)
    (clip : List Rectangle) (x y : Int) : Prop where
  mapped : Mapped destination source sourceX sourceY destinationX destinationY
    width height x y
  seen : visible clip x y = true

/-- What a composition leaves in the memory: the pixels it paints are composed
from the source and the destination as they were, all else is as it was. -/
structure Composes (memory : Memory) (destination source : RenderView)
    (operation : RenderOperator)
    (sourceX sourceY destinationX destinationY : Int)
    (painted : Nat → Nat → Prop) (done : RenderOpResult × Memory) : Prop where
  failed : done.1.status ≠ .success → done.2 = memory
  elsewhere : ∀ address,
    (∀ x y, painted x y → ¬destination.Holds x y address) →
      done.2 address = memory address
  unpainted : ∀ x y, x < destination.width → ¬painted x y →
    loadPixel done.2 destination x y = loadPixel memory destination x y
  composed : done.1.status = .success → ∀ x y, painted x y → ∃ result,
    PorterDuff operation
      (loadPixel memory source (sourceX + (x - destinationX)).toNat
        (sourceY + (y - destinationY)).toNat)
      (loadPixel memory destination x y) result ∧
    loadPixel done.2 destination x y = destination.format.held result ∧
    premultiplied (loadPixel done.2 destination x y) = true ∧
    Covers done.1.damage x y

theorem Composes.of_same {memory : Memory} {operation : RenderOperator}
    {painted : Nat → Nat → Prop} {done : RenderOpResult × Memory}
    (same : done.2 = memory)
    (idle : done.1.status = .success → ∀ x y, ¬painted x y) :
    Composes memory destination source operation sourceX sourceY destinationX
      destinationY painted done where
  failed _ := same
  elsewhere _ _ := by rw [same]
  unpainted _ _ _ _ := by rw [same]
  composed success x y paints := absurd paints (idle success x y)

/-- The pixel of the source that is mapped to a point. -/
def sourceAt (memory : Memory) (source : RenderView)
    (sourceX sourceY destinationX destinationY : Int) (point : Int × Int) :
    PremultipliedColor :=
  loadPixel memory source (sourceX + (point.1 - destinationX)).toNat
    (sourceY + (point.2 - destinationY)).toNat

/-- The loop over the sampled pixels paints the points of the target. -/
theorem zip_paints {memory : Memory} {operation : RenderOperator}
    {clip : List Rectangle} {target : Rectangle} {startX startY : Int}
    (fromX : startX = sourceX + (target.x - destinationX))
    (fromY : startY = sourceY + (target.y - destinationY)) :
    ((cells target.width target.height).zip
        ((cells target.width target.height).map fun cell =>
          loadPixel memory source (startX + cell.1).toNat
            (startY + cell.2).toNat)).foldl (fun memory entry =>
      paintPixel destination operation clip memory (target.x + entry.1.1)
        (target.y + entry.1.2) entry.2) memory =
      paintPoints destination operation clip
        (sourceAt memory source sourceX sourceY destinationX destinationY)
        (pointsOf target) memory := by
  rw [← List.map_prod_left_eq_zip, List.foldl_map, paintPoints, pointsOf,
    List.foldl_map]
  refine List.foldl_ext _ _ _ fun reached cell _ => ?_
  unfold sourceAt
  dsimp only
  have across : startX + cell.1 =
      sourceX + (target.x + cell.1 - destinationX) := by omega
  have down : startY + cell.2 =
      sourceY + (target.y + cell.2 - destinationY) := by omega
  rw [across, down]

theorem renderComposite_composes (memory : Memory) (operation : RenderOperator)
    (clip : List Rectangle) :
    Composes memory destination source operation sourceX sourceY destinationX
      destinationY
      (fun x y => Composed destination source sourceX sourceY destinationX
        destinationY width height clip x y)
      (renderComposite memory destination source operation sourceX sourceY
        destinationX destinationY width height clip) := by
  unfold renderComposite
  split
  · exact .of_same rfl fun success => by cases success
  rename_i surfaces
  simp only [Bool.or_eq_true, Bool.not_eq_true', not_or,
    Bool.not_eq_false] at surfaces
  split
  · rename_i unmapped
    exact .of_same rfl fun _ x y paints =>
      clipMapping_none unmapped x y paints.mapped
  rename_i mapping found
  obtain ⟨region, fromX, fromY⟩ := clipMapping_some found
  dsimp only
  split
  · exact .of_same rfl fun success => by cases success
  split
  · rename_i status failed
    obtain ⟨cell, _, wrong⟩ := mapM_eq_error failed
    refine .of_same rfl fun success => ?_
    unfold samplePixel at wrong
    dsimp only at wrong success
    split at wrong
    · obtain rfl := Except.error.inj wrong
      cases success
    split at wrong
    · obtain rfl := Except.error.inj wrong
      cases success
    · cases wrong
  rename_i sampled read
  obtain ⟨rfl, formed⟩ := sampled_some read
  rw [zip_paints fromX fromY]
  have within : ∀ point ∈ pointsOf mapping.destination,
      destination.bounds.Contains point.1 point.2 := fun point member =>
    ((region point.1 point.2).mp (mem_pointsOf.mp member)).destination
  have inside : ∀ x y : Nat, Composed destination source sourceX sourceY
      destinationX destinationY width height clip x y →
      ((x : Int), (y : Int)) ∈ pointsOf mapping.destination :=
    fun x y paints => mem_pointsOf.mpr ((region x y).mpr paints.mapped)
  have paints : ∀ x y : Nat,
      ((x : Int), (y : Int)) ∈ pointsOf mapping.destination ∧
        visible clip x y = true ↔
      Composed destination source sourceX sourceY destinationX destinationY
        width height clip x y := fun x y =>
    ⟨fun both => ⟨(region x y).mp (mem_pointsOf.mp both.1), both.2⟩,
      fun composed => ⟨inside x y composed, composed.seen⟩⟩
  refine ⟨fun failed => absurd rfl failed, ?_, ?_, ?_⟩
  · intro address elsewhere
    refine paintPoints_elsewhere fun point member seen => ?_
    have bounds := bounds_contains.mp (within point member)
    have left := Int.toNat_of_nonneg bounds.1.1
    have top := Int.toNat_of_nonneg bounds.2.1
    refine elsewhere _ _ ((paints _ _).mp ?_)
    rw [left, top]
    exact ⟨member, seen⟩
  · intro x y column unpainted
    refine (paintPoints_load surfaces.1 (pointsOf_nodup _) within memory
      column).trans (if_neg ?_)
    exact fun both => unpainted ((paints x y).mp both)
  · intro _ x y composed
    have column : x < destination.width := by
      have bounds := (bounds_contains.mp composed.mapped.destination).1
      omega
    have loaded : loadPixel (paintPoints destination operation clip
        (sourceAt memory source sourceX sourceY destinationX destinationY)
        (pointsOf mapping.destination) memory) destination x y =
          destination.format.held (applyOperator operation
            (sourceAt memory source sourceX sourceY destinationX destinationY
              ((x : Int), (y : Int))) (loadPixel memory destination x y)) :=
      (paintPoints_load surfaces.1 (pointsOf_nodup _) within memory
        column).trans (if_pos ((paints x y).mpr composed))
    obtain ⟨cell, visited, same⟩ := List.mem_map.mp (inside x y composed)
    obtain ⟨across, down⟩ := Prod.mk.inj same
    have wellFormed := formed cell visited
    rw [fromX, fromY] at wellFormed
    rw [show sourceX + (mapping.destination.x - destinationX) + cell.1 =
        sourceX + (x - destinationX) by omega,
      show sourceY + (mapping.destination.y - destinationY) + cell.2 =
        sourceY + (y - destinationY) by omega, across, down,
      Int.toNat_natCast, Int.toNat_natCast] at wellFormed
    refine ⟨_, applyOperator_porterDuff wellFormed.1 _, loaded, ?_,
      clippedDamage_covers ((region x y).mpr composed.mapped) composed.seen⟩
    rw [loaded]
    exact held_premultiplied
      (applyOperator_premultiplied wellFormed.1 wellFormed.2) _

end

end Glasswyrm.Server
