import Glasswyrm.Server.XFixesRegionStore

namespace Glasswyrm.Server

open Glasswyrm.Geometry (Rectangle intersect)
open Library
open XFixesRegion

/-! Damage resources: the part of a drawable that was painted since a client
last asked for it. -/

inductive DamageReportLevel
  | boundingBox
  | nonEmpty
deriving DecidableEq, Repr

structure DamageResource where
  owner : Option Nat
  drawable : Nat
  level : DamageReportLevel := .nonEmpty
  accumulated : List Rectangle := []
  nonEmptyEventSent : Bool := false
deriving DecidableEq, Repr

structure DamageNotification where
  client : Nat
  damage : Nat
  drawable : Nat
  level : DamageReportLevel
  area : Rectangle
  geometry : Rectangle
deriving DecidableEq, Repr

inductive DamageStatus
  | success
  | badIdChoice
  | badDamage
  | badDrawable
  | badValue
  | badAlloc
deriving DecidableEq, Repr

/-- Of a drawable its width and height matter. -/
structure DamageTable where
  regions : RegionStore := {}
  drawables : KeyMap (Nat × Nat) := ∅
  damages : KeyMap DamageResource := ∅

structure DamageMutationResult where
  status : DamageStatus
  notifications : List DamageNotification := []
  table : DamageTable

namespace DamageTable

def limit (table : DamageTable) : Nat :=
  table.regions.limits.maximumXFixesRegionRectangles

def drawableGeometry (table : DamageTable) (drawable : Nat) :
    Option Rectangle :=
  table.drawables[drawable]?.map fun extent =>
    { width := extent.1, height := extent.2 }

/-! ## Adding damage -/

structure StagedDamage where
  xid : Nat
  resource : DamageResource
  notification : Option DamageNotification

/-- Whether a change of the region of a resource is reported. -/
def notifies (level : DamageReportLevel) (before after : List Rectangle) :
    Bool :=
  match level with
  | .nonEmpty => before.isEmpty
  | .boundingBox => regionExtents before ≠ regionExtents after

/-- A region of too many rectangles becomes the whole drawable. -/
def simplified (table : DamageTable) (geometry : Rectangle)
    (accumulated : List Rectangle) :
    Except RegionFault (List Rectangle) :=
  if table.limit < accumulated.length then
    if table.limit = 0 then .error .refused else .ok [geometry]
  else .ok accumulated

def stage (table : DamageTable) (geometry : Rectangle)
    (incoming : List Rectangle) (entry : Nat × DamageResource) :
    Except RegionFault StagedDamage := do
  let damage := entry.2
  let united ← unionRegions damage.accumulated incoming
  let accumulated ← table.simplified geometry united
  let area := match damage.level with
    | .boundingBox => regionExtents accumulated
    | .nonEmpty => regionExtents incoming
  return {
    xid := entry.1
    resource := { damage with accumulated, nonEmptyEventSent := true }
    notification :=
      if notifies damage.level damage.accumulated accumulated then
        damage.owner.map fun client =>
          { client, damage := entry.1, drawable := damage.drawable
            level := damage.level, area, geometry }
      else none }

def damagesOf (table : DamageTable) (drawable : Nat) :
    List (Nat × DamageResource) :=
  table.damages.toList.filter fun entry =>
    entry.2.drawable = drawable && entry.2.owner.isSome

def commit (damages : KeyMap DamageResource) (staged : List StagedDamage) :
    KeyMap DamageResource :=
  damages.insertMany (staged.map fun item => (item.xid, item.resource))

/-- The resources are visited in the order of their identifiers, in which the
notifications are sorted.  There is no answer where a computation
overflows. -/
def addDamage (table : DamageTable) (drawable : Nat)
    (rectangles : List Rectangle) : Option DamageMutationResult :=
  match table.drawableGeometry drawable with
  | none => some { status := .badDrawable, table }
  | some geometry =>
      match normalizeRegion (rectangles.filterMap (intersect geometry)) with
      | .error .overflow => none
      | .error .refused => some { status := .badAlloc, table }
      | .ok [] => some { status := .success, table }
      | .ok incoming =>
          match (table.damagesOf drawable).mapM
              (table.stage geometry incoming) with
          | .error .overflow => none
          | .error .refused => some { status := .badAlloc, table }
          | .ok staged => some {
              status := .success
              notifications := staged.filterMap (·.notification)
              table := { table with damages := commit table.damages staged } }

/-! ## Subtracting damage -/

/-- Two computations, both of which are made. -/
def both {α β : Type} : Except RegionFault α → Except RegionFault β →
    Except RegionFault (α × β)
  | .ok first, .ok second => .ok (first, second)
  | .error .overflow, _ => .error .overflow
  | _, .error .overflow => .error .overflow
  | _, _ => .error .refused

/-- The repaired part and the part that remains. -/
def repairedAndRemaining (accumulated : List Rectangle) :
    Option (List Rectangle) →
      Except RegionFault (List Rectangle × List Rectangle)
  | some repair => both (intersectRegions accumulated repair)
      (subtractRegions accumulated repair)
  | none => .ok (accumulated, [])

/-- The region that a request names, if it names one: `none` when there is no
such region. -/
def regionNamed (table : DamageTable) (xid : Nat) :
    Option (Option (List Rectangle)) :=
  if xid = 0 then some none
  else (table.regions.findXFixesRegion xid).map some

def subtractDamage (table : DamageTable) (xid repairRegion partsRegion : Nat) :
    Option DamageMutationResult :=
  match table.damages[xid]? with
  | none => some { status := .badDamage, table }
  | some damage =>
      match table.regionNamed repairRegion, table.regionNamed partsRegion with
      | some repair, some parts =>
          match repairedAndRemaining damage.accumulated repair with
          | .error .overflow => none
          | .error .refused => some { status := .badAlloc, table }
          | .ok (repaired, remaining) =>
              if table.limit < repaired.length ∨
                  table.limit < remaining.length then
                some { status := .badAlloc, table }
              else
                let subtracted : DamageTable := {
                  regions :=
                    if parts.isSome then table.regions.put partsRegion repaired
                    else table.regions
                  drawables := table.drawables
                  damages := table.damages.insert xid { damage with
                    accumulated := remaining
                    nonEmptyEventSent := !remaining.isEmpty } }
                if remaining.isEmpty then
                  some { status := .success, table := subtracted }
                else
                  match damage.owner, table.drawableGeometry damage.drawable with
                  | some client, some geometry => some {
                      status := .success
                      notifications := [{ client, damage := xid
                                          drawable := damage.drawable
                                          level := damage.level
                                          area := regionExtents remaining
                                          geometry }]
                      table := subtracted }
                  | _, _ => some { status := .badDamage, table }
      | _, _ => some { status := .badValue, table }

/-! ## Tables -/

/-- No drawable is larger: widths and heights are `std::uint16_t`. -/
def largestDrawable : Rectangle := { width := 65535, height := 65535 }

/-- The region of a resource lies within its drawable. -/
structure DamageSound (table : DamageTable) (damage : DamageResource) :
    Prop where
  owned : damage.owner.isSome
  region : IsRegion damage.accumulated
    (covered Rectangle.points damage.accumulated)
  within : ∃ geometry, table.drawableGeometry damage.drawable = some geometry ∧
    covered Rectangle.points damage.accumulated ⊆ geometry.points

structure Sound (table : DamageTable) : Prop where
  drawables : ∀ (drawable : Nat) (extent : Nat × Nat),
    table.drawables[drawable]? = some extent →
      extent.1 ≤ 65535 ∧ extent.2 ≤ 65535
  regions : ∀ xid rectangles,
    table.regions.findXFixesRegion xid = some rectangles →
      ∀ rectangle ∈ rectangles, rectangle.Representable
  damages : ∀ (xid : Nat) (damage : DamageResource),
    table.damages[xid]? = some damage → table.DamageSound damage

variable {table : DamageTable}

theorem Sound.geometry (sound : table.Sound) {drawable : Nat}
    {geometry : Rectangle}
    (found : table.drawableGeometry drawable = some geometry) :
    (geometry.x = 0 ∧ geometry.y = 0) ∧
      geometry.width ≤ 65535 ∧ geometry.height ≤ 65535 := by
  obtain ⟨extent, lookup, rfl⟩ := Option.map_eq_some_iff.mp found
  exact ⟨⟨rfl, rfl⟩, sound.drawables drawable extent lookup⟩

theorem Sound.geometry_subset (sound : table.Sound) {drawable : Nat}
    {geometry : Rectangle}
    (found : table.drawableGeometry drawable = some geometry) :
    geometry.points ⊆ largestDrawable.points := by
  have bounds := sound.geometry found
  intro point inside
  simp only [Rectangle.points, Rectangle.Contains, Rectangle.right,
    Rectangle.bottom, largestDrawable, Set.mem_ofPred_eq] at inside ⊢
  omega

theorem largestDrawable_small :
    largestDrawable.width ≤ 2 ^ 31 ∧ largestDrawable.height ≤ 2 ^ 31 := by
  decide

/-! ### What is painted -/

theorem clipped_covered (geometry : Rectangle) (rectangles : List Rectangle) :
    covered Rectangle.points (rectangles.filterMap (intersect geometry)) =
      geometry.points ∩ covered Rectangle.points rectangles := by
  induction rectangles with
  | nil => simp
  | cons rectangle rest ih =>
      rw [covered_cons, Set.inter_union_distrib_left, ← ih,
        List.filterMap_cons]
      cases met : intersect geometry rectangle with
      | none =>
          have nothing : geometry.points ∩ rectangle.points = ∅ := by
            ext point
            exact iff_of_false
              (Geometry.intersect_none met point.1 point.2) id
          rw [nothing, Set.empty_union]
      | some overlap =>
          rw [covered_cons, Geometry.intersect_points met]

theorem clipped_representable (sound : table.Sound) {drawable : Nat}
    {geometry : Rectangle}
    (found : table.drawableGeometry drawable = some geometry)
    (rectangles : List Rectangle) :
    ∀ rectangle ∈ rectangles.filterMap (intersect geometry),
      rectangle.Representable := by
  intro overlap member
  obtain ⟨rectangle, _, met⟩ := List.mem_filterMap.mp member
  have bounds := sound.geometry found
  obtain ⟨x1, y1, x2, y2, width, height⟩ := Geometry.intersect_some met
  simp only [Rectangle.Representable, Rectangle.right, Rectangle.bottom] at *
  omega

/-! ### One resource -/

/-- What the level of a resource asks to be told of.  There are no other
levels. -/
def Prescribed (level : DamageReportLevel) (before after : List Rectangle) :
    Prop :=
  match level with
  | .nonEmpty => covered Rectangle.points before = ∅ ∧
      (covered Rectangle.points after).Nonempty
  | .boundingBox => regionExtents before ≠ regionExtents after

theorem covered_eq_empty_iff {rectangles : List Rectangle}
    {points : Set (Int × Int)} (region : IsRegion rectangles points) :
    covered Rectangle.points rectangles = ∅ ↔ rectangles = [] := by
  cases rectangles with
  | nil => simp
  | cons rectangle rest =>
      have bounds :=
        (region.sound rectangle List.mem_cons_self).bounds
      have corner : (rectangle.x, rectangle.y) ∈
          covered Rectangle.points (rectangle :: rest) := by
        refine shape_subset_covered List.mem_cons_self ?_
        simp only [Rectangle.mem_points, Rectangle.Contains, Rectangle.right,
          Rectangle.bottom]
        omega
      refine iff_of_false (fun nothing => ?_) (by simp)
      rw [nothing] at corner
      exact corner

/-- What is staged for a resource. -/
structure StagedFor (table : DamageTable) (entry : Nat × DamageResource)
    (points : Set (Int × Int)) (item : StagedDamage) : Prop where
  xid : item.xid = entry.1
  drawable : item.resource.drawable = entry.2.drawable
  sound : table.DamageSound item.resource
  covers : covered Rectangle.points entry.2.accumulated ∪ points ⊆
    covered Rectangle.points item.resource.accumulated
  notified : item.notification.isSome ↔ Prescribed entry.2.level
    entry.2.accumulated item.resource.accumulated
  named : ∀ notification, item.notification = some notification →
    notification.damage = entry.1
  simple : kMaximumXFixesRegionRectangles ≤ table.limit →
    item.resource.accumulated.length ≤ kMaximumXFixesRegionRectangles ∧
      covered Rectangle.points item.resource.accumulated =
        covered Rectangle.points entry.2.accumulated ∪ points

variable {geometry : Rectangle} {drawable : Nat}

theorem stage_fits (sound : table.Sound)
    (found : table.drawableGeometry drawable = some geometry)
    {incoming : List Rectangle} {points : Set (Int × Int)}
    (region : IsRegion incoming points) (inside : points ⊆ geometry.points)
    {entry : Nat × DamageResource} (held : table.DamageSound entry.2) :
    UnionFits entry.2.accumulated incoming := by
  obtain ⟨own, lookup, within⟩ := held.within
  refine unionFits_of_narrow held.region.toMakeUp.representable
    (narrow_of_box largestDrawable_small
      (within.trans (sound.geometry_subset lookup)))
    region.toMakeUp.representable (narrow_of_box largestDrawable_small ?_)
  rw [region.covers]
  exact inside.trans (sound.geometry_subset found)

theorem stage_overflow {incoming : List Rectangle}
    {entry : Nat × DamageResource} :
    table.stage geometry incoming entry = .error .overflow ↔
      ¬UnionFits entry.2.accumulated incoming := by
  unfold stage
  rw [Except.bind_eq_error_iff, unionRegions_overflow]
  simp only [Except.bind_eq_error_iff, pure, Except.pure, reduceCtorEq,
    and_false, exists_false, or_false, or_iff_left_iff_imp]
  rintro ⟨united, _, failed⟩
  unfold simplified at failed
  rw [ite_eq_iff, ite_eq_iff] at failed
  obtain ⟨_, ⟨_, wrong⟩ | ⟨_, wrong⟩⟩ | ⟨_, wrong⟩ := failed <;> cases wrong

theorem simplified_isRegion (sound : table.Sound)
    (found : table.drawableGeometry drawable = some geometry)
    {united accumulated : List Rectangle} {points : Set (Int × Int)}
    (region : IsRegion united points) (inside : points ⊆ geometry.points)
    (inhabited : points.Nonempty)
    (ok : table.simplified geometry united = .ok accumulated) :
    ∃ others, IsRegion accumulated others ∧ points ⊆ others ∧
      others ⊆ geometry.points := by
  unfold simplified at ok
  rw [ite_eq_iff, ite_eq_iff] at ok
  obtain ⟨_, ⟨_, wrong⟩ | ⟨_, same⟩⟩ | ⟨_, same⟩ := ok
  · cases wrong
  · obtain rfl := Except.ok.inj same
    have bounds := sound.geometry found
    obtain ⟨point, member⟩ := inhabited
    have filled := inside member
    have whole : XFixesRegion.Sound geometry := by
      have edges : geometry.right = geometry.x + geometry.width ∧
        geometry.bottom = geometry.y + geometry.height := ⟨rfl, rfl⟩
      simp only [Rectangle.points, Rectangle.Contains, Set.mem_ofPred_eq]
        at filled
      apply XFixesRegion.Sound.of_bounds <;> omega
    exact ⟨geometry.points, ⟨makeUp_single whole rfl,
      List.pairwise_singleton _ _⟩, inside, subset_rfl⟩
  · obtain rfl := Except.ok.inj same
    exact ⟨points, region, subset_rfl, inside⟩

theorem stage_staged (sound : table.Sound)
    (found : table.drawableGeometry drawable = some geometry)
    {incoming : List Rectangle} {points : Set (Int × Int)}
    (region : IsRegion incoming points) (inside : points ⊆ geometry.points)
    (inhabited : points.Nonempty) {entry : Nat × DamageResource}
    (held : table.DamageSound entry.2) (on : entry.2.drawable = drawable)
    {item : StagedDamage}
    (ok : table.stage geometry incoming entry = .ok item) :
    StagedFor table entry points item := by
  obtain ⟨united, joined, ok⟩ := Except.bind_eq_ok_iff.mp ok
  obtain ⟨accumulated, simple, ok⟩ := Except.bind_eq_ok_iff.mp ok
  obtain rfl := Except.ok.inj ok
  obtain ⟨own, lookup, within⟩ := held.within
  rw [on, found] at lookup
  obtain rfl := Option.some.inj lookup
  have union := unionRegions_isRegion held.region.toMakeUp.representable
    region.toMakeUp.representable joined
  rw [region.covers] at union
  obtain ⟨others, result, larger, small⟩ := simplified_isRegion sound found
    union (Set.union_subset within inside)
    (inhabited.mono Set.subset_union_right) simple
  obtain ⟨client, owner⟩ := Option.isSome_iff_exists.mp held.owned
  refine {
    xid := rfl
    drawable := rfl
    sound := ⟨held.owned, result.congr result.covers.symm,
      geometry, on.symm ▸ found, result.covers ▸ small⟩
    covers := by rw [result.covers]; exact larger
    notified := ?_
    named := ?_
    simple := fun wide => ?_ }
  · have filled : (covered Rectangle.points accumulated).Nonempty := by
      rw [result.covers]
      exact inhabited.mono (Set.subset_union_right.trans larger)
    simp only [owner, Option.map_some]
    rw [Option.isSome_ite]
    cases level : entry.2.level with
    | nonEmpty =>
        simp only [notifies, Prescribed, covered_eq_empty_iff held.region,
          List.isEmpty_iff, filled, and_true]
    | boundingBox => simp [notifies, Prescribed]
  · intro notification same
    simp only [owner, Option.map_some] at same
    rw [ite_eq_iff] at same
    obtain ⟨_, same⟩ | ⟨_, wrong⟩ := same
    · obtain rfl := Option.some.inj same
      rfl
    · cases wrong
  · have few := unionRegions_length joined
    unfold simplified at simple
    rw [if_neg (by omega)] at simple
    obtain rfl := Except.ok.inj simple
    exact ⟨few, union.covers⟩

/-! ### All resources of a drawable -/

theorem mem_damagesOf {entry : Nat × DamageResource} :
    entry ∈ table.damagesOf drawable ↔
      table.damages[entry.1]? = some entry.2 ∧ entry.2.drawable = drawable ∧
        entry.2.owner.isSome := by
  unfold damagesOf
  rw [List.mem_filter, Bool.and_eq_true, decide_eq_true_eq]
  exact and_congr_left' KeyMap.mem_toList

theorem damagesOf_pairwise : (table.damagesOf drawable).Pairwise
    fun left right => left.1 < right.1 :=
  (KeyMap.toList_pairwise table.damages).filter _

/-- What an addition comes to: nothing is changed, or something is painted
and every resource of the drawable gets what was staged for it. -/
inductive Added (table : DamageTable) (drawable : Nat)
    (rectangles : List Rectangle) : DamageMutationResult → Prop
  | failed {status : DamageStatus} (refused : status ≠ .success) :
      Added table drawable rectangles { status, table }
  | nothing {geometry : Rectangle}
      (found : table.drawableGeometry drawable = some geometry)
      (outside : geometry.points ∩ covered Rectangle.points rectangles = ∅) :
      Added table drawable rectangles { status := .success, table }
  | painted {geometry : Rectangle} {staged : List StagedDamage}
      (found : table.drawableGeometry drawable = some geometry)
      (items : List.Forall₂
        (fun entry item => StagedFor table entry
          (geometry.points ∩ covered Rectangle.points rectangles) item)
        (table.damagesOf drawable) staged) :
      Added table drawable rectangles {
        status := .success
        notifications := staged.filterMap (·.notification)
        table := { table with damages := commit table.damages staged } }

/-- The work on a table that is sound never overflows. -/
theorem addDamage_added (sound : table.Sound) (drawable : Nat)
    (rectangles : List Rectangle) :
    ∃ result, table.addDamage drawable rectangles = some result ∧
      Added table drawable rectangles result := by
  unfold addDamage
  cases found : table.drawableGeometry drawable with
  | none =>
      refine ⟨_, rfl, .failed ?_⟩
      decide
  | some geometry =>
      simp only
      have representable := clipped_representable sound found rectangles
      have clipped := clipped_covered geometry rectangles
      have fits : NormalizeFits (rectangles.filterMap (intersect geometry)) :=
        normalizeFits_of_narrow representable
          (narrow_of_box largestDrawable_small (by
            rw [clipped]
            exact Set.inter_subset_left.trans (sound.geometry_subset found)))
      cases normal : normalizeRegion
          (rectangles.filterMap (intersect geometry)) with
      | error fault =>
          cases fault with
          | overflow =>
              exact absurd fits ((normalizeRegion_overflow _).mp normal)
          | refused =>
              refine ⟨_, rfl, .failed ?_⟩
              decide
      | ok incoming =>
          have region := normalizeRegion_isRegion representable normal
          rw [clipped] at region
          cases incoming with
          | nil =>
              exact ⟨_, rfl, .nothing found
                (region.covers.symm.trans covered_nil)⟩
          | cons first rest =>
              have inhabited : (geometry.points ∩
                  covered Rectangle.points rectangles).Nonempty := by
                rw [Set.nonempty_iff_ne_empty, ← region.covers, Ne,
                  covered_eq_empty_iff region]
                exact List.cons_ne_nil first rest
              simp only
              cases work : (table.damagesOf drawable).mapM
                  (table.stage geometry (first :: rest)) with
              | error fault =>
                  cases fault with
                  | refused =>
                      refine ⟨_, rfl, .failed ?_⟩
                      decide
                  | overflow =>
                      obtain ⟨entry, member, beyond⟩ := mapM_eq_error work
                      obtain ⟨lookup, on, _⟩ := mem_damagesOf.mp member
                      have held := sound.damages entry.1 entry.2 lookup
                      refine absurd (stage_overflow.mp beyond) (not_not.mpr ?_)
                      exact stage_fits sound found region
                        Set.inter_subset_left held
              | ok staged =>
                  refine ⟨_, rfl, .painted found ?_⟩
                  have listed := List.forall₂_and_left
                    (p := (· ∈ table.damagesOf drawable)) _ staged |>.mpr
                    ⟨fun entry member => member, mapM_eq_ok work⟩
                  refine listed.imp ?_
                  rintro entry item ⟨member, ok⟩
                  obtain ⟨lookup, on, _⟩ := mem_damagesOf.mp member
                  exact stage_staged sound found region
                    Set.inter_subset_left inhabited
                    (sound.damages entry.1 entry.2 lookup) on ok

/-! ### What is committed -/

section

variable {entries : List (Nat × DamageResource)} {points : Set (Int × Int)}
  {staged : List StagedDamage}
  (items : List.Forall₂ (fun entry item => StagedFor table entry points item)
    entries staged)

include items

theorem staged_keys :
    staged.map (·.xid) = entries.map Prod.fst := by
  induction items with
  | nil => rfl
  | cons here _ ih => rw [List.map_cons, List.map_cons, ih, here.xid]

theorem staged_of_mem {entry : Nat × DamageResource}
    (member : entry ∈ entries) :
    ∃ item ∈ staged, StagedFor table entry points item := by
  induction items with
  | nil => cases member
  | @cons _ item _ _ here _ ih =>
      rcases List.mem_cons.mp member with rfl | later
      · exact ⟨item, List.mem_cons_self, here⟩
      · obtain ⟨other, listed, what⟩ := ih later
        exact ⟨other, List.mem_cons_of_mem _ listed, what⟩

theorem mem_staged {item : StagedDamage} (member : item ∈ staged) :
    ∃ entry ∈ entries, StagedFor table entry points item := by
  induction items with
  | nil => cases member
  | @cons entry _ _ _ here _ ih =>
      rcases List.mem_cons.mp member with rfl | later
      · exact ⟨entry, List.mem_cons_self, here⟩
      · obtain ⟨other, listed, what⟩ := ih later
        exact ⟨other, List.mem_cons_of_mem _ listed, what⟩

theorem commit_staged
    (ascending : entries.Pairwise fun left right => left.1 < right.1)
    (damages : KeyMap DamageResource) {item : StagedDamage}
    (member : item ∈ staged) :
    (commit damages staged)[item.xid]? = some item.resource := by
  have keys : (staged.map (·.xid)).Pairwise (· < ·) := by
    rw [staged_keys items]
    exact List.pairwise_map.mpr ascending
  unfold commit
  refine Std.ExtTreeMap.getElem?_insertMany_list_of_mem
    (k := item.xid) Std.ReflCmp.compare_self ?_ ?_
  · refine List.pairwise_map.mpr ((List.pairwise_map.mp keys).imp ?_)
    intro left right before same
    rw [compare_eq_iff_eq] at same
    exact absurd same (Nat.ne_of_lt before)
  · exact List.mem_map.mpr ⟨item, member, rfl⟩

theorem commit_other (damages : KeyMap DamageResource) {xid : Nat}
    (other : ∀ entry ∈ entries, entry.1 ≠ xid) :
    (commit damages staged)[xid]? = damages[xid]? := by
  unfold commit
  refine Std.ExtTreeMap.getElem?_insertMany_list_of_contains_eq_false ?_
  rw [List.map_map]
  have keys : staged.map (Prod.fst ∘ fun item => (item.xid, item.resource)) =
      entries.map Prod.fst := staged_keys items
  rw [keys, ← Bool.not_eq_true, List.contains_iff_mem, List.mem_map]
  rintro ⟨entry, member, same⟩
  exact other entry member same

end

end DamageTable

end Glasswyrm.Server
