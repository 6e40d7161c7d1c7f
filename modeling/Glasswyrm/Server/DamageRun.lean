import Glasswyrm.Server.DamageStore

namespace Glasswyrm.Server

open Glasswyrm.Geometry (Rectangle intersect)
open Library
open XFixesRegion

namespace DamageTable

variable {table : DamageTable}

/-! ## What a subtraction comes to -/

/-- The points that a request takes out of a region. -/
def repairPoints : Option (List Rectangle) → Set (Int × Int)
  | none => Set.univ
  | some repair => covered Rectangle.points repair

theorem regionNamed_representable (sound : table.Sound) {xid : Nat}
    {rectangles : List Rectangle}
    (named : table.regionNamed xid = some (some rectangles)) :
    ∀ rectangle ∈ rectangles, rectangle.Representable := by
  unfold regionNamed at named
  rw [ite_eq_iff] at named
  obtain ⟨_, wrong⟩ | ⟨_, found⟩ := named
  · cases wrong
  · obtain ⟨held, lookup, same⟩ := Option.map_eq_some_iff.mp found
    obtain rfl := Option.some.inj same
    exact sound.regions xid held lookup

section

variable {α β : Type} {first : Except RegionFault α}
  {second : Except RegionFault β}

theorem both_ok {values : α × β} (ok : both first second = .ok values) :
    first = .ok values.1 ∧ second = .ok values.2 := by
  unfold both at ok
  split at ok
  · obtain rfl := Except.ok.inj ok
    exact ⟨rfl, rfl⟩
  all_goals cases ok

theorem both_overflow (beyond : both first second = .error .overflow) :
    first = .error .overflow ∨ second = .error .overflow := by
  unfold both at beyond
  split at beyond
  · cases beyond
  · exact Or.inl rfl
  · exact Or.inr rfl
  · cases beyond

end

section

variable {accumulated : List Rectangle} {repair : Option (List Rectangle)}
  (region : IsRegion accumulated (covered Rectangle.points accumulated))
  (representable : ∀ rectangles, repair = some rectangles →
    ∀ rectangle ∈ rectangles, rectangle.Representable)

include region representable

theorem repairedAndRemaining_fits
    (inside : covered Rectangle.points accumulated ⊆
      largestDrawable.points) :
    repairedAndRemaining accumulated repair ≠ .error .overflow := by
  cases repair with
  | none => simp [repairedAndRemaining]
  | some rectangles =>
      intro beyond
      obtain wrong | wrong := both_overflow beyond
      · refine (intersectRegions_overflow accumulated rectangles).mp wrong ?_
        exact intersectFits_of_narrow region.toMakeUp.representable
          (narrow_of_box largestDrawable_small inside) (representable _ rfl)
      · refine (subtractRegions_overflow accumulated rectangles).mp wrong ?_
        exact subtractFits_of_narrow region.toMakeUp.representable
          (narrow_of_box largestDrawable_small inside)

theorem repairedAndRemaining_ok {repaired remaining : List Rectangle}
    (ok : repairedAndRemaining accumulated repair =
      .ok (repaired, remaining)) :
    (∀ rectangle ∈ repaired, rectangle.Representable) ∧
      IsRegion remaining
        (covered Rectangle.points accumulated \ repairPoints repair) := by
  cases repair with
  | none =>
      obtain ⟨rfl, rfl⟩ := Prod.mk.inj (Except.ok.inj ok)
      refine ⟨region.toMakeUp.representable, isRegion_nil.congr ?_⟩
      rw [repairPoints, Set.sdiff_univ]
  | some rectangles =>
      obtain ⟨intersects, subtracts⟩ := both_ok ok
      have met := intersectRegions_isRegion
        region.toMakeUp.representable (representable _ rfl) intersects
      exact ⟨met.toMakeUp.representable,
        subtractRegions_isRegion region.toMakeUp.representable subtracts⟩

end

/-- What a subtraction comes to: nothing is changed, or the resource keeps
what was not repaired and is told of it if there is any. -/
inductive Subtracted (table : DamageTable) (xid repairRegion : Nat) :
    DamageMutationResult → Prop
  | failed {status : DamageStatus} (refused : status ≠ .success) :
      Subtracted table xid repairRegion { status, table }
  | done {damage : DamageResource} {repair : Option (List Rectangle)}
      {remaining : List Rectangle} {regions : RegionStore}
      {notifications : List DamageNotification}
      (found : table.damages[xid]? = some damage)
      (named : table.regionNamed repairRegion = some repair)
      (region : IsRegion remaining
        (covered Rectangle.points damage.accumulated \ repairPoints repair))
      (representable : ∀ xid rectangles,
        regions.findXFixesRegion xid = some rectangles →
          ∀ rectangle ∈ rectangles, rectangle.Representable)
      (told : notifications.map (·.damage) =
        if remaining = [] then [] else [xid]) :
      Subtracted table xid repairRegion {
        status := .success
        notifications
        table := {
          regions
          drawables := table.drawables
          damages := table.damages.insert xid { damage with
            accumulated := remaining
            nonEmptyEventSent := !remaining.isEmpty } } }

theorem regionNamed_found {xid : Nat} {parts : Option (List Rectangle)}
    (named : table.regionNamed xid = some parts) (given : parts.isSome) :
    ∃ rectangles, table.regions.findXFixesRegion xid = some rectangles := by
  unfold regionNamed at named
  rw [ite_eq_iff] at named
  obtain ⟨_, same⟩ | ⟨_, found⟩ := named
  · obtain rfl := Option.some.inj same
    cases given
  · obtain ⟨held, lookup, _⟩ := Option.map_eq_some_iff.mp found
    exact ⟨held, lookup⟩

theorem putParts_representable (sound : table.Sound) {partsRegion : Nat}
    {parts : Option (List Rectangle)} {repaired : List Rectangle}
    (named : table.regionNamed partsRegion = some parts)
    (representable : ∀ rectangle ∈ repaired, rectangle.Representable)
    (xid : Nat) (rectangles : List Rectangle)
    (found : (if parts.isSome then table.regions.put partsRegion repaired
      else table.regions).findXFixesRegion xid = some rectangles) :
    ∀ rectangle ∈ rectangles, rectangle.Representable := by
  split at found
  · rename_i given
    obtain ⟨held, lookup⟩ := regionNamed_found named given
    rw [RegionStore.put_find _ lookup, ite_eq_iff] at found
    obtain ⟨_, same⟩ | ⟨_, found⟩ := found
    · obtain rfl := Option.some.inj same
      exact representable
    · exact sound.regions xid rectangles found
  · exact sound.regions xid rectangles found

theorem subtractDamage_subtracted (sound : table.Sound)
    (xid repairRegion partsRegion : Nat) :
    ∃ result, table.subtractDamage xid repairRegion partsRegion =
        some result ∧ Subtracted table xid repairRegion result := by
  unfold subtractDamage
  split
  · refine ⟨_, rfl, .failed ?_⟩
    decide
  rename_i damage found
  have held := sound.damages xid damage found
  obtain ⟨geometry, lookup, within⟩ := held.within
  obtain ⟨client, owner⟩ := Option.isSome_iff_exists.mp held.owned
  split
  · rename_i repair parts repairNamed partsNamed
    have representable : ∀ rectangles, repair = some rectangles →
        ∀ rectangle ∈ rectangles, rectangle.Representable := by
      rintro rectangles rfl
      exact regionNamed_representable sound repairNamed
    split
    · rename_i beyond
      exact absurd beyond (repairedAndRemaining_fits held.region representable
        (within.trans (sound.geometry_subset lookup)))
    · refine ⟨_, rfl, .failed ?_⟩
      decide
    · rename_i repaired remaining ok
      obtain ⟨fields, region⟩ :=
        repairedAndRemaining_ok held.region representable ok
      split
      · refine ⟨_, rfl, .failed ?_⟩
        decide
      · have placed := putParts_representable sound partsNamed fields
        simp only
        split
        · rename_i clean
          rw [List.isEmpty_iff] at clean
          refine ⟨_, rfl, .done found repairNamed region placed ?_⟩
          rw [if_pos clean]
          rfl
        · rename_i dirty
          rw [List.isEmpty_iff] at dirty
          split
          · refine ⟨_, rfl, .done found repairNamed region placed ?_⟩
            rw [if_neg dirty]
            rfl
          · rename_i none
            exact absurd lookup (none client geometry owner)
  · refine ⟨_, rfl, .failed ?_⟩
    decide

end DamageTable

inductive DamageCall
  | add (drawable : Nat) (rectangles : List Rectangle)
  | subtract (xid repairRegion partsRegion : Nat)

namespace DamageTable

variable {table : DamageTable}

def perform (table : DamageTable) : DamageCall → Option DamageMutationResult
  | .add drawable rectangles => table.addDamage drawable rectangles
  | .subtract xid repairRegion partsRegion =>
      table.subtractDamage xid repairRegion partsRegion

/-! ## What an addition changes -/

section

variable {drawable : Nat} {points : Set (Int × Int)}
  {staged : List StagedDamage}
  (items : List.Forall₂ (fun entry item => StagedFor table entry points item)
    (table.damagesOf drawable) staged)

include items

/-- A resource of the drawable has what was staged for it. -/
theorem committed_of_drawable (sound : table.Sound) {xid : Nat}
    {damage : DamageResource} (found : table.damages[xid]? = some damage)
    (on : damage.drawable = drawable) :
    ∃ item ∈ staged, StagedFor table (xid, damage) points item ∧
      (commit table.damages staged)[xid]? = some item.resource := by
  have listed : (xid, damage) ∈ table.damagesOf drawable :=
    mem_damagesOf.mpr ⟨found, on, (sound.damages xid damage found).owned⟩
  obtain ⟨item, member, what⟩ := staged_of_mem items listed
  have placed := commit_staged items damagesOf_pairwise table.damages member
  rw [what.xid] at placed
  exact ⟨item, member, what, placed⟩

/-- Any other is as it was. -/
theorem committed_elsewhere (xid : Nat)
    (elsewhere : ∀ damage, table.damages[xid]? = some damage →
      damage.drawable ≠ drawable) :
    (commit table.damages staged)[xid]? = table.damages[xid]? := by
  refine commit_other items table.damages fun entry member same => ?_
  obtain ⟨found, on, _⟩ := mem_damagesOf.mp member
  exact elsewhere entry.2 (same ▸ found) on

theorem committed_cases (sound : table.Sound) {xid : Nat}
    {damage : DamageResource}
    (found : (commit table.damages staged)[xid]? = some damage) :
    (∃ before, table.damages[xid]? = some before ∧
      before.drawable = drawable ∧
      ∃ item, StagedFor table (xid, before) points item ∧
        damage = item.resource) ∨
    table.damages[xid]? = some damage ∧ damage.drawable ≠ drawable := by
  by_cases on : ∃ before, table.damages[xid]? = some before ∧
      before.drawable = drawable
  · obtain ⟨before, lookup, on⟩ := on
    obtain ⟨item, _, what, placed⟩ :=
      committed_of_drawable items sound lookup on
    exact Or.inl ⟨before, lookup, on, item, what,
      Option.some.inj (found.symm.trans placed)⟩
  · have elsewhere : ∀ damage, table.damages[xid]? = some damage →
        damage.drawable ≠ drawable :=
      fun damage lookup same => on ⟨damage, lookup, same⟩
    rw [committed_elsewhere items xid elsewhere] at found
    exact Or.inr ⟨found, elsewhere damage found⟩

end

/-! ## Soundness is kept -/

theorem added_sound (sound : table.Sound) {drawable : Nat}
    {rectangles : List Rectangle} {result : DamageMutationResult}
    (added : Added table drawable rectangles result) : result.table.Sound := by
  cases added with
  | failed _ => exact sound
  | nothing _ _ => exact sound
  | painted found items =>
      refine ⟨sound.drawables, sound.regions, fun xid damage lookup => ?_⟩
      obtain ⟨_, _, _, item, what, rfl⟩ | ⟨before, _⟩ :=
        committed_cases items sound lookup
      · exact ⟨what.sound.owned, what.sound.region, what.sound.within⟩
      · have held := sound.damages xid damage before
        exact ⟨held.owned, held.region, held.within⟩

theorem subtracted_sound (sound : table.Sound) {xid repairRegion : Nat}
    {result : DamageMutationResult}
    (subtracted : Subtracted table xid repairRegion result) :
    result.table.Sound := by
  cases subtracted with
  | failed _ => exact sound
  | @done damage repair remaining regions _ found named region representable
      _ =>
      refine ⟨sound.drawables, representable, fun other held lookup => ?_⟩
      rw [KeyMap.lookup_insert, ite_eq_iff] at lookup
      obtain ⟨_, same⟩ | ⟨_, lookup⟩ := lookup
      · obtain rfl := Option.some.inj same
        have before := sound.damages xid damage found
        obtain ⟨geometry, own, within⟩ := before.within
        refine ⟨before.owned, region.congr region.covers.symm, geometry, own,
          ?_⟩
        rw [region.covers]
        exact Set.sdiff_subset.trans within
      · have before := sound.damages other held lookup
        exact ⟨before.owned, before.region, before.within⟩

/-! ## What is answered -/

/-- Whether a resource is to be told of a call that succeeded: of an addition
when its level says so, of a subtraction when something remains. -/
def Due (before after : DamageTable) (xid : Nat) : DamageCall → Prop
  | .add _ _ => ∃ old new, before.damages[xid]? = some old ∧
      after.damages[xid]? = some new ∧
      Prescribed old.level old.accumulated new.accumulated
  | .subtract damage _ _ => xid = damage ∧
      ∃ new, after.damages[xid]? = some new ∧
        (covered Rectangle.points new.accumulated).Nonempty

structure AnsweredWell (table : DamageTable) (call : DamageCall)
    (result : DamageMutationResult) : Prop where
  unchanged : result.status ≠ .success →
    result.table = table ∧ result.notifications = []
  notified : result.status = .success → ∀ xid,
    (∃ notification ∈ result.notifications, notification.damage = xid) ↔
      Due table result.table xid call
  once : result.notifications.Pairwise fun first second =>
    first.damage < second.damage

theorem not_prescribed_self {level : DamageReportLevel}
    {accumulated : List Rectangle} :
    ¬Prescribed level accumulated accumulated := by
  cases level with
  | nonEmpty =>
      rintro ⟨nothing, inhabited⟩
      exact inhabited.ne_empty nothing
  | boundingBox => exact fun differs => differs rfl

theorem added_answeredWell (sound : table.Sound) {drawable : Nat}
    {rectangles : List Rectangle} {result : DamageMutationResult}
    (added : Added table drawable rectangles result) :
    AnsweredWell table (.add drawable rectangles) result := by
  cases added with
  | failed refused =>
      exact ⟨fun _ => ⟨rfl, rfl⟩, fun success => absurd success refused,
        List.Pairwise.nil⟩
  | nothing _ _ =>
      refine ⟨fun failed => absurd rfl failed, fun _ xid => ?_,
        List.Pairwise.nil⟩
      refine iff_of_false (by simp) ?_
      rintro ⟨old, new, before, after, prescribed⟩
      obtain rfl := Option.some.inj (before.symm.trans after)
      exact not_prescribed_self prescribed
  | @painted geometry staged found items =>
      refine ⟨fun failed => absurd rfl failed, fun _ xid => ?_, ?_⟩
      · constructor
        · rintro ⟨notification, member, rfl⟩
          obtain ⟨item, listed, given⟩ := List.mem_filterMap.mp member
          obtain ⟨entry, among, what⟩ := mem_staged items listed
          obtain ⟨lookup, _, _⟩ := mem_damagesOf.mp among
          have placed :=
            commit_staged items damagesOf_pairwise table.damages listed
          rw [what.named notification given, ← what.xid]
          refine ⟨entry.2, item.resource, what.xid ▸ lookup, placed,
            what.notified.mp ?_⟩
          rw [given]
          rfl
        · rintro ⟨old, new, before, after, prescribed⟩
          by_cases on : old.drawable = drawable
          · obtain ⟨item, listed, what, placed⟩ :=
              committed_of_drawable items sound before on
            obtain rfl := Option.some.inj (after.symm.trans placed)
            obtain ⟨notification, given⟩ :=
              Option.isSome_iff_exists.mp (what.notified.mpr prescribed)
            exact ⟨notification,
              List.mem_filterMap.mpr ⟨item, listed, given⟩,
              what.named notification given⟩
          · have same := committed_elsewhere items xid
              (fun damage lookup => by
                obtain rfl := Option.some.inj (before.symm.trans lookup)
                exact on)
            rw [same, before] at after
            obtain rfl := Option.some.inj after
            exact absurd prescribed not_prescribed_self
      · have keys : (staged.map (·.xid)).Pairwise (· < ·) := by
          rw [staged_keys items]
          exact List.pairwise_map.mpr damagesOf_pairwise
        refine List.pairwise_filterMap.mpr
          ((List.pairwise_map.mp keys).imp_of_mem ?_)
        intro first second here there before one given other also
        obtain ⟨entry, _, what⟩ := mem_staged items here
        obtain ⟨later, _, which⟩ := mem_staged items there
        rw [what.named one given, which.named other also, ← what.xid,
          ← which.xid]
        exact before

theorem subtracted_answeredWell {xid repairRegion partsRegion : Nat}
    {result : DamageMutationResult}
    (subtracted : Subtracted table xid repairRegion result) :
    AnsweredWell table (.subtract xid repairRegion partsRegion) result := by
  cases subtracted with
  | failed refused =>
      exact ⟨fun _ => ⟨rfl, rfl⟩, fun success => absurd success refused,
        List.Pairwise.nil⟩
  | @done damage repair remaining regions notifications found named region _
      told =>
      refine ⟨fun failed => absurd rfl failed, fun _ other => ?_, ?_⟩
      · have listed : (∃ notification ∈ notifications,
            notification.damage = other) ↔
            other ∈ notifications.map (·.damage) := by
          rw [List.mem_map]
        rw [listed, told]
        by_cases same : other = xid
        · obtain rfl := same
          have lookup : (table.damages.insert other { damage with
              accumulated := remaining
              nonEmptyEventSent := !remaining.isEmpty })[other]? =
              some { damage with
                accumulated := remaining
                nonEmptyEventSent := !remaining.isEmpty } := by
            rw [KeyMap.lookup_insert, if_pos rfl]
          simp only [Due, lookup, Option.some.injEq, exists_eq_left',
            true_and, Set.nonempty_iff_ne_empty, Ne,
            covered_eq_empty_iff region]
          split
          · rename_i clean
            simp [clean]
          · rename_i dirty
            simp [dirty]
        · refine iff_of_false ?_ fun due => same due.1
          split
          · exact List.not_mem_nil
          · simpa using same
      · have ids : (notifications.map (·.damage)).Pairwise (· < ·) := by
          rw [told]
          split
          · exact List.Pairwise.nil
          · exact List.pairwise_singleton _ _
        exact List.pairwise_map.mp ids

/-- Every call on a sound table is answered, and answered well. -/
theorem perform_answeredWell (sound : table.Sound) (call : DamageCall) :
    ∃ result, table.perform call = some result ∧
      result.table.Sound ∧ AnsweredWell table call result := by
  cases call with
  | add drawable rectangles =>
      obtain ⟨result, performed, added⟩ :=
        addDamage_added sound drawable rectangles
      exact ⟨result, performed, added_sound sound added,
        added_answeredWell sound added⟩
  | subtract xid repairRegion partsRegion =>
      obtain ⟨result, performed, subtracted⟩ :=
        subtractDamage_subtracted sound xid repairRegion partsRegion
      exact ⟨result, performed, subtracted_sound sound subtracted,
        subtracted_answeredWell subtracted⟩

end DamageTable

/-! ## What was computed -/

instance decidableFound {α : Type} {found : Option α} {p : α → Prop}
    [DecidablePred p] : Decidable (∀ value, found = some value → p value) :=
  match found with
  | none => .isTrue (by simp)
  | some value => decidable_of_iff (p value) (by simp)

instance decidableOk {ε α : Type} {answer : Except ε α} {p : α → Prop}
    [DecidablePred p] : Decidable (∃ value, answer = .ok value ∧ p value) :=
  match answer with
  | .ok value => decidable_of_iff (p value) (by simp)
  | .error _ => .isFalse (by simp)

/-! ## Runs

Beside the table a run keeps, for each resource, the pixels of its drawable
that were reported as painted and not subtracted since. -/

structure DamageHistory where
  table : DamageTable
  reported : Nat → Set (Int × Int) := fun _ => ∅

namespace DamageHistory

open DamageTable

/-- The pixels of the drawable of a resource that a call reports. -/
def painted (table : DamageTable) (xid : Nat) : DamageCall → Set (Int × Int)
  | .add drawable rectangles => {point |
      (∃ damage, table.damages[xid]? = some damage ∧
        damage.drawable = drawable) ∧
      ∃ geometry, table.drawableGeometry drawable = some geometry ∧
        point ∈ geometry.points ∩ covered Rectangle.points rectangles}
  | .subtract _ _ _ => ∅

/-- The pixels that a call takes out of a resource. -/
def repaired (table : DamageTable) (xid : Nat) (status : DamageStatus) :
    DamageCall → Set (Int × Int)
  | .add _ _ => ∅
  | .subtract damage repairRegion _ => {point |
      (damage = xid ∧ status = .success) ∧
      ∃ repair, table.regionNamed repairRegion = some repair ∧
        point ∈ repairPoints repair}

def step (history : DamageHistory) (call : DamageCall) : DamageHistory :=
  match history.table.perform call with
  | none => history
  | some result => {
      table := result.table
      reported := fun xid =>
        (history.reported xid ∪ painted history.table xid call) \
          repaired history.table xid result.status call }

/-- No reported pixel is missing from its resource. -/
def Covers (history : DamageHistory) : Prop :=
  ∀ xid damage, history.table.damages[xid]? = some damage →
    history.reported xid ⊆ covered Rectangle.points damage.accumulated

/-- An addition is not too complex: what is painted can be made disjoint, and
can be joined with the region of each resource of the drawable. -/
def Admitted (history : DamageHistory) : DamageCall → Prop
  | .subtract _ _ _ => True
  | .add drawable rectangles =>
      ∀ geometry, history.table.drawableGeometry drawable = some geometry →
        ∃ incoming, normalizeRegion
            (rectangles.filterMap (intersect geometry)) = .ok incoming ∧
          (incoming ≠ [] → ∀ entry ∈ history.table.damagesOf drawable,
            ∃ united, unionRegions entry.2.accumulated incoming = .ok united ∧
              (history.table.limit < united.length →
                history.table.limit ≠ 0))

instance Admitted.decidable (history : DamageHistory) :
    (call : DamageCall) → Decidable (Admitted history call)
  | .subtract _ _ _ => .isTrue trivial
  | .add _ _ => decidableFound

theorem stage_succeeds (table : DamageTable) (geometry : Rectangle)
    {incoming united : List Rectangle} {entry : Nat × DamageResource}
    (joined : unionRegions entry.2.accumulated incoming = .ok united)
    (kept : table.limit < united.length → table.limit ≠ 0) :
    ∃ item, table.stage geometry incoming entry = .ok item := by
  have simple : ∃ accumulated,
      table.simplified geometry united = .ok accumulated := by
    unfold simplified
    split
    · rename_i many
      rw [if_neg (kept many)]
      exact ⟨_, rfl⟩
    · exact ⟨_, rfl⟩
  obtain ⟨accumulated, simple⟩ := simple
  unfold stage
  simp only [joined, bind, Except.bind, simple]
  exact ⟨_, rfl⟩

theorem admitted_succeeds {history : DamageHistory} {drawable : Nat}
    {rectangles : List Rectangle} {result : DamageMutationResult}
    (admitted : history.Admitted (.add drawable rectangles))
    {geometry : Rectangle}
    (found : history.table.drawableGeometry drawable = some geometry)
    (performed : history.table.addDamage drawable rectangles = some result) :
    result.status = .success := by
  obtain ⟨incoming, normal, joins⟩ := admitted geometry found
  unfold addDamage at performed
  rw [found] at performed
  simp only [normal] at performed
  cases incoming with
  | nil =>
      obtain rfl := Option.some.inj performed
      rfl
  | cons first rest =>
      simp only at performed
      cases work : (history.table.damagesOf drawable).mapM
          (history.table.stage geometry (first :: rest)) with
      | ok staged =>
          rw [work] at performed
          obtain rfl := Option.some.inj performed
          rfl
      | error fault =>
          obtain ⟨entry, member, failed⟩ := mapM_eq_error work
          obtain ⟨united, joined, kept⟩ :=
            joins (List.cons_ne_nil first rest) entry member
          obtain ⟨item, ok⟩ := stage_succeeds history.table geometry joined
            kept
          cases failed.symm.trans ok

theorem step_of_perform {history : DamageHistory} (call : DamageCall)
    {result : DamageMutationResult}
    (performed : history.table.perform call = some result) :
    history.step call = {
      table := result.table
      reported := fun xid =>
        (history.reported xid ∪ painted history.table xid call) \
          repaired history.table xid result.status call } := by
  unfold step
  rw [performed]

theorem add_covers {history : DamageHistory} {drawable : Nat}
    {rectangles : List Rectangle} (sound : history.table.Sound)
    (covers : history.Covers)
    (admitted : history.Admitted (.add drawable rectangles)) :
    (history.step (.add drawable rectangles)).Covers := by
  obtain ⟨result, performed, added⟩ :=
    addDamage_added sound drawable rectangles
  rw [step_of_perform (.add drawable rectangles) performed]
  intro xid damage lookup
  refine Set.sdiff_subset.trans (Set.union_subset ?_ ?_)
  · cases added with
    | failed _ => exact covers xid damage lookup
    | nothing _ _ => exact covers xid damage lookup
    | painted found items =>
        obtain ⟨before, held, _, item, what, rfl⟩ | ⟨before, _⟩ :=
          committed_cases items sound lookup
        · exact (covers xid before held).trans
            (Set.subset_union_left.trans what.covers)
        · exact covers xid damage before
  · rintro point ⟨⟨before, held, on⟩, geometry, found, inside⟩
    have success := admitted_succeeds admitted found performed
    cases added with
    | failed refused => exact absurd success refused
    | nothing also outside =>
        obtain rfl := Option.some.inj (found.symm.trans also)
        rw [outside] at inside
        exact inside.elim
    | painted also items =>
        obtain rfl := Option.some.inj (found.symm.trans also)
        obtain ⟨item, _, what, placed⟩ :=
          committed_of_drawable items sound held on
        obtain rfl := Option.some.inj (lookup.symm.trans placed)
        exact what.covers (Or.inr inside)

theorem subtract_covers {history : DamageHistory}
    {xid repairRegion partsRegion : Nat} (sound : history.table.Sound)
    (covers : history.Covers) :
    (history.step (.subtract xid repairRegion partsRegion)).Covers := by
  obtain ⟨result, performed, subtracted⟩ :=
    subtractDamage_subtracted sound xid repairRegion partsRegion
  rw [step_of_perform (.subtract xid repairRegion partsRegion)
    performed]
  intro other damage lookup
  simp only [painted, Set.union_empty]
  cases subtracted with
  | failed _ => exact Set.sdiff_subset.trans (covers other damage lookup)
  | done found named region _ _ =>
      simp only at lookup
      rw [KeyMap.lookup_insert, ite_eq_iff] at lookup
      obtain ⟨rfl, same⟩ | ⟨_, lookup⟩ := lookup
      · obtain rfl := Option.some.inj same
        rw [region.covers]
        rintro point ⟨reported, kept⟩
        refine ⟨covers xid _ found reported, fun taken => kept ?_⟩
        exact ⟨⟨rfl, rfl⟩, _, named, taken⟩
      · exact Set.sdiff_subset.trans (covers other damage lookup)

theorem step_sound {history : DamageHistory} (sound : history.table.Sound)
    (call : DamageCall) : (history.step call).table.Sound := by
  obtain ⟨result, performed, kept, _⟩ := perform_answeredWell sound call
  rw [step_of_perform _ performed]
  exact kept

/-- In a run without additions that are too complex no pixel that was reported
is lost; and every call is answered, whether complex or not, leaving all as it
was if it fails and telling those that it should if it succeeds. -/
theorem damage_kept {table : DamageTable} (sound : table.Sound)
    {calls : List DamageCall}
    (admitted : Guarded step Admitted { table } calls) :
    (run step { table } calls).Covers ∧
      ∀ call, ∃ result,
        (run step { table } calls).table.perform call = some result ∧
          AnsweredWell (run step { table } calls).table call result := by
  have kept : (run step { table } calls).table.Sound ∧
      (run step { table } calls).Covers := by
    refine admitted.preserves
      (fun history => history.table.Sound ∧ history.Covers) ?_
      ⟨sound, fun _ _ _ => Set.empty_subset _⟩
    rintro history call ⟨good, covers⟩ allowed
    refine ⟨step_sound good call, ?_⟩
    cases call with
    | add drawable rectangles => exact add_covers good covers allowed
    | subtract xid repairRegion partsRegion =>
        exact subtract_covers good covers
  refine ⟨kept.2, fun call => ?_⟩
  obtain ⟨result, performed, _, answered⟩ :=
    perform_answeredWell kept.1 call
  exact ⟨result, performed, answered⟩

/-- A table without damage is sound when its parts are, which can be
computed. -/
theorem clean_table_sound {table : DamageTable}
    (extents : ∀ entry ∈ table.drawables.toList,
      entry.2.1 ≤ 65535 ∧ entry.2.2 ≤ 65535)
    (regions : ∀ entry ∈ table.regions.regions.toList,
      ∀ rectangle ∈ entry.2.rectangles, rectangle.Representable)
    (damages : ∀ entry ∈ table.damages.toList, entry.2.owner.isSome ∧
      entry.2.accumulated = [] ∧
        table.drawables[entry.2.drawable]?.isSome) :
    table.Sound := by
  refine ⟨fun drawable extent found =>
      extents (drawable, extent) (KeyMap.mem_toList.mpr found),
    fun xid rectangles found => ?_, fun xid damage found => ?_⟩
  · obtain ⟨region, held, rfl⟩ := Option.map_eq_some_iff.mp found
    exact regions (xid, region) (KeyMap.mem_toList.mpr held)
  · obtain ⟨owned, clean, known⟩ :=
      damages (xid, damage) (KeyMap.mem_toList.mpr found)
    obtain ⟨extent, lookup⟩ := Option.isSome_iff_exists.mp known
    refine ⟨owned, ?_, { width := extent.1, height := extent.2 }, ?_, ?_⟩
    · rw [clean, covered_nil]
      exact isRegion_nil
    · exact Option.map_eq_some_iff.mpr ⟨extent, lookup, rfl⟩
    · rw [clean, covered_nil]
      exact Set.empty_subset _

/-- Two clients watch a drawable, and one of them has a region. -/
def watchedTable : DamageTable where
  regions := {
    regions := (∅ : KeyMap XFixesRegionResource).insert 9
      { owner := 7, rectangles := [{ width := 8, height := 4 }] } }
  drawables := (∅ : KeyMap (Nat × Nat)).insert 1 (32, 16)
  damages := ((∅ : KeyMap DamageResource).insert 2
    { owner := some 7, drawable := 1 }).insert 3
      { owner := some 8, drawable := 1, level := .boundingBox }

/-- What is painted overlaps, passes the edge of the drawable and is in part
subtracted from the first resource. -/
def watchedCalls : List DamageCall :=
  [.add 1 [{ x := 2, y := 2, width := 8, height := 8 },
     { x := 28, width := 8, height := 2 }],
   .add 1 [{ x := 6, y := 4, width := 10, height := 4 }],
   .subtract 2 9 0,
   .add 1 [{ y := 12, width := 3, height := 3 }]]

theorem damage_kept_watched :
    let history := run step { table := watchedTable } watchedCalls
    history.Covers ∧ ∀ call, ∃ result,
      history.table.perform call = some result ∧
        AnsweredWell history.table call result :=
  damage_kept (clean_table_sound (by decide +kernel) (by decide +kernel)
    (by decide +kernel)) (by decide +kernel)

/-- A line of pixels with one resource on it. -/
def onePixelHigh : DamageTable where
  drawables := (∅ : KeyMap (Nat × Nat)).insert 1 (8193, 1)
  damages := (∅ : KeyMap DamageResource).insert 2
    { owner := some 7, drawable := 1 }

theorem onePixelHigh_sound : onePixelHigh.Sound :=
  clean_table_sound (by decide +kernel) (by decide +kernel) (by decide +kernel)

/-- One pixel in two is painted, one at a time. -/
def speck (index : Nat) : DamageCall :=
  .add 1 [{ x := 2 * index, y := 0, width := 1, height := 1 }]

def speckPoint (index : Nat) : Int × Int := (2 * index, 0)

/-- The pixels of the even columns. -/
def evenColumns : Set (Int × Int) := {point | ∃ column, point.1 = 2 * column}

/-- No rectangle of even columns is wider than one. -/
theorem evenColumns_length {rectangles : List Rectangle}
    (within : covered Rectangle.points rectangles ⊆ evenColumns) {count : Nat}
    (painted : ∀ index < count,
      speckPoint index ∈
        covered Rectangle.points rectangles) :
    count ≤ rectangles.length := by
  have columns : ((List.range count).map fun index =>
      (speckPoint index).1) ⊆ rectangles.map (·.x) := by
    intro column member
    obtain ⟨index, listed, rfl⟩ := List.mem_map.mp member
    obtain ⟨rectangle, held, inside⟩ :=
      painted index (List.mem_range.mp listed)
    refine List.mem_map.mpr ⟨rectangle, held, ?_⟩
    by_contra differs
    obtain ⟨left, right, top, bottom⟩ := inside
    simp only [speckPoint] at left right top bottom differs
    obtain ⟨first, even⟩ := within (a := (rectangle.x, 0))
      ⟨rectangle, held, by
        simp only [Rectangle.mem_points, Rectangle.Contains]; omega⟩
    obtain ⟨second, odd⟩ := within (a := (rectangle.x + 1, 0))
      ⟨rectangle, held, by
        simp only [Rectangle.mem_points, Rectangle.Contains]; omega⟩
    simp only at even odd
    omega
  have distinct : ((List.range count).map fun index =>
      (speckPoint index).1).Nodup := by
    refine List.Nodup.map (fun first second same => ?_) List.nodup_range
    simp only [speckPoint] at same
    omega
  have shorter := (distinct.subperm columns).length_le
  simpa using shorter

/-- What the runs of specks keep. -/
structure Speckled (history : DamageHistory) (count : Nat) : Prop where
  sound : history.table.Sound
  drawables : history.table.drawables = onePixelHigh.drawables
  limit : history.table.limit = kMaximumXFixesRegionRectangles
  reported : ∀ index < count,
    speckPoint index ∈ history.reported 2
  held : ∃ damage, history.table.damages[2]? = some damage ∧
    damage.drawable = 1 ∧
    damage.accumulated.length ≤ kMaximumXFixesRegionRectangles ∧
    covered Rectangle.points damage.accumulated ⊆ evenColumns

theorem speck_speckled {history : DamageHistory} {count : Nat}
    (speckled : Speckled history count) (room : count ≤ 4096) :
    Speckled (history.step (speck count)) (count + 1) := by
  obtain ⟨sound, drawables, limit, reported, damage, found, on, few, even⟩ :=
    speckled
  obtain ⟨result, performed, added⟩ :=
    addDamage_added sound 1 [⟨2 * count, 0, 1, 1⟩]
  have geometry : history.table.drawableGeometry 1 =
      some { width := 8193, height := 1 } := by
    unfold drawableGeometry
    rw [drawables, onePixelHigh, KeyMap.lookup_insert, if_pos rfl]
    rfl
  have after := step_sound sound (speck count)
  have painted : ∀ index < count + 1,
      speckPoint index ∈
        (history.step (speck count)).reported 2 := by
    intro index below
    rw [step_of_perform (speck count) performed]
    refine ⟨?_, Set.notMem_empty _⟩
    by_cases earlier : index < count
    · exact Or.inl (reported index earlier)
    · obtain rfl : index = count := by omega
      refine Or.inr ⟨⟨damage, found, on⟩, _, geometry, ?_, ?_⟩
      · simp only [speckPoint, Rectangle.mem_points, Rectangle.Contains,
          Rectangle.right, Rectangle.bottom]
        omega
      · refine shape_subset_covered List.mem_cons_self ?_
        simp only [speckPoint, Rectangle.mem_points, Rectangle.Contains,
          Rectangle.right, Rectangle.bottom]
        omega
  rw [step_of_perform (speck count) performed] at after painted ⊢
  have atOnce : covered Rectangle.points
      [({ x := 2 * count, y := 0, width := 1, height := 1 } : Rectangle)] ⊆
        evenColumns := by
    rw [covered_cons, covered_nil, Set.union_empty]
    rintro point ⟨left, right, _⟩
    simp only [Rectangle.right] at left right
    exact ⟨count, by omega⟩
  cases added with
  | failed _ =>
      exact ⟨after, drawables, limit, painted, damage, found, on, few, even⟩
  | nothing _ _ =>
      exact ⟨after, drawables, limit, painted, damage, found, on, few, even⟩
  | painted _ items =>
      obtain ⟨item, _, what, placed⟩ :=
        committed_of_drawable items sound found on
      obtain ⟨short, exact⟩ := what.simple (Nat.le_of_eq limit.symm)
      refine ⟨after, drawables, limit, painted, item.resource, placed,
        what.drawable.trans on, short, ?_⟩
      rw [exact]
      exact Set.union_subset even (Set.inter_subset_right.trans atOnce)

theorem specks_speckled (count : Nat) (room : count ≤ 4097) :
    Speckled (run step { table := onePixelHigh }
      ((List.range count).map speck)) count := by
  induction count with
  | zero =>
      have entry : onePixelHigh.damages[2]? =
          some { owner := some 7, drawable := 1 } := by
        rw [onePixelHigh, KeyMap.lookup_insert, if_pos rfl]
      refine ⟨onePixelHigh_sound, rfl, rfl, fun index below => ?_, _, entry,
        rfl, Nat.zero_le _, ?_⟩
      · omega
      · rw [covered_nil]
        exact Set.empty_subset _
  | succ count ih =>
      rw [List.range_succ, List.map_append, List.map_singleton, run_concat]
      exact speck_speckled (ih (by omega)) (by omega)

theorem Speckled.loses {history : DamageHistory} {count : Nat}
    (speckled : Speckled history count)
    (many : kMaximumXFixesRegionRectangles < count) : ¬history.Covers := by
  intro covers
  obtain ⟨_, _, _, reported, damage, found, _, few, even⟩ := speckled
  have length := evenColumns_length even fun index below =>
    covers 2 damage found (reported index below)
  omega

/-- The last of 4097 specks is lost: the region would need as many
rectangles. -/
theorem specks_lost :
    ¬(run step { table := onePixelHigh }
      ((List.range 4097).map speck)).Covers :=
  (specks_speckled 4097 (Nat.le_refl _)).loses (by decide)

end DamageHistory

end Glasswyrm.Server
