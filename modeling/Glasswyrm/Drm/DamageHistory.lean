import Mathlib.Data.List.Nodup
import Glasswyrm.Drm.DamageCopy
import Glasswyrm.Library.Raster
import Glasswyrm.Library.Run

namespace Glasswyrm.Drm

open Compositor Compositor.Rectangle Library

/-! Runs of completed frames over any number of scanout buffers.  Beside the
history stand the pixels that each buffer's record speaks of and the frames
completed into other buffers since. -/

/-- A point that the damage reaches; rectangles out of range reach none. -/
def Damaged (rectangles : List Rectangle) (x y : Int) : Prop :=
  ∃ rectangle ∈ rectangles, rectangle.hasValidExtents = true ∧
    rectangle.Contains x y

structure Frame (α : Type*) where
  generation : Nat
  pixels : Raster α
  damage : List Rectangle

structure ScanoutBuffer (α : Type*) where
  contentValid : Bool := false
  completedGeneration : Nat := 0
  contents : Raster α
  behind : List (Frame α) := []

structure Scanout (α : Type*) where
  history : DamageCopyHistory
  buffers : Nat → ScanoutBuffer α
  last : Option (Frame α) := none

inductive Completion (α : Type*)
  | completed (target : Nat) (frame : Frame α) (plan : DamageCopyPlan)
  | rejected (target : Nat) (frame : Frame α) (plan : DamageCopyPlan)
  | invalidated (target : Nat)
  | cleared

namespace Scanout

variable {α : Type*}

def initial (width height : Nat) (blank : Raster α) : Scanout α :=
  { history := { width, height }
    buffers := fun _ => { contents := blank } }

def complete (state : Scanout α) (target : Nat) (frame : Frame α)
    (plan : DamageCopyPlan) : Scanout α :=
  { history := state.history.recordCompleted plan frame.generation
    buffers := fun number =>
      if number = target then
        { contentValid := true
          completedGeneration := frame.generation
          contents := frame.pixels }
      else
        { state.buffers number with
          behind := (state.buffers number).behind ++ [frame] }
    last := some frame }

def step (state : Scanout α) : Completion α → Scanout α
  | .completed target frame plan => state.complete target frame plan
  -- a rejected flip leaves the records of its buffer as they were
  | .rejected _ _ _ => state
  | .invalidated target =>
      { state with
        buffers := fun number =>
          if number = target then
            { state.buffers number with contentValid := false }
          else state.buffers number }
  | .cleared => { state with history := state.history.clear }

/-- The frame comes no earlier than the last completed one, and its damage
reaches every pixel of the output where the two differ. -/
structure Follows (state : Scanout α) (frame : Frame α) : Prop where
  later : ∀ last ∈ state.last, last.generation ≤ frame.generation
  covers : ∀ last ∈ state.last, ∀ x y, state.history.bounds.Contains x y →
    last.pixels x y ≠ frame.pixels x y → Damaged frame.damage x y

/-- The plan was made for the frame, at whatever time and for whatever
buffer. -/
def PlannedFor (state : Scanout α) (frame : Frame α) (plan : DamageCopyPlan) :
    Prop :=
  ∃ (history : DamageCopyHistory) (contentValid : Bool)
    (completedGeneration : Nat) (forced : FullCopyReason),
    history.width = state.history.width ∧
      history.height = state.history.height ∧
      plan = history.plan contentValid completedGeneration frame.generation
        frame.damage forced

def allowed (state : Scanout α) : Completion α → Prop
  | .completed _ frame plan => state.Follows frame ∧ state.PlannedFor frame plan
  | _ => True

/-- The plan for the frame on the target buffer. -/
def planFor (state : Scanout α) (target : Nat) (frame : Frame α)
    (forced : FullCopyReason) : DamageCopyPlan :=
  state.history.plan (state.buffers target).contentValid
    (state.buffers target).completedGeneration frame.generation frame.damage
    forced

/-- The plan copies everything, or every pixel at which the buffer differs
from the frame. -/
def Sound (state : Scanout α) (target : Nat) (frame : Frame α)
    (plan : DamageCopyPlan) : Prop :=
  plan.fullCopy = true ∨
    ∀ x y, state.history.bounds.Contains x y →
      (state.buffers target).contents x y ≠ frame.pixels x y →
        ∃ rectangle ∈ plan.rectangles, rectangle.Contains x y

/-- No two of the target's own frame, the frames it missed and the new one
were committed under one generation, unless the history is not asked or misses
one of them. -/
def Distinct (state : Scanout α) (target : Nat) (frame : Frame α)
    (forced : FullCopyReason) : Prop :=
  forced = .none → (state.buffers target).contentValid = true →
    (state.buffers target).completedGeneration < frame.generation →
    (state.history.missingDamage
      ((state.buffers target).completedGeneration + 1)
      (frame.generation - 1)).isSome →
    ((state.buffers target).completedGeneration ::
      ((state.buffers target).behind ++ [frame]).map
        Frame.generation).Nodup

end Scanout

/-! ## What a plan records -/

theorem normalized_covers {history : DamageCopyHistory}
    {rectangles : List Rectangle} {x y : Int}
    (valid : history.bounds.hasValidExtents = true)
    (inside : history.bounds.Contains x y)
    (damaged : Damaged rectangles x y) :
    (history.normalized rectangles).Covers x y := by
  obtain ⟨rectangle, member, extents, contains⟩ := damaged
  obtain ⟨earlier, later, rfl⟩ := List.append_of_mem member
  unfold DamageCopyHistory.normalized
  rw [List.foldl_append, List.foldl_cons]
  have reached := DamageRegion.foldl_grows DamageRegion.add_grows
    { outputBounds := history.bounds } earlier
  generalize earlier.foldl _ _ = region at reached
  have wellformed := reached.wellformed (DamageRegion.initial_wellformed _)
  have bounds : region.outputBounds = history.bounds := reached.bounds
  have added : (region.add rectangle).Covers x y :=
    DamageRegion.add_covers wellformed (bounds ▸ valid) extents
      (.inr ⟨contains, bounds ▸ inside⟩)
  exact (DamageRegion.foldl_grows DamageRegion.add_grows _ later).covers
    (DamageRegion.add_wellformed wellformed rectangle)
    (by rw [DamageRegion.add_outputBounds, bounds]; exact valid) x y added

theorem normalized_within (history : DamageCopyHistory)
    (rectangles : List Rectangle) {rectangle : Rectangle}
    (member : rectangle ∈ (history.normalized rectangles).rectangles) :
    rectangle.Within history.bounds := by
  have grown := DamageRegion.foldl_grows DamageRegion.add_grows
    { outputBounds := history.bounds } rectangles
  have wellformed := grown.wellformed (DamageRegion.initial_wellformed _)
  have within := wellformed.bounded rectangle member
  rwa [grown.bounds] at within

theorem bounds_validExtents {history : DamageCopyHistory}
    {rectangle : Rectangle} (within : rectangle.Within history.bounds)
    (valid : history.bounds.hasValidExtents = true) :
    rectangle.hasValidExtents = true := by
  obtain ⟨left, right, top, bottom⟩ := within
  rw [hasValidExtents_iff] at valid ⊢
  simp only [DamageCopyHistory.bounds, Rectangle.right, Rectangle.bottom,
    int32Minimum] at left right top bottom valid ⊢
  omega

/-- What a region leaves of the damage reaches the same points of the
output. -/
theorem normalized_damaged {history : DamageCopyHistory}
    {rectangles : List Rectangle} {x y : Int}
    (valid : history.bounds.hasValidExtents = true)
    (inside : history.bounds.Contains x y)
    (damaged : Damaged rectangles x y) :
    Damaged (history.normalized rectangles).rectangles x y := by
  obtain ⟨covering, member, contains⟩ := normalized_covers valid inside damaged
  have within := normalized_within history rectangles member
  exact ⟨covering, member, bounds_validExtents within valid, contains⟩

theorem fullOutput_damaged {history : DamageCopyHistory} {x y : Int}
    (valid : history.bounds.hasValidExtents = true)
    (inside : history.bounds.Contains x y) :
    Damaged (DamageRegion.addFullOutput
      { outputBounds := history.bounds }).rectangles x y := by
  have covers : (DamageRegion.addFullOutput
      { outputBounds := history.bounds }).Covers x y :=
    DamageRegion.addFullOutput_covers valid inside
  obtain ⟨covering, member, contains⟩ := covers
  have within := (DamageRegion.addFullOutput_wellformed
    { outputBounds := history.bounds }).bounded covering member
  exact ⟨covering, member, bounds_validExtents within valid, contains⟩

/-- The rectangles reach every point of the output that the damage reaches. -/
def Records (bounds : Rectangle) (recorded damage : List Rectangle) : Prop :=
  bounds.hasValidExtents = true → ∀ x y, bounds.Contains x y →
    Damaged damage x y → Damaged recorded x y

theorem fullPlan_records (history : DamageCopyHistory)
    (reason : FullCopyReason) (damage : List Rectangle) :
    Records history.bounds (history.fullPlan reason damage).completedDamage
      damage := by
  intro valid x y inside damaged
  simp only [DamageCopyHistory.fullPlan]
  split
  · exact fullOutput_damaged valid inside
  · exact normalized_damaged valid inside damaged

theorem plan_records (history : DamageCopyHistory) (contentValid : Bool)
    (completedGeneration generation : Nat) (damage : List Rectangle)
    (forced : FullCopyReason) :
    Records history.bounds (history.plan contentValid completedGeneration
      generation damage forced).completedDamage damage := by
  unfold DamageCopyHistory.plan
  split
  · exact fullPlan_records history _ damage
  split
  · exact fullPlan_records history _ damage
  split
  · exact fullPlan_records history _ damage
  split
  · exact fullPlan_records history _ damage
  cases history.missingDamage (completedGeneration + 1) (generation - 1) with
  | none => exact fullPlan_records history _ damage
  | some missing =>
      simp only
      split
      · exact fullPlan_records history _ damage
      · exact fun valid x y inside => normalized_damaged valid inside

/-! ## What a plan gathers -/

theorem appendHistory_gathers {first last : Nat} {entries : List CompletedDamage}
    {expected : Nat} {rectangles gathered : List Rectangle}
    (appended : DamageCopyHistory.appendHistory first last entries expected
      rectangles = some gathered) :
    rectangles ⊆ gathered ∧ ∀ generation, expected ≤ generation →
      generation ≤ last → first ≤ expected → ∃ entry ∈ entries,
        entry.generation = generation ∧ entry.rectangles ⊆ gathered := by
  induction entries generalizing expected rectangles with
  | nil =>
      simp only [DamageCopyHistory.appendHistory] at appended
      split at appended
      · obtain rfl := Option.some.inj appended
        refine ⟨List.Subset.refl _, fun generation _ _ _ => ?_⟩
        omega
      · cases appended
  | cons entry rest ih =>
      simp only [DamageCopyHistory.appendHistory] at appended
      split at appended
      · obtain ⟨kept, found⟩ := ih appended
        refine ⟨kept, fun generation lower upper started => ?_⟩
        obtain ⟨other, member, same, within⟩ :=
          found generation lower upper started
        exact ⟨other, List.mem_cons_of_mem _ member, same, within⟩
      · split at appended
        · split at appended
          · obtain rfl := Option.some.inj appended
            refine ⟨List.Subset.refl _, fun generation _ _ _ => ?_⟩
            omega
          · cases appended
        · split at appended
          · cases appended
          · rename_i matching
            obtain ⟨kept, found⟩ := ih appended
            obtain ⟨keptEarlier, keptEntry⟩ := List.append_subset.mp kept
            refine ⟨keptEarlier, fun generation lower upper started => ?_⟩
            rcases Nat.eq_or_lt_of_le lower with same | above
            · refine ⟨entry, List.mem_cons_self, ?_, keptEntry⟩
              exact (Decidable.not_not.mp matching).trans same
            · obtain ⟨other, member, same, within⟩ :=
                found generation above upper (Nat.le_succ_of_le started)
              exact ⟨other, List.mem_cons_of_mem _ member, same, within⟩

/-- A history that answers holds an entry for every generation asked for. -/
theorem missingDamage_gathers {history : DamageCopyHistory} {first last : Nat}
    {missing : List Rectangle}
    (answered : history.missingDamage first last = some missing)
    {generation : Nat} (lower : first ≤ generation)
    (upper : generation ≤ last) :
    ∃ entry ∈ history.completed, entry.generation = generation ∧
      entry.rectangles ⊆ missing := by
  unfold DamageCopyHistory.missingDamage at answered
  rw [if_neg (by omega)] at answered
  exact (appendHistory_gathers answered).2 generation lower upper
    (Nat.le_refl first)

end Glasswyrm.Drm
