import Glasswyrm.Library.Run
import Glasswyrm.Wm.InteractivePolicy

namespace Glasswyrm.Wm

open Library

/-! Where an interaction ends, over every order of its events. -/

inductive InteractionEvent
  | begin (request : InteractionBegin)
  | motion (pointer : PointerPosition)
  | take
  | accepted (applied : InteractiveGeometry)
  | refused
  | release (button : Nat) (pointer : PointerPosition)
  | cursorPublished
  | finish

/-- The policy with the requests it dispatched and those that were answered. -/
structure Interaction where
  policy : InteractivePolicy := {}
  requests : Nat := 0
  answers : Nat := 0
  lastDispatched : Option InteractiveGeometry := none

namespace Interaction

def begin (state : Interaction) (request : InteractionBegin) : Interaction :=
  let outcome := state.policy.begin request
  { state with
    policy := outcome.2
    lastDispatched :=
      if outcome.1.accepted then none else state.lastDispatched }

def take (state : Interaction) : Interaction :=
  match state.policy.takeGeometryRequest with
  | (none, policy) => { state with policy }
  | (some geometry, policy) =>
      { state with
        policy
        requests := state.requests + 1
        lastDispatched := some geometry }

def accepted (state : Interaction) (applied : InteractiveGeometry) :
    Interaction :=
  match state.policy.completeGeometry applied with
  | (true, policy) => { state with policy, answers := state.answers + 1 }
  | (false, policy) => { state with policy }

/-- A request that fails ends the interaction. -/
def refused (state : Interaction) : Interaction :=
  if state.policy.transactionInFlight then
    { state with policy := state.policy.abort.2, answers := state.answers + 1 }
  else state

def step (state : Interaction) : InteractionEvent → Interaction
  | .begin request => state.begin request
  | .motion pointer => { state with policy := state.policy.motion pointer }
  | .take => state.take
  | .accepted applied => state.accepted applied
  | .refused => state.refused
  | .release button pointer =>
      { state with policy := (state.policy.release button pointer).2 }
  | .cursorPublished =>
      { state with policy := state.policy.confirmCursorPublished.2 }
  | .finish => { state with policy := state.policy.finish.2 }

@[simp] theorem step_refused_policy {state : Interaction}
    (inFlight : state.policy.transactionInFlight = true) :
    (state.step .refused).policy = state.policy.abort.2 := by
  rw [step, refused, if_pos inFlight]

@[simp] theorem step_accepted_policy (state : Interaction)
    (applied : InteractiveGeometry) :
    (state.step (.accepted applied)).policy =
      (state.policy.completeGeometry applied).2 := by
  simp only [step, accepted]
  split <;> rename_i completed <;> rw [completed]

/-- The geometry asked for last, or the initial one. -/
def heldGeometry (state : Interaction) : InteractiveGeometry :=
  state.lastDispatched.getD state.policy.initialGeometry

end Interaction

/-! ## What every event keeps -/

/-- The requests and answers agree with the state of the policy. -/
structure Interaction.Consistent (state : Interaction) : Prop where
  idle : state.policy.kind = .none → state.policy.transactionInFlight = false
  outstanding : state.requests =
    state.answers + if state.policy.transactionInFlight then 1 else 0
  dispatched : state.policy.kind ≠ .none →
    state.lastDispatched =
      state.policy.dispatchedPointer.map state.policy.displaced

namespace Interaction.Consistent

variable {state : Interaction}

theorem start (bindings : InteractiveBindings) :
    Interaction.Consistent { policy := { bindings } } where
  idle _ := rfl
  outstanding := rfl
  dispatched active := absurd rfl active

/-- Neither the pointer nor the progress of the end matters. -/
theorem moved {policy : InteractivePolicy} (consistent : Consistent state)
    (kind : policy.kind = state.policy.kind)
    (inFlight : policy.transactionInFlight = state.policy.transactionInFlight)
    (dispatched : policy.dispatchedPointer = state.policy.dispatchedPointer)
    (displaced : policy.displaced = state.policy.displaced) :
    Consistent { state with policy } where
  idle none := inFlight.trans (consistent.idle (kind.symm.trans none))
  outstanding := by
    rw [inFlight]
    exact consistent.outstanding
  dispatched active := by
    rw [dispatched, displaced]
    exact consistent.dispatched fun none => active (kind.trans none)

/-- The interaction is given up while nothing is in flight. -/
theorem aborted (consistent : Consistent state)
    (settled : state.policy.transactionInFlight = false) :
    Consistent { state with policy := state.policy.abort.2 } := by
  unfold InteractivePolicy.abort
  split
  · exact consistent
  · exact
      { idle := fun _ => rfl
        outstanding := by
          have outstanding := consistent.outstanding
          rw [settled] at outstanding
          exact outstanding
        dispatched := fun active => absurd rfl active }

theorem begin (consistent : Consistent state) (request : InteractionBegin) :
    Consistent (state.begin request) := by
  unfold Interaction.begin InteractivePolicy.begin
  split
  · exact consistent
  · rename_i accepted
    have idle : state.policy.transactionInFlight = false := by
      apply consistent.idle
      simp only [InteractivePolicy.refusesBegin, Bool.or_eq_true, not_or,
        decide_eq_true_eq, ne_eq, Decidable.not_not] at accepted
      exact accepted.1.1.1.1.1.1.1.1.1
    exact
      { idle := fun _ => rfl
        outstanding := by
          have outstanding := consistent.outstanding
          rw [idle] at outstanding
          exact outstanding
        dispatched := fun _ => rfl }

theorem take (consistent : Consistent state) : Consistent state.take := by
  unfold Interaction.take InteractivePolicy.takeGeometryRequest
  split
  · rename_i taken
    split at taken
    · cases taken
      exact consistent
    · cases taken
  · rename_i geometry policy taken
    split at taken
    · cases taken
    · rename_i free
      cases taken
      simp only [Bool.or_eq_true, not_or, decide_eq_true_eq,
        Bool.not_eq_true] at free
      obtain ⟨⟨⟨active, settled⟩, _⟩, _⟩ := free
      exact
        { idle := fun none => absurd none active
          outstanding := by
            have outstanding := consistent.outstanding
            rw [settled] at outstanding
            exact congrArg Nat.succ outstanding
          dispatched := fun _ => rfl }

theorem accepted (consistent : Consistent state)
    (applied : InteractiveGeometry) : Consistent (state.accepted applied) := by
  unfold Interaction.accepted InteractivePolicy.completeGeometry
  split
  · rename_i policy completed
    split at completed
    · cases completed
    · rename_i waiting
      cases completed
      simp only [Bool.or_eq_true, not_or, Bool.not_eq_true',
        Bool.not_eq_false] at waiting
      exact
        { idle := fun _ => rfl
          outstanding := by
            have outstanding := consistent.outstanding
            rw [waiting.1.1] at outstanding
            exact outstanding
          dispatched := consistent.dispatched }
  · rename_i policy completed
    split at completed
    · cases completed
      exact consistent
    · cases completed

theorem refused (consistent : Consistent state) :
    Consistent state.refused := by
  unfold Interaction.refused
  split
  · rename_i inFlight
    unfold InteractivePolicy.abort
    split
    · rename_i none
      cases inFlight.symm.trans (consistent.idle none)
    · exact
        { idle := fun _ => rfl
          outstanding := by
            have outstanding := consistent.outstanding
            rw [inFlight] at outstanding
            exact outstanding
          dispatched := fun active => absurd rfl active }
  · exact consistent

theorem step (consistent : Consistent state) (event : InteractionEvent) :
    Consistent (state.step event) := by
  cases event with
  | begin request => exact consistent.begin request
  | motion pointer =>
      unfold Interaction.step InteractivePolicy.motion
      simp only
      split <;> exact consistent.moved rfl rfl rfl rfl
  | take => exact consistent.take
  | accepted applied => exact consistent.accepted applied
  | refused => exact consistent.refused
  | release button pointer =>
      unfold Interaction.step InteractivePolicy.release
      simp only
      split <;> exact consistent.moved rfl rfl rfl rfl
  | cursorPublished =>
      unfold Interaction.step InteractivePolicy.confirmCursorPublished
      simp only
      split <;> exact consistent.moved rfl rfl rfl rfl
  | finish =>
      unfold Interaction.step InteractivePolicy.finish
      simp only
      split
      · exact consistent
      · rename_i ready
        rw [Bool.not_eq_true', Bool.not_eq_false,
          InteractivePolicy.finishReady_iff] at ready
        exact consistent.aborted ready.1.2.1

theorem run (bindings : InteractiveBindings) (events : List InteractionEvent) :
    Consistent
      (Library.run Interaction.step { policy := { bindings } } events) :=
  run_preserves (fun _ event consistent => consistent.step event)
    (start bindings) events

/-- A request is answered before the next is dispatched. -/
theorem oneInFlight (consistent : Consistent state) :
    state.answers ≤ state.requests ∧ state.requests ≤ state.answers + 1 := by
  have outstanding := consistent.outstanding
  split at outstanding <;> omega

end Interaction.Consistent

/-! ## What the clamping hides -/

/-- A displacement that the limits of an axis hide. -/
def Hidden (low high origin delta : Int) : Prop :=
  delta = 0 ∨ low = high ∨ (high ≤ origin ∧ high ≤ origin + delta) ∨
    (origin ≤ low ∧ origin + delta ≤ low)

theorem clamp_eq_iff {low high origin delta : Int} (ordered : low ≤ high) :
    clamp (origin + delta) low high = clamp (origin + 0) low high ↔
      Hidden low high origin delta := by
  unfold clamp Hidden
  constructor
  · intro same
    split at same <;> split at same <;> (try split at same) <;>
      (try split at same) <;> omega
  · intro hidden
    split <;> split <;> (try split) <;> (try split) <;> omega

theorem clamp_self_iff {low high origin : Int} :
    clamp (origin + 0) low high = origin ↔ low ≤ origin ∧ origin ≤ high := by
  unfold clamp
  constructor
  · intro same
    split at same <;> (try split at same) <;> omega
  · intro inside
    split <;> (try split) <;> omega

namespace InteractivePolicy

variable {policy : InteractivePolicy}

/-- Both axes of the geometry that the interaction changes, with the limits,
the origin and the displacement of each. -/
def BothAxes (policy : InteractivePolicy) (pointer : PointerPosition)
    (holds : Int → Int → Int → Int → Prop) : Prop :=
  let deltaX := pointer.x - policy.initialPointer.x
  let deltaY := pointer.y - policy.initialPointer.y
  let geometry := policy.initialGeometry
  if policy.kind = .move then
    holds (-2147483648) 2147483647 geometry.x deltaX ∧
      holds (-2147483648) 2147483647 geometry.y deltaY
  else
    holds policy.bindings.minimumWidth maximumWindowExtent geometry.width
        deltaX ∧
      holds policy.bindings.minimumHeight maximumWindowExtent geometry.height
        deltaY

theorem resizeExtent_eq_iff {origin minimum : Nat} {delta : Int}
    (ordered : minimum ≤ maximumWindowExtent) :
    resizeExtent origin delta minimum = resizeExtent origin 0 minimum ↔
      Hidden minimum maximumWindowExtent origin delta := by
  have limits : (minimum : Int) ≤ maximumWindowExtent :=
    Int.ofNat_le.mpr ordered
  have moved := @clamp_bounds ((origin : Int) + delta) _ _ limits
  have still := @clamp_bounds ((origin : Int) + 0) _ _ limits
  rw [← clamp_eq_iff limits, resizeExtent, resizeExtent]
  omega

theorem resizeExtent_self_iff {origin minimum : Nat}
    (ordered : minimum ≤ maximumWindowExtent) :
    resizeExtent origin 0 minimum = origin ↔
      (minimum : Int) ≤ origin ∧ (origin : Int) ≤ maximumWindowExtent := by
  have limits : (minimum : Int) ≤ maximumWindowExtent :=
    Int.ofNat_le.mpr ordered
  have still := @clamp_bounds ((origin : Int) + 0) _ _ limits
  rw [← clamp_self_iff, resizeExtent]
  omega

section

variable (width : policy.bindings.minimumWidth ≤ maximumWindowExtent)
  (height : policy.bindings.minimumHeight ≤ maximumWindowExtent)

include width height

theorem displaced_eq_iff (pointer : PointerPosition) :
    policy.displaced policy.initialPointer = policy.displaced pointer ↔
      policy.BothAxes pointer Hidden := by
  unfold displaced BothAxes
  simp only [Int.sub_self]
  rw [eq_comm]
  split
  · rw [InteractiveGeometry.mk.injEq, addCoordinate, addCoordinate,
      addCoordinate, addCoordinate, clamp_eq_iff (by decide),
      clamp_eq_iff (by decide)]
    simp only [and_true]
  · rw [InteractiveGeometry.mk.injEq, resizeExtent_eq_iff width,
      resizeExtent_eq_iff height]
    simp only [true_and]

theorem displaced_initial_iff :
    policy.displaced policy.initialPointer = policy.initialGeometry ↔
      policy.BothAxes policy.initialPointer fun low high origin _ =>
        low ≤ origin ∧ origin ≤ high := by
  unfold displaced BothAxes
  simp only [Int.sub_self]
  split
  · rw [← clamp_self_iff, ← clamp_self_iff]
    exact ⟨fun same => ⟨congrArg InteractiveGeometry.x same,
      congrArg InteractiveGeometry.y same⟩,
      fun same => by rw [addCoordinate, addCoordinate, same.1, same.2]⟩
  · rw [← resizeExtent_self_iff width, ← resizeExtent_self_iff height]
    exact ⟨fun same => ⟨congrArg InteractiveGeometry.width same,
      congrArg InteractiveGeometry.height same⟩,
      fun same => by rw [same.1, same.2]⟩

end

/-! ## The end of an interaction -/

/-- When the pointer is back where it began, nothing has been asked for and
the clamping allows the initial geometry, or the last request differs from it
by nothing that the clamping shows. -/
def EndsInPlace (policy : InteractivePolicy) : Prop :=
  policy.latestPointer = policy.initialPointer →
    match policy.dispatchedPointer with
    | none => policy.BothAxes policy.initialPointer fun low high origin _ =>
        low ≤ origin ∧ origin ≤ high
    | some pointer => policy.BothAxes pointer Hidden

end InteractivePolicy

theorem Interaction.step_bindings (state : Interaction)
    (event : InteractionEvent) :
    (state.step event).policy.bindings = state.policy.bindings := by
  have abort : state.policy.abort.2.bindings = state.policy.bindings := by
    unfold InteractivePolicy.abort
    split <;> rfl
  cases event with
  | begin request =>
      simp only [Interaction.step, Interaction.begin, InteractivePolicy.begin]
      split <;> rfl
  | motion pointer =>
      simp only [Interaction.step, InteractivePolicy.motion]
      split <;> rfl
  | take =>
      simp only [Interaction.step, Interaction.take,
        InteractivePolicy.takeGeometryRequest]
      split
      · rename_i taken
        split at taken <;> cases taken
        rfl
      · rename_i taken
        split at taken <;> cases taken
        rfl
  | accepted applied =>
      simp only [Interaction.step, Interaction.accepted,
        InteractivePolicy.completeGeometry]
      split
      · rename_i completed
        split at completed <;> cases completed
        rfl
      · rename_i completed
        split at completed <;> cases completed
        rfl
  | refused =>
      simp only [Interaction.step, Interaction.refused]
      split
      · exact abort
      · rfl
  | release button pointer =>
      simp only [Interaction.step, InteractivePolicy.release]
      split <;> rfl
  | cursorPublished =>
      simp only [Interaction.step, InteractivePolicy.confirmCursorPublished]
      split <;> rfl
  | finish =>
      simp only [Interaction.step, InteractivePolicy.finish]
      split
      · rfl
      · exact abort

/-- The pointer decides where a finished interaction leaves its window, but
for a return to where it began. -/
theorem interaction_follows_pointer_iff (bindings : InteractiveBindings)
    (width : bindings.minimumWidth ≤ maximumWindowExtent)
    (height : bindings.minimumHeight ≤ maximumWindowExtent)
    (events : List InteractionEvent) :
    let state := run Interaction.step { policy := { bindings } } events
    state.requests ≤ state.answers + 1 ∧
      (state.policy.finish.1 = true →
        (state.heldGeometry =
            state.policy.displaced state.policy.latestPointer ↔
          state.policy.EndsInPlace)) := by
  intro state
  have consistent : state.Consistent := Interaction.Consistent.run bindings events
  have bound : state.policy.bindings = bindings :=
    @run_preserves _ _ Interaction.step
      (fun reached : Interaction => reached.policy.bindings = bindings)
      (fun reached event same => (reached.step_bindings event).trans same) _
      rfl events
  rw [← bound] at width height
  refine ⟨consistent.oneInFlight.2, fun finished => ?_⟩
  obtain ⟨active, ready⟩ := InteractivePolicy.finish_true finished
  obtain ⟨_, reached⟩ := InteractivePolicy.finishReady_iff.mp ready
  have dispatched := consistent.dispatched active
  unfold Interaction.heldGeometry InteractivePolicy.EndsInPlace
  by_cases back : state.policy.latestPointer = state.policy.initialPointer
  · rw [back, dispatched]
    simp only [true_implies]
    cases state.policy.dispatchedPointer with
    | none =>
        rw [Option.map_none, Option.getD_none, eq_comm]
        exact InteractivePolicy.displaced_initial_iff width height
    | some pointer =>
        rw [Option.map_some, Option.getD_some, eq_comm]
        exact InteractivePolicy.displaced_eq_iff width height pointer
  · have last := reached.resolve_left back
    rw [dispatched, last, Option.map_some, Option.getD_some]
    exact ⟨fun _ returned => absurd returned back, fun _ => rfl⟩

/-- A window is dragged to the right and its answer comes in, and the pointer
returns to where it began before the button is released. -/
def returningDrag : List InteractionEvent :=
  [.begin
      { kind := .move
        target := 10
        button := 1
        pointer := { x := 100, y := 100 }
        appliedGeometry := { x := 20, y := 30, width := 640, height := 480 }
        managed := true
        visible := true
        directRoot := true
        inputOutput := true },
    .cursorPublished,
    .motion { x := 110, y := 100 },
    .take,
    .accepted { x := 30, y := 30, width := 640, height := 480 },
    .motion { x := 100, y := 100 },
    .take,
    .release 1 { x := 100, y := 100 },
    .take]

/-- The window stays where the request left it. -/
theorem returning_drag_stays_away :
    let state := run Interaction.step {} returningDrag
    state.policy.finish.1 = true ∧
      state.policy.latestPointer = { x := 100, y := 100 } ∧
      state.heldGeometry = { x := 30, y := 30, width := 640, height := 480 } ∧
      state.policy.displaced state.policy.latestPointer =
        { x := 20, y := 30, width := 640, height := 480 } := by
  decide

theorem interaction_follows_pointer_forward :
    let state := run Interaction.step { policy := { bindings := {} } }
      (returningDrag.take 5 ++ [.release 1 { x := 110, y := 100 }])
    state.policy.finish.1 = true ∧
      state.heldGeometry =
        state.policy.displaced state.policy.latestPointer := by
  have follows := interaction_follows_pointer_iff {} (by decide) (by decide)
    (returningDrag.take 5 ++ [.release 1 { x := 110, y := 100 }])
  have finished : (run Interaction.step { policy := { bindings := {} } }
      (returningDrag.take 5 ++
        [.release 1 { x := 110, y := 100 }])).policy.finish.1 = true := by
    decide
  exact ⟨finished, (follows.2 finished).mpr fun back => by
    cases back⟩

end Glasswyrm.Wm
