import Glasswyrm.Lifecycle.Types
import Glasswyrm.Wm.Interaction

namespace Glasswyrm.Server

open Lifecycle Library Wm

/-! The server's part of an interaction: each geometry request is a lifecycle
operation, whose completion answers it. -/

structure InteractiveRuntime where
  policy : InteractivePolicy := {}
  geometryToken : Option Nat := none
  nextLifecycleToken : Nat := 1

/-- What the server finds when it submits a geometry operation: the target
among the committed windows, a serial, and a place in the queue. -/
structure Submission where
  known : Bool
  serial : Bool
  queued : Bool

namespace InteractiveRuntime

def abortInteractive (runtime : InteractiveRuntime) : InteractiveRuntime :=
  { runtime with policy := runtime.policy.abort.2, geometryToken := none }

def updateInteractiveGeometry (runtime : InteractiveRuntime)
    (submission : Submission) : Bool × InteractiveRuntime :=
  match runtime.policy.takeGeometryRequest with
  | (none, policy) => (true, { runtime with policy })
  | (some _, policy) =>
      let taken := { runtime with policy }
      if !submission.known || !submission.serial then
        (false, taken.abortInteractive)
      else
        let submitted :=
          { taken with
            geometryToken := some runtime.nextLifecycleToken
            nextLifecycleToken := runtime.nextLifecycleToken + 1 }
        if submission.queued then (true, submitted)
        else (false, submitted.abortInteractive)

/-- The committed geometry of the window is absent when the window is. -/
def completeInteractiveLifecycle (runtime : InteractiveRuntime)
    (operation : LifecycleOperation) (success : Bool)
    (committed : Option Wm.InteractiveGeometry) (submission : Submission) :
    InteractiveRuntime :=
  if runtime.policy.kind ≠ .none && operation.window = runtime.policy.target &&
      (operation.kind = .destroy || operation.kind = .unmap) then
    runtime.abortInteractive
  else if runtime.geometryToken ≠ some operation.token then runtime
  else
    let answered := { runtime with geometryToken := none }
    if !success then answered.abortInteractive
    else
      match committed with
      | none => answered.abortInteractive
      | some applied =>
          let completed :=
            { answered with
              policy := (runtime.policy.completeGeometry applied).2 }
          if completed.policy.finishReady then
            { completed with policy := completed.policy.finish.2 }
          else (completed.updateInteractiveGeometry submission).2

def completeInteractiveCursorPublication (runtime : InteractiveRuntime) :
    InteractiveRuntime :=
  match runtime.policy.confirmCursorPublished with
  | (false, policy) => { runtime with policy }
  | (true, policy) =>
      if policy.finishReady then { runtime with policy := policy.finish.2 }
      else { runtime with policy }

/-- A motion event while an interaction is active. -/
def interactiveMotion (runtime : InteractiveRuntime)
    (pointer : PointerPosition) (submission : Submission) :
    InteractiveRuntime :=
  (updateInteractiveGeometry
    { runtime with policy := runtime.policy.motion pointer } submission).2

/-- A button released while an interaction is active. -/
def interactiveRelease (runtime : InteractiveRuntime) (button : Nat)
    (pointer : PointerPosition) (submission : Submission) :
    InteractiveRuntime :=
  match runtime.policy.release button pointer with
  | (false, policy) => { runtime with policy }
  | (true, policy) =>
      let updated :=
        (updateInteractiveGeometry { runtime with policy } submission).2
      if updated.policy.finishReady then
        { updated with policy := updated.policy.finish.2 }
      else updated

end InteractiveRuntime

/-! ## The server runs the interaction -/

/-- The runtime holds the policy of an interaction, whose request is in flight
while its token is kept. -/
structure Follows (interaction : Interaction) (runtime : InteractiveRuntime) :
    Prop where
  policy : interaction.policy = runtime.policy
  token : runtime.geometryToken ≠ none →
    runtime.policy.transactionInFlight = true

namespace Follows

variable {interaction : Interaction} {runtime : InteractiveRuntime}

theorem take_none {policy : InteractivePolicy}
    (follows : Follows interaction runtime)
    (taken : runtime.policy.takeGeometryRequest = (none, policy)) :
    Follows (interaction.step .take) { runtime with policy } := by
  have same : policy = runtime.policy := by
    unfold InteractivePolicy.takeGeometryRequest at taken
    split at taken <;> cases taken
    rfl
  simp only [Interaction.step, Interaction.take, follows.policy, taken]
  exact ⟨rfl, same ▸ follows.token⟩

theorem update (follows : Follows interaction runtime)
    (submission : Submission) :
    ∃ events, Follows (run Interaction.step interaction events)
      (runtime.updateInteractiveGeometry submission).2 := by
  unfold InteractiveRuntime.updateInteractiveGeometry
  split
  · rename_i policy taken
    exact ⟨[.take], follows.take_none taken⟩
  · rename_i geometry policy taken
    have inFlight : policy.transactionInFlight = true := by
      unfold InteractivePolicy.takeGeometryRequest at taken
      split at taken <;> cases taken
      rfl
    have asked : (interaction.step .take).policy = policy := by
      simp only [Interaction.step, Interaction.take, follows.policy, taken]
    have refused : ∀ token next, Follows
        (run Interaction.step interaction [.take, .refused])
        (InteractiveRuntime.abortInteractive
          { policy, geometryToken := token, nextLifecycleToken := next }) := by
      intro token next
      rw [run_cons, run_cons, run_nil]
      have given : ((interaction.step .take).step .refused).policy =
          policy.abort.2 := by
        rw [Interaction.step_refused_policy (asked ▸ inFlight), asked]
      exact ⟨given, fun held => absurd rfl held⟩
    simp only
    split
    · exact ⟨_, refused _ _⟩
    · split
      · exact ⟨[.take], asked, fun _ => inFlight⟩
      · exact ⟨_, refused _ _⟩

/-- What the policy does of itself leaves the token alone. -/
theorem moved {event : InteractionEvent} {policy : InteractivePolicy}
    (follows : Follows interaction runtime)
    (same : (interaction.step event).policy = policy)
    (inFlight : policy.transactionInFlight =
      runtime.policy.transactionInFlight) :
    Follows (interaction.step event) { runtime with policy } :=
  ⟨same, fun held => inFlight.trans (follows.token held)⟩

theorem finish (follows : Follows interaction runtime)
    (ready : runtime.policy.finishReady = true) :
    Follows (interaction.step .finish)
      { runtime with policy := runtime.policy.finish.2 } := by
  have settled := (InteractivePolicy.finishReady_iff.mp ready).1.2.1
  refine ⟨congrArg (fun policy => policy.finish.2) follows.policy,
    fun held => ?_⟩
  cases settled.symm.trans (follows.token held)

theorem interactiveMotion (follows : Follows interaction runtime)
    (pointer : PointerPosition) (submission : Submission) :
    ∃ events, Follows (run Interaction.step interaction events)
      (runtime.interactiveMotion pointer submission) := by
  have inFlight : (runtime.policy.motion pointer).transactionInFlight =
      runtime.policy.transactionInFlight := by
    unfold InteractivePolicy.motion
    split <;> rfl
  have moved := @moved _ _ (.motion pointer) _ follows
    (congrArg (fun policy => policy.motion pointer) follows.policy) inFlight
  obtain ⟨events, followed⟩ := moved.update submission
  exact ⟨.motion pointer :: events, followed⟩

theorem interactiveRelease (follows : Follows interaction runtime)
    (button : Nat) (pointer : PointerPosition) (submission : Submission) :
    ∃ events, Follows (run Interaction.step interaction events)
      (runtime.interactiveRelease button pointer submission) := by
  have inFlight : (runtime.policy.release button
      pointer).2.transactionInFlight = runtime.policy.transactionInFlight := by
    unfold InteractivePolicy.release
    split <;> rfl
  have released := @moved _ _ (.release button pointer) _ follows
    (congrArg (fun policy => (policy.release button pointer).2)
      follows.policy) inFlight
  unfold InteractiveRuntime.interactiveRelease
  split
  · rename_i policy refused
    rw [refused] at released
    exact ⟨[.release button pointer], released⟩
  · rename_i policy accepted
    rw [accepted] at released
    obtain ⟨events, followed⟩ := released.update submission
    simp only
    split
    · rename_i ready
      refine ⟨.release button pointer :: (events ++ [.finish]), ?_⟩
      rw [run_cons, run_concat]
      exact followed.finish ready
    · exact ⟨.release button pointer :: events, followed⟩

theorem cursorPublication (follows : Follows interaction runtime) :
    ∃ events, Follows (run Interaction.step interaction events)
      runtime.completeInteractiveCursorPublication := by
  have inFlight :
      runtime.policy.confirmCursorPublished.2.transactionInFlight =
        runtime.policy.transactionInFlight := by
    unfold InteractivePolicy.confirmCursorPublished
    split <;> rfl
  have published := @moved _ _ .cursorPublished _ follows
    (congrArg (fun policy => policy.confirmCursorPublished.2) follows.policy)
    inFlight
  unfold InteractiveRuntime.completeInteractiveCursorPublication
  split
  · rename_i policy refused
    rw [refused] at published
    exact ⟨[.cursorPublished], published⟩
  · rename_i policy confirmed
    rw [confirmed] at published
    split
    · rename_i ready
      exact ⟨[.cursorPublished, .finish], published.finish ready⟩
    · exact ⟨[.cursorPublished], published⟩

/-- The end of a lifecycle operation that leaves the target mapped answers
the request in flight, or is no matter of the interaction. -/
theorem completed (follows : Follows interaction runtime)
    {operation : LifecycleOperation} (destroy : operation.kind ≠ .destroy)
    (unmap : operation.kind ≠ .unmap) (success : Bool)
    (committed : Option Wm.InteractiveGeometry) (submission : Submission) :
    ∃ events, Follows (run Interaction.step interaction events)
      (runtime.completeInteractiveLifecycle operation success committed
        submission) := by
  unfold InteractiveRuntime.completeInteractiveLifecycle
  rw [if_neg (by simp [destroy, unmap])]
  split
  · exact ⟨[], follows⟩
  · rename_i token
    have inFlight : runtime.policy.transactionInFlight = true := by
      apply follows.token
      rw [Decidable.not_not.mp token]
      exact Option.some_ne_none _
    have refused : Follows (interaction.step .refused)
        (InteractiveRuntime.abortInteractive
          { runtime with geometryToken := none }) := by
      refine ⟨?_, fun held => absurd rfl held⟩
      rw [Interaction.step_refused_policy (follows.policy ▸ inFlight),
        follows.policy]
      rfl
    simp only
    split
    · exact ⟨[.refused], refused⟩
    · split
      · exact ⟨[.refused], refused⟩
      · rename_i applied
        have answered : Follows (interaction.step (.accepted applied))
            { runtime with
              policy := (runtime.policy.completeGeometry applied).2
              geometryToken := none } := by
          refine ⟨?_, fun held => absurd rfl held⟩
          rw [Interaction.step_accepted_policy, follows.policy]
        split
        · rename_i ready
          exact ⟨[.accepted applied, .finish], answered.finish ready⟩
        · obtain ⟨events, followed⟩ := answered.update submission
          exact ⟨.accepted applied :: events, followed⟩

end Follows

end Glasswyrm.Server
