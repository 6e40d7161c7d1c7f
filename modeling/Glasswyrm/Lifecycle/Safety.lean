import Glasswyrm.Lifecycle.Simulation

namespace Glasswyrm.Lifecycle

/-! Safety of the coordinator's transactions, over every run. -/

namespace LifecycleCoordinator

variable {ω : Type u}

/-! ## The committed snapshot -/

section

variable (callbacks : LifecycleCallbacks ω) (c : LifecycleCoordinator ω)

@[simp] theorem sendPolicyOrFatal_committed (snapshot : LifecycleSnapshot) :
    (c.sendPolicyOrFatal callbacks snapshot).1.committed = c.committed := by
  obtain ⟨world, sent | failed⟩ := c.sendPolicyOrFatal_cases callbacks snapshot
  · rw [sent]; rfl
  · rw [failed]; rfl

@[simp] theorem sendCompositorOrFatal_committed
    (snapshot : LifecycleSnapshot) :
    (c.sendCompositorOrFatal callbacks snapshot).1.committed =
      c.committed := by
  obtain ⟨world, sent | failed⟩ :=
    c.sendCompositorOrFatal_cases callbacks snapshot
  · rw [sent]; rfl
  · rw [failed]; rfl

@[simp] theorem submit_committed (operation : LifecycleOperation)
    (proposed : LifecycleSnapshot) :
    (c.submit callbacks operation proposed).committed = c.committed := by
  unfold submit
  obtain ⟨world, sent | failed⟩ := sendPolicy_cases callbacks
    (c.awaitPolicy operation proposed) proposed
  · rw [sent]; rfl
  · rw [failed]; rfl

@[simp] theorem release_committed (operation : LifecycleOperation)
    (success : Bool) :
    (c.release callbacks operation success).committed = c.committed := by
  cases success with
  | false =>
      obtain ⟨world, released⟩ := c.release_failed callbacks operation
      rw [released]
  | true =>
      obtain ⟨world, released | ⟨next, released⟩⟩ :=
        c.release_succeeded callbacks operation
      · rw [released]
      · rw [released]

@[simp] theorem advance_committed (queue : List LifecycleOperation) :
    ∀ (skipping : Bool) (c : LifecycleCoordinator ω),
      (advance callbacks skipping c queue).committed = c.committed := by
  induction queue with
  | nil => intro skipping c; rfl
  | cons operation rest ih =>
      intro skipping c
      unfold advance
      split
      · rw [ih]; rfl
      · cases callbacks.rebase with
        | none => simp [begin, record]
        | some rebase =>
            simp only
            split
            · simp [begin, record]
            · rw [ih]; simp [begin, record]

@[simp] theorem startNext_committed :
    (c.startNext callbacks).1.committed = c.committed := by
  unfold startNext
  split
  · rfl
  · exact advance_committed callbacks c.queue false c

@[simp] theorem startQueued_committed :
    (c.startQueued callbacks).1.committed = c.committed := by
  have started := c.startNext_committed callbacks
  unfold startQueued
  split
  · split <;> rename_i hnext <;> simpa [hnext] using started
  · rfl

@[simp] theorem finish_committed (operation : LifecycleOperation)
    (success : Bool) :
    (c.finish callbacks operation success).committed = c.committed := by
  unfold finish
  rw [advance_committed, release_committed]

@[simp] theorem insertQueued_committed (operation : LifecycleOperation)
    (insert : LifecycleOperation → List LifecycleOperation →
      List LifecycleOperation) :
    (c.insertQueued operation insert).1.committed = c.committed := by
  unfold insertQueued
  split
  · rfl
  · split <;> rfl

theorem enqueue_committed (operation : LifecycleOperation) :
    (c.enqueue callbacks operation).1.committed = c.committed := by
  have inserted := c.insertQueued_committed operation pushBack
  unfold enqueue enqueuePaused
  split <;> rename_i hinsert <;> rw [hinsert] at inserted
  · simpa using inserted
  · exact inserted

theorem enqueuePriority_committed (operation : LifecycleOperation) :
    (c.enqueuePriority callbacks operation).1.committed = c.committed := by
  have inserted := c.insertQueued_committed operation pushFront
  unfold enqueuePriority enqueuePriorityPaused
  split <;> rename_i hinsert <;> rw [hinsert] at inserted
  · simpa using inserted
  · exact inserted

@[simp] theorem beginRollback_committed :
    (c.beginRollback callbacks).1.committed = c.committed := by
  unfold beginRollback
  cases callbacks.prepareRollback with
  | none => simp
  | some prepare =>
      simp only
      split
      · simp
      · simp [fatal]

theorem policyAccepted_committed (evaluated : LifecycleSnapshot) :
    (c.policyAccepted callbacks evaluated).1.committed = c.committed := by
  unfold policyAccepted
  cases c.active with
  | none => rfl
  | some operation =>
      simp only
      split
      · simp
      · split
        · rfl
        · split <;> simp [keepEvaluated, record]

theorem policyRejected_committed :
    (c.policyRejected callbacks).1.committed = c.committed := by
  unfold policyRejected
  cases c.active with
  | none => rfl
  | some operation =>
      simp only
      split
      · rfl
      · simp

theorem resume_committed :
    (c.resume callbacks).1.committed = c.committed := by
  unfold resume
  split
  · rfl
  · simp

theorem peerSynchronized_committed :
    (c.peerSynchronized callbacks).1.committed = c.committed := by
  unfold peerSynchronized
  split
  · rfl
  · simp only
    split <;> simp

theorem compositorRejected_committed :
    (c.compositorRejected callbacks).1.committed = c.committed := by
  unfold compositorRejected
  split
  · rfl
  · simp

end

/-- The compositor accepts the active operation, which is not canceled, and
the commit callback stores the snapshot the policy returned for it. -/
structure Stores (callbacks : LifecycleCallbacks ω)
    (c : LifecycleCoordinator ω) (operation : LifecycleOperation) : Prop where
  phase : c.phase = .awaitingCompositor
  active : c.active = some operation
  wanted : operation.canceled = false
  returned : History.lastEvaluation c.history =
    some (operation.token, c.evaluated)
  success : (c.commit callbacks).2 = true

/-- The two ways the committed snapshot may change in one call. -/
inductive CommittedAfter (callbacks : LifecycleCallbacks ω)
    (c : LifecycleCoordinator ω) :
    CoordinatorInput ω → LifecycleSnapshot → Prop
  | kept (input : CoordinatorInput ω) :
      CommittedAfter callbacks c input c.committed
  | stored (operation : LifecycleOperation)
      (stores : Stores callbacks c operation) :
      CommittedAfter callbacks c .compositorAccepted c.evaluated
  | replaced (committed : LifecycleSnapshot) (idle : c.phase = .idle)
      (free : c.active = none) :
      CommittedAfter callbacks c (.replaceCommitted committed) committed

theorem compositorAccepted_committed {callbacks : LifecycleCallbacks ω}
    {start : LifecycleSnapshot} {c : LifecycleCoordinator ω}
    (holds : c.Invariant start) :
    CommittedAfter callbacks c .compositorAccepted
      (c.compositorAccepted callbacks).1.committed := by
  unfold compositorAccepted
  cases hactive : c.active with
  | none => exact .kept _
  | some operation =>
      simp only
      split
      · rename_i awaiting
        have effective : c.effectivePhase = .awaitingCompositor := by
          simp [effectivePhase, awaiting]
        obtain ⟨evaluatedFor, same, returned⟩ :=
          holds.sound.evaluatedActive effective
        have sameOperation : operation = evaluatedFor :=
          Option.some.inj (hactive.symm.trans same)
        subst sameOperation
        split
        · rw [beginRollback_committed]
          exact .kept _
        · rename_i wanted
          simp only [Bool.not_eq_true] at wanted
          have unchanged : (c.commit callbacks).1.committed = c.committed ∧
              (c.commit callbacks).1.evaluated = c.evaluated := by
            unfold commit
            split <;> exact ⟨rfl, rfl⟩
          split <;> rename_i result hcommit <;> rw [hcommit] at unchanged
          · simp only [fatal, inPhase_committed, withWorld_committed]
            rw [unchanged.1]
            exact .kept _
          · simp only [finish_committed, store, record]
            rw [unchanged.2]
            exact .stored operation
              ⟨awaiting, hactive, wanted, returned, by simp [hcommit]⟩
      · split
        · rw [finish_committed]
          exact .kept _
        · exact .kept _

theorem replaceCommitted_committed {callbacks : LifecycleCallbacks ω}
    (c : LifecycleCoordinator ω) (committed : LifecycleSnapshot) :
    CommittedAfter callbacks c (.replaceCommitted committed)
      (c.replaceCommitted committed).1.committed := by
  unfold replaceCommitted
  split
  · rename_i replaceable
    simp only [canReplaceCommitted, Bool.and_eq_true, decide_eq_true_eq,
      Option.isNone_iff_eq_none] at replaceable
    exact .replaced committed replaceable.1 replaceable.2
  · exact .kept _

theorem step_committed {callbacks : LifecycleCallbacks ω}
    {start : LifecycleSnapshot} {c : LifecycleCoordinator ω}
    (holds : c.Invariant start) (input : CoordinatorInput ω) :
    CommittedAfter callbacks c input (c.step callbacks input).committed := by
  cases input with
  | enqueue operation =>
      exact (c.enqueue_committed callbacks operation).symm ▸ .kept _
  | enqueuePaused operation =>
      exact (c.insertQueued_committed operation pushBack).symm ▸ .kept _
  | enqueuePriority operation =>
      exact (c.enqueuePriority_committed callbacks operation).symm ▸ .kept _
  | enqueuePriorityPaused operation =>
      exact (c.insertQueued_committed operation pushFront).symm ▸ .kept _
  | resume => exact (c.resume_committed callbacks).symm ▸ .kept _
  | policyAccepted evaluated =>
      exact (c.policyAccepted_committed callbacks evaluated).symm ▸ .kept _
  | policyRejected =>
      exact (c.policyRejected_committed callbacks).symm ▸ .kept _
  | compositorAccepted => exact compositorAccepted_committed holds
  | compositorRejected =>
      exact (c.compositorRejected_committed callbacks).symm ▸ .kept _
  | peerDisconnected =>
      have same : c.peerDisconnected.committed = c.committed := by
        unfold peerDisconnected
        split <;> rfl
      exact same.symm ▸ .kept _
  | peerSynchronized =>
      exact (c.peerSynchronized_committed callbacks).symm ▸ .kept _
  | cancelClient client => exact .kept _
  | replaceCommitted committed => exact replaceCommitted_committed c committed
  | environment world => exact .kept _

/-! ## Completions, cancellations and rollbacks -/

end LifecycleCoordinator

end Glasswyrm.Lifecycle
