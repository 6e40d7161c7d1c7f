import Glasswyrm.Lifecycle.Protocol

namespace Glasswyrm.Lifecycle

/-! Every call on the coordinator is a sequence of protocol transitions. -/

namespace LifecycleCoordinator

open LifecycleProtocol

variable {ω : Type u}

/-- While a peer is away the protocol rests in the phase that will resume. -/
def effectivePhase (c : LifecycleCoordinator ω) : CoordinatorPhase :=
  if c.phase = .waitingForPeer then c.resumePhase else c.phase

def protocol (c : LifecycleCoordinator ω) : LifecycleProtocol where
  committed := c.committed
  evaluated := c.evaluated
  queue := c.queue
  active := c.active
  phase := c.effectivePhase
  history := c.history

/-- Only a phase with work in it is interrupted. -/
def Resumable (c : LifecycleCoordinator ω) : Prop :=
  c.phase = .waitingForPeer →
    c.resumePhase ≠ .idle ∧ c.resumePhase ≠ .fatal ∧
      c.resumePhase ≠ .waitingForPeer

/-- The result of a call: reached by the protocol, and resumable. -/
structure Reaches (rules : Rules) (s : LifecycleProtocol)
    (c : LifecycleCoordinator ω) : Prop where
  run : LifecycleProtocol.Run rules s c.protocol
  resumable : c.Resumable

/-- The rules of a run whose rebases are the callback's. -/
def rules (callbacks : LifecycleCallbacks ω)
    (answers : LifecycleSnapshot → LifecycleSnapshot → Prop) : Rules where
  rebases committed operation proposed :=
    match callbacks.rebase with
    | none => proposed = operation.proposed
    | some rebase => rebase committed operation = some proposed
  answers := answers

variable {allowed : Rules}
  {answers : LifecycleSnapshot → LifecycleSnapshot → Prop}

theorem Resumable.of_phase {c : LifecycleCoordinator ω}
    (present : c.phase ≠ .waitingForPeer) : c.Resumable :=
  fun away => absurd away present

theorem Reaches.after {s t : LifecycleProtocol} {c : LifecycleCoordinator ω}
    (first : Transition allowed s t) (rest : Reaches allowed t c) :
    Reaches allowed s c :=
  ⟨.head first rest.run, rest.resumable⟩

/-- A coordinator whose peers are present stands where the protocol does. -/
theorem Reaches.here {s : LifecycleProtocol} {c : LifecycleCoordinator ω}
    (same : s = c.protocol) (present : c.phase ≠ .waitingForPeer) :
    Reaches allowed s c :=
  ⟨same ▸ .refl, .of_phase present⟩

theorem effectivePhase_present {c : LifecycleCoordinator ω}
    (present : c.phase ≠ .waitingForPeer) : c.effectivePhase = c.phase := by
  simp [effectivePhase, present]

/-! ## What the callbacks leave behind -/

section

variable (callbacks : LifecycleCallbacks ω) (c : LifecycleCoordinator ω)

theorem sendPolicy_cases (snapshot : LifecycleSnapshot) :
    ∃ world, c.sendPolicy callbacks snapshot =
        ((c.withWorld world).record (.policySent snapshot), true) ∨
      c.sendPolicy callbacks snapshot = (c.withWorld world, false) := by
  unfold sendPolicy
  cases callbacks.sendPolicy with
  | none => exact ⟨c.world, .inr rfl⟩
  | some send =>
      rcases hsend : send c.world snapshot with ⟨sent, world⟩
      cases sent with
      | true => exact ⟨world, .inl (by simp [hsend])⟩
      | false => exact ⟨world, .inr (by simp [hsend])⟩

theorem sendCompositor_cases (snapshot : LifecycleSnapshot) :
    ∃ world, c.sendCompositor callbacks snapshot =
        ((c.withWorld world).record (.compositorSent snapshot), true) ∨
      c.sendCompositor callbacks snapshot = (c.withWorld world, false) := by
  unfold sendCompositor
  cases callbacks.sendCompositor with
  | none => exact ⟨c.world, .inr rfl⟩
  | some send =>
      rcases hsend : send c.world snapshot with ⟨sent, world⟩
      cases sent with
      | true => exact ⟨world, .inl (by simp [hsend])⟩
      | false => exact ⟨world, .inr (by simp [hsend])⟩

theorem sendPolicyOrFatal_cases (snapshot : LifecycleSnapshot) :
    ∃ world, c.sendPolicyOrFatal callbacks snapshot =
        ((c.withWorld world).record (.policySent snapshot), true) ∨
      c.sendPolicyOrFatal callbacks snapshot =
        ((c.withWorld world).inPhase .fatal, false) := by
  unfold sendPolicyOrFatal
  obtain ⟨world, sent | failed⟩ := c.sendPolicy_cases callbacks snapshot
  · exact ⟨world, .inl (by simp [sent])⟩
  · exact ⟨_, .inr (by simp only [failed, fatal, withWorld_withWorld]; rfl)⟩

theorem sendCompositorOrFatal_cases (snapshot : LifecycleSnapshot) :
    ∃ world, c.sendCompositorOrFatal callbacks snapshot =
        ((c.withWorld world).record (.compositorSent snapshot), true) ∨
      c.sendCompositorOrFatal callbacks snapshot =
        ((c.withWorld world).inPhase .fatal, false) := by
  unfold sendCompositorOrFatal
  obtain ⟨world, sent | failed⟩ := c.sendCompositor_cases callbacks snapshot
  · exact ⟨world, .inl (by simp [sent])⟩
  · exact ⟨_, .inr (by simp only [failed, fatal, withWorld_withWorld]; rfl)⟩

/-- A failed operation leaves the coordinator idle, its completion recorded. -/
theorem release_failed (operation : LifecycleOperation) :
    ∃ world, c.release callbacks operation false =
      { c with
        world := world
        active := none
        evaluated := {}
        phase := .idle
        history := .completed operation.token false :: c.history } :=
  ⟨_, rfl⟩

/-- So does a successful one, whose completion may enqueue one more. -/
theorem release_succeeded (operation : LifecycleOperation) :
    ∃ world,
      c.release callbacks operation true =
        { c with
          world := world
          active := none
          evaluated := {}
          phase := .idle
          history := .completed operation.token true :: c.history } ∨
      ∃ next, c.release callbacks operation true =
        { c with
          world := world
          queue := c.queue ++ [next]
          active := none
          evaluated := {}
          phase := .idle
          history := .enqueued next :: .completed operation.token true ::
            c.history } := by
  unfold release acceptFollowUp
  cases callbacks.followUp with
  | none => exact ⟨_, .inl rfl⟩
  | some handler =>
      simp only [if_true]
      rcases hnext : handler (c.complete callbacks operation.token true).world
        operation (c.complete callbacks operation.token true).committed
        with ⟨next, world⟩
      cases next with
      | none => exact ⟨world, .inl (by simp [complete, record])⟩
      | some next =>
          simp only [enqueuePaused, insertQueued]
          split
          · exact ⟨world, .inl (by simp [complete, record])⟩
          · split
            · exact ⟨world, .inl (by simp [complete, record])⟩
            · exact ⟨world, .inr ⟨next, by simp [complete, record, pushBack]⟩⟩

theorem Reaches.of_eq {s t : LifecycleProtocol} {c : LifecycleCoordinator ω}
    (same : s = t) (reaches : Reaches allowed t c) : Reaches allowed s c :=
  same ▸ reaches

/-- Taking up the head of the queue: the proposal is sent, or the coordinator
halts with the operation active. -/
theorem submit_reaches {operation : LifecycleOperation}
    {rest : List LifecycleOperation} {proposed : LifecycleSnapshot}
    (idle : c.phase = .idle) (free : c.active = none)
    (rebased : (rules callbacks answers).rebases c.committed operation
      proposed) :
    Reaches (rules callbacks answers) { c.protocol with queue := operation :: rest }
      ((c.begin operation rest).submit callbacks operation proposed) := by
  have effective : c.effectivePhase = .idle := by
    simp [effectivePhase, idle]
  refine .after (.start operation rest proposed effective free rfl rebased)
    ?_
  unfold submit
  obtain ⟨world, sent | failed⟩ := sendPolicy_cases callbacks
    ((c.begin operation rest).awaitPolicy operation proposed) proposed
  · rw [sent]
    refine .after
      (.propose { operation with proposed := proposed } rfl rfl) ?_
    refine .here ?_ ?_ <;>
      simp [protocol, effectivePhase, record, begin, awaitPolicy]
  · rw [failed]
    refine .after (.halt c.evaluated rfl) ?_
    refine .here ?_ ?_ <;>
      simp [protocol, effectivePhase, record, begin, awaitPolicy, fatal]

/-- The loop over the queue, by induction on the entries it still sees. -/
theorem advance_reaches (queue : List LifecycleOperation) :
    ∀ (skipping : Bool) (c : LifecycleCoordinator ω), c.phase = .idle →
      c.active = none →
        Reaches (rules callbacks answers) { c.protocol with queue := queue }
          (advance callbacks skipping c queue) := by
  induction queue with
  | nil =>
      intro skipping c idle _
      exact .here (c := { c with queue := [] }) rfl (by simp [idle])
  | cons operation rest ih =>
      intro skipping c idle free
      have effective : c.effectivePhase = .idle := by
        simp [effectivePhase, idle]
      unfold advance
      by_cases dropped : (skipping && operation.canceled) = true
      · rw [if_pos dropped]
        have canceled : operation.canceled = true := by
          simp only [Bool.and_eq_true] at dropped
          exact dropped.2
        refine .after (.drop operation rest effective free rfl canceled) ?_
        exact ih true (({ c with queue := rest } :
          LifecycleCoordinator ω).complete callbacks operation.token false)
          idle free
      · rw [if_neg dropped]
        cases hrebase : callbacks.rebase with
        | none =>
            exact submit_reaches callbacks c idle free
              (by simp [rules, hrebase])
        | some rebase =>
            simp only
            cases hproposed :
                rebase (c.begin operation rest).committed operation with
            | some proposed =>
                exact submit_reaches callbacks c idle free
                  (by simpa [rules, hrebase, begin, record] using hproposed)
            | none =>
                refine .after (.refuse operation rest effective free rfl) ?_
                obtain ⟨world, released⟩ :=
                  (c.begin operation rest).release_failed callbacks operation
                refine .of_eq ?_ (ih true
                  ((c.begin operation rest).release callbacks operation false)
                  (by rw [released]) (by rw [released]))
                rw [released]
                simp [protocol, effectivePhase, idle, begin, record, free]

theorem startNext_reaches (idle : c.phase = .idle) (free : c.active = none) :
    Reaches (rules callbacks answers) c.protocol (c.startNext callbacks).1 := by
  have present : c.phase ≠ .waitingForPeer := by simp [idle]
  unfold startNext
  split
  · exact .here rfl present
  · exact advance_reaches callbacks c.queue false c idle free

theorem startQueued_reaches {s : LifecycleProtocol}
    (free : c.phase = .idle → c.active = none) (before : Reaches (rules callbacks answers) s c) :
    Reaches (rules callbacks answers) s (c.startQueued callbacks).1 := by
  unfold startQueued
  split
  · rename_i idle
    have started : Reaches (rules callbacks answers) c.protocol
        (c.startNext callbacks).1 :=
      c.startNext_reaches callbacks idle (free idle)
    have joined : Reaches (rules callbacks answers) s (c.startNext callbacks).1 :=
      ⟨before.run.trans started.run, started.resumable⟩
    split <;> rename_i hnext <;> simpa [hnext] using joined
  · exact before

/-- A failed operation of an active phase, and everything it lets start. -/
theorem finish_failed_reaches {operation : LifecycleOperation}
    (undone : GivesUp c.phase) (active : c.active = some operation) :
    Reaches (rules callbacks answers) c.protocol (c.finish callbacks operation false) := by
  have present : c.phase ≠ .waitingForPeer := by
    intro away
    simp [away, GivesUp] at undone
  have effective := effectivePhase_present present
  refine .after (.giveUp operation (by simpa [protocol, effective]) active) ?_
  unfold finish
  obtain ⟨world, released⟩ := c.release_failed callbacks operation
  refine .of_eq ?_ (advance_reaches callbacks _ true _
    (by rw [released]) (by rw [released]))
  rw [released]
  simp [protocol, effectivePhase]

/-- A stored operation, and everything its completion lets start. -/
theorem finish_succeeded_reaches {operation : LifecycleOperation}
    (accepted : c.phase = .awaitingCompositor)
    (active : c.active = some operation)
    (wanted : operation.canceled = false) :
    Reaches (rules callbacks answers) c.protocol
      ((c.store operation).finish callbacks operation true) := by
  have effective : c.effectivePhase = .awaitingCompositor := by
    simp [effectivePhase, accepted]
  refine .after (.store operation effective active wanted) ?_
  unfold finish
  obtain ⟨world, released | ⟨next, released⟩⟩ :=
    (c.store operation).release_succeeded callbacks operation
  · refine .of_eq ?_ (advance_reaches callbacks _ true _
      (by rw [released]) (by rw [released]))
    rw [released]
    simp [protocol, effectivePhase, store, record]
  · refine .after (.enqueue next (c.queue ++ [next])
      (List.perm_append_singleton next c.queue)) ?_
    refine .of_eq ?_ (advance_reaches callbacks _ true _
      (by rw [released]) (by rw [released]))
    rw [released]
    simp [protocol, effectivePhase, store, record]

/-! ## The calls -/

theorem insertQueued_reaches (operation : LifecycleOperation)
    (insert : LifecycleOperation → List LifecycleOperation →
      List LifecycleOperation)
    (inserts : (insert operation c.queue).Perm (operation :: c.queue))
    (resumable : c.Resumable) :
    Reaches allowed c.protocol (c.insertQueued operation insert).1 := by
  unfold insertQueued
  split
  · exact ⟨.refl, resumable⟩
  · split
    · exact ⟨.refl, resumable⟩
    · exact ⟨.single (.enqueue operation _ inserts), resumable⟩

theorem enqueuePaused_reaches (operation : LifecycleOperation)
    (resumable : c.Resumable) :
    Reaches allowed c.protocol (c.enqueuePaused operation).1 :=
  c.insertQueued_reaches operation pushBack
    (List.perm_append_singleton operation c.queue) resumable

theorem enqueuePriorityPaused_reaches (operation : LifecycleOperation)
    (resumable : c.Resumable) :
    Reaches allowed c.protocol (c.enqueuePriorityPaused operation).1 :=
  c.insertQueued_reaches operation pushFront (.refl _) resumable

theorem insertQueued_active (operation : LifecycleOperation)
    (insert : LifecycleOperation → List LifecycleOperation →
      List LifecycleOperation) :
    (c.insertQueued operation insert).1.active = c.active ∧
      (c.insertQueued operation insert).1.phase = c.phase := by
  unfold insertQueued
  split
  · exact ⟨rfl, rfl⟩
  · split <;> exact ⟨rfl, rfl⟩

theorem enqueue_reaches (operation : LifecycleOperation)
    (resumable : c.Resumable) (free : c.phase = .idle → c.active = none) :
    Reaches (rules callbacks answers) c.protocol (c.enqueue callbacks operation).1 := by
  have inserted : Reaches (rules callbacks answers) c.protocol
      (c.enqueuePaused operation).1 :=
    c.enqueuePaused_reaches operation resumable
  obtain ⟨sameActive, samePhase⟩ := c.insertQueued_active operation pushBack
  unfold enqueue
  split
  · rename_i result hinsert
    rw [enqueuePaused] at hinsert inserted
    rw [hinsert] at inserted sameActive samePhase
    refine startQueued_reaches callbacks result (fun idle => ?_) inserted
    exact sameActive.trans (free (samePhase.symm.trans idle))
  · rename_i result status _ hinsert
    rw [hinsert] at inserted
    exact inserted

theorem enqueuePriority_reaches (operation : LifecycleOperation)
    (resumable : c.Resumable) (free : c.phase = .idle → c.active = none) :
    Reaches (rules callbacks answers) c.protocol (c.enqueuePriority callbacks operation).1 := by
  have inserted : Reaches (rules callbacks answers) c.protocol
      (c.enqueuePriorityPaused operation).1 :=
    c.enqueuePriorityPaused_reaches operation resumable
  obtain ⟨sameActive, samePhase⟩ := c.insertQueued_active operation pushFront
  unfold enqueuePriority
  split
  · rename_i result hinsert
    rw [enqueuePriorityPaused] at hinsert inserted
    rw [hinsert] at inserted sameActive samePhase
    refine startQueued_reaches callbacks result (fun idle => ?_) inserted
    exact sameActive.trans (free (samePhase.symm.trans idle))
  · rename_i result status _ hinsert
    rw [hinsert] at inserted
    exact inserted

theorem resume_reaches (resumable : c.Resumable) :
    Reaches (rules callbacks answers) c.protocol (c.resume callbacks).1 := by
  unfold resume
  split
  · exact ⟨.refl, resumable⟩
  · rename_i ready
    simp only [not_or, not_not, Bool.not_eq_true, Option.isSome_eq_false_iff,
      Option.isNone_iff_eq_none] at ready
    exact c.startNext_reaches callbacks ready.1 ready.2

/-- Undoing an evaluated operation sends the policy peer back first. -/
theorem beginRollback_reaches
    (begun : c.phase = .awaitingPolicy ∨ c.phase = .awaitingCompositor)
    (occupied : c.active.isSome) :
    Reaches (rules callbacks answers) c.protocol (c.beginRollback callbacks).1 := by
  have present : c.phase ≠ .waitingForPeer := by
    rcases begun with begun | begun <;> simp [begun]
  have effective := effectivePhase_present present
  have rollBack : ∀ world, Reaches (rules callbacks answers) c.protocol
      (((c.withWorld world).inPhase .rollingBackPolicy).sendPolicyOrFatal
        callbacks c.committed).1 := by
    intro world
    obtain ⟨later, sent | failed⟩ := sendPolicyOrFatal_cases callbacks
      ((c.withWorld world).inPhase .rollingBackPolicy) c.committed
    · rw [sent]
      refine .after (.rollBackPolicy ?_ occupied) (.here ?_ ?_)
      · rcases begun with begun | begun <;>
          simp [protocol, effective, begun]
      · simp [protocol, effectivePhase, record]
      · simp [record]
    · rw [failed]
      refine .after (.halt c.evaluated occupied) (.here ?_ ?_) <;>
        simp [protocol, effectivePhase]
  unfold beginRollback
  cases callbacks.prepareRollback with
  | none => exact rollBack c.world
  | some prepare =>
      simp only
      split
      · exact rollBack _
      · refine .after (.halt c.evaluated occupied) (.here ?_ ?_) <;>
          simp [protocol, effectivePhase, fatal]

theorem policyAccepted_reaches (evaluated : LifecycleSnapshot)
    (resumable : c.Resumable)
    (answered : ∀ pending, c.pendingPolicySnapshot = some pending →
      answers pending evaluated) :
    Reaches (rules callbacks answers) c.protocol (c.policyAccepted callbacks evaluated).1 := by
  unfold policyAccepted
  cases hactive : c.active with
  | none => exact ⟨.refl, resumable⟩
  | some operation =>
      have occupied : c.active.isSome := by simp [hactive]
      simp only
      split
      · rename_i rolling
        have effective : c.effectivePhase = .rollingBackPolicy := by
          simp [effectivePhase, rolling]
        obtain ⟨world, sent | failed⟩ := sendCompositorOrFatal_cases callbacks
          (c.inPhase .rollingBackCompositor) c.committed
        · rw [sent]
          refine .after (.rollBackCompositor (.inl effective) occupied)
            (.here ?_ ?_) <;>
            simp [protocol, effectivePhase, record]
        · rw [failed]
          refine .after (.halt c.evaluated occupied) (.here ?_ ?_) <;>
            simp [protocol, effectivePhase]
      · split
        · exact ⟨.refl, resumable⟩
        · rename_i awaiting
          simp only [ne_eq, not_not] at awaiting
          have effective : c.effectivePhase = .awaitingPolicy := by
            simp [effectivePhase, awaiting]
          refine .after (.evaluate operation evaluated effective hactive) ?_
          split
          · refine .of_eq ?_ (beginRollback_reaches callbacks
              (c.keepEvaluated operation evaluated) (.inl awaiting) occupied)
            simp [protocol, effectivePhase, keepEvaluated, record, awaiting]
          · obtain ⟨world, sent | failed⟩ :=
              sendCompositorOrFatal_cases callbacks
                ((c.keepEvaluated operation evaluated).inPhase
                  .awaitingCompositor) evaluated
            · rw [sent]
              refine .after (.advance operation effective hactive ?_
                (answered operation.proposed ?_)) (.here ?_ ?_)
              · simp [List.findSome?_cons, CoordinatorEvent.evaluation]
              · simp [pendingPolicySnapshot, hactive, awaiting]
              · simp [protocol, effectivePhase, keepEvaluated, record]
              · simp [record]
            · rw [failed]
              refine .after (.halt evaluated occupied) (.here ?_ ?_) <;>
                simp [protocol, effectivePhase, keepEvaluated, record]

theorem policyRejected_reaches (resumable : c.Resumable) :
    Reaches (rules callbacks answers) c.protocol (c.policyRejected callbacks).1 := by
  unfold policyRejected
  cases hactive : c.active with
  | none => exact ⟨.refl, resumable⟩
  | some operation =>
      simp only
      split
      · exact ⟨.refl, resumable⟩
      · rename_i awaiting
        simp only [ne_eq, not_not] at awaiting
        refine finish_failed_reaches callbacks c ?_ hactive
        simp [awaiting, GivesUp]

theorem compositorAccepted_reaches (resumable : c.Resumable) :
    Reaches (rules callbacks answers) c.protocol (c.compositorAccepted callbacks).1 := by
  unfold compositorAccepted
  cases hactive : c.active with
  | none => exact ⟨.refl, resumable⟩
  | some operation =>
      have occupied : c.active.isSome := by simp [hactive]
      simp only
      split
      · rename_i awaiting
        have effective : c.effectivePhase = .awaitingCompositor := by
          simp [effectivePhase, awaiting]
        split
        · exact beginRollback_reaches callbacks c (.inr awaiting) occupied
        · rename_i wanted
          simp only [Bool.not_eq_true] at wanted
          obtain ⟨world, committed⟩ : ∃ world, (c.commit callbacks).1 =
              c.withWorld world := by
            unfold commit
            split <;> exact ⟨_, rfl⟩
          split
          · rename_i failed hcommit
            have unchanged : failed = c.withWorld world := by
              rw [← committed, hcommit]
            rw [unchanged]
            refine .after (.halt c.evaluated occupied) (.here ?_ ?_) <;>
              simp [protocol, effectivePhase, fatal]
          · rename_i stored hcommit
            have unchanged : stored = c.withWorld world := by
              rw [← committed, hcommit]
            rw [unchanged]
            exact finish_succeeded_reaches callbacks (c.withWorld world)
              awaiting hactive wanted
      · split
        · rename_i rolling
          refine finish_failed_reaches callbacks c ?_ hactive
          simp [rolling, GivesUp]
        · exact ⟨.refl, resumable⟩

theorem compositorRejected_reaches (resumable : c.Resumable) :
    Reaches (rules callbacks answers) c.protocol (c.compositorRejected callbacks).1 := by
  unfold compositorRejected
  split
  · exact ⟨.refl, resumable⟩
  · rename_i ready
    simp only [not_or, not_not, Option.isNone_iff_eq_none] at ready
    exact beginRollback_reaches callbacks c (.inr ready.1)
      (Option.isSome_iff_ne_none.mpr ready.2)

theorem peerDisconnected_reaches (resumable : c.Resumable) :
    Reaches allowed c.protocol c.peerDisconnected := by
  unfold peerDisconnected
  split
  · exact ⟨.refl, resumable⟩
  · rename_i working
    simp only [not_or] at working
    obtain ⟨notFatal, notIdle, present⟩ := working
    refine ⟨?_, fun _ => ⟨notIdle, notFatal, present⟩⟩
    have same : c.protocol = ({ c with
        resumePhase := c.phase, phase := .waitingForPeer } :
          LifecycleCoordinator ω).protocol := by
      simp [protocol, effectivePhase, present]
    exact same ▸ .refl

theorem peerSynchronized_reaches (resumable : c.Resumable)
    (occupied : c.phase = .waitingForPeer → c.active.isSome) :
    Reaches (rules callbacks answers) c.protocol (c.peerSynchronized callbacks).1 := by
  unfold peerSynchronized
  split
  · exact ⟨.refl, resumable⟩
  · rename_i away
    simp only [ne_eq, not_not] at away
    have effective : c.effectivePhase = c.resumePhase := by
      simp [effectivePhase, away]
    obtain ⟨notIdle, notFatal, present⟩ := resumable away
    obtain ⟨operation, active⟩ := Option.isSome_iff_exists.mp (occupied away)
    -- a failed send halts in every phase; the successful ones differ
    have halted : ∀ world, Reaches (rules callbacks answers) c.protocol
        (((c.inPhase c.resumePhase).withWorld world).inPhase .fatal) :=
      fun world => .after (.halt c.evaluated (occupied away)) (.here
        (by simp [protocol, effectivePhase]) (by simp))
    simp only
    split
    · rename_i hresume
      rw [active, Option.map_some, Option.getD_some]
      obtain ⟨world, sent | failed⟩ := sendPolicyOrFatal_cases callbacks
        (c.inPhase c.resumePhase) operation.proposed
      · rw [sent]
        refine .after (.propose operation (effective.trans hresume) active)
          (.here ?_ ?_) <;>
          simp [protocol, effectivePhase, record, away, hresume]
      · rw [failed]
        exact halted world
    · rename_i hresume
      obtain ⟨world, sent | failed⟩ := sendPolicyOrFatal_cases callbacks
        (c.inPhase c.resumePhase) c.committed
      · rw [sent]
        refine .after (.rollBackPolicy
          (.inr (.inr (effective.trans hresume))) (occupied away))
          (.here ?_ ?_) <;>
          simp [protocol, effectivePhase, record, hresume]
      · rw [failed]
        exact halted world
    · rename_i hresume
      obtain ⟨world, sent | failed⟩ := sendCompositorOrFatal_cases callbacks
        (c.inPhase c.resumePhase) c.evaluated
      · rw [sent]
        refine .after (.present (effective.trans hresume)) (.here ?_ ?_) <;>
          simp [protocol, effectivePhase, record, away, hresume]
      · rw [failed]
        exact halted world
    · have hresume : c.resumePhase = .rollingBackCompositor := by
        cases h : c.resumePhase <;> simp_all
      obtain ⟨world, sent | failed⟩ := sendCompositorOrFatal_cases callbacks
        (c.inPhase c.resumePhase) c.committed
      · rw [sent]
        refine .after (.rollBackCompositor
          (.inr (effective.trans hresume)) (occupied away))
          (.here ?_ ?_) <;>
          simp [protocol, effectivePhase, record, hresume]
      · rw [failed]
        exact halted world

theorem cancelClient_reaches (client : Nat) (resumable : c.Resumable) :
    Reaches allowed c.protocol (c.cancelClient client) :=
  ⟨.single (.cancel client), resumable⟩

theorem replaceCommitted_reaches (committed : LifecycleSnapshot)
    (resumable : c.Resumable) :
    Reaches allowed c.protocol (c.replaceCommitted committed).1 := by
  unfold replaceCommitted
  split
  · rename_i replaceable
    simp only [canReplaceCommitted, Bool.and_eq_true, decide_eq_true_eq,
      Option.isNone_iff_eq_none] at replaceable
    have effective : c.effectivePhase = .idle := by
      simp [effectivePhase, replaceable.1]
    exact ⟨.single (.replace committed effective replaceable.2), resumable⟩
  · exact ⟨.refl, resumable⟩

end

/-! ## Whole runs -/

/-- What holds of a coordinator between two calls. -/
structure Invariant (start : LifecycleSnapshot) (c : LifecycleCoordinator ω) :
    Prop where
  sound : LifecycleProtocol.Invariant start c.protocol
  cancel : LifecycleProtocol.CancelInvariant c.protocol
  resumable : c.Resumable

theorem Invariant.free {start : LifecycleSnapshot}
    {c : LifecycleCoordinator ω} (holds : c.Invariant start)
    (idle : c.phase = .idle) : c.active = none := by
  have effective : c.effectivePhase = .idle := by
    simp [effectivePhase, idle]
  exact (holds.sound.activePhase (by simp [protocol, effective])).mpr
    effective

theorem Invariant.occupied {start : LifecycleSnapshot}
    {c : LifecycleCoordinator ω} (holds : c.Invariant start)
    (away : c.phase = .waitingForPeer) : c.active.isSome := by
  have effective : c.effectivePhase = c.resumePhase := by
    simp [effectivePhase, away]
  obtain ⟨notIdle, notFatal, _⟩ := holds.resumable away
  refine Option.isSome_iff_ne_none.mpr fun free => notIdle ?_
  rw [← effective]
  exact (holds.sound.activePhase
    (by simpa [protocol, effective] using notFatal)).mp free

/-- A policy answer that the call brings answers the pending proposal. -/
def Answered (answers : LifecycleSnapshot → LifecycleSnapshot → Prop)
    (c : LifecycleCoordinator ω) : CoordinatorInput ω → Prop
  | .policyAccepted evaluated =>
      ∀ pending, c.pendingPolicySnapshot = some pending →
        answers pending evaluated
  | _ => True

/-- The simulation: each call is a run of the protocol. -/
theorem step_reaches (callbacks : LifecycleCallbacks ω)
    {start : LifecycleSnapshot} {c : LifecycleCoordinator ω}
    (holds : c.Invariant start) (input : CoordinatorInput ω)
    (answered : c.Answered answers input) :
    Reaches (rules callbacks answers) c.protocol (c.step callbacks input) := by
  have resumable := holds.resumable
  cases input with
  | enqueue operation =>
      exact c.enqueue_reaches callbacks operation resumable holds.free
  | enqueuePaused operation =>
      exact c.enqueuePaused_reaches operation resumable
  | enqueuePriority operation =>
      exact c.enqueuePriority_reaches callbacks operation resumable holds.free
  | enqueuePriorityPaused operation =>
      exact c.enqueuePriorityPaused_reaches operation resumable
  | resume => exact c.resume_reaches callbacks resumable
  | policyAccepted evaluated =>
      exact c.policyAccepted_reaches callbacks evaluated resumable answered
  | policyRejected => exact c.policyRejected_reaches callbacks resumable
  | compositorAccepted =>
      exact c.compositorAccepted_reaches callbacks resumable
  | compositorRejected =>
      exact c.compositorRejected_reaches callbacks resumable
  | peerDisconnected => exact c.peerDisconnected_reaches resumable
  | peerSynchronized =>
      exact c.peerSynchronized_reaches callbacks resumable holds.occupied
  | cancelClient client => exact c.cancelClient_reaches client resumable
  | replaceCommitted committed =>
      exact c.replaceCommitted_reaches committed resumable
  | environment world => exact ⟨.refl, resumable⟩

theorem Invariant.step {callbacks : LifecycleCallbacks ω}
    {start : LifecycleSnapshot} {c : LifecycleCoordinator ω}
    (holds : c.Invariant start) (input : CoordinatorInput ω) :
    (c.step callbacks input).Invariant start := by
  have unrestricted : c.Answered (fun _ _ => True) input := by
    cases input <;> simp [Answered]
  obtain ⟨run, resumable⟩ := step_reaches callbacks holds input unrestricted
  exact ⟨run.preserves holds.sound, run.preserves_cancel holds.cancel,
    resumable⟩

theorem Invariant.initial (committed : LifecycleSnapshot)
    (maximumPending : Nat) (world : ω) :
    (initial committed maximumPending world).Invariant committed := by
  refine ⟨⟨?_, ?_, ?_, ?_, ?_, ?_, ?_, ?_, ?_, ?_, ?_⟩, ⟨?_, ?_, ?_⟩, ?_⟩
  all_goals simp [LifecycleCoordinator.initial, protocol, effectivePhase,
    LifecycleProtocol.pending, History.storedSnapshot, Resumable,
    History.reachedCompositor, History.runningTokens, History.AllJustified,
    History.CancelsRespected]

theorem Invariant.run {callbacks : LifecycleCallbacks ω}
    {start : LifecycleSnapshot} {c : LifecycleCoordinator ω}
    (holds : c.Invariant start) (inputs : List (CoordinatorInput ω)) :
    (Library.run (LifecycleCoordinator.step callbacks) c inputs).Invariant
      start :=
  Library.run_preserves (fun _ input held => held.step input) holds inputs

end LifecycleCoordinator

end Glasswyrm.Lifecycle
