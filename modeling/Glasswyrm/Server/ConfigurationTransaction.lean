import Glasswyrm.Server.CandidateLayout
import Glasswyrm.Server.OutputControl

namespace Glasswyrm.Server

open Output Compositor OutputConfigurationCoordinator OutputControlPeer

attribute [local irreducible] Output.validateLayout

/-! What the coordinator keeps between and during transactions: nothing but
the committed layout, and the transaction itself. -/

namespace OutputConfigurationCoordinator

/-- A coordinator that has committed a layout and remembers nothing else. -/
def fresh (inventory committed : OutputLayout) :
    OutputConfigurationCoordinator :=
  { start inventory with committedLayout := committed }

/-- The coordinator in the middle of a transaction. -/
def during (inventory committed : OutputLayout)
    (stage : OutputConfigurationStage)
    (transaction : OutputConfigurationTransaction)
    (rollbackResult : OutputConfigurationResult) :
    OutputConfigurationCoordinator :=
  { fresh inventory committed with
    stage, transaction := some transaction, rollbackResult }

end OutputConfigurationCoordinator

/-- The stages of a transaction. -/
def pendingStage : OutputConfigurationStage → Bool
  | .policyPending | .compositorPending | .commitReady | .rollbackPending =>
      true
  | _ => false

structure PendingTransaction (inventory committed : OutputLayout)
    (coordinator : OutputConfigurationCoordinator)
    (transaction : OutputConfigurationTransaction) : Prop where
  shape : ∃ stage rollbackResult, pendingStage stage = true ∧
    rollbackResult ≠ .accepted ∧ coordinator =
      .during inventory committed stage transaction rollbackResult
  request : transaction.configurationId ≠ 0
  oldLayout : transaction.oldLayout = committed
  proposed : ValidLayout transaction.proposedLayout
  generation : transaction.proposedLayout.generation = committed.generation + 1

/-- The coordinator between transactions, or in one. -/
inductive Consistent (inventory : OutputLayout)
    (coordinator : OutputConfigurationCoordinator) : Prop
  | idle (committed : ValidLayout coordinator.committedLayout)
      (clean : coordinator = .fresh inventory coordinator.committedLayout)
  | pending (transaction : OutputConfigurationTransaction)
      (committed : ValidLayout coordinator.committedLayout)
      (pending : PendingTransaction inventory coordinator.committedLayout
        coordinator transaction)

/-! ## The snapshot -/

/-- A coordinator whose staging is all that distinguishes it from a fresh
one. -/
structure Staging (inventory committed : OutputLayout)
    (coordinator : OutputConfigurationCoordinator) : Prop where
  idle : coordinator.transaction = none
  clears : coordinator.clearStaging = .fresh inventory committed
  refuses : coordinator.stagedResult ≠ .accepted

variable {inventory committed : OutputLayout}
  {coordinator : OutputConfigurationCoordinator}

theorem Staging.initial : Staging inventory committed
    (.fresh inventory committed) := ⟨rfl, rfl, nofun⟩

/-- The result of a refusal is a refusal. -/
theorem stagedResult_refuses (staged : OutputConfigurationResult) :
    (if staged = .unknownOutput then OutputConfigurationResult.unknownOutput
      else .invalidLayout) ≠ .accepted := by
  split <;> decide

namespace Staging

theorem committedLayout (staging : Staging inventory committed coordinator) :
    coordinator.committedLayout = committed :=
  congrArg OutputConfigurationCoordinator.committedLayout staging.clears

theorem inventory_eq (staging : Staging inventory committed coordinator) :
    coordinator.inventory = inventory :=
  congrArg OutputConfigurationCoordinator.inventory staging.clears

theorem valid_eq (staging : Staging inventory committed coordinator) :
    coordinator.valid = (validateLayout inventory).valid :=
  congrArg OutputConfigurationCoordinator.valid staging.clears

/-- A change of the staging alone. -/
theorem change (staging : Staging inventory committed coordinator)
    {next : OutputConfigurationCoordinator}
    (idle : next.transaction = coordinator.transaction)
    (clears : next.clearStaging = coordinator.clearStaging)
    (refuses : next.stagedResult ≠ .accepted) :
    Staging inventory committed next :=
  ⟨idle.trans staging.idle, clears.trans staging.clears, refuses⟩

theorem beginSnapshot (staging : Staging inventory committed coordinator)
    (snapshotId count : Nat) :
    Staging inventory committed
      (coordinator.beginSnapshot snapshotId count).2 := by
  unfold OutputConfigurationCoordinator.beginSnapshot
  split
  · exact staging
  · split
    · exact staging
    · refine staging.change rfl ?_ nofun
      simp [clearStaging, staging.idle]

/-- The failure of a record refuses the snapshot. -/
theorem recordFailure (staging : Staging inventory committed coordinator)
    {result : OutputConfigurationResult} (refuses : result ≠ .accepted) :
    Staging inventory committed (coordinator.recordFailure result) := by
  unfold OutputConfigurationCoordinator.recordFailure
  split
  · exact staging.change rfl rfl refuses
  · exact staging

theorem stageOutput (staging : Staging inventory committed coordinator)
    (value : OutputUpsert) :
    Staging inventory committed (coordinator.stageOutput value).2 := by
  have counted : Staging inventory committed
      { coordinator with itemCount := coordinator.itemCount + 1 } :=
    staging.change rfl rfl staging.refuses
  unfold OutputConfigurationCoordinator.stageOutput
  split
  · exact staging
  · split
    · exact staging.change rfl rfl nofun
    · simp only
      split
      · exact counted.recordFailure nofun
      · split
        · exact counted.recordFailure nofun
        · exact counted.change rfl rfl staging.refuses

theorem endSnapshot (staging : Staging inventory committed coordinator)
    (snapshotId count : Nat) :
    Staging inventory committed
      (coordinator.endSnapshot snapshotId count).2 := by
  unfold OutputConfigurationCoordinator.endSnapshot
  split
  · exact staging
  · simp only
    split
    · refine staging.change rfl ?_ (stagedResult_refuses _)
      simp [clearStaging, staging.idle]
    · refine staging.change rfl ?_ staging.refuses
      simp [clearStaging, staging.idle]

theorem handOver (staging : Staging inventory committed coordinator)
    (staged : StagedSnapshot) :
    Staging inventory committed
      (OutputControlPeer.handOver coordinator staged) := by
  have begun := staging.beginSnapshot staged.snapshotId staged.expectedCount
  unfold OutputControlPeer.handOver
  generalize coordinator.beginSnapshot staged.snapshotId staged.expectedCount =
    opened at begun ⊢
  obtain ⟨status, opened⟩ := opened
  simp only
  split
  · apply Staging.endSnapshot
    induction staged.outputs generalizing opened with
    | nil => exact begun
    | cons output rest ih => exact ih _ (begun.stageOutput output)
  · exact begun

end Staging

/-! ## Requests -/

/-- The two ways in which a request is judged: answered at once with nothing
remembered, or made a transaction. -/
inductive Judged (inventory committed : OutputLayout)
    (request : OutputConfigurationCommit) :
    Option OutputConfigurationAcknowledged × OutputConfigurationCoordinator →
      Prop
  | refused (result : OutputConfigurationResult) (fails : result ≠ .accepted) :
      Judged inventory committed request
        (some ((fresh inventory committed).acknowledgement
          request.configurationId result), .fresh inventory committed)
  | accepted (transaction : OutputConfigurationTransaction)
      (begun : PendingTransaction inventory committed
        (.during inventory committed .policyPending transaction
          .compositorRejected) transaction)
      (identified : transaction.configurationId = request.configurationId) :
      Judged inventory committed request
        (none, .during inventory committed .policyPending transaction
          .compositorRejected)

theorem configureOutputs_refuses {staged : KeyMap OutputUpsert}
    {entries : List (Nat × OutputDescriptor)} {candidate : OutputLayout}
    {result : OutputConfigurationResult}
    (failed : configureOutputs committed staged entries candidate =
      .error result) : result ≠ .accepted := by
  induction entries generalizing candidate with
  | nil => cases failed
  | cons entry rest ih =>
      rw [configureOutputs] at failed
      split at failed
      · cases failed
        decide
      · split at failed
        · rename_i refused
          cases failed
          unfold configureOutput at refused
          grind
        · exact ih failed

theorem validationResult_refuses (error : LayoutValidationError) :
    validationResult error ≠ .accepted := by
  cases error <;> decide

theorem buildCandidate_refuses {staged : KeyMap OutputUpsert} {primary : Nat}
    {result : OutputConfigurationResult}
    (failed : buildCandidate inventory committed staged primary =
      .error result) : result ≠ .accepted := by
  unfold buildCandidate at failed
  split at failed
  · cases failed
    exact nofun
  · split at failed
    · cases failed
      exact nofun
    · split at failed
      · rename_i loop
        cases failed
        exact configureOutputs_refuses loop
      · simp only at failed
        split at failed
        · rename_i refusal
          cases failed
          exact refusal
        · split at failed
          · cases failed
          · cases failed
            exact validationResult_refuses _

/-- A transaction that begins clears the staging. -/
theorem Staging.begins (staging : Staging inventory committed coordinator)
    (transaction : OutputConfigurationTransaction) :
    { { coordinator with transaction := some transaction }.clearStaging with
      stage := OutputConfigurationStage.policyPending } =
      .during inventory committed .policyPending transaction
        .compositorRejected := by
  change { coordinator.clearStaging with
    transaction := some transaction, stage := .policyPending } = _
  rw [staging.clears]
  rfl

/-- A coordinator whose staging is not empty judges a request by it, and
forgets it. -/
theorem Staging.submit (staging : Staging inventory committed coordinator)
    (valid : (validateLayout inventory).valid = true)
    {request : OutputConfigurationCommit}
    (wellFormed : validCommit request = true) :
    Judged inventory committed request (coordinator.submit request) := by
  have answers : ∀ result, coordinator.acknowledgement request.configurationId
      result = (fresh inventory committed).acknowledgement
        request.configurationId result := by
    intro result
    rw [← staging.clears]
    rfl
  simp only [validCommit, Bool.and_eq_true, decide_eq_true_eq] at wellFormed
  obtain ⟨⟨⟨identified, _⟩, _⟩, unflagged⟩ := wellFormed
  unfold OutputConfigurationCoordinator.submit
  simp only [staging.idle, Option.isSome_none, Bool.false_eq_true, if_false,
    answers, staging.clears]
  rw [if_neg (by simp [staging.valid_eq, valid]),
    if_neg (by simp [identified, unflagged])]
  split
  · exact .refused .staleGeneration nofun
  · split
    · exact .refused _ (stagedResult_refuses _)
    · split
      · exact .refused _ staging.refuses
      · cases built : buildCandidate coordinator.inventory
            coordinator.committedLayout coordinator.stagedOutputs
            request.primaryOutputId with
        | error result => exact .refused _ (buildCandidate_refuses built)
        | ok candidate =>
            have accepted := buildCandidate_ok.mp built
            simp only
            rw [staging.begins]
            refine .accepted _ ⟨⟨.policyPending,
              .compositorRejected, rfl, nofun, rfl⟩, identified,
              staging.committedLayout, accepted.valid, ?_⟩ rfl
            exact staging.committedLayout ▸ accepted.proposed.generation

/-! ## Verdicts -/

/-- What the outcome of an exchange makes of the coordinator: nothing where it
does not apply, and otherwise the end of the transaction. -/
inductive Verdict (inventory : OutputLayout)
    (coordinator : OutputConfigurationCoordinator) :
    Option OutputConfigurationAcknowledged × OutputConfigurationCoordinator →
      Prop
  | kept : Verdict inventory coordinator (none, coordinator)
  | refused (transaction : OutputConfigurationTransaction)
      (pending : coordinator.transaction = some transaction)
      (result : OutputConfigurationResult) (fails : result ≠ .accepted) :
      Verdict inventory coordinator
        (some ((fresh inventory coordinator.committedLayout).acknowledgement
          transaction.configurationId result),
          .fresh inventory coordinator.committedLayout)
  | committed (transaction : OutputConfigurationTransaction)
      (pending : coordinator.transaction = some transaction) :
      Verdict inventory coordinator
        (some ((fresh inventory transaction.proposedLayout).acknowledgement
          transaction.configurationId .accepted),
          .fresh inventory transaction.proposedLayout)

namespace Consistent

/-- Between transactions there is none, and in one it is the pending one. -/
theorem cases_transaction (consistent : Consistent inventory coordinator) :
    (coordinator.transaction = none ∧
        coordinator = .fresh inventory coordinator.committedLayout) ∨
      ∃ transaction, coordinator.transaction = some transaction ∧
        PendingTransaction inventory coordinator.committedLayout coordinator
          transaction := by
  cases consistent with
  | idle _ clean => exact .inl ⟨clean ▸ rfl, clean⟩
  | pending transaction _ pending =>
      obtain ⟨stage, rollbackResult, _, _, shape⟩ := pending.shape
      exact .inr ⟨transaction, shape ▸ rfl, pending⟩

theorem committedValid (consistent : Consistent inventory coordinator) :
    ValidLayout coordinator.committedLayout := by
  cases consistent <;> assumption

/-- A request that finds no transaction is judged as by a fresh
coordinator. -/
theorem judge (consistent : Consistent inventory coordinator)
    (valid : (validateLayout inventory).valid = true)
    (idle : coordinator.transaction = none) (staged : StagedSnapshot)
    {request : OutputConfigurationCommit}
    (wellFormed : validCommit request = true) :
    Judged inventory coordinator.committedLayout request
      (OutputControlPeer.judge coordinator staged request) := by
  have clean : coordinator = .fresh inventory coordinator.committedLayout := by
    rcases consistent.cases_transaction with ⟨_, clean⟩ | ⟨_, some, _⟩
    · exact clean
    · rw [idle] at some
      cases some
  have staging : Staging inventory coordinator.committedLayout coordinator := by
    have initial : Staging inventory coordinator.committedLayout
      (.fresh inventory coordinator.committedLayout) := .initial
    rwa [← clean] at initial
  unfold OutputControlPeer.judge
  rw [if_neg (by simp [idle])]
  split
  · exact (staging.handOver staged).submit valid wellFormed
  · exact staging.submit valid wellFormed

/-- Ending a transaction leaves a fresh coordinator. -/
theorem clearTransaction (consistent : Consistent inventory coordinator) :
    coordinator.clearTransaction =
      .fresh inventory coordinator.committedLayout := by
  cases consistent with
  | idle _ clean =>
      rw [clean]
      rfl
  | pending transaction _ pending =>
      obtain ⟨stage, rollbackResult, _, _, shape⟩ := pending.shape
      rw [shape]
      rfl

/-- The answer to a transaction that is given up. -/
theorem refused (consistent : Consistent inventory coordinator)
    {transaction : OutputConfigurationTransaction}
    (pending : coordinator.transaction = some transaction)
    {result : OutputConfigurationResult} (fails : result ≠ .accepted) :
    Verdict inventory coordinator
      (some (coordinator.acknowledgement transaction.configurationId result),
        coordinator.clearTransaction) := by
  rw [consistent.clearTransaction]
  exact .refused transaction pending result fails

theorem rejectPolicy (consistent : Consistent inventory coordinator) :
    Verdict inventory coordinator coordinator.rejectPolicy := by
  unfold OutputConfigurationCoordinator.rejectPolicy
  split
  · rename_i transaction pending
    split
    · exact .kept
    · exact consistent.refused pending nofun
  · exact .kept

theorem failInternal (consistent : Consistent inventory coordinator) :
    Verdict inventory coordinator coordinator.failInternal := by
  unfold OutputConfigurationCoordinator.failInternal
  split
  · rename_i transaction pending
    exact consistent.refused pending nofun
  · exact .kept

theorem finishRollback (consistent : Consistent inventory coordinator)
    (succeeded : Bool) :
    Verdict inventory coordinator (coordinator.finishRollback succeeded) := by
  unfold OutputConfigurationCoordinator.finishRollback
  split
  · rename_i transaction pending
    split
    · exact .kept
    · apply consistent.refused pending
      cases consistent with
      | idle _ clean =>
          rw [clean] at pending
          cases pending
      | pending _ _ begun =>
          obtain ⟨stage, rollbackResult, _, fails, shape⟩ := begun.shape
          rw [shape]
          cases succeeded
          · exact nofun
          · exact fails
  · exact .kept

theorem commit (consistent : Consistent inventory coordinator) :
    Verdict inventory coordinator coordinator.commit := by
  unfold OutputConfigurationCoordinator.commit
  split
  · rename_i transaction pending
    split
    · exact .kept
    · cases consistent with
      | idle _ clean =>
          rw [clean] at pending
          cases pending
      | pending _ _ begun =>
          obtain ⟨stage, rollbackResult, _, _, shape⟩ := begun.shape
          have cleared : { coordinator with
              committedLayout := transaction.proposedLayout }.clearTransaction =
                .fresh inventory transaction.proposedLayout := by
            rw [shape]
            rfl
          simp only [cleared]
          exact .committed transaction pending
  · exact .kept

/-- A verdict keeps the coordinator consistent. -/
theorem verdict (consistent : Consistent inventory coordinator)
    {result : Option OutputConfigurationAcknowledged ×
      OutputConfigurationCoordinator}
    (verdict : Verdict inventory coordinator result) :
    Consistent inventory result.2 := by
  cases verdict with
  | kept => exact consistent
  | refused _ _ _ _ => exact .idle consistent.committedValid rfl
  | committed transaction pending =>
      rcases consistent.cases_transaction with ⟨none, _⟩ | ⟨other, some, begun⟩
      · rw [pending] at none
        cases none
      · obtain rfl := Option.some.inj (pending.symm.trans some)
        exact .idle begun.proposed rfl

end Consistent

/-! ## Progress -/

/-- A step of a transaction that is not its end. -/
structure Advances (coordinator next : OutputConfigurationCoordinator) :
    Prop where
  shape : ∃ stage rollbackResult, pendingStage stage = true ∧
    rollbackResult ≠ .accepted ∧
    next = { coordinator with stage, rollbackResult }
  pending : coordinator.transaction.isSome = true

theorem Consistent.advance (consistent : Consistent inventory coordinator)
    {next : OutputConfigurationCoordinator}
    (advances : next = coordinator ∨ Advances coordinator next) :
    Consistent inventory next ∧
      next.committedLayout = coordinator.committedLayout ∧
      next.transaction = coordinator.transaction := by
  rcases advances with rfl | ⟨⟨stage, rollbackResult, ongoing, fails, rfl⟩, some⟩
  · exact ⟨consistent, rfl, rfl⟩
  · refine ⟨?_, rfl, rfl⟩
    cases consistent with
    | idle _ clean =>
        rw [clean] at some
        cases some
    | pending transaction committed begun =>
        obtain ⟨_, _, _, _, shape⟩ := begun.shape
        refine .pending transaction committed ⟨⟨stage, rollbackResult, ongoing,
          fails, ?_⟩, begun.request, begun.oldLayout, begun.proposed,
          begun.generation⟩
        have same : ({ coordinator with stage, rollbackResult } :
            OutputConfigurationCoordinator) =
              { OutputConfigurationCoordinator.during inventory
                coordinator.committedLayout stage transaction
                rollbackResult with stage, rollbackResult } := by
          rw [shape]
          rfl
        exact same

theorem Consistent.rollbackResult_refuses
    (consistent : Consistent inventory coordinator) :
    coordinator.rollbackResult ≠ .accepted := by
  cases consistent with
  | idle _ clean =>
      rw [clean]
      exact nofun
  | pending _ _ begun =>
      obtain ⟨_, rollbackResult, _, fails, shape⟩ := begun.shape
      rw [shape]
      exact fails

theorem Consistent.acceptPolicy (consistent : Consistent inventory coordinator) :
    coordinator.acceptPolicy.2 = coordinator ∨
      Advances coordinator coordinator.acceptPolicy.2 := by
  unfold OutputConfigurationCoordinator.acceptPolicy
  split
  · exact .inl rfl
  · rename_i begun
    refine .inr ⟨⟨.compositorPending, _, rfl,
      consistent.rollbackResult_refuses, rfl⟩, ?_⟩
    simp only [Bool.or_eq_true, not_or] at begun
    exact Option.isSome_iff_ne_none.mpr fun none => begun.2 (by rw [none]; rfl)

theorem Consistent.acceptCompositor
    (consistent : Consistent inventory coordinator) :
    coordinator.acceptCompositor.2 = coordinator ∨
      Advances coordinator coordinator.acceptCompositor.2 := by
  unfold OutputConfigurationCoordinator.acceptCompositor
  split
  · exact .inl rfl
  · rename_i ready
    refine .inr ⟨⟨.commitReady, _, rfl,
      consistent.rollbackResult_refuses, rfl⟩, ?_⟩
    simp only [canAcceptCompositor, Bool.not_eq_true', Bool.not_eq_false,
      Bool.and_eq_true] at ready
    exact ready.2

theorem beginRollback_advances (rejection : OutputConfigurationResult) :
    (coordinator.beginRollback rejection).2 = coordinator ∨
      Advances coordinator (coordinator.beginRollback rejection).2 := by
  unfold OutputConfigurationCoordinator.beginRollback
  split
  · exact .inl rfl
  · rename_i ready
    simp only [canAcceptCompositor, Bool.or_eq_true, not_or,
      Bool.not_eq_true', Bool.not_eq_false, Bool.and_eq_true] at ready
    refine .inr ⟨⟨.rollbackPending, rejection, rfl, ?_, rfl⟩, ready.1.2⟩
    rintro rfl
    exact absurd ready.2 (by simp)

end Glasswyrm.Server
