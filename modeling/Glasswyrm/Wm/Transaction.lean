import Glasswyrm.Library.Run
import Glasswyrm.Wm.PolicyEngine

namespace Glasswyrm.Wm

open Lifecycle Output Library

/-! The window manager's transactions: edits are staged in a pending state,
which a commit evaluates and, if it is accepted, makes the committed one. -/

structure Transaction where
  pending : RawState := {}
  committedRaw : RawState := {}
  committedPolicy : PolicyState := {}
  preSnapshot : Option RawState := none
  snapshotActive : Bool := false
deriving DecidableEq

namespace Transaction

/-- `none` where the source returns false, with the transaction as it was. -/
def beginSnapshot (transaction : Transaction) : Option Transaction :=
  if transaction.snapshotActive then none
  else
    some { transaction with
      preSnapshot := some transaction.pending
      pending := {}
      snapshotActive := true }

def endSnapshot (transaction : Transaction) : Option Transaction :=
  if !transaction.snapshotActive || !transaction.pending.hasContext then none
  else
    some { transaction with
      pending := { transaction.pending with complete := true }
      snapshotActive := false
      preSnapshot := none }

def abortSnapshot (transaction : Transaction) : Option Transaction :=
  if !transaction.snapshotActive then none
  else
    transaction.preSnapshot.map fun saved =>
      { transaction with
        pending := saved
        preSnapshot := none
        snapshotActive := false }

/-- Edits are taken into a snapshot, or on top of a complete state. -/
def staging (transaction : Transaction) : Bool :=
  transaction.snapshotActive || transaction.committedRaw.complete

/-- The records that are filed in the pending state. -/
inductive Edit
  | context (value : Context)
  | output (value : OutputContext)
  | hint (value : WindowOutputHint)
  | window (value : RawWindow)
deriving DecidableEq

def upsertContext (snapshotActive : Bool) (pending : RawState)
    (context : Context) : Option RawState :=
  if snapshotActive && pending.hasContext then none
  else some { pending with context, hasContext := true }

def upsertOutput (pending : RawState) (output : OutputContext) :
    Option RawState :=
  if !pending.outputs.contains output.outputId &&
      pending.outputs.size ≥ maximumOutputs then none
  else
    some { pending with
      outputs := pending.outputs.insert output.outputId output }

def upsertHint (pending : RawState) (hint : WindowOutputHint) :
    Option RawState :=
  if !pending.outputHints.contains hint.windowId &&
      pending.outputHints.size ≥ maximumWindows then none
  else
    some { pending with
      outputHints := pending.outputHints.insert hint.windowId hint }

def upsertWindow (pending : RawState) (window : RawWindow) :
    Option RawState :=
  if !pending.windows.contains window.windowId &&
      pending.windows.size ≥ maximumWindows then none
  else
    some { pending with
      windows := pending.windows.insert window.windowId window }

def Edit.apply (snapshotActive : Bool) (pending : RawState) :
    Edit → Option RawState
  | .context value => upsertContext snapshotActive pending value
  | .output value => upsertOutput pending value
  | .hint value => upsertHint pending value
  | .window value => upsertWindow pending value

def upsert (transaction : Transaction) (edit : Edit) : Option Transaction :=
  if !transaction.staging then none
  else
    (edit.apply transaction.snapshotActive transaction.pending).map
      fun pending => { transaction with pending }

def remove (transaction : Transaction) (windowId : Nat) :
    Option Transaction :=
  if transaction.snapshotActive || !transaction.committedRaw.complete ||
      windowId = 0 || !transaction.pending.windows.contains windowId then none
  else
    some { transaction with
      pending := { transaction.pending with
        windows := transaction.pending.windows.erase windowId
        outputHints := transaction.pending.outputHints.erase windowId } }

def candidate (transaction : Transaction) (generation : Nat) : RawState :=
  { transaction.pending with producerGeneration := generation }

/-- The evaluation that a commit returns. -/
def judge (transaction : Transaction) (generation : Nat)
    (preflight : PolicyState → Bool) : Evaluation :=
  if transaction.snapshotActive then { error := .incompleteSnapshot }
  else if generation = 0 ||
      (transaction.committedRaw.producerGeneration ≠ 0 &&
        generation < transaction.committedRaw.producerGeneration) then
    { error := .invalidWindow }
  else
    let evaluated := evaluate (transaction.candidate generation) generation
    if evaluated.error ≠ .none then evaluated
    else if !preflight evaluated.policy then { error := .outputFailure }
    else evaluated

def commit (transaction : Transaction) (generation : Nat)
    (preflight : PolicyState → Bool) : Transaction × Evaluation :=
  let evaluated := transaction.judge generation preflight
  if evaluated.error ≠ .none then (transaction, evaluated)
  else
    ({ transaction with
        committedRaw := transaction.candidate generation
        committedPolicy := evaluated.policy
        pending := transaction.candidate generation }, evaluated)

/-! ## Runs -/

inductive Operation
  | beginSnapshot
  | endSnapshot
  | abortSnapshot
  | upsert (edit : Edit)
  | remove (windowId : Nat)
  | commit (generation : Nat) (preflight : PolicyState → Bool)

/-- `none` when the operation fails. -/
def apply (transaction : Transaction) : Operation → Option Transaction
  | .beginSnapshot => transaction.beginSnapshot
  | .endSnapshot => transaction.endSnapshot
  | .abortSnapshot => transaction.abortSnapshot
  | .upsert edit => transaction.upsert edit
  | .remove windowId => transaction.remove windowId
  | .commit generation preflight =>
      let (next, evaluated) := transaction.commit generation preflight
      if evaluated.error = .none then some next else none

def step (transaction : Transaction) (operation : Operation) : Transaction :=
  (transaction.apply operation).getD transaction

/-- What is committed. -/
structure Committed where
  raw : RawState := {}
  policy : PolicyState := {}
deriving DecidableEq

def committed (transaction : Transaction) : Committed where
  raw := transaction.committedRaw
  policy := transaction.committedPolicy

/-- The staged state that an operation commits. -/
def accepted (transaction : Transaction) : Operation → Option RawState
  | .commit generation preflight =>
      if (transaction.judge generation preflight).error = .none then
        some (transaction.candidate generation)
      else none
  | _ => none

/-- A staged state with its evaluation. -/
def promoted (raw : RawState) : Committed where
  raw := raw
  policy := (evaluate raw raw.producerGeneration).policy

/-- A refused commit returns the transaction as it was, like every other
operation that fails. -/
theorem commit_refused {transaction : Transaction} {generation : Nat}
    {preflight : PolicyState → Bool}
    (refused : (transaction.judge generation preflight).error ≠ .none) :
    transaction.commit generation preflight =
      (transaction, transaction.judge generation preflight) := by
  simp only [commit, if_pos refused]

/-- An accepted evaluation is that of the staged state. -/
theorem judge_accepted {transaction : Transaction} {generation : Nat}
    {preflight : PolicyState → Bool}
    (accepting : (transaction.judge generation preflight).error = .none) :
    transaction.judge generation preflight =
      evaluate (transaction.candidate generation) generation := by
  revert accepting
  fun_cases judge transaction generation preflight with
  | case1 active => exact fun impossible => by cases impossible
  | case2 inactive stale => exact fun impossible => by cases impossible
  | case3 inactive fresh evaluated refused =>
      exact fun accepting => absurd accepting refused
  | case4 inactive fresh evaluated sound refused =>
      exact fun impossible => by cases impossible
  | case5 => exact fun _ => rfl

theorem commit_accepted {transaction : Transaction} {generation : Nat}
    {preflight : PolicyState → Bool}
    (accepting : (transaction.judge generation preflight).error = .none) :
    transaction.commit generation preflight =
      ({ transaction with
          committedRaw := transaction.candidate generation
          committedPolicy := (transaction.judge generation preflight).policy
          pending := transaction.candidate generation },
        transaction.judge generation preflight) := by
  simp only [commit, accepting, ne_eq, not_true, if_false]

/-- The committed state changes only in a commit that is accepted, and then to
the staged state and its evaluation. -/
theorem step_committed (transaction : Transaction) (operation : Operation) :
    (transaction.step operation).committed =
      ((transaction.accepted operation).map promoted).getD
        transaction.committed := by
  cases operation with
  | beginSnapshot =>
      simp only [step, apply, beginSnapshot, accepted]
      split <;> rfl
  | endSnapshot =>
      simp only [step, apply, endSnapshot, accepted]
      split <;> rfl
  | abortSnapshot =>
      simp only [step, apply, abortSnapshot, accepted]
      split
      · rfl
      · cases transaction.preSnapshot <;> rfl
  | upsert edit =>
      simp only [step, apply, upsert, accepted]
      split
      · rfl
      · cases edit.apply transaction.snapshotActive transaction.pending <;> rfl
  | remove windowId =>
      simp only [step, apply, remove, accepted]
      split <;> rfl
  | commit generation preflight =>
      by_cases accepting :
          (transaction.judge generation preflight).error = .none
      · have evaluated := judge_accepted accepting
        rw [step, apply, commit_accepted accepting, accepted,
          if_pos accepting]
        simp only [accepting, if_true, Option.getD_some, Option.map_some]
        rw [committed, promoted, evaluated]
        rfl
      · rw [step, apply, commit_refused accepting, accepted,
          if_neg accepting]
        simp [accepting]

/-- An operation that fails has no effect. -/
theorem step_of_failed {transaction : Transaction} {operation : Operation}
    (failed : transaction.apply operation = none) :
    transaction.step operation = transaction := by
  rw [step, failed, Option.getD_none]

/-- The staged states that a run commits, in order. -/
def acceptedAlong : Transaction → List Operation → List RawState
  | _, [] => []
  | transaction, operation :: rest =>
      (transaction.accepted operation).toList ++
        acceptedAlong (transaction.step operation) rest

/-- The last staged state that was accepted decides what is committed. -/
theorem run_committed (transaction : Transaction)
    (operations : List Operation) :
    (run step transaction operations).committed =
      ((transaction.acceptedAlong operations).getLast?.map promoted).getD
        transaction.committed := by
  induction operations generalizing transaction with
  | nil => rfl
  | cons operation rest ih =>
      rw [run_cons, ih, step_committed, acceptedAlong, List.getLast?_append]
      cases (transaction.step operation).acceptedAlong rest |>.getLast? with
      | some last => rfl
      | none =>
          cases transaction.accepted operation <;> rfl

/-! ## Whole transactions -/

/-- The operations up to a commit, with the commit. -/
structure StagedTransaction where
  operations : List Operation
  generation : Nat
  preflight : PolicyState → Bool

def StagedTransaction.all (staged : StagedTransaction) : List Operation :=
  staged.operations ++ [.commit staged.generation staged.preflight]

/-- The transactions of a run whose commit is accepted. -/
def acceptedTransactions :
    Transaction → List StagedTransaction → List StagedTransaction
  | _, [] => []
  | transaction, staged :: rest =>
      let ready := run step transaction staged.operations
      let next := ready.step (.commit staged.generation staged.preflight)
      if (ready.judge staged.generation staged.preflight).error = .none then
        staged :: acceptedTransactions next rest
      else acceptedTransactions next rest

/-- Two runs that accept the same transactions commit the same. -/
def Determined (admitted : StagedTransaction → Prop) : Prop :=
  ∀ first second : List StagedTransaction,
    (∀ staged ∈ first ++ second, admitted staged) →
      acceptedTransactions {} first = acceptedTransactions {} second →
        (run step {} (first.flatMap StagedTransaction.all)).committed =
          (run step {} (second.flatMap StagedTransaction.all)).committed

def Edit.isContext : Edit → Bool
  | .context _ => true
  | _ => false

/-- The operations that stage a complete snapshot, after any number of
snapshots that are aborted. -/
inductive StagesSnapshot : List Edit → List Operation → Prop
  | complete {edits : List Edit} (contextual : edits.any Edit.isContext) :
      StagesSnapshot edits
        (.beginSnapshot :: edits.map .upsert ++ [.endSnapshot])
  | aborted {edits : List Edit} {rest : List Operation} (dropped : List Edit)
      (stages : StagesSnapshot edits rest) :
      StagesSnapshot edits
        (.beginSnapshot :: dropped.map .upsert ++ .abortSnapshot :: rest)

def Edit.stage (pending : RawState) (edit : Edit) : RawState :=
  (edit.apply true pending).getD pending

/-- What a complete snapshot stages. -/
def stagedSnapshot (edits : List Edit) : RawState :=
  { edits.foldl Edit.stage {} with complete := true }

theorem Edit.stage_hasContext {pending : RawState} (edit : Edit)
    (present : pending.hasContext = true) :
    (edit.stage pending).hasContext = true := by
  cases edit with
  | context value => simp [stage, apply, upsertContext, present]
  | output value =>
      simp only [stage, apply, upsertOutput]
      split <;> exact present
  | hint value =>
      simp only [stage, apply, upsertHint]
      split <;> exact present
  | window value =>
      simp only [stage, apply, upsertWindow]
      split <;> exact present

theorem foldl_stage_hasContext {edits : List Edit} {pending : RawState}
    (contextual : pending.hasContext = true ∨ edits.any Edit.isContext) :
    (edits.foldl Edit.stage pending).hasContext = true := by
  induction edits generalizing pending with
  | nil => simpa using contextual
  | cons edit rest ih =>
      refine ih ?_
      rcases contextual with present | contextual
      · exact .inl (edit.stage_hasContext present)
      · rw [List.any_cons, Bool.or_eq_true] at contextual
        refine contextual.imp_left fun isContext => ?_
        cases edit with
        | context value =>
            cases present : pending.hasContext <;>
              simp [Edit.stage, Edit.apply, upsertContext, present]
        | output value => cases isContext
        | hint value => cases isContext
        | window value => cases isContext

/-- The edits of an open snapshot are staged. -/
theorem run_edits {transaction : Transaction}
    (active : transaction.snapshotActive = true) (edits : List Edit) :
    run step transaction (edits.map .upsert) =
      { transaction with
        pending := edits.foldl Edit.stage transaction.pending } := by
  induction edits generalizing transaction with
  | nil => rfl
  | cons edit rest ih =>
      have staged : transaction.step (.upsert edit) =
          { transaction with pending := edit.stage transaction.pending } := by
        simp only [step, apply, upsert, staging, active, Bool.true_or,
          Bool.not_true, Bool.false_eq_true, if_false, Edit.stage]
        cases edit.apply true transaction.pending with
        | none => simp [← active]
        | some pending => rfl
      rw [List.map_cons, run_cons, staged, ih, List.foldl_cons]
      exact active

theorem step_beginSnapshot {transaction : Transaction}
    (inactive : transaction.snapshotActive = false) :
    transaction.step .beginSnapshot =
      { transaction with
        preSnapshot := some transaction.pending
        pending := {}
        snapshotActive := true } := by
  simp [step, apply, beginSnapshot, inactive]

/-- A snapshot stages the same state wherever it is staged. -/
theorem StagesSnapshot.ready {edits : List Edit}
    {operations : List Operation} (stages : StagesSnapshot edits operations)
    {transaction : Transaction}
    (inactive : transaction.snapshotActive = false) :
    run step transaction operations =
      { transaction with
        pending := stagedSnapshot edits
        preSnapshot := none } := by
  induction stages generalizing transaction with
  | complete contextual =>
      have present := @foldl_stage_hasContext edits {} (.inr contextual)
      rw [List.cons_append, run_cons, step_beginSnapshot inactive, run_concat,
        run_edits rfl]
      simp [step, apply, endSnapshot, present, stagedSnapshot, inactive]
  | aborted dropped stages ih =>
      rw [List.cons_append, run_cons, step_beginSnapshot inactive, run_append,
        run_edits rfl, run_cons]
      have restored := @ih { transaction with preSnapshot := none } inactive
      simpa [step, apply, abortSnapshot, inactive] using restored

theorem step_commit_snapshotActive (transaction : Transaction)
    (generation : Nat) (preflight : PolicyState → Bool) :
    (transaction.step (.commit generation preflight)).snapshotActive =
      transaction.snapshotActive := by
  by_cases accepting : (transaction.judge generation preflight).error = .none
  · rw [step, apply, commit_accepted accepting]
    simp [accepting]
  · rw [step, apply, commit_refused accepting]
    simp [accepting]

/-- A transaction that stages a complete snapshot. -/
def StagedTransaction.Complete (staged : StagedTransaction) : Prop :=
  ∃ edits, StagesSnapshot edits staged.operations

/-- What a transaction stages on its own. -/
def StagedTransaction.candidate (staged : StagedTransaction) : RawState :=
  (run step {} staged.operations).candidate staged.generation

theorem StagedTransaction.Complete.ready {staged : StagedTransaction}
    (complete : staged.Complete) {transaction : Transaction}
    (inactive : transaction.snapshotActive = false) :
    let ready := run step transaction staged.operations
    ready.candidate staged.generation = staged.candidate ∧
      ready.snapshotActive = false ∧
      ready.committed = transaction.committed := by
  obtain ⟨edits, stages⟩ := complete
  have alone : run step {} staged.operations =
      { pending := stagedSnapshot edits } := stages.ready rfl
  refine ⟨?_, ?_, ?_⟩
  · rw [stages.ready inactive, candidate, alone]
    rfl
  · rw [stages.ready inactive]
    exact inactive
  · rw [stages.ready inactive]
    rfl

/-- Where every transaction stages a complete snapshot, the last accepted one
decides what is committed. -/
theorem run_transactions {transaction : Transaction}
    (inactive : transaction.snapshotActive = false)
    {transactions : List StagedTransaction}
    (complete : ∀ staged ∈ transactions, staged.Complete) :
    (run step transaction
        (transactions.flatMap StagedTransaction.all)).committed =
      ((acceptedTransactions transaction transactions).getLast?.map
        fun staged => promoted staged.candidate).getD transaction.committed := by
  induction transactions generalizing transaction with
  | nil => rfl
  | cons staged rest ih =>
      obtain ⟨here, others⟩ := List.forall_mem_cons.mp complete
      obtain ⟨candidate, still, unchanged⟩ := here.ready inactive
      rw [List.flatMap_cons, run_append, StagedTransaction.all, run_concat,
        acceptedTransactions]
      generalize run step transaction staged.operations = ready at *
      rw [ih ((step_commit_snapshotActive _ _ _).trans still) others,
        step_committed, unchanged, accepted]
      by_cases accepting :
          (ready.judge staged.generation staged.preflight).error = .none
      · simp only [if_pos accepting, List.getLast?_cons, candidate]
        cases (acceptedTransactions _ rest).getLast? <;> rfl
      · simp only [if_neg accepting]
        rfl

theorem complete_determined :
    Determined StagedTransaction.Complete := by
  intro first second complete same
  obtain ⟨firstComplete, secondComplete⟩ := List.forall_mem_append.mp complete
  rw [run_transactions rfl firstComplete, run_transactions rfl secondComplete,
    same]

/-- What is committed changes only in a commit that is accepted, and then to
the staged state and its evaluation; it is decided by the staged states that
are accepted, and by the accepted transactions where each of them stages a
complete snapshot. -/
theorem commits_only_accepted (operations : List Operation) :
    let transaction := run step {} operations
    (∀ operation,
      (transaction.step operation).committed =
          ((transaction.accepted operation).map promoted).getD
            transaction.committed ∧
        (transaction.apply operation = none →
          transaction.step operation = transaction)) ∧
      (∀ others : List Operation,
        acceptedAlong {} operations = acceptedAlong {} others →
          transaction.committed = (run step {} others).committed) ∧
      Determined StagedTransaction.Complete := by
  intro transaction
  refine ⟨fun operation => ⟨step_committed transaction operation,
    step_of_failed⟩, fun others same => ?_, complete_determined⟩
  rw [run_committed, run_committed, same]

/-- A context on which a snapshot without windows is accepted. -/
def workArea (width : Nat) : Context where
  rootWindowId := 1
  workspaceId := 1
  outputId := 1
  workWidth := width
  workHeight := 480

def bootstrap : StagedTransaction where
  operations :=
    [.beginSnapshot, .upsert (.context (workArea 640)), .endSnapshot]
  generation := 2
  preflight _ := true

/-- An edit whose commit is refused for its generation. -/
def staleEdit : StagedTransaction where
  operations := [.upsert (.context (workArea 800))]
  generation := 1
  preflight _ := true

def emptyTransaction : StagedTransaction where
  operations := []
  generation := 2
  preflight _ := true

/-- The edits of a refused commit stay pending, so the next transaction commits
them with its own. -/
theorem refused_edits_stay_pending : ¬Determined fun _ => True := by
  intro determined
  have edited : acceptedTransactions {}
      [bootstrap, staleEdit, emptyTransaction] =
        [bootstrap, emptyTransaction] := by
    rw [acceptedTransactions, if_pos (by decide), acceptedTransactions,
      if_neg (by decide), acceptedTransactions, if_pos (by decide),
      acceptedTransactions]
  have plain : acceptedTransactions {} [bootstrap, emptyTransaction] =
      [bootstrap, emptyTransaction] := by
    rw [acceptedTransactions, if_pos (by decide), acceptedTransactions,
      if_pos (by decide), acceptedTransactions]
  have same := determined [bootstrap, staleEdit, emptyTransaction]
    [bootstrap, emptyTransaction] (fun _ _ => trivial) (edited.trans plain.symm)
  have differ : (run step {} ([bootstrap, staleEdit,
      emptyTransaction].flatMap StagedTransaction.all)).committed.raw ≠
    (run step {} ([bootstrap,
      emptyTransaction].flatMap StagedTransaction.all)).committed.raw := by
    decide
  exact differ (congrArg Committed.raw same)

end Transaction

end Glasswyrm.Wm
