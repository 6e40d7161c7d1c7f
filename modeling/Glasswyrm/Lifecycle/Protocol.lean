import Mathlib.Logic.Relation
import Mathlib.Data.List.Perm.Basic
import Glasswyrm.Lifecycle.Coordinator

namespace Glasswyrm.Lifecycle

/-! What the coordinator is for, without its callbacks, its queue discipline
and its interrupted phases: operations are taken up one at a time, evaluated by
the policy peer, accepted by the compositor peer and then stored, or undone at
both peers. -/

/-! ## Reading a history -/

namespace CoordinatorEvent

def enqueuedToken : CoordinatorEvent → Option Nat
  | .enqueued operation => some operation.token
  | _ => none

def completedToken : CoordinatorEvent → Option Nat
  | .completed token _ => some token
  | _ => none

def successfulToken : CoordinatorEvent → Option Nat
  | .completed token true => some token
  | _ => none

def committedToken : CoordinatorEvent → Option Nat
  | .committed operation _ => some operation.token
  | _ => none

def policySnapshot : CoordinatorEvent → Option LifecycleSnapshot
  | .policySent snapshot => some snapshot
  | _ => none

def compositorSnapshot : CoordinatorEvent → Option LifecycleSnapshot
  | .compositorSent snapshot => some snapshot
  | _ => none

def evaluation : CoordinatorEvent → Option (Nat × LifecycleSnapshot)
  | .policyReturned token evaluated => some (token, evaluated)
  | _ => none

def storedSnapshot : CoordinatorEvent → Option LifecycleSnapshot
  | .committed _ snapshot => some snapshot
  | .replaced snapshot => some snapshot
  | _ => none

end CoordinatorEvent

namespace History

abbrev enqueuedTokens (history : List CoordinatorEvent) : List Nat :=
  history.filterMap CoordinatorEvent.enqueuedToken

abbrev completedTokens (history : List CoordinatorEvent) : List Nat :=
  history.filterMap CoordinatorEvent.completedToken

abbrev successfulTokens (history : List CoordinatorEvent) : List Nat :=
  history.filterMap CoordinatorEvent.successfulToken

abbrev committedTokens (history : List CoordinatorEvent) : List Nat :=
  history.filterMap CoordinatorEvent.committedToken

abbrev lastPolicySent (history : List CoordinatorEvent) :
    Option LifecycleSnapshot :=
  history.findSome? CoordinatorEvent.policySnapshot

abbrev lastCompositorSent (history : List CoordinatorEvent) :
    Option LifecycleSnapshot :=
  history.findSome? CoordinatorEvent.compositorSnapshot

abbrev lastEvaluation (history : List CoordinatorEvent) :
    Option (Nat × LifecycleSnapshot) :=
  history.findSome? CoordinatorEvent.evaluation

/-- The committed snapshot of a run that began with `start`. -/
def storedSnapshot (start : LifecycleSnapshot)
    (history : List CoordinatorEvent) : LifecycleSnapshot :=
  (history.findSome? CoordinatorEvent.storedSnapshot).getD start

/-- Whether a snapshot went to the compositor peer since the last operation
was started. -/
def reachedCompositor : List CoordinatorEvent → Bool
  | [] => false
  | .compositorSent _ :: _ => true
  | .started _ :: _ => false
  | .completed _ _ :: _ => false
  | _ :: earlier => reachedCompositor earlier

/-- The operations that were started and have not completed. -/
def runningTokens : List CoordinatorEvent → List Nat
  | [] => []
  | .started operation :: earlier => operation.token :: runningTokens earlier
  | .completed token _ :: earlier => (runningTokens earlier).erase token
  | _ :: earlier => runningTokens earlier

/-- The tokens whose client was canceled after they were enqueued. -/
def canceledTokens : List CoordinatorEvent → List Nat
  | [] => []
  | .clientCanceled client :: earlier =>
      earlier.filterMap
          (fun
            | .enqueued operation =>
                if operation.clientId = client then some operation.token
                else none
            | _ => none) ++
        canceledTokens earlier
  | _ :: earlier => canceledTokens earlier

/-- The last snapshot that each peer received is the committed one. -/
def PeersRestored (start : LifecycleSnapshot)
    (history : List CoordinatorEvent) : Prop :=
  lastPolicySent history = some (storedSnapshot start history) ∧
    lastCompositorSent history = some (storedSnapshot start history)

/-- What each event presupposes of the events before it. -/
def Justified (start : LifecycleSnapshot) (earlier : List CoordinatorEvent) :
    CoordinatorEvent → Prop
  | .committed operation snapshot =>
      operation.canceled = false ∧
        lastEvaluation earlier = some (operation.token, snapshot)
  | .completed token true =>
      ∃ operation snapshot, operation.token = token ∧
        earlier.head? = some (.committed operation snapshot)
  | .completed _ false =>
      reachedCompositor earlier = true → PeersRestored start earlier
  | _ => True

def AllJustified (start : LifecycleSnapshot) :
    List CoordinatorEvent → Prop
  | [] => True
  | event :: earlier =>
      Justified start earlier event ∧ AllJustified start earlier

/-- No operation is stored after its client was canceled. -/
def CancelsRespected : List CoordinatorEvent → Prop
  | [] => True
  | .committed operation _ :: earlier =>
      operation.token ∉ canceledTokens earlier ∧ CancelsRespected earlier
  | _ :: earlier => CancelsRespected earlier

theorem CancelsRespected.split {later earlier : List CoordinatorEvent}
    {operation : LifecycleOperation} {snapshot : LifecycleSnapshot}
    (respected : CancelsRespected
      (later ++ .committed operation snapshot :: earlier)) :
    operation.token ∉ canceledTokens earlier := by
  induction later with
  | nil => exact respected.1
  | cons head rest ih =>
      cases head with
      | committed _ _ => exact ih respected.2
      | _ => exact ih respected

theorem canceledTokens_subset (history : List CoordinatorEvent) :
    canceledTokens history ⊆ enqueuedTokens history := by
  induction history with
  | nil => simp [canceledTokens]
  | cons head rest ih =>
      intro token member
      cases head with
      | clientCanceled client =>
          rcases List.mem_append.mp member with own | older
          · obtain ⟨event, found, same⟩ := List.mem_filterMap.mp own
            refine List.mem_filterMap.mpr ⟨event, .tail _ found, ?_⟩
            cases event <;> simp_all [CoordinatorEvent.enqueuedToken]
          · exact ih older
      | enqueued operation =>
          exact List.mem_cons_of_mem operation.token (ih member)
      | _ => exact ih member

/-- Distinct tokens identify the operation that was enqueued. -/
theorem enqueued_unique {history : List CoordinatorEvent}
    (distinct : (enqueuedTokens history).Nodup)
    {first second : LifecycleOperation}
    (hfirst : .enqueued first ∈ history)
    (hsecond : .enqueued second ∈ history)
    (same : first.token = second.token) : first = second := by
  have member : ∀ {operation : LifecycleOperation}
      {events : List CoordinatorEvent}, .enqueued operation ∈ events →
        operation.token ∈ enqueuedTokens events :=
    fun found => List.mem_filterMap.mpr ⟨_, found, rfl⟩
  induction history with
  | nil => simp at hfirst
  | cons head rest ih =>
      cases head with
      | enqueued operation =>
          obtain ⟨fresh, later⟩ := List.nodup_cons.mp distinct
          simp only [List.mem_cons, CoordinatorEvent.enqueued.injEq]
            at hfirst hsecond
          rcases hfirst with rfl | hfirst <;> rcases hsecond with rfl | hsecond
          · rfl
          · exact absurd (same ▸ member hsecond) fresh
          · exact absurd (same ▸ member hfirst) fresh
          · exact ih later hfirst hsecond
      | _ =>
          simp only [List.mem_cons, reduceCtorEq, false_or] at hfirst hsecond
          exact ih distinct hfirst hsecond

theorem AllJustified.split {start : LifecycleSnapshot}
    {later earlier : List CoordinatorEvent} {event : CoordinatorEvent}
    (all : AllJustified start (later ++ event :: earlier)) :
    Justified start earlier event := by
  induction later with
  | nil => exact all.1
  | cons head rest ih => exact ih all.2

end History

/-! ## The protocol -/

structure LifecycleProtocol where
  committed : LifecycleSnapshot
  evaluated : LifecycleSnapshot
  queue : List LifecycleOperation
  active : Option LifecycleOperation
  phase : CoordinatorPhase
  history : List CoordinatorEvent

namespace LifecycleProtocol

def pending (s : LifecycleProtocol) : List LifecycleOperation :=
  s.active.toList ++ s.queue

/-- The phases in which an operation that was not stored is given up: the
policy refused it, or both peers are back at the committed snapshot. -/
def GivesUp : CoordinatorPhase → Prop
  | .awaitingPolicy | .rollingBackCompositor => True
  | _ => False

/-- What a run takes from outside the coordinator: the proposals that a rebase
may give, and the snapshots that may answer a proposal. -/
structure Rules where
  rebases : LifecycleSnapshot → LifecycleOperation → LifecycleSnapshot → Prop
  answers : LifecycleSnapshot → LifecycleSnapshot → Prop

inductive Transition (rules : Rules) :
    LifecycleProtocol → LifecycleProtocol → Prop
  | enqueue {s : LifecycleProtocol} (operation : LifecycleOperation)
      (queue : List LifecycleOperation)
      (inserted : queue.Perm (operation :: s.queue)) :
      Transition rules s { s with
        queue := queue
        history := .enqueued operation :: s.history }
  | start {s : LifecycleProtocol} (operation : LifecycleOperation)
      (rest : List LifecycleOperation) (proposed : LifecycleSnapshot)
      (idle : s.phase = .idle) (free : s.active = none)
      (next : s.queue = operation :: rest)
      (rebased : rules.rebases s.committed operation proposed) :
      Transition rules s { s with
        queue := rest
        active := some { operation with proposed := proposed }
        phase := .awaitingPolicy
        history := .started operation :: s.history }
  | refuse {s : LifecycleProtocol} (operation : LifecycleOperation)
      (rest : List LifecycleOperation)
      (idle : s.phase = .idle) (free : s.active = none)
      (next : s.queue = operation :: rest) :
      Transition rules s { s with
        queue := rest
        evaluated := {}
        history := .completed operation.token false ::
          .started operation :: s.history }
  | drop {s : LifecycleProtocol} (operation : LifecycleOperation)
      (rest : List LifecycleOperation)
      (idle : s.phase = .idle) (free : s.active = none)
      (next : s.queue = operation :: rest)
      (canceled : operation.canceled = true) :
      Transition rules s { s with
        queue := rest
        history := .completed operation.token false :: s.history }
  | propose {s : LifecycleProtocol} (operation : LifecycleOperation)
      (awaiting : s.phase = .awaitingPolicy)
      (active : s.active = some operation) :
      Transition rules s { s with
        history := .policySent operation.proposed :: s.history }
  | evaluate {s : LifecycleProtocol} (operation : LifecycleOperation)
      (evaluated : LifecycleSnapshot)
      (awaiting : s.phase = .awaitingPolicy)
      (active : s.active = some operation) :
      Transition rules s { s with
        evaluated := evaluated
        history := .policyReturned operation.token evaluated :: s.history }
  | advance {s : LifecycleProtocol} (operation : LifecycleOperation)
      (awaiting : s.phase = .awaitingPolicy)
      (active : s.active = some operation)
      (current : History.lastEvaluation s.history =
        some (operation.token, s.evaluated))
      (answered : rules.answers operation.proposed s.evaluated) :
      Transition rules s { s with
        phase := .awaitingCompositor
        history := .compositorSent s.evaluated :: s.history }
  | present {s : LifecycleProtocol}
      (awaiting : s.phase = .awaitingCompositor) :
      Transition rules s { s with
        history := .compositorSent s.evaluated :: s.history }
  | rollBackPolicy {s : LifecycleProtocol}
      (begun : s.phase = .awaitingPolicy ∨ s.phase = .awaitingCompositor ∨
        s.phase = .rollingBackPolicy) (occupied : s.active.isSome) :
      Transition rules s { s with
        phase := .rollingBackPolicy
        history := .policySent s.committed :: s.history }
  | rollBackCompositor {s : LifecycleProtocol}
      (begun : s.phase = .rollingBackPolicy ∨
        s.phase = .rollingBackCompositor) (occupied : s.active.isSome) :
      Transition rules s { s with
        phase := .rollingBackCompositor
        history := .compositorSent s.committed :: s.history }
  | giveUp {s : LifecycleProtocol} (operation : LifecycleOperation)
      (undone : GivesUp s.phase) (active : s.active = some operation) :
      Transition rules s { s with
        evaluated := {}
        active := none
        phase := .idle
        history := .completed operation.token false :: s.history }
  | store {s : LifecycleProtocol} (operation : LifecycleOperation)
      (accepted : s.phase = .awaitingCompositor)
      (active : s.active = some operation)
      (wanted : operation.canceled = false) :
      Transition rules s { s with
        committed := s.evaluated
        evaluated := {}
        active := none
        phase := .idle
        history := .completed operation.token true ::
          .committed operation s.evaluated :: s.history }
  | replace {s : LifecycleProtocol} (committed : LifecycleSnapshot)
      (idle : s.phase = .idle) (free : s.active = none) :
      Transition rules s { s with
        committed := committed
        history := .replaced committed :: s.history }
  | cancel {s : LifecycleProtocol} (client : Nat) :
      Transition rules s { s with
        queue := s.queue.map (LifecycleCoordinator.cancelOperation client)
        active := s.active.map (LifecycleCoordinator.cancelOperation client)
        history := .clientCanceled client :: s.history }
  | halt {s : LifecycleProtocol} (evaluated : LifecycleSnapshot)
      (occupied : s.active.isSome) :
      Transition rules s { s with evaluated := evaluated, phase := .fatal }

abbrev Run (rules : Rules) := Relation.ReflTransGen (Transition rules)

variable {rules : Rules}

/-- The invariant of the protocol in a run that began with `start`. -/
structure Invariant (start : LifecycleSnapshot) (s : LifecycleProtocol) :
    Prop where
  activePhase : s.phase ≠ .fatal → (s.active = none ↔ s.phase = .idle)
  uninterrupted : s.phase ≠ .waitingForPeer
  running : History.runningTokens s.history =
    s.active.toList.map (·.token)
  conserved : (History.enqueuedTokens s.history).Perm
    (History.completedTokens s.history ++ s.pending.map (·.token))
  successful : History.successfulTokens s.history =
    History.committedTokens s.history
  stored : History.storedSnapshot start s.history = s.committed
  evaluatedActive : s.phase = .awaitingCompositor →
    ∃ operation, s.active = some operation ∧
      History.lastEvaluation s.history = some (operation.token, s.evaluated)
  unreached : s.phase = .idle ∨ s.phase = .awaitingPolicy →
    History.reachedCompositor s.history = false
  policyRestored :
    s.phase = .rollingBackPolicy ∨ s.phase = .rollingBackCompositor →
      History.lastPolicySent s.history = some s.committed
  compositorRestored : s.phase = .rollingBackCompositor →
    History.lastCompositorSent s.history = some s.committed
  justified : History.AllJustified start s.history

/-! ## Each transition keeps the invariant -/

@[simp] theorem cancelOperation_token (client : Nat)
    (operation : LifecycleOperation) :
    (LifecycleCoordinator.cancelOperation client operation).token =
      operation.token := by
  unfold LifecycleCoordinator.cancelOperation
  split <;> rfl

/-- Moving the active token behind the completed ones keeps the balance. -/
theorem conserved_of_completed {enqueued completed rest : List Nat}
    {token : Nat}
    (balance : enqueued.Perm (completed ++ token :: rest)) :
    enqueued.Perm (token :: completed ++ rest) :=
  balance.trans List.perm_middle

/-- The active operation is the only one that runs. -/
theorem Invariant.erased {start : LifecycleSnapshot} {s : LifecycleProtocol}
    (holds : Invariant start s) {operation : LifecycleOperation}
    (active : s.active = some operation) :
    (History.runningTokens s.history).erase operation.token = [] := by
  rw [holds.running, active, Option.toList_some, List.map_singleton,
    List.erase_cons_head]

theorem Invariant.completed {start : LifecycleSnapshot} {s : LifecycleProtocol}
    (holds : Invariant start s) {operation : LifecycleOperation}
    (active : s.active = some operation) :
    (History.enqueuedTokens s.history).Perm
      (operation.token :: History.completedTokens s.history ++
        s.queue.map (·.token)) := by
  have balance := holds.conserved
  rw [pending, active] at balance
  exact conserved_of_completed balance

theorem Invariant.dropped {start : LifecycleSnapshot} {s : LifecycleProtocol}
    (holds : Invariant start s) {operation : LifecycleOperation}
    {rest : List LifecycleOperation} (free : s.active = none)
    (next : s.queue = operation :: rest) :
    (History.enqueuedTokens s.history).Perm
      (operation.token :: History.completedTokens s.history ++
        (s.active.toList ++ rest).map (·.token)) := by
  have balance := holds.conserved
  rw [pending, free, next] at balance
  rw [free]
  exact conserved_of_completed balance

theorem Transition.preserves {start : LifecycleSnapshot}
    {s t : LifecycleProtocol} (transition : Transition rules s t)
    (holds : Invariant start s) : Invariant start t := by
  cases transition with
  | enqueue operation queue inserted =>
      refine { holds with
        conserved := ?_
        justified := ⟨trivial, holds.justified⟩ }
      have balance := holds.conserved
      have tokens := inserted.map (·.token)
      simp only [pending, List.map_append, List.map_cons] at balance tokens ⊢
      refine (balance.cons operation.token).trans ?_
      refine List.Perm.trans ?_ ((tokens.symm.append_left _).append_left _)
      refine List.perm_middle.symm.trans ?_
      exact List.Perm.append_left _ List.perm_middle.symm
  | start operation rest proposed idle free next rebased =>
      refine { holds with
        activePhase := fun _ => ⟨nofun, nofun⟩
        uninterrupted := nofun
        running := ?_
        conserved := ?_
        evaluatedActive := nofun
        unreached := fun _ => rfl
        policyRestored := nofun
        compositorRestored := nofun
        justified := ⟨trivial, holds.justified⟩ }
      · have none_running := holds.running
        rw [free] at none_running
        exact congrArg (operation.token :: ·) none_running
      · have balance := holds.conserved
        rw [pending, free, next] at balance
        exact balance
  | refuse operation rest idle free next =>
      refine { holds with
        running := ?_
        conserved := holds.dropped free next
        evaluatedActive := fun awaiting =>
          absurd (idle.symm.trans awaiting) nofun
        unreached := fun _ => rfl
        justified := ⟨nofun, trivial, holds.justified⟩ }
      · have none_running := holds.running
        rw [History.runningTokens, History.runningTokens,
          List.erase_cons_head]
        exact none_running
  | drop operation rest idle free next canceled =>
      refine { holds with
        running := ?_
        conserved := holds.dropped free next
        evaluatedActive := fun awaiting =>
          absurd (idle.symm.trans awaiting) nofun
        unreached := fun _ => rfl
        justified := ⟨fun reached => ?_, holds.justified⟩ }
      · have none_running := holds.running
        rw [free] at none_running
        rw [History.runningTokens, none_running, free]
        rfl
      · rw [holds.unreached (.inl idle)] at reached
        cases reached
  | propose operation awaiting active =>
      exact { holds with
        policyRestored := fun rolling => by
          rw [awaiting] at rolling
          exact nomatch rolling
        justified := ⟨trivial, holds.justified⟩ }
  | evaluate operation evaluated awaiting active =>
      exact { holds with
        evaluatedActive := fun accepted =>
          absurd (awaiting.symm.trans accepted) nofun
        justified := ⟨trivial, holds.justified⟩ }
  | advance operation awaiting active current answered =>
      exact { holds with
        activePhase := fun _ =>
          ⟨fun free => absurd (active.symm.trans free) nofun, nofun⟩
        uninterrupted := nofun
        evaluatedActive := fun _ => ⟨operation, active, current⟩
        unreached := nofun
        policyRestored := nofun
        compositorRestored := nofun
        justified := ⟨trivial, holds.justified⟩ }
  | present awaiting =>
      exact { holds with
        unreached := fun early => by
          rw [awaiting] at early
          exact nomatch early
        compositorRestored := fun rolling =>
          absurd (awaiting.symm.trans rolling) nofun
        justified := ⟨trivial, holds.justified⟩ }
  | rollBackPolicy begun occupied =>
      exact { holds with
        activePhase := fun _ =>
          ⟨fun free => absurd free (Option.isSome_iff_ne_none.mp occupied),
            nofun⟩
        uninterrupted := nofun
        evaluatedActive := nofun
        unreached := nofun
        policyRestored := fun _ => rfl
        compositorRestored := nofun
        justified := ⟨trivial, holds.justified⟩ }
  | rollBackCompositor begun occupied =>
      exact { holds with
        activePhase := fun _ =>
          ⟨fun free => absurd free (Option.isSome_iff_ne_none.mp occupied),
            nofun⟩
        uninterrupted := nofun
        evaluatedActive := nofun
        unreached := nofun
        policyRestored := fun _ => holds.policyRestored begun
        compositorRestored := fun _ => rfl
        justified := ⟨trivial, holds.justified⟩ }
  | giveUp operation undone active =>
      refine { holds with
        activePhase := fun _ => ⟨fun _ => rfl, fun _ => rfl⟩
        uninterrupted := nofun
        running := holds.erased active
        conserved := holds.completed active
        evaluatedActive := nofun
        unreached := fun _ => rfl
        policyRestored := nofun
        compositorRestored := nofun
        justified := ⟨fun reached => ?_, holds.justified⟩ }
      -- the policy refused the operation before the compositor saw it, or both
      -- peers are back
      cases phase : s.phase with
      | awaitingPolicy =>
          rw [holds.unreached (.inr phase)] at reached
          cases reached
      | rollingBackCompositor =>
          rw [History.PeersRestored, holds.stored]
          exact ⟨holds.policyRestored (.inr phase),
            holds.compositorRestored phase⟩
      | _ => rw [phase] at undone; exact undone.elim
  | store operation accepted active wanted =>
      obtain ⟨same, found, current⟩ := holds.evaluatedActive accepted
      obtain rfl := Option.some.inj (active.symm.trans found)
      exact { holds with
        activePhase := fun _ => ⟨fun _ => rfl, fun _ => rfl⟩
        uninterrupted := nofun
        running := holds.erased active
        conserved := holds.completed active
        successful := congrArg (operation.token :: ·) holds.successful
        stored := rfl
        evaluatedActive := nofun
        unreached := fun _ => rfl
        policyRestored := nofun
        compositorRestored := nofun
        justified := ⟨⟨operation, s.evaluated, rfl, rfl⟩, ⟨wanted, current⟩,
          holds.justified⟩ }
  | replace committed idle free =>
      exact { holds with
        stored := rfl
        policyRestored := fun rolling => by
          rw [idle] at rolling
          exact nomatch rolling
        compositorRestored := fun rolling =>
          absurd (idle.symm.trans rolling) nofun
        justified := ⟨trivial, holds.justified⟩ }
  | cancel client =>
      have active_tokens : (s.active.map
          (LifecycleCoordinator.cancelOperation client)).toList.map
            (·.token) = s.active.toList.map (·.token) := by
        cases s.active with
        | none => rfl
        | some operation =>
            exact congrArg ([·]) (cancelOperation_token client operation)
      have queue_tokens : (s.queue.map
          (LifecycleCoordinator.cancelOperation client)).map (·.token) =
            s.queue.map (·.token) := by
        rw [List.map_map]
        exact List.map_congr_left fun operation _ =>
          cancelOperation_token client operation
      refine { holds with
        activePhase := fun sound => ?_
        running := holds.running.trans active_tokens.symm
        conserved := ?_
        evaluatedActive := fun awaiting => ?_
        justified := ⟨trivial, holds.justified⟩ }
      · rw [Option.map_eq_none_iff]
        exact holds.activePhase sound
      · have balance := holds.conserved
        rw [pending, List.map_append] at balance ⊢
        rw [active_tokens, queue_tokens]
        exact balance
      · obtain ⟨operation, found, current⟩ := holds.evaluatedActive awaiting
        refine ⟨LifecycleCoordinator.cancelOperation client operation, ?_, ?_⟩
        · rw [found, Option.map_some]
        · rw [cancelOperation_token]
          exact current
  | halt evaluated occupied =>
      exact { holds with
        activePhase := fun sound => absurd rfl sound
        uninterrupted := nofun
        evaluatedActive := nofun
        unreached := nofun
        policyRestored := nofun
        compositorRestored := nofun }

theorem Run.preserves {start : LifecycleSnapshot} {s t : LifecycleProtocol}
    (run : Run rules s t) (holds : Invariant start s) : Invariant start t := by
  induction run with
  | refl => exact holds
  | tail _ transition ih => exact transition.preserves ih

/-! ## Cancellation

With distinct tokens, a pending operation whose client was canceled carries
the flag, so none of them is stored. -/

structure CancelInvariant (s : LifecycleProtocol) : Prop where
  recorded : ∀ operation ∈ s.pending, ∃ enqueued,
    .enqueued enqueued ∈ s.history ∧ enqueued.token = operation.token ∧
      enqueued.clientId = operation.clientId
  flagged : (History.enqueuedTokens s.history).Nodup →
    ∀ operation ∈ s.pending,
      operation.token ∈ History.canceledTokens s.history →
        operation.canceled = true
  respected : (History.enqueuedTokens s.history).Nodup →
    History.CancelsRespected s.history

theorem cancelOperation_canceled {client : Nat}
    {operation : LifecycleOperation} (own : operation.clientId = client) :
    (LifecycleCoordinator.cancelOperation client operation).canceled = true :=
  by simp [LifecycleCoordinator.cancelOperation, own]

theorem cancelOperation_keeps (client : Nat)
    {operation : LifecycleOperation} (canceled : operation.canceled = true) :
    (LifecycleCoordinator.cancelOperation client operation).canceled = true :=
  by
  unfold LifecycleCoordinator.cancelOperation
  split
  · rfl
  · exact canceled

@[simp] theorem cancelOperation_clientId (client : Nat)
    (operation : LifecycleOperation) :
    (LifecycleCoordinator.cancelOperation client operation).clientId =
      operation.clientId := by
  unfold LifecycleCoordinator.cancelOperation
  split <;> rfl

/-- A transition that enqueues and cancels nothing, and stores nothing that was
canceled, keeps the flags of the operations that stay. -/
theorem CancelInvariant.passes {s t : LifecycleProtocol}
    (holds : CancelInvariant s) (events : List CoordinatorEvent)
    (history : t.history = events ++ s.history)
    (fewer : ∀ operation ∈ t.pending, ∃ older ∈ s.pending,
      older.token = operation.token ∧ older.clientId = operation.clientId ∧
        older.canceled = operation.canceled)
    (tokens : History.enqueuedTokens t.history =
      History.enqueuedTokens s.history)
    (canceled : History.canceledTokens t.history =
      History.canceledTokens s.history)
    (respected : (History.enqueuedTokens s.history).Nodup →
      History.CancelsRespected s.history →
        History.CancelsRespected t.history) : CancelInvariant t where
  recorded := by
    intro operation member
    obtain ⟨older, found, token, client, _⟩ := fewer operation member
    obtain ⟨enqueued, place, sameToken, sameClient⟩ :=
      holds.recorded older found
    refine ⟨enqueued, ?_, sameToken.trans token, sameClient.trans client⟩
    rw [history]
    exact List.mem_append_right events place
  flagged := by
    intro distinct operation member flag
    obtain ⟨older, found, token, _, same⟩ := fewer operation member
    rw [tokens] at distinct
    rw [canceled, ← token] at flag
    exact same.symm.trans (holds.flagged distinct older found flag)
  respected := by
    intro distinct
    rw [tokens] at distinct
    exact respected distinct (holds.respected distinct)

/-- The operations that are pending still, as they were. -/
theorem pending_kept {operations : List LifecycleOperation}
    {s : LifecycleProtocol} (kept : operations ⊆ s.pending) :
    ∀ operation ∈ operations, ∃ older ∈ s.pending,
      older.token = operation.token ∧ older.clientId = operation.clientId ∧
        older.canceled = operation.canceled :=
  fun operation member => ⟨operation, kept member, rfl, rfl, rfl⟩

/-- Without its first operation the queue has nothing new. -/
theorem pending_rest {s : LifecycleProtocol} {operation : LifecycleOperation}
    {rest : List LifecycleOperation} (next : s.queue = operation :: rest) :
    s.active.toList ++ rest ⊆ s.pending := by
  rw [pending, next]
  intro other member
  rcases List.mem_append.mp member with active | queued
  · exact List.mem_append_left _ active
  · exact List.mem_append_right _ (List.mem_cons_of_mem _ queued)

theorem Transition.preserves_cancel {s t : LifecycleProtocol}
    (transition : Transition rules s t) (holds : CancelInvariant s) :
    CancelInvariant t := by
  cases transition with
  | enqueue operation queue inserted =>
      have pendingCases : ∀ other ∈ s.active.toList ++ queue,
          other = operation ∨ other ∈ s.active.toList ++ s.queue := by
        intro other member
        rcases List.mem_append.mp member with active | queued
        · exact .inr (List.mem_append_left _ active)
        · rcases List.mem_cons.mp (inserted.mem_iff.mp queued) with same | older
          · exact .inl same
          · exact .inr (List.mem_append_right _ older)
      refine ⟨?_, ?_, ?_⟩
      · intro other member
        rcases pendingCases other member with rfl | older
        · exact ⟨other, .head _, rfl, rfl⟩
        · obtain ⟨enqueued, found, same⟩ := holds.recorded other older
          exact ⟨enqueued, .tail _ found, same⟩
      · intro distinct other member canceled
        obtain ⟨fresh, earlier⟩ := List.nodup_cons.mp distinct
        rcases pendingCases other member with rfl | older
        · exact absurd (History.canceledTokens_subset s.history canceled) fresh
        · exact holds.flagged earlier other older canceled
      · intro distinct
        exact holds.respected (List.nodup_cons.mp distinct).2
  | start operation rest proposed idle free next rebased =>
      refine holds.passes [.started operation] rfl ?_ rfl rfl fun _ => id
      intro other member
      rcases List.mem_cons.mp member with rfl | later
      · refine ⟨operation, ?_, rfl, rfl, rfl⟩
        rw [pending, next]
        exact List.mem_append_right _ List.mem_cons_self
      · refine ⟨other, ?_, rfl, rfl, rfl⟩
        exact pending_rest next (List.mem_append_right _ later)
  | refuse operation rest idle free next =>
      exact holds.passes
        [.completed operation.token false, .started operation] rfl
        (pending_kept (pending_rest next)) rfl rfl fun _ => id
  | drop operation rest idle free next canceled =>
      exact holds.passes [.completed operation.token false] rfl
        (pending_kept (pending_rest next)) rfl rfl fun _ => id
  | propose operation awaiting active =>
      exact holds.passes [.policySent operation.proposed] rfl
        (pending_kept (List.Subset.refl _)) rfl rfl fun _ => id
  | evaluate operation evaluated awaiting active =>
      exact holds.passes [.policyReturned operation.token evaluated] rfl
        (pending_kept (List.Subset.refl _)) rfl rfl fun _ => id
  | advance operation awaiting active current answered =>
      exact holds.passes [.compositorSent s.evaluated] rfl
        (pending_kept (List.Subset.refl _)) rfl rfl fun _ => id
  | present awaiting =>
      exact holds.passes [.compositorSent s.evaluated] rfl
        (pending_kept (List.Subset.refl _)) rfl rfl fun _ => id
  | rollBackPolicy begun occupied =>
      exact holds.passes [.policySent s.committed] rfl
        (pending_kept (List.Subset.refl _)) rfl rfl fun _ => id
  | rollBackCompositor begun occupied =>
      exact holds.passes [.compositorSent s.committed] rfl
        (pending_kept (List.Subset.refl _)) rfl rfl fun _ => id
  | giveUp operation undone active =>
      exact holds.passes [.completed operation.token false] rfl
        (pending_kept (List.subset_append_right _ _)) rfl rfl fun _ => id
  | store operation accepted active wanted =>
      refine holds.passes
        [.completed operation.token true, .committed operation s.evaluated] rfl
        (pending_kept (List.subset_append_right _ _)) rfl rfl
        fun distinct respected => ⟨fun canceled => ?_, respected⟩
      have member : operation ∈ s.pending := by
        rw [pending, active]
        exact List.mem_cons_self
      have flag := holds.flagged distinct operation member canceled
      rw [wanted] at flag
      cases flag
  | replace committed idle free =>
      exact holds.passes [.replaced committed] rfl
        (pending_kept (List.Subset.refl _)) rfl rfl fun _ => id
  | cancel client =>
      have pendingCases : ∀ other ∈ (s.active.map
            (LifecycleCoordinator.cancelOperation client)).toList ++
            s.queue.map (LifecycleCoordinator.cancelOperation client),
          ∃ older ∈ s.pending,
            LifecycleCoordinator.cancelOperation client older = other := by
        intro other member
        rcases List.mem_append.mp member with active | queued
        · cases hactive : s.active with
          | none => simp [hactive] at active
          | some operation =>
              simp [hactive] at active
              refine ⟨operation, ?_, active.symm⟩
              rw [pending, hactive]
              exact List.mem_cons_self
        · obtain ⟨older, found, same⟩ := List.mem_map.mp queued
          exact ⟨older, List.mem_append_right _ found, same⟩
      refine ⟨?_, ?_, ?_⟩
      · intro other member
        obtain ⟨older, found, rfl⟩ := pendingCases other member
        obtain ⟨enqueued, place, same⟩ := holds.recorded older found
        exact ⟨enqueued, .tail _ place, by simpa using same⟩
      · intro distinct other member canceled
        obtain ⟨older, found, rfl⟩ := pendingCases other member
        obtain ⟨enqueued, place, sameToken, sameClient⟩ :=
          holds.recorded older found
        rcases List.mem_append.mp canceled with now | before
        · -- the canceled enqueue event is the one that recorded `older`
          obtain ⟨event, present, token⟩ := List.mem_filterMap.mp now
          cases event with
          | enqueued first =>
              obtain ⟨own, sameFirst⟩ : first.clientId = client ∧
                  first.token = older.token := by
                simpa using token
              have tokens : (History.enqueuedTokens s.history).Nodup :=
                distinct
              have same : first = enqueued :=
                History.enqueued_unique tokens present place
                  (sameFirst.trans sameToken.symm)
              exact cancelOperation_canceled
                (sameClient.symm.trans (same ▸ own))
          | _ => simp at token
        · exact cancelOperation_keeps client
            (holds.flagged distinct older found (by simpa using before))
      · intro distinct
        exact holds.respected distinct
  | halt evaluated occupied =>
      exact holds.passes [] rfl (pending_kept (List.Subset.refl _)) rfl rfl
        fun _ => id

theorem Run.preserves_cancel {s t : LifecycleProtocol} (run : Run rules s t)
    (holds : CancelInvariant s) : CancelInvariant t := by
  induction run with
  | refl => exact holds
  | tail _ transition ih => exact transition.preserves_cancel ih

end LifecycleProtocol

end Glasswyrm.Lifecycle
