import Glasswyrm.Library.Updates
import Glasswyrm.Lifecycle.Evaluation
import Glasswyrm.Lifecycle.Safety

namespace Glasswyrm.Lifecycle

/-! Concurrent operations as field-wise updates.  An operation is proposed from
the snapshot that is committed when it is enqueued; other operations may be
committed before its turn comes, and the rebase then decides whose values
stay. -/

abbrev WindowFields := ∀ key : Nat × WindowField, Option key.2.Value

abbrev FieldUpdate :=
  Library.Update fun key : Nat × WindowField => Option key.2.Value

def LifecycleSnapshot.fields (snapshot : LifecycleSnapshot) : WindowFields :=
  fun key => snapshot.read key.1 key.2

/-- The value an operation wants a field to have. -/
def LifecycleOperation.intended (operation : LifecycleOperation) (id : Nat)
    (field : WindowField) : Option field.Value :=
  if operation.kind = .destroy ∧ operation.window = id then none
  else operation.proposed.read id field

/-- The operation changed the field, relative to the snapshot it was proposed
from. -/
def LifecycleOperation.Changes (operation : LifecycleOperation)
    (base : LifecycleSnapshot) (id : Nat) (field : WindowField) : Prop :=
  operation.intended id field ≠ base.read id field

instance (field : WindowField) : DecidableEq field.Value := by
  cases field <;> infer_instance

/-- The answer of the policy peer gave the field a value of its own. -/
def recomputes (proposed evaluated : LifecycleSnapshot)
    (key : Nat × WindowField) : Bool :=
  key.2.policyApplied &&
    evaluated.read key.1 key.2 ≠ proposed.read key.1 key.2

/-- On the fields that are not recomputed, the rebase onto `committed` carries
over what the operation changed, and whatever else it copies is not out of
date. -/
structure LifecycleOperation.Merges (operation : LifecycleOperation)
    (base committed : LifecycleSnapshot)
    (recomputed : Nat × WindowField → Bool) : Prop where
  files : ∀ id field, recomputed (id, field) = false →
    operation.Changes base id field →
      operation.copies id field = true ∨
        committed.read id field = operation.intended id field
  current : ∀ id field, recomputed (id, field) = false →
    ¬operation.Changes base id field →
      operation.copies id field = true →
        committed.read id field = base.read id field

theorem LifecycleOperation.copied_intended {operation : LifecycleOperation}
    {id : Nat} {field : WindowField}
    (copied : operation.copies id field = true) :
    operation.written id field = operation.intended id field := by
  unfold LifecycleOperation.copies at copied
  unfold LifecycleOperation.written LifecycleOperation.intended
  cases hkind : operation.kind with
  | destroy =>
      simp only [hkind, Bool.and_eq_true, decide_eq_true_eq] at copied
      simp [copied.1]
  | clientCleanup =>
      simp only [hkind] at copied
      have absent : operation.proposed.windows[id]? = none := by
        apply Std.ExtTreeMap.getElem?_eq_none
        rw [Std.ExtTreeMap.mem_iff_contains]
        simpa only [Bool.not_eq_true', Bool.not_eq_true] using copied
      simp [LifecycleSnapshot.read, absent]
  | _ => simp

/-! ## The updates of a history -/

/-- A commit writes what the operation copies, and over it what the answer of
the policy peer recomputes. -/
def commitUpdate (base : LifecycleSnapshot) (operation : LifecycleOperation)
    (proposed evaluated : LifecycleSnapshot) : FieldUpdate where
  base key :=
    if recomputes proposed evaluated key then proposed.read key.1 key.2
    else base.read key.1 key.2
  intended key :=
    if recomputes proposed evaluated key then evaluated.read key.1 key.2
    else operation.intended key.1 key.2
  copies key :=
    recomputes proposed evaluated key || operation.copies key.1 key.2

def replacementUpdate (before after : LifecycleSnapshot) : FieldUpdate where
  base := before.fields
  intended := after.fields
  copies _ := true

namespace History

/-- The operation that was last taken up, as it stood in the queue. -/
def lastStarted (history : List CoordinatorEvent) :
    Option LifecycleOperation :=
  history.findSome? fun
    | .started operation => some operation
    | _ => none

/-- The snapshot that was committed when the token was enqueued. -/
def proposedFrom (start : LifecycleSnapshot) :
    List CoordinatorEvent → Nat → Option LifecycleSnapshot
  | [], _ => none
  | .enqueued operation :: earlier, token =>
      if operation.token = token then some (storedSnapshot start earlier)
      else proposedFrom start earlier token
  | _ :: earlier, token => proposedFrom start earlier token

/-- The update that an event brings to the committed snapshot. -/
def storedUpdate (start : LifecycleSnapshot)
    (earlier : List CoordinatorEvent) : CoordinatorEvent → Option FieldUpdate
  | .committed _ evaluated => do
      let operation ← lastStarted earlier
      let base ← proposedFrom start earlier operation.token
      let proposed ←
        rebaseLifecycleOperation (storedSnapshot start earlier) operation
      return commitUpdate base operation proposed evaluated
  | .replaced snapshot =>
      some (replacementUpdate (storedSnapshot start earlier) snapshot)
  | _ => none

/-- The updates of the committed snapshot, newest first. -/
def updates (start : LifecycleSnapshot) :
    List CoordinatorEvent → List FieldUpdate
  | [] => []
  | event :: earlier =>
      (storedUpdate start earlier event).toList ++ updates start earlier

/-- In every committed snapshot of the history, a field that an operation (or
a replacement, or the policy's answer) changed has that value until another
one changes it. -/
def KeepsUpdates (start : LifecycleSnapshot)
    (history : List CoordinatorEvent) : Prop :=
  ∀ past, past <:+ history →
    Library.NoLostUpdate (storedSnapshot start past).fields
      (updates start past)

/-- Every committed operation merged into the snapshot it was rebased onto. -/
def CommitsMerge (start : LifecycleSnapshot)
    (history : List CoordinatorEvent) : Prop :=
  ∀ stored evaluated earlier operation base proposed,
    .committed stored evaluated :: earlier <:+ history →
      lastStarted earlier = some operation →
        proposedFrom start earlier operation.token = some base →
          rebaseLifecycleOperation (storedSnapshot start earlier) operation =
              some proposed →
            operation.Merges base (storedSnapshot start earlier)
              (recomputes proposed evaluated)

theorem proposedFrom_isSome (start : LifecycleSnapshot)
    {history : List CoordinatorEvent} {token : Nat}
    (enqueued : token ∈ enqueuedTokens history) :
    ∃ base, proposedFrom start history token = some base := by
  induction history with
  | nil => simp at enqueued
  | cons head earlier ih =>
      cases head with
      | enqueued operation =>
          unfold proposedFrom
          split
          · exact ⟨_, rfl⟩
          · rename_i other
            rcases List.mem_cons.mp enqueued with same | older
            · exact absurd same.symm other
            · exact ih older
      | _ => exact ih enqueued

/-- A token is proposed from a snapshot of the same history. -/
theorem proposedFrom_past {start base : LifecycleSnapshot}
    {history : List CoordinatorEvent} {token : Nat}
    (found : proposedFrom start history token = some base) :
    ∃ past, past <:+ history ∧ base = storedSnapshot start past := by
  induction history with
  | nil => simp [proposedFrom] at found
  | cons head earlier ih =>
      have older : proposedFrom start earlier token = some base →
          ∃ past, past <:+ head :: earlier ∧
            base = storedSnapshot start past := by
        intro found
        obtain ⟨past, suffix, same⟩ := ih found
        exact ⟨past, suffix.trans (List.suffix_cons _ _), same⟩
      cases head with
      | enqueued operation =>
          unfold proposedFrom at found
          split at found
          · exact ⟨earlier, List.suffix_cons _ _,
              (Option.some.inj found).symm⟩
          · exact older found
      | _ => exact older found

/-! ## Where a commit comes from -/

/-- The stored snapshot answers the rebase of the operation last taken up. -/
def Founded (rules : LifecycleProtocol.Rules) (start : LifecycleSnapshot)
    (earlier : List CoordinatorEvent) (snapshot : LifecycleSnapshot) : Prop :=
  ∃ operation proposed base, lastStarted earlier = some operation ∧
    proposedFrom start earlier operation.token = some base ∧
    rules.rebases (storedSnapshot start earlier) operation proposed ∧
    rules.answers proposed snapshot

def AllFounded (rules : LifecycleProtocol.Rules)
    (start : LifecycleSnapshot) : List CoordinatorEvent → Prop
  | [] => True
  | .committed _ snapshot :: earlier =>
      Founded rules start earlier snapshot ∧ AllFounded rules start earlier
  | _ :: earlier => AllFounded rules start earlier

theorem AllFounded.of_suffix {rules : LifecycleProtocol.Rules}
    {start : LifecycleSnapshot} {past history : List CoordinatorEvent}
    (all : AllFounded rules start history) (suffix : past <:+ history) :
    AllFounded rules start past := by
  induction history with
  | nil => simp_all
  | cons head earlier ih =>
      rcases List.suffix_cons_iff.mp suffix with rfl | older
      · exact all
      · refine ih ?_ older
        cases head with
        | committed operation snapshot => exact all.2
        | _ => exact all

end History

namespace LifecycleProtocol

/-- An operation between its start and its commit is the rebase of the one
taken from the queue, and what it waits to store answers it. -/
structure CommitInvariant (rules : Rules) (start : LifecycleSnapshot)
    (s : LifecycleProtocol) : Prop where
  taken : s.phase = .awaitingPolicy ∨ s.phase = .awaitingCompositor →
    ∃ queued operation, History.lastStarted s.history = some queued ∧
      s.active = some operation ∧ queued.token = operation.token ∧
      rules.rebases s.committed queued operation.proposed
  answered : s.phase = .awaitingCompositor →
    ∃ operation, s.active = some operation ∧
      rules.answers operation.proposed s.evaluated
  founded : History.AllFounded rules start s.history

theorem cancelOperation_proposed (client : Nat)
    (operation : LifecycleOperation) :
    (LifecycleCoordinator.cancelOperation client operation).proposed =
      operation.proposed := by
  unfold LifecycleCoordinator.cancelOperation
  split <;> rfl

section

variable {rules : Rules}

attribute [local simp] History.lastStarted History.AllFounded
  List.findSome?_cons cancelOperation_proposed

theorem Transition.preserves_commit {start : LifecycleSnapshot}
    {s t : LifecycleProtocol} (transition : Transition rules s t)
    (sound : Invariant start s) (holds : CommitInvariant rules start s) :
    CommitInvariant rules start t := by
  obtain ⟨taken, answered, founded⟩ := holds
  cases transition with
  | enqueue operation queue inserted =>
      exact ⟨by simpa using taken, answered, by simpa using founded⟩
  | start operation rest proposed idle free next rebased =>
      refine ⟨fun _ => ?_, by simp, by simpa using founded⟩
      exact ⟨operation, { operation with proposed := proposed },
        by simp, rfl, rfl, rebased⟩
  | refuse operation rest idle free next =>
      exact ⟨by simp [idle], by simp [idle], by simpa using founded⟩
  | drop operation rest idle free next canceled =>
      exact ⟨by simp [idle], by simp [idle], by simpa using founded⟩
  | propose operation awaiting active =>
      exact ⟨by simpa using taken, answered, by simpa using founded⟩
  | evaluate operation evaluated awaiting active =>
      exact ⟨by simpa using taken, by simp [awaiting],
        by simpa using founded⟩
  | advance operation awaiting active current proper =>
      refine ⟨fun _ => ?_, fun _ => ⟨operation, active, proper⟩,
        by simpa using founded⟩
      simpa using taken (.inl awaiting)
  | present awaiting =>
      exact ⟨by simpa using taken, answered, by simpa using founded⟩
  | rollBackPolicy begun occupied =>
      exact ⟨by simp, by simp, by simpa using founded⟩
  | rollBackCompositor begun occupied =>
      exact ⟨by simp, by simp, by simpa using founded⟩
  | giveUp operation undone active =>
      exact ⟨by simp, by simp, by simpa using founded⟩
  | store operation accepted active wanted =>
      refine ⟨by simp, by simp, ?_⟩
      obtain ⟨queued, same, last, sameActive, token, rebased⟩ :=
        taken (.inr accepted)
      obtain ⟨waiting, sameWaiting, answer⟩ := answered accepted
      obtain rfl := Option.some.inj (active.symm.trans sameActive)
      obtain rfl := Option.some.inj (active.symm.trans sameWaiting)
      have enqueued : queued.token ∈ History.enqueuedTokens s.history := by
        rw [sound.conserved.mem_iff, token]
        simp [pending, active]
      obtain ⟨base, found⟩ := History.proposedFrom_isSome start enqueued
      exact ⟨⟨queued, operation.proposed, base, last, found,
        sound.stored.symm ▸ rebased, answer⟩, founded⟩
  | replace committed idle free =>
      exact ⟨by simp [idle], by simp [idle], by simpa using founded⟩
  | cancel client =>
      refine ⟨fun busy => ?_, fun accepted => ?_, by simpa using founded⟩
      · obtain ⟨queued, operation, last, active, token, rebased⟩ := taken busy
        exact ⟨queued, _, by simpa using last, by simp [active]; rfl,
          by simpa using token, by simpa using rebased⟩
      · obtain ⟨operation, active, answer⟩ := answered accepted
        exact ⟨_, by simp [active]; rfl, by simpa using answer⟩
  | halt evaluated occupied =>
      exact ⟨by simp, by simp, founded⟩

theorem Run.preserves_commit {start : LifecycleSnapshot}
    {s t : LifecycleProtocol} (run : Run rules s t)
    (sound : Invariant start s) (holds : CommitInvariant rules start s) :
    CommitInvariant rules start t := by
  induction run with
  | refl => exact holds
  | tail earlier transition ih =>
      exact transition.preserves_commit (Run.preserves earlier sound) ih

end

end LifecycleProtocol

/-! ## The committed snapshot is the replay of the updates -/

/-- The snapshots that `apply_policy_result` can make of a proposal. -/
def PolicyAnswers (proposed evaluated : LifecycleSnapshot) : Prop :=
  ∃ result layout, applyPolicyResult proposed result layout = some evaluated

def rebaseRules : LifecycleProtocol.Rules where
  rebases committed operation proposed :=
    rebaseLifecycleOperation committed operation = some proposed
  answers := PolicyAnswers

section

variable {base committed proposed evaluated : LifecycleSnapshot}
  {operation : LifecycleOperation}

theorem commitUpdate_apply
    (rebased : rebaseLifecycleOperation committed operation = some proposed)
    (answer : PolicyAnswers proposed evaluated) :
    (commitUpdate base operation proposed evaluated).apply committed.fields =
      evaluated.fields := by
  obtain ⟨result, layout, success⟩ := answer
  funext key
  simp only [Library.Update.apply, commitUpdate, LifecycleSnapshot.fields]
  by_cases recomputed : recomputes proposed evaluated key = true
  · simp [recomputed]
  · have same : evaluated.read key.1 key.2 = proposed.read key.1 key.2 := by
      by_cases own : key.2.policyApplied = true
      · simpa [recomputes, own] using recomputed
      · exact applyPolicyResult_read success key.1 (by simpa using own)
    have read := rebase_read rebased key.1 key.2
    rw [same, read]
    by_cases copied : operation.copies key.1 key.2 = true
    · simp [recomputed, copied, LifecycleOperation.copied_intended copied]
    · simp [recomputed, copied]

theorem commitUpdate_changes {key : Nat × WindowField}
    (kept : recomputes proposed evaluated key = false) :
    (commitUpdate base operation proposed evaluated).Changes key ↔
      operation.Changes base key.1 key.2 := by
  simp [Library.Update.Changes, LifecycleOperation.Changes, commitUpdate,
    kept]

theorem commitUpdate_recomputed {key : Nat × WindowField}
    (recomputed : recomputes proposed evaluated key = true) :
    (commitUpdate base operation proposed evaluated).Changes key := by
  have different := recomputed
  simp only [recomputes, Bool.and_eq_true, decide_eq_true_eq] at different
  simpa [Library.Update.Changes, commitUpdate, recomputed] using different.2

theorem commitUpdate_merges_iff :
    (commitUpdate base operation proposed evaluated).Merges
        committed.fields ↔
      operation.Merges base committed (recomputes proposed evaluated) := by
  constructor
  · rintro ⟨files, current⟩
    refine ⟨fun id field kept changes => ?_,
      fun id field kept same copied => ?_⟩
    · have filed := files (id, field) ((commitUpdate_changes kept).mpr changes)
      simpa [commitUpdate, kept, LifecycleSnapshot.fields] using filed
    · have stale := current (id, field)
        (mt (commitUpdate_changes kept).mp same)
        (by simp [commitUpdate, copied])
      simpa [commitUpdate, kept, LifecycleSnapshot.fields] using stale
  · rintro ⟨files, current⟩
    refine ⟨fun key changes => ?_, fun key same copied => ?_⟩
    · by_cases recomputed : recomputes proposed evaluated key = true
      · simp [commitUpdate, recomputed]
      · simp only [Bool.not_eq_true] at recomputed
        have filed := files key.1 key.2 recomputed
          ((commitUpdate_changes recomputed).mp changes)
        simpa [commitUpdate, recomputed, LifecycleSnapshot.fields] using filed
    · by_cases recomputed : recomputes proposed evaluated key = true
      · exact absurd (commitUpdate_recomputed recomputed) same
      · simp only [Bool.not_eq_true] at recomputed
        have kept := current key.1 key.2 recomputed
          (mt (commitUpdate_changes recomputed).mpr same)
          (by simpa [commitUpdate, recomputed] using copied)
        simpa [commitUpdate, recomputed, LifecycleSnapshot.fields] using kept

end

namespace History

variable {start : LifecycleSnapshot}

theorem storedUpdate_committed {earlier : List CoordinatorEvent}
    (stored : LifecycleOperation) {base proposed : LifecycleSnapshot}
    (evaluated : LifecycleSnapshot) {operation : LifecycleOperation}
    (last : lastStarted earlier = some operation)
    (found : proposedFrom start earlier operation.token = some base)
    (rebased : rebaseLifecycleOperation (storedSnapshot start earlier)
      operation = some proposed) :
    storedUpdate start earlier (.committed stored evaluated) =
      some (commitUpdate base operation proposed evaluated) := by
  simp [storedUpdate, last, found, rebased]

theorem replacementUpdate_apply (before after : LifecycleSnapshot) :
    (replacementUpdate before after).apply before.fields = after.fields :=
  rfl

theorem replacementUpdate_merges (before after : LifecycleSnapshot) :
    (replacementUpdate before after).Merges before.fields :=
  ⟨fun _ _ => .inl rfl, fun _ _ _ => rfl⟩

/-- The committed snapshot is what the updates make of the first one. -/
theorem replay_updates {history : List CoordinatorEvent}
    (founded : AllFounded rebaseRules start history) :
    Library.replay start.fields (updates start history) =
      (storedSnapshot start history).fields := by
  induction history with
  | nil => rfl
  | cons event earlier ih =>
      cases event with
      | committed stored evaluated =>
          obtain ⟨⟨operation, proposed, base, last, found, rebased, answer⟩,
            before⟩ := founded
          have update := storedUpdate_committed stored evaluated last found
            rebased
          simp only [updates, update, Option.toList_some,
            List.singleton_append, Library.replay_cons, ih before]
          exact commitUpdate_apply rebased answer
      | replaced snapshot =>
          simp only [updates, storedUpdate, Option.toList_some,
            List.singleton_append, Library.replay_cons, ih founded]
          exact replacementUpdate_apply _ _
      | _ => exact ih founded

theorem updates_suffix {past history : List CoordinatorEvent}
    (suffix : past <:+ history) :
    updates start past <:+ updates start history := by
  induction history with
  | nil => simp_all
  | cons event earlier ih =>
      rcases List.suffix_cons_iff.mp suffix with rfl | older
      · exact List.suffix_refl _
      · exact (ih older).trans (List.suffix_append _ _)

/-- Every part of the log is the log of a part of the history. -/
theorem suffix_updates {history : List CoordinatorEvent}
    {log : List FieldUpdate} (suffix : log <:+ updates start history) :
    ∃ past, past <:+ history ∧ log = updates start past := by
  induction history with
  | nil => exact ⟨[], List.suffix_refl _, by simpa [updates] using suffix⟩
  | cons event earlier ih =>
      have older : log <:+ updates start earlier → ∃ past,
          past <:+ event :: earlier ∧ log = updates start past := by
        intro within
        obtain ⟨past, place, same⟩ := ih within
        exact ⟨past, place.trans (List.suffix_cons _ _), same⟩
      cases hupdate : storedUpdate start earlier event with
      | none => exact older (by simpa [updates, hupdate] using suffix)
      | some update =>
          have cons : updates start (event :: earlier) =
              update :: updates start earlier := by
            simp [updates, hupdate]
          rw [cons] at suffix
          rcases List.suffix_cons_iff.mp suffix with same | within
          · exact ⟨event :: earlier, List.suffix_refl _, same.trans cons.symm⟩
          · exact older within

theorem prepared_updates {history : List CoordinatorEvent}
    (founded : AllFounded rebaseRules start history) :
    Library.Prepared start.fields (updates start history) := by
  induction history with
  | nil =>
      intro update earlier place
      simp [updates] at place
  | cons event earlier ih =>
      cases event with
      | committed stored evaluated =>
          obtain ⟨⟨operation, proposed, base, last, found, rebased, answer⟩,
            before⟩ := founded
          have update := storedUpdate_committed stored evaluated last found
            rebased
          simp only [updates, update, Option.toList_some,
            List.singleton_append]
          intro other log place key same
          rcases List.suffix_cons_iff.mp place with newest | older
          · obtain ⟨rfl, rfl⟩ := List.cons.inj newest
            obtain ⟨past, suffix, rfl⟩ := proposedFrom_past found
            refine ⟨updates start past, updates_suffix suffix, ?_⟩
            rw [replay_updates (before.of_suffix suffix)]
            have kept : recomputes proposed evaluated key ≠ true := fun own =>
              same (commitUpdate_recomputed own)
            simp [commitUpdate, kept, LifecycleSnapshot.fields]
          · exact ih before other log older key same
      | replaced snapshot =>
          have before : AllFounded rebaseRules start earlier := founded
          simp only [updates, storedUpdate, Option.toList_some,
            List.singleton_append]
          intro other log place key same
          rcases List.suffix_cons_iff.mp place with newest | older
          · obtain ⟨rfl, rfl⟩ := List.cons.inj newest
            refine ⟨updates start earlier, List.suffix_refl _, ?_⟩
            rw [replay_updates before]
            rfl
          · exact ih before other log older key same
      | _ => exact ih founded

theorem commitsMerge_cons {event : CoordinatorEvent}
    {earlier : List CoordinatorEvent} :
    CommitsMerge start (event :: earlier) ↔
      (∀ stored evaluated operation base proposed,
        event = .committed stored evaluated →
        lastStarted earlier = some operation →
          proposedFrom start earlier operation.token = some base →
            rebaseLifecycleOperation (storedSnapshot start earlier)
                operation = some proposed →
              operation.Merges base (storedSnapshot start earlier)
                (recomputes proposed evaluated)) ∧
        CommitsMerge start earlier := by
  constructor
  · intro merge
    refine ⟨fun stored evaluated operation base proposed same => ?_,
      fun stored evaluated before operation base proposed place => ?_⟩
    · subst same
      exact merge stored evaluated earlier operation base proposed
        (List.suffix_refl _)
    · exact merge stored evaluated before operation base proposed
        (place.trans (List.suffix_cons _ _))
  · rintro ⟨newest, merge⟩ stored evaluated before operation base proposed
      place
    rcases List.suffix_cons_iff.mp place with same | older
    · obtain ⟨rfl, rfl⟩ := List.cons.inj same
      exact newest stored evaluated operation base proposed rfl
    · exact merge stored evaluated before operation base proposed older

theorem allMerge_updates_iff {history : List CoordinatorEvent}
    (founded : AllFounded rebaseRules start history) :
    Library.AllMerge start.fields (updates start history) ↔
      CommitsMerge start history := by
  induction history with
  | nil =>
      constructor
      · intro _ stored evaluated earlier operation base proposed place
        simp at place
      · intro _ update earlier place
        simp [updates] at place
  | cons event earlier ih =>
      rw [commitsMerge_cons]
      cases event with
      | committed stored evaluated =>
          obtain ⟨⟨operation, proposed, base, last, found, rebased, answer⟩,
            before⟩ := founded
          have update := storedUpdate_committed stored evaluated last found
            rebased
          simp only [updates, update, Option.toList_some,
            List.singleton_append, Library.allMerge_cons, ih before,
            replay_updates before, commitUpdate_merges_iff]
          refine and_congr_left fun _ => ⟨fun merges => ?_, fun newest => ?_⟩
          · rintro other answered sameOperation sameBase sameProposed same
              lastAgain foundAgain rebasedAgain
            obtain ⟨rfl, rfl⟩ := CoordinatorEvent.committed.inj same
            obtain rfl := Option.some.inj (last.symm.trans lastAgain)
            obtain rfl := Option.some.inj (found.symm.trans foundAgain)
            obtain rfl := Option.some.inj (rebased.symm.trans rebasedAgain)
            exact merges
          · exact newest stored evaluated operation base proposed rfl last
              found rebased
      | replaced snapshot =>
          have before : AllFounded rebaseRules start earlier := founded
          simp only [updates, storedUpdate, Option.toList_some,
            List.singleton_append, Library.allMerge_cons, ih before,
            replay_updates before, replacementUpdate_merges, reduceCtorEq,
            false_imp_iff, implies_true]
      | _ =>
          simp only [updates, storedUpdate, Option.toList_none,
            List.nil_append, reduceCtorEq, false_imp_iff, implies_true,
            true_and]
          exact ih founded

theorem keepsUpdates_iff {history : List CoordinatorEvent}
    (founded : AllFounded rebaseRules start history) :
    KeepsUpdates start history ↔ CommitsMerge start history := by
  rw [← allMerge_updates_iff founded,
    ← Library.no_lost_update_iff (prepared_updates founded)]
  constructor
  · intro keeps log suffix
    obtain ⟨past, place, rfl⟩ := suffix_updates suffix
    rw [replay_updates (founded.of_suffix place)]
    exact keeps past place
  · intro keeps past place
    rw [← replay_updates (founded.of_suffix place)]
    exact keeps _ (updates_suffix place)

end History

namespace LifecycleCoordinator

variable {ω : Type u} {callbacks : LifecycleCallbacks ω}

theorem rules_rebase
    (rebase : callbacks.rebase = some rebaseLifecycleOperation) :
    rules callbacks PolicyAnswers = rebaseRules := by
  simp [rules, rebaseRules, rebase]

theorem initial_commitInvariant (start : LifecycleSnapshot)
    (maximumPending : Nat) (world : ω) :
    LifecycleProtocol.CommitInvariant rebaseRules start
      (initial start maximumPending world).protocol := by
  refine ⟨?_, ?_, ?_⟩ <;>
    simp [initial, protocol, effectivePhase, History.AllFounded]

theorem step_commitInvariant
    (rebase : callbacks.rebase = some rebaseLifecycleOperation)
    {start : LifecycleSnapshot} {c : LifecycleCoordinator ω}
    (sound : c.Invariant start)
    (holds : LifecycleProtocol.CommitInvariant rebaseRules start c.protocol)
    {input : CoordinatorInput ω}
    (answered : c.Answered PolicyAnswers input) :
    LifecycleProtocol.CommitInvariant rebaseRules start
      (c.step callbacks input).protocol := by
  obtain ⟨run, _⟩ := step_reaches callbacks sound input answered
  rw [rules_rebase rebase] at run
  exact run.preserves_commit sound.sound holds

theorem run_founded
    (rebase : callbacks.rebase = some rebaseLifecycleOperation)
    {start : LifecycleSnapshot} {maximumPending : Nat} {world : ω}
    {inputs : List (CoordinatorInput ω)}
    (answered : Library.Guarded (step callbacks) (Answered PolicyAnswers)
      (initial start maximumPending world) inputs) :
    History.AllFounded rebaseRules start (Library.run (step callbacks)
      (initial start maximumPending world) inputs).history := by
  have both := answered.preserves
    (fun c => c.Invariant start ∧
      LifecycleProtocol.CommitInvariant rebaseRules start c.protocol)
    (fun c input holds admitted => ⟨holds.1.step input,
      step_commitInvariant rebase holds.1 holds.2 admitted⟩)
    ⟨Invariant.initial start maximumPending world,
      initial_commitInvariant start maximumPending world⟩
  exact both.2.founded

/-- In a run whose policy answers go through `apply_policy_result`, no update
is lost exactly when every committed operation merged: it copies what it
changed, and each further field it copies has not been changed since the
operation was proposed. -/
theorem updates_kept_iff (callbacks : LifecycleCallbacks ω)
    (rebase : callbacks.rebase = some rebaseLifecycleOperation)
    (start : LifecycleSnapshot) (maximumPending : Nat) (world : ω)
    (inputs : List (CoordinatorInput ω))
    (answered : Library.Guarded (step callbacks) (Answered PolicyAnswers)
      (initial start maximumPending world) inputs) :
    let final := Library.run (step callbacks)
      (initial start maximumPending world) inputs
    final.committed = History.storedSnapshot start final.history ∧
      (History.KeepsUpdates start final.history ↔
        History.CommitsMerge start final.history) := by
  have holds : (Library.run (step callbacks)
      (initial start maximumPending world) inputs).Invariant start :=
    (Invariant.initial start maximumPending world).run inputs
  exact ⟨holds.sound.stored.symm,
    History.keepsUpdates_iff (run_founded rebase answered)⟩

/-! A run that loses an update: a `PolicyChange` and a `Configure` of one
window are both proposed from the first snapshot, and the `PolicyChange` is
committed last. -/

def reversalStart : LifecycleSnapshot where
  windows := ({} : KeyMap LifecycleWindow).insert 16 {
    xid := 16
    parent := 1
    requestedWidth := 100
    requestedHeight := 80
    mapRequested := true
    creationSerial := 1
    mapSerial := 2 }
  rootOrder := [16]

def reversalCallbacks : LifecycleCallbacks Unit where
  sendPolicy := some fun world _ => (true, world)
  sendCompositor := some fun world _ => (true, world)
  commit := some fun world _ _ => (true, world)
  rebase := some rebaseLifecycleOperation

def reversalConfigure : LifecycleOperation where
  token := 1
  clientId := 1
  kind := .configure
  window := 16
  proposed := { reversalStart with
    windows := reversalStart.windows.modify 16 fun window =>
      { window with requestedX := 40, geometrySerial := 3 } }

def reversalPolicyChange : LifecycleOperation where
  token := 2
  clientId := 2
  kind := .policyChange
  window := 16
  proposed := { reversalStart with
    windows := reversalStart.windows.modify 16 fun window =>
      { window with aboveRequested := true } }

def reversalState (x : Int) : PolicyWindowState where
  windowId := 16
  workspaceId := 1
  outputId := 1
  finalX := x
  finalY := 0
  finalWidth := 100
  finalHeight := 80
  stacking := 0
  windowType := 1
  appliedState := 1
  visible := 1
  focused := 0
  managed := 1
  decorationEligible := 1
  overrideRedirect := 0
  attentionRequested := 0
  fullscreenEligible := 0
  directScanoutEligible := 0

def reversalAnswer (committed : LifecycleSnapshot)
    (operation : LifecycleOperation) (x : Int) : LifecycleSnapshot :=
  ((rebaseLifecycleOperation committed operation).bind fun proposed =>
    applyPolicyResult proposed { windows := [reversalState x] } none).getD {}

def reversalFirst : LifecycleSnapshot :=
  reversalAnswer reversalStart reversalConfigure 40

def reversalSecond : LifecycleSnapshot :=
  reversalAnswer reversalFirst reversalPolicyChange 0

def reversalInputs : List (CoordinatorInput Unit) :=
  [.enqueue reversalConfigure, .enqueue reversalPolicyChange,
    .policyAccepted reversalFirst, .compositorAccepted,
    .policyAccepted reversalSecond, .compositorAccepted]

def reversalFinal : LifecycleCoordinator Unit :=
  Library.run (step reversalCallbacks) (initial reversalStart 8 ())
    reversalInputs

theorem answered_of_result {c : LifecycleCoordinator ω}
    {evaluated : LifecycleSnapshot} (result : PolicySnapshotResult)
    (success : (c.pendingPolicySnapshot.bind fun pending =>
      applyPolicyResult pending result none) = some evaluated) :
    c.Answered PolicyAnswers (.policyAccepted evaluated) := by
  intro pending found
  rw [found] at success
  exact ⟨result, none, success⟩

theorem reversal_answered :
    Library.Guarded (step reversalCallbacks) (Answered PolicyAnswers)
      (initial reversalStart 8 ()) reversalInputs :=
  ⟨trivial, trivial,
    answered_of_result { windows := [reversalState 40] } (by decide), trivial,
    answered_of_result { windows := [reversalState 0] } (by decide), trivial,
    trivial⟩

theorem updates_kept_reversal :
    reversalFinal.committed =
        History.storedSnapshot reversalStart reversalFinal.history ∧
      (History.KeepsUpdates reversalStart reversalFinal.history ↔
        History.CommitsMerge reversalStart reversalFinal.history) :=
  updates_kept_iff reversalCallbacks rfl reversalStart 8 () reversalInputs
    reversal_answered

/-- The policy change takes the requested position back. -/
theorem policy_change_reverts_configure :
    Library.Guarded (step reversalCallbacks) (Answered PolicyAnswers)
        (initial reversalStart 8 ()) reversalInputs ∧
      History.committedTokens reversalFinal.history = [2, 1] ∧
      History.proposedFrom reversalStart reversalFinal.history 1 =
        some reversalStart ∧
      History.proposedFrom reversalStart reversalFinal.history 2 =
        some reversalStart ∧
      reversalConfigure.Changes reversalStart 16 .requestedX ∧
      ¬reversalPolicyChange.Changes reversalStart 16 .requestedX ∧
      reversalFinal.committed.read 16 .requestedX ≠
        reversalConfigure.proposed.read 16 .requestedX := by
  refine ⟨reversal_answered, by decide, by decide, by decide, ?_, ?_,
    by decide⟩
  · unfold LifecycleOperation.Changes
    decide
  · unfold LifecycleOperation.Changes
    decide

end LifecycleCoordinator

end Glasswyrm.Lifecycle
