import Glasswyrm.Library.Order
import Glasswyrm.Library.Propagation
import Glasswyrm.Wm.Policy

namespace Glasswyrm.Wm

open Lifecycle Output Library

/-! The order in which transients are processed: every one after its
parent. -/

variable {raw : RawState}

theorem RawState.window_eq {id : Nat} {window : RawWindow}
    (found : raw.windows[id]? = some window) : raw.window id = window := by
  rw [RawState.window, found, Option.getD_some]

theorem RawState.window_known {id : Nat} (known : id ∈ raw.windows) :
    raw.windows[id]? = some (raw.window id) := by
  obtain ⟨window, found⟩ := KeyMap.mem_iff.mp known
  rw [RawState.window_eq found, found]

/-- A managed window that is transient for another. -/
def RawState.IsTransient (raw : RawState) (id : Nat) : Prop :=
  id ∈ raw.windows ∧ (raw.window id).overrideRedirect = false ∧
    (raw.window id).transientFor ≠ 0

/-- A window that is placed on its own. -/
def RawState.IsRoot (raw : RawState) (id : Nat) : Prop :=
  id ∈ raw.windows ∧ ((raw.window id).overrideRedirect = true ∨
    (raw.window id).transientFor = 0)

theorem isTransient_or_isRoot {id : Nat} (known : id ∈ raw.windows) :
    raw.IsTransient id ∨ raw.IsRoot id := by
  cases override : (raw.window id).overrideRedirect with
  | true => exact .inr ⟨known, .inl override⟩
  | false =>
      by_cases parent : (raw.window id).transientFor = 0
      · exact .inr ⟨known, .inr parent⟩
      · exact .inl ⟨known, override, parent⟩

theorem RawState.IsRoot.not_isTransient {id : Nat} (root : raw.IsRoot id) :
    ¬raw.IsTransient id := by
  rintro ⟨_, managed, parent⟩
  rcases root.2 with override | top
  · cases managed.symm.trans override
  · exact parent top

theorem mem_managedTransients {id : Nat} :
    id ∈ managedTransients raw ↔ raw.IsTransient id := by
  simp only [managedTransients, List.mem_filter, Std.ExtTreeMap.mem_keys,
    Bool.and_eq_true, Bool.not_eq_true', ne_eq, decide_not,
    decide_eq_false_iff_not, RawState.IsTransient]

theorem mem_transientParentFirst {id : Nat} :
    id ∈ transientParentFirst raw ↔ raw.IsTransient id := by
  rw [transientParentFirst, List.mem_insertionSort, mem_managedTransients]

theorem transientParentFirst_nodup : (transientParentFirst raw).Nodup := by
  have distinct : (managedTransients raw).Nodup :=
    (KeyMap.keys_nodup raw.windows).filter _
  exact (List.perm_insertionSort _ _).nodup_iff.mpr distinct

/-- A window that is named as a parent is a managed window. -/
theorem Valid.namedParent {id : Nat} (valid : Valid raw)
    (known : id ∈ raw.windows) (nonzero : (raw.window id).transientFor ≠ 0) :
    (raw.window id).transientFor ∈ raw.windows ∧
      (raw.window (raw.window id).transientFor).overrideRedirect = false := by
  have references := (valid.windows id _
    (RawState.window_known known)).references
  unfold validateReferences at references
  split at references
  · cases references
  · split at references
    · cases references
    · rename_i present
      simp only [lacksParent, nonzero, ne_eq, not_false_eq_true, decide_true,
        Bool.true_and, Bool.not_eq_true', Bool.not_eq_false] at present
      cases found : raw.windows[(raw.window id).transientFor]? with
      | none => simp [found] at present
      | some parent =>
          refine ⟨KeyMap.mem_of_lookup found, ?_⟩
          rw [RawState.window_eq found]
          simpa [found] using present

/-- The parent of a transient is a managed window. -/
theorem Valid.parent {id : Nat} (valid : Valid raw)
    (isTransient : raw.IsTransient id) :
    (raw.window id).transientFor ∈ raw.windows ∧
      (raw.window (raw.window id).transientFor).overrideRedirect = false :=
  valid.namedParent isTransient.1 isTransient.2.2

/-- A walk that comes to an end has the same length in any number of rounds
that lets it. -/
theorem transientDepth_fuel {fuel : Nat} {visited : List Nat} {id : Nat}
    (acyclic : transientCycle raw.windows fuel visited id = false)
    (extra : Nat) :
    transientDepth raw (fuel + extra) id = transientDepth raw fuel id := by
  induction fuel generalizing visited id with
  | zero => cases acyclic
  | succ fuel ih =>
      rw [Nat.succ_add, transientDepth, transientDepth]
      split
      · rfl
      · rename_i nonzero
        rw [transientCycle, if_neg nonzero] at acyclic
        split at acyclic
        · cases acyclic
        · cases found : raw.windows[id]? with
          | some window =>
              rw [found] at acyclic
              rw [RawState.window_eq found, ih acyclic]
          | none =>
              have missing : (raw.window id).transientFor = 0 := by
                rw [RawState.window, found]
                rfl
              have stays : ∀ rounds, transientDepth raw rounds 0 = 0 := by
                intro rounds
                cases rounds <;> simp [transientDepth]
              rw [missing, stays, stays]

/-- The depth by which the transients are sorted. -/
def RawState.depth (raw : RawState) (id : Nat) : Nat :=
  transientDepth raw (maximumWindows + 2) (raw.window id).transientFor

theorem Valid.windowId {id : Nat} (valid : Valid raw)
    (known : id ∈ raw.windows) : (raw.window id).windowId = id :=
  (valid.windows id _ (RawState.window_known known)).key.symm

theorem Valid.id_ne_zero {id : Nat} (valid : Valid raw)
    (known : id ∈ raw.windows) : id ≠ 0 := by
  intro zero
  have record := (valid.windows id _ (RawState.window_known known)).record
  have none : (raw.window id).windowId = 0 :=
    (valid.windowId known).trans zero
  simp [refusesWindow, none] at record

theorem Valid.depth_parent {id : Nat} (valid : Valid raw)
    (isTransient : raw.IsTransient id) :
    raw.depth id = raw.depth (raw.window id).transientFor + 1 := by
  have present := (valid.parent isTransient).1
  obtain ⟨known, _, nonzero⟩ := isTransient
  have walk := valid.acyclic id known
  rw [transientCycle, if_neg (valid.id_ne_zero known), if_neg (by simp),
    RawState.window_known known] at walk
  have above := transientDepth_fuel walk 1
  simp only at walk
  rw [transientCycle, if_neg nonzero] at walk
  split at walk
  · cases walk
  · rw [RawState.window_known present] at walk
    have further := transientDepth_fuel walk 2
    rw [RawState.depth, RawState.depth, above, transientDepth,
      if_neg nonzero, further]

/-- Every transient comes after its parent. -/
theorem Valid.parentsFirst (valid : Valid raw) :
    ParentsFirst (fun id => (raw.window id).transientFor)
      (transientParentFirst raw) := by
  have proper : ∀ id, raw.IsTransient id →
      (raw.window id).transientFor ≠ id := by
    intro id isTransient same
    have deeper := valid.depth_parent isTransient
    rw [same] at deeper
    omega
  refine ⟨?_, fun id member => proper id (mem_transientParentFirst.mp member)⟩
  have sorted : (transientParentFirst raw).Pairwise fun left right =>
      parentFirstKey raw left ≤ parentFirstKey raw right :=
    List.pairwise_insertionSort _ _
  refine (sorted.and transientParentFirst_nodup).imp_of_mem ?_
  rintro earlier later member _ ⟨before, different⟩
  refine ⟨Ne.symm different, ?_⟩
  rintro rfl
  have deeper := valid.depth_parent (mem_transientParentFirst.mp member)
  have shallower : raw.depth earlier ≤
      raw.depth (raw.window earlier).transientFor := by
    rcases Library.cons_le_cons_iff.mp before with less | ⟨same, _⟩
    · exact Nat.le_of_lt less
    · exact Nat.le_of_eq same
  omega

end Glasswyrm.Wm
