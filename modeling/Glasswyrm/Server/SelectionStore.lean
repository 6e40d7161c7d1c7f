import Glasswyrm.Library.KeyMap
import Glasswyrm.Library.Run
import Glasswyrm.Library.WrappingTime

namespace Glasswyrm.Server

open Library

/-! The owners of the selections.  The time of the last change of a selection
is kept with its owner. -/

structure SelectionOwner where
  client : Nat
  window : Nat
  lastChangeTime : UInt32
deriving DecidableEq, Repr

structure XFixesSelectionSubscription where
  client : Nat
  window : Nat
  selection : Nat
  mask : Nat
deriving DecidableEq, Repr

inductive SelectionOwnershipStatus
  | applied
  | ignoredStaleTime
  | invalidSelection
  | invalidOwnerWindow
deriving DecidableEq, Repr

structure SelectionOwnershipChange where
  status : SelectionOwnershipStatus := .applied
  effectiveTime : UInt32
  previousOwner : Option SelectionOwner := none
deriving DecidableEq, Repr

structure SelectionStore where
  owners : KeyMap SelectionOwner := ∅
  xfixesSubscriptions : List XFixesSelectionSubscription := []

structure OwnershipRequest where
  client : Nat
  selection : Nat
  ownerWindow : Nat
  ownerWindowExists : Bool
  requestTime : UInt32
  serverTime : UInt32
deriving DecidableEq, Repr

def OwnershipRequest.effectiveTime (request : OwnershipRequest) : UInt32 :=
  if request.requestTime = 0 then request.serverTime else request.requestTime

namespace SelectionStore

def setOwner (store : SelectionStore) (request : OwnershipRequest) :
    SelectionOwnershipChange × SelectionStore :=
  let effectiveTime := request.effectiveTime
  if request.selection = 0 then
    ({ status := .invalidSelection, effectiveTime }, store)
  else if request.ownerWindow ≠ 0 && !request.ownerWindowExists then
    ({ status := .invalidOwnerWindow, effectiveTime }, store)
  else
    let current := store.owners[request.selection]?
    let lastChange := (current.map (·.lastChangeTime)).getD 0
    if (lastChange ≠ 0 && laterTime lastChange effectiveTime) ||
        laterTime effectiveTime request.serverTime then
      ({ status := .ignoredStaleTime, effectiveTime }, store)
    else
      ({ effectiveTime, previousOwner := current },
        { store with
          owners :=
            if request.ownerWindow = 0 then
              store.owners.erase request.selection
            else
              store.owners.insert request.selection
                { client := request.client
                  window := request.ownerWindow
                  lastChangeTime := effectiveTime } })

def owner (store : SelectionStore) (selection : Nat) : Option SelectionOwner :=
  store.owners[selection]?

/-- The selections whose owners go. -/
def cleared (store : SelectionStore) (gone : SelectionOwner → Bool) :
    List Nat :=
  (store.owners.toList.filter fun entry => gone entry.2).map Prod.fst

def clearWindow (store : SelectionStore) (window : Nat) :
    List Nat × SelectionStore :=
  (store.cleared (·.window = window),
    { owners := store.owners.filter fun _ owner => owner.window ≠ window
      xfixesSubscriptions := store.xfixesSubscriptions.filter
        (·.window ≠ window) })

def clearClient (store : SelectionStore) (client : Nat) :
    List Nat × SelectionStore :=
  (store.cleared (·.client = client),
    { owners := store.owners.filter fun _ owner => owner.client ≠ client
      xfixesSubscriptions := store.xfixesSubscriptions.filter
        (·.client ≠ client) })

def kMaximumSubscriptions : Nat := 4096

def selectXFixes (store : SelectionStore)
    (client window selection mask : Nat) : Bool × SelectionStore :=
  let found := store.xfixesSubscriptions.findIdx? fun subscription =>
    subscription.client = client && subscription.window = window &&
      subscription.selection = selection
  match found with
  | some index =>
      (true, { store with
        xfixesSubscriptions :=
          if mask = 0 then store.xfixesSubscriptions.eraseIdx index
          else store.xfixesSubscriptions.modify index fun subscription =>
            { subscription with mask } })
  | none =>
      if mask = 0 then (true, store)
      else if kMaximumSubscriptions ≤ store.xfixesSubscriptions.length then
        (false, store)
      else
        (true, { store with
          xfixesSubscriptions := store.xfixesSubscriptions ++
            [{ client, window, selection, mask }] })

end SelectionStore

inductive SelectionCall
  | setOwner (request : OwnershipRequest)
  | clearWindow (window : Nat)
  | clearClient (client : Nat)
  | selectXFixes (client window selection mask : Nat)
deriving DecidableEq, Repr

namespace SelectionStore

def perform (store : SelectionStore) : SelectionCall → SelectionStore
  | .setOwner request => (store.setOwner request).2
  | .clearWindow window => (store.clearWindow window).2
  | .clearClient client => (store.clearClient client).2
  | .selectXFixes client window selection mask =>
      (store.selectXFixes client window selection mask).2

/-- The selection that a call changes, and the time of the change. -/
def change (store : SelectionStore) : SelectionCall → Option (Nat × UInt32)
  | .setOwner request =>
      if (store.setOwner request).1.status = .applied then
        some (request.selection, (store.setOwner request).1.effectiveTime)
      else none
  | _ => none

/-- The changes of a run. -/
def changes (store : SelectionStore) : List SelectionCall → List (Nat × UInt32)
  | [] => []
  | call :: calls =>
      (store.change call).toList ++ (store.perform call).changes calls

/-- A request is applied when it is no earlier than the change that its owner
remembers and no later than the server. -/
theorem setOwner_applied_iff (store : SelectionStore)
    (request : OwnershipRequest) :
    (store.setOwner request).1.status = .applied ↔
      request.selection ≠ 0 ∧
      (request.ownerWindow = 0 ∨ request.ownerWindowExists = true) ∧
      laterTime request.effectiveTime request.serverTime = false ∧
      ∀ owner, store.owner request.selection = some owner →
        owner.lastChangeTime ≠ 0 →
          laterTime owner.lastChangeTime request.effectiveTime = false := by
  unfold setOwner owner
  simp only
  split
  · simp [*]
  · rename_i valid
    split
    · rename_i missing
      simp only [Bool.and_eq_true, decide_eq_true_eq, Bool.not_eq_true']
        at missing
      simp [missing]
    · rename_i exists'
      simp only [Bool.and_eq_true, decide_eq_true_eq, Bool.not_eq_true',
        not_and, Bool.not_eq_false] at exists'
      have known : request.ownerWindow = 0 ∨
          request.ownerWindowExists = true := by
        by_cases none : request.ownerWindow = 0
        · exact Or.inl none
        · exact Or.inr (exists' none)
      cases current : store.owners[request.selection]? with
      | none =>
          split
          · rename_i stale
            simp only [Option.map_none, Option.getD_none, Bool.or_eq_true,
              Bool.and_eq_true, decide_eq_true_eq, ne_eq, not_true_eq_false,
              false_and, false_or] at stale
            simp [stale]
          · rename_i fresh
            simp only [Bool.or_eq_true, not_or, Bool.not_eq_true] at fresh
            simp [valid, known, fresh.2]
      | some owner =>
          split
          · rename_i stale
            simp only [Option.map_some, Option.getD_some, Bool.or_eq_true,
              Bool.and_eq_true, decide_eq_true_eq] at stale
            simp only [reduceCtorEq, false_iff]
            rintro ⟨_, _, current', kept⟩
            rcases stale with ⟨set, later⟩ | later
            · rw [kept owner rfl set] at later
              cases later
            · rw [later] at current'
              cases current'
          · rename_i fresh
            simp only [Option.map_some, Option.getD_some, Bool.or_eq_true,
              Bool.and_eq_true, decide_eq_true_eq, not_or, not_and,
              Bool.not_eq_true] at fresh
            simp only [true_iff]
            refine ⟨valid, known, fresh.2, ?_⟩
            rintro _ ⟨⟩ set
            exact fresh.1 set

/-- The owners after a request that is applied. -/
theorem setOwner_owners {store : SelectionStore} {request : OwnershipRequest}
    (applied : (store.setOwner request).1.status = .applied) :
    (store.setOwner request).1.effectiveTime = request.effectiveTime ∧
    (store.setOwner request).2.owners =
      if request.ownerWindow = 0 then store.owners.erase request.selection
      else store.owners.insert request.selection
        { client := request.client
          window := request.ownerWindow
          lastChangeTime := request.effectiveTime } := by
  unfold setOwner at applied ⊢
  simp only at applied ⊢
  split at applied
  · cases applied
  · split at applied
    · cases applied
    · split at applied
      · cases applied
      · rename_i valid exists' fresh
        rw [if_neg valid, if_neg exists', if_neg fresh]
        exact ⟨rfl, rfl⟩

theorem setOwner_refused {store : SelectionStore} {request : OwnershipRequest}
    (refused : (store.setOwner request).1.status ≠ .applied) :
    (store.setOwner request).2 = store := by
  unfold setOwner at refused ⊢
  simp only at refused ⊢
  split
  · rfl
  · split
    · rfl
    · split
      · rfl
      · rename_i valid exists' fresh
        rw [if_neg valid, if_neg exists', if_neg fresh] at refused
        exact absurd rfl refused

theorem selectXFixes_owners (store : SelectionStore)
    (client window selection mask : Nat) :
    (store.selectXFixes client window selection mask).2.owners =
      store.owners := by
  unfold selectXFixes
  simp only
  split
  · rfl
  · split
    · rfl
    · split
      · rfl
      · rfl

theorem change_eq_some {store : SelectionStore} {call : SelectionCall}
    {selection : Nat} {time : UInt32}
    (changed : store.change call = some (selection, time)) :
    ∃ request, call = .setOwner request ∧ selection = request.selection ∧
      time = request.effectiveTime ∧
      (store.setOwner request).1.status = .applied := by
  cases call with
  | setOwner request =>
      rw [change] at changed
      split at changed
      · rename_i applied
        obtain ⟨rfl, rfl⟩ := Prod.mk.inj (Option.some.inj changed)
        exact ⟨request, rfl, rfl, (setOwner_owners applied).1, applied⟩
      · cases changed
  | clearWindow window => cases changed
  | clearClient client => cases changed
  | selectXFixes client window selection mask => cases changed

/-- An owner that is there after a call was there before, or has come with the
change. -/
theorem owner_perform {store : SelectionStore} {call : SelectionCall}
    {selection : Nat} {owner : SelectionOwner}
    (found : (store.perform call).owner selection = some owner) :
    store.change call = some (selection, owner.lastChangeTime) ∨
      (store.owner selection = some owner ∧
        ∀ time, store.change call ≠ some (selection, time)) := by
  cases call with
  | setOwner request =>
      rw [perform] at found
      by_cases applied : (store.setOwner request).1.status = .applied
      · obtain ⟨time, owners⟩ := setOwner_owners applied
        rw [SelectionStore.owner, owners] at found
        rw [change, if_pos applied, time]
        split at found
        · rw [KeyMap.lookup_erase] at found
          split at found
          · cases found
          · rename_i other
            refine Or.inr ⟨found, fun time same => ?_⟩
            exact other (Prod.mk.inj (Option.some.inj same)).1
        · rw [KeyMap.lookup_insert] at found
          split at found
          · rename_i same
            obtain rfl := Option.some.inj found
            rw [same]
            exact Or.inl rfl
          · rename_i other
            refine Or.inr ⟨found, fun time same => ?_⟩
            exact other (Prod.mk.inj (Option.some.inj same)).1
      · rw [setOwner_refused applied] at found
        refine Or.inr ⟨found, fun time same => ?_⟩
        rw [change, if_neg applied] at same
        cases same
  | clearWindow window =>
      rw [perform, SelectionStore.owner, clearWindow,
        Std.ExtTreeMap.getElem?_filter'] at found
      exact Or.inr ⟨(Option.filter_eq_some_iff.mp found).1,
        fun time same => by cases same⟩
  | clearClient client =>
      rw [perform, SelectionStore.owner, clearClient,
        Std.ExtTreeMap.getElem?_filter'] at found
      exact Or.inr ⟨(Option.filter_eq_some_iff.mp found).1,
        fun time same => by cases same⟩
  | selectXFixes client window selection' mask =>
      rw [perform, SelectionStore.owner, selectXFixes_owners] at found
      exact Or.inr ⟨found, fun time same => by cases same⟩

end SelectionStore

/-! ## Runs -/

/-- The store with the time of the last change of each selection. -/
structure SelectionHistory where
  store : SelectionStore := {}
  lastChange : KeyMap UInt32 := ∅

namespace SelectionHistory

def step (history : SelectionHistory) (call : SelectionCall) :
    SelectionHistory :=
  { store := history.store.perform call
    lastChange :=
      match history.store.change call with
      | some (selection, time) => history.lastChange.insert selection time
      | none => history.lastChange }

/-- What the owners remember is the last change. -/
def Remembered (history : SelectionHistory) : Prop :=
  ∀ selection owner, history.store.owner selection = some owner →
    history.lastChange[selection]? = some owner.lastChangeTime

theorem Remembered.step {history : SelectionHistory}
    (remembered : history.Remembered) (call : SelectionCall) :
    (history.step call).Remembered := by
  intro selection owner found
  rw [SelectionHistory.step]
  rcases SelectionStore.owner_perform found with changed | ⟨kept, other⟩
  · simp only [changed, KeyMap.lookup_insert, if_true]
  · cases changed : history.store.change call with
    | none => exact remembered selection owner kept
    | some change =>
        obtain ⟨changedSelection, time⟩ := change
        simp only [KeyMap.lookup_insert]
        rw [if_neg, remembered selection owner kept]
        rintro rfl
        exact other time changed

/-- A request earlier than the last change of its selection. -/
def Stale (history : SelectionHistory) (request : OwnershipRequest) : Prop :=
  ∃ time, history.lastChange[request.selection]? = some time ∧
    laterTime time request.effectiveTime = true

/-- A request earlier than the last change is not applied. -/
def StaleIgnored (history : SelectionHistory) (call : SelectionCall) : Prop :=
  ∀ request, call = .setOwner request → history.Stale request →
    (history.store.setOwner request).1.status ≠ .applied

/-- A request earlier than the last change finds an owner that remembers it,
or is later than the server. -/
def ChangeKept (history : SelectionHistory) (call : SelectionCall) : Prop :=
  ∀ request, call = .setOwner request → history.Stale request →
    request.selection = 0 ∨
    (request.ownerWindow ≠ 0 ∧ request.ownerWindowExists = false) ∨
    laterTime request.effectiveTime request.serverTime = true ∨
    ∃ owner, history.store.owner request.selection = some owner ∧
      owner.lastChangeTime ≠ 0

theorem staleIgnored_iff {history : SelectionHistory}
    (remembered : history.Remembered) (call : SelectionCall) :
    history.StaleIgnored call ↔ history.ChangeKept call := by
  unfold StaleIgnored ChangeKept
  refine forall₃_congr fun request isCall stale => ?_
  obtain ⟨time, last, later⟩ := stale
  rw [ne_eq, SelectionStore.setOwner_applied_iff]
  constructor
  · intro refused
    by_contra kept
    simp only [not_or, not_and, not_exists, Bool.not_eq_false,
      Bool.not_eq_true, ne_eq, Decidable.not_not] at kept
    obtain ⟨valid, known, current, forgotten⟩ := kept
    refine refused ⟨valid, ?_, current, fun owner found set =>
      absurd (forgotten owner found) set⟩
    by_cases none : request.ownerWindow = 0
    · exact Or.inl none
    · exact Or.inr (known none)
  · rintro kept ⟨valid, known, current, fresh⟩
    rcases kept with same | ⟨window, missing⟩ | ahead | ⟨owner, found, set⟩
    · exact valid same
    · rw [missing] at known
      exact known.elim window Bool.false_ne_true
    · rw [ahead] at current
      cases current
    · have told := remembered _ owner found
      rw [last] at told
      obtain rfl := Option.some.inj told
      rw [fresh owner found set] at later
      cases later

/-- The changes of a selection, the last one before the run first. -/
def changesOf (history : SelectionHistory) (calls : List SelectionCall)
    (selection : Nat) : List UInt32 :=
  history.lastChange[selection]?.toList ++
    ((history.store.changes calls).filter (·.1 = selection)).map Prod.snd

/-- The times of the changes never go back. -/
def ChangesInOrder (history : SelectionHistory) (calls : List SelectionCall) :
    Prop :=
  ∀ selection, (history.changesOf calls selection).IsChain
    fun former latter => laterTime former latter = false

section

variable {history : SelectionHistory} {call : SelectionCall}

theorem changesOf_none (unchanged : history.store.change call = none)
    (calls : List SelectionCall) (selection : Nat) :
    history.changesOf (call :: calls) selection =
      (history.step call).changesOf calls selection := by
  simp only [changesOf, SelectionStore.changes, SelectionHistory.step,
    unchanged, Option.toList_none, List.nil_append]

theorem changesOf_other {changed : Nat} {time : UInt32}
    (change : history.store.change call = some (changed, time))
    (calls : List SelectionCall) {selection : Nat}
    (other : changed ≠ selection) :
    history.changesOf (call :: calls) selection =
      (history.step call).changesOf calls selection := by
  simp only [changesOf, SelectionStore.changes, SelectionHistory.step, change,
    Option.toList_some, List.singleton_append, KeyMap.lookup_insert,
    List.filter_cons, other, decide_false, Bool.false_eq_true, if_false]

theorem changesOf_some {selection : Nat} {time : UInt32}
    (change : history.store.change call = some (selection, time))
    (calls : List SelectionCall) :
    ∃ later, (history.step call).changesOf calls selection = time :: later ∧
      history.changesOf (call :: calls) selection =
        history.lastChange[selection]?.toList ++ time :: later := by
  refine ⟨(((history.step call).store.changes calls).filter
    (·.1 = selection)).map Prod.snd, ?_, ?_⟩
  · simp only [changesOf, SelectionHistory.step, change, KeyMap.lookup_insert,
      if_true, Option.toList_some, List.singleton_append]
  · simp only [changesOf, SelectionStore.changes, SelectionHistory.step, change,
      Option.toList_some, List.singleton_append, List.filter_cons, decide_true,
      if_true, List.map_cons]

theorem staleIgnored_none (unchanged : history.store.change call = none) :
    history.StaleIgnored call := by
  rintro request rfl _ applied
  rw [SelectionStore.change, if_pos applied] at unchanged
  cases unchanged

theorem staleIgnored_some {selection : Nat} {time : UInt32}
    (change : history.store.change call = some (selection, time)) :
    history.StaleIgnored call ↔
      ∀ last, history.lastChange[selection]? = some last →
        laterTime last time = false := by
  obtain ⟨request, rfl, rfl, rfl, applied⟩ :=
    SelectionStore.change_eq_some change
  constructor
  · intro ignored last isLast
    by_contra later
    rw [Bool.not_eq_false] at later
    exact ignored request rfl ⟨last, isLast, later⟩ applied
  · rintro ordered _ ⟨⟩ ⟨last, isLast, later⟩ _
    rw [ordered last isLast] at later
    cases later

end

/-- The changes go forwards exactly when no request earlier than the last
change is applied. -/
theorem changesInOrder_iff (history : SelectionHistory)
    (calls : List SelectionCall) :
    history.ChangesInOrder calls ↔ Guarded step StaleIgnored history calls := by
  induction calls generalizing history with
  | nil =>
      refine iff_of_true (fun selection => ?_) trivial
      rw [changesOf]
      cases history.lastChange[selection]? with
      | none => exact List.isChain_nil
      | some last => exact List.isChain_singleton last
  | cons call calls ih =>
      rw [Guarded, ← ih]
      cases changed : history.store.change call with
      | none =>
          rw [and_iff_right (staleIgnored_none changed)]
          refine forall_congr' fun selection => ?_
          rw [changesOf_none changed]
      | some change =>
          obtain ⟨selection, time⟩ := change
          rw [staleIgnored_some changed]
          obtain ⟨later, rest, whole⟩ := changesOf_some changed calls
          constructor
          · intro ordered
            have here := ordered selection
            rw [whole] at here
            refine ⟨fun last isLast => ?_, fun other => ?_⟩
            · rw [isLast] at here
              exact (List.isChain_cons_cons.mp here).1
            · by_cases same : selection = other
              · subst same
                rw [rest]
                exact here.right_of_append
              · rw [← changesOf_other changed calls same]
                exact ordered other
          · rintro ⟨forwards, ordered⟩ other
            by_cases same : selection = other
            · subst same
              have after := ordered selection
              rw [rest] at after
              rw [whole]
              cases isLast : history.lastChange[selection]? with
              | none => exact after
              | some last =>
                  exact List.isChain_cons_cons.mpr
                    ⟨forwards last isLast, after⟩
            · rw [changesOf_other changed calls same]
              exact ordered other

end SelectionHistory

/-- The changes of every selection go forwards, and requests earlier than the
last change are ignored, exactly in the runs in which no such request finds
the selection without an owner that remembers the change. -/
theorem selection_changes_ordered_iff (calls : List SelectionCall) :
    (SelectionHistory.ChangesInOrder {} calls ∧
      Guarded SelectionHistory.step SelectionHistory.StaleIgnored {} calls) ↔
      Guarded SelectionHistory.step SelectionHistory.ChangeKept {} calls := by
  rw [SelectionHistory.changesInOrder_iff, and_self]
  have start : SelectionHistory.Remembered {} := by
    intro selection owner found
    rw [SelectionStore.owner, Std.ExtTreeMap.getElem?_empty] at found
    cases found
  apply Guarded.congr SelectionHistory.Remembered _ _ start
    (Guarded.always fun _ _ => trivial)
  · exact fun history call remembered _ =>
      SelectionHistory.staleIgnored_iff remembered call
  · exact fun history call remembered _ _ => remembered.step call

/-- The times that the server has told in a run. -/
def serverTimes (calls : List SelectionCall) : List UInt32 :=
  calls.filterMap fun
    | .setOwner request => some request.serverTime
    | _ => none

/-- An owner that gives the selection up, and a request from before that. -/
def releasedSelection : List SelectionCall :=
  [.setOwner ⟨10, 1, 20, true, 0, 1000⟩,
   .setOwner ⟨10, 1, 0, true, 0, 1005⟩,
   .setOwner ⟨11, 1, 21, true, 500, 1010⟩]

theorem selection_change_goes_back :
    (serverTimes releasedSelection).IsChain
        (fun former latter => laterTime former latter = false) ∧
      ¬SelectionHistory.ChangesInOrder {} releasedSelection := by
  refine ⟨by decide, fun ordered => ?_⟩
  have times : SelectionHistory.changesOf {} releasedSelection 1 =
      [1000, 1005, 500] := by decide +kernel
  have here := ordered 1
  rw [times] at here
  exact absurd here (by decide)

end Glasswyrm.Server
