import Glasswyrm.Server.WindowTree

namespace Glasswyrm.Server

open Library

/-! Windows are destroyed in an order in which each has lost its children
before its own turn comes. -/

namespace ResourceTable

variable {table : ResourceTable}

/-- A window without children leaves the tree. -/
theorem Tree.destroyLeaf (tree : table.Tree) {xid : Nat}
    {window : WindowResource} (found : table.findWindow xid = some window)
    (bare : window.children = []) (away : xid ≠ table.screen.rootWindow) :
    (table.destroyLeaf xid).Tree := by
  have detached : ∀ node, (table.destroyLeaf xid).links node =
      if node = xid then none
      else (table.links node).map fun record =>
        { record with children := record.children.filter (· ≠ xid) } := by
    intro node
    rw [links, findWindow_destroyLeaf found away]
    split
    · rfl
    · rename_i other
      cases here : table.findWindow node with
      | none =>
          rw [links, here]
          split <;> rfl
      | some record =>
          rw [links_of_found here]
          split
          · refine congrArg some ?_
            simp only [WindowResource.link,
              withoutChild_eq (tree.distinct here)]
          · rename_i elsewhere
            refine congrArg some ?_
            have absent : xid ∉ record.children := by
              intro member
              obtain ⟨_, below, isBelow, back⟩ := tree.child here member
              rw [found] at isBelow
              obtain rfl := Option.some.inj isBelow
              exact elsewhere back.symm
            have same : record.children.filter (· ≠ xid) =
                record.children := by
              refine List.filter_eq_self.mpr fun child member => ?_
              exact decide_eq_true fun same => absent (same ▸ member)
            simp only [WindowResource.link, same]
  refine ⟨?_, ?_, ?_⟩
  · rw [destroyLeaf_screen]
    exact tree.linked.detach (links_of_found found) bare away detached
  · rw [destroyLeaf_screen]
    intro link told
    rw [detached, if_neg away.symm] at told
    obtain ⟨former, before, rfl⟩ := Option.map_eq_some_iff.mp told
    exact tree.top former before
  · rw [detached]
    split
    · rfl
    · rw [tree.vacant]
      rfl

/-! ## The order of destruction -/

/-- Every window comes after its children. -/
def Postordered (table : ResourceTable) (order : List Nat) : Prop :=
  ∀ front xid back, order = front ++ xid :: back →
    ∀ window, table.findWindow xid = some window →
      ∀ child ∈ window.children, child ∈ front

theorem Postordered.nil : table.Postordered [] := by
  intro front xid back same
  exact absurd same.symm (List.append_ne_nil_of_right_ne_nil _
    (List.cons_ne_nil _ _))

theorem Postordered.concat {order : List Nat} {xid : Nat}
    (ordered : table.Postordered order)
    (before : ∀ window, table.findWindow xid = some window →
      ∀ child ∈ window.children, child ∈ order) :
    table.Postordered (order ++ [xid]) := by
  intro front current back same window found child member
  rcases List.eq_nil_or_concat back with rfl | ⟨rest, last, rfl⟩
  · obtain ⟨rfl, last⟩ := List.append_inj' same rfl
    obtain rfl := List.singleton_inj.mp last
    exact before window found child member
  · rw [List.concat_eq_append, ← List.cons_append, ← List.append_assoc] at same
    obtain ⟨rfl, _⟩ := List.append_inj' same rfl
    exact ordered front current rest rfl window found child member

/-- What the loop of the capture keeps: a window that waits for itself has its
children in the order already, or before it on the stack. -/
structure Capturing (table : ResourceTable) (stack : List (Nat × Bool))
    (postorder : List ClientCleanupWindow) : Prop where
  ordered : table.Postordered (postorder.map (·.xid))
  waiting : ∀ front xid back, stack = front ++ (xid, true) :: back →
    ∀ window, table.findWindow xid = some window →
      ∀ child ∈ window.children,
        child ∈ postorder.map (·.xid) ∨ ∃ expanded, (child, expanded) ∈ front
  inner : ∀ item ∈ stack, item.1 ≠ table.screen.rootWindow
  captured : ∀ entry ∈ postorder, entry.xid ≠ table.screen.rootWindow

namespace Capturing

variable {stack : List (Nat × Bool)} {postorder : List ClientCleanupWindow}
  {xid : Nat} {window : WindowResource}

/-- A window is entered once its children are. -/
theorem enter
    (capturing : Capturing table ((xid, true) :: stack) postorder)
    {entry : ClientCleanupWindow} (same : entry.xid = xid) :
    Capturing table stack (postorder ++ [entry]) where
  ordered := by
    rw [List.map_append, List.map_singleton, same]
    apply capturing.ordered.concat
    intro window found child member
    rcases capturing.waiting [] xid stack rfl window found child member with
      there | ⟨expanded, nowhere⟩
    · exact there
    · cases nowhere
  waiting := by
    intro front current back split window found child member
    rcases capturing.waiting ((xid, true) :: front) current back
      (by rw [split]; rfl) window found child member with
      there | ⟨expanded, before⟩
    · left
      rw [List.map_append]
      exact List.mem_append_left _ there
    · rcases List.mem_cons.mp before with first | before
      · left
        obtain ⟨rfl, _⟩ := Prod.mk.inj first
        rw [List.map_append, List.map_singleton, same]
        exact List.mem_append_right _ List.mem_cons_self
      · exact Or.inr ⟨expanded, before⟩
  inner := fun item member =>
    capturing.inner item (List.mem_cons_of_mem _ member)
  captured := by
    intro other member
    rcases List.mem_append.mp member with member | member
    · exact capturing.captured other member
    · rw [List.mem_singleton.mp member, same]
      exact capturing.inner (xid, true) List.mem_cons_self

/-- A window waits below its children. -/
theorem expand (tree : table.Tree)
    (capturing : Capturing table ((xid, false) :: stack) postorder)
    (found : table.findWindow xid = some window) :
    Capturing table ((window.children.map fun child => (child, false)).reverse
      ++ (xid, true) :: stack) postorder where
  ordered := capturing.ordered
  waiting := by
    intro front current back split other isOther child member
    -- the window itself, or one that waited below it
    have either : (current = xid ∧ (window.children.map fun child =>
          (child, false)).reverse = front) ∨
        ∃ middle, stack = middle ++ (current, true) :: back ∧
          front = (window.children.map fun child => (child, false)).reverse ++
            (xid, true) :: middle := by
      rcases List.append_eq_append_iff.mp split with
        ⟨middle, same, rest⟩ | ⟨middle, pushed, rest⟩
      · cases middle with
        | nil =>
            obtain ⟨first, _⟩ := List.cons.inj rest
            rw [List.append_nil] at same
            exact Or.inl ⟨(Prod.mk.inj first).1.symm, same.symm⟩
        | cons first middle =>
            obtain ⟨rfl, later⟩ := List.cons.inj rest
            exact Or.inr ⟨middle, later, same⟩
      · cases middle with
        | nil =>
            obtain ⟨first, _⟩ := List.cons.inj rest
            rw [List.append_nil] at pushed
            exact Or.inl ⟨(Prod.mk.inj first).1, pushed⟩
        | cons first middle =>
            obtain ⟨rfl, _⟩ := List.cons.inj rest
            have listed : (current, true) ∈
                (window.children.map fun child => (child, false)).reverse := by
              rw [pushed]
              exact List.mem_append_right _ List.mem_cons_self
            rw [List.mem_reverse] at listed
            obtain ⟨_, _, wrong⟩ := List.mem_map.mp listed
            cases wrong
    rcases either with ⟨rfl, rfl⟩ | ⟨middle, rfl, rfl⟩
    · rw [found] at isOther
      obtain rfl := Option.some.inj isOther
      refine Or.inr ⟨false, ?_⟩
      rw [List.mem_reverse]
      exact List.mem_map_of_mem member
    · rcases capturing.waiting ((xid, false) :: middle) current back rfl other
        isOther child member with there | ⟨expanded, before⟩
      · exact Or.inl there
      · rcases List.mem_cons.mp before with first | before
        · obtain ⟨rfl, _⟩ := Prod.mk.inj first
          exact Or.inr ⟨true, List.mem_append_right _ List.mem_cons_self⟩
        · exact Or.inr ⟨expanded, List.mem_append_right _
            (List.mem_cons_of_mem _ before)⟩
  inner := by
    intro item member
    rcases List.mem_append.mp member with member | member
    · rw [List.mem_reverse] at member
      obtain ⟨child, listed, rfl⟩ := List.mem_map.mp member
      exact (tree.child found listed).1
    · rcases List.mem_cons.mp member with rfl | member
      · exact capturing.inner (xid, false) List.mem_cons_self
      · exact capturing.inner item (List.mem_cons_of_mem _ member)
  captured := capturing.captured

end Capturing

theorem captureLoop_captures (tree : table.Tree) {rounds : Nat}
    {stack : List (Nat × Bool)} {postorder result : List ClientCleanupWindow}
    (capturing : Capturing table stack postorder)
    (captured : table.captureLoop rounds stack postorder = some result) :
    Capturing table [] result := by
  induction rounds generalizing stack postorder with
  | zero =>
      cases stack with
      | nil =>
          obtain rfl := Option.some.inj captured
          exact capturing
      | cons item stack => cases captured
  | succ rounds ih =>
      cases stack with
      | nil =>
          obtain rfl := Option.some.inj captured
          exact capturing
      | cons item stack =>
          obtain ⟨xid, expanded⟩ := item
          rw [captureLoop] at captured
          split at captured
          · cases captured
          · rename_i window found
            cases expanded with
            | true =>
                simp only [if_true] at captured
                exact ih (capturing.enter rfl) captured
            | false =>
                simp only [Bool.false_eq_true, if_false] at captured
                exact ih (capturing.expand tree found) captured

theorem captureDestroyPlan_ordered (tree : table.Tree) {xid : Nat}
    {plan : WindowDestroyPlan}
    (captured : table.captureDestroyPlan xid = some plan) :
    table.Postordered (plan.postorder.map (·.xid)) ∧
      ∀ entry ∈ plan.postorder, entry.xid ≠ table.screen.rootWindow := by
  unfold captureDestroyPlan at captured
  split at captured
  · cases captured
  · rename_i inner
    simp only [Bool.or_eq_true, decide_eq_true_eq, not_or] at inner
    obtain ⟨postorder, walked, captured⟩ := Option.bind_eq_some_iff.mp captured
    obtain rfl := Option.some.inj captured
    have start : Capturing table [(xid, false)] [] := by
      refine ⟨.nil, ?_, ?_, List.forall_mem_nil _⟩
      · intro front current back split
        cases front with
        | nil =>
            obtain ⟨wrong, _⟩ := List.cons.inj split
            cases wrong
        | cons first front =>
            have nothing := (List.cons.inj split).2
            exact absurd nothing.symm
              (List.append_ne_nil_of_right_ne_nil _ (List.cons_ne_nil _ _))
      · intro item member
        rw [List.mem_singleton.mp member]
        exact inner.1
    have done := captureLoop_captures tree start walked
    exact ⟨done.ordered, done.captured⟩

/-! ## The induction rule of destruction -/

/-- What the destruction of one window without children keeps, the destruction
of windows in order keeps. -/
theorem destroyAll_keeps {motive : ResourceTable → Prop}
    (step : ∀ (table : ResourceTable) (xid : Nat) (window : WindowResource),
      table.Tree → motive table → table.findWindow xid = some window →
        window.children = [] → xid ≠ table.screen.rootWindow →
          motive (table.destroyLeaf xid))
    (tree : table.Tree) (holds : motive table) {order : List Nat}
    (ordered : table.Postordered order)
    (inner : ∀ xid ∈ order, xid ≠ table.screen.rootWindow) :
    (order.foldl destroyLeaf table).Tree ∧
      motive (order.foldl destroyLeaf table) := by
  -- of the windows that are left none has a child that was not its own before,
  -- and none of those that have had their turn is left
  suffices general : ∀ front back reached, order = front ++ back →
      reached.screen = table.screen → reached.Tree → motive reached →
      (∀ xid ∈ front, reached.findWindow xid = none) →
      (∀ xid window, reached.findWindow xid = some window →
        ∃ former, table.findWindow xid = some former ∧
          ∀ child ∈ window.children, child ∈ former.children) →
      (back.foldl destroyLeaf reached).Tree ∧
        motive (back.foldl destroyLeaf reached) by
    exact general [] order table rfl rfl tree holds (List.forall_mem_nil _)
      fun xid window found => ⟨window, found, fun child member => member⟩
  intro front back
  induction back generalizing front with
  | nil => exact fun reached _ _ tree holds _ _ => ⟨tree, holds⟩
  | cons xid back ih =>
      intro reached whole screen treed held gone former
      have rest : order = (front ++ [xid]) ++ back := by
        rw [whole, List.append_assoc, List.singleton_append]
      rw [List.foldl_cons]
      have away : xid ≠ reached.screen.rootWindow := by
        rw [screen]
        exact inner xid (by
          rw [whole]
          exact List.mem_append_right _ List.mem_cons_self)
      cases found : reached.findWindow xid with
      | none =>
          have idle : reached.destroyLeaf xid = reached := by
            rw [ResourceTable.destroyLeaf, found]
          rw [idle]
          refine ih (front ++ [xid]) reached rest screen treed held ?_ former
          intro other member
          rcases List.mem_append.mp member with member | member
          · exact gone other member
          · rw [List.mem_singleton.mp member]
            exact found
      | some window =>
          have bare : window.children = [] := by
            refine List.eq_nil_iff_forall_not_mem.mpr fun child member => ?_
            obtain ⟨before, isBefore, children⟩ := former xid window found
            have earlier := ordered front xid back whole before isBefore child
              (children child member)
            obtain ⟨_, below, isBelow, _⟩ := treed.child found member
            rw [gone child earlier] at isBelow
            cases isBelow
          have after := findWindow_destroyLeaf found away
          refine ih (front ++ [xid]) _ rest
            ((destroyLeaf_screen xid).trans screen)
            (treed.destroyLeaf found bare away)
            (step reached xid window treed held found bare away) ?_ ?_
          · intro other member
            rw [after]
            rcases List.mem_append.mp member with member | member
            · split
              · rfl
              · split
                · rw [gone other member]
                  rfl
                · exact gone other member
            · rw [if_pos (List.mem_singleton.mp member)]
          · intro other left isLeft
            rw [after] at isLeft
            split at isLeft
            · cases isLeft
            · split at isLeft
              · obtain ⟨here, isHere, rfl⟩ := Option.map_eq_some_iff.mp isLeft
                obtain ⟨before, isBefore, children⟩ := former other here isHere
                refine ⟨before, isBefore, fun child member => ?_⟩
                refine children child ?_
                simp only [withoutChild_eq (treed.distinct isHere)] at member
                exact (List.mem_filter.mp member).1
              · exact former other left isLeft

section

variable {motive : ResourceTable → Prop}
  (step : ∀ (table : ResourceTable) (xid : Nat) (window : WindowResource),
    table.Tree → motive table → table.findWindow xid = some window →
      window.children = [] → xid ≠ table.screen.rootWindow →
        motive (table.destroyLeaf xid))

include step

theorem commitDestroyPlan_keeps (tree : table.Tree) (holds : motive table)
    (plan : WindowDestroyPlan) :
    (table.commitDestroyPlan plan).2.Tree ∧
      motive (table.commitDestroyPlan plan).2 := by
  unfold commitDestroyPlan
  split
  · exact ⟨tree, holds⟩
  · rename_i current captured
    split
    · exact ⟨tree, holds⟩
    · rename_i same
      rw [ne_eq, Decidable.not_not] at same
      have windows : plan.postorder.map (·.xid) =
          current.postorder.map (·.xid) := by
        have firsts := congrArg (List.map Prod.fst) same
        simp only [List.map_map] at firsts
        exact firsts.symm
      obtain ⟨ordered, inner⟩ := captureDestroyPlan_ordered tree captured
      have folded : plan.postorder.foldl
          (fun table entry => table.destroyLeaf entry.xid) table =
            (current.postorder.map (·.xid)).foldl destroyLeaf table := by
        rw [← windows, List.foldl_map]
      simp only
      rw [folded]
      refine destroyAll_keeps step tree holds ordered (fun xid member => ?_)
      obtain ⟨entry, listed, rfl⟩ := List.mem_map.mp member
      exact inner entry listed

theorem destroyWindow_keeps (tree : table.Tree) (holds : motive table)
    (xid : Nat) :
    (table.destroyWindow xid).2.Tree ∧ motive (table.destroyWindow xid).2 := by
  unfold destroyWindow
  split
  · exact ⟨tree, holds⟩
  · split
    · exact ⟨tree, holds⟩
    · exact commitDestroyPlan_keeps step tree holds _

/-- The cleanup of a client keeps what the destruction of a window keeps, and
what depends on the windows alone. -/
theorem commitClientCleanup_keeps
    (windows : ∀ before after : ResourceTable, after.screen = before.screen →
      (∀ id, after.findWindow id = before.findWindow id) →
        motive before → motive after)
    (tree : table.Tree) (holds : motive table) (plan : ClientCleanupPlan) :
    (table.commitClientCleanup plan).Tree ∧
      motive (table.commitClientCleanup plan) := by
  have destroyed : (plan.roots.foldl destroyRoot table).Tree ∧
      motive (plan.roots.foldl destroyRoot table) := by
    generalize plan.roots = roots
    induction roots generalizing table with
    | nil => exact ⟨tree, holds⟩
    | cons root roots ih =>
        rw [List.foldl_cons]
        have first : (table.destroyRoot root).Tree ∧
            motive (table.destroyRoot root) := by
          unfold destroyRoot
          split
          · exact commitDestroyPlan_keeps step tree holds _
          · exact ⟨tree, holds⟩
        exact ih first.1 first.2
  unfold commitClientCleanup
  simp only
  generalize plan.roots.foldl destroyRoot table = reached at destroyed ⊢
  generalize reached.resourcesByOwner[plan.owner]?.getD [] = remaining
  induction remaining generalizing reached with
  | nil => exact destroyed
  | cons xid remaining ih =>
      rw [List.foldl_cons]
      apply ih
      have screen := freeOwned_screen reached xid
      refine ⟨destroyed.1.of_windows (by rw [screen])
        (findWindow_freeOwned reached xid), ?_⟩
      exact windows reached _ screen (findWindow_freeOwned reached xid)
        destroyed.2

end

end ResourceTable

end Glasswyrm.Server
