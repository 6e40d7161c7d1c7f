import Glasswyrm.Server.ResourceRemoval

namespace Glasswyrm.Server

open Library
open X11 (ScreenModel)

/-! The destruction of a window takes the windows below it, what depends on
any of them, and nothing else. -/

namespace ResourceTable

variable {table : ResourceTable} {xid : Nat}

/-! ## What is reported -/

/-- How many resources are said to go with a window. -/
def destroyLeafCount (table : ResourceTable) (xid : Nat) : Nat :=
  match table.findWindow xid with
  | none => 0
  | some _ =>
      if xid = table.screen.rootWindow then 0
      else (table.dependents xid).length + 1

def destroyLeafCounted (result : Nat × ResourceTable) (xid : Nat) :
    Nat × ResourceTable :=
  (result.1 + result.2.destroyLeafCount xid, result.2.destroyLeaf xid)

/-- The destruction with the number of resources that it reports. -/
def commitDestroyPlanCounted (result : Nat × ResourceTable)
    (plan : WindowDestroyPlan) : Nat × ResourceTable :=
  match result.2.captureDestroyPlan plan.root with
  | none => result
  | some current =>
      if (current.postorder.map fun entry => (entry.xid, entry.parent)) ≠
          plan.postorder.map fun entry => (entry.xid, entry.parent) then
        result
      else
        plan.postorder.foldl
          (fun result entry => destroyLeafCounted result entry.xid) result

/-! ## The capture -/

/-- What the loop enters for a window that it finds on the stack, in two rounds
for each window below. -/
structure Captures (table : ResourceTable) (xid : Nat)
    (entries : List ClientCleanupWindow) : Prop where
  members : ∀ id, id ∈ entries.map (·.xid) ↔ table.OnPath id xid
  distinct : (entries.map (·.xid)).Nodup
  walk : ∀ rounds stack postorder,
    table.captureLoop (2 * entries.length + rounds) ((xid, false) :: stack)
      postorder = table.captureLoop rounds stack (postorder ++ entries)

/-- The windows of a list, one after the other. -/
theorem captures_siblings (tree : table.Tree) {parent : WindowResource}
    (found : table.findWindow xid = some parent) {siblings : List Nat}
    (listed : ∀ child ∈ siblings, child ∈ parent.children)
    (unlike : siblings.Nodup)
    (each : ∀ child ∈ siblings, ∃ entries, table.Captures child entries) :
    ∃ entries : List ClientCleanupWindow,
      (∀ id, id ∈ entries.map (·.xid) ↔
        ∃ child ∈ siblings, table.OnPath id child) ∧
      (entries.map (·.xid)).Nodup ∧
      ∀ rounds stack postorder,
        table.captureLoop (2 * entries.length + rounds)
            (siblings.map (fun child => (child, false)) ++ stack) postorder =
          table.captureLoop rounds stack (postorder ++ entries) := by
  induction siblings with
  | nil =>
      refine ⟨[], ?_, List.nodup_nil, ?_⟩
      · intro id
        simp
      · intro rounds stack postorder
        simp
  | cons child siblings ih =>
      obtain ⟨first, rest⟩ := List.forall_mem_cons.mp listed
      obtain ⟨head, tail⟩ := List.nodup_cons.mp unlike
      obtain ⟨⟨own, captures⟩, others⟩ := List.forall_mem_cons.mp each
      obtain ⟨later, members, distinct, walk⟩ := ih rest tail others
      refine ⟨own ++ later, ?_, ?_, ?_⟩
      · intro id
        rw [List.map_append, List.mem_append, captures.members, members]
        simp
      · rw [List.map_append]
        refine List.nodup_append.mpr ⟨captures.distinct, distinct, ?_⟩
        rintro id mine _ theirs rfl
        obtain ⟨sibling, member, below⟩ := (members id).mp theirs
        obtain ⟨away, one, isOne, up⟩ := tree.child found first
        obtain ⟨apart, other, isOther, back⟩ :=
          tree.child found (rest sibling member)
        have same := tree.apart isOne isOther away apart (up.trans back.symm)
          ((captures.members id).mp mine) below
        rw [same] at head
        exact head member
      · intro rounds stack postorder
        have total : 2 * (own ++ later).length + rounds =
            2 * own.length + (2 * later.length + rounds) := by
          rw [List.length_append]
          omega
        rw [total, List.map_cons, List.cons_append, captures.walk, walk,
          List.append_assoc]

theorem child_passes (tree : table.Tree) {window : WindowResource}
    {child : Nat} (found : table.findWindow xid = some window)
    (member : child ∈ window.children) : table.OnPath child xid := by
  obtain ⟨away, below, isBelow, parent⟩ := tree.child found member
  apply OnPath.above isBelow away
  rw [parent]
  exact .self xid

theorem Tree.captures (tree : table.Tree) {window : WindowResource}
    (found : table.findWindow xid = some window) :
    ∃ entries, table.Captures xid entries := by
  refine tree.ascend (motive := fun xid => ∃ entries,
    table.Captures xid entries) ?_ found
  intro xid window found below
  obtain ⟨entries, members, distinct, walk⟩ := @captures_siblings _ _ tree _
    found window.children.reverse
    (fun child member => List.mem_reverse.mp member)
    (List.nodup_reverse.mpr (tree.distinct found))
    (fun child member => below child (List.mem_reverse.mp member))
  refine ⟨entries ++ [table.cleanupEntry xid window], ?_, ?_, ?_⟩
  · intro id
    rw [List.map_append, List.mem_append, members]
    constructor
    · rintro (⟨child, member, passes⟩ | here)
      · exact onPath_trans passes
          (child_passes tree found (List.mem_reverse.mp member))
      · obtain rfl := List.mem_singleton.mp here
        exact .self _
    · intro passes
      by_cases here : id = xid
      · right
        rw [here]
        exact List.mem_singleton_self xid
      · obtain ⟨child, below, reaches, away, isBelow, parent⟩ :=
          child_onPath passes here
        obtain ⟨above, isAbove, listed⟩ := tree.listed isBelow away
        rw [parent, found] at isAbove
        obtain rfl := Option.some.inj isAbove
        exact Or.inl ⟨child, List.mem_reverse.mpr listed, reaches⟩
  · rw [List.map_append]
    refine List.nodup_append.mpr ⟨distinct, List.nodup_singleton _, ?_⟩
    rintro id member other here rfl
    obtain rfl := List.mem_singleton.mp here
    obtain ⟨child, listed, passes⟩ := (members _).mp member
    obtain ⟨away, below, isBelow, parent⟩ :=
      tree.child found (List.mem_reverse.mp listed)
    obtain ⟨depth, ranked⟩ := tree.ranked
    have up := tree.onPath_depth ranked passes
    have down := ranked.parent tree isBelow away
    rw [parent] at down
    omega
  · intro rounds stack postorder
    have total : 2 * (entries ++ [table.cleanupEntry xid window]).length +
        rounds = 2 * entries.length + (rounds + 1) + 1 := by
      rw [List.length_append, List.length_singleton]
      omega
    rw [total, captureLoop]
    simp only [found, Bool.false_eq_true, if_false]
    rw [← List.map_reverse, walk, captureLoop]
    simp only [found, if_true, List.append_assoc]

/-- The capture of a window never runs out of rounds. -/
theorem captureDestroyPlan_captures (tree : table.Tree)
    {window : WindowResource} (found : table.findWindow xid = some window)
    (away : xid ≠ table.screen.rootWindow) :
    ∃ entries, table.Captures xid entries ∧
      table.captureDestroyPlan xid = some { root := xid, postorder := entries } :=
  by
  obtain ⟨entries, captures⟩ := tree.captures found
  refine ⟨entries, captures, ?_⟩
  have known : ∀ id ∈ entries.map (·.xid), id ∈ table.resources := by
    intro id member
    have there : ∃ window, table.findWindow id = some window := by
      have passes := (captures.members id).mp member
      cases passes with
      | self => exact ⟨window, found⟩
      | above isLower _ _ => exact ⟨_, isLower⟩
    obtain ⟨lower, isLower⟩ := there
    obtain ⟨record, isRecord, _⟩ := Option.bind_eq_some_iff.mp isLower
    exact KeyMap.mem_of_lookup isRecord
  have few := KeyMap.length_le_size table.resources captures.distinct known
  rw [List.length_map] at few
  obtain ⟨spare, enough⟩ : ∃ spare,
      2 * table.resources.size = 2 * entries.length + spare :=
    ⟨2 * table.resources.size - 2 * entries.length, by omega⟩
  have walked := captures.walk spare [] []
  have done : ∀ postorder, table.captureLoop spare [] postorder =
      some postorder := by
    intro postorder
    cases spare <;> rfl
  rw [done, List.nil_append] at walked
  unfold captureDestroyPlan
  rw [enough, walked]
  simp [away, found]

/-! ## The destruction -/

theorem Postordered.before {order : List Nat} {last : Nat}
    (ordered : table.Postordered (order ++ [last])) :
    table.Postordered order := by
  intro front current back split window found child member
  apply ordered front current (back ++ [last]) _ window found child member
  rw [split, List.append_assoc, List.cons_append]

/-- The windows in their order, and what depends on them. -/
theorem destroyAll_removes (consistent : table.Consistent) {order : List Nat}
    (ordered : table.Postordered order) (distinct : order.Nodup)
    (windows : ∀ id ∈ order, id ≠ table.screen.rootWindow ∧
      ∃ window, table.findWindow id = some window) :
    (order.foldl destroyLeaf table).Consistent ∧
      ∃ gone, Removes gone table (order.foldl destroyLeaf table) ∧
        (∀ id, id ∈ gone ↔
          id ∈ order ∨ ∃ drawable ∈ order, id ∈ table.dependents drawable) ∧
        ∀ count, order.foldl destroyLeafCounted (count, table) =
          (count + gone.length, order.foldl destroyLeaf table) := by
  induction order using List.reverseRecOn with
  | nil => exact ⟨consistent, [], .refl table, by simp, fun _ => rfl⟩
  | append_singleton order last ih =>
      obtain ⟨early, _, unlike⟩ := List.nodup_append.mp distinct
      obtain ⟨before, gone, removes, members, counted⟩ :=
        ih ordered.before early
          fun id member => windows id (List.mem_append_left _ member)
      have kept := @destroyAll_keeps table Indexed
        (fun _ xid _ _ indexed _ _ _ => Indexed.destroyLeaf indexed xid)
        consistent.tree consistent.indexed _ ordered
        (fun id member => (windows id member).1)
      obtain ⟨away, window, found⟩ :=
        windows last (List.mem_append_right _ List.mem_cons_self)
      have stays : last ∉ gone := by
        intro member
        rcases (members last).mp member with again | ⟨drawable, _, depends⟩
        · exact unlike last again last List.mem_cons_self rfl
        · obtain ⟨record, isRecord, depends⟩ := mem_dependents.mp depends
          rw [findWindow, isRecord, Option.bind_some,
            window_of_dependsOn depends] at found
          cases found
      have still := removes.findWindow last
      rw [if_neg stays, found, Option.map_some] at still
      have next := destroyLeaf_removes before still
        (by rw [removes.screen]; exact away)
      rw [List.foldl_append, List.foldl_cons, List.foldl_nil] at kept ⊢
      refine ⟨⟨kept.1, kept.2⟩, _, removes.trans next, fun id => ?_,
        fun count => ?_⟩
      rotate_left
      · rw [List.foldl_append, List.foldl_cons, List.foldl_nil, counted,
          destroyLeafCounted, destroyLeafCount]
        simp only [still, removes.screen, if_neg away, List.length_append,
          List.length_singleton, Nat.add_assoc]
      have left : id ∈ (order.foldl destroyLeaf table).dependents last ↔
          id ∉ gone ∧ id ∈ table.dependents last := by
        rw [mem_dependents, mem_dependents, removes.records]
        split <;> rename_i there <;> simp [there]
      rw [List.mem_append, List.mem_append, left, List.mem_append,
        List.mem_singleton]
      constructor
      · rintro (there | ⟨_, depends⟩ | rfl)
        · rcases (members id).mp there with first | ⟨drawable, first, depends⟩
          · exact Or.inl (Or.inl first)
          · exact Or.inr ⟨drawable, List.mem_append_left _ first, depends⟩
        · exact Or.inr ⟨last, List.mem_append_right _ List.mem_cons_self,
            depends⟩
        · exact Or.inl (Or.inr rfl)
      · rintro ((first | rfl) | ⟨drawable, listed, depends⟩)
        · exact Or.inl ((members id).mpr (Or.inl first))
        · exact Or.inr (Or.inr rfl)
        · rcases List.mem_append.mp listed with first | same
          · exact Or.inl ((members id).mpr (Or.inr ⟨drawable, first, depends⟩))
          · obtain rfl := List.mem_singleton.mp same
            by_cases there : id ∈ gone
            · exact Or.inl there
            · exact Or.inr (Or.inl ⟨there, depends⟩)

/-- What goes with a window: the windows below it, and what depends on any of
them. -/
def GoesWith (table : ResourceTable) (xid id : Nat) : Prop :=
  table.OnPath id xid ∨
    ∃ lower, table.OnPath lower xid ∧ id ∈ table.dependents lower

theorem commitDestroyPlan_removes (consistent : table.Consistent)
    {window : WindowResource} (found : table.findWindow xid = some window)
    (away : xid ≠ table.screen.rootWindow) :
    ∃ plan gone, table.captureDestroyPlan xid = some plan ∧
      (plan.postorder.map (·.xid)).Nodup ∧
      (∀ id, id ∈ plan.postorder.map (·.xid) ↔ table.OnPath id xid) ∧
      table.Postordered (plan.postorder.map (·.xid)) ∧
      (table.commitDestroyPlan plan).1 = .success ∧
      (table.commitDestroyPlan plan).2.Consistent ∧
      Removes gone table (table.commitDestroyPlan plan).2 ∧
      (∀ id, id ∈ gone ↔ table.GoesWith xid id) ∧
      ∀ count, commitDestroyPlanCounted (count, table) plan =
        (count + gone.length, (table.commitDestroyPlan plan).2) := by
  obtain ⟨entries, captures, captured⟩ :=
    captureDestroyPlan_captures consistent.tree found away
  obtain ⟨ordered, inner⟩ :=
    captureDestroyPlan_ordered consistent.tree captured
  have windows : ∀ id ∈ entries.map (·.xid),
      id ≠ table.screen.rootWindow ∧
        ∃ window, table.findWindow id = some window := by
    intro id member
    constructor
    · obtain ⟨entry, listed, rfl⟩ := List.mem_map.mp member
      exact inner entry listed
    · cases (captures.members id).mp member with
      | self => exact ⟨window, found⟩
      | above isLower _ _ => exact ⟨_, isLower⟩
  obtain ⟨after, gone, removes, members, counted⟩ :=
    destroyAll_removes consistent ordered captures.distinct windows
  have committed : table.commitDestroyPlan
      { root := xid, postorder := entries } =
        (.success, (entries.map (·.xid)).foldl destroyLeaf table) := by
    unfold commitDestroyPlan
    rw [captured]
    simp only [ne_eq, not_true_eq_false, if_false, List.foldl_map]
  refine ⟨_, gone, captured, captures.distinct, captures.members, ordered,
    ?_, ?_, ?_, ?_, ?_⟩
  · rw [committed]
  · rw [committed]
    exact after
  · rw [committed]
    exact removes
  · intro id
    rw [members, GoesWith, captures.members]
    simp only [captures.members]
  · intro count
    rw [committed, ← counted]
    unfold commitDestroyPlanCounted
    rw [captured]
    simp only [ne_eq, not_true_eq_false, if_false, List.foldl_map]

end ResourceTable

open ResourceTable (commitDestroyPlanCounted)

theorem destroyWindow_exact (screen : ScreenModel)
    (real : screen.rootWindow ≠ 0) (calls : List WindowCall) (xid : Nat)
    (window : WindowResource) :
    let table := (run ServerState.perform (.initial screen) calls).resources
    table.findWindow xid = some window → xid ≠ table.screen.rootWindow →
      ∃ plan gone, table.captureDestroyPlan xid = some plan ∧
        (plan.postorder.map (·.xid)).Nodup ∧
        (∀ id, id ∈ plan.postorder.map (·.xid) ↔ table.OnPath id xid) ∧
        table.Postordered (plan.postorder.map (·.xid)) ∧
        (table.destroyWindow xid).1 = .success ∧
        (commitDestroyPlanCounted (0, table) plan).1 = gone.length ∧
        gone.Nodup ∧ (∀ id, id ∈ gone ↔ table.GoesWith xid id) ∧
        ∀ id : Nat, (table.destroyWindow xid).2.resources[id]? =
          if id ∈ gone then none
          else (table.resources[id]?).map (·.without gone) := by
  intro table found away
  have consistent : table.Consistent := ServerState.run_consistent real calls
  obtain ⟨plan, gone, captured, distinct, listed, ordered, success, _, removes,
    members, counted⟩ :=
    ResourceTable.commitDestroyPlan_removes consistent found away
  have same : table.destroyWindow xid = table.commitDestroyPlan plan := by
    rw [ResourceTable.destroyWindow, if_neg away, captured]
  rw [same]
  refine ⟨plan, gone, captured, distinct, listed, ordered, success, ?_,
    removes.distinct, members, removes.records⟩
  rw [counted, Nat.zero_add]

theorem destroyWindow_exact_nested :
    ((run ServerState.perform (.initial {}) nestedWindows
      ).resources.destroyWindow 0x200001).1 = .success ∧
    ((run ServerState.perform (.initial {}) nestedWindows
      ).resources.destroyWindow 0x200001).2.resources[0x200002]? = none := by
  have there : ((run ServerState.perform (.initial {}) nestedWindows
      ).resources.findWindow 0x200001).isSome = true := by
    decide +kernel
  have inside : ((run ServerState.perform (.initial {}) nestedWindows
      ).resources.findWindow 0x200002).any (·.parent = 0x200001) = true := by
    decide +kernel
  obtain ⟨window, found⟩ := Option.isSome_iff_exists.mp there
  obtain ⟨inner, isInner, parent⟩ := (Option.any_eq_true _ _).mp inside
  obtain ⟨plan, gone, _, _, _, _, success, _, _, members, records⟩ :=
    destroyWindow_exact {} (by decide) nestedWindows 0x200001 window found
      (by decide +kernel)
  refine ⟨success, ?_⟩
  rw [records, if_pos]
  apply (members _).mpr
  left
  apply ResourceTable.OnPath.above isInner (by decide +kernel)
  rw [of_decide_eq_true parent]
  exact .self _

end Glasswyrm.Server
