import Mathlib.Data.List.Flatten
import Mathlib.Data.List.Nodup
import Mathlib.Logic.Function.Iterate

namespace Glasswyrm.Library

/-! Trees given by the list of children of each node, listed with every node
before its children. -/

variable {α : Type*} (children : α → List α)

/-- The nodes of a tree, as deep as the given number of rounds. -/
def listTree : Nat → α → List α
  | 0, _ => []
  | rounds + 1, node =>
      node :: (children node).flatMap (listTree rounds)

/-- A forest: a child is told its parent, and lies one level below it. -/
structure Forest (parent : α → α) (depth : α → Nat) : Prop where
  parent : ∀ {node child}, child ∈ children node → parent child = node
  deeper : ∀ {node child}, child ∈ children node →
    depth child = depth node + 1
  distinct : ∀ node, (children node).Nodup

variable {children}

theorem mem_listTree_self (rounds : Nat) (node : α) :
    node ∈ listTree children (rounds + 1) node :=
  List.mem_cons_self

/-- A listed node is the root or somebody's child. -/
theorem mem_listTree {rounds : Nat} {root node : α}
    (member : node ∈ listTree children rounds root) :
    node = root ∨ ∃ above, node ∈ children above := by
  induction rounds generalizing root with
  | zero => cases member
  | succ rounds ih =>
      rw [listTree] at member
      rcases List.mem_cons.mp member with same | below
      · exact Or.inl same
      · obtain ⟨branch, isBranch, there⟩ := List.mem_flatMap.mp below
        rcases ih there with rfl | isChild
        · exact Or.inr ⟨root, isBranch⟩
        · exact Or.inr isChild

theorem listTree_grows (rounds : Nat) (node : α) :
    (listTree children rounds node).Sublist
      (listTree children (rounds + 1) node) := by
  induction rounds generalizing node with
  | zero => exact List.nil_sublist _
  | succ rounds ih =>
      rw [listTree, listTree]
      apply List.Sublist.cons_cons
      apply List.Sublist.flatMap_right
      exact fun child _ => ih child

theorem listTree_monotone {fewer more : Nat} (le : fewer ≤ more) (node : α) :
    (listTree children fewer node).Sublist (listTree children more node) := by
  induction le with
  | refl => exact List.Sublist.refl _
  | step _ ih => exact ih.trans (listTree_grows _ node)

/-- A child is listed after its parent, one round further. -/
theorem listTree_child {rounds : Nat} {root node child : α}
    (member : node ∈ listTree children rounds root)
    (isChild : child ∈ children node) :
    [node, child].Sublist (listTree children (rounds + 1) root) := by
  induction rounds generalizing root with
  | zero => cases member
  | succ rounds ih =>
      rw [listTree] at member ⊢
      rcases List.mem_cons.mp member with rfl | below
      · apply List.Sublist.cons_cons
        rw [List.singleton_sublist, List.mem_flatMap]
        exact ⟨child, isChild, mem_listTree_self rounds child⟩
      · obtain ⟨branch, isBranch, there⟩ := List.mem_flatMap.mp below
        apply List.Sublist.cons
        rw [List.flatMap_def]
        exact (ih there).trans
          (List.sublist_flatten_of_mem (List.mem_map_of_mem isBranch))

section

variable {parent : α → α} {depth : α → Nat}
  (forest : Forest children parent depth)

include forest

/-- Every listed node leads back to the root it is listed under. -/
theorem Forest.root {rounds : Nat} {root node : α}
    (member : node ∈ listTree children rounds root) :
    ∃ steps, depth node = depth root + steps ∧ parent^[steps] node = root := by
  induction rounds generalizing root with
  | zero => cases member
  | succ rounds ih =>
      rw [listTree] at member
      rcases List.mem_cons.mp member with rfl | below
      · exact ⟨0, rfl, rfl⟩
      · obtain ⟨branch, isBranch, there⟩ := List.mem_flatMap.mp below
        obtain ⟨steps, deeper, back⟩ := ih there
        refine ⟨steps + 1, ?_, ?_⟩
        · rw [deeper, forest.deeper isBranch]
          omega
        · rw [Function.iterate_succ_apply', back, forest.parent isBranch]

/-- Roots of one level have no node in common. -/
theorem Forest.root_unique {rounds : Nat} {first second node : α}
    (level : depth first = depth second)
    (underFirst : node ∈ listTree children rounds first)
    (underSecond : node ∈ listTree children rounds second) :
    first = second := by
  obtain ⟨steps, deeper, back⟩ := forest.root underFirst
  obtain ⟨steps', deeper', back'⟩ := forest.root underSecond
  have same : steps = steps' := by omega
  rw [← back, ← back', same]

theorem Forest.flatMap_nodup {rounds level : Nat} {roots : List α}
    (distinct : roots.Nodup) (levels : ∀ root ∈ roots, depth root = level)
    (trees : ∀ root ∈ roots, (listTree children rounds root).Nodup) :
    (roots.flatMap (listTree children rounds)).Nodup := by
  rw [List.nodup_flatMap]
  refine ⟨trees, List.Pairwise.imp_of_mem ?_ distinct⟩
  intro first second isFirst isSecond different node underFirst underSecond
  exact different (forest.root_unique
    ((levels first isFirst).trans (levels second isSecond).symm)
    underFirst underSecond)

theorem Forest.listTree_nodup (rounds : Nat) (root : α) :
    (listTree children rounds root).Nodup := by
  induction rounds generalizing root with
  | zero => exact List.nodup_nil
  | succ rounds ih =>
      rw [listTree, List.nodup_cons]
      constructor
      · intro below
        obtain ⟨branch, isBranch, there⟩ := List.mem_flatMap.mp below
        obtain ⟨steps, deeper, _⟩ := forest.root there
        rw [forest.deeper isBranch] at deeper
        omega
      · exact forest.flatMap_nodup (forest.distinct root)
          (fun _ isChild => forest.deeper isChild) (fun child _ => ih child)

end

/-- The roots stand in their order among the nodes of their trees. -/
theorem sublist_flatMap_listTree (rounds : Nat) (roots : List α) :
    roots.Sublist (roots.flatMap (listTree children (rounds + 1))) := by
  induction roots with
  | nil => exact List.nil_sublist _
  | cons root rest ih =>
      rw [List.flatMap_cons, listTree, List.cons_append]
      exact (ih.trans (List.sublist_append_right _ _)).cons_cons root

end Glasswyrm.Library
