import Mathlib.Data.List.Nodup
import Mathlib.Data.List.Perm.Basic

namespace Glasswyrm.Library

/-! Trees kept as records, each of which names its parent and lists its
children. -/

structure Link (α : Type*) where
  parent : α
  children : List α

/-- The records reach every node from the root in one way. -/
structure LinkedTree {α : Type*} (root : α) (links : α → Option (Link α)) :
    Prop where
  rooted : ∃ link, links root = some link
  listed : ∀ {node : α} {link : Link α}, links node = some link →
    node ≠ root →
      ∃ above, links link.parent = some above ∧ node ∈ above.children
  child : ∀ {node child : α} {link : Link α}, links node = some link →
    child ∈ link.children →
      child ≠ root ∧ ∃ below, links child = some below ∧ below.parent = node
  distinct : ∀ {node : α} {link : Link α}, links node = some link →
    link.children.Nodup
  ranked : ∃ depth : α → Nat, depth root = 0 ∧
    ∀ {node child : α} {link : Link α}, links node = some link →
      child ∈ link.children → depth child = depth node + 1

variable {α : Type*} {root : α} {links changed : α → Option (Link α)}

namespace LinkedTree

/-- A tree of one node. -/
theorem single [DecidableEq α] {above : α}
    (only : ∀ node, links node = if node = root then some ⟨above, []⟩
      else none) : LinkedTree root links where
  rooted := ⟨_, by rw [only, if_pos rfl]⟩
  listed := by
    intro node link found other
    rw [only, if_neg other] at found
    cases found
  child := by
    intro node child link found member
    rw [only] at found
    split at found
    · obtain rfl := Option.some.inj found
      cases member
    · cases found
  distinct := by
    intro node link found
    rw [only] at found
    split at found
    · obtain rfl := Option.some.inj found
      exact List.nodup_nil
    · cases found
  ranked := by
    refine ⟨fun _ => 0, rfl, ?_⟩
    intro node child link found member
    rw [only] at found
    split at found
    · obtain rfl := Option.some.inj found
      cases member
    · cases found

variable (tree : LinkedTree root links)

include tree

theorem congr (same : ∀ node, changed node = links node) :
    LinkedTree root changed := by
  have equal : changed = links := funext same
  rw [equal]
  exact tree

/-- A record that is told as a child of a node is a record. -/
theorem fresh_child {new : α} (fresh : links new = none) {node : α}
    {link : Link α} (present : links node = some link) :
    new ∉ link.children := by
  intro member
  obtain ⟨_, below, told, _⟩ := tree.child present member
  rw [fresh] at told
  cases told

section

variable [DecidableEq α] {parent : α} {above : Link α}
  (found : links parent = some above)

include found

/-- A new leaf. -/
theorem attach {new : α} (fresh : links new = none)
    (attached : ∀ node, changed node =
      if node = new then some ⟨parent, []⟩
      else if node = parent then
        some { above with children := above.children ++ [new] }
      else links node) : LinkedTree root changed := by
  have different : parent ≠ new := by
    rintro rfl
    rw [fresh] at found
    cases found
  obtain ⟨rootLink, rooted⟩ := tree.rooted
  have old : root ≠ new := by
    rintro rfl
    rw [fresh] at rooted
    cases rooted
  have parentLink : changed parent =
      some { above with children := above.children ++ [new] } := by
    rw [attached, if_neg different, if_pos rfl]
  -- what a record of the grown tree was before
  have origin : ∀ {node : α} {link : Link α}, changed node = some link →
      (node = new ∧ link = ⟨parent, []⟩) ∨
        ∃ former, links node = some former ∧ node ≠ new ∧
          link.parent = former.parent ∧
          ((node = parent ∧ link.children = former.children ++ [new]) ∨
            node ≠ parent ∧ link.children = former.children) := by
    intro node link told
    rw [attached] at told
    split at told
    · rename_i same
      exact Or.inl ⟨same, (Option.some.inj told).symm⟩
    · rename_i other
      right
      split at told
      · rename_i same
        obtain rfl := Option.some.inj told
        subst same
        exact ⟨above, found, other, rfl, Or.inl ⟨rfl, rfl⟩⟩
      · rename_i apart
        exact ⟨link, told, other, rfl, Or.inr ⟨apart, rfl⟩⟩
  have kept : ∀ {node : α} {former : Link α}, links node = some former →
      ∃ link, changed node = some link ∧ link.parent = former.parent ∧
        ∀ child ∈ former.children, child ∈ link.children := by
    intro node former told
    have other : node ≠ new := by
      rintro rfl
      rw [fresh] at told
      cases told
    rw [attached, if_neg other]
    split
    · rename_i same
      subst same
      obtain rfl := Option.some.inj (found.symm.trans told)
      exact ⟨_, rfl, rfl, fun child member => List.mem_append_left _ member⟩
    · exact ⟨former, told, rfl, fun child member => member⟩
  refine ⟨?_, ?_, ?_, ?_, ?_⟩
  · obtain ⟨link, told, _⟩ := kept rooted
    exact ⟨link, told⟩
  · intro node link told other
    rcases origin told with ⟨rfl, rfl⟩ | ⟨former, before, _, same, _⟩
    · exact ⟨_, parentLink, List.mem_append_right _ List.mem_cons_self⟩
    · obtain ⟨upper, there, member⟩ := tree.listed before other
      obtain ⟨link', told', _, grows⟩ := kept there
      rw [same]
      exact ⟨link', told', grows node member⟩
  · intro node child link told member
    rcases origin told with ⟨rfl, rfl⟩ | ⟨former, before, _, _, lists⟩
    · cases member
    · have either : child ∈ former.children ∨
          (child = new ∧ node = parent) := by
        rcases lists with ⟨same, lists⟩ | ⟨_, lists⟩
        · rw [lists, List.mem_append, List.mem_singleton] at member
          exact member.imp_right fun fresh => ⟨fresh, same⟩
        · rw [lists] at member
          exact Or.inl member
      rcases either with member | ⟨rfl, rfl⟩
      · obtain ⟨apart, below, there, back⟩ := tree.child before member
        obtain ⟨link', told', same', _⟩ := kept there
        exact ⟨apart, link', told', same'.trans back⟩
      · refine ⟨old.symm, ⟨node, []⟩, ?_, rfl⟩
        rw [attached, if_pos rfl]
  · intro node link told
    rcases origin told with ⟨rfl, rfl⟩ | ⟨former, before, _, _, lists⟩
    · exact List.nodup_nil
    · have distinct := tree.distinct before
      rcases lists with ⟨_, lists⟩ | ⟨_, lists⟩
      · rw [lists]
        refine List.nodup_append.mpr ⟨distinct, List.nodup_singleton _, ?_⟩
        intro first isFirst second isSecond same
        rw [List.mem_singleton] at isSecond
        subst same isSecond
        exact tree.fresh_child fresh before isFirst
      · rw [lists]
        exact distinct
  · obtain ⟨depth, atRoot, deeper⟩ := tree.ranked
    refine ⟨fun node => if node = new then depth parent + 1 else depth node,
      ?_, ?_⟩
    · exact (if_neg old).trans atRoot
    · intro node child link told member
      rcases origin told with ⟨rfl, rfl⟩ | ⟨former, before, other, _, lists⟩
      · cases member
      · simp only [if_neg other]
        have inner : child ∈ former.children →
            (if child = new then depth parent + 1 else depth child) =
              depth node + 1 := by
          intro member
          have apart : child ≠ new := by
            rintro rfl
            exact tree.fresh_child fresh before member
          rw [if_neg apart]
          exact deeper before member
        rcases lists with ⟨rfl, lists⟩ | ⟨_, lists⟩
        · rw [lists, List.mem_append, List.mem_singleton] at member
          rcases member with member | rfl
          · exact inner member
          · rw [if_pos rfl]
        · rw [lists] at member
          exact inner member

/-- The children of a node in another order. -/
theorem reorder {children : List α} (perm : children.Perm above.children)
    (reordered : ∀ node, changed node =
      if node = parent then some { above with children } else links node) :
    LinkedTree root changed := by
  -- every record keeps its parent and its children but for their order
  have origin : ∀ {node : α} {link : Link α}, changed node = some link →
      ∃ former, links node = some former ∧ link.parent = former.parent ∧
        link.children.Perm former.children := by
    intro node link told
    rw [reordered] at told
    split at told
    · rename_i same
      obtain rfl := Option.some.inj told
      subst same
      exact ⟨above, found, rfl, perm⟩
    · exact ⟨link, told, rfl, List.Perm.refl _⟩
  have kept : ∀ {node : α} {former : Link α}, links node = some former →
      ∃ link, changed node = some link ∧ link.parent = former.parent ∧
        link.children.Perm former.children := by
    intro node former told
    rw [reordered]
    split
    · rename_i same
      subst same
      obtain rfl := Option.some.inj (found.symm.trans told)
      exact ⟨_, rfl, rfl, perm⟩
    · exact ⟨former, told, rfl, List.Perm.refl _⟩
  refine ⟨?_, ?_, ?_, ?_, ?_⟩
  · obtain ⟨link, rooted⟩ := tree.rooted
    obtain ⟨link', told, _⟩ := kept rooted
    exact ⟨link', told⟩
  · intro node link told other
    obtain ⟨former, before, same, _⟩ := origin told
    obtain ⟨upper, there, member⟩ := tree.listed before other
    obtain ⟨link', told', _, alike⟩ := kept there
    rw [same]
    exact ⟨link', told', alike.mem_iff.mpr member⟩
  · intro node child link told member
    obtain ⟨former, before, _, alike⟩ := origin told
    obtain ⟨apart, below, there, back⟩ :=
      tree.child before (alike.mem_iff.mp member)
    obtain ⟨link', told', same, _⟩ := kept there
    exact ⟨apart, link', told', same.trans back⟩
  · intro node link told
    obtain ⟨former, before, _, alike⟩ := origin told
    exact alike.nodup_iff.mpr (tree.distinct before)
  · obtain ⟨depth, atRoot, deeper⟩ := tree.ranked
    refine ⟨depth, atRoot, ?_⟩
    intro node child link told member
    obtain ⟨former, before, _, alike⟩ := origin told
    exact deeper before (alike.mem_iff.mp member)

end

/-- A leaf leaves the tree. -/
theorem detach [DecidableEq α] {leaf : α} {link : Link α}
    (found : links leaf = some link) (bare : link.children = [])
    (other : leaf ≠ root)
    (detached : ∀ node, changed node =
      if node = leaf then none
      else (links node).map fun record =>
        { record with children := record.children.filter (· ≠ leaf) }) :
    LinkedTree root changed := by
  have origin : ∀ {node : α} {after : Link α}, changed node = some after →
      node ≠ leaf ∧ ∃ former, links node = some former ∧
        after.parent = former.parent ∧
        after.children = former.children.filter (· ≠ leaf) := by
    intro node after told
    rw [detached] at told
    split at told
    · cases told
    · rename_i apart
      obtain ⟨former, before, rfl⟩ := Option.map_eq_some_iff.mp told
      exact ⟨apart, former, before, rfl, rfl⟩
  have kept : ∀ {node : α} {former : Link α}, links node = some former →
      node ≠ leaf → changed node = some { former with
        children := former.children.filter (· ≠ leaf) } := by
    intro node former told apart
    rw [detached, if_neg apart, told]
    rfl
  refine ⟨?_, ?_, ?_, ?_, ?_⟩
  · obtain ⟨rootLink, rooted⟩ := tree.rooted
    exact ⟨_, kept rooted other.symm⟩
  · intro node after told away
    obtain ⟨apart, former, before, same, _⟩ := origin told
    obtain ⟨upper, there, member⟩ := tree.listed before away
    have above : former.parent ≠ leaf := by
      intro same
      rw [same] at there
      obtain rfl := Option.some.inj (found.symm.trans there)
      rw [bare] at member
      cases member
    rw [same]
    refine ⟨_, kept there above, List.mem_filter.mpr ⟨member, ?_⟩⟩
    exact decide_eq_true apart
  · intro node child after told member
    obtain ⟨_, former, before, _, lists⟩ := origin told
    rw [lists] at member
    obtain ⟨member, apart⟩ := List.mem_filter.mp member
    obtain ⟨away, below, there, back⟩ := tree.child before member
    exact ⟨away, _, kept there (of_decide_eq_true apart), back⟩
  · intro node after told
    obtain ⟨_, former, before, _, lists⟩ := origin told
    rw [lists]
    exact (tree.distinct before).filter _
  · obtain ⟨depth, atRoot, deeper⟩ := tree.ranked
    refine ⟨depth, atRoot, ?_⟩
    intro node child after told member
    obtain ⟨_, former, before, _, lists⟩ := origin told
    rw [lists] at member
    exact deeper before (List.mem_filter.mp member).1

/-- The way from a node up to the root passes as many nodes as the node is
deep, and one more. -/
theorem chain {depth : α → Nat}
    (atRoot : depth root = 0)
    (deeper : ∀ {node child : α} {link : Link α}, links node = some link →
      child ∈ link.children → depth child = depth node + 1)
    {node : α} {link : Link α} (found : links node = some link) :
    ∃ way : List α, way.length = depth node + 1 ∧ way.Nodup ∧
      ∀ passed ∈ way, depth passed ≤ depth node ∧
        ∃ record, links passed = some record := by
  induction level : depth node generalizing node link with
  | zero =>
      refine ⟨[node], rfl, List.nodup_singleton node, ?_⟩
      intro passed member
      obtain rfl := List.mem_singleton.mp member
      exact ⟨Nat.le_of_eq level, link, found⟩
  | succ level' ih =>
      have away : node ≠ root := by
        rintro rfl
        rw [atRoot] at level
        cases level
      obtain ⟨above, there, member⟩ := tree.listed found away
      have step := deeper there member
      have upper : depth link.parent = level' := by omega
      obtain ⟨way, length, distinct, passes⟩ := ih there upper
      refine ⟨node :: way, by rw [List.length_cons, length], ?_, ?_⟩
      · refine List.nodup_cons.mpr ⟨fun member => ?_, distinct⟩
        have low := (passes node member).1
        omega
      · intro passed member
        rcases List.mem_cons.mp member with rfl | member
        · exact ⟨Nat.le_of_eq level, link, found⟩
        · obtain ⟨low, present⟩ := passes passed member
          exact ⟨by omega, present⟩

/-- A property that passes from a node to its children holds of every node
when it holds of the root. -/
theorem descend {property : α → Prop} (holds : property root)
    (passes : ∀ {node child : α} {link : Link α}, links node = some link →
      child ∈ link.children → property node → property child)
    {node : α} {link : Link α} (found : links node = some link) :
    property node := by
  obtain ⟨depth, atRoot, deeper⟩ := tree.ranked
  induction level : depth node generalizing node link with
  | zero =>
      by_cases away : node = root
      · exact away ▸ holds
      · obtain ⟨above, there, member⟩ := tree.listed found away
        have step := deeper there member
        omega
  | succ level' ih =>
      by_cases away : node = root
      · exact away ▸ holds
      · obtain ⟨above, there, member⟩ := tree.listed found away
        have step := deeper there member
        exact passes there member (ih there (by omega))

end LinkedTree

/-! ## The way up -/

/-- The nodes from a node up to the root, both included. -/
inductive Lineage {α : Type*} (root : α) (links : α → Option (Link α)) :
    α → List α → Prop
  | root {link : Link α} (found : links root = some link) :
      Lineage root links root [root]
  | step {node : α} {link : Link α} {way : List α}
      (found : links node = some link) (away : node ≠ root)
      (later : Lineage root links link.parent way) :
      Lineage root links node (node :: way)

namespace Lineage

variable {node : α} {way : List α}

theorem mem_self (lineage : Lineage root links node way) : node ∈ way := by
  cases lineage with
  | root found => exact List.mem_singleton_self root
  | step found away later => exact List.mem_cons_self

theorem head (lineage : Lineage root links node way) :
    ∃ rest, way = node :: rest := by
  cases lineage with
  | root found => exact ⟨[], rfl⟩
  | step found away later => exact ⟨_, rfl⟩

theorem found (lineage : Lineage root links node way) :
    ∀ passed ∈ way, ∃ link, links passed = some link := by
  induction lineage with
  | root found =>
      intro passed member
      rw [List.mem_singleton.mp member]
      exact ⟨_, found⟩
  | step found away later ih =>
      intro passed member
      rcases List.mem_cons.mp member with rfl | member
      · exact ⟨_, found⟩
      · exact ih passed member

/-- What follows a node on the way is its parent. -/
theorem next (lineage : Lineage root links node way) {front back : List α}
    {lower upper : α} (split : way = front ++ lower :: upper :: back) :
    lower ≠ root ∧ ∃ link, links lower = some link ∧ link.parent = upper := by
  induction lineage generalizing front with
  | root found =>
      rcases front with _ | ⟨first, _ | ⟨second, front⟩⟩ <;> simp at split
  | @step node link way found away later ih =>
      cases front with
      | nil =>
          obtain ⟨rfl, tail⟩ := List.cons.inj split
          obtain ⟨rest, starts⟩ := later.head
          rw [tail] at starts
          exact ⟨away, link, found, (List.cons.inj starts).1.symm⟩
      | cons first front => exact ih (List.cons.inj split).2

/-- From a node that the way passes the rest of the way is its own. -/
theorem from_passed (lineage : Lineage root links node way) {passed : α}
    (member : passed ∈ way) :
    ∃ front rest, way = front ++ rest ∧ Lineage root links passed rest := by
  induction lineage with
  | root found =>
      rw [List.mem_singleton.mp member]
      exact ⟨[], _, rfl, .root found⟩
  | @step node _ way found away later ih =>
      rcases List.mem_cons.mp member with rfl | member
      · exact ⟨[], _, rfl, .step found away later⟩
      · obtain ⟨front, rest, rfl, lineage⟩ := ih member
        exact ⟨node :: front, rest, rfl, lineage⟩

end Lineage

namespace LinkedTree

variable (tree : LinkedTree root links) {node : α} {way : List α}

include tree

theorem lineage {link : Link α} (found : links node = some link) :
    ∃ way, Lineage root links node way := by
  obtain ⟨top, rooted⟩ := tree.rooted
  apply @descend _ _ _ tree (fun node => ∃ way, Lineage root links node way)
    ⟨_, .root rooted⟩ ?_ node link found
  rintro node child above present member ⟨way, lineage⟩
  obtain ⟨away, below, told, back⟩ := tree.child present member
  subst back
  exact ⟨_, .step told away lineage⟩

/-- The way up passes no node twice. -/
theorem lineage_nodup (lineage : Lineage root links node way) :
    way.Nodup := by
  obtain ⟨depth, _, deeper⟩ := tree.ranked
  suffices both : way.Nodup ∧ ∀ passed ∈ way, depth passed ≤ depth node by
    exact both.1
  induction lineage with
  | root found =>
      refine ⟨List.nodup_singleton _, fun passed member => ?_⟩
      obtain rfl := List.mem_singleton.mp member
      exact Nat.le_refl _
  | @step node link way found away later ih =>
      obtain ⟨above, there, listed⟩ := tree.listed found away
      have step := deeper there listed
      refine ⟨List.nodup_cons.mpr ⟨fun member => ?_, ih.1⟩, ?_⟩
      · have high := ih.2 node member
        omega
      · intro passed member
        rcases List.mem_cons.mp member with rfl | member
        · exact Nat.le_refl _
        · have high := ih.2 passed member
          omega

end LinkedTree

end Glasswyrm.Library
