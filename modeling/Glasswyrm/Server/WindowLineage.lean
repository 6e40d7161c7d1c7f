import Glasswyrm.Server.ServerStateRun

namespace Glasswyrm.Server

open Library

/-! In a tree of windows the searches upwards end before their rounds do, and
each finds the way from a window to the root. -/

namespace ResourceTable

variable {table : ResourceTable} {xid : Nat} {way : List Nat}

/-- The windows from a window up to the root, both included. -/
def Upward (table : ResourceTable) (xid : Nat) (way : List Nat) : Prop :=
  Lineage table.screen.rootWindow table.links xid way

namespace Tree

variable (tree : table.Tree)

include tree

/-- A parent is another window. -/
theorem parent_real {window : WindowResource}
    (found : table.findWindow xid = some window)
    (away : xid ≠ table.screen.rootWindow) :
    window.parent ≠ 0 ∧ window.parent ≠ xid := by
  obtain ⟨above, isAbove, listed⟩ := tree.listed found away
  constructor
  · intro zero
    have vacant := tree.vacant
    rw [← zero, links_of_found isAbove] at vacant
    cases vacant
  · intro same
    obtain ⟨depth, ranked⟩ := tree.ranked
    have deeper := ranked.parent tree found away
    rw [same] at deeper
    omega

/-- The induction rule of the way up. -/
theorem climb {motive : Nat → List Nat → Prop}
    (top : ∀ window, table.findWindow table.screen.rootWindow = some window →
      motive table.screen.rootWindow [table.screen.rootWindow])
    (step : ∀ xid window way, table.findWindow xid = some window →
      xid ≠ table.screen.rootWindow → window.parent ≠ 0 →
        window.parent ≠ xid → table.Upward window.parent way →
          motive window.parent way → motive xid (xid :: way))
    (upward : table.Upward xid way) : motive xid way := by
  unfold Upward at upward
  induction upward with
  | root found =>
      obtain ⟨window, isWindow, _⟩ := links_some found
      exact top window isWindow
  | step found away later ih =>
      obtain ⟨window, isWindow, parent, _⟩ := links_some found
      rw [parent] at later ih
      obtain ⟨real, other⟩ := tree.parent_real isWindow away
      exact step _ window _ isWindow away real other later ih

theorem upward {window : WindowResource}
    (found : table.findWindow xid = some window) :
    ∃ way, table.Upward xid way :=
  tree.linked.lineage (links_of_found found)

theorem root_parent {window : WindowResource}
    (found : table.findWindow table.screen.rootWindow = some window) :
    window.parent = 0 :=
  tree.top window.link (links_of_found found)

end Tree

namespace Upward

theorem last (upward : table.Upward xid way) :
    way.getLast? = some table.screen.rootWindow := by
  unfold Upward at upward
  induction upward with
  | root found => rfl
  | step found away later ih =>
      obtain ⟨rest, rfl⟩ := later.head
      rw [List.getLast?_cons_cons]
      exact ih

theorem found (upward : table.Upward xid way) :
    ∀ passed ∈ way, ∃ window, table.findWindow passed = some window := by
  intro passed member
  obtain ⟨link, linked⟩ := Lineage.found upward passed member
  obtain ⟨window, isWindow, _⟩ := links_some linked
  exact ⟨window, isWindow⟩

/-- A search upwards has a round for every window that it passes. -/
theorem rounds (tree : table.Tree) (upward : table.Upward xid way) :
    way.length ≤ table.resourceCount := by
  have distinct := tree.linked.lineage_nodup upward
  have subset : way ⊆ (table.resources.toList.filter fun entry =>
      entry.2.payload.window?.isSome).map Prod.fst := by
    intro passed member
    obtain ⟨window, isWindow⟩ := upward.found passed member
    obtain ⟨record, isRecord, payload⟩ := Option.bind_eq_some_iff.mp isWindow
    refine List.mem_map.mpr ⟨(passed, record), List.mem_filter.mpr ⟨?_, ?_⟩,
      rfl⟩
    · exact KeyMap.mem_toList.mpr isRecord
    · exact Option.isSome_iff_exists.mpr ⟨window, payload⟩
  have bound := (distinct.subperm subset).length_le
  rwa [List.length_map] at bound

theorem onPath (tree : table.Tree) (upward : table.Upward xid way)
    (upper : Nat) : upper ∈ way ↔ table.OnPath xid upper := by
  refine tree.climb ?_ ?_ upward (motive := fun xid way =>
    upper ∈ way ↔ table.OnPath xid upper)
  · intro window found
    rw [List.mem_singleton]
    constructor
    · rintro rfl
      exact .self _
    · intro passes
      cases passes with
      | self xid => rfl
      | above found away later => exact absurd rfl away
  · intro xid window way found away _ _ _ ih
    rw [List.mem_cons, ih]
    constructor
    · rintro (rfl | later)
      · exact .self _
      · exact .above found away later
    · intro passes
      cases passes with
      | self xid => exact Or.inl rfl
      | above again _ later =>
          rw [found] at again
          obtain rfl := Option.some.inj again
          exact Or.inr later

end Upward

/-- The last window of a path below another one. -/
theorem child_onPath {upper : Nat} (passes : table.OnPath xid upper)
    (other : xid ≠ upper) : ∃ child window, table.OnPath xid child ∧
      child ≠ table.screen.rootWindow ∧
      table.findWindow child = some window ∧ window.parent = upper := by
  induction passes with
  | self xid => exact absurd rfl other
  | @above xid upper window found inner later ih =>
      by_cases here : window.parent = upper
      · exact ⟨xid, window, .self xid, inner, found, here⟩
      · obtain ⟨child, below, passes, rest⟩ := ih here
        exact ⟨child, below, .above found inner passes, rest⟩

theorem onPath_trans {middle upper : Nat} (first : table.OnPath xid middle)
    (second : table.OnPath middle upper) : table.OnPath xid upper := by
  induction first with
  | self xid => exact second
  | above found inner later ih => exact .above found inner (ih second)

/-- Of two windows on one path one is on the path of the other. -/
theorem OnPath.linear {first second : Nat} (one : table.OnPath xid first)
    (other : table.OnPath xid second) :
    table.OnPath first second ∨ table.OnPath second first := by
  induction one with
  | self xid => exact Or.inl other
  | above found inner later ih =>
      cases other with
      | self => exact Or.inr (.above found inner later)
      | above again _ onward =>
          rw [found] at again
          obtain rfl := Option.some.inj again
          exact ih onward

namespace Tree

variable (tree : table.Tree)

include tree

theorem below {window : WindowResource} {child : Nat}
    (upward : table.Upward xid way)
    (found : table.findWindow xid = some window)
    (member : child ∈ window.children) :
    ∃ below, table.findWindow child = some below ∧ below.parent = xid ∧
      table.Upward child (child :: way) := by
  obtain ⟨away, below, isBelow, parent⟩ := tree.child found member
  refine ⟨below, isBelow, parent, .step (links_of_found isBelow) away ?_⟩
  rw [show below.link.parent = xid from parent]
  exact upward

/-- What holds of a window as soon as it holds of its children holds of all:
a way up does not get longer than there are windows. -/
theorem ascend {motive : Nat → Prop}
    (step : ∀ xid window, table.findWindow xid = some window →
      (∀ child ∈ window.children, motive child) → motive xid)
    {window : WindowResource} (found : table.findWindow xid = some window) :
    motive xid := by
  obtain ⟨way, upward⟩ := tree.upward found
  suffices general : ∀ left xid way window, table.Upward xid way →
      table.findWindow xid = some window →
        table.resourceCount ≤ way.length + left → motive xid by
    exact general _ xid way window upward found (Nat.le_add_left _ _)
  intro left
  induction left with
  | zero =>
      intro xid way window upward found full
      apply step xid window found
      intro child member
      obtain ⟨_, _, _, deeper⟩ := tree.below upward found member
      have rounds := deeper.rounds tree
      rw [List.length_cons] at rounds
      omega
  | succ left ih =>
      intro xid way window upward found full
      apply step xid window found
      intro child member
      obtain ⟨below, isBelow, _, deeper⟩ := tree.below upward found member
      apply ih child _ below deeper isBelow
      rw [List.length_cons]
      omega

theorem onPath_depth {depth : Nat → Nat} (ranked : table.Ranked depth)
    {upper : Nat} (passes : table.OnPath xid upper) :
    depth upper ≤ depth xid := by
  induction passes with
  | self xid => exact Nat.le_refl _
  | above found inner _ ih =>
      have step := ranked.parent tree found inner
      omega

/-- No window is below two siblings. -/
theorem apart {first second lower : Nat} {one other : WindowResource}
    (isFirst : table.findWindow first = some one)
    (isSecond : table.findWindow second = some other)
    (firstAway : first ≠ table.screen.rootWindow)
    (secondAway : second ≠ table.screen.rootWindow)
    (parents : one.parent = other.parent)
    (underFirst : table.OnPath lower first)
    (underSecond : table.OnPath lower second) : first = second := by
  obtain ⟨depth, ranked⟩ := tree.ranked
  have firstStep := ranked.parent tree isFirst firstAway
  have secondStep := ranked.parent tree isSecond secondAway
  rcases underFirst.linear underSecond with passes | passes
  · cases passes with
    | self => rfl
    | above found _ later =>
        rw [isFirst] at found
        obtain rfl := Option.some.inj found
        have high := tree.onPath_depth ranked later
        rw [parents] at high
        omega
  · cases passes with
    | self => rfl
    | above found _ later =>
        rw [isSecond] at found
        obtain rfl := Option.some.inj found
        have high := tree.onPath_depth ranked later
        rw [← parents] at high
        omega

end Tree

end ResourceTable

end Glasswyrm.Server
