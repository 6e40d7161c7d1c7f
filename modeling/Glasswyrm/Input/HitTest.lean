import Glasswyrm.Input.Ancestry

namespace Glasswyrm.Input

open Library
open Server
open X11 (ScreenModel)

/-! The pointer is over one window at every point: the one at the end of the
topmost windows under the point. -/

variable {table : ResourceTable} {x y : Int} {xid : Nat} {way : List Nat}

/-- Whether a window can be under the pointer at all. -/
structure Exposed (table : ResourceTable) (window : WindowResource) :
    Prop where
  viewable : window.mapState = .viewable
  staying : window.cleanupPending = false
  managed : window.parent = table.screen.rootWindow →
    window.windowClass = .inputOutput ∧ window.policyVisible = true

/-- The border of a window, where the pointer is over it as well. -/
def outline (table : ResourceTable) (window : WindowResource) : Int :=
  if window.parent = table.screen.rootWindow then 0 else window.borderWidth

/-- The point is inside a window or on its border. -/
structure Surrounds (table : ResourceTable) (window : WindowResource)
    (origin : Int × Int) (x y : Int) : Prop where
  left : origin.1 - outline table window ≤ x
  top : origin.2 - outline table window ≤ y
  right : x < origin.1 + window.width + outline table window
  bottom : y < origin.2 + window.height + outline table window

/-- A window that is under the point. -/
def Struck (table : ResourceTable) (x y : Int) (xid : Nat) : Prop :=
  ∃ window origin, table.findWindow xid = some window ∧
    windowRootOrigin table xid = some origin ∧ Exposed table window ∧
    Surrounds table window origin x y

/-- Of its siblings none above it is under the point. -/
def Topmost (table : ResourceTable) (x y : Int) (xid : Nat) : Prop :=
  Struck table x y xid ∧
    ∀ window parent, table.findWindow xid = some window →
      table.findWindow window.parent = some parent →
        ∀ front later, parent.children = front ++ xid :: later →
          ∀ sibling ∈ later, ¬Struck table x y sibling

structure Deepest (table : ResourceTable) (x y : Int) (xid : Nat) :
    Prop where
  inner : ∃ window, table.findWindow xid = some window ∧
    ∀ child ∈ window.children, ¬Struck table x y child
  outer : ∀ upper, table.OnPath xid upper →
    upper ≠ table.screen.rootWindow → Topmost table x y upper

/-! ## One window only -/

/-- Two siblings are not both topmost. -/
theorem Topmost.unique (tree : table.Tree) {child other : Nat}
    {window second : WindowResource} (topmost : Topmost table x y child)
    (found : table.findWindow child = some window)
    (away : child ≠ table.screen.rootWindow)
    (again : Topmost table x y other)
    (isOther : table.findWindow other = some second)
    (same : window.parent = second.parent)
    (second_away : other ≠ table.screen.rootWindow) : child = other := by
  obtain ⟨parent, isParent, listed⟩ := tree.listed found away
  obtain ⟨_, isParent', listed'⟩ := tree.listed isOther second_away
  rw [← same, isParent] at isParent'
  obtain rfl := Option.some.inj isParent'
  obtain ⟨front, later, split⟩ := List.append_of_mem listed
  rw [split] at listed'
  rcases List.mem_append.mp listed' with before | after
  · obtain ⟨start, middle, rfl⟩ := List.append_of_mem before
    have above : parent.children =
        start ++ other :: (middle ++ child :: later) := by
      rw [split, List.append_assoc, List.cons_append]
    exact absurd topmost.1 (again.2 second parent isOther
      (same ▸ isParent) start _ above child (by simp))
  · rcases List.mem_cons.mp after with rfl | after
    · rfl
    · exact absurd again.1 (topmost.2 window parent found isParent front later
        split other after)

/-- What is on the way to one deepest window is on the way to any other. -/
theorem Deepest.passes (tree : table.Tree) {other : Nat}
    (deepest : Deepest table x y xid) (second : Deepest table x y other)
    {upper : Nat} (passes : table.OnPath xid upper) :
    table.OnPath other upper := by
  obtain ⟨window, found, _⟩ := second.inner
  obtain ⟨otherWay, otherUpward⟩ := tree.upward found
  have linked : ∃ link, table.links upper = some link := by
    obtain ⟨window, found, _⟩ := deepest.inner
    obtain ⟨way, upward⟩ := tree.upward found
    exact Lineage.found upward upper ((upward.onPath tree upper).mpr passes)
  obtain ⟨link, linked⟩ := linked
  revert passes
  apply @LinkedTree.descend _ _ _ tree.linked (fun upper =>
    table.OnPath xid upper → table.OnPath other upper) ?_ ?_ upper link linked
  · intro _
    rw [← otherUpward.onPath tree]
    exact List.mem_of_mem_getLast? otherUpward.last
  · intro node child link linked member ih passes
    obtain ⟨above, isAbove, _, children⟩ := ResourceTable.links_some linked
    rw [children] at member
    obtain ⟨away, below, isBelow, parent⟩ := tree.child isAbove member
    have up : table.OnPath child node := by
      apply ResourceTable.OnPath.above isBelow away
      rw [parent]
      exact .self node
    have topmost := deepest.outer child passes away
    have further := ih (ResourceTable.onPath_trans passes up)
    have apart : other ≠ node := by
      rintro rfl
      rw [found] at isAbove
      obtain rfl := Option.some.inj isAbove
      obtain ⟨_, again, free⟩ := second.inner
      rw [found] at again
      obtain rfl := Option.some.inj again
      exact free child member topmost.1
    obtain ⟨sibling, record, reaches, inner, isSibling, back⟩ :=
      ResourceTable.child_onPath further apart
    rw [topmost.unique tree isBelow away (second.outer sibling reaches inner)
      isSibling (parent.trans back.symm) inner]
    exact reaches

theorem Deepest.unique (tree : table.Tree) {other : Nat}
    (deepest : Deepest table x y xid) (second : Deepest table x y other) :
    other = xid := by
  by_contra apart
  obtain ⟨child, window, reaches, inner, found, parent⟩ :=
    ResourceTable.child_onPath (deepest.passes tree second (.self xid)) apart
  obtain ⟨record, isRecord, free⟩ := deepest.inner
  obtain ⟨above, isAbove, listed⟩ := tree.listed found inner
  rw [parent, isRecord] at isAbove
  obtain rfl := Option.some.inj isAbove
  exact free child listed (second.outer child reaches inner).1

/-! ## The children under the point -/

/-- The origin of a child on top of the root, and of any other. -/
theorem windowRootOrigin_child (tree : table.Tree)
    {window : WindowResource} {child : Nat}
    (upward : table.Upward xid way)
    (found : table.findWindow child = some window)
    (inner : child ≠ table.screen.rootWindow) (parent : window.parent = xid) :
    windowRootOrigin table child =
      some (window.x + outline table window + (table.offset way).1,
        window.y + outline table window + (table.offset way).2) := by
  have below : table.Upward child (child :: way) := by
    refine .step (ResourceTable.links_of_found found) inner ?_
    rw [show window.link.parent = xid from parent]
    exact upward
  rw [windowRootOrigin_upward tree below]
  have here : table.offset (child :: way) =
      table.inset child + table.offset way := rfl
  rw [here, ResourceTable.inset, found]
  simp only [if_neg inner, outline, ite_not]
  rfl

theorem topLevelHit_iff (tree : table.Tree) {window : WindowResource}
    (found : table.findWindow xid = some window)
    (inner : xid ≠ table.screen.rootWindow)
    (parent : window.parent = table.screen.rootWindow) :
    topLevelHit table x y xid = true ↔ Struck table x y xid := by
  obtain ⟨root, rooted⟩ := tree.rooted
  have upward : table.Upward table.screen.rootWindow
      [table.screen.rootWindow] := .root (ResourceTable.links_of_found rooted)
  have origin := windowRootOrigin_child tree upward found inner parent
  rw [upward.offset_root rfl] at origin
  have flat : outline table window = 0 := by rw [outline, if_pos parent]
  simp only [flat] at origin
  simp only [topLevelHit, found, Option.any_some, Bool.and_eq_true,
    decide_eq_true_eq, Bool.not_eq_true']
  constructor
  · rintro ⟨⟨⟨⟨⟨⟨⟨⟨_, shape⟩, seen⟩, shown⟩, stays⟩, left⟩, top⟩, right⟩, bottom⟩
    refine ⟨window, _, found, origin, ⟨seen, stays, fun _ => ⟨shape, shown⟩⟩,
      ?_⟩
    constructor <;> simp only [flat] <;> omega
  · rintro ⟨other, place, again, isPlace, exposed, surrounds⟩
    rw [found] at again
    obtain rfl := Option.some.inj again
    rw [origin] at isPlace
    obtain rfl := Option.some.inj isPlace
    obtain ⟨left, top, right, bottom⟩ := surrounds
    simp only [flat] at left top right bottom
    exact ⟨⟨⟨⟨⟨⟨⟨⟨parent, (exposed.managed parent).1⟩, exposed.viewable⟩,
      (exposed.managed parent).2⟩, exposed.staying⟩, by omega⟩, by omega⟩,
      by omega⟩, by omega⟩

/-- Inside a window a child is struck where the search says so, and the search
goes on from the origin of the child. -/
theorem childHit_cases (tree : table.Tree) {window : WindowResource}
    {child : Nat} (upward : table.Upward xid way)
    (below : xid ≠ table.screen.rootWindow)
    (found : table.findWindow child = some window)
    (inner : child ≠ table.screen.rootWindow) (parent : window.parent = xid) :
    (∃ place, childHit table (table.offset way).1 (table.offset way).2 x y
        child = some (child, place) ∧ Struck table x y child ∧
        windowRootOrigin table child = some place) ∨
      (childHit table (table.offset way).1 (table.offset way).2 x y child =
        none ∧ ¬Struck table x y child) := by
  have origin := windowRootOrigin_child tree upward found inner parent
  have edge : outline table window = window.borderWidth := by
    rw [outline, if_neg (parent ▸ below)]
  rw [edge] at origin
  have lower : window.parent ≠ table.screen.rootWindow := parent ▸ below
  have struck : Struck table x y child ↔
      window.mapState = .viewable ∧ window.cleanupPending = false ∧
        (table.offset way).1 + window.x ≤ x ∧
        (table.offset way).2 + window.y ≤ y ∧
        x < (table.offset way).1 + window.x + window.width +
          window.borderWidth * 2 ∧
        y < (table.offset way).2 + window.y + window.height +
          window.borderWidth * 2 := by
    constructor
    · rintro ⟨other, place, again, isPlace, exposed, surrounds⟩
      rw [found] at again
      obtain rfl := Option.some.inj again
      rw [origin] at isPlace
      obtain rfl := Option.some.inj isPlace
      obtain ⟨left, top, right, bottom⟩ := surrounds
      simp only [edge] at left top right bottom
      exact ⟨exposed.viewable, exposed.staying, by omega, by omega, by omega,
        by omega⟩
    · rintro ⟨seen, stays, left, top, right, bottom⟩
      refine ⟨window, _, found, origin, ⟨seen, stays, fun same =>
        absurd same lower⟩, ?_⟩
      constructor <;> simp only [edge] <;> omega
  rw [struck, origin]
  by_cases shown : window.mapState = .viewable ∧ window.cleanupPending = false
  · obtain ⟨seen, stays⟩ := shown
    by_cases here : (table.offset way).1 + window.x ≤ x ∧
        (table.offset way).2 + window.y ≤ y ∧
        x < (table.offset way).1 + window.x + window.width +
          window.borderWidth * 2 ∧
        y < (table.offset way).2 + window.y + window.height +
          window.borderWidth * 2
    · left
      refine ⟨_, ?_, ⟨seen, stays, here⟩, rfl⟩
      simp only [childHit, found, Option.bind_eq_bind, Option.bind_some, seen,
        stays, ne_eq, not_true_eq_false, decide_false, Bool.or_self,
        Bool.false_eq_true, if_false, here, decide_true, Bool.and_self,
        if_true, Option.some.injEq, Prod.mk.injEq, true_and]
      omega
    · right
      refine ⟨?_, fun both => here both.2.2⟩
      simp only [childHit, found, Option.bind_eq_bind, Option.bind_some, seen,
        stays, ne_eq, not_true_eq_false, decide_false, Bool.or_self,
        Bool.false_eq_true, if_false]
      rw [if_neg]
      simpa only [Bool.and_eq_true, decide_eq_true_eq, and_assoc] using here
  · right
    refine ⟨?_, fun both => shown ⟨both.1, both.2.1⟩⟩
    simp only [childHit, found, Option.bind_eq_bind, Option.bind_some]
    rw [if_pos]
    rw [Bool.or_eq_true, decide_eq_true_eq]
    by_cases seen : window.mapState = .viewable
    · exact Or.inr (Bool.not_eq_false _ ▸ fun stays => shown ⟨seen, stays⟩)
    · exact Or.inl seen

/-! ## The descent -/

/-- A window that is reached through topmost windows only. -/
def Reached (table : ResourceTable) (x y : Int) (way : List Nat) : Prop :=
  ∀ upper ∈ way, upper ≠ table.screen.rootWindow → Topmost table x y upper

theorem deepest_of_reached (tree : table.Tree) {window : WindowResource}
    (upward : table.Upward xid way) (reached : Reached table x y way)
    (found : table.findWindow xid = some window)
    (free : ∀ child ∈ window.children, ¬Struck table x y child) :
    Deepest table x y xid :=
  ⟨⟨window, found, free⟩, fun upper passes =>
    reached upper ((upward.onPath tree upper).mpr passes)⟩

/-- One window further. -/
theorem Reached.descend (tree : table.Tree) {parent : WindowResource}
    {child : Nat} {front later : List Nat}
    (reached : Reached table x y way)
    (found : table.findWindow xid = some parent)
    (split : parent.children = front ++ child :: later)
    (struck : Struck table x y child)
    (free : ∀ sibling ∈ later, ¬Struck table x y sibling) :
    Reached table x y (child :: way) := by
  intro upper member inner
  rcases List.mem_cons.mp member with rfl | member
  · refine ⟨struck, ?_⟩
    intro window above isWindow isAbove start rest again
    have listed : upper ∈ parent.children := by
      rw [split]
      exact List.mem_append_right _ List.mem_cons_self
    obtain ⟨_, below, isBelow, back⟩ := tree.child found listed
    rw [isBelow] at isWindow
    obtain rfl := Option.some.inj isWindow
    rw [back, found] at isAbove
    obtain rfl := Option.some.inj isAbove
    have distinct := tree.distinct found
    rw [split] at again distinct
    obtain ⟨_, tail, apart⟩ := List.nodup_append.mp distinct
    have same := (List.append_cons_inj_of_notMem
      (fun member => apart upper member upper List.mem_cons_self rfl)
      (List.nodup_cons.mp tail).1).mp again
    rw [← same.2.2]
    exact free
  · exact reached upper member inner

theorem hitTestFrom_deepest (tree : table.Tree) (rounds : Nat)
    (upward : table.Upward xid way) (reached : Reached table x y way)
    (inner : xid ≠ table.screen.rootWindow)
    (enough : table.resourceCount < way.length + rounds) :
    Deepest table x y (hitTestFrom table x y rounds xid (table.offset way).1
      (table.offset way).2) := by
  induction rounds generalizing xid way with
  | zero =>
      have bound := upward.rounds tree
      omega
  | succ rounds ih =>
      obtain ⟨window, found⟩ := upward.found xid (Lineage.mem_self upward)
      rw [hitTestFrom, found]
      simp only
      cases searched : window.children.reverse.findSome?
          (childHit table (table.offset way).1 (table.offset way).2 x y) with
      | none =>
          refine deepest_of_reached tree upward reached found ?_
          intro child member
          have missed := List.findSome?_eq_none_iff.mp searched child
            (List.mem_reverse.mpr member)
          obtain ⟨away, below, isBelow, parent⟩ := tree.child found member
          obtain ⟨place, hit, _⟩ | ⟨_, free⟩ := @childHit_cases table x y _ _
            tree below child upward inner isBelow away parent
          · rw [missed] at hit
            cases hit
          · exact free
      | some result =>
          obtain ⟨front, child, back, split, hit, missed⟩ :=
            List.findSome?_eq_some_iff.mp searched
          have order : window.children =
              back.reverse ++ child :: front.reverse := by
            rw [← List.reverse_reverse window.children, split]
            simp
          have listed : ∀ sibling, sibling = child ∨ sibling ∈ front →
              sibling ∈ window.children := by
            intro sibling either
            rw [order]
            rcases either with rfl | member
            · simp
            · simp [member]
          obtain ⟨away, below, isBelow, parent⟩ :=
            tree.child found (listed child (Or.inl rfl))
          obtain ⟨place, selected, struck, origin⟩ | ⟨lost, _⟩ :=
            @childHit_cases table x y _ _ tree below child upward inner isBelow
              away parent
          · rw [hit] at selected
            obtain rfl := Option.some.inj selected
            have real : child ≠ 0 := by
              rintro rfl
              have vacant := tree.vacant
              rw [ResourceTable.links_of_found isBelow] at vacant
              cases vacant
            have deeper : table.Upward child (child :: way) := by
              refine .step (ResourceTable.links_of_found isBelow) away ?_
              rw [show below.link.parent = xid from parent]
              exact upward
            rw [windowRootOrigin_upward tree deeper] at origin
            obtain rfl := Option.some.inj origin
            simp only [if_neg real]
            refine ih deeper (reached.descend tree found order struck ?_) away
              (by rw [List.length_cons]; omega)
            intro sibling member
            rw [List.mem_reverse] at member
            obtain ⟨apart, record, isRecord, back⟩ :=
              tree.child found (listed sibling (Or.inr member))
            obtain ⟨place, hit, _⟩ | ⟨_, free⟩ := @childHit_cases table x y _ _
              tree record sibling upward inner isRecord apart back
            · rw [missed sibling member] at hit
              cases hit
            · exact free
          · rw [hit] at lost
            cases lost

/-- The search ends at the deepest window under the point. -/
theorem hitTest_deepest (tree : table.Tree) (x y : Int) :
    Deepest table x y (hitTestDeepestViewable table x y) := by
  obtain ⟨root, rooted⟩ := tree.rooted
  have upward : table.Upward table.screen.rootWindow
      [table.screen.rootWindow] := .root (ResourceTable.links_of_found rooted)
  have reached : Reached table x y [table.screen.rootWindow] :=
    fun upper member inner => absurd (List.mem_singleton.mp member) inner
  have agree : ∀ child ∈ root.children,
      (topLevelHit table x y child = true ↔ Struck table x y child) := by
    intro child member
    obtain ⟨away, below, isBelow, parent⟩ := tree.child rooted member
    exact topLevelHit_iff tree isBelow away parent
  unfold hitTestDeepestViewable hitTestTopLevel
  simp only [rooted]
  cases searched : root.children.reverse.find? (topLevelHit table x y) with
  | none =>
      simp only [Option.getD_none, if_true]
      refine deepest_of_reached tree upward reached rooted ?_
      intro child member struck
      exact List.find?_eq_none.mp searched child (List.mem_reverse.mpr member)
        ((agree child member).mpr struck)
  | some child =>
      obtain ⟨hit, front, back, split, missed⟩ :=
        List.find?_eq_some_iff_append.mp searched
      have order : root.children = back.reverse ++ child :: front.reverse := by
        rw [← List.reverse_reverse root.children, split]
        simp
      have listed : child ∈ root.children := by
        rw [order]
        simp
      obtain ⟨away, below, isBelow, parent⟩ := tree.child rooted listed
      have deeper : table.Upward child [child, table.screen.rootWindow] := by
        refine .step (ResourceTable.links_of_found isBelow) away ?_
        rw [show below.link.parent = table.screen.rootWindow from parent]
        exact upward
      have origin : table.offset [child, table.screen.rootWindow] =
          (below.x, below.y) := by
        have place := windowRootOrigin_child tree upward isBelow away parent
        rw [windowRootOrigin_upward tree deeper, upward.offset_root rfl,
          outline, if_pos parent] at place
        simpa using Option.some.inj place
      simp only [Option.getD_some, if_neg away, isBelow]
      have further := @hitTestFrom_deepest table x y _ _ tree
        table.resourceCount deeper (reached.descend tree rooted order
          ((agree child listed).mp hit) ?_) away
          (by simp only [List.length_cons]; omega)
      · rw [origin] at further
        exact further
      · intro sibling member struck
        rw [List.mem_reverse] at member
        have there : sibling ∈ root.children := by
          rw [order]
          simp [member]
        have free := missed sibling member
        rw [(agree sibling there).mpr struck] at free
        cases free

/-- The pointer is over the one deepest window, in every state of every run. -/
theorem pointer_over_deepest (screen : ScreenModel)
    (real : screen.rootWindow ≠ 0) (calls : List WindowCall) (x y : Int)
    (xid : Nat) :
    let table := (run ServerState.perform (.initial screen) calls).resources
    hitTestDeepestViewable table x y = xid ↔ Deepest table x y xid := by
  intro table
  have tree : table.Tree := (ServerState.run_sound real calls).tree
  have hit := hitTest_deepest tree x y
  exact ⟨fun same => same ▸ hit, fun deepest => deepest.unique tree hit⟩

theorem pointer_over_deepest_shown :
    Deepest (run ServerState.perform (.initial {}) shownWindows).resources
      101 51 0x200002 :=
  (pointer_over_deepest {} (by decide) shownWindows 101 51 0x200002).mp
    (by decide +kernel)

end Glasswyrm.Input
