import Glasswyrm.Library.Run
import Glasswyrm.Server.WindowDestruction

namespace Glasswyrm.Server

open Library
open Lifecycle (AppliedPolicyWindow LifecycleSnapshot LifecycleWindow
  WindowClass)
open X11 (ScreenModel)

/-! The map state of a window follows from its own requests, from the policy
and from its parent's map state, in every table that is reached. -/

/-- What of a window its own map state and those of the windows below follow
from. -/
structure WindowShape where
  parent : Nat
  windowClass : WindowClass
  mapState : MapState
  mapRequested : Bool
  policyVisible : Bool

def WindowResource.shape (window : WindowResource) : WindowShape :=
  { parent := window.parent
    windowClass := window.windowClass
    mapState := window.mapState
    mapRequested := window.mapRequested
    policyVisible := window.policyVisible }

namespace ResourceTable

variable {table : ResourceTable}

def viewable (table : ResourceTable) (xid : Nat) : Bool :=
  (table.findWindow xid).any (·.mapState = .viewable)

def due (table : ResourceTable) (xid : Nat) (window : WindowResource) :
    MapState :=
  dueMapState (table.isPolicyCandidate xid) window
    (table.viewable window.parent)

/-- The root is viewable, and every window outside the set has the state that
is due to it. -/
structure Settled (table : ResourceTable) (pending : Nat → Prop) : Prop where
  root : table.viewable table.screen.rootWindow = true
  windows : ∀ xid window, table.findWindow xid = some window →
    xid ≠ table.screen.rootWindow → ¬pending xid →
      window.mapState = table.due xid window

theorem Settled.weaken {pending wider : Nat → Prop}
    (settled : table.Settled pending) (more : ∀ xid, pending xid → wider xid) :
    table.Settled wider where
  root := settled.root
  windows := fun xid window found away other =>
    settled.windows xid window found away fun inside => other (more xid inside)

/-! ## What map states depend on -/

theorem isPolicyCandidate_of_found {xid : Nat} {window : WindowResource}
    (found : table.findWindow xid = some window) :
    table.isPolicyCandidate xid = (decide (xid ≠ 4) &&
      (decide (window.parent = table.screen.rootWindow) &&
        decide (window.windowClass = .inputOutput))) := by
  rw [isPolicyCandidate, found]
  rfl

theorem viewable_of_found {xid : Nat} {window : WindowResource}
    (found : table.findWindow xid = some window) :
    table.viewable xid = decide (window.mapState = .viewable) := by
  rw [viewable, found]
  rfl

section

variable {changed : ResourceTable}
  (screen : changed.screen.rootWindow = table.screen.rootWindow)

include screen

/-- A window that keeps its class, its parent and its requests under a parent
that keeps its map state is due the same state. -/
theorem due_same {xid : Nat} {before after : WindowResource}
    (isBefore : table.findWindow xid = some before)
    (isAfter : changed.findWindow xid = some after)
    (parent : after.parent = before.parent)
    (windowClass : after.windowClass = before.windowClass)
    (mapRequested : after.mapRequested = before.mapRequested)
    (policyVisible : after.policyVisible = before.policyVisible)
    (above : changed.viewable before.parent = table.viewable before.parent) :
    changed.due xid after = table.due xid before := by
  rw [due, due, parent, above, isPolicyCandidate_of_found isAfter,
    isPolicyCandidate_of_found isBefore, parent, windowClass, screen]
  simp only [dueMapState, mapRequested, policyVisible]

theorem Settled.of_shapes {pending : Nat → Prop}
    (settled : table.Settled pending)
    (same : ∀ id, (changed.findWindow id).map (·.shape) =
      (table.findWindow id).map (·.shape)) : changed.Settled pending := by
  have views : ∀ id, changed.viewable id = table.viewable id := by
    intro id
    have shape := same id
    unfold viewable
    cases here : changed.findWindow id with
    | none =>
        rw [here, Option.map_none, eq_comm, Option.map_eq_none_iff] at shape
        rw [shape]
    | some window =>
        rw [here, Option.map_some, eq_comm, Option.map_eq_some_iff] at shape
        obtain ⟨former, there, shape⟩ := shape
        rw [there]
        have state := congrArg WindowShape.mapState shape
        simp only [WindowResource.shape] at state
        simp only [Option.any_some, state]
  refine ⟨by rw [screen, views]; exact settled.root, ?_⟩
  intro xid window found away free
  have shape := same xid
  rw [found, Option.map_some, eq_comm, Option.map_eq_some_iff] at shape
  obtain ⟨former, there, shape⟩ := shape
  simp only [WindowResource.shape, WindowShape.mk.injEq] at shape
  obtain ⟨parent, windowClass, mapState, mapRequested, policyVisible⟩ := shape
  rw [screen] at away
  rw [due_same screen there found parent.symm windowClass.symm
    mapRequested.symm policyVisible.symm (views _), ← mapState]
  exact settled.windows xid former there away free

end

theorem Settled.updateWindow {pending : Nat → Prop}
    {change : WindowResource → WindowResource}
    (settled : table.Settled pending)
    (keeps : ∀ window, (change window).shape = window.shape) (xid : Nat) :
    (table.updateWindow xid change).Settled pending := by
  refine settled.of_shapes (by rw [updateWindow_screen]) (fun id => ?_)
  rw [findWindow_updateWindow]
  split
  · rw [Option.map_map]
    congr 1
    exact funext keeps
  · rfl

/-! ## The recomputation -/

/-- Map states changed at or below a level of the tree, and nothing else. -/
structure Remapped (depth : Nat → Nat) (level : Nat)
    (before after : ResourceTable) : Prop where
  screen : after.screen = before.screen
  windows : ∀ id, after.findWindow id = before.findWindow id ∨
    level ≤ depth id ∧ ∃ window mapState,
      before.findWindow id = some window ∧
        after.findWindow id = some { window with mapState }

namespace Remapped

variable {depth : Nat → Nat} {level : Nat} {before after : ResourceTable}

theorem refl (table : ResourceTable) : Remapped depth level table table :=
  ⟨rfl, fun _ => Or.inl rfl⟩

theorem trans {last : ResourceTable}
    (first : Remapped depth level before after)
    (second : Remapped depth level after last) :
    Remapped depth level before last where
  screen := second.screen.trans first.screen
  windows := by
    intro id
    rcases second.windows id with
      same | ⟨deep, window, mapState, isAfter, isLast⟩
    · rw [same]
      exact first.windows id
    · rcases first.windows id with
        same | ⟨_, window', mapState', isBefore, isAfter'⟩
      · rw [same] at isAfter
        exact Or.inr ⟨deep, window, mapState, isAfter, isLast⟩
      · rw [isAfter] at isAfter'
        obtain rfl := Option.some.inj isAfter'
        exact Or.inr ⟨deep, window', mapState, isBefore, isLast⟩

theorem weaken {higher : Nat} (remapped : Remapped depth level before after)
    (le : higher ≤ level) : Remapped depth higher before after where
  screen := remapped.screen
  windows := fun id => (remapped.windows id).imp_right fun later =>
    ⟨le.trans later.1, later.2⟩

theorem updateWindow {xid : Nat} (mapState : MapState)
    (deep : level ≤ depth xid) :
    Remapped depth level before
      (before.updateWindow xid fun window => { window with mapState }) where
  screen := updateWindow_screen _ _ _
  windows := by
    intro id
    rw [findWindow_updateWindow]
    split
    · rename_i same
      subst same
      cases found : before.findWindow id with
      | none => exact Or.inl rfl
      | some window =>
          exact Or.inr ⟨deep, window, mapState, rfl, rfl⟩
    · exact Or.inl rfl

variable (remapped : Remapped depth level before after)

include remapped

/-- What a window was before. -/
theorem origin {xid : Nat} {window : WindowResource}
    (found : after.findWindow xid = some window) :
    ∃ former, before.findWindow xid = some former ∧
      window = { former with mapState := window.mapState } := by
  rcases remapped.windows xid with same | ⟨_, former, mapState, was, now⟩
  · exact ⟨window, same ▸ found, rfl⟩
  · rw [found] at now
    obtain rfl := Option.some.inj now
    exact ⟨former, was, rfl⟩

theorem links (id : Nat) : after.links id = before.links id := by
  unfold ResourceTable.links
  rcases remapped.windows id with same | ⟨_, former, mapState, was, now⟩
  · rw [same]
  · rw [was, now]
    rfl

theorem tree (treed : before.Tree) : after.Tree :=
  treed.of_links (by rw [remapped.screen]) remapped.links

theorem viewable {id : Nat} (shallow : depth id < level) :
    after.viewable id = before.viewable id := by
  rcases remapped.windows id with same | ⟨deep, _⟩
  · rw [ResourceTable.viewable, same, ResourceTable.viewable]
  · omega

end Remapped

/-- The depths of a tree of windows. -/
structure Ranked (table : ResourceTable) (depth : Nat → Nat) : Prop where
  root : depth table.screen.rootWindow = 0
  deeper : ∀ xid window child, table.findWindow xid = some window →
    child ∈ window.children → depth child = depth xid + 1

namespace Ranked

variable {depth : Nat → Nat}

theorem remapped {level : Nat} {after : ResourceTable}
    (ranked : table.Ranked depth) (remapped : Remapped depth level table after) :
    after.Ranked depth where
  root := by
    rw [remapped.screen]
    exact ranked.root
  deeper := by
    intro xid window child found member
    obtain ⟨former, was, same⟩ := remapped.origin found
    rw [same] at member
    exact ranked.deeper xid former child was member

theorem parent (ranked : table.Ranked depth) (tree : table.Tree) {xid : Nat}
    {window : WindowResource} (found : table.findWindow xid = some window)
    (away : xid ≠ table.screen.rootWindow) :
    depth xid = depth window.parent + 1 := by
  obtain ⟨above, isAbove, member⟩ := tree.listed found away
  exact ranked.deeper window.parent above xid isAbove member

/-- No window lies deeper than the table has resources. -/
theorem shallow (ranked : table.Ranked depth) (tree : table.Tree) {xid : Nat}
    {window : WindowResource} (found : table.findWindow xid = some window) :
    depth xid < table.resources.size := by
  obtain ⟨way, length, distinct, passes⟩ := tree.linked.chain ranked.root
    (fun linked member => by
      obtain ⟨window, isWindow, _, children⟩ := links_some linked
      exact ranked.deeper _ window _ isWindow (children ▸ member))
    (links_of_found found)
  have known : ∀ passed ∈ way, passed ∈ table.resources := by
    intro passed member
    obtain ⟨_, link, linked⟩ := passes passed member
    obtain ⟨window, isWindow, _⟩ := links_some linked
    obtain ⟨record, isRecord, _⟩ := Option.bind_eq_some_iff.mp isWindow
    exact KeyMap.mem_of_lookup isRecord
  have bound := KeyMap.length_le_size table.resources distinct known
  omega

end Ranked

theorem Tree.ranked (tree : table.Tree) : ∃ depth, table.Ranked depth := by
  obtain ⟨depth, root, deeper⟩ := tree.linked.ranked
  refine ⟨depth, root, fun xid window child found member => ?_⟩
  exact deeper (links_of_found found) member

section

variable {depth : Nat → Nat}

/-- The recursion changes map states from the window downwards. -/
theorem recomputeMapStatesFrom_remapped (ranked : table.Ranked depth)
    (rounds xid : Nat) (flag : Bool) :
    Remapped depth (depth xid) table
      (recomputeMapStatesFrom rounds xid flag table) := by
  induction rounds generalizing xid flag table with
  | zero => exact .refl table
  | succ rounds ih =>
      rw [recomputeMapStatesFrom]
      split
      · exact .refl table
      · rename_i window found
        simp only
        generalize dueMapState (table.isPolicyCandidate xid) window flag =
          mapState
        suffices general : ∀ children : List Nat,
            (∀ child ∈ children, child ∈ window.children) →
            ∀ reached, Remapped depth (depth xid) table reached →
              Remapped depth (depth xid) table (children.foldl
                (fun table child => recomputeMapStatesFrom rounds child
                  (decide (mapState = .viewable)) table) reached) by
          exact general window.children (fun _ member => member) _
            (.updateWindow mapState (Nat.le_refl _))
        intro children
        induction children with
        | nil => exact fun _ reached so => so
        | cons child children walk =>
            intro among reached so
            rw [List.foldl_cons]
            refine walk (fun other member =>
              among other (List.mem_cons_of_mem _ member)) _ (so.trans ?_)
            have step := ranked.deeper xid window child found
              (among child List.mem_cons_self)
            exact (ih (ranked.remapped so) child _).weaken (by omega)

theorem viewable_updateWindow_other {change : WindowResource → WindowResource}
    {xid id : Nat} (other : id ≠ xid) :
    (table.updateWindow xid change).viewable id = table.viewable id := by
  rw [viewable, findWindow_updateWindow, if_neg other, viewable]

/-- A window that is given its due state leaves only its children to be
settled. -/
theorem Settled.give (tree : table.Tree) (ranked : table.Ranked depth)
    {xid : Nat} {window : WindowResource} {pending : Nat → Prop}
    (settled : table.Settled pending)
    (found : table.findWindow xid = some window)
    (away : xid ≠ table.screen.rootWindow) :
    (table.updateWindow xid fun former =>
      { former with mapState := table.due xid window }).Settled
        (fun id => (pending id ∧ id ≠ xid) ∨ id ∈ window.children) := by
  have screen : (table.updateWindow xid fun former => { former with
      mapState := table.due xid window }).screen.rootWindow =
        table.screen.rootWindow := by rw [updateWindow_screen]
  refine ⟨?_, ?_⟩
  · rw [screen, viewable_updateWindow_other (Ne.symm away)]
    exact settled.root
  · intro id after isAfter inner free
    rw [screen] at inner
    rw [not_or, not_and, ne_eq, not_not] at free
    obtain ⟨settledHere, noChild⟩ := free
    by_cases same : id = xid
    · subst same
      have above : window.parent ≠ id := by
        intro own
        have step := ranked.parent tree found away
        rw [own] at step
        omega
      have now : { window with mapState := table.due id window } = after := by
        have isAfter := isAfter
        rw [findWindow_updateWindow, if_pos rfl, found] at isAfter
        exact Option.some.inj isAfter
      subst now
      exact (due_same screen found isAfter rfl rfl rfl rfl
        (viewable_updateWindow_other above)).symm
    · have isBefore := isAfter
      rw [findWindow_updateWindow, if_neg same] at isBefore
      have above : after.parent ≠ xid := by
        intro own
        obtain ⟨parent, isParent, member⟩ := tree.listed isBefore inner
        rw [own, found] at isParent
        obtain rfl := Option.some.inj isParent
        exact noChild member
      rw [due_same screen isBefore isAfter rfl rfl rfl rfl
        (viewable_updateWindow_other above)]
      exact settled.windows id after isBefore inner
        fun inside => same (settledHere inside)

/-- The children of a window settled one after the other. -/
theorem foldl_children_settles (tree : table.Tree)
    (ranked : table.Ranked depth) {rounds xid : Nat} {window : WindowResource}
    {pending : Nat → Prop} (found : table.findWindow xid = some window)
    (deep : ∀ id window, table.findWindow id = some window →
      depth id < depth xid + 1 + rounds)
    (settles : ∀ (later : ResourceTable) (child : Nat) (flag : Bool)
      (pending : Nat → Prop), later.Tree → later.Ranked depth →
      later.Settled pending → child ≠ later.screen.rootWindow →
      (∀ id window, later.findWindow id = some window →
        depth id < depth child + rounds) →
      (∀ window, later.findWindow child = some window →
        flag = later.viewable window.parent) →
      (recomputeMapStatesFrom rounds child flag later).Settled
        (fun id => pending id ∧ id ≠ child))
    {children : List Nat} (among : ∀ child ∈ children, child ∈ window.children)
    (settled : table.Settled (fun id => pending id ∨ id ∈ children)) :
    (children.foldl (fun table' child => recomputeMapStatesFrom rounds child
      (table.viewable xid) table') table).Settled pending := by
  suffices general : ∀ (children : List Nat) (later : ResourceTable),
      (∀ child ∈ children, child ∈ window.children) →
      Remapped depth (depth xid + 1) table later →
      later.Settled (fun id => pending id ∨ id ∈ children) →
      (children.foldl (fun table' child => recomputeMapStatesFrom rounds child
        (table.viewable xid) table') later).Settled pending by
    exact general children table among (.refl table) settled
  intro children
  induction children with
  | nil =>
      intro later _ _ so
      exact so.weaken fun id either =>
        either.resolve_right List.not_mem_nil
  | cons child children walk =>
      intro later among so settledLater
      have listed := among child List.mem_cons_self
      have step := ranked.deeper xid window child found listed
      obtain ⟨inner, below, isBelow, back⟩ := tree.child found listed
      have treeLater := so.tree tree
      have rankedLater := ranked.remapped so
      rw [List.foldl_cons]
      refine walk _ (fun other member =>
        among other (List.mem_cons_of_mem _ member)) (so.trans ?_) ?_
      · rw [← step]
        exact recomputeMapStatesFrom_remapped rankedLater rounds child _
      · refine (settles later child _ _ treeLater rankedLater settledLater
          (by rw [so.screen]; exact inner) ?_ ?_).weaken ?_
        · intro id other isOther
          obtain ⟨former, was, _⟩ := so.origin isOther
          have low := deep id former was
          omega
        · intro other isOther
          obtain ⟨former, was, same⟩ := so.origin isOther
          rw [isBelow] at was
          obtain rfl := Option.some.inj was
          have parent : other.parent = xid := by
            rw [same]
            exact back
          rw [parent]
          exact (so.viewable (Nat.lt_succ_self _)).symm
        · rintro id ⟨inside, other⟩
          exact inside.imp_right fun inside =>
            (List.mem_cons.mp inside).resolve_left other

/-- With one round for every level below it, a window is settled, and so are
the windows below. -/
theorem recomputeMapStatesFrom_settles (tree : table.Tree)
    (ranked : table.Ranked depth) {rounds xid : Nat} {flag : Bool}
    {pending : Nat → Prop} (settled : table.Settled pending)
    (away : xid ≠ table.screen.rootWindow)
    (deep : ∀ id window, table.findWindow id = some window →
      depth id < depth xid + rounds)
    (told : ∀ window, table.findWindow xid = some window →
      flag = table.viewable window.parent) :
    (recomputeMapStatesFrom rounds xid flag table).Settled
      (fun id => pending id ∧ id ≠ xid) := by
  have absent : table.findWindow xid = none →
      table.Settled (fun id => pending id ∧ id ≠ xid) := by
    intro missing
    refine ⟨settled.root, fun id window found inner free => ?_⟩
    refine settled.windows id window found inner fun inside => free ⟨inside, ?_⟩
    rintro rfl
    rw [missing] at found
    cases found
  induction rounds generalizing xid flag table pending with
  | zero =>
      rw [recomputeMapStatesFrom]
      apply absent
      cases found : table.findWindow xid with
      | none => rfl
      | some window =>
          have wrong := deep xid window found
          omega
  | succ rounds ih =>
      rw [recomputeMapStatesFrom]
      cases found : table.findWindow xid with
      | none => exact absent found
      | some window =>
          have state : dueMapState (table.isPolicyCandidate xid) window flag =
              table.due xid window := by
            rw [told window found]
            rfl
          simp only [state]
          have given := settled.give tree ranked found away
          have start := @Remapped.updateWindow depth (depth xid) table xid
            (table.due xid window) (Nat.le_refl _)
          have here : (table.updateWindow xid fun former => { former with
              mapState := table.due xid window }).findWindow xid =
                some { window with mapState := table.due xid window } := by
            rw [findWindow_updateWindow, if_pos rfl, found]
            rfl
          generalize (table.updateWindow xid fun former =>
            { former with mapState := table.due xid window }) = reached
            at given start here ⊢
          have own := viewable_of_found here
          rw [← own]
          refine foldl_children_settles (start.tree tree)
            (ranked.remapped start) here ?_ ?_ (fun _ member => member) given
          · intro id other isOther
            obtain ⟨former, was, _⟩ := start.origin isOther
            have low := deep id former was
            omega
          · intro later child flag pending treed ranking so inner low known
            refine ih treed ranking so inner low known (fun missing => ?_)
            refine ⟨so.root, fun id window found away free => ?_⟩
            refine so.windows id window found away fun inside =>
              free ⟨inside, ?_⟩
            rintro rfl
            rw [missing] at found
            cases found

end

/-- Settling what lies right below the root. -/
theorem recomputeMapStates_root (tree : table.Tree) {pending : Nat → Prop}
    (settled : table.Settled pending)
    (top : ∀ root, table.findWindow table.screen.rootWindow = some root →
      ∀ xid, pending xid → xid ∈ root.children) :
    (table.recomputeMapStates table.screen.rootWindow).Settled
      (fun _ => False) := by
  obtain ⟨depth, ranked⟩ := tree.ranked
  obtain ⟨root, found⟩ := tree.rooted
  unfold recomputeMapStates
  rw [found]
  simp only [if_true]
  have start := @Remapped.updateWindow depth 0 table table.screen.rootWindow
    .viewable (Nat.zero_le _)
  have here : (table.updateWindow table.screen.rootWindow fun root =>
      { root with mapState := .viewable }).findWindow
        table.screen.rootWindow =
          some { root with mapState := .viewable } := by
    rw [findWindow_updateWindow, if_pos rfl, found]
    rfl
  have given : (table.updateWindow table.screen.rootWindow fun root =>
      { root with mapState := .viewable }).Settled pending := by
    refine settled.of_shapes (by rw [updateWindow_screen]) (fun id => ?_)
    rw [findWindow_updateWindow]
    split
    · rename_i same
      subst same
      have seen := settled.root
      rw [viewable_of_found found, decide_eq_true_eq] at seen
      rw [found]
      simp only [Option.map_some, WindowResource.shape, seen]
    · rfl
  generalize (table.updateWindow table.screen.rootWindow fun root =>
    { root with mapState := .viewable }) = reached at start here given ⊢
  have own := viewable_of_found here
  simp only [decide_true] at own
  rw [← own]
  refine foldl_children_settles (start.tree tree) (ranked.remapped start) here
    ?_ (fun later child flag pending treed ranking so inner low known =>
      recomputeMapStatesFrom_settles treed ranking so inner low known)
    (fun _ member => member) ?_
  · intro id other isOther
    obtain ⟨former, was, _⟩ := start.origin isOther
    have low := ranked.shallow tree was
    omega
  · exact given.weaken fun id inside => Or.inr (top root found id inside)

theorem recomputeMapStates_settles (tree : table.Tree) {pending : Nat → Prop}
    {xid : Nat} (settled : table.Settled pending)
    (away : xid ≠ table.screen.rootWindow) :
    (table.recomputeMapStates xid).Settled
      (fun id => pending id ∧ id ≠ xid) := by
  obtain ⟨depth, ranked⟩ := tree.ranked
  have low : ∀ id window, table.findWindow id = some window →
      depth id < depth xid + table.resources.size := by
    intro id window found
    have shallow := ranked.shallow tree found
    omega
  unfold recomputeMapStates
  rw [if_neg away]
  cases found : table.findWindow xid with
  | none =>
      refine ⟨settled.root, fun id window isWindow inner free => ?_⟩
      refine settled.windows id window isWindow inner fun inside =>
        free ⟨inside, ?_⟩
      rintro rfl
      rw [found] at isWindow
      cases isWindow
  | some window =>
      refine recomputeMapStatesFrom_settles tree ranked settled away low
        (fun other isOther => ?_)
      rw [found] at isOther
      obtain rfl := Option.some.inj isOther
      rfl

theorem recomputeMapStates_remapped (tree : table.Tree) (xid : Nat) :
    ∃ depth, Remapped depth 0 table (table.recomputeMapStates xid) := by
  obtain ⟨depth, ranked⟩ := tree.ranked
  refine ⟨depth, ?_⟩
  unfold recomputeMapStates
  simp only
  split
  · split
    · exact .refl table
    · rename_i root found
      suffices general : ∀ (children : List Nat) (reached : ResourceTable),
          Remapped depth 0 table reached →
          Remapped depth 0 table (children.foldl (fun table' child =>
            recomputeMapStatesFrom table.resources.size child true table')
            reached) by
        exact general root.children _
          (.updateWindow .viewable (Nat.zero_le _))
      intro children
      induction children with
      | nil => exact fun reached so => so
      | cons child children walk =>
          intro reached so
          rw [List.foldl_cons]
          exact walk _ (so.trans ((recomputeMapStatesFrom_remapped
            (ranked.remapped so) _ child true).weaken (Nat.zero_le _)))
  · split
    · exact .refl table
    · exact (recomputeMapStatesFrom_remapped ranked _ xid _).weaken
        (Nat.zero_le _)

end ResourceTable

end Glasswyrm.Server
