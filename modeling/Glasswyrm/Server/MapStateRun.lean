import Glasswyrm.Server.LifecycleState
import Glasswyrm.Server.MapStates

namespace Glasswyrm.Server

open Library
open Lifecycle (AppliedPolicyWindow LifecycleSnapshot LifecycleWindow)
open X11 (ScreenModel)

/-! Every operation on the windows leaves every map state settled. -/

namespace ResourceTable

variable {table : ResourceTable}

structure Sound (table : ResourceTable) : Prop where
  tree : table.Tree
  settled : table.Settled (fun _ => False)

theorem Settled.addWindow (tree : table.Tree) {pending : Nat → Prop}
    (settled : table.Settled pending) {owner : Option Nat} {xid : Nat}
    {window parent : WindowResource} (fresh : table.findWindow xid = none)
    (found : table.findWindow window.parent = some parent)
    (unmapped : window.mapState = .unmapped)
    (quiet : window.mapRequested = false) :
    (table.addWindow owner xid window).Settled pending := by
  have apart : window.parent ≠ xid := by
    intro same
    rw [same, fresh] at found
    cases found
  have windows := @findWindow_addWindow table owner xid window apart
  have views : ∀ id, id ≠ xid →
      (table.addWindow owner xid window).viewable id = table.viewable id := by
    intro id other
    rw [viewable, windows, if_neg other, viewable]
    split
    · cases table.findWindow id <;> rfl
    · rfl
  have screen : (table.addWindow owner xid window).screen.rootWindow =
      table.screen.rootWindow := by rw [addWindow_screen]
  refine ⟨?_, ?_⟩
  · obtain ⟨root, rooted⟩ := tree.rooted
    rw [screen, views _ ?_]
    · exact settled.root
    · intro same
      rw [same, fresh] at rooted
      cases rooted
  · intro id after isAfter away free
    rw [screen] at away
    by_cases same : id = xid
    · have now := isAfter
      rw [windows, if_pos same] at now
      obtain rfl := Option.some.inj now
      rw [unmapped, due, dueMapState, quiet]
      rfl
    · have before : ∃ former, table.findWindow id = some former ∧
          after.shape = former.shape := by
        have now := isAfter
        rw [windows, if_neg same] at now
        split at now
        · obtain ⟨former, was, rfl⟩ := Option.map_eq_some_iff.mp now
          exact ⟨former, was, rfl⟩
        · exact ⟨after, now, rfl⟩
      obtain ⟨former, was, shape⟩ := before
      simp only [WindowResource.shape, WindowShape.mk.injEq] at shape
      obtain ⟨above, windowClass, mapState, mapRequested, policyVisible⟩ :=
        shape
      obtain ⟨upper, isUpper, _⟩ := tree.listed was away
      rw [due_same screen was isAfter above windowClass mapRequested
        policyVisible (views _ ?_), mapState]
      · exact settled.windows id former was away free
      · intro same
        rw [same, fresh] at isUpper
        cases isUpper

theorem Settled.destroyLeaf (tree : table.Tree) {pending : Nat → Prop}
    (settled : table.Settled pending) {xid : Nat} {window : WindowResource}
    (found : table.findWindow xid = some window)
    (bare : window.children = []) (away : xid ≠ table.screen.rootWindow) :
    (table.destroyLeaf xid).Settled pending := by
  have windows := findWindow_destroyLeaf found away
  have views : ∀ id, id ≠ xid →
      (table.destroyLeaf xid).viewable id = table.viewable id := by
    intro id other
    rw [viewable, windows, if_neg other, viewable]
    split
    · cases table.findWindow id <;> rfl
    · rfl
  have screen : (table.destroyLeaf xid).screen.rootWindow =
      table.screen.rootWindow := by rw [destroyLeaf_screen]
  refine ⟨?_, ?_⟩
  · rw [screen, views _ away.symm]
    exact settled.root
  · intro id after isAfter inner free
    rw [screen] at inner
    obtain ⟨former, was, shape⟩ : ∃ former,
        table.findWindow id = some former ∧ after.shape = former.shape := by
      have now := isAfter
      rw [windows] at now
      split at now
      · cases now
      · split at now
        · obtain ⟨former, was, rfl⟩ := Option.map_eq_some_iff.mp now
          exact ⟨former, was, rfl⟩
        · exact ⟨after, now, rfl⟩
    simp only [WindowResource.shape, WindowShape.mk.injEq] at shape
    obtain ⟨above, windowClass, mapState, mapRequested, policyVisible⟩ := shape
    rw [due_same screen was isAfter above windowClass mapRequested
      policyVisible (views _ ?_), mapState]
    · exact settled.windows id former was inner free
    · -- the window that goes has no child
      intro own
      obtain ⟨upper, isUpper, member⟩ := tree.listed was inner
      rw [own, found] at isUpper
      obtain rfl := Option.some.inj isUpper
      rw [bare] at member
      cases member

/-- A window with other requests is to be settled anew. -/
theorem Settled.request {pending : Nat → Prop} (settled : table.Settled pending)
    {change : WindowResource → WindowResource} {xid : Nat}
    (keeps : ∀ window, table.findWindow xid = some window →
      (change window).mapState = window.mapState) :
    (table.updateWindow xid change).Settled
      (fun id => pending id ∨ id = xid) := by
  have views : ∀ id,
      (table.updateWindow xid change).viewable id = table.viewable id := by
    intro id
    rw [viewable, findWindow_updateWindow, viewable]
    split
    · rename_i same
      subst same
      cases found : table.findWindow id with
      | none => rfl
      | some window =>
          simp only [Option.map_some, Option.any_some, keeps window found]
    · rfl
  refine ⟨by rw [updateWindow_screen, views]; exact settled.root, ?_⟩
  intro id after isAfter away free
  rw [not_or] at free
  have was := isAfter
  rw [findWindow_updateWindow, if_neg free.2] at was
  rw [updateWindow_screen] at away
  rw [due_same (by rw [updateWindow_screen]) was isAfter rfl rfl rfl rfl
    (views _)]
  exact settled.windows id after was away free.1

theorem isPolicyCandidate_updateWindow
    {change : WindowResource → WindowResource} {xid : Nat}
    (keeps : ∀ window, table.findWindow xid = some window →
      (change window).parent = window.parent ∧
        (change window).windowClass = window.windowClass) (id : Nat) :
    (table.updateWindow xid change).isPolicyCandidate id =
      table.isPolicyCandidate id := by
  rw [isPolicyCandidate, isPolicyCandidate, findWindow_updateWindow,
    updateWindow_screen]
  split
  · rename_i same
    subst same
    cases found : table.findWindow id with
    | none => rfl
    | some window =>
        obtain ⟨parent, windowClass⟩ := keeps window found
        simp only [Option.map_some, Option.any_some, parent, windowClass]
  · rfl

namespace Sound

variable (sound : table.Sound)

include sound

theorem of_windows {changed : ResourceTable}
    (screen : changed.screen.rootWindow = table.screen.rootWindow)
    (same : ∀ id, changed.findWindow id = table.findWindow id) :
    changed.Sound where
  tree := sound.tree.of_windows screen same
  settled := sound.settled.of_shapes screen fun id => by rw [same]

theorem addWindow {owner : Option Nat} {xid : Nat}
    {window parent : WindowResource}
    (fresh : table.resources.contains xid = false)
    (found : table.findWindow window.parent = some parent) (real : xid ≠ 0)
    (bare : window.children = []) (unmapped : window.mapState = .unmapped)
    (quiet : window.mapRequested = false) :
    (table.addWindow owner xid window).Sound where
  tree := sound.tree.addWindow (findWindow_absent fresh) found bare real
  settled := sound.settled.addWindow sound.tree (findWindow_absent fresh) found
    unmapped quiet

theorem createWindow (owner resourceBase resourceMask : Nat)
    (spec : WindowCreateSpec) :
    (table.createWindow owner resourceBase resourceMask spec).2.Sound := by
  rcases createWindow_cases table owner resourceBase resourceMask spec with
    same | ⟨window, parent, found, fresh, real, bare, unmapped, quiet, added⟩
  · rw [same]
    exact sound
  · rw [added]
    exact sound.addWindow fresh found real bare unmapped quiet

theorem createServerProxyWindow (xid : Nat) :
    (table.createServerProxyWindow xid).2.Sound := by
  rcases createServerProxyWindow_cases table xid with
    same | ⟨window, top, fresh, real, bare, unmapped, quiet, added⟩
  · rw [same]
    exact sound
  · obtain ⟨root, rooted⟩ := sound.tree.rooted
    rw [added]
    exact sound.addWindow fresh (by rw [top]; exact rooted) real bare unmapped
      quiet

theorem createResource (owner resourceBase resourceMask xid : Nat)
    (payload : ResourcePayload) :
    (table.createResource owner resourceBase resourceMask xid payload
      ).2.Sound := by
  obtain ⟨screen, same⟩ :=
    createResource_windows table owner resourceBase resourceMask xid payload
  exact sound.of_windows (by rw [screen]) same

theorem freeOwned (xid : Nat) : (table.freeOwned xid).Sound :=
  sound.of_windows (by rw [freeOwned_screen]) (findWindow_freeOwned table xid)

theorem configureLocal (xid : Nat) (configure : LocalConfigure) :
    (table.configureLocal xid configure).2.Sound := by
  rcases configureLocal_cases table xid configure with
    same | ⟨window, storage, found, away, _, valid, moved⟩
  · rw [same]
    exact sound
  · rw [moved]
    refine ⟨sound.tree.moved found away valid, ?_⟩
    have placed := @Settled.updateWindow table _
      (fun window => configured window configure storage) sound.settled
      (fun _ => rfl) xid
    unfold ResourceTable.moved
    simp only
    split
    · exact placed
    · apply placed.updateWindow
      exact fun _ => rfl

theorem setLocalMapIntent (xid : Nat) (mapped : Bool) :
    (table.setLocalMapIntent xid mapped).2.Sound := by
  unfold ResourceTable.setLocalMapIntent
  split
  · exact sound
  · split
    · exact sound
    · rename_i unmanaged
      simp only [Bool.or_eq_true, decide_eq_true_eq, not_or] at unmanaged
      have tree := @Tree.updateWindow table (fun window =>
        { window with mapRequested := mapped }) sound.tree (fun _ => rfl) xid
      have asked := @Settled.request table _ sound.settled (fun window =>
        { window with mapRequested := mapped }) xid (fun _ _ => rfl)
      have away : xid ≠ (table.updateWindow xid fun window =>
          { window with mapRequested := mapped }).screen.rootWindow := by
        rw [updateWindow_screen]
        exact unmanaged.1
      obtain ⟨depth, remapped⟩ := recomputeMapStates_remapped tree xid
      refine ⟨remapped.tree tree,
        (recomputeMapStates_settles tree asked away).weaken ?_⟩
      rintro id ⟨inside, other⟩
      exact inside.elim False.elim other

end Sound

/-! ## The policy -/

/-- All windows but those that the policy is about to place are settled. -/
structure Requested (table : ResourceTable) : Prop where
  tree : table.Tree
  settled : table.Settled fun xid => table.isPolicyCandidate xid = true

theorem Sound.requested (sound : table.Sound) : table.Requested where
  tree := sound.tree
  settled := sound.settled.weaken fun _ inside => inside.elim

namespace Requested

variable (requested : table.Requested)

include requested

/-- The policy may change what it places, but not where it is in the tree. -/
theorem updateWindow {change : WindowResource → WindowResource} {xid : Nat}
    (candidate : table.isPolicyCandidate xid = true)
    (keeps : ∀ window, table.findWindow xid = some window →
      (change window).link = window.link ∧
        (change window).windowClass = window.windowClass ∧
        (change window).mapState = window.mapState) :
    (table.updateWindow xid change).Requested where
  tree := by
    refine requested.tree.of_links (by rw [updateWindow_screen]) fun id => ?_
    rw [links, findWindow_updateWindow, links]
    split
    · rename_i same
      subst same
      cases found : table.findWindow id with
      | none => rfl
      | some window =>
          simp only [Option.map_some, (keeps window found).1]
    · rfl
  settled := by
    have placed := requested.settled.request fun window found =>
      (keeps window found).2.2
    have same := @isPolicyCandidate_updateWindow table change xid
      fun window found => by
        have link := congrArg Link.parent (keeps window found).1
        exact ⟨link, (keeps window found).2.1⟩
    refine placed.weaken fun id inside => ?_
    rw [same]
    rcases inside with inside | rfl
    · exact inside
    · exact candidate

theorem reorderRootChildren {visible : List Nat} {next : ResourceTable}
    (reordered : table.reorderRootChildren visible = some next) :
    next.Requested where
  tree := requested.tree.reorderRootChildren reordered
  settled := by
    obtain ⟨root, found, _, _, rfl⟩ := reorderRootChildren_some reordered
    have same := @isPolicyCandidate_updateWindow table
      (fun window => { window with children := (root.children.filter
        fun child => !visible.contains child) ++ visible })
      table.screen.rootWindow fun _ _ => ⟨rfl, rfl⟩
    refine Settled.weaken ?_ fun id inside => (same id).trans inside
    apply requested.settled.updateWindow
    exact fun _ => rfl

theorem recompute :
    (table.recomputeMapStates table.screen.rootWindow).Sound where
  tree := by
    obtain ⟨depth, remapped⟩ :=
      recomputeMapStates_remapped requested.tree table.screen.rootWindow
    exact remapped.tree requested.tree
  settled := recomputeMapStates_root requested.tree requested.settled
    fun _ found _ candidate => requested.tree.candidate_listed found candidate

end Requested

theorem appliedWindow_keeps (item : AppliedPolicyWindow)
    (window : WindowResource) :
    (appliedWindow item window).link = window.link ∧
      (appliedWindow item window).windowClass = window.windowClass ∧
      (appliedWindow item window).mapState = window.mapState := by
  unfold appliedWindow
  simp only
  split
  · exact ⟨rfl, rfl, rfl⟩
  · exact ⟨rfl, rfl, rfl⟩

theorem foldlM_scanPolicy {policy : List AppliedPolicyWindow}
    {scan last : PolicyScan}
    (scanned : policy.foldlM (scanPolicy table) scan = some last) :
    ∀ item ∈ policy, table.isPolicyCandidate item.xid = true := by
  induction policy generalizing scan with
  | nil => exact List.forall_mem_nil _
  | cons head tail ih =>
      rw [List.foldlM_cons] at scanned
      obtain ⟨next, passed, scanned⟩ := Option.bind_eq_some_iff.mp scanned
      intro item member
      rcases List.mem_cons.mp member with rfl | member
      · unfold scanPolicy at passed
        split at passed
        · cases passed
        · rename_i valid
          by_contra other
          rw [Bool.not_eq_true] at other
          exact valid (by simp [other])
      · exact ih scanned item member

/-- Every window of the policy placed. -/
theorem Requested.placed (requested : table.Requested)
    {policy : List AppliedPolicyWindow}
    (listed : ∀ item ∈ policy, table.isPolicyCandidate item.xid = true) :
    (policy.foldl (fun table item =>
      table.updateWindow item.xid (appliedWindow item)) table).Requested := by
  induction policy generalizing table with
  | nil => exact requested
  | cons item policy ih =>
      rw [List.foldl_cons]
      refine ih (requested.updateWindow (listed item List.mem_cons_self)
        fun window _ => appliedWindow_keeps item window) fun other member => ?_
      rw [@isPolicyCandidate_updateWindow table (appliedWindow item) item.xid]
      · exact listed other (List.mem_cons_of_mem _ member)
      · intro window _
        have keeps := appliedWindow_keeps item window
        exact ⟨congrArg Link.parent keeps.1, keeps.2.1⟩

theorem Requested.applyPolicyState (requested : table.Requested)
    {policy : List AppliedPolicyWindow} {focused focus : Nat}
    {next : ResourceTable}
    (applied : applyPolicyState table policy focused = some (next, focus)) :
    next.Sound := by
  unfold Server.applyPolicyState at applied
  obtain ⟨scan, scanned, applied⟩ := Option.bind_eq_some_iff.mp applied
  rw [ite_eq_iff] at applied
  obtain ⟨_, wrong⟩ | ⟨_, applied⟩ := applied
  · cases wrong
  simp only at applied
  rw [ite_eq_iff] at applied
  obtain ⟨_, wrong⟩ | ⟨_, applied⟩ := applied
  · cases wrong
  obtain ⟨ordered, reordered, applied⟩ := Option.bind_eq_some_iff.mp applied
  obtain ⟨rfl, _⟩ := Prod.mk.inj (Option.some.inj applied)
  refine ((requested.reorderRootChildren reordered).placed ?_).recompute
  obtain ⟨root, _, _, _, rfl⟩ := reorderRootChildren_some reordered
  intro item member
  rw [isPolicyCandidate_updateWindow]
  · exact foldlM_scanPolicy scanned item member
  · exact fun _ _ => ⟨rfl, rfl⟩

namespace Sound

theorem updateWindow (sound : table.Sound)
    {change : WindowResource → WindowResource}
    (link : ∀ window, (change window).link = window.link)
    (shape : ∀ window, (change window).shape = window.shape) (xid : Nat) :
    (table.updateWindow xid change).Sound where
  tree := sound.tree.updateWindow link xid
  settled := sound.settled.updateWindow shape xid

/-- Serials are no part of what map states follow from. -/
theorem numbered (sound : table.Sound) (placements : List (Nat × Nat)) :
    (placements.foldl (fun table placement =>
      table.updateWindow placement.1 fun window =>
        { window with geometrySerial := placement.2 }) table).Sound := by
  induction placements generalizing table with
  | nil => exact sound
  | cons placement placements ih =>
      rw [List.foldl_cons]
      apply ih
      apply sound.updateWindow
      · exact fun _ => rfl
      · exact fun _ => rfl

theorem updateScreenGeometry (sound : table.Sound) (screen : ScreenModel) :
    (table.updateScreenGeometry screen).2.Sound := by
  unfold ResourceTable.updateScreenGeometry
  split
  · exact sound
  · rename_i valid
    split
    · exact sound
    · have same : screen.rootWindow = table.screen.rootWindow := by
        by_contra other
        exact valid (by simp [other])
      have resized : ({ table with screen } : ResourceTable).Sound :=
        sound.of_windows same fun _ => rfl
      apply resized.updateWindow
      · exact fun _ => rfl
      · exact fun _ => rfl

/-- The window that goes takes no map state with it. -/
theorem settled_destroyLeaf (table : ResourceTable) (xid : Nat)
    (window : WindowResource) (tree : table.Tree)
    (settled : table.Settled fun _ => False)
    (found : table.findWindow xid = some window)
    (bare : window.children = []) (away : xid ≠ table.screen.rootWindow) :
    (table.destroyLeaf xid).Settled fun _ => False :=
  settled.destroyLeaf tree found bare away

variable (sound : table.Sound)

include sound

theorem commitDestroyPlan (plan : WindowDestroyPlan) :
    (table.commitDestroyPlan plan).2.Sound := by
  obtain ⟨tree, settled⟩ := commitDestroyPlan_keeps settled_destroyLeaf
    sound.tree sound.settled plan
  exact ⟨tree, settled⟩

theorem destroyWindow (xid : Nat) : (table.destroyWindow xid).2.Sound := by
  obtain ⟨tree, settled⟩ := destroyWindow_keeps settled_destroyLeaf
    sound.tree sound.settled xid
  exact ⟨tree, settled⟩

theorem commitClientCleanup (plan : ClientCleanupPlan) :
    (table.commitClientCleanup plan).Sound := by
  obtain ⟨tree, settled⟩ := commitClientCleanup_keeps settled_destroyLeaf
    (fun before after screen same so =>
      Settled.of_shapes (by rw [screen]) so fun id => by rw [same])
    sound.tree sound.settled plan
  exact ⟨tree, settled⟩

end Sound

theorem emplace_windows {record : ResourceRecord}
    (other : record.payload.window? = none) (resources : KeyMap ResourceRecord)
    (xid id : Nat) :
    (emplace resources xid record)[id]?.bind (fun r => r.payload.window?) =
      resources[id]?.bind (fun r => r.payload.window?) := by
  rw [emplace, Std.ExtTreeMap.getElem?_insertIfNew]
  split
  · rename_i new
    obtain ⟨same, absent⟩ := new
    obtain rfl := compare_eq_iff_eq.mp same
    rw [Std.ExtTreeMap.getElem?_eq_none absent]
    exact other
  · rfl

/-- At the start the root is the only window. -/
theorem initial_findWindow (screen : ScreenModel) (xid : Nat) :
    (initial screen).findWindow xid =
      if xid = screen.rootWindow then some {
        width := screen.widthPixels
        height := screen.heightPixels
        depth := screen.rootDepth
        windowClass := .inputOutput
        visual := screen.rootVisual
        mapState := .viewable }
      else none := by
  rw [findWindow, initial]
  simp only
  rw [emplace_windows rfl, emplace_windows rfl, emplace,
    Std.ExtTreeMap.getElem?_insertIfNew]
  by_cases same : xid = screen.rootWindow
  · rw [if_pos same, if_pos ⟨compare_eq_iff_eq.mpr same.symm,
      Std.ExtTreeMap.not_mem_empty⟩]
    rfl
  · rw [if_neg same, if_neg fun new =>
      same (compare_eq_iff_eq.mp new.1).symm, Std.ExtTreeMap.getElem?_empty]
    rfl

theorem initial_sound {screen : ScreenModel} (real : screen.rootWindow ≠ 0) :
    (initial screen).Sound := by
  have root := initial_findWindow screen screen.rootWindow
  rw [if_pos rfl] at root
  have top : (initial screen).screen.rootWindow = screen.rootWindow := rfl
  have only : ∀ node, (initial screen).links node =
      if node = screen.rootWindow then some ⟨0, []⟩ else none := by
    intro node
    rw [links, initial_findWindow]
    split
    · rfl
    · rfl
  refine ⟨⟨LinkedTree.single only, ?_, ?_⟩, ?_, ?_⟩
  · intro link told
    rw [top, links_of_found root] at told
    obtain rfl := Option.some.inj told
    rfl
  · rw [only, if_neg real.symm]
  · exact viewable_of_found root
  · intro xid window found away
    rw [top] at away
    rw [initial_findWindow, if_neg away] at found
    cases found

end ResourceTable

end Glasswyrm.Server
