import Glasswyrm.Server.CleanupExact

namespace Glasswyrm.Server

open Library
open X11 (ScreenModel)
open Lifecycle (LifecycleSnapshot)

/-! The check that the resource table makes of itself, and why it never
fails. -/

def kEwmhSupportingWindow : Nat := 4

namespace ResourceTable

/-! ## The check -/

def isDrawable (table : ResourceTable) (xid : Nat) : Bool :=
  match table.resources[xid]? with
  | some ⟨_, .window _⟩ => true
  | some ⟨_, .pixmap⟩ => true
  | _ => false

def ownedOnce (table : ResourceTable) (owner xid : Nat) : Bool :=
  match table.resourcesByOwner[owner]? with
  | none => false
  | some ids => ids.count xid = 1

/-- What must be there for what a resource refers to. -/
def anchored (table : ResourceTable) : ResourcePayload → Bool
  | .damage drawable => table.isDrawable drawable
  | .picture (.drawable drawable) => table.isDrawable drawable
  | _ => true

def childrenHold (table : ResourceTable) (xid : Nat)
    (window : WindowResource) : Bool :=
  window.children.all fun child =>
    (table.findWindow child).any (·.parent = xid)

def windowHolds (table : ResourceTable) (xid : Nat) (owner : Option Nat)
    (window : WindowResource) : Bool :=
  if xid = table.screen.rootWindow then table.childrenHold xid window
  else
    (table.findWindow window.parent).any (·.children.count xid = 1) &&
      match owner with
      -- nothing more is asked of the window that the server has made
      | none => xid = kEwmhSupportingWindow
      | some owner => table.ownedOnce owner xid && table.childrenHold xid window

def resourceHolds (table : ResourceTable) (xid : Nat)
    (record : ResourceRecord) : Bool :=
  match record.payload with
  | .window window => table.windowHolds xid record.owner window
  | payload =>
      match record.owner with
      | some owner => table.ownedOnce owner xid && table.anchored payload
      | none =>
          match payload with
          | .font => xid = kDefaultFontXid
          | .colormap => xid = table.screen.defaultColormap
          | _ => false

/-- What is checked about windows, owners and drawables; the byte counters, the
cursor images and the limits of single resources are left out. -/
def invariantsHold (table : ResourceTable) : Bool :=
  (match table.resources[table.screen.rootWindow]? with
    | some ⟨none, .window root⟩ => root.parent = 0
    | _ => false) &&
  (table.resources.toList.all fun entry =>
    table.resourceHolds entry.1 entry.2) &&
  table.resourcesByOwner.toList.all fun entry =>
    entry.2.all fun xid =>
      (table.resources[xid]?).any (·.owner = some entry.1) &&
        entry.2.count xid = 1

end ResourceTable

/-! ## What the server admits -/

/-- A resource is made on a drawable that is there, and one window only is
the server's own. -/
def ServerState.admits (state : ServerState) : WindowCall → Bool
  | .createServerProxyWindow xid => xid = kEwmhSupportingWindow
  | .createResource _ _ _ _ payload => state.resources.anchored payload
  | _ => true

def ServerState.serve (state : ServerState) (call : WindowCall) :
    ServerState :=
  if state.admits call then state.perform call else state

namespace ResourceTable

variable {table before after : ResourceTable} {gone : List Nat} {xid : Nat}

/-- What is left is on drawables that are left. -/
structure Anchored (table : ResourceTable) : Prop where
  proxies : ∀ (id : Nat) window, table.resources[id]? =
    some ⟨none, .window window⟩ →
      id = table.screen.rootWindow ∨ id = kEwmhSupportingWindow
  drawables : ∀ (id : Nat) record drawable, table.resources[id]? = some record →
    record.payload.dependsOn drawable = true →
      table.isDrawable drawable = true

theorem isDrawable_iff : table.isDrawable xid = true ↔
    (∃ window, table.findWindow xid = some window) ∨
      ∃ own, table.resources[xid]? = some ⟨own, .pixmap⟩ := by
  unfold isDrawable findWindow
  cases table.resources[xid]? with
  | none => simp
  | some record =>
      obtain ⟨owner, payload⟩ := record
      cases payload <;> simp [ResourcePayload.window?]

/-- What depends on a drawable is none itself. -/
theorem isDrawable_of_depends {drawable : Nat}
    (member : xid ∈ table.dependents drawable) :
    table.isDrawable xid = false := by
  obtain ⟨⟨owner, payload⟩, found, depends⟩ := mem_dependents.mp member
  unfold isDrawable
  rw [found]
  cases payload <;> first | rfl | cases depends

theorem SameOwners.isDrawable (same : SameOwners before after) :
    after.isDrawable xid = before.isDrawable xid := by
  have here := same.records xid
  unfold ResourceTable.isDrawable
  cases one : after.resources[xid]? with
  | none =>
      rw [one] at here
      rw [Option.map_eq_none_iff.mp here.symm]
  | some record =>
      rw [one] at here
      obtain ⟨former, isFormer, alike⟩ := Option.map_eq_some_iff.mp here.symm
      rw [isFormer]
      obtain ⟨owner, payload⟩ := record
      obtain ⟨first, earlier⟩ := former
      have kinds : kind earlier = kind payload := congrArg Prod.snd alike
      cases payload <;> cases earlier <;> first | rfl | cases kinds

namespace Anchored

theorem congr (anchored : before.Anchored) (same : SameOwners before after) :
    after.Anchored where
  proxies := by
    intro id window found
    obtain ⟨former, isFormer, alike⟩ := same.former found
    have owner := ownership_owner alike
    have shown := ownership_window alike
    obtain ⟨own, payload⟩ := former
    cases payload with
    | window other =>
        simp only at owner
        subst owner
        rw [same.root]
        exact anchored.proxies id other isFormer
    | _ => cases shown
  drawables := by
    intro id record drawable found depends
    obtain ⟨former, isFormer, alike⟩ := same.former found
    rw [same.isDrawable]
    apply anchored.drawables id former drawable isFormer
    rw [ownership_plain alike (window_of_dependsOn depends)]
    exact depends

/-- Only the resources and the root count. -/
theorem of_resources (anchored : before.Anchored)
    (root : after.screen.rootWindow = before.screen.rootWindow)
    (same : after.resources = before.resources) : after.Anchored where
  proxies := by
    rw [same, root]
    exact anchored.proxies
  drawables := by
    intro id record drawable found depends
    rw [isDrawable, same]
    rw [same] at found
    exact anchored.drawables id record drawable found depends

/-- With a drawable must go what depends on it. -/
theorem removes (anchored : before.Anchored)
    (removes : Removes gone before after)
    (closed : ∀ drawable ∈ gone, before.isDrawable drawable = true →
      ∀ id ∈ before.dependents drawable, id ∈ gone) : after.Anchored where
  proxies := by
    intro id window found
    rw [removes.records] at found
    split at found
    · cases found
    · obtain ⟨⟨owner, payload⟩, isFormer, same⟩ :=
        Option.map_eq_some_iff.mp found
      rw [removes.screen]
      cases payload with
      | window former =>
          obtain ⟨rfl, _⟩ := ResourceRecord.mk.inj same
          exact anchored.proxies id former isFormer
      | _ => cases same
  drawables := by
    intro id record drawable found depends
    rw [removes.records] at found
    split at found
    · cases found
    · rename_i stays
      obtain ⟨former, isFormer, rfl⟩ := Option.map_eq_some_iff.mp found
      rw [ResourceRecord.without_dependsOn] at depends
      have there := anchored.drawables id former drawable isFormer depends
      have kept : drawable ∉ gone := fun member =>
        stays (closed drawable member there id
          (mem_dependents.mpr ⟨former, isFormer, depends⟩))
      unfold isDrawable at there ⊢
      rw [removes.records, if_neg kept]
      cases drawn : before.resources[drawable]? with
      | none =>
          rw [drawn] at there
          cases there
      | some record =>
          rw [drawn] at there
          obtain ⟨owner, payload⟩ := record
          cases payload <;> first | rfl | cases there

theorem insert (anchored : table.Anchored)
    (fresh : table.resources[xid]? = none) {owner : Option Nat}
    {payload : ResourcePayload}
    (proxy : owner = none → xid = kEwmhSupportingWindow)
    (drawn : ∀ drawable, payload.dependsOn drawable = true →
      table.isDrawable drawable = true) :
    Anchored { table with
      resources := table.resources.insert xid ⟨owner, payload⟩ } where
  proxies := by
    intro id window found
    simp only [KeyMap.lookup_insert] at found
    split at found
    · rename_i same
      subst same
      obtain ⟨rfl, _⟩ := ResourceRecord.mk.inj (Option.some.inj found)
      exact Or.inr (proxy rfl)
    · exact anchored.proxies id window found
  drawables := by
    intro id record drawable found depends
    have there : table.isDrawable drawable = true := by
      simp only [KeyMap.lookup_insert] at found
      split at found
      · rw [← Option.some.inj found] at depends
        exact drawn drawable depends
      · exact anchored.drawables id record drawable found depends
    have other : xid ≠ drawable := by
      rintro rfl
      rw [isDrawable, fresh] at there
      cases there
    unfold isDrawable at there ⊢
    simp only [KeyMap.lookup_insert, if_neg other]
    exact there

theorem addWindow (anchored : table.Anchored)
    (fresh : table.resources[xid]? = none) {owner : Option Nat}
    {window : WindowResource}
    (proxy : owner = none → xid = kEwmhSupportingWindow) :
    (table.addWindow owner xid window).Anchored := by
  have added := @insert _ _ anchored fresh owner (.window window) proxy
    (fun drawable depends => by cases depends)
  unfold ResourceTable.addWindow
  refine congr ?_ (.updateWindow _ _ _)
  cases owner with
  | none => exact added
  | some owner => exact added.of_resources rfl rfl

theorem freeOwned (anchored : table.Anchored) (consistent : table.Consistent)
    (xid : Nat) : (table.freeOwned xid).Anchored := by
  cases found : table.resources[xid]? with
  | none =>
      have same : table.freeOwned xid = table := by
        simp only [ResourceTable.freeOwned, found, freeResource]
      rw [same]
      exact anchored
  | some record =>
      by_cases free : record.payload.window? = none ∧ record.owner ≠ none
      · obtain ⟨owner, owns⟩ := Option.ne_none_iff_exists'.mp free.2
        refine anchored.removes
          (freeOwned_removes consistent found free.1 owns) ?_
        intro drawable member drawn id depends
        apply List.mem_append_left
        rcases List.mem_append.mp member with member | member
        · rw [isDrawable_of_depends (mem_companions.mp member).2] at drawn
          cases drawn
        · obtain rfl := List.mem_singleton.mp member
          rcases isDrawable_iff.mp drawn with ⟨window, isWindow⟩ | isPixmap
          · rw [findWindow, found, Option.bind_some, free.1] at isWindow
            cases isWindow
          · exact mem_companions.mpr ⟨isPixmap, depends⟩
      · have same : table.freeOwned xid = table := by
          obtain ⟨owner, payload⟩ := record
          cases payload with
          | window window =>
              simp only [ResourceTable.freeOwned, found, freeResource,
                ResourcePayload.window?]
          | _ =>
              have served : owner = none := by
                by_contra owned
                exact free ⟨rfl, owned⟩
              subst served
              rcases consistent.indexed.served xid _ found rfl with
                shown | ⟨_, same⟩ | ⟨_, same⟩
              · cases shown
              · cases same <;> simp only [ResourceTable.freeOwned, found,
                  freeResource, ResourcePayload.window?]
              · cases same <;> simp only [ResourceTable.freeOwned, found,
                  freeResource, ResourcePayload.window?]
        rw [same]
        exact anchored

theorem destroyLeaf (anchored : table.Anchored)
    (consistent : table.Consistent) {window : WindowResource}
    (found : table.findWindow xid = some window)
    (away : xid ≠ table.screen.rootWindow) :
    (table.destroyLeaf xid).Anchored := by
  apply anchored.removes (destroyLeaf_removes consistent found away)
  intro drawable member drawn id depends
  apply List.mem_append_left
  rcases List.mem_append.mp member with member | member
  · rw [isDrawable_of_depends member] at drawn
    cases drawn
  · rw [List.mem_singleton.mp member] at depends
    exact depends

/-- Destruction goes leaf by leaf. -/
theorem leaves (table : ResourceTable) (xid : Nat) (window : WindowResource)
    (tree : table.Tree) (holds : table.Indexed ∧ table.Anchored)
    (found : table.findWindow xid = some window) (_ : window.children = [])
    (away : xid ≠ table.screen.rootWindow) :
    (table.destroyLeaf xid).Indexed ∧ (table.destroyLeaf xid).Anchored :=
  ⟨holds.1.destroyLeaf xid, holds.2.destroyLeaf ⟨tree, holds.1⟩ found away⟩

theorem commitDestroyPlan (anchored : table.Anchored)
    (consistent : table.Consistent) (plan : WindowDestroyPlan) :
    (table.commitDestroyPlan plan).2.Anchored :=
  (commitDestroyPlan_keeps leaves consistent.tree
    ⟨consistent.indexed, anchored⟩ plan).2.2

theorem destroyWindow (anchored : table.Anchored)
    (consistent : table.Consistent) (xid : Nat) :
    (table.destroyWindow xid).2.Anchored :=
  (destroyWindow_keeps leaves consistent.tree
    ⟨consistent.indexed, anchored⟩ xid).2.2

theorem commitClientCleanup (anchored : table.Anchored)
    (consistent : table.Consistent) (plan : ClientCleanupPlan) :
    (table.commitClientCleanup plan).Anchored := by
  have destroyed : (plan.roots.foldl ResourceTable.destroyRoot table
      ).Consistent ∧
      (plan.roots.foldl ResourceTable.destroyRoot table).Anchored := by
    refine @run_preserves _ _ ResourceTable.destroyRoot
      (fun table => table.Consistent ∧ table.Anchored) ?_ _
      ⟨consistent, anchored⟩ plan.roots
    intro table root holds
    refine ⟨holds.1.destroyRoot root, ?_⟩
    unfold ResourceTable.destroyRoot
    split
    · exact holds.2.commitDestroyPlan holds.1 _
    · exact holds.2
  exact (@run_preserves _ _ ResourceTable.freeOwned
    (fun table => table.Consistent ∧ table.Anchored)
    (fun _ xid holds => ⟨holds.1.freeOwned xid, holds.2.freeOwned holds.1 xid⟩)
    _ destroyed _).2

theorem createWindow (anchored : table.Anchored)
    (consistent : table.Consistent) (owner resourceBase resourceMask : Nat)
    (spec : WindowCreateSpec) :
    (table.createWindow owner resourceBase resourceMask spec).2.Anchored := by
  rcases createWindow_cases table owner resourceBase resourceMask spec with
    same | ⟨window, parent, _, absent, _, _, _, _, same⟩
  · rw [same]
    exact anchored
  · rw [same]
    refine anchored.addWindow (consistent.fresh absent).1 ?_
    intro wrong
    cases wrong

theorem createServerProxyWindow (anchored : table.Anchored)
    (consistent : table.Consistent) :
    (table.createServerProxyWindow kEwmhSupportingWindow).2.Anchored := by
  rcases createServerProxyWindow_cases table kEwmhSupportingWindow with
    same | ⟨window, _, absent, _, _, _, _, same⟩
  · rw [same]
    exact anchored
  · rw [same]
    exact anchored.addWindow (consistent.fresh absent).1 fun _ => rfl

theorem createResource (anchored : table.Anchored)
    (consistent : table.Consistent)
    (owner resourceBase resourceMask xid : Nat) {payload : ResourcePayload}
    (drawn : table.anchored payload = true) :
    (table.createResource owner resourceBase resourceMask xid payload
      ).2.Anchored := by
  unfold ResourceTable.createResource
  split
  · exact anchored
  · rename_i valid
    simp only [validNewResourceId, Bool.or_eq_true, Bool.not_eq_true',
      Bool.and_eq_true, Bool.not_eq_false, not_or, Bool.not_eq_true] at valid
    have fresh := consistent.fresh valid.1.2
    have added := @insert _ _ anchored fresh.1 (some owner) payload
      (fun wrong => by cases wrong) (by
        intro drawable depends
        cases payload with
        | damage other =>
            rw [← of_decide_eq_true depends]
            exact drawn
        | picture source =>
            cases source with
            | drawable other =>
                rw [← of_decide_eq_true depends]
                exact drawn
            | _ => cases depends
        | _ => cases depends)
    exact added.of_resources rfl rfl

end Anchored

end ResourceTable

namespace ServerState

open ResourceTable

theorem commitCreateLifecycle_anchored {state : ServerState}
    (anchored : state.resources.Anchored)
    (consistent : state.resources.Consistent)
    (owner resourceBase resourceMask : Nat) (spec : WindowCreateSpec)
    (creationSerial : Nat) (evaluated : LifecycleSnapshot) :
    (state.commitCreateLifecycle owner resourceBase resourceMask spec
      creationSerial evaluated).2.resources.Anchored := by
  have made := anchored.createWindow consistent owner resourceBase
    resourceMask spec
  unfold commitCreateLifecycle
  split
  · rename_i created isCreated
    rw [isCreated] at made
    have committed := (made.congr (.updateWindow created spec.xid _)).congr
      (.commitLifecycle { state with
        resources := created.updateWindow spec.xid fun window =>
          { window with creationSerial } } evaluated)
    simp only
    split
    · exact anchored
    · rename_i staged same
      rw [same] at committed
      exact committed
  · exact anchored

theorem commitDestroyLifecycle_anchored {state : ServerState}
    (anchored : state.resources.Anchored)
    (consistent : state.resources.Consistent) (xid : Nat)
    (evaluated : LifecycleSnapshot) :
    (state.commitDestroyLifecycle xid evaluated).2.resources.Anchored := by
  unfold commitDestroyLifecycle
  split
  · exact anchored
  · rename_i plan _
    have destroyed := anchored.commitDestroyPlan consistent plan
    split
    · rename_i resources gone
      rw [gone] at destroyed
      have committed := destroyed.congr
        (.commitLifecycle { state with resources } evaluated)
      split
      · exact anchored
      · rename_i staged same
        rw [same] at committed
        exact committed
    · exact anchored

theorem perform_anchored {state : ServerState}
    (anchored : state.resources.Anchored)
    (consistent : state.resources.Consistent) (call : WindowCall)
    (admitted : state.admits call = true) :
    (state.perform call).resources.Anchored := by
  cases call with
  | createWindow owner resourceBase resourceMask spec =>
      exact anchored.createWindow consistent owner resourceBase resourceMask
        spec
  | createServerProxyWindow xid =>
      obtain rfl := of_decide_eq_true admitted
      exact anchored.createServerProxyWindow consistent
  | createResource owner resourceBase resourceMask xid payload =>
      exact anchored.createResource consistent owner resourceBase resourceMask
        xid admitted
  | freeOwned xid => exact anchored.freeOwned consistent xid
  | configureLocal xid configure =>
      exact anchored.congr (.configureLocal _ xid configure)
  | setLocalMapIntent xid mapped =>
      exact anchored.congr (.setLocalMapIntent _ xid mapped)
  | updateScreenGeometry screen =>
      exact anchored.congr (.updateScreenGeometry _ screen)
  | installOutputs randr => exact anchored
  | applyPolicy policy => exact anchored.congr (.applyPolicy state policy)
  | commitLifecycle snapshot =>
      exact anchored.congr (.commitLifecycle state snapshot)
  | commitCreateLifecycle owner resourceBase resourceMask spec creationSerial
      evaluated =>
      exact commitCreateLifecycle_anchored anchored consistent owner
        resourceBase resourceMask spec creationSerial evaluated
  | commitDestroyLifecycle xid evaluated =>
      exact commitDestroyLifecycle_anchored anchored consistent xid evaluated
  | destroyWindow xid => exact anchored.destroyWindow consistent xid
  | commitClientCleanup plan =>
      exact anchored.commitClientCleanup consistent plan

theorem initial_anchored (screen : ScreenModel) :
    (initial screen).resources.Anchored where
  proxies := by
    intro id window found
    left
    rcases emplace_lookup _ _ _ found with ⟨_, wrong⟩ | found
    · cases wrong
    rcases emplace_lookup _ _ _ found with ⟨_, wrong⟩ | found
    · cases wrong
    rcases emplace_lookup _ _ _ found with ⟨same, _⟩ | found
    · exact same
    · rw [Std.ExtTreeMap.getElem?_empty] at found
      cases found
  drawables := by
    intro id record drawable found depends
    rcases (initial_lookup found).2 with shown | ⟨_, same⟩ | ⟨_, same⟩
    · rw [window_of_dependsOn depends] at shown
      cases shown
    · rw [same] at depends
      cases depends
    · rw [same] at depends
      cases depends

theorem run_serve {screen : ScreenModel} (real : screen.rootWindow ≠ 0)
    (calls : List WindowCall) :
    (run serve (initial screen) calls).resources.Consistent ∧
      (run serve (initial screen) calls).resources.Anchored := by
  have all := @run_preserves _ _ serve (fun state =>
    state.resources.Sound ∧ state.resources.Indexed ∧ state.resources.Anchored)
    (by
      intro state call holds
      have consistent : state.resources.Consistent :=
        ⟨holds.1.tree, holds.2.1⟩
      unfold serve
      split
      · rename_i admitted
        exact ⟨perform_sound holds.1 call, perform_indexed consistent call,
          perform_anchored holds.2.2 consistent call admitted⟩
      · exact holds) (initial screen)
    ⟨initial_sound real, initial_indexed screen, initial_anchored screen⟩ calls
  exact ⟨⟨all.1.tree, all.2.1⟩, all.2.2⟩

end ServerState

namespace ResourceTable

variable {table : ResourceTable} {xid : Nat}

/-! ## Why the check holds -/

theorem ownedOnce_of (consistent : table.Consistent) {record : ResourceRecord}
    {owner : Nat} (found : table.resources[xid]? = some record)
    (owns : record.owner = some owner) : table.ownedOnce owner xid = true := by
  have member := (mem_owned consistent).mpr ⟨record, found, owns⟩
  have once := consistent.indexed.once owner
  unfold owned at member once
  unfold ownedOnce
  cases listed : table.resourcesByOwner[owner]? with
  | none =>
      rw [listed] at member
      cases member
  | some ids =>
      rw [listed] at member once
      exact decide_eq_true (List.count_eq_one_of_mem once member)

theorem childrenHold_of (tree : table.Tree) {window : WindowResource}
    (found : table.findWindow xid = some window) :
    table.childrenHold xid window = true := by
  apply List.all_eq_true.mpr
  intro child member
  obtain ⟨_, below, isBelow, parent⟩ := tree.child found member
  rw [isBelow]
  exact decide_eq_true parent

theorem anchored_of (anchored : table.Anchored) {record : ResourceRecord}
    (found : table.resources[xid]? = some record) :
    table.anchored record.payload = true := by
  obtain ⟨owner, payload⟩ := record
  cases payload with
  | damage drawable =>
      exact anchored.drawables xid _ drawable found (decide_eq_true rfl)
  | picture source =>
      cases source with
      | drawable drawable =>
          exact anchored.drawables xid _ drawable found (decide_eq_true rfl)
      | _ => rfl
  | _ => rfl

theorem resourceHolds_of (consistent : table.Consistent)
    (anchored : table.Anchored) {record : ResourceRecord}
    (found : table.resources[xid]? = some record) :
    table.resourceHolds xid record = true := by
  obtain ⟨owner, payload⟩ := record
  cases payload with
  | window window =>
      have isWindow : table.findWindow xid = some window := by
        rw [findWindow, found]
        rfl
      have children := childrenHold_of consistent.tree isWindow
      unfold resourceHolds windowHolds
      simp only
      split
      · exact children
      · rename_i away
        obtain ⟨parent, isParent, listed⟩ := consistent.tree.listed isWindow away
        have once := List.count_eq_one_of_mem
          (consistent.tree.distinct isParent) listed
        rw [isParent, Option.any_some, decide_eq_true once, Bool.true_and]
        cases owner with
        | none =>
            rcases anchored.proxies xid window found with same | same
            · exact absurd same away
            · exact decide_eq_true same
        | some owner =>
            simp only [ownedOnce_of consistent found rfl, children,
              Bool.and_self]
  | _ =>
      cases owner with
      | some owner =>
          exact Bool.and_eq_true_iff.mpr
            ⟨ownedOnce_of consistent found rfl, anchored_of anchored found⟩
      | none =>
          rcases consistent.indexed.served xid _ found rfl with
            shown | ⟨here, same⟩ | ⟨here, same⟩
          · cases shown
          · cases same <;> exact decide_eq_true here
          · cases same <;> exact decide_eq_true here

theorem invariantsHold_of (consistent : table.Consistent)
    (anchored : table.Anchored) : table.invariantsHold = true := by
  obtain ⟨root, isRoot⟩ := consistent.tree.rooted
  obtain ⟨⟨owner, payload⟩, found, shown⟩ := Option.bind_eq_some_iff.mp isRoot
  have free : owner = none := consistent.indexed.rootFree _ found
  have top := consistent.tree.root_parent isRoot
  cases payload with
  | window window =>
      obtain rfl := Option.some.inj shown
      subst free
      unfold invariantsHold
      rw [found]
      simp only [top, decide_true, Bool.true_and, Bool.and_eq_true,
        List.all_eq_true]
      constructor
      · intro entry member
        exact resourceHolds_of consistent anchored (KeyMap.mem_toList.mp member)
      · intro entry member xid listed
        have isList := KeyMap.mem_toList.mp member
        have owns : xid ∈ table.owned entry.1 := by
          rw [owned, isList]
          exact listed
        obtain ⟨record, isRecord, own⟩ := (mem_owned consistent).mp owns
        have once := consistent.indexed.once entry.1
        rw [owned, isList] at once
        rw [isRecord]
        exact ⟨decide_eq_true own,
          decide_eq_true (List.count_eq_one_of_mem once listed)⟩
  | _ => cases shown

end ResourceTable

/-- Whatever the server does, its check of the resource table succeeds. -/
theorem invariants_hold (screen : ScreenModel)
    (real : screen.rootWindow ≠ 0) (calls : List WindowCall) :
    (run ServerState.serve (.initial screen) calls
      ).resources.invariantsHold = true :=
  ResourceTable.invariantsHold_of (ServerState.run_serve real calls).1
    (ServerState.run_serve real calls).2

theorem invariants_hold_watched :
    (run ServerState.serve (.initial {}) (nestedWindows ++ watchedPixmap)
      ).resources.invariantsHold = true :=
  invariants_hold {} (by decide) (nestedWindows ++ watchedPixmap)

end Glasswyrm.Server
