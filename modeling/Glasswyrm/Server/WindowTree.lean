import Glasswyrm.Server.LifecycleState

namespace Glasswyrm.Server

open Library
open X11 (ScreenModel)

/-! The windows of a table make a tree, whatever is done to them. -/

namespace ResourceTable

def links (table : ResourceTable) (xid : Nat) : Option (Link Nat) :=
  (table.findWindow xid).map (·.link)

/-- The windows hang together below the root, which hangs below nothing. -/
structure Tree (table : ResourceTable) : Prop where
  linked : LinkedTree table.screen.rootWindow table.links
  top : ∀ link, table.links table.screen.rootWindow = some link →
    link.parent = 0
  vacant : table.links 0 = none

/-! ## What the operations do to the windows -/

section

variable (table : ResourceTable) (xid id : Nat)

@[simp] theorem updateWindow_screen (change : WindowResource → WindowResource) :
    (table.updateWindow xid change).screen = table.screen := by
  unfold updateWindow
  split <;> rfl

theorem findWindow_updateWindow (change : WindowResource → WindowResource) :
    (table.updateWindow xid change).findWindow id =
      if id = xid then (table.findWindow id).map change
      else table.findWindow id := by
  unfold updateWindow
  split
  · rename_i owner window found
    simp only [findWindow, KeyMap.lookup_insert]
    by_cases same : xid = id
    · subst same
      simp [found, ResourcePayload.window?]
    · rw [if_neg same, if_neg (Ne.symm same)]
  · rename_i absent
    split
    · rename_i same
      subst same
      simp only [findWindow]
      cases found : table.resources[id]? with
      | none => rfl
      | some record =>
          obtain ⟨owner, payload⟩ := record
          cases payload with
          | window window => exact absurd found (absent owner window)
          | _ => rfl
    · rfl

@[simp] theorem pushOwned_screen (owner : Nat) :
    (table.pushOwned owner xid).screen = table.screen := rfl

@[simp] theorem findWindow_pushOwned (owner : Nat) :
    (table.pushOwned owner xid).findWindow id = table.findWindow id := rfl

@[simp] theorem eraseOwned_resources (owner : Nat) :
    (table.eraseOwned owner xid).resources = table.resources := by
  unfold eraseOwned
  split <;> rfl

@[simp] theorem eraseOwned_screen (owner : Nat) :
    (table.eraseOwned owner xid).screen = table.screen := by
  unfold eraseOwned
  split <;> rfl

@[simp] theorem findWindow_eraseOwned (owner : Nat) :
    (table.eraseOwned owner xid).findWindow id = table.findWindow id := by
  rw [findWindow, eraseOwned_resources]
  rfl

@[simp] theorem freeResource_screen :
    (table.freeResource xid).screen = table.screen := by
  unfold freeResource
  split
  · rfl
  · split
    · simp
    · rfl

@[simp] theorem findWindow_freeResource :
    (table.freeResource xid).findWindow id = table.findWindow id := by
  unfold freeResource
  split
  · rfl
  · rename_i record found
    split
    · rename_i owner noWindow _
      rw [findWindow_eraseOwned]
      simp only [findWindow, KeyMap.lookup_erase]
      split
      · rename_i same
        subst same
        rw [found]
        exact noWindow.symm
      · rfl
    · rfl

theorem foldl_freeResource (ids : List Nat) :
    (ids.foldl freeResource table).screen = table.screen ∧
      ∀ id, (ids.foldl freeResource table).findWindow id =
        table.findWindow id := by
  induction ids generalizing table with
  | nil => exact ⟨rfl, fun _ => rfl⟩
  | cons head rest ih =>
      obtain ⟨screen, windows⟩ := ih (table.freeResource head)
      rw [List.foldl_cons]
      refine ⟨screen.trans (freeResource_screen table head), fun id => ?_⟩
      rw [windows, findWindow_freeResource]

@[simp] theorem removeForDrawable_screen :
    (table.removeForDrawable xid).screen = table.screen :=
  (foldl_freeResource table _).1

@[simp] theorem findWindow_removeForDrawable :
    (table.removeForDrawable xid).findWindow id = table.findWindow id :=
  (foldl_freeResource table _).2 id

@[simp] theorem freeOwned_screen :
    (table.freeOwned xid).screen = table.screen := by
  unfold freeOwned
  split <;> simp

@[simp] theorem findWindow_freeOwned :
    (table.freeOwned xid).findWindow id = table.findWindow id := by
  unfold freeOwned
  split <;> simp

end

variable {table : ResourceTable}

theorem findWindow_absent {xid : Nat}
    (absent : table.resources.contains xid = false) :
    table.findWindow xid = none := by
  have missing : table.resources[xid]? = none :=
    Std.ExtTreeMap.getElem?_eq_none_of_contains_eq_false absent
  rw [findWindow, missing]
  rfl

theorem addWindow_screen (owner : Option Nat) (xid : Nat)
    (window : WindowResource) :
    (table.addWindow owner xid window).screen = table.screen := by
  unfold addWindow
  cases owner <;> simp

theorem findWindow_addWindow (owner : Option Nat) (xid : Nat)
    (window : WindowResource) (apart : window.parent ≠ xid) (id : Nat) :
    (table.addWindow owner xid window).findWindow id =
      if id = xid then some window
      else if id = window.parent then
        (table.findWindow id).map fun parent =>
          { parent with children := parent.children ++ [xid] }
      else table.findWindow id := by
  have added : ∀ id, findWindow { table with
      resources := table.resources.insert xid
        { owner, payload := .window window } } id =
        if id = xid then some window else table.findWindow id := by
    intro id
    simp only [findWindow, KeyMap.lookup_insert]
    by_cases same : xid = id
    · rw [if_pos same, if_pos same.symm]
      rfl
    · rw [if_neg same, if_neg (Ne.symm same)]
  unfold addWindow
  simp only [findWindow_updateWindow]
  by_cases same : id = xid
  · subst same
    rw [if_neg (Ne.symm apart), if_pos rfl]
    cases owner with
    | none => exact (added id).trans (if_pos rfl)
    | some owner => exact (added id).trans (if_pos rfl)
  · rw [if_neg same]
    cases owner with
    | none =>
        simp only [added, if_neg same]
    | some owner =>
        simp only [findWindow_pushOwned, added, if_neg same]

theorem destroyLeaf_screen (xid : Nat) :
    (table.destroyLeaf xid).screen = table.screen := by
  unfold destroyLeaf
  split
  · rfl
  · split
    · rfl
    · cases table.resources[xid]?.bind (·.owner) <;> simp

theorem findWindow_destroyLeaf {xid : Nat} {window : WindowResource}
    (found : table.findWindow xid = some window)
    (away : xid ≠ table.screen.rootWindow) (id : Nat) :
    (table.destroyLeaf xid).findWindow id =
      if id = xid then none
      else if id = window.parent then
        (table.findWindow id).map fun parent =>
          { parent with children := withoutChild parent.children xid }
      else table.findWindow id := by
  have erased : ∀ (rest : ResourceTable) (id : Nat),
      findWindow { rest with resources := rest.resources.erase xid } id =
        if id = xid then none else rest.findWindow id := by
    intro rest id
    simp only [findWindow, KeyMap.lookup_erase]
    by_cases same : xid = id
    · rw [if_pos same, if_pos same.symm]
      rfl
    · rw [if_neg same, if_neg (Ne.symm same)]
  unfold destroyLeaf
  rw [found]
  simp only [if_neg away]
  cases table.resources[xid]?.bind (·.owner) with
  | none =>
      simp only
      rw [erased, findWindow_updateWindow, findWindow_removeForDrawable]
  | some owner =>
      simp only
      rw [erased, findWindow_eraseOwned, findWindow_updateWindow,
        findWindow_removeForDrawable]

theorem links_some {xid : Nat} {link : Link Nat}
    (linked : table.links xid = some link) :
    ∃ window, table.findWindow xid = some window ∧
      link.parent = window.parent ∧ link.children = window.children := by
  obtain ⟨window, found, rfl⟩ := Option.map_eq_some_iff.mp linked
  exact ⟨window, found, rfl, rfl⟩

theorem links_of_found {xid : Nat} {window : WindowResource}
    (found : table.findWindow xid = some window) :
    table.links xid = some window.link := by
  rw [links, found]
  rfl

/-- A change of a window that leaves its place in the tree. -/
theorem links_updateWindow {change : WindowResource → WindowResource}
    (keeps : ∀ window, (change window).link = window.link) (xid id : Nat) :
    (table.updateWindow xid change).links id = table.links id := by
  unfold links
  rw [findWindow_updateWindow]
  split
  · rw [Option.map_map]
    congr 1
    exact funext keeps
  · rfl

/-! ## The tree under the operations -/

namespace Tree

theorem rooted (tree : table.Tree) :
    ∃ root, table.findWindow table.screen.rootWindow = some root := by
  obtain ⟨link, linked⟩ := tree.linked.rooted
  obtain ⟨root, found, _⟩ := links_some linked
  exact ⟨root, found⟩

theorem of_links {changed : ResourceTable} (tree : table.Tree)
    (screen : changed.screen.rootWindow = table.screen.rootWindow)
    (same : ∀ id, changed.links id = table.links id) : changed.Tree where
  linked := by
    rw [screen]
    exact tree.linked.congr same
  top := by
    rw [screen, same]
    exact tree.top
  vacant := by
    rw [same]
    exact tree.vacant

theorem of_windows {changed : ResourceTable} (tree : table.Tree)
    (screen : changed.screen.rootWindow = table.screen.rootWindow)
    (same : ∀ id, changed.findWindow id = table.findWindow id) :
    changed.Tree :=
  tree.of_links screen fun id => by rw [links, same, links]

theorem updateWindow {change : WindowResource → WindowResource}
    (tree : table.Tree) (keeps : ∀ window, (change window).link = window.link)
    (xid : Nat) : (table.updateWindow xid change).Tree :=
  tree.of_links (by rw [updateWindow_screen]) (links_updateWindow keeps xid)

theorem addWindow (tree : table.Tree) {owner : Option Nat} {xid : Nat}
    {window parent : WindowResource} (fresh : table.findWindow xid = none)
    (found : table.findWindow window.parent = some parent)
    (bare : window.children = []) (real : xid ≠ 0) :
    (table.addWindow owner xid window).Tree := by
  have apart : window.parent ≠ xid := by
    intro same
    rw [same, fresh] at found
    cases found
  have attached : ∀ node, (table.addWindow owner xid window).links node =
      if node = xid then some ⟨window.parent, []⟩
      else if node = window.parent then
        some { parent.link with children := parent.link.children ++ [xid] }
      else table.links node := by
    intro node
    rw [links, findWindow_addWindow owner xid window apart]
    split
    · simp [WindowResource.link, bare]
    · split
      · rename_i same
        subst same
        rw [found]
        rfl
      · rfl
  refine ⟨?_, ?_, ?_⟩
  · rw [addWindow_screen]
    exact tree.linked.attach (links_of_found found)
      (by rw [links, fresh]; rfl) attached
  · rw [addWindow_screen]
    intro link told
    obtain ⟨root, rooted⟩ := tree.rooted
    have old : table.screen.rootWindow ≠ xid := by
      intro same
      rw [same, fresh] at rooted
      cases rooted
    rw [attached, if_neg old] at told
    split at told
    · rename_i same
      rw [← same, rooted] at found
      obtain rfl := Option.some.inj found
      obtain rfl := Option.some.inj told
      exact tree.top root.link (links_of_found rooted)
    · exact tree.top _ told
  · rw [attached, if_neg real.symm, if_neg, tree.vacant]
    intro same
    rw [← same] at found
    have none := tree.vacant
    rw [links_of_found found] at none
    cases none

/-- The children of a window in another order. -/
theorem permuted (tree : table.Tree) {xid : Nat} {window : WindowResource}
    (found : table.findWindow xid = some window) {children : List Nat}
    (perm : children.Perm window.children)
    {change : WindowResource → WindowResource}
    (changes : (change window).link = { window.link with children }) :
    (table.updateWindow xid change).Tree := by
  have reordered : ∀ node, (table.updateWindow xid change).links node =
      if node = xid then some { window.link with children }
      else table.links node := by
    intro node
    rw [links, findWindow_updateWindow]
    split
    · rename_i same
      subst same
      rw [found]
      exact congrArg some changes
    · rfl
  refine ⟨?_, ?_, ?_⟩
  · rw [updateWindow_screen]
    exact tree.linked.reorder (links_of_found found) perm reordered
  · rw [updateWindow_screen]
    intro link told
    rw [reordered] at told
    split at told
    · rename_i same
      rw [← same] at found
      obtain rfl := Option.some.inj told
      exact tree.top window.link (links_of_found found)
    · exact tree.top _ told
  · rw [reordered, if_neg, tree.vacant]
    rintro rfl
    have none := tree.vacant
    rw [links_of_found found] at none
    cases none

end Tree

/-! ## Restacking -/

theorem restacked_perm {children : List Nat} {xid : Nat}
    {configure : LocalConfigure} (distinct : children.Nodup)
    (member : xid ∈ children)
    (beside : ∀ sibling, configure.sibling = some sibling →
      sibling ∈ children ∧ sibling ≠ xid) :
    (restacked children xid configure).Perm children := by
  have whole : (xid :: children.filter (· ≠ xid)).Perm children := by
    have erased : children.filter (· ≠ xid) = children.erase xid := by
      rw [distinct.erase_eq_filter]
      refine List.filter_congr fun other _ => ?_
      by_cases same : other = xid <;> simp [same]
    rw [erased]
    exact (List.perm_cons_erase member).symm
  unfold restacked
  split
  · split
    · exact (List.perm_append_singleton _ _).trans whole
    · exact whole
  · rename_i sibling placed
    obtain ⟨listed, apart⟩ := beside sibling placed
    have found : (children.filter (· ≠ xid)).idxOf sibling <
        (children.filter (· ≠ xid)).length := by
      rw [List.idxOf_lt_length_iff, List.mem_filter]
      exact ⟨listed, decide_eq_true apart⟩
    refine (List.perm_insertIdx xid _ ?_).trans whole
    split <;> omega

theorem withoutChild_eq {children : List Nat} (distinct : children.Nodup)
    (xid : Nat) :
    withoutChild children xid = children.filter (· ≠ xid) := by
  have erased : children.erase xid = children.filter (· ≠ xid) := by
    rw [distinct.erase_eq_filter]
    refine List.filter_congr fun other _ => ?_
    by_cases same : other = xid <;> simp [same]
  unfold withoutChild
  split
  · rename_i last
    obtain ⟨front, rfl⟩ := List.getLast?_eq_some_iff.mp last
    have before : xid ∉ front := by
      intro member
      exact (List.nodup_append.mp distinct).2.2 xid member xid
        List.mem_cons_self rfl
    rw [List.dropLast_concat, List.filter_append, List.filter_eq_self.mpr]
    · simp
    · intro other member
      exact decide_eq_true fun same => before (same ▸ member)
  · exact erased

namespace Tree

/-- A window that its parent lists. -/
theorem listed (tree : table.Tree) {xid : Nat} {window : WindowResource}
    (found : table.findWindow xid = some window)
    (away : xid ≠ table.screen.rootWindow) :
    ∃ parent, table.findWindow window.parent = some parent ∧
      xid ∈ parent.children := by
  obtain ⟨link, linked, member⟩ :=
    tree.linked.listed (links_of_found found) away
  obtain ⟨parent, there, _, children⟩ := links_some linked
  exact ⟨parent, there, children ▸ member⟩

theorem child (tree : table.Tree) {xid child : Nat} {window : WindowResource}
    (found : table.findWindow xid = some window)
    (member : child ∈ window.children) :
    child ≠ table.screen.rootWindow ∧
      ∃ below, table.findWindow child = some below ∧ below.parent = xid := by
  obtain ⟨away, link, linked, back⟩ :=
    tree.linked.child (links_of_found found) member
  obtain ⟨below, there, parent, _⟩ := links_some linked
  exact ⟨away, below, there, parent.symm.trans back⟩

theorem distinct (tree : table.Tree) {xid : Nat} {window : WindowResource}
    (found : table.findWindow xid = some window) : window.children.Nodup :=
  tree.linked.distinct (links_of_found found)

end Tree

/-- A window configured, and its place among its siblings. -/
def moved (table : ResourceTable) (xid : Nat) (window : WindowResource)
    (configure : LocalConfigure) (storage : Option PixelStorage) :
    ResourceTable :=
  let moved := table.updateWindow xid fun window =>
    configured window configure storage
  if configure.stackMode = .none then moved
  else
    moved.updateWindow window.parent fun parent =>
      { parent with children := restacked parent.children xid configure }

/-- What the configuration of a window does. -/
theorem configureLocal_cases (table : ResourceTable) (xid : Nat)
    (configure : LocalConfigure) :
    (table.configureLocal xid configure).2 = table ∨
      ∃ window storage, table.findWindow xid = some window ∧
        xid ≠ table.screen.rootWindow ∧
        table.isPolicyCandidate xid = false ∧
        table.siblingValid xid window configure = true ∧
        (table.configureLocal xid configure).2 =
          table.moved xid window configure storage := by
  unfold configureLocal
  cases found : table.findWindow xid with
  | none => exact Or.inl rfl
  | some window =>
      by_cases refused : (decide (xid = table.screen.rootWindow) ||
          table.isPolicyCandidate xid) = true
      · simp only [refused, if_true, true_or]
      · simp only [refused, Bool.false_eq_true, if_false]
        simp only [Bool.or_eq_true, decide_eq_true_eq, not_or,
          Bool.not_eq_true] at refused
        obtain ⟨away, unmanaged⟩ := refused
        split
        · exact Or.inl rfl
        · split
          · exact Or.inl rfl
          · split
            · exact Or.inl rfl
            · rename_i valid
              split
              · exact Or.inl rfl
              · rename_i storage _
                refine Or.inr ⟨window, storage, rfl, away, unmanaged, ?_, rfl⟩
                simpa using valid

namespace Tree

theorem moved (tree : table.Tree) {xid : Nat} {window : WindowResource}
    {configure : LocalConfigure} {storage : Option PixelStorage}
    (found : table.findWindow xid = some window)
    (away : xid ≠ table.screen.rootWindow)
    (valid : table.siblingValid xid window configure = true) :
    (table.moved xid window configure storage).Tree := by
  have placed := @Tree.updateWindow table
    (fun window => configured window configure storage) tree
    (fun _ => rfl) xid
  unfold ResourceTable.moved
  simp only
  split
  · exact placed
  · obtain ⟨parent, there, member⟩ := tree.listed found away
    obtain ⟨parent', there', children⟩ : ∃ parent',
        (table.updateWindow xid fun window =>
          configured window configure storage).findWindow window.parent =
            some parent' ∧ parent'.children = parent.children := by
      rw [findWindow_updateWindow, there]
      split
      · exact ⟨_, rfl, rfl⟩
      · exact ⟨_, rfl, rfl⟩
    refine placed.permuted there' ?_ rfl
    refine restacked_perm (placed.distinct there') (children ▸ member)
      (fun sibling beside => ?_)
    rw [siblingValid, beside] at valid
    simp only [Option.all_some, Bool.and_eq_true, decide_eq_true_eq] at valid
    obtain ⟨⟨apart, related⟩, _⟩ := valid
    obtain ⟨other, isOther, same⟩ := (Option.any_eq_true _ _).mp related
    have same := of_decide_eq_true same
    have below : sibling ≠ table.screen.rootWindow := by
      rintro rfl
      have zero : window.parent = 0 :=
        same.symm.trans (tree.top _ (links_of_found isOther))
      have none := tree.vacant
      rw [← zero, links_of_found there] at none
      cases none
    obtain ⟨above, isAbove, listed⟩ := tree.listed isOther below
    rw [same, there] at isAbove
    obtain rfl := Option.some.inj isAbove
    exact ⟨children ▸ listed, apart⟩

end Tree

/-- What the creation of a window does. -/
theorem createWindow_cases (table : ResourceTable)
    (owner resourceBase resourceMask : Nat) (spec : WindowCreateSpec) :
    (table.createWindow owner resourceBase resourceMask spec).2 = table ∨
      ∃ window parent, table.findWindow window.parent = some parent ∧
        table.resources.contains spec.xid = false ∧ spec.xid ≠ 0 ∧
        window.children = [] ∧ window.mapState = .unmapped ∧
        window.mapRequested = false ∧
        (table.createWindow owner resourceBase resourceMask spec).2 =
          table.addWindow (some owner) spec.xid window := by
  unfold createWindow
  split
  · exact Or.inl rfl
  · rename_i valid
    simp only [validNewResourceId, resourceIdMatchesClient, Bool.not_eq_true',
      Bool.not_eq_false, Bool.and_eq_true, decide_eq_true_eq,
      Bool.not_eq_true'] at valid
    obtain ⟨⟨⟨⟨real, _⟩, _⟩, _⟩, fresh⟩ := valid
    split
    · exact Or.inl rfl
    · rename_i parent found
      split
      · exact Or.inl rfl
      · simp only
        generalize (if spec.windowClass = .copyFromParent then
          parent.windowClass else spec.windowClass) = windowClass
        split
        · split
          · exact Or.inl rfl
          · exact Or.inr ⟨_, parent, found, fresh, real, rfl, rfl, rfl, rfl⟩
        · split
          · exact Or.inl rfl
          · generalize (if spec.depth = 0 then parent.depth
              else spec.depth) = depth
            generalize (if spec.visual = 0 then parent.visual
              else spec.visual) = visual
            split
            · exact Or.inl rfl
            · exact Or.inr ⟨_, parent, found, fresh, real, rfl, rfl, rfl, rfl⟩

theorem createServerProxyWindow_cases (table : ResourceTable) (xid : Nat) :
    (table.createServerProxyWindow xid).2 = table ∨
      ∃ window : WindowResource, window.parent = table.screen.rootWindow ∧
        table.resources.contains xid = false ∧ xid ≠ 0 ∧
        window.children = [] ∧ window.mapState = .unmapped ∧
        window.mapRequested = false ∧
        (table.createServerProxyWindow xid).2 =
          table.addWindow none xid window := by
  unfold createServerProxyWindow
  split
  · exact Or.inl rfl
  · rename_i valid
    simp only [Bool.or_eq_true, decide_eq_true_eq, not_or,
      Bool.not_eq_true] at valid
    exact Or.inr ⟨_, rfl, valid.2, valid.1, rfl, rfl, rfl, rfl⟩

theorem createResource_windows (table : ResourceTable)
    (owner resourceBase resourceMask xid : Nat) (payload : ResourcePayload) :
    (table.createResource owner resourceBase resourceMask xid payload
      ).2.screen = table.screen ∧
      ∀ id, (table.createResource owner resourceBase resourceMask xid payload
        ).2.findWindow id = table.findWindow id := by
  unfold createResource
  split
  · exact ⟨rfl, fun _ => rfl⟩
  · rename_i valid
    simp only [validNewResourceId, Bool.or_eq_true, Bool.not_eq_true',
      Bool.and_eq_true, Bool.not_eq_false, not_or, Bool.not_eq_true] at valid
    obtain ⟨⟨_, fresh⟩, noWindow⟩ := valid
    refine ⟨rfl, fun id => ?_⟩
    simp only [findWindow_pushOwned]
    by_cases same : xid = id
    · subst same
      rw [findWindow_absent fresh]
      simp only [findWindow, KeyMap.lookup_insert, if_true, Option.bind_some]
      exact Option.isNone_iff_eq_none.mp
        (Option.isSome_eq_false_iff.mp noWindow)
    · simp only [findWindow, KeyMap.lookup_insert, if_neg same]

theorem foldlM_visible {visible rest children : List Nat}
    (collected : visible.foldlM (fun result child =>
      if !table.isPolicyCandidate child || result.contains child then none
      else some (result ++ [child])) rest = some children) :
    children = rest ++ visible ∧ visible.Nodup ∧
      ∀ child ∈ visible, table.isPolicyCandidate child = true ∧
        child ∉ rest := by
  induction visible generalizing rest with
  | nil =>
      rw [List.foldlM_nil] at collected
      obtain rfl := Option.some.inj collected
      exact ⟨(List.append_nil rest).symm, List.nodup_nil,
        List.forall_mem_nil _⟩
  | cons head tail ih =>
      rw [List.foldlM_cons] at collected
      obtain ⟨next, pushed, collected⟩ := Option.bind_eq_some_iff.mp collected
      split at pushed
      · cases pushed
      · rename_i free
        obtain rfl := Option.some.inj pushed
        simp only [Bool.or_eq_true, Bool.not_eq_true', not_or,
          Bool.not_eq_false, List.contains_iff_mem] at free
        obtain ⟨same, distinct, later⟩ := ih collected
        refine ⟨?_, List.nodup_cons.mpr ⟨fun again => ?_, distinct⟩, ?_⟩
        · rw [same, List.append_assoc, List.singleton_append]
        · exact (later head again).2
            (List.mem_append_right _ List.mem_cons_self)
        · intro child member
          rcases List.mem_cons.mp member with rfl | member
          · exact free
          · exact ⟨(later child member).1, fun before =>
              (later child member).2 (List.mem_append_left _ before)⟩

/-- The order of the root's children after the policy. -/
theorem reorderRootChildren_some {visible : List Nat} {next : ResourceTable}
    (reordered : table.reorderRootChildren visible = some next) :
    ∃ root, table.findWindow table.screen.rootWindow = some root ∧
      visible.Nodup ∧
      (∀ child ∈ visible, table.isPolicyCandidate child = true) ∧
      next = table.updateWindow table.screen.rootWindow fun window =>
        { window with children := (root.children.filter fun child =>
            !visible.contains child) ++ visible } := by
  unfold reorderRootChildren at reordered
  obtain ⟨root, found, reordered⟩ := Option.bind_eq_some_iff.mp reordered
  obtain ⟨children, collected, reordered⟩ :=
    Option.bind_eq_some_iff.mp reordered
  obtain rfl := Option.some.inj reordered
  obtain ⟨rfl, distinct, listed⟩ := foldlM_visible collected
  exact ⟨root, found, distinct, fun child member => (listed child member).1,
    rfl⟩

namespace Tree

theorem candidate_listed (tree : table.Tree) {root : WindowResource}
    (found : table.findWindow table.screen.rootWindow = some root) {xid : Nat}
    (candidate : table.isPolicyCandidate xid = true) :
    xid ∈ root.children := by
  obtain ⟨window, isWindow, top⟩ := (Option.any_eq_true _ _).mp
    ((Bool.and_eq_true _ _).mp candidate).2
  rw [Bool.and_eq_true] at top
  have parent : window.parent = table.screen.rootWindow :=
    of_decide_eq_true top.1
  have away : xid ≠ table.screen.rootWindow := by
    rintro rfl
    rw [found] at isWindow
    obtain rfl := Option.some.inj isWindow
    have zero := tree.top root.link (links_of_found found)
    have none := tree.vacant
    rw [← zero, show root.link.parent = root.parent from rfl, parent,
      links_of_found found] at none
    cases none
  obtain ⟨above, isAbove, listed⟩ := tree.listed isWindow away
  rw [parent, found] at isAbove
  obtain rfl := Option.some.inj isAbove
  exact listed

theorem reorderRootChildren (tree : table.Tree) {visible : List Nat}
    {next : ResourceTable}
    (reordered : table.reorderRootChildren visible = some next) :
    next.Tree := by
  obtain ⟨root, found, distinct, candidates, rfl⟩ :=
    reorderRootChildren_some reordered
  refine tree.permuted found ?_ rfl
  have taken : (root.children.filter fun child =>
      visible.contains child).Perm visible := by
    refine (List.perm_ext_iff_of_nodup
      ((tree.distinct found).filter _) distinct).mpr (fun child => ?_)
    rw [List.mem_filter, List.contains_iff_mem]
    exact ⟨And.right, fun member =>
      ⟨tree.candidate_listed found (candidates child member), member⟩⟩
  refine (List.Perm.append_left _ taken.symm).trans ?_
  exact List.perm_append_comm.trans (List.filter_append_perm _ _)

end Tree

end ResourceTable

end Glasswyrm.Server
