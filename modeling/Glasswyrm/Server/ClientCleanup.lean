import Glasswyrm.Server.SubtreeDestruction

namespace Glasswyrm.Server

open Library
open X11 (ScreenModel)

/-! The end of a client in two steps: what it takes part in is marked, and then
its windows, with all that is below them, and the rest of its resources are
destroyed. -/

/-! ## The preparation -/

def ResourceRecord.withoutEvents (client : Nat) (record : ResourceRecord) :
    ResourceRecord :=
  match record.payload with
  | .window window =>
      { record with
        payload := .window { window with
          eventSelections := window.eventSelections.erase client } }
  | _ => record

def ResourceRecord.withoutScaleEvents (client : Nat)
    (record : ResourceRecord) : ResourceRecord :=
  match record.payload with
  | .window window =>
      { record with
        payload := .window { window with scale := { window.scale with
          eventSelections := window.scale.eventSelections.erase client } } }
  | _ => record

/-- A window on which the client has selected nothing. -/
def ResourceRecord.deselected (client : Nat) (record : ResourceRecord) :
    ResourceRecord :=
  (record.withoutEvents client).withoutScaleEvents client

/-- A window that waits for its end. -/
def ResourceRecord.pending (record : ResourceRecord) : ResourceRecord :=
  match record.payload with
  | .window window =>
      { record with payload := .window { window with cleanupPending := true } }
  | _ => record

structure CleanupPreparation where
  plan : ClientCleanupPlan
  affectsPolicy : Bool := false
  postorder : List ClientCleanupWindow := []

namespace ResourceTable

def removeEventSelections (table : ResourceTable) (client : Nat) :
    ResourceTable :=
  { table with
    resources := table.resources.map fun _ record =>
      record.withoutEvents client }

def removeGwScaleSelections (table : ResourceTable) (client : Nat) :
    ResourceTable :=
  { table with
    resources := table.resources.map fun _ record =>
      record.withoutScaleEvents client }

/-- Both kinds of selections, one after the other. -/
def removeSelections (table : ResourceTable) (client : Nat) : ResourceTable :=
  (table.removeEventSelections client).removeGwScaleSelections client

/-- Whether a window, or one above it below the root, is the client's. -/
def coveredFrom (table : ResourceTable) (owner : Nat) : Nat → Nat → Bool
  | 0, _ => false
  | rounds + 1, parent =>
      if parent = 0 || parent = table.screen.rootWindow then false
      else
        match table.resources[parent]? with
        | none => false
        | some record =>
            if record.owner = some owner then true
            else
              match record.payload.window? with
              | none => false
              | some parentWindow =>
                  coveredFrom table owner rounds parentWindow.parent

/-- The windows of the client that are below no other of its windows, the
latest first. -/
def cleanupRoots (table : ResourceTable) (owner : Nat) : List Nat :=
  (table.owned owner).reverse.filter fun xid =>
    (table.findWindow xid).any fun window =>
      !table.coveredFrom owner table.resourceCount window.parent

/-- The windows below a root are marked, each once; the set of the captured
windows is the list of their entries. -/
def markLoop : Nat → List (Nat × Bool) → CleanupPreparation × ResourceTable →
    CleanupPreparation × ResourceTable
  | 0, _, state => state
  | _ + 1, [], state => state
  | rounds + 1, (xid, expanded) :: stack, (plan, table) =>
      match table.findWindow xid with
      | none => markLoop rounds stack (plan, table)
      | some window =>
          if expanded then
            if plan.postorder.any (·.xid = xid) then
              markLoop rounds stack (plan, table)
            else
              let table := table.updateWindow xid fun window =>
                { window with cleanupPending := true }
              markLoop rounds stack
                ({ plan with
                    affectsPolicy :=
                      plan.affectsPolicy || table.isPolicyCandidate xid
                    postorder :=
                      plan.postorder ++ [table.cleanupEntry xid window] },
                  table)
          else
            markLoop rounds
              ((window.children.map fun child => (child, false)).reverse ++
                (xid, true) :: stack) (plan, table)

def prepareClientCleanup (table : ResourceTable) (owner : Nat) :
    CleanupPreparation × ResourceTable :=
  let table := table.removeSelections owner
  let roots := table.cleanupRoots owner
  roots.foldl (fun state root =>
      markLoop (2 * table.resources.size) [(root, false)] state)
    ({ plan := { owner, roots } }, table)

/-! ## The destruction, counted -/

def destroyRootCounted (result : Nat × ResourceTable) (root : Nat) :
    Nat × ResourceTable :=
  match result.2.captureDestroyPlan root with
  | none => result
  | some destroy => commitDestroyPlanCounted result destroy

/-- Every resource that the client owns at this point counts once, whatever
goes with it. -/
def freeOwnedCounted (result : Nat × ResourceTable) (xid : Nat) :
    Nat × ResourceTable :=
  (result.1 + 1, result.2.freeOwned xid)

def commitClientCleanupCounted (table : ResourceTable)
    (plan : ClientCleanupPlan) : Nat × ResourceTable :=
  let destroyed := plan.roots.foldl destroyRootCounted (0, table)
  (destroyed.2.owned plan.owner).foldl freeOwnedCounted destroyed

def cleanupClient (table : ResourceTable) (owner : Nat) :
    Nat × ResourceTable :=
  let (prepared, table) := table.prepareClientCleanup owner
  table.commitClientCleanupCounted prepared.plan

variable {table before after : ResourceTable} {xid owner : Nat}

/-! ## What leaves the tree and the owners -/

/-- Windows stay where they are, and resources stay whose they are. -/
structure SameShape (before after : ResourceTable) : Prop
    extends SameOwners before after where
  links : ∀ id, after.links id = before.links id

namespace SameShape

theorem symm (same : SameShape before after) : SameShape after before where
  toSameOwners := same.toSameOwners.symm
  links := fun id => (same.links id).symm

theorem trans {middle : ResourceTable} (early : SameShape before middle)
    (late : SameShape middle after) : SameShape before after where
  toSameOwners := early.toSameOwners.trans late.toSameOwners
  links := fun id => (late.links id).trans (early.links id)

theorem consistent (same : SameShape before after)
    (consistent : before.Consistent) : after.Consistent where
  tree := consistent.tree.of_links same.root same.links
  indexed := consistent.indexed.congr same.toSameOwners

theorem owned (same : SameShape before after) (owner : Nat) :
    after.owned owner = before.owned owner := by
  rw [ResourceTable.owned, same.lists, ResourceTable.owned]

theorem found (same : SameShape before after) {window : WindowResource}
    (found : before.findWindow xid = some window) :
    ∃ other, after.findWindow xid = some other ∧
      other.parent = window.parent := by
  have linked := same.links xid
  rw [links_of_found found] at linked
  obtain ⟨other, isOther, parent, _⟩ := links_some linked
  exact ⟨other, isOther, parent.symm⟩

theorem passes (same : SameShape before after) {upper : Nat}
    (passes : before.OnPath xid upper) : after.OnPath xid upper := by
  induction passes with
  | self xid => exact .self xid
  | above found inner later ih =>
      obtain ⟨other, isOther, parent⟩ := same.found found
      apply OnPath.above isOther
      · rw [same.root]
        exact inner
      · rw [parent]
        exact ih

theorem onPath (same : SameShape before after) {upper : Nat} :
    after.OnPath xid upper ↔ before.OnPath xid upper :=
  ⟨same.symm.passes, same.passes⟩

theorem depends (same : SameShape before after) {drawable : Nat}
    (depends : xid ∈ before.dependents drawable) :
    xid ∈ after.dependents drawable := by
  obtain ⟨record, isRecord, depends⟩ := mem_dependents.mp depends
  obtain ⟨other, isOther, alike⟩ := same.symm.former isRecord
  refine mem_dependents.mpr ⟨other, isOther, ?_⟩
  rw [ownership_plain alike (window_of_dependsOn depends)]
  exact depends

theorem mem_dependents_iff (same : SameShape before after) {drawable : Nat} :
    xid ∈ after.dependents drawable ↔ xid ∈ before.dependents drawable :=
  ⟨same.symm.depends, same.depends⟩

theorem goesWith (same : SameShape before after) {upper : Nat} :
    after.GoesWith upper xid ↔ before.GoesWith upper xid := by
  unfold GoesWith
  simp only [same.onPath, same.mem_dependents_iff]

end SameShape

/-! ## The marks -/

/-- The windows of a list wait for their end; nothing else is changed. -/
structure Marks (marked : List Nat) (before after : ResourceTable) :
    Prop where
  screen : after.screen = before.screen
  lists : after.resourcesByOwner = before.resourcesByOwner
  records : ∀ id : Nat, after.resources[id]? =
    (before.resources[id]?).map fun record =>
      if id ∈ marked then record.pending else record

namespace Marks

variable {marked : List Nat}

theorem refl (table : ResourceTable) : Marks [] table table where
  screen := rfl
  lists := rfl
  records := by
    intro id
    simp only [List.not_mem_nil, if_false, Option.map_id']

theorem findWindow (marks : Marks marked before after) (id : Nat) :
    after.findWindow id = (before.findWindow id).map fun window =>
      if id ∈ marked then { window with cleanupPending := true }
      else window := by
  rw [ResourceTable.findWindow, ResourceTable.findWindow, marks.records]
  cases before.resources[id]? with
  | none => rfl
  | some record =>
      obtain ⟨owner, payload⟩ := record
      split <;> cases payload <;> rfl

theorem sameShape (marks : Marks marked before after) :
    SameShape before after where
  root := by rw [marks.screen]
  colormap := by rw [marks.screen]
  lists := marks.lists
  records := by
    intro id
    rw [marks.records, Option.map_map]
    congr 1
    funext record
    obtain ⟨owner, payload⟩ := record
    simp only [Function.comp_apply]
    split <;> cases payload <;> rfl
  links := by
    intro id
    rw [ResourceTable.links, ResourceTable.links, marks.findWindow,
      Option.map_map]
    congr 1
    funext window
    simp only [Function.comp_apply]
    split <;> rfl

theorem mark (marks : Marks marked before after) (xid : Nat) :
    Marks (marked ++ [xid]) before (after.updateWindow xid fun window =>
      { window with cleanupPending := true }) where
  screen := by rw [updateWindow_screen, marks.screen]
  lists := by
    rw [(SameOwners.updateWindow after xid _).lists, marks.lists]
  records := by
    intro id
    rw [updateWindow_lookup, marks.records]
    by_cases same : id = xid
    · subst same
      rw [if_pos rfl, Option.map_map]
      congr 1
      funext record
      obtain ⟨owner, payload⟩ := record
      simp only [Function.comp_apply, List.mem_append, List.mem_singleton,
        or_true, if_true]
      by_cases already : id ∈ marked
      · simp only [already, if_true]
        cases payload <;> rfl
      · simp only [already, if_false]
        cases payload <;> rfl
    · rw [if_neg same]
      simp only [List.mem_append, List.mem_singleton, same, or_false]

theorem recipients_marked (window : WindowResource) (mask : Nat) (pending : Prop)
    [Decidable pending] :
    recipients (if pending then { window with cleanupPending := true }
      else window) mask = recipients window mask := by
  split <;> rfl

theorem cleanupEntry (marks : Marks marked before after)
    (window : WindowResource) (id : Nat) :
    after.cleanupEntry id window = before.cleanupEntry id window := by
  have owner : (after.resources[id]?).bind (·.owner) =
      (before.resources[id]?).bind (·.owner) := by
    rw [marks.records]
    cases before.resources[id]? with
    | none => rfl
    | some record =>
        obtain ⟨owner, payload⟩ := record
        simp only [Option.map_some, Option.bind_some]
        split <;> cases payload <;> rfl
  simp only [ResourceTable.cleanupEntry, owner, marks.findWindow]
  cases before.findWindow window.parent with
  | none => rfl
  | some above => simp only [Option.map_some, recipients_marked]

theorem isPolicyCandidate (marks : Marks marked before after) (id : Nat) :
    after.isPolicyCandidate id = before.isPolicyCandidate id := by
  unfold ResourceTable.isPolicyCandidate
  rw [marks.findWindow, marks.screen]
  cases before.findWindow id with
  | none => rfl
  | some window =>
      simp only [Option.map_some, Option.any_some]
      split <;> rfl

end Marks

/-! ## The selections of the client -/

theorem removeSelections_lookup (id : Nat) :
    (table.removeSelections owner).resources[id]? =
      (table.resources[id]?).map (·.deselected owner) := by
  rw [removeSelections, removeGwScaleSelections, removeEventSelections,
    Std.ExtTreeMap.getElem?_map, Std.ExtTreeMap.getElem?_map, Option.map_map]
  rfl

theorem removeSelections_sameShape :
    SameShape table (table.removeSelections owner) where
  root := rfl
  colormap := rfl
  lists := rfl
  records := by
    intro id
    rw [removeSelections_lookup, Option.map_map]
    congr 1
    funext record
    obtain ⟨other, payload⟩ := record
    cases payload <;> rfl
  links := by
    intro id
    rw [links, links, findWindow, findWindow, removeSelections_lookup]
    cases table.resources[id]? with
    | none => rfl
    | some record =>
        obtain ⟨other, payload⟩ := record
        cases payload <;> rfl

theorem removeSelections_candidate (id : Nat) :
    (table.removeSelections owner).isPolicyCandidate id =
      table.isPolicyCandidate id := by
  unfold isPolicyCandidate findWindow
  rw [removeSelections_lookup]
  cases table.resources[id]? with
  | none => rfl
  | some record =>
      obtain ⟨other, payload⟩ := record
      cases payload <;> rfl

/-! ## The roots -/

theorem mem_owned (consistent : table.Consistent) {id : Nat} :
    id ∈ table.owned owner ↔ ∃ record, table.resources[id]? = some record ∧
      record.owner = some owner :=
  consistent.indexed.exact owner id

theorem owned_away (consistent : table.Consistent)
    (owns : xid ∈ table.owned owner) : xid ≠ table.screen.rootWindow := by
  rintro rfl
  obtain ⟨record, found, owns⟩ := (mem_owned consistent).mp owns
  rw [consistent.indexed.rootFree record found] at owns
  cases owns

theorem coveredFrom_iff (consistent : table.Consistent) {way : List Nat}
    (upward : table.Upward xid way) {rounds : Nat}
    (enough : way.length ≤ rounds) :
    table.coveredFrom owner rounds xid = true ↔
      ∃ upper ∈ way, upper ∈ table.owned owner := by
  refine consistent.tree.climb (motive := fun xid way => ∀ rounds,
    way.length ≤ rounds → (table.coveredFrom owner rounds xid = true ↔
      ∃ upper ∈ way, upper ∈ table.owned owner)) ?_ ?_ upward rounds enough
  · intro window found rounds enough
    obtain ⟨rounds, rfl⟩ : ∃ less, rounds = less + 1 :=
      ⟨rounds - 1, by simp only [List.length_singleton] at enough; omega⟩
    simp only [coveredFrom, decide_true, Bool.or_true, if_true,
      Bool.false_eq_true, List.mem_singleton, exists_eq_left, false_iff]
    intro owns
    exact owned_away consistent owns rfl
  · intro xid window way found away real other upward ih rounds enough
    obtain ⟨rounds, rfl⟩ : ∃ less, rounds = less + 1 :=
      ⟨rounds - 1, by simp only [List.length_cons] at enough; omega⟩
    have inner : xid ≠ 0 := by
      rintro rfl
      have vacant := consistent.tree.vacant
      rw [links_of_found found] at vacant
      cases vacant
    obtain ⟨record, isRecord, payload⟩ := Option.bind_eq_some_iff.mp found
    have owns : xid ∈ table.owned owner ↔ record.owner = some owner := by
      rw [mem_owned consistent, isRecord]
      simp
    have onward := ih rounds (Nat.le_of_succ_le_succ enough)
    simp only [coveredFrom, inner, away, decide_false, Bool.or_self,
      Bool.false_eq_true, if_false, isRecord, payload, List.mem_cons,
      or_and_right, exists_or, exists_eq_left, owns]
    by_cases mine : record.owner = some owner
    · simp only [mine, if_true, true_or]
    · simp only [mine, if_false, false_or]
      exact onward

/-- The roots are the windows of the client that are below no others. -/
theorem mem_cleanupRoots (consistent : table.Consistent) :
    xid ∈ table.cleanupRoots owner ↔ xid ∈ table.owned owner ∧
      (∃ window, table.findWindow xid = some window) ∧
      ∀ upper ∈ table.owned owner, table.OnPath xid upper → upper = xid := by
  unfold cleanupRoots
  rw [List.mem_filter, List.mem_reverse]
  apply and_congr_right
  intro owns
  have away := owned_away consistent owns
  rw [Option.any_eq_true]
  constructor
  · rintro ⟨window, found, free⟩
    refine ⟨⟨window, found⟩, ?_⟩
    intro upper above passes
    cases passes with
    | self => rfl
    | above again _ later =>
        rw [found] at again
        obtain rfl := Option.some.inj again
        obtain ⟨outer, isOuter, _⟩ := consistent.tree.listed found away
        obtain ⟨way, upward⟩ := consistent.tree.upward isOuter
        have covered := (@coveredFrom_iff _ _ owner consistent _ upward _
          (upward.rounds consistent.tree)).mpr ⟨upper,
            (upward.onPath consistent.tree upper).mpr later, above⟩
        rw [covered] at free
        cases free
  · rintro ⟨⟨window, found⟩, topmost⟩
    refine ⟨window, found, ?_⟩
    obtain ⟨outer, isOuter, _⟩ := consistent.tree.listed found away
    obtain ⟨way, upward⟩ := consistent.tree.upward isOuter
    rw [Bool.not_eq_true', Bool.eq_false_iff]
    intro covered
    obtain ⟨upper, member, above⟩ := (coveredFrom_iff consistent upward
      (upward.rounds consistent.tree)).mp covered
    have passes := (upward.onPath consistent.tree upper).mp member
    have same := topmost upper above (.above found away passes)
    subst same
    obtain ⟨depth, ranked⟩ := consistent.tree.ranked
    have deeper := ranked.parent consistent.tree found away
    have higher := consistent.tree.onPath_depth ranked passes
    omega

/-- Each window of the client is below a root, or is one. -/
theorem root_above (consistent : table.Consistent) {way : List Nat}
    (upward : table.Upward xid way) :
    (∃ upper ∈ table.owned owner, table.OnPath xid upper) →
      ∃ root ∈ table.cleanupRoots owner, table.OnPath xid root := by
  refine consistent.tree.climb (motive := fun xid _ =>
    (∃ upper ∈ table.owned owner, table.OnPath xid upper) →
      ∃ root ∈ table.cleanupRoots owner, table.OnPath xid root) ?_ ?_ upward
  · rintro window found ⟨upper, owns, passes⟩
    cases passes with
    | self => exact absurd rfl (owned_away consistent owns)
    | above _ away _ => exact absurd rfl away
  · rintro xid window way found away _ _ _ ih ⟨upper, owns, passes⟩
    by_cases covered :
        ∃ upper ∈ table.owned owner, table.OnPath window.parent upper
    · obtain ⟨root, member, later⟩ := ih covered
      exact ⟨root, member, .above found away later⟩
    · have here : ∀ upper ∈ table.owned owner, table.OnPath xid upper →
          upper = xid := by
        intro upper owns passes
        cases passes with
        | self => rfl
        | above again _ later =>
            rw [found] at again
            obtain rfl := Option.some.inj again
            exact absurd ⟨upper, owns, later⟩ covered
      obtain rfl := here upper owns passes
      exact ⟨upper, (mem_cleanupRoots consistent).mpr
        ⟨owns, ⟨window, found⟩, here⟩, .self upper⟩

theorem cleanupRoots_nodup (consistent : table.Consistent) (owner : Nat) :
    (table.cleanupRoots owner).Nodup :=
  (List.nodup_reverse.mpr (consistent.indexed.once owner)).filter _

/-! ## The marking of what is below the roots -/

theorem captureLoop_early (early : List ClientCleanupWindow) {rounds : Nat}
    {stack : List (Nat × Bool)} {postorder : List ClientCleanupWindow} :
    table.captureLoop rounds stack (early ++ postorder) =
      (table.captureLoop rounds stack postorder).map (early ++ ·) := by
  induction rounds generalizing stack postorder with
  | zero => cases stack <;> rfl
  | succ rounds ih =>
      cases stack with
      | nil => rfl
      | cons item stack =>
          obtain ⟨current, expanded⟩ := item
          simp only [captureLoop]
          cases table.findWindow current with
          | none => rfl
          | some window =>
              cases expanded with
              | false => exact ih
              | true =>
                  simp only [if_true, List.append_assoc]
                  exact ih

/-- The marking enters what the capture of a destruction enters. -/
theorem markLoop_captures {rounds : Nat} {stack : List (Nat × Bool)}
    {plan : CleanupPreparation} {result : List ClientCleanupWindow}
    (marks : Marks (plan.postorder.map (·.xid)) before table)
    (policy : plan.affectsPolicy =
      plan.postorder.any fun entry => before.isPolicyCandidate entry.xid)
    (captured : before.captureLoop rounds stack plan.postorder = some result)
    (distinct : (result.map (·.xid)).Nodup) :
    ∃ next, markLoop rounds stack (plan, table) =
        ({ plan with
            affectsPolicy :=
              result.any fun entry => before.isPolicyCandidate entry.xid
            postorder := result }, next) ∧
      Marks (result.map (·.xid)) before next := by
  induction rounds generalizing stack plan table with
  | zero =>
      cases stack with
      | nil =>
          obtain rfl := Option.some.inj captured
          refine ⟨table, ?_, marks⟩
          rw [← policy]
          rfl
      | cons item stack => cases captured
  | succ rounds ih =>
      cases stack with
      | nil =>
          obtain rfl := Option.some.inj captured
          refine ⟨table, ?_, marks⟩
          rw [← policy]
          rfl
      | cons item stack =>
          obtain ⟨current, expanded⟩ := item
          rw [captureLoop] at captured
          cases found : before.findWindow current with
          | none =>
              rw [found] at captured
              cases captured
          | some window =>
              have still := marks.findWindow current
              rw [found, Option.map_some] at still
              rw [found] at captured
              have children : (if current ∈ plan.postorder.map (·.xid) then
                  { window with cleanupPending := true }
                    else window).children = window.children := by
                split <;> rfl
              rw [markLoop, still]
              cases expanded with
              | false =>
                  simp only [Bool.false_eq_true, if_false] at captured ⊢
                  rw [children]
                  exact ih marks policy captured
              | true =>
                  simp only [if_true] at captured ⊢
                  have fresh : current ∉ plan.postorder.map (·.xid) := by
                    intro member
                    have later := captured
                    rw [← List.append_nil (plan.postorder ++ _),
                      captureLoop_early] at later
                    obtain ⟨more, _, rfl⟩ := Option.map_eq_some_iff.mp later
                    rw [List.map_append, List.map_append] at distinct
                    obtain ⟨early, _, _⟩ := List.nodup_append.mp distinct
                    obtain ⟨_, _, unlike⟩ := List.nodup_append.mp early
                    exact unlike current member current
                      List.mem_cons_self rfl
                  have unseen : ¬(plan.postorder.any
                      fun entry => decide (entry.xid = current)) = true := by
                    rw [List.any_eq_true]
                    rintro ⟨entry, member, same⟩
                    exact fresh (List.mem_map.mpr
                      ⟨entry, member, of_decide_eq_true same⟩)
                  rw [if_neg unseen]
                  have next := marks.mark current
                  simp only [if_neg fresh, next.cleanupEntry,
                    next.isPolicyCandidate]
                  refine @ih _ stack { plan with
                    affectsPolicy := plan.affectsPolicy ||
                      before.isPolicyCandidate current
                    postorder := plan.postorder ++
                      [before.cleanupEntry current window] } ?_ ?_ captured
                  · rw [List.map_append]
                    exact next
                  · rw [List.any_append, ← policy, List.any_cons,
                      List.any_nil, Bool.or_false]
                    rfl

/-- The windows at and below the roots are entered, each once. -/
theorem markRoots (consistent : before.Consistent) (plan : ClientCleanupPlan)
    {roots : List Nat} (distinct : roots.Nodup)
    (windows : ∀ root ∈ roots, root ≠ before.screen.rootWindow ∧
      ∃ window, before.findWindow root = some window)
    (apart : ∀ root ∈ roots, ∀ other ∈ roots, before.OnPath root other →
      other = root) :
    ∃ entries next,
      roots.foldl (fun state root =>
          markLoop (2 * before.resources.size) [(root, false)] state)
        ({ plan }, before) =
          ({ plan
             affectsPolicy :=
              entries.any fun entry => before.isPolicyCandidate entry.xid
             postorder := entries }, next) ∧
      Marks (entries.map (·.xid)) before next ∧
      (entries.map (·.xid)).Nodup ∧
      ∀ id, id ∈ entries.map (·.xid) ↔
        ∃ root ∈ roots, before.OnPath id root := by
  induction roots using List.reverseRecOn with
  | nil => exact ⟨[], before, rfl, .refl before, List.nodup_nil, by simp⟩
  | append_singleton roots last ih =>
      obtain ⟨early, _, unlike⟩ := List.nodup_append.mp distinct
      obtain ⟨entries, next, reached, marks, once, members⟩ := ih early
        (fun root member => windows root (List.mem_append_left _ member))
        (fun root member other again => apart root
          (List.mem_append_left _ member) other
            (List.mem_append_left _ again))
      obtain ⟨away, window, found⟩ :=
        windows last (List.mem_append_right _ List.mem_cons_self)
      obtain ⟨more, captures, captured⟩ :=
        captureDestroyPlan_captures consistent.tree found away
      have walked : before.captureLoop (2 * before.resources.size)
          [(last, false)] [] = some more := by
        simp only [captureDestroyPlan, away, found] at captured
        obtain ⟨postorder, walked, same⟩ :=
          Option.bind_eq_some_iff.mp captured
        rw [walked, (WindowDestroyPlan.mk.inj (Option.some.inj same)).2]
      have onward : before.captureLoop (2 * before.resources.size)
          [(last, false)] entries = some (entries ++ more) := by
        rw [← List.append_nil entries, captureLoop_early, walked,
          List.append_nil]
        rfl
      have separate : ((entries ++ more).map (·.xid)).Nodup := by
        rw [List.map_append]
        refine List.nodup_append.mpr ⟨once, captures.distinct, ?_⟩
        rintro id first other second rfl
        obtain ⟨root, member, passes⟩ := (members id).mp first
        have below := (captures.members id).mp second
        rcases passes.linear below with up | up
        · have same := apart root (List.mem_append_left _ member) last
            (List.mem_append_right _ List.mem_cons_self) up
          exact unlike root member last List.mem_cons_self same.symm
        · have same := apart last
            (List.mem_append_right _ List.mem_cons_self) root
              (List.mem_append_left _ member) up
          exact unlike root member last List.mem_cons_self same
      obtain ⟨final, marked, ends⟩ := @markLoop_captures next before _
        [(last, false)]
        { plan
          affectsPolicy :=
            entries.any fun entry => before.isPolicyCandidate entry.xid
          postorder := entries } _ marks rfl onward separate
      refine ⟨entries ++ more, final, ?_, ends, separate, ?_⟩
      · rw [List.foldl_append, reached]
        exact marked
      · intro id
        rw [List.map_append, List.mem_append, members, captures.members]
        simp only [List.mem_append, List.mem_singleton, or_and_right,
          exists_or, exists_eq_left]

/-- What the preparation has found out. -/
structure Prepared (table : ResourceTable) (owner : Nat)
    (prepared : CleanupPreparation) (next : ResourceTable) : Prop where
  client : prepared.plan.owner = owner
  rootsOnce : prepared.plan.roots.Nodup
  roots : ∀ root, root ∈ prepared.plan.roots ↔ root ∈ table.owned owner ∧
    (∃ window, table.findWindow root = some window) ∧
      ∀ upper ∈ table.owned owner, table.OnPath root upper → upper = root
  covers : ∀ upper ∈ table.owned owner, ∀ xid window,
    table.findWindow xid = some window → table.OnPath xid upper →
      ∃ root ∈ prepared.plan.roots, table.OnPath xid root
  marks : Marks (prepared.postorder.map (·.xid))
    (table.removeSelections owner) next
  distinct : (prepared.postorder.map (·.xid)).Nodup
  entered : ∀ id, id ∈ prepared.postorder.map (·.xid) ↔
    ∃ root ∈ prepared.plan.roots, table.OnPath id root
  policy : prepared.affectsPolicy =
    prepared.postorder.any fun entry => table.isPolicyCandidate entry.xid

theorem prepareClientCleanup_prepared (consistent : table.Consistent)
    (owner : Nat) : table.Prepared owner (table.prepareClientCleanup owner).1
      (table.prepareClientCleanup owner).2 := by
  have same := @removeSelections_sameShape table owner
  have base := same.consistent consistent
  have roots : ∀ root, root ∈ (table.removeSelections owner).cleanupRoots
      owner ↔ root ∈ table.owned owner ∧
        (∃ window, table.findWindow root = some window) ∧
          ∀ upper ∈ table.owned owner, table.OnPath root upper →
            upper = root := by
    intro root
    rw [mem_cleanupRoots base, same.owned]
    simp only [same.onPath]
    refine and_congr_right fun _ => and_congr_left fun _ => ⟨?_, ?_⟩
    · rintro ⟨window, found⟩
      obtain ⟨other, isOther, _⟩ := same.symm.found found
      exact ⟨other, isOther⟩
    · rintro ⟨window, found⟩
      obtain ⟨other, isOther, _⟩ := same.found found
      exact ⟨other, isOther⟩
  obtain ⟨entries, next, reached, marks, distinct, entered⟩ :=
    markRoots base
      { owner
        roots := (table.removeSelections owner).cleanupRoots owner }
      (cleanupRoots_nodup base owner)
      (by
        intro root member
        obtain ⟨owns, isWindow, _⟩ := (mem_cleanupRoots base).mp member
        exact ⟨owned_away base owns, isWindow⟩)
      (by
        intro root member other again passes
        obtain ⟨_, _, topmost⟩ := (mem_cleanupRoots base).mp member
        obtain ⟨owns, _⟩ := (mem_cleanupRoots base).mp again
        exact topmost other owns passes)
  have prepared : table.prepareClientCleanup owner = _ := reached
  rw [prepared]
  exact
    { client := rfl
      rootsOnce := cleanupRoots_nodup base owner
      roots
      covers := by
        intro upper owns xid window found passes
        obtain ⟨other, isOther, _⟩ := same.found found
        obtain ⟨way, upward⟩ := base.tree.upward isOther
        rw [← same.owned] at owns
        obtain ⟨root, member, below⟩ := root_above base upward
          ⟨upper, owns, same.onPath.mpr passes⟩
        exact ⟨root, member, same.onPath.mp below⟩
      marks
      distinct
      entered := by
        intro id
        rw [entered]
        simp only [same.onPath]
      policy := by
        simp only [removeSelections_candidate] }

end ResourceTable

end Glasswyrm.Server
