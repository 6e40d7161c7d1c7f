import Glasswyrm.Server.ServerStateRun

namespace Glasswyrm.Server

open Library
open Lifecycle (AppliedPolicyWindow LifecycleSnapshot LifecycleWindow)
open X11 (ScreenModel)

/-! Every resource of a client is listed once among what the client owns, and
nothing else is. -/

namespace ResourceTable

variable {table : ResourceTable} {xid : Nat}

/-- What a client owns. -/
def owned (table : ResourceTable) (owner : Nat) : List Nat :=
  table.resourcesByOwner[owner]?.getD []

/-- What a resource is, whatever a window looks like. -/
def kind : ResourcePayload → ResourcePayload
  | .window _ => .window {}
  | other => other

def ownership (record : ResourceRecord) : Option Nat × ResourcePayload :=
  (record.owner, kind record.payload)

structure Indexed (table : ResourceTable) : Prop where
  exact : ∀ owner id : Nat, id ∈ table.owned owner ↔
    ∃ record, table.resources[id]? = some record ∧ record.owner = some owner
  once : ∀ owner, (table.owned owner).Nodup
  held : ∀ owner : Nat, table.resourcesByOwner[owner]? ≠ some []
  rootFree : ∀ record, table.resources[table.screen.rootWindow]? = some record →
    record.owner = none
  served : ∀ (id : Nat) record, table.resources[id]? = some record →
    record.owner = none → record.payload.window?.isSome = true ∨
      (id = table.screen.defaultColormap ∧ record.payload = .colormap) ∨
      (id = kDefaultFontXid ∧ record.payload = .font)

/-! ## The lists of the clients -/

theorem owned_pushOwned (owner other : Nat) :
    (table.pushOwned owner xid).owned other =
      if other = owner then table.owned owner ++ [xid]
      else table.owned other := by
  unfold owned pushOwned
  simp only [KeyMap.lookup_insert]
  by_cases same : owner = other
  · rw [if_pos same, if_pos same.symm]
    rfl
  · rw [if_neg same, if_neg (Ne.symm same)]

theorem owned_eraseOwned (owner other : Nat) :
    (table.eraseOwned owner xid).owned other =
      if other = owner then (table.owned owner).filter (· ≠ xid)
      else table.owned other := by
  unfold eraseOwned owned
  split
  · rename_i nothing
    split
    · rename_i same
      rw [same, nothing]
      rfl
    · rfl
  · rename_i own found
    rw [found]
    simp only [Option.getD_some]
    by_cases same : other = owner
    · subst same
      split
      · rename_i none_left
        simp only [KeyMap.lookup_erase, if_true, Option.getD_none]
        exact (List.isEmpty_iff.mp none_left).symm
      · simp only [KeyMap.lookup_insert, if_true, Option.getD_some]
    · rw [if_neg same]
      split
      · rw [KeyMap.lookup_erase, if_neg (Ne.symm same)]
      · rw [KeyMap.lookup_insert, if_neg (Ne.symm same)]

theorem held_pushOwned {owner : Nat}
    (held : ∀ other : Nat, table.resourcesByOwner[other]? ≠ some []) (other : Nat) :
    (table.pushOwned owner xid).resourcesByOwner[other]? ≠ some [] := by
  unfold pushOwned
  simp only [KeyMap.lookup_insert]
  split
  · intro empty
    exact List.append_ne_nil_of_right_ne_nil _ (List.cons_ne_nil _ _)
      (Option.some.inj empty)
  · exact held other

theorem held_eraseOwned {owner : Nat}
    (held : ∀ other : Nat, table.resourcesByOwner[other]? ≠ some []) (other : Nat) :
    (table.eraseOwned owner xid).resourcesByOwner[other]? ≠ some [] := by
  unfold eraseOwned
  split
  · exact held other
  · simp only
    split
    · simp only [KeyMap.lookup_erase]
      split
      · simp
      · exact held other
    · rename_i something
      simp only [KeyMap.lookup_insert]
      split
      · intro empty
        rw [Option.some.inj empty] at something
        exact something rfl
      · exact held other

/-! ## What keeps the index -/

/-- Nothing has been made, given away or taken. -/
structure SameOwners (before after : ResourceTable) : Prop where
  root : after.screen.rootWindow = before.screen.rootWindow
  colormap : after.screen.defaultColormap = before.screen.defaultColormap
  lists : after.resourcesByOwner = before.resourcesByOwner
  records : ∀ id : Nat, (after.resources[id]?).map ownership =
    (before.resources[id]?).map ownership

namespace SameOwners

variable {first second third : ResourceTable}

theorem refl (table : ResourceTable) : SameOwners table table :=
  ⟨rfl, rfl, rfl, fun _ => rfl⟩

theorem trans (early : SameOwners first second)
    (late : SameOwners second third) : SameOwners first third where
  root := late.root.trans early.root
  colormap := late.colormap.trans early.colormap
  lists := late.lists.trans early.lists
  records := fun id => (late.records id).trans (early.records id)

theorem symm (same : SameOwners first second) : SameOwners second first where
  root := same.root.symm
  colormap := same.colormap.symm
  lists := same.lists.symm
  records := fun id => (same.records id).symm

/-- A resource has the owner and the kind that it had. -/
theorem former (same : SameOwners first second) {id : Nat}
    {record : ResourceRecord} (found : second.resources[id]? = some record) :
    ∃ earlier, first.resources[id]? = some earlier ∧
      ownership earlier = ownership record := by
  have here := same.records id
  rw [found] at here
  obtain ⟨earlier, isEarlier, agree⟩ := Option.map_eq_some_iff.mp here.symm
  exact ⟨earlier, isEarlier, agree⟩

theorem updateWindow (table : ResourceTable) (xid : Nat)
    (change : WindowResource → WindowResource) :
    SameOwners table (table.updateWindow xid change) := by
  unfold ResourceTable.updateWindow
  split
  · rename_i owner window found
    refine ⟨rfl, rfl, rfl, fun id => ?_⟩
    simp only [KeyMap.lookup_insert]
    split
    · rename_i same
      rw [← same, found]
      rfl
    · rfl
  · exact refl table

theorem foldl {ι : Type*} {step : ResourceTable → ι → ResourceTable}
    (keeps : ∀ table input, SameOwners table (step table input))
    (table : ResourceTable) (inputs : List ι) :
    SameOwners table (inputs.foldl step table) := by
  induction inputs generalizing table with
  | nil => exact refl table
  | cons input inputs ih => exact (keeps table input).trans (ih _)

end SameOwners

theorem ownership_owner {first second : ResourceRecord}
    (same : ownership first = ownership second) :
    first.owner = second.owner :=
  congrArg Prod.fst same

theorem ownership_window {first second : ResourceRecord}
    (same : ownership first = ownership second) :
    first.payload.window?.isSome = second.payload.window?.isSome := by
  have kinds : kind first.payload = kind second.payload :=
    congrArg Prod.snd same
  cases one : first.payload <;> cases other : second.payload <;>
    simp [one, other, kind, ResourcePayload.window?] at kinds ⊢

/-- Of what is no window all that is kept is told. -/
theorem ownership_plain {first second : ResourceRecord}
    (same : ownership first = ownership second)
    (plain : second.payload.window? = none) :
    first.payload = second.payload := by
  have kinds : kind first.payload = kind second.payload :=
    congrArg Prod.snd same
  cases other : second.payload with
  | window window =>
      rw [other] at plain
      cases plain
  | _ =>
      cases one : first.payload <;> simp_all [kind]

namespace Indexed

theorem congr (indexed : table.Indexed) {changed : ResourceTable}
    (same : SameOwners table changed) : changed.Indexed := by
  have lists : ∀ owner, changed.owned owner = table.owned owner := by
    intro owner
    rw [owned, same.lists, owned]
  refine ⟨?_, ?_, ?_, ?_, ?_⟩
  · intro owner id
    rw [lists, indexed.exact]
    constructor
    · intro ⟨record, found, owns⟩
      obtain ⟨later, isLater, agree⟩ := same.symm.former found
      exact ⟨later, isLater, (ownership_owner agree).trans owns⟩
    · intro ⟨record, found, owns⟩
      obtain ⟨earlier, isEarlier, agree⟩ := same.former found
      exact ⟨earlier, isEarlier, (ownership_owner agree).trans owns⟩
  · intro owner
    rw [lists]
    exact indexed.once owner
  · intro owner
    rw [same.lists]
    exact indexed.held owner
  · intro record found
    rw [same.root] at found
    obtain ⟨earlier, isEarlier, agree⟩ := same.former found
    rw [← ownership_owner agree]
    exact indexed.rootFree earlier isEarlier
  · intro id record found free
    obtain ⟨earlier, isEarlier, agree⟩ := same.former found
    rw [same.colormap, ← ownership_window agree]
    cases plain : record.payload.window? with
    | none =>
        rw [← ownership_plain agree plain]
        exact indexed.served id earlier isEarlier
          ((ownership_owner agree).trans free)
    | some window =>
        left
        rw [ownership_window agree, plain]
        rfl

theorem updateWindow (indexed : table.Indexed) (xid : Nat)
    (change : WindowResource → WindowResource) :
    (table.updateWindow xid change).Indexed :=
  indexed.congr (.updateWindow table xid change)

/-- A new resource of a client. -/
theorem push (indexed : table.Indexed) {owner : Nat}
    {payload : ResourcePayload} (fresh : table.resources[xid]? = none)
    (away : xid ≠ table.screen.rootWindow) :
    (pushOwned { table with
      resources := table.resources.insert xid ⟨some owner, payload⟩ } owner
        xid).Indexed := by
  have absent : ∀ other, xid ∉ table.owned other := by
    intro other member
    obtain ⟨record, found, _⟩ := (indexed.exact other xid).mp member
    rw [fresh] at found
    cases found
  refine ⟨?_, ?_, held_pushOwned indexed.held, ?_, ?_⟩
  · intro other id
    rw [owned_pushOwned]
    simp only [pushOwned, KeyMap.lookup_insert]
    have before := indexed.exact other id
    by_cases here : xid = id
    · subst here
      simp only [if_true, Option.some.injEq, exists_eq_left']
      by_cases same : other = owner
      · simp [same]
      · simp only [if_neg same, Ne.symm same, iff_false]
        exact absent other
    · rw [if_neg here, ← before]
      split
      · rename_i same
        subst same
        simp [owned, Ne.symm here]
      · rfl
  · intro other
    rw [owned_pushOwned]
    split
    · refine List.nodup_append.mpr ⟨indexed.once owner,
        List.nodup_singleton _, ?_⟩
      intro first member second isLast same
      rw [same, List.mem_singleton.mp isLast] at member
      exact absent owner member
    · exact indexed.once other
  · intro record found
    simp only [pushOwned, KeyMap.lookup_insert, if_neg away] at found
    exact indexed.rootFree record found
  · intro id record found free
    simp only [pushOwned, KeyMap.lookup_insert] at found
    split at found
    · rw [← Option.some.inj found] at free
      cases free
    · exact indexed.served id record found free

/-- A window without an owner. -/
theorem serve (indexed : table.Indexed) {window : WindowResource}
    (fresh : table.resources[xid]? = none) :
    Indexed { table with
      resources := table.resources.insert xid ⟨none, .window window⟩ } := by
  refine ⟨?_, indexed.once, indexed.held, ?_, ?_⟩
  · intro other id
    refine (indexed.exact other id).trans ?_
    simp only [KeyMap.lookup_insert]
    split
    · rename_i same
      rw [← same, fresh]
      simp
    · rfl
  · intro record found
    simp only [KeyMap.lookup_insert] at found
    split at found
    · rw [← Option.some.inj found]
    · exact indexed.rootFree record found
  · intro id record found free
    simp only [KeyMap.lookup_insert] at found
    split at found
    · rw [← Option.some.inj found]
      exact Or.inl rfl
    · exact indexed.served id record found free

theorem addWindow (indexed : table.Indexed) {owner : Option Nat}
    {window : WindowResource} (fresh : table.resources[xid]? = none)
    (away : xid ≠ table.screen.rootWindow) :
    (table.addWindow owner xid window).Indexed := by
  unfold ResourceTable.addWindow
  apply Indexed.updateWindow
  cases owner with
  | none => exact indexed.serve fresh
  | some owner => exact indexed.push fresh away

/-- A resource that is erased leaves the list of its owner. -/
theorem erase (indexed : table.Indexed) {record : ResourceRecord}
    (found : table.resources[xid]? = some record) :
    Indexed { record.owner.elim table (table.eraseOwned · xid) with
      resources := table.resources.erase xid } := by
  have lists : ∀ other, ResourceTable.owned
      { record.owner.elim table (table.eraseOwned · xid) with
        resources := table.resources.erase xid } other =
          (table.owned other).filter (· ≠ xid) := by
    intro other
    have others : record.owner ≠ some other →
        (table.owned other).filter (· ≠ xid) = table.owned other := by
      intro apart
      refine List.filter_eq_self.mpr fun id member => decide_eq_true ?_
      rintro rfl
      obtain ⟨again, isAgain, owns⟩ := (indexed.exact other id).mp member
      rw [found] at isAgain
      exact apart (Option.some.inj isAgain ▸ owns)
    cases owns : record.owner with
    | none =>
        rw [others (by rw [owns]; simp)]
        rfl
    | some owner =>
        have here := @owned_eraseOwned table xid owner other
        change (table.eraseOwned owner xid).owned other = _
        rw [here]
        split
        · rename_i same
          rw [same]
        · rename_i apart
          rw [others (by
            rw [owns]
            exact fun same => apart (Option.some.inj same).symm)]
  have screen : (record.owner.elim table (table.eraseOwned · xid)).screen =
      table.screen := by
    cases record.owner with
    | none => rfl
    | some owner => exact eraseOwned_screen table xid owner
  refine ⟨?_, ?_, ?_, ?_, ?_⟩
  · intro other id
    rw [lists, List.mem_filter, indexed.exact, decide_eq_true_eq]
    simp only [KeyMap.lookup_erase]
    constructor
    · intro ⟨⟨former, isFormer, owns⟩, apart⟩
      exact ⟨former, by rw [if_neg (Ne.symm apart)]; exact isFormer, owns⟩
    · intro ⟨former, isFormer, owns⟩
      split at isFormer
      · cases isFormer
      · rename_i apart
        exact ⟨⟨former, isFormer, owns⟩, Ne.symm apart⟩
  · intro other
    rw [lists]
    exact (indexed.once other).filter _
  · cases record.owner with
    | none => exact indexed.held
    | some owner => exact held_eraseOwned indexed.held
  · intro former isFormer
    simp only [screen, KeyMap.lookup_erase] at isFormer
    split at isFormer
    · cases isFormer
    · exact indexed.rootFree former isFormer
  · intro id former isFormer
    simp only [screen, KeyMap.lookup_erase] at isFormer ⊢
    split at isFormer
    · cases isFormer
    · exact indexed.served id former isFormer

theorem freeResource (indexed : table.Indexed) (xid : Nat) :
    (table.freeResource xid).Indexed := by
  unfold ResourceTable.freeResource
  split
  · exact indexed
  · rename_i record found
    split
    · rename_i owner _ owns
      have erased := indexed.erase found
      rw [owns] at erased
      simp only [Option.elim_some] at erased
      have same : ({ table with resources := table.resources.erase xid } :
          ResourceTable).eraseOwned owner xid =
            { table.eraseOwned owner xid with
              resources := table.resources.erase xid } := by
        unfold eraseOwned
        simp only
        split <;> rfl
      rw [same]
      exact erased
    · exact indexed

theorem foldl_freeResource (indexed : table.Indexed) (ids : List Nat) :
    (ids.foldl ResourceTable.freeResource table).Indexed :=
  run_preserves (fun _ xid indexed => indexed.freeResource xid) indexed ids

/-- The record of a window survives what happens to other resources. -/
theorem freeResource_window {record : ResourceRecord} {id : Nat}
    (found : table.resources[id]? = some record)
    (shown : record.payload.window?.isSome = true) (xid : Nat) :
    (table.freeResource xid).resources[id]? = some record := by
  unfold ResourceTable.freeResource
  split
  · exact found
  · rename_i other isOther
    split
    · rename_i plain _
      rw [eraseOwned_resources, KeyMap.lookup_erase, if_neg]
      · exact found
      · rintro rfl
        rw [found] at isOther
        rw [Option.some.inj isOther, plain] at shown
        cases shown
    · exact found

theorem foldl_freeResource_window {record : ResourceRecord} {id : Nat}
    (found : table.resources[id]? = some record)
    (shown : record.payload.window?.isSome = true) (ids : List Nat) :
    (ids.foldl ResourceTable.freeResource table).resources[id]? =
      some record :=
  @run_preserves _ _ ResourceTable.freeResource
    (fun table => table.resources[id]? = some record)
    (fun _ xid found => freeResource_window found shown xid) _ found ids

theorem destroyLeaf (indexed : table.Indexed) (xid : Nat) :
    (table.destroyLeaf xid).Indexed := by
  unfold ResourceTable.destroyLeaf
  cases found : table.findWindow xid with
  | none => exact indexed
  | some window =>
      simp only
      split
      · exact indexed
      · obtain ⟨record, isRecord, shown⟩ := Option.bind_eq_some_iff.mp found
        have cleared := indexed.foldl_freeResource (table.dependents xid)
        have stays := foldl_freeResource_window isRecord
          (by rw [shown]; rfl) (table.dependents xid)
        have unlisted := cleared.updateWindow window.parent fun parent =>
          { parent with children := withoutChild parent.children xid }
        obtain ⟨later, isLater, same⟩ :=
          (SameOwners.updateWindow _ window.parent fun parent =>
            { parent with children := withoutChild parent.children xid }
              ).symm.former stays
        have erased := unlisted.erase isLater
        rw [ownership_owner same] at erased
        rw [isRecord, Option.bind_some]
        cases owns : record.owner with
        | none =>
            rw [owns] at erased
            exact erased
        | some owner =>
            rw [owns] at erased
            simp only [eraseOwned_resources]
            exact erased
theorem freeOwned (indexed : table.Indexed) (xid : Nat) :
    (table.freeOwned xid).Indexed := by
  unfold ResourceTable.freeOwned
  split
  · exact (indexed.foldl_freeResource _).freeResource xid
  · exact indexed.freeResource xid

end Indexed

/-! ## Operations that keep all owners -/

namespace SameOwners

theorem recomputeMapStatesFrom (rounds xid : Nat) (parentViewable : Bool)
    (table : ResourceTable) : SameOwners table
      (ResourceTable.recomputeMapStatesFrom rounds xid parentViewable
        table) := by
  induction rounds generalizing xid parentViewable table with
  | zero => exact refl table
  | succ rounds ih =>
      unfold ResourceTable.recomputeMapStatesFrom
      split
      · exact refl table
      · apply (updateWindow table xid _).trans
        apply foldl
        exact fun table child => ih child _ table

theorem recomputeMapStates (table : ResourceTable) (xid : Nat) :
    SameOwners table (table.recomputeMapStates xid) := by
  unfold ResourceTable.recomputeMapStates
  simp only
  split
  · split
    · exact refl table
    · apply (updateWindow table xid _).trans
      apply foldl
      exact fun table child => recomputeMapStatesFrom _ child _ table
  · split
    · exact refl table
    · exact recomputeMapStatesFrom _ xid _ table

theorem configureLocal (table : ResourceTable) (xid : Nat)
    (configure : LocalConfigure) :
    SameOwners table (table.configureLocal xid configure).2 := by
  rcases configureLocal_cases table xid configure with
    same | ⟨window, storage, _, _, _, _, same⟩
  · rw [same]
    exact refl table
  · rw [same]
    unfold ResourceTable.moved
    simp only
    split
    · exact updateWindow table xid _
    · exact (updateWindow table xid _).trans (updateWindow _ _ _)

theorem setLocalMapIntent (table : ResourceTable) (xid : Nat)
    (mapped : Bool) :
    SameOwners table (table.setLocalMapIntent xid mapped).2 := by
  unfold ResourceTable.setLocalMapIntent
  split
  · exact refl table
  · split
    · exact refl table
    · exact (updateWindow table xid _).trans (recomputeMapStates _ xid)

theorem updateScreenGeometry (table : ResourceTable) (screen : ScreenModel) :
    SameOwners table (table.updateScreenGeometry screen).2 := by
  unfold ResourceTable.updateScreenGeometry
  split
  · exact refl table
  · rename_i valid
    split
    · exact refl table
    · simp only [Bool.or_eq_true, decide_eq_true_eq, not_or, ne_eq,
        Decidable.not_not] at valid
      obtain ⟨⟨⟨⟨⟨⟨⟨⟨⟨⟨⟨⟨root, colormap⟩, _⟩, _⟩, _⟩, _⟩, _⟩, _⟩, _⟩, _⟩, _⟩, _⟩,
        _⟩ := valid
      have moved : SameOwners table { table with screen } :=
        ⟨root, colormap, rfl, fun _ => rfl⟩
      exact moved.trans (updateWindow _ _ _)

theorem applyPolicyState {table next : ResourceTable}
    {policy : List AppliedPolicyWindow} {focused focus : Nat}
    (applied : Server.applyPolicyState table policy focused =
      some (next, focus)) : SameOwners table next := by
  unfold Server.applyPolicyState at applied
  obtain ⟨scan, _, applied⟩ := Option.bind_eq_some_iff.mp applied
  rw [ite_eq_iff] at applied
  obtain ⟨_, wrong⟩ | ⟨_, applied⟩ := applied
  · cases wrong
  simp only at applied
  rw [ite_eq_iff] at applied
  obtain ⟨_, wrong⟩ | ⟨_, applied⟩ := applied
  · cases wrong
  obtain ⟨ordered, reordered, applied⟩ := Option.bind_eq_some_iff.mp applied
  obtain ⟨rfl, _⟩ := Prod.mk.inj (Option.some.inj applied)
  have first : SameOwners table ordered := by
    obtain ⟨root, _, _, _, rfl⟩ := reorderRootChildren_some reordered
    exact updateWindow table _ _
  have placed := foldl (fun table (item : AppliedPolicyWindow) =>
    updateWindow table item.xid (appliedWindow item)) ordered policy
  exact (first.trans placed).trans (recomputeMapStates _ _)

theorem commitIntent {outputs : List RandROutputObject}
    {table next : ResourceTable} {entry : Nat × LifecycleWindow}
    (committed : ServerState.commitIntent outputs table entry = some next) :
    SameOwners table next := by
  obtain ⟨xid, intent⟩ := entry
  unfold ServerState.commitIntent at committed
  obtain ⟨window, _, committed⟩ := Option.bind_eq_some_iff.mp committed
  rw [ite_eq_iff] at committed
  obtain ⟨_, wrong⟩ | ⟨_, committed⟩ := committed
  · cases wrong
  simp only at committed
  split at committed
  · obtain ⟨scale, _, committed⟩ := Option.bind_eq_some_iff.mp committed
    obtain rfl := Option.some.inj committed
    exact updateWindow table xid _
  · obtain rfl := Option.some.inj committed
    exact updateWindow table xid _

theorem applyPolicy (state : ServerState) (policy : List AppliedPolicyWindow) :
    SameOwners state.resources (state.applyPolicy policy).2.resources := by
  unfold ServerState.applyPolicy
  simp only
  split
  · exact refl state.resources
  · split
    · exact refl state.resources
    · rename_i resources focusedWindow placed
      apply (applyPolicyState placed).trans
      apply foldl
      exact fun table placement => updateWindow table placement.1 _

theorem commitLifecycle (state : ServerState)
    (snapshot : LifecycleSnapshot) :
    SameOwners state.resources
      (state.commitLifecycle snapshot).2.resources := by
  rcases ServerState.commitLifecycle_cases state snapshot with
    same | ⟨resources, staged, written, applied, committed⟩
  · rw [same]
    exact refl state.resources
  · rw [committed]
    have placed := applyPolicy { state with resources }
      (snapshot.windows.toList.map ServerState.policyOf)
    rw [applied] at placed
    refine SameOwners.trans ?_ placed
    exact @foldlM_preserves _ _ _ (SameOwners state.resources)
      (fun _ _ _ before taken => before.trans (commitIntent taken)) _ _ _
      (refl state.resources) written

end SameOwners

/-! ## Runs -/

/-- The windows hang together, and every resource is told of its owner. -/
structure Consistent (table : ResourceTable) : Prop where
  tree : table.Tree
  indexed : table.Indexed

theorem emplace_lookup (resources : KeyMap ResourceRecord) (xid : Nat)
    (record : ResourceRecord) {id : Nat} {stored : ResourceRecord}
    (found : (emplace resources xid record)[id]? = some stored) :
    (id = xid ∧ stored = record) ∨ resources[id]? = some stored := by
  rw [emplace, Std.ExtTreeMap.getElem?_insertIfNew] at found
  split at found
  · rename_i new
    exact Or.inl ⟨(compare_eq_iff_eq.mp new.1).symm,
      (Option.some.inj found).symm⟩
  · exact Or.inr found

/-- The resources of the server itself. -/
theorem initial_lookup {screen : ScreenModel} {id : Nat}
    {record : ResourceRecord}
    (found : (initial screen).resources[id]? = some record) :
    record.owner = none ∧ (record.payload.window?.isSome = true ∨
      (id = screen.defaultColormap ∧ record.payload = .colormap) ∨
      (id = kDefaultFontXid ∧ record.payload = .font)) := by
  rcases emplace_lookup _ _ _ found with ⟨rfl, rfl⟩ | found
  · exact ⟨rfl, Or.inr (Or.inr ⟨rfl, rfl⟩)⟩
  rcases emplace_lookup _ _ _ found with ⟨rfl, rfl⟩ | found
  · exact ⟨rfl, Or.inr (Or.inl ⟨rfl, rfl⟩)⟩
  rcases emplace_lookup _ _ _ found with ⟨rfl, rfl⟩ | found
  · exact ⟨rfl, Or.inl rfl⟩
  · rw [Std.ExtTreeMap.getElem?_empty] at found
    cases found

theorem initial_indexed (screen : ScreenModel) :
    (initial screen).Indexed := by
  have nothing : ∀ owner : Nat, (initial screen).resourcesByOwner[owner]? =
      none := fun owner => Std.ExtTreeMap.getElem?_empty
  refine ⟨?_, ?_, ?_, ?_, ?_⟩
  · intro owner id
    rw [owned, nothing]
    refine ⟨fun member => absurd member List.not_mem_nil, ?_⟩
    intro ⟨record, found, owns⟩
    rw [(initial_lookup found).1] at owns
    cases owns
  · intro owner
    rw [owned, nothing]
    exact List.nodup_nil
  · intro owner
    rw [nothing]
    simp
  · exact fun record found => (initial_lookup found).1
  · exact fun id record found _ => (initial_lookup found).2

namespace Consistent

theorem fresh (consistent : table.Consistent)
    (absent : table.resources.contains xid = false) :
    table.resources[xid]? = none ∧ xid ≠ table.screen.rootWindow := by
  have missing : table.resources[xid]? = none :=
    Std.ExtTreeMap.getElem?_eq_none_of_contains_eq_false absent
  refine ⟨missing, ?_⟩
  rintro rfl
  obtain ⟨root, found⟩ := consistent.tree.rooted
  rw [findWindow, missing] at found
  cases found

theorem createWindow (consistent : table.Consistent)
    (owner resourceBase resourceMask : Nat) (spec : WindowCreateSpec) :
    (table.createWindow owner resourceBase resourceMask spec).2.Indexed := by
  rcases createWindow_cases table owner resourceBase resourceMask spec with
    same | ⟨window, parent, _, absent, _, _, _, _, same⟩
  · rw [same]
    exact consistent.indexed
  · rw [same]
    have fresh := consistent.fresh absent
    exact consistent.indexed.addWindow fresh.1 fresh.2

theorem createServerProxyWindow (consistent : table.Consistent)
    (xid : Nat) : (table.createServerProxyWindow xid).2.Indexed := by
  rcases createServerProxyWindow_cases table xid with
    same | ⟨window, _, absent, _, _, _, _, same⟩
  · rw [same]
    exact consistent.indexed
  · rw [same]
    have fresh := consistent.fresh absent
    exact consistent.indexed.addWindow fresh.1 fresh.2

theorem createResource (consistent : table.Consistent)
    (owner resourceBase resourceMask xid : Nat) (payload : ResourcePayload) :
    (table.createResource owner resourceBase resourceMask xid payload
      ).2.Indexed := by
  unfold ResourceTable.createResource
  split
  · exact consistent.indexed
  · rename_i valid
    simp only [validNewResourceId, Bool.or_eq_true, Bool.not_eq_true',
      Bool.and_eq_true, Bool.not_eq_false, not_or, Bool.not_eq_true] at valid
    have fresh := consistent.fresh valid.1.2
    exact consistent.indexed.push fresh.1 fresh.2

theorem commitDestroyPlan (consistent : table.Consistent)
    (plan : WindowDestroyPlan) :
    (table.commitDestroyPlan plan).2.Consistent :=
  have kept := @commitDestroyPlan_keeps table Indexed
    (fun _ xid _ _ indexed _ _ _ => Indexed.destroyLeaf indexed xid)
    consistent.tree consistent.indexed plan
  ⟨kept.1, kept.2⟩

theorem destroyWindow (consistent : table.Consistent) (xid : Nat) :
    (table.destroyWindow xid).2.Consistent :=
  have kept := @destroyWindow_keeps table Indexed
    (fun _ xid _ _ indexed _ _ _ => Indexed.destroyLeaf indexed xid)
    consistent.tree consistent.indexed xid
  ⟨kept.1, kept.2⟩

theorem destroyRoot (consistent : table.Consistent) (root : Nat) :
    (table.destroyRoot root).Consistent := by
  unfold ResourceTable.destroyRoot
  split
  · exact consistent.commitDestroyPlan _
  · exact consistent

theorem freeOwned (consistent : table.Consistent) (xid : Nat) :
    (table.freeOwned xid).Consistent where
  tree := consistent.tree.of_windows (by rw [freeOwned_screen])
    (findWindow_freeOwned table xid)
  indexed := consistent.indexed.freeOwned xid

theorem commitClientCleanup (consistent : table.Consistent)
    (plan : ClientCleanupPlan) :
    (table.commitClientCleanup plan).Consistent :=
  have destroyed : (plan.roots.foldl ResourceTable.destroyRoot table
      ).Consistent :=
    @run_preserves _ _ ResourceTable.destroyRoot ResourceTable.Consistent
      (fun _ root consistent => destroyRoot consistent root) _ consistent
      plan.roots
  @run_preserves _ _ ResourceTable.freeOwned ResourceTable.Consistent
    (fun _ xid consistent => freeOwned consistent xid) _ destroyed _

end Consistent

end ResourceTable

namespace ServerState

open ResourceTable

theorem commitCreateLifecycle_indexed {state : ServerState}
    (consistent : state.resources.Consistent)
    (owner resourceBase resourceMask : Nat) (spec : WindowCreateSpec)
    (creationSerial : Nat) (evaluated : LifecycleSnapshot) :
    (state.commitCreateLifecycle owner resourceBase resourceMask spec
      creationSerial evaluated).2.resources.Indexed := by
  have made := consistent.createWindow owner resourceBase resourceMask spec
  unfold commitCreateLifecycle
  split
  · rename_i created isCreated
    rw [isCreated] at made
    have committed := (made.updateWindow spec.xid _).congr
      (.commitLifecycle { state with
        resources := created.updateWindow spec.xid fun window =>
          { window with creationSerial } } evaluated)
    simp only
    split
    · exact consistent.indexed
    · rename_i staged same
      rw [same] at committed
      exact committed
  · exact consistent.indexed

theorem commitDestroyLifecycle_indexed {state : ServerState}
    (consistent : state.resources.Consistent) (xid : Nat)
    (evaluated : LifecycleSnapshot) :
    (state.commitDestroyLifecycle xid evaluated).2.resources.Indexed := by
  unfold commitDestroyLifecycle
  split
  · exact consistent.indexed
  · rename_i plan _
    have destroyed := (consistent.commitDestroyPlan plan).indexed
    split
    · rename_i resources gone
      rw [gone] at destroyed
      have committed := destroyed.congr
        (.commitLifecycle { state with resources } evaluated)
      split
      · exact consistent.indexed
      · rename_i staged same
        rw [same] at committed
        exact committed
    · exact consistent.indexed

theorem perform_indexed {state : ServerState}
    (consistent : state.resources.Consistent) (call : WindowCall) :
    (state.perform call).resources.Indexed := by
  have indexed := consistent.indexed
  cases call with
  | createWindow owner resourceBase resourceMask spec =>
      exact consistent.createWindow owner resourceBase resourceMask spec
  | createServerProxyWindow xid =>
      exact consistent.createServerProxyWindow xid
  | createResource owner resourceBase resourceMask xid payload =>
      exact consistent.createResource owner resourceBase resourceMask xid
        payload
  | freeOwned xid => exact indexed.freeOwned xid
  | configureLocal xid configure =>
      exact indexed.congr (.configureLocal _ xid configure)
  | setLocalMapIntent xid mapped =>
      exact indexed.congr (.setLocalMapIntent _ xid mapped)
  | updateScreenGeometry screen =>
      exact indexed.congr (.updateScreenGeometry _ screen)
  | installOutputs randr => exact indexed
  | applyPolicy policy => exact indexed.congr (.applyPolicy state policy)
  | commitLifecycle snapshot =>
      exact indexed.congr (.commitLifecycle state snapshot)
  | commitCreateLifecycle owner resourceBase resourceMask spec creationSerial
      evaluated =>
      exact commitCreateLifecycle_indexed consistent owner resourceBase
        resourceMask spec creationSerial evaluated
  | commitDestroyLifecycle xid evaluated =>
      exact commitDestroyLifecycle_indexed consistent xid evaluated
  | destroyWindow xid => exact (consistent.destroyWindow xid).indexed
  | commitClientCleanup plan =>
      exact (consistent.commitClientCleanup plan).indexed

theorem run_consistent {screen : ScreenModel} (real : screen.rootWindow ≠ 0)
    (calls : List WindowCall) :
    (run perform (initial screen) calls).resources.Consistent := by
  have both := @run_preserves _ _ perform (fun state =>
    state.resources.Sound ∧ state.resources.Indexed)
    (fun _ call holds => ⟨perform_sound holds.1 call,
      perform_indexed ⟨holds.1.tree, holds.2⟩ call⟩) (initial screen)
    ⟨initial_sound real, initial_indexed screen⟩ calls
  exact ⟨both.1.tree, both.2⟩

end ServerState

end Glasswyrm.Server
