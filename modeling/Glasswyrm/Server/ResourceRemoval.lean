import Glasswyrm.Server.OwnerIndex
import Glasswyrm.Server.WindowLineage

namespace Glasswyrm.Server

open Library

/-! What is destroyed leaves the table, and of what stays only the lists of
children change. -/

/-- A record without the windows that are gone. -/
def ResourceRecord.without (gone : List Nat) (record : ResourceRecord) :
    ResourceRecord :=
  match record.payload with
  | .window window =>
      { record with
        payload := .window { window with
          children := window.children.filter fun child => child ∉ gone } }
  | _ => record

namespace ResourceRecord

variable {record : ResourceRecord} {gone : List Nat}

@[simp] theorem without_owner : (record.without gone).owner = record.owner := by
  unfold without
  split <;> rfl

theorem without_nil : record.without [] = record := by
  obtain ⟨owner, payload⟩ := record
  cases payload <;> simp [without]

theorem without_append (first second : List Nat) :
    (record.without first).without second = record.without (first ++ second) :=
  by
  obtain ⟨owner, payload⟩ := record
  cases payload <;> simp [without, List.filter_filter, Bool.and_comm]

theorem without_plain (plain : record.payload.window? = none) :
    record.without gone = record := by
  obtain ⟨owner, payload⟩ := record
  cases payload with
  | window window => cases plain
  | _ => rfl

@[simp] theorem without_dependsOn (drawable : Nat) :
    (record.without gone).payload.dependsOn drawable =
      record.payload.dependsOn drawable := by
  obtain ⟨owner, payload⟩ := record
  cases payload <;> rfl

theorem without_window {window : WindowResource}
    (shown : record.payload.window? = some window) :
    (record.without gone).payload.window? = some { window with
      children := window.children.filter fun child => child ∉ gone } := by
  obtain ⟨owner, payload⟩ := record
  cases payload with
  | window other =>
      obtain rfl := Option.some.inj shown
      rfl
  | _ => cases shown

/-- Where no child is gone nothing changes. -/
theorem without_apart (apart : ∀ window, record.payload.window? = some window →
    ∀ child ∈ window.children, child ∉ gone) :
    record.without gone = record := by
  obtain ⟨owner, payload⟩ := record
  cases payload with
  | window window =>
      have all : (window.children.filter fun child => child ∉ gone) =
          window.children :=
        List.filter_eq_self.mpr fun child member =>
          decide_eq_true (apart window rfl child member)
      simp only [without, all]
  | _ => rfl

end ResourceRecord

namespace ResourceTable

/-- The resources of a list are destroyed, and no others. -/
structure Removes (gone : List Nat) (before after : ResourceTable) :
    Prop where
  screen : after.screen = before.screen
  distinct : gone.Nodup
  there : ∀ id ∈ gone, ∃ record, before.resources[id]? = some record
  records : ∀ id : Nat, after.resources[id]? =
    if id ∈ gone then none
    else (before.resources[id]?).map (·.without gone)

variable {table before middle after : ResourceTable} {gone : List Nat}
  {xid : Nat}

namespace Removes

theorem refl (table : ResourceTable) : Removes [] table table where
  screen := rfl
  distinct := List.nodup_nil
  there := List.forall_mem_nil _
  records := by
    intro id
    rw [if_neg List.not_mem_nil]
    cases table.resources[id]? with
    | none => rfl
    | some record => rw [Option.map_some, ResourceRecord.without_nil]

theorem trans {first second : List Nat} (early : Removes first before middle)
    (late : Removes second middle after) :
    Removes (first ++ second) before after where
  screen := late.screen.trans early.screen
  distinct := by
    refine List.nodup_append.mpr ⟨early.distinct, late.distinct, ?_⟩
    rintro id member other again rfl
    obtain ⟨record, found⟩ := late.there id again
    rw [early.records, if_pos member] at found
    cases found
  there := by
    intro id member
    rcases List.mem_append.mp member with member | member
    · exact early.there id member
    · obtain ⟨record, found⟩ := late.there id member
      rw [early.records] at found
      split at found
      · cases found
      · obtain ⟨former, isFormer, _⟩ := Option.map_eq_some_iff.mp found
        exact ⟨former, isFormer⟩
  records := by
    intro id
    rw [late.records, early.records]
    by_cases one : id ∈ first
    · rw [if_pos one, if_pos (List.mem_append_left _ one)]
      split <;> rfl
    · by_cases two : id ∈ second
      · rw [if_pos two, if_pos (List.mem_append_right _ two)]
      · have neither : id ∉ first ++ second := fun member =>
          (List.mem_append.mp member).elim one two
        rw [if_neg one, if_neg two, if_neg neither, Option.map_map]
        congr 1
        funext record
        exact ResourceRecord.without_append first second

theorem later (removes : Removes gone before after) {id : Nat}
    {record : ResourceRecord} (found : before.resources[id]? = some record)
    (stays : id ∉ gone) :
    after.resources[id]? = some (record.without gone) := by
  rw [removes.records, if_neg stays, found]
  rfl

theorem findWindow (removes : Removes gone before after) (id : Nat) :
    after.findWindow id = if id ∈ gone then none
      else (before.findWindow id).map fun window => { window with
        children := window.children.filter fun child => child ∉ gone } := by
  rw [ResourceTable.findWindow, removes.records]
  split
  · rfl
  · rw [ResourceTable.findWindow]
    cases found : before.resources[id]? with
    | none => rfl
    | some record =>
        rw [Option.map_some, Option.bind_some, Option.bind_some]
        cases shown : record.payload.window? with
        | none => rw [ResourceRecord.without_plain shown, shown]; rfl
        | some window => rw [ResourceRecord.without_window shown]; rfl

end Removes

/-! ## One resource -/

theorem updateWindow_lookup (change : WindowResource → WindowResource)
    (id : Nat) : (table.updateWindow xid change).resources[id]? =
      if id = xid then (table.resources[id]?).map fun record =>
        match record.payload with
        | .window window => { record with payload := .window (change window) }
        | _ => record
      else table.resources[id]? := by
  unfold updateWindow
  split
  · rename_i owner window found
    simp only [KeyMap.lookup_insert]
    by_cases same : xid = id
    · subst same
      simp [found]
    · rw [if_neg same, if_neg (Ne.symm same)]
  · rename_i absent
    split
    · rename_i same
      subst same
      cases found : table.resources[id]? with
      | none => rfl
      | some record =>
          obtain ⟨owner, payload⟩ := record
          cases payload with
          | window window => exact absurd found (absent owner window)
          | _ => rfl
    · rfl

/-- A resource without an owner, and a window, are not freed. -/
theorem freeResource_removes (tree : table.Tree) {record : ResourceRecord}
    {owner : Nat} (found : table.resources[xid]? = some record)
    (plain : record.payload.window? = none)
    (owns : record.owner = some owner) :
    Removes [xid] table (table.freeResource xid) := by
  refine ⟨freeResource_screen table xid, List.nodup_singleton _, ?_, ?_⟩
  · intro id member
    rw [List.mem_singleton.mp member]
    exact ⟨record, found⟩
  · intro id
    unfold freeResource
    rw [found]
    simp only [plain, owns, eraseOwned_resources, KeyMap.lookup_erase,
      List.mem_singleton]
    by_cases same : xid = id
    · rw [if_pos same, if_pos same.symm]
    · rw [if_neg same, if_neg (Ne.symm same)]
      cases isOther : table.resources[id]? with
      | none => rfl
      | some other =>
          rw [Option.map_some, ResourceRecord.without_apart]
          intro window shown child member gone
          obtain rfl := List.mem_singleton.mp gone
          have isWindow : table.findWindow id = some window := by
            rw [findWindow, isOther]
            exact shown
          obtain ⟨_, below, isBelow, _⟩ := tree.child isWindow member
          rw [findWindow, found, Option.bind_some, plain] at isBelow
          cases isBelow

theorem foldl_freeResource_removes (tree : table.Tree) {ids : List Nat}
    (distinct : ids.Nodup)
    (each : ∀ id ∈ ids, ∃ record owner, table.resources[id]? = some record ∧
      record.payload.window? = none ∧ record.owner = some owner) :
    Removes ids table (ids.foldl freeResource table) := by
  induction ids generalizing table with
  | nil => exact .refl table
  | cons id ids ih =>
      rw [List.foldl_cons]
      obtain ⟨head, tail⟩ := List.nodup_cons.mp distinct
      obtain ⟨⟨record, owner, found, plain, owns⟩, others⟩ :=
        List.forall_mem_cons.mp each
      have first := freeResource_removes tree found plain owns
      have next : (table.freeResource id).Tree :=
        tree.of_windows (by rw [freeResource_screen])
          (findWindow_freeResource table id)
      refine first.trans (ih next tail fun other member => ?_)
      obtain ⟨record, owner, isOther, plain, owns⟩ := others other member
      refine ⟨_, owner, first.later isOther ?_, ?_, ?_⟩
      · intro same
        rw [List.mem_singleton.mp same] at member
        exact head member
      · rw [ResourceRecord.without_plain plain]
        exact plain
      · rw [ResourceRecord.without_owner]
        exact owns

theorem mem_dependents {drawable id : Nat} :
    id ∈ table.dependents drawable ↔ ∃ record,
      table.resources[id]? = some record ∧
        record.payload.dependsOn drawable = true := by
  unfold dependents
  rw [List.mem_map]
  constructor
  · rintro ⟨⟨key, record⟩, member, rfl⟩
    obtain ⟨listed, depends⟩ := List.mem_filter.mp member
    exact ⟨record, KeyMap.mem_toList.mp listed, depends⟩
  · rintro ⟨record, found, depends⟩
    exact ⟨(id, record), List.mem_filter.mpr
      ⟨KeyMap.mem_toList.mpr found, depends⟩, rfl⟩

theorem dependents_nodup (drawable : Nat) :
    (table.dependents drawable).Nodup := by
  have ordered := (KeyMap.toList_pairwise table.resources).filter
    fun entry => entry.2.payload.dependsOn drawable
  refine List.pairwise_map.mpr (ordered.imp fun {first second} less => ?_)
  exact Nat.ne_of_lt less

theorem window_of_dependsOn {record : ResourceRecord} {drawable : Nat}
    (depends : record.payload.dependsOn drawable = true) :
    record.payload.window? = none := by
  obtain ⟨owner, payload⟩ := record
  cases payload with
  | window window => cases depends
  | _ => rfl

theorem removeForDrawable_removes (consistent : table.Consistent)
    (drawable : Nat) :
    Removes (table.dependents drawable) table
      (table.removeForDrawable drawable) := by
  apply foldl_freeResource_removes consistent.tree (dependents_nodup drawable)
  intro id member
  obtain ⟨record, found, depends⟩ := mem_dependents.mp member
  have plain := window_of_dependsOn depends
  cases owns : record.owner with
  | some owner => exact ⟨record, owner, found, plain, owns⟩
  | none =>
      rcases consistent.indexed.served id record found owns with
        shown | ⟨_, same⟩ | ⟨_, same⟩
      · rw [plain] at shown
        cases shown
      · rw [same] at depends
        cases depends
      · rw [same] at depends
        cases depends

theorem removeForDrawable_consistent (consistent : table.Consistent)
    (drawable : Nat) : (table.removeForDrawable drawable).Consistent where
  tree := consistent.tree.of_windows (by rw [removeForDrawable_screen])
    (findWindow_removeForDrawable table drawable)
  indexed := consistent.indexed.foldl_freeResource _

/-! ## A window without children -/

/-- With a window goes what depends on it. -/
theorem destroyLeaf_removes (consistent : table.Consistent)
    {window : WindowResource} (found : table.findWindow xid = some window)
    (away : xid ≠ table.screen.rootWindow) :
    Removes (table.dependents xid ++ [xid]) table (table.destroyLeaf xid) := by
  have first := removeForDrawable_removes consistent xid
  have tree := (removeForDrawable_consistent consistent xid).tree
  have here : (table.removeForDrawable xid).findWindow xid = some window := by
    rw [findWindow_removeForDrawable]
    exact found
  refine first.trans ⟨?_, List.nodup_singleton _, ?_, ?_⟩
  · rw [destroyLeaf_screen, removeForDrawable_screen]
  · intro id member
    rw [List.mem_singleton.mp member]
    obtain ⟨record, isRecord, _⟩ := Option.bind_eq_some_iff.mp here
    exact ⟨record, isRecord⟩
  · intro id
    have records : (table.destroyLeaf xid).resources =
        ((table.removeForDrawable xid).updateWindow window.parent
          fun parent => { parent with
            children := withoutChild parent.children xid }
          ).resources.erase xid := by
      unfold destroyLeaf
      rw [found]
      simp only [if_neg away]
      cases table.resources[xid]?.bind (·.owner) with
      | none => rfl
      | some owner => simp only [eraseOwned_resources]
    rw [records, KeyMap.lookup_erase]
    simp only [List.mem_singleton]
    by_cases same : xid = id
    · rw [if_pos same, if_pos same.symm]
    · rw [if_neg same, if_neg (Ne.symm same), updateWindow_lookup]
      cases isOther : (table.removeForDrawable xid).resources[id]? with
      | none => split <;> rfl
      | some record =>
          have shown : ∀ other, record.payload.window? = some other →
              (table.removeForDrawable xid).findWindow id = some other := by
            intro other shown
            rw [findWindow, isOther]
            exact shown
          split
          · rw [Option.map_some, Option.map_some]
            refine congrArg some ?_
            obtain ⟨owner, payload⟩ := record
            cases payload with
            | window other =>
                simp only [ResourceRecord.without, List.mem_singleton,
                  withoutChild_eq (tree.distinct (shown other rfl)), ne_eq,
                  decide_not]
            | _ => rfl
          · rename_i elsewhere
            rw [Option.map_some, ResourceRecord.without_apart]
            intro other isShown child member gone
            obtain rfl := List.mem_singleton.mp gone
            obtain ⟨_, below, isBelow, parent⟩ :=
              tree.child (shown other isShown) member
            rw [here] at isBelow
            obtain rfl := Option.some.inj isBelow
            exact elsewhere parent.symm

end ResourceTable

end Glasswyrm.Server
