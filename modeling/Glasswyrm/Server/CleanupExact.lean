import Glasswyrm.Server.ClientCleanup

namespace Glasswyrm.Server

open Library
open X11 (ScreenModel)

/-! What the end of a client takes from the table: what it owns, what is below
its windows, and what depends on any of these. -/

namespace ResourceTable

variable {table before after : ResourceTable} {gone : List Nat} {xid : Nat}

/-! ## One root after the other -/

/-- The paths of the windows that are left lead through such windows only. -/
theorem Removes.onPath_iff (removes : Removes gone before after)
    (tree : after.Tree) {id upper : Nat} (stays : id ∉ gone)
    (known : ∃ window, before.findWindow id = some window) :
    after.OnPath id upper ↔ before.OnPath id upper := by
  constructor
  · intro passes
    clear stays known
    induction passes with
    | self id => exact .self id
    | @above id upper window found inner _ ih =>
        rw [removes.findWindow] at found
        split at found
        · cases found
        · obtain ⟨former, isFormer, rfl⟩ := Option.map_eq_some_iff.mp found
          exact .above isFormer (by rw [← removes.screen]; exact inner) ih
  · intro passes
    induction passes with
    | self id => exact .self id
    | @above id upper window found inner _ ih =>
        have still := removes.findWindow id
        rw [if_neg stays, found, Option.map_some] at still
        have away : id ≠ after.screen.rootWindow := by
          rw [removes.screen]
          exact inner
        obtain ⟨above, isAbove, _⟩ := tree.listed still away
        rw [removes.findWindow] at isAbove
        split at isAbove
        · cases isAbove
        · rename_i stays
          obtain ⟨former, isFormer, _⟩ := Option.map_eq_some_iff.mp isAbove
          exact .above still away (ih stays ⟨former, isFormer⟩)

theorem Removes.mem_dependents (removes : Removes gone before after)
    {drawable id : Nat} : id ∈ after.dependents drawable ↔
      id ∉ gone ∧ id ∈ before.dependents drawable := by
  rw [ResourceTable.mem_dependents, ResourceTable.mem_dependents,
    removes.records]
  split <;> rename_i there <;> simp [there]

/-- What goes with a window that is left, or is gone already. -/
theorem Removes.goesWith_iff (removes : Removes gone before after)
    (tree : after.Tree) (closed : ∀ lower window, lower ∈ gone →
      before.findWindow lower = some window →
        ∀ id ∈ before.dependents lower, id ∈ gone)
    {root : Nat} {window : WindowResource}
    (found : after.findWindow root = some window) {id : Nat} :
    (id ∈ gone ∨ after.GoesWith root id) ↔
      (id ∈ gone ∨ before.GoesWith root id) := by
  have isBefore : ∃ window, before.findWindow root = some window := by
    rw [removes.findWindow] at found
    split at found
    · cases found
    · obtain ⟨former, isFormer, _⟩ := Option.map_eq_some_iff.mp found
      exact ⟨former, isFormer⟩
  have known : ∀ lower, before.OnPath lower root →
      ∃ window, before.findWindow lower = some window := by
    intro lower passes
    cases passes with
    | self => exact isBefore
    | above isLower _ _ => exact ⟨_, isLower⟩
  have rest : ∀ lower, after.OnPath lower root → lower ∉ gone ∧
      ∃ window, before.findWindow lower = some window := by
    intro lower passes
    have there : ∃ window, after.findWindow lower = some window := by
      cases passes with
      | self => exact ⟨window, found⟩
      | above isLower _ _ => exact ⟨_, isLower⟩
    obtain ⟨other, isOther⟩ := there
    rw [removes.findWindow] at isOther
    split at isOther
    · cases isOther
    · rename_i stays
      obtain ⟨former, isFormer, _⟩ := Option.map_eq_some_iff.mp isOther
      exact ⟨stays, former, isFormer⟩
  by_cases there : id ∈ gone
  · simp only [there, true_or]
  · simp only [there, false_or]
    constructor
    · rintro (passes | ⟨lower, passes, depends⟩)
      · obtain ⟨stays, former⟩ := rest id passes
        exact Or.inl ((removes.onPath_iff tree stays former).mp passes)
      · obtain ⟨stays, former⟩ := rest lower passes
        exact Or.inr ⟨lower, (removes.onPath_iff tree stays former).mp passes,
          (removes.mem_dependents.mp depends).2⟩
    · rintro (passes | ⟨lower, passes, depends⟩)
      · exact Or.inl ((removes.onPath_iff tree there (known id passes)).mpr
          passes)
      · obtain ⟨former, isFormer⟩ := known lower passes
        have stays : lower ∉ gone := fun member =>
          there (closed lower former member isFormer id depends)
        exact Or.inr ⟨lower, (removes.onPath_iff tree stays
          ⟨former, isFormer⟩).mpr passes,
            removes.mem_dependents.mpr ⟨there, depends⟩⟩

theorem GoesWith.trans {root upper id : Nat} (goes : table.GoesWith upper id)
    (passes : table.OnPath upper root) : table.GoesWith root id := by
  rcases goes with below | ⟨lower, below, depends⟩
  · exact Or.inl (onPath_trans below passes)
  · exact Or.inr ⟨lower, onPath_trans below passes, depends⟩

theorem destroyRoots_removes (consistent : table.Consistent) {roots : List Nat}
    (windows : ∀ root ∈ roots, root ≠ table.screen.rootWindow ∧
      ∃ window, table.findWindow root = some window) :
    (roots.foldl destroyRoot table).Consistent ∧
      ∃ gone, Removes gone table (roots.foldl destroyRoot table) ∧
        (∀ id, id ∈ gone ↔ ∃ root ∈ roots, table.GoesWith root id) ∧
        ∀ count, roots.foldl destroyRootCounted (count, table) =
          (count + gone.length, roots.foldl destroyRoot table) := by
  induction roots using List.reverseRecOn with
  | nil => exact ⟨consistent, [], .refl table, by simp, fun _ => rfl⟩
  | append_singleton roots last ih =>
      obtain ⟨reached, gone, removes, members, counted⟩ :=
        ih fun root member => windows root (List.mem_append_left _ member)
      obtain ⟨away, window, found⟩ :=
        windows last (List.mem_append_right _ List.mem_cons_self)
      have more : ∀ id, (id ∈ gone ∨ table.GoesWith last id) ↔
          ∃ root ∈ roots ++ [last], table.GoesWith root id := by
        intro id
        rw [members]
        simp only [List.mem_append, List.mem_singleton, or_and_right,
          exists_or, exists_eq_left]
      have closed : ∀ lower window, lower ∈ gone →
          table.findWindow lower = some window →
            ∀ id ∈ table.dependents lower, id ∈ gone := by
        intro lower window member isLower id depends
        obtain ⟨root, listed, goes⟩ := (members lower).mp member
        rcases goes with passes | ⟨other, _, other_depends⟩
        · exact (members id).mpr ⟨root, listed, Or.inr ⟨lower, passes,
            depends⟩⟩
        · obtain ⟨record, isRecord, plain⟩ := mem_dependents.mp other_depends
          rw [findWindow, isRecord, Option.bind_some,
            window_of_dependsOn plain] at isLower
          cases isLower
      rw [List.foldl_append, List.foldl_cons, List.foldl_nil]
      have still := removes.findWindow last
      by_cases there : last ∈ gone
      · rw [if_pos there] at still
        have nothing : (roots.foldl destroyRoot table).captureDestroyPlan
            last = none := by
          simp [captureDestroyPlan, still]
        refine ⟨?_, gone, ?_, fun id => ?_, fun count => ?_⟩
        · rw [destroyRoot, nothing]
          exact reached
        · rw [destroyRoot, nothing]
          exact removes
        · rw [← more]
          refine ⟨Or.inl, ?_⟩
          rintro (already | goes)
          · exact already
          · obtain ⟨root, listed, passes⟩ := (members last).mp there
            rcases passes with passes | ⟨lower, _, depends⟩
            · exact (members id).mpr ⟨root, listed, goes.trans passes⟩
            · obtain ⟨record, isRecord, plain⟩ := mem_dependents.mp depends
              rw [findWindow, isRecord, Option.bind_some,
                window_of_dependsOn plain] at found
              cases found
        · rw [List.foldl_append, List.foldl_cons, List.foldl_nil, counted,
            destroyRootCounted, destroyRoot, nothing]
      · rw [if_neg there, found, Option.map_some] at still
        obtain ⟨plan, own, captured, _, _, _, _, next, ends, goes, further⟩ :=
          commitDestroyPlan_removes reached still
            (by rw [removes.screen]; exact away)
        have same : (roots.foldl destroyRoot table).destroyRoot last =
            ((roots.foldl destroyRoot table).commitDestroyPlan plan).2 := by
          rw [destroyRoot, captured]
        rw [same]
        refine ⟨next, _, removes.trans ends, fun id => ?_, fun count => ?_⟩
        · rw [← more, List.mem_append, goes]
          exact removes.goesWith_iff reached.tree closed still
        · rw [List.foldl_append, List.foldl_cons, List.foldl_nil, counted,
            destroyRootCounted, captured]
          simp only
          rw [further, List.length_append, Nat.add_assoc]

/-! ## The rest of the resources -/

/-- What goes with a resource that is no window. -/
def companions (table : ResourceTable) (xid : Nat) : List Nat :=
  match table.resources[xid]? with
  | some ⟨_, .pixmap⟩ => table.dependents xid
  | _ => []

theorem mem_companions {id : Nat} : id ∈ table.companions xid ↔
    (∃ owner, table.resources[xid]? = some ⟨owner, .pixmap⟩) ∧
      id ∈ table.dependents xid := by
  unfold companions
  split
  · rename_i owner found
    rw [found]
    exact ⟨fun member => ⟨⟨owner, rfl⟩, member⟩, And.right⟩
  · rename_i other
    refine ⟨fun nothing => absurd nothing List.not_mem_nil, ?_⟩
    rintro ⟨⟨owner, found⟩, _⟩
    exact absurd found (other owner)

theorem freeOwned_removes (consistent : table.Consistent)
    {record : ResourceRecord} {owner : Nat}
    (found : table.resources[xid]? = some record)
    (plain : record.payload.window? = none)
    (owns : record.owner = some owner) :
    Removes (table.companions xid ++ [xid]) table (table.freeOwned xid) := by
  obtain ⟨own, payload⟩ := record
  unfold freeOwned companions
  rw [found]
  cases payload with
  | pixmap =>
      have first := removeForDrawable_removes consistent xid
      have stays : xid ∉ table.dependents xid := by
        intro member
        obtain ⟨record, isRecord, depends⟩ := mem_dependents.mp member
        rw [found] at isRecord
        rw [← Option.some.inj isRecord] at depends
        cases depends
      have still := first.later found stays
      rw [ResourceRecord.without_plain plain] at still
      exact first.trans (freeResource_removes
        (removeForDrawable_consistent consistent xid).tree still plain owns)
  | window window => cases plain
  | _ => exact freeResource_removes consistent.tree found plain owns

/-- The pixmaps of a list are destroyed with what depends on them. -/
theorem freeAll_removes (consistent : table.Consistent) {ids : List Nat}
    (distinct : ids.Nodup)
    (each : ∀ id ∈ ids, ∃ record owner, table.resources[id]? = some record ∧
      record.payload.window? = none ∧ record.owner = some owner) :
    (ids.foldl freeOwned table).Consistent ∧
      ∃ gone, Removes gone table (ids.foldl freeOwned table) ∧
        (∀ id, id ∈ gone ↔
          id ∈ ids ∨ ∃ pixmap ∈ ids, id ∈ table.companions pixmap) ∧
        ∀ count, ids.foldl freeOwnedCounted (count, table) =
          (count + ids.length, ids.foldl freeOwned table) := by
  induction ids using List.reverseRecOn with
  | nil => exact ⟨consistent, [], .refl table, by simp, fun _ => rfl⟩
  | append_singleton ids last ih =>
      obtain ⟨early, _, unlike⟩ := List.nodup_append.mp distinct
      obtain ⟨reached, gone, removes, members, counted⟩ :=
        ih early fun id member => each id (List.mem_append_left _ member)
      obtain ⟨record, owner, found, plain, owns⟩ :=
        each last (List.mem_append_right _ List.mem_cons_self)
      have count : ∀ count, (ids ++ [last]).foldl freeOwnedCounted
          (count, table) = (count + (ids ++ [last]).length,
            (ids.foldl freeOwned table).freeOwned last) := by
        intro count
        rw [List.foldl_append, List.foldl_cons, List.foldl_nil, counted,
          freeOwnedCounted, List.length_append, List.length_singleton,
          Nat.add_assoc]
      have companion : ∀ id, (id ∈ ids ++ [last] ∨ ∃ pixmap ∈ ids ++ [last],
          id ∈ table.companions pixmap) ↔
            id ∈ gone ∨ id = last ∨ id ∈ table.companions last := by
        intro id
        rw [members]
        simp only [List.mem_append, List.mem_singleton, or_and_right,
          exists_or, exists_eq_left]
        exact or_or_or_comm
      simp only [companion]
      rw [List.foldl_append, List.foldl_cons, List.foldl_nil]
      by_cases there : last ∈ gone
      · have absent : (ids.foldl freeOwned table).resources[last]? = none := by
          rw [removes.records, if_pos there]
        have idle : (ids.foldl freeOwned table).freeOwned last =
            ids.foldl freeOwned table := by
          rw [freeOwned, absent]
          simp only [freeResource, absent]
        -- what is gone already went with a pixmap, and is none itself
        have none_more : table.companions last = [] := by
          rcases (members last).mp there with again | ⟨pixmap, _, depends⟩
          · exact absurd rfl (unlike last again last List.mem_cons_self)
          · refine List.eq_nil_iff_forall_not_mem.mpr fun id member => ?_
            obtain ⟨record, isRecord, depends⟩ :=
              mem_dependents.mp (mem_companions.mp depends).2
            obtain ⟨own, isPixmap⟩ := (mem_companions.mp member).1
            rw [isPixmap] at isRecord
            rw [← Option.some.inj isRecord] at depends
            cases depends
        refine ⟨?_, gone, ?_, ?_, ?_⟩
        · rw [idle]
          exact reached
        · rw [idle]
          exact removes
        · intro id
          rw [none_more]
          constructor
          · exact Or.inl
          · rintro (already | rfl | wrong)
            · exact already
            · exact there
            · cases wrong
        · exact count
      · have still := removes.later found there
        rw [ResourceRecord.without_plain plain] at still
        have next := freeOwned_removes reached still plain owns
        refine ⟨reached.freeOwned last, _, removes.trans next, ?_, count⟩
        intro id
        have more : id ∈ (ids.foldl freeOwned table).companions last ↔
            id ∉ gone ∧ id ∈ table.companions last := by
          rw [mem_companions, mem_companions, removes.mem_dependents, still,
            found, and_left_comm]
        rw [List.mem_append, List.mem_append, more, List.mem_singleton]
        by_cases already : id ∈ gone
        · simp only [already, true_or]
        · simp only [already, false_or, not_false_eq_true, true_and]
          exact or_comm

/-! ## Both together -/

/-- What the end of a client takes with it. -/
def Leaves (table : ResourceTable) (owner id : Nat) : Prop :=
  id ∈ table.owned owner ∨ ∃ upper ∈ table.owned owner,
    ((∃ window, table.findWindow upper = some window) ∧
      table.GoesWith upper id) ∨ id ∈ table.companions upper

theorem dependsOn_once {first second : Nat} {payload : ResourcePayload}
    (one : payload.dependsOn first = true)
    (other : payload.dependsOn second = true) : first = second := by
  cases payload with
  | damage drawable =>
      exact (of_decide_eq_true one).symm.trans (of_decide_eq_true other)
  | picture source =>
      cases source with
      | drawable drawable =>
          exact (of_decide_eq_true one).symm.trans (of_decide_eq_true other)
      | _ => cases one
  | _ => cases one

/-- With a window go no pixmaps, and nothing that depends on one. -/
theorem pixmap_apart {root pixmap : Nat} {window : WindowResource}
    (found : table.findWindow root = some window) {own : Option Nat}
    (isPixmap : table.resources[pixmap]? = some ⟨own, .pixmap⟩) :
    ¬table.GoesWith root pixmap ∧
      ∀ id ∈ table.dependents pixmap, ¬table.GoesWith root id := by
  have noWindow : ∀ id record, table.resources[id]? = some record →
      record.payload.window? = none → ¬table.OnPath id root := by
    intro id record isRecord plain passes
    have known : ∃ window, table.findWindow id = some window := by
      cases passes with
      | self => exact ⟨window, found⟩
      | above isLower _ _ => exact ⟨_, isLower⟩
    obtain ⟨other, isOther⟩ := known
    rw [findWindow, isRecord, Option.bind_some, plain] at isOther
    cases isOther
  constructor
  · rintro (passes | ⟨lower, _, depends⟩)
    · exact noWindow pixmap _ isPixmap rfl passes
    · obtain ⟨record, isRecord, depends⟩ := mem_dependents.mp depends
      rw [isPixmap] at isRecord
      rw [← Option.some.inj isRecord] at depends
      cases depends
  · intro id member
    obtain ⟨record, isRecord, depends⟩ := mem_dependents.mp member
    rintro (passes | ⟨lower, passes, again⟩)
    · exact noWindow id record isRecord (window_of_dependsOn depends) passes
    · obtain ⟨other, isOther, again⟩ := mem_dependents.mp again
      rw [isRecord] at isOther
      rw [← Option.some.inj isOther] at again
      obtain rfl := dependsOn_once depends again
      exact noWindow pixmap _ isPixmap rfl passes

theorem SameShape.companions_of (same : SameShape before after) {pixmap : Nat}
    (member : xid ∈ before.companions pixmap) :
    xid ∈ after.companions pixmap := by
  obtain ⟨⟨own, isPixmap⟩, depends⟩ := mem_companions.mp member
  obtain ⟨⟨other, payload⟩, isOther, alike⟩ := same.symm.former isPixmap
  have plain := ownership_plain alike rfl
  simp only at plain
  rw [plain] at isOther
  exact mem_companions.mpr ⟨⟨other, isOther⟩, same.depends depends⟩

theorem SameShape.leaves (same : SameShape before after) {owner : Nat}
    (leaves : before.Leaves owner xid) : after.Leaves owner xid := by
  rcases leaves with owns | ⟨upper, owns, ⟨⟨window, found⟩, goes⟩ | member⟩
  · exact Or.inl (by rw [same.owned]; exact owns)
  · obtain ⟨other, isOther, _⟩ := same.found found
    exact Or.inr ⟨upper, by rw [same.owned]; exact owns,
      Or.inl ⟨⟨other, isOther⟩, same.goesWith.mpr goes⟩⟩
  · exact Or.inr ⟨upper, by rw [same.owned]; exact owns,
      Or.inr (same.companions_of member)⟩

section

variable {plan : ClientCleanupPlan} {middle : ResourceTable}

/-- What the client still owns when its windows are gone. -/
theorem Removes.mem_owned (removes : Removes gone table middle)
    (consistent : table.Consistent) (reached : middle.Consistent)
    {owner : Nat} : xid ∈ middle.owned owner ↔
      xid ∉ gone ∧ xid ∈ table.owned owner := by
  rw [ResourceTable.mem_owned reached, ResourceTable.mem_owned consistent,
    removes.records]
  split
  · rename_i there
    simp [there]
  · rename_i stays
    simp only [stays, not_false_eq_true, true_and]
    constructor
    · rintro ⟨record, found, owns⟩
      obtain ⟨former, isFormer, rfl⟩ := Option.map_eq_some_iff.mp found
      rw [ResourceRecord.without_owner] at owns
      exact ⟨former, isFormer, owns⟩
    · rintro ⟨record, found, owns⟩
      refine ⟨record.without gone, by rw [found, Option.map_some], ?_⟩
      rw [ResourceRecord.without_owner]
      exact owns

theorem Removes.mem_companions (removes : Removes gone table middle)
    {pixmap : Nat} : xid ∈ middle.companions pixmap ↔
      pixmap ∉ gone ∧ xid ∉ gone ∧ xid ∈ table.companions pixmap := by
  have pixmaps : (∃ owner, middle.resources[pixmap]? =
      some ⟨owner, .pixmap⟩) ↔ pixmap ∉ gone ∧
        ∃ owner, table.resources[pixmap]? = some ⟨owner, .pixmap⟩ := by
    rw [removes.records]
    split
    · rename_i there
      simp [there]
    · rename_i stays
      simp only [stays, not_false_eq_true, true_and]
      refine exists_congr fun owner => ?_
      constructor
      · intro found
        obtain ⟨⟨other, payload⟩, isFormer, same⟩ :=
          Option.map_eq_some_iff.mp found
        rw [isFormer]
        cases payload <;> cases same
        rfl
      · intro found
        rw [found]
        rfl
  rw [ResourceTable.mem_companions, ResourceTable.mem_companions, pixmaps,
    removes.mem_dependents]
  exact ⟨fun ⟨⟨a, b⟩, c, d⟩ => ⟨a, c, b, d⟩, fun ⟨a, c, b, d⟩ => ⟨⟨a, b⟩, c, d⟩⟩

theorem commitClientCleanup_removes (consistent : table.Consistent)
    (roots : ∀ root ∈ plan.roots, root ∈ table.owned plan.owner ∧
      ∃ window, table.findWindow root = some window)
    (covers : ∀ upper ∈ table.owned plan.owner, ∀ window,
      table.findWindow upper = some window →
        ∃ root ∈ plan.roots, table.OnPath upper root) :
    (table.commitClientCleanup plan).Consistent ∧ ∃ gone reported,
      Removes gone table (table.commitClientCleanup plan) ∧
      (∀ id, id ∈ gone ↔ table.Leaves plan.owner id) ∧
      table.commitClientCleanupCounted plan =
        (reported, table.commitClientCleanup plan) ∧
      reported ≤ gone.length ∧
      (reported = gone.length ↔ ∀ pixmap ∈ table.owned plan.owner,
        ∀ id ∈ table.companions pixmap, id ∈ table.owned plan.owner) := by
  obtain ⟨reached, lost, first, goes, counted⟩ :=
    destroyRoots_removes consistent fun root member =>
      ⟨owned_away consistent (roots root member).1, (roots root member).2⟩
  have left : ∀ id, id ∈ (plan.roots.foldl destroyRoot table).owned
      plan.owner ↔ id ∉ lost ∧ id ∈ table.owned plan.owner := by
    intro id
    exact first.mem_owned consistent reached
  have covered : ∀ upper ∈ table.owned plan.owner, ∀ window,
      table.findWindow upper = some window → ∀ id, table.GoesWith upper id →
        id ∈ lost := by
    intro upper owns window found id below
    obtain ⟨root, member, passes⟩ := covers upper owns window found
    exact (goes id).mpr ⟨root, member, below.trans passes⟩
  have kept : ∀ pixmap ∈ table.owned plan.owner,
      ∀ id ∈ table.companions pixmap, pixmap ∉ lost ∧ id ∉ lost := by
    intro pixmap owns id member
    obtain ⟨⟨own, isPixmap⟩, depends⟩ := mem_companions.mp member
    constructor
    · intro gone
      obtain ⟨root, member, below⟩ := (goes pixmap).mp gone
      obtain ⟨window, found⟩ := (roots root member).2
      exact (pixmap_apart found isPixmap).1 below
    · intro gone
      obtain ⟨root, member, below⟩ := (goes id).mp gone
      obtain ⟨window, found⟩ := (roots root member).2
      exact (pixmap_apart found isPixmap).2 id depends below
  obtain ⟨after, rest, second, others, further⟩ := freeAll_removes reached
    (reached.indexed.once plan.owner) (by
      intro id member
      obtain ⟨stays, owns⟩ := (left id).mp member
      obtain ⟨record, found, owner⟩ :=
        (ResourceTable.mem_owned reached).mp member
      refine ⟨record, plan.owner, found, ?_, owner⟩
      rw [Option.eq_none_iff_forall_ne_some]
      intro window shown
      have isWindow : (plan.roots.foldl destroyRoot table).findWindow id =
          some window := by
        rw [findWindow, found]
        exact shown
      rw [first.findWindow, if_neg stays] at isWindow
      obtain ⟨former, isFormer, _⟩ := Option.map_eq_some_iff.mp isWindow
      exact stays (covered id owns former isFormer id (Or.inl (.self id))))
  have whole : table.commitClientCleanup plan =
      ((plan.roots.foldl destroyRoot table).owned plan.owner).foldl freeOwned
        (plan.roots.foldl destroyRoot table) := rfl
  have removed : ∀ id, id ∈ rest ↔
      (id ∉ lost ∧ id ∈ table.owned plan.owner) ∨
        ∃ pixmap ∈ table.owned plan.owner, id ∈ table.companions pixmap := by
    intro id
    rw [others, left]
    apply or_congr_right
    constructor
    · rintro ⟨pixmap, owns, member⟩
      exact ⟨pixmap, ((left pixmap).mp owns).2,
        (first.mem_companions.mp member).2.2⟩
    · rintro ⟨pixmap, owns, member⟩
      obtain ⟨stays, apart⟩ := kept pixmap owns id member
      exact ⟨pixmap, (left pixmap).mpr ⟨stays, owns⟩,
        first.mem_companions.mpr ⟨stays, apart, member⟩⟩
  have few : (plan.roots.foldl destroyRoot table).owned plan.owner ⊆ rest :=
    fun id member => (others id).mpr (Or.inl member)
  have once := reached.indexed.once plan.owner
  rw [whole]
  refine ⟨after, lost ++ rest, lost.length +
    ((plan.roots.foldl destroyRoot table).owned plan.owner).length,
    first.trans second, ?_, ?_, ?_, ?_⟩
  · intro id
    rw [List.mem_append, goes, removed]
    constructor
    · rintro (⟨root, member, below⟩ | ⟨_, owns⟩ | ⟨pixmap, owns, member⟩)
      · exact Or.inr ⟨root, (roots root member).1,
          Or.inl ⟨(roots root member).2, below⟩⟩
      · exact Or.inl owns
      · exact Or.inr ⟨pixmap, owns, Or.inr member⟩
    · rintro (owns | ⟨upper, owns, ⟨⟨window, found⟩, below⟩ | member⟩)
      · rw [← goes]
        by_cases gone : id ∈ lost
        · exact Or.inl gone
        · exact Or.inr (Or.inl ⟨gone, owns⟩)
      · rw [← goes]
        exact Or.inl (covered upper owns window found id below)
      · exact Or.inr (Or.inr ⟨upper, owns, member⟩)
  · rw [commitClientCleanupCounted, counted, Nat.zero_add]
    exact further lost.length
  · rw [List.length_append]
    exact Nat.add_le_add_left (once.subperm few).length_le _
  · rw [List.length_append, Nat.add_right_inj]
    constructor
    · intro same pixmap owns id member
      have all : rest ⊆
          (plan.roots.foldl destroyRoot table).owned plan.owner :=
        ((once.subperm few).perm_of_length_le (Nat.le_of_eq same.symm)
          ).symm.subset
      have listed := (removed id).mpr (Or.inr ⟨pixmap, owns, member⟩)
      exact ((left id).mp (all listed)).2
    · intro own
      have all : rest ⊆
          (plan.roots.foldl destroyRoot table).owned plan.owner := by
        intro id member
        rcases (removed id).mp member with there | ⟨pixmap, owns, listed⟩
        · exact (left id).mpr there
        · exact (left id).mpr
            ⟨(kept pixmap owns id listed).2, own pixmap owns id listed⟩
      exact Nat.le_antisymm (once.subperm few).length_le
        (second.distinct.subperm all).length_le

end

theorem deselected_owner (client : Nat) (record : ResourceRecord) :
    (record.deselected client).owner = record.owner := by
  obtain ⟨owner, payload⟩ := record
  cases payload <;> rfl

theorem deselected_selections {client : Nat} {record : ResourceRecord}
    {gone : List Nat} {window : WindowResource}
    (shown : ((record.deselected client).without gone).payload.window? =
      some window) : window.eventSelections[client]? = none ∧
        window.scale.eventSelections[client]? = none := by
  obtain ⟨owner, payload⟩ := record
  cases payload with
  | window former =>
      obtain rfl := Option.some.inj shown
      exact ⟨Std.ExtTreeMap.getElem?_erase_self,
        Std.ExtTreeMap.getElem?_erase_self⟩
  | _ => cases shown

/-- Nothing is left that depends on a drawable that is gone. -/
theorem Leaves.dependents {owner id drawable : Nat}
    (leaves : table.Leaves owner drawable)
    (depends : id ∈ table.dependents drawable)
    (kind : (∃ window, table.findWindow drawable = some window) ∨
      ∃ own, table.resources[drawable]? = some ⟨own, .pixmap⟩) :
    table.Leaves owner id := by
  rcases kind with ⟨window, found⟩ | ⟨own, isPixmap⟩
  · have plain : ∀ other, drawable ∉ table.dependents other := by
      intro other member
      obtain ⟨record, isRecord, depends⟩ := mem_dependents.mp member
      rw [findWindow, isRecord, Option.bind_some,
        window_of_dependsOn depends] at found
      cases found
    rcases leaves with owns | ⟨upper, owns, ⟨isWindow, goes⟩ | member⟩
    · exact Or.inr ⟨drawable, owns, Or.inl ⟨⟨window, found⟩,
        Or.inr ⟨drawable, .self drawable, depends⟩⟩⟩
    · rcases goes with passes | ⟨lower, _, wrong⟩
      · exact Or.inr ⟨upper, owns, Or.inl ⟨isWindow,
          Or.inr ⟨drawable, passes, depends⟩⟩⟩
      · exact absurd wrong (plain lower)
    · exact absurd (mem_companions.mp member).2 (plain upper)
  · rcases leaves with owns | ⟨upper, owns, ⟨⟨window, found⟩, goes⟩ | member⟩
    · exact Or.inr ⟨drawable, owns, Or.inr (mem_companions.mpr
        ⟨⟨own, isPixmap⟩, depends⟩)⟩
    · exact absurd goes (pixmap_apart found isPixmap).1
    · obtain ⟨record, isRecord, wrong⟩ :=
        mem_dependents.mp (mem_companions.mp member).2
      rw [isPixmap] at isRecord
      rw [← Option.some.inj isRecord] at wrong
      cases wrong

end ResourceTable

open ResourceTable

/-- The end of a client leaves nothing of it, and of everything else all but
the windows that are gone. -/
theorem cleanupClient_exact (table : ResourceTable)
    (consistent : table.Consistent) (owner : Nat) :
    let after := (table.cleanupClient owner).2
    let reported := (table.cleanupClient owner).1
    ∃ gone, gone.Nodup ∧
      (∀ id, id ∈ gone ↔ table.Leaves owner id) ∧
      (∀ id ∈ gone, ∃ record, table.resources[id]? = some record) ∧
      (∀ id : Nat, after.resources[id]? = if id ∈ gone then none
        else (table.resources[id]?).map fun record =>
          (record.deselected owner).without gone) ∧
      after.resourcesByOwner[owner]? = none ∧
      (∀ (id : Nat) record, after.resources[id]? = some record →
        record.owner ≠ some owner) ∧
      (∀ id window, after.findWindow id = some window →
        window.eventSelections[owner]? = none ∧
          window.scale.eventSelections[owner]? = none) ∧
      (∀ id ∈ gone, after.dependents id ≠ [] →
        table.findWindow id = none ∧
          ∀ own, table.resources[id]? ≠ some ⟨own, .pixmap⟩) ∧
      after.Consistent ∧ reported ≤ gone.length ∧
      (reported = gone.length ↔ ∀ pixmap ∈ table.owned owner,
        ∀ id ∈ table.companions pixmap, id ∈ table.owned owner) := by
  have prepared := prepareClientCleanup_prepared consistent owner
  have base := @removeSelections_sameShape table owner
  have shape := base.trans prepared.marks.sameShape
  have next := shape.consistent consistent
  obtain ⟨after, gone, reported, removes, leaves, counted, few, exact⟩ :=
    @commitClientCleanup_removes _
      (table.prepareClientCleanup owner).1.plan next (by
        intro root member
        obtain ⟨owns, ⟨window, found⟩, _⟩ := (prepared.roots root).mp member
        obtain ⟨other, isOther, _⟩ := shape.found found
        rw [prepared.client, shape.owned]
        exact ⟨owns, other, isOther⟩) (by
        intro upper owns window found
        rw [prepared.client, shape.owned] at owns
        obtain ⟨former, isFormer, _⟩ := shape.symm.found found
        obtain ⟨root, member, passes⟩ :=
          prepared.covers upper owns upper former isFormer (.self upper)
        exact ⟨root, member, shape.onPath.mpr passes⟩)
  rw [prepared.client] at leaves exact
  have ends : table.cleanupClient owner = (reported,
      (table.prepareClientCleanup owner).2.commitClientCleanup
        (table.prepareClientCleanup owner).1.plan) := counted
  have lost : ∀ id, id ∈ gone ↔ table.Leaves owner id := fun id =>
    (leaves id).trans ⟨shape.symm.leaves, shape.leaves⟩
  have records : ∀ id : Nat,
      ((table.prepareClientCleanup owner).2.commitClientCleanup
        (table.prepareClientCleanup owner).1.plan).resources[id]? =
        if id ∈ gone then none
        else (table.resources[id]?).map fun record =>
          (record.deselected owner).without gone := by
    intro id
    rw [removes.records]
    split
    · rfl
    · rename_i stays
      have unmarked : id ∉
          (table.prepareClientCleanup owner).1.postorder.map (·.xid) := by
        intro member
        obtain ⟨root, listed, passes⟩ := (prepared.entered id).mp member
        obtain ⟨owns, isWindow, _⟩ := (prepared.roots root).mp listed
        exact stays ((lost id).mpr (Or.inr ⟨root, owns,
          Or.inl ⟨isWindow, Or.inl passes⟩⟩))
      rw [prepared.marks.records, removeSelections_lookup,
        Option.map_map, Option.map_map]
      congr 1
      funext record
      simp only [Function.comp_apply, if_neg unmarked]
  have foreign : ∀ (id : Nat) record,
      ((table.prepareClientCleanup owner).2.commitClientCleanup
        (table.prepareClientCleanup owner).1.plan).resources[id]? =
          some record → record.owner ≠ some owner := by
    intro id record found owns
    rw [records] at found
    split at found
    · cases found
    · rename_i stays
      obtain ⟨former, isFormer, rfl⟩ := Option.map_eq_some_iff.mp found
      rw [ResourceRecord.without_owner, deselected_owner] at owns
      exact stays ((lost id).mpr (Or.inl ((mem_owned consistent).mpr
        ⟨former, isFormer, owns⟩)))
  rw [ends]
  refine ⟨gone, removes.distinct, lost, ?_, records, ?_, foreign, ?_, ?_,
    after, few, ?_⟩
  · intro id member
    obtain ⟨record, found⟩ := removes.there id member
    obtain ⟨former, isFormer, _⟩ := shape.former found
    exact ⟨former, isFormer⟩
  · cases listed : ((table.prepareClientCleanup owner).2.commitClientCleanup
        (table.prepareClientCleanup owner).1.plan).resourcesByOwner[owner]? with
    | none => rfl
    | some ids =>
        cases ids with
        | nil => exact absurd listed (after.indexed.held owner)
        | cons id ids =>
            have owns : id ∈ ((table.prepareClientCleanup owner
                ).2.commitClientCleanup (table.prepareClientCleanup owner
                  ).1.plan).owned owner := by
              rw [owned, listed]
              exact List.mem_cons_self
            obtain ⟨record, found, owner⟩ := (mem_owned after).mp owns
            exact absurd owner (foreign id record found)
  · intro id window found
    obtain ⟨record, isRecord, shown⟩ := Option.bind_eq_some_iff.mp found
    rw [records] at isRecord
    split at isRecord
    · cases isRecord
    · obtain ⟨former, _, rfl⟩ := Option.map_eq_some_iff.mp isRecord
      exact deselected_selections shown
  · intro drawable member some_left
    obtain ⟨id, listed⟩ := List.exists_mem_of_ne_nil _ some_left
    obtain ⟨stays, depends⟩ := removes.mem_dependents.mp listed
    have former := shape.symm.depends depends
    constructor
    · rw [Option.eq_none_iff_forall_ne_some]
      intro window found
      exact stays ((lost id).mpr (((lost drawable).mp member).dependents former
        (Or.inl ⟨window, found⟩)))
    · intro own isPixmap
      exact stays ((lost id).mpr (((lost drawable).mp member).dependents former
        (Or.inr ⟨own, isPixmap⟩)))
  · rw [exact]
    simp only [shape.owned]
    refine forall_congr' fun pixmap => forall_congr' fun _ => ?_
    exact ⟨fun all id member => all id (shape.companions_of member),
      fun all id member => all id (shape.symm.companions_of member)⟩

/-- A client's pixmap, and damage on it that is another client's. -/
def watchedPixmap : List WindowCall :=
  [.createResource 1 0x200000 0x1fffff 0x200001 .pixmap,
   .createResource 2 0x400000 0x1fffff 0x400001 (.damage 0x200001)]

theorem cleanupClient_exact_nested :
    ((run ServerState.perform (.initial {}) nestedWindows
      ).resources.cleanupClient 1).2.resources[0x200002]? = none := by
  obtain ⟨gone, _, leaves, _, records, _⟩ := cleanupClient_exact
    (run ServerState.perform (.initial {}) nestedWindows).resources
    (ServerState.run_consistent (by decide) nestedWindows) 1
  rw [records, if_pos]
  apply (leaves _).mpr
  left
  decide +kernel

/-- The damage goes with the pixmap and is not counted. -/
theorem cleanupClient_watchedPixmap :
    (run ServerState.perform (.initial {}) watchedPixmap
      ).resources.Consistent ∧
    ((run ServerState.perform (.initial {}) watchedPixmap
      ).resources.cleanupClient 1).1 = 1 ∧
    (run ServerState.perform (.initial {}) watchedPixmap
      ).resources.resources.size =
        ((run ServerState.perform (.initial {}) watchedPixmap
          ).resources.cleanupClient 1).2.resources.size + 2 :=
  ⟨ServerState.run_consistent (by decide) watchedPixmap, by decide +kernel,
    by decide +kernel⟩

end Glasswyrm.Server
