import Glasswyrm.Input.InputRouter
import Glasswyrm.Server.WindowLineage

namespace Glasswyrm.Server

open Library

namespace ResourceTable

variable {table : ResourceTable} {xid : Nat} {way : List Nat}

/-- Where a window lies in the interior of its parent, counted to inside its
own border; a window on top of the root has its border outside. -/
def inset (table : ResourceTable) (xid : Nat) : Int × Int :=
  match table.findWindow xid with
  | none => (0, 0)
  | some window =>
      if xid = table.screen.rootWindow then (0, 0)
      else
        let border : Int :=
          if window.parent ≠ table.screen.rootWindow then window.borderWidth
          else 0
        (window.x + border, window.y + border)

/-- The insets of all windows of a way up. -/
def offset (table : ResourceTable) (way : List Nat) : Int × Int :=
  way.foldr (fun xid rest => table.inset xid + rest) (0, 0)

theorem Upward.offset_root (upward : table.Upward xid way)
    (top : xid = table.screen.rootWindow) : table.offset way = (0, 0) := by
  cases upward with
  | root rooted =>
      obtain ⟨root, isRoot, _⟩ := links_some rooted
      simp [offset, inset, isRoot]
  | step found away later => exact absurd top away

end ResourceTable

end Glasswyrm.Server

namespace Glasswyrm.Input

open Library
open Server
open X11 (ScreenModel)

variable {table : ResourceTable} {xid : Nat} {way : List Nat}

/-! ## The searches -/

theorem windowAncestryFrom_upward (tree : table.Tree)
    (upward : table.Upward xid way) (rounds : Nat)
    (enough : way.length ≤ rounds) (result : List Nat) :
    windowAncestryFrom table rounds xid result = result ++ way := by
  revert rounds result
  refine tree.climb (motive := fun xid way => ∀ rounds, way.length ≤ rounds →
    ∀ result, windowAncestryFrom table rounds xid result = result ++ way)
    ?_ ?_ upward
  · intro window found rounds enough result
    cases rounds with
    | zero => cases enough
    | succ rounds =>
        rw [windowAncestryFrom, found]
        simp
  · intro xid window way found away real other _ ih rounds enough result
    cases rounds with
    | zero => cases enough
    | succ rounds =>
        rw [windowAncestryFrom, found]
        simp only [away, real, other, decide_false, Bool.or_self,
          Bool.false_eq_true, if_false]
        rw [ih rounds (Nat.le_of_succ_le_succ enough), List.append_assoc,
          List.singleton_append]

theorem windowAncestry_upward (tree : table.Tree)
    (upward : table.Upward xid way) : windowAncestry table xid = way :=
  windowAncestryFrom_upward tree upward _ (upward.rounds tree) []

theorem isAncestorFrom_upward (tree : table.Tree) (ancestor : Nat)
    (upward : table.Upward xid way) (rounds : Nat)
    (enough : way.length ≤ rounds) :
    isAncestorFrom table ancestor rounds xid = decide (ancestor ∈ way) := by
  revert rounds
  refine tree.climb (motive := fun xid way => ∀ rounds, way.length ≤ rounds →
    isAncestorFrom table ancestor rounds xid = decide (ancestor ∈ way))
    ?_ ?_ upward
  · intro window found rounds enough
    cases rounds with
    | zero => cases enough
    | succ rounds =>
        rw [isAncestorFrom, found]
        by_cases here : table.screen.rootWindow = ancestor
        · simp [here]
        · simp [here, Ne.symm here, tree.root_parent found]
  · intro xid window way found _ real other _ ih rounds enough
    cases rounds with
    | zero => cases enough
    | succ rounds =>
        rw [isAncestorFrom, found]
        by_cases here : xid = ancestor
        · simp [here]
        · simp only [here, real, other, decide_false, Bool.or_self,
            Bool.false_eq_true, if_false]
          rw [ih rounds (Nat.le_of_succ_le_succ enough)]
          simp [Ne.symm here]

theorem isAncestor_upward (tree : table.Tree) (ancestor : Nat)
    (upward : table.Upward xid way) :
    isAncestor table ancestor xid = decide (ancestor ∈ way) :=
  isAncestorFrom_upward tree ancestor upward _ (upward.rounds tree)

theorem windowRootOriginFrom_upward (tree : table.Tree)
    (upward : table.Upward xid way) (inner : xid ≠ table.screen.rootWindow)
    (rounds : Nat) (enough : way.length ≤ rounds) (x y : Int) :
    windowRootOriginFrom table rounds xid x y =
      some ((x, y) + table.offset way) := by
  revert inner rounds x y
  refine tree.climb (motive := fun xid way =>
    xid ≠ table.screen.rootWindow → ∀ rounds, way.length ≤ rounds →
      ∀ x y, windowRootOriginFrom table rounds xid x y =
        some ((x, y) + table.offset way)) ?_ ?_ upward
  · exact fun window found inner => absurd rfl inner
  · intro xid window way found away real other upward ih _ rounds enough x y
    cases rounds with
    | zero => cases enough
    | succ rounds =>
        have here : table.offset (xid :: way) =
            table.inset xid + table.offset way := rfl
        rw [windowRootOriginFrom, found, here, ResourceTable.inset, found]
        simp only [real, other, away, decide_false, Bool.or_self,
          Bool.false_eq_true, if_false]
        by_cases top : window.parent = table.screen.rootWindow
        · simp [top, upward.offset_root top]
        · rw [if_neg top, ih top rounds (Nat.le_of_succ_le_succ enough)]
          simp [top, Prod.ext_iff]
          omega

/-- The origin of a window is the sum of the insets on its way up. -/
theorem windowRootOrigin_upward (tree : table.Tree)
    (upward : table.Upward xid way) :
    windowRootOrigin table xid = some (table.offset way) := by
  unfold windowRootOrigin
  split
  · rename_i top
    rw [upward.offset_root top]
  · rename_i inner
    rw [windowRootOriginFrom_upward tree upward inner _ (upward.rounds tree)]
    simp [Prod.ext_iff]

theorem immediateChildFrom_step {window : WindowResource} {ancestor : Nat}
    (found : table.findWindow xid = some window) (real : window.parent ≠ 0)
    (other : window.parent ≠ xid) (rounds : Nat) :
    immediateChildFrom table ancestor (rounds + 1) xid =
      if window.parent = ancestor then xid
      else immediateChildFrom table ancestor rounds window.parent := by
  rw [immediateChildFrom, found]
  simp [real, other]

/-- The child of an ancestor is the window that the way passes before it. -/
theorem immediateChildFrom_before (tree : table.Tree)
    {front back : List Nat} {lower ancestor : Nat}
    (upward : table.Upward xid way)
    (split : way = front ++ lower :: ancestor :: back) (rounds : Nat)
    (enough : way.length ≤ rounds) :
    immediateChildFrom table ancestor rounds xid = lower := by
  have distinct := tree.linked.lineage_nodup upward
  revert front rounds distinct
  refine tree.climb (motive := fun xid way => ∀ {front : List Nat},
    way = front ++ lower :: ancestor :: back → ∀ rounds,
      way.length ≤ rounds → way.Nodup →
        immediateChildFrom table ancestor rounds xid = lower) ?_ ?_ upward
  · intro window found front split
    rcases front with _ | ⟨first, _ | ⟨second, front⟩⟩ <;> simp at split
  · intro xid window way found _ real other upward ih front split rounds
      enough distinct
    cases rounds with
    | zero => cases enough
    | succ rounds =>
        rw [immediateChildFrom_step found real other]
        obtain ⟨rest, rfl⟩ := upward.head
        cases front with
        | nil =>
            obtain ⟨rfl, tail⟩ := List.cons.inj split
            rw [if_pos (List.cons.inj tail).1]
        | cons first front =>
            obtain ⟨rfl, tail⟩ := List.cons.inj split
            rw [if_neg]
            · exact ih tail rounds (Nat.le_of_succ_le_succ enough)
                (List.nodup_cons.mp distinct).2
            · rintro rfl
              have later := (List.nodup_cons.mp distinct).2
              cases front with
              | nil =>
                  obtain ⟨rfl, _⟩ := List.cons.inj tail
                  simp [tail] at later
              | cons second front =>
                  obtain ⟨rfl, _⟩ := List.cons.inj tail
                  simp [tail] at later

theorem immediateChildFrom_absent (tree : table.Tree) {ancestor : Nat}
    (upward : table.Upward xid way) (absent : ancestor ∉ way.tail)
    (rounds : Nat) : immediateChildFrom table ancestor rounds xid = 0 := by
  revert rounds absent
  refine tree.climb (motive := fun xid way => ancestor ∉ way.tail →
    ∀ rounds, immediateChildFrom table ancestor rounds xid = 0) ?_ ?_ upward
  · intro window found _ rounds
    cases rounds with
    | zero => rfl
    | succ rounds =>
        rw [immediateChildFrom, found]
        simp [tree.root_parent found]
  · intro xid window way found _ real other upward ih absent rounds
    cases rounds with
    | zero => rfl
    | succ rounds =>
        obtain ⟨rest, rfl⟩ := upward.head
        rw [List.tail_cons, List.mem_cons, not_or] at absent
        rw [immediateChildFrom_step found real other,
          if_neg (Ne.symm absent.1)]
        exact ih absent.2 rounds

/-- The child that an event is told of is the window before its own on the
way from the pointer. -/
theorem immediateChild_before (tree : table.Tree) {front back : List Nat}
    {upper : Nat} (upward : table.Upward xid way)
    (split : way = front ++ upper :: back) :
    immediateChildOnPath table upper xid = front.getLast?.getD 0 := by
  have distinct := tree.linked.lineage_nodup upward
  obtain ⟨tail, starts⟩ := upward.head
  rcases List.eq_nil_or_concat front with rfl | ⟨before, lower, rfl⟩
  · rw [starts] at split
    obtain ⟨rfl, _⟩ := List.cons.inj split
    simp [immediateChildOnPath]
  · rw [List.concat_eq_append, List.append_assoc, List.singleton_append]
      at split
    have other : upper ≠ xid := by
      rintro rfl
      rw [starts] at split distinct
      have again : upper ∈ tail := by
        cases before with
        | nil =>
            obtain ⟨rfl, rest⟩ := List.cons.inj split
            rw [rest]
            exact List.mem_cons_self
        | cons first before =>
            rw [(List.cons.inj split).2]
            simp
      exact (List.nodup_cons.mp distinct).1 again
    rw [immediateChildOnPath, if_neg other, immediateChildFrom_before tree
      upward split _ (upward.rounds tree)]
    simp

/-- The search ends at the window on the way that is a child of the root. -/
theorem managedTopLevelAncestorFrom_upward (tree : table.Tree)
    (upward : table.Upward xid way) (inner : xid ≠ table.screen.rootWindow)
    (rounds : Nat) (enough : way.length ≤ rounds) :
    ∃ top window, top ∈ way ∧ table.findWindow top = some window ∧
      window.parent = table.screen.rootWindow ∧
      managedTopLevelAncestorFrom table rounds xid =
        if table.isPolicyCandidate top then top
        else table.screen.rootWindow := by
  revert inner rounds
  refine tree.climb (motive := fun xid way =>
    xid ≠ table.screen.rootWindow → ∀ rounds, way.length ≤ rounds →
      ∃ top window, top ∈ way ∧ table.findWindow top = some window ∧
        window.parent = table.screen.rootWindow ∧
        managedTopLevelAncestorFrom table rounds xid =
          if table.isPolicyCandidate top then top
          else table.screen.rootWindow) ?_ ?_ upward
  · exact fun window found inner => absurd rfl inner
  · intro xid window way found _ real other _ ih _ rounds enough
    cases rounds with
    | zero => cases enough
    | succ rounds =>
        by_cases top : window.parent = table.screen.rootWindow
        · refine ⟨xid, window, List.mem_cons_self, found, top, ?_⟩
          rw [managedTopLevelAncestorFrom, found]
          simp only [top, if_true]
        · obtain ⟨upper, above, member, isAbove, below, same⟩ :=
            ih top rounds (Nat.le_of_succ_le_succ enough)
          refine ⟨upper, above, List.mem_cons_of_mem _ member, isAbove, below,
            ?_⟩
          rw [managedTopLevelAncestorFrom, found, ← same]
          simp only [top, real, other, decide_false, Bool.or_self,
            Bool.false_eq_true, if_false]

/-- The details found in the tree are those found in the ancestries. -/
theorem crossingDetails_upward (tree : table.Tree) {other : Nat}
    {otherWay : List Nat} (upward : table.Upward xid way)
    (second : table.Upward other otherWay) :
    crossingDetails table xid other = ancestryCrossingDetails way otherWay := by
  unfold crossingDetails
  rw [isAncestor_upward tree xid second, isAncestor_upward tree other upward]
  obtain ⟨rest, rfl⟩ := upward.head
  obtain ⟨others, rfl⟩ := second.head
  rw [ancestryCrossingDetails, List.contains_eq_mem, List.contains_eq_mem]

/-- The child that the search for an ancestor ends at is on the way, and no
other window of the way has that parent. -/
theorem immediateChildOnPath_iff (tree : table.Tree)
    (upward : table.Upward xid way) (upper : Nat) {child : Nat}
    (real : child ≠ 0) : immediateChildOnPath table upper xid = child ↔
      table.OnPath xid child ∧ child ≠ table.screen.rootWindow ∧
        ∃ record, table.findWindow child = some record ∧
          record.parent = upper := by
  constructor
  · intro result
    have member : upper ∈ way := by
      by_contra absent
      apply real
      rw [← result, immediateChildOnPath]
      split
      · rfl
      · exact immediateChildFrom_absent tree upward
          (fun later => absent (List.mem_of_mem_tail later)) _
    obtain ⟨front, back, split⟩ := List.append_of_mem member
    rw [immediateChild_before tree upward split] at result
    rcases List.eq_nil_or_concat front with rfl | ⟨before, last, rfl⟩
    · exact absurd result.symm real
    · simp only [List.concat_eq_append, List.getLast?_append,
        List.getLast?_singleton, Option.some_or, Option.getD_some] at result
      subst result
      rw [List.concat_eq_append, List.append_assoc, List.singleton_append]
        at split
      have passes : last ∈ way := by
        rw [split]
        exact List.mem_append_right _ List.mem_cons_self
      obtain ⟨away, link, found, parent⟩ := Lineage.next upward split
      obtain ⟨record, isRecord, same, _⟩ := ResourceTable.links_some found
      exact ⟨(upward.onPath tree last).mp passes, away, record, isRecord,
        same ▸ parent⟩
  · rintro ⟨passes, away, record, found, rfl⟩
    obtain ⟨front, rest, split, later⟩ := Lineage.from_passed upward
      ((upward.onPath tree child).mpr passes)
    cases later with
    | root rooted => exact absurd rfl away
    | @step _ link tail isLink _ onward =>
        obtain ⟨again, isAgain, parent, _⟩ := ResourceTable.links_some isLink
        rw [found] at isAgain
        obtain rfl := Option.some.inj isAgain
        obtain ⟨back, rfl⟩ := onward.head
        rw [parent] at split
        have order : way = (front ++ [child]) ++ record.parent :: back := by
          rw [split, List.append_assoc, List.singleton_append]
        rw [immediateChild_before tree upward order]
        simp

/-! ## Over all runs -/

/-- All searches up the tree walk the one way from a window to the root. -/
theorem searches_agree (screen : ScreenModel) (real : screen.rootWindow ≠ 0)
    (calls : List WindowCall) (xid other : Nat)
    (window second : WindowResource) :
    let table := (run ServerState.perform (.initial screen) calls).resources
    let root := table.screen.rootWindow
    table.findWindow xid = some window →
    table.findWindow other = some second →
      (windowAncestry table xid).Nodup ∧
      (windowAncestry table xid).head? = some xid ∧
      (windowAncestry table xid).getLast? = some root ∧
      (∀ upper, upper ∈ windowAncestry table xid ↔
        table.OnPath xid upper) ∧
      crossingDetails table xid other = ancestryCrossingDetails
        (windowAncestry table xid) (windowAncestry table other) ∧
      (∀ upper child, child ≠ 0 →
        (immediateChildOnPath table upper xid = child ↔
          table.OnPath xid child ∧ child ≠ root ∧
            ∃ record, table.findWindow child = some record ∧
              record.parent = upper)) ∧
      (xid ≠ root →
        (∃ top record, table.OnPath xid top ∧
          table.findWindow top = some record ∧ record.parent = root ∧
          managedTopLevelAncestor table xid =
            if table.isPolicyCandidate top then top else root) ∧
        ∃ origin, windowRootOrigin table window.parent = some origin ∧
          windowRootOrigin table xid = some (table.inset xid + origin)) := by
  intro table root found isOther
  have tree : table.Tree := (ServerState.run_sound real calls).tree
  obtain ⟨way, upward⟩ := tree.upward found
  obtain ⟨otherWay, otherUpward⟩ := tree.upward isOther
  rw [windowAncestry_upward tree upward,
    windowAncestry_upward tree otherUpward]
  refine ⟨tree.linked.lineage_nodup upward, ?_, upward.last,
    upward.onPath tree, crossingDetails_upward tree upward otherUpward,
    fun upper child => immediateChildOnPath_iff tree upward upper,
    fun inner => ⟨?_, ?_⟩⟩
  · obtain ⟨rest, rfl⟩ := upward.head
    rfl
  · obtain ⟨top, record, member, isTop, parent, managed⟩ :=
      managedTopLevelAncestorFrom_upward tree upward inner _
        (upward.rounds tree)
    exact ⟨top, record, (upward.onPath tree top).mp member, isTop, parent,
      managed⟩
  · cases upward with
    | root rooted => exact absurd rfl inner
    | @step _ link way isLink away later =>
        obtain ⟨record, isRecord, parent, _⟩ :=
          ResourceTable.links_some isLink
        rw [found] at isRecord
        obtain rfl := Option.some.inj isRecord
        have whole : table.Upward xid (xid :: way) := .step isLink away later
        rw [parent] at later
        exact ⟨_, windowRootOrigin_upward tree later,
          windowRootOrigin_upward tree whole⟩

/-- The nested windows, once the policy shows the outer one. -/
def shownWindows : List WindowCall :=
  nestedWindows ++ [.commitLifecycle {
    windows := (∅ : KeyMap Lifecycle.LifecycleWindow).insert 0x200001 {
      xid := 0x200001, mapRequested := true, policyVisible := true
      requestedWidth := 8, requestedHeight := 8, appliedX := 100
      appliedY := 50, appliedWidth := 8, appliedHeight := 8, stacking := 0 } }]

theorem searches_agree_shown : ∃ window,
    (run ServerState.perform (.initial {}) shownWindows
      ).resources.findWindow 0x200002 = some window ∧
    ∃ origin, windowRootOrigin (run ServerState.perform (.initial {})
        shownWindows).resources window.parent = some origin ∧
      windowRootOrigin (run ServerState.perform (.initial {}) shownWindows
        ).resources 0x200002 = some ((run ServerState.perform (.initial {})
          shownWindows).resources.inset 0x200002 + origin) := by
  have there : ((run ServerState.perform (.initial {}) shownWindows
      ).resources.findWindow 0x200002).isSome = true := by
    decide +kernel
  obtain ⟨window, found⟩ := Option.isSome_iff_exists.mp there
  exact ⟨window, found, ((searches_agree {} (by decide) shownWindows 0x200002
    0x200002 window window found found).2.2.2.2.2.2 (by decide +kernel)).2⟩

end Glasswyrm.Input
