import Glasswyrm.Server.MapStateRun
import Glasswyrm.Server.PropertyTable

namespace Glasswyrm.Server

open Library
open X11 (ScreenModel)

/-! The count of the bytes over runs. -/

theorem ResourceTable.createWindow_fresh {table : ResourceTable}
    {owner resourceBase resourceMask : Nat} {spec : WindowCreateSpec}
    (created : (table.createWindow owner resourceBase resourceMask spec).1 =
      .success) : table.resources.contains spec.xid = false := by
  unfold createWindow at created
  split at created
  · cases created
  · rename_i valid
    simp only [validNewResourceId, Bool.not_eq_true', Bool.not_eq_false,
      Bool.and_eq_true] at valid
    exact valid.2

theorem ResourceTable.createServerProxyWindow_fresh {table : ResourceTable}
    {xid : Nat} (created : (table.createServerProxyWindow xid).1 = true) :
    table.resources.contains xid = false := by
  unfold createServerProxyWindow at created
  split at created
  · cases created
  · rename_i valid
    simp only [Bool.or_eq_true, not_or, Bool.not_eq_true] at valid
    exact valid.2

/-- A new window changes no other's being there. -/
theorem ResourceTable.addWindow_present {table : ResourceTable}
    {owner : Option Nat} {xid : Nat} {window : WindowResource}
    (apart : window.parent ≠ xid) {id : Nat}
    (present : (table.findWindow id).isSome) :
    ((table.addWindow owner xid window).findWindow id).isSome := by
  rw [findWindow_addWindow owner xid window apart]
  split
  · rfl
  split
  · rwa [Option.isSome_map]
  · exact present

namespace PropertyTable

/-- What is counted is what is stored, of windows that are there, and within
the limits, of which one property's is less than the word of a reply. -/
structure Accounted (table : PropertyTable) : Prop where
  narrow : table.limits.maximumBytesPerProperty < 2 ^ 32
  counted : table.totalPropertyBytes = table.storedBytes
  limited : table.totalPropertyBytes ≤ table.limits.maximumTotalPropertyBytes
  rooted : (table.resources.findWindow
    table.resources.screen.rootWindow).isSome
  living : ∀ window properties, table.properties[window]? = some properties →
    (table.resources.findWindow window).isSome
  sized : ∀ (window : Nat) (properties : KeyMap Property),
    table.properties[window]? = some properties →
      ∀ (atom : Nat) (property : Property),
        properties[atom]? = some property →
          property.byteSize ≤ table.limits.maximumBytesPerProperty

variable {table : PropertyTable}

theorem windowPropertyBytes_windowProperties (window : Nat) :
    windowPropertyBytes (table.windowProperties window) =
      (table.properties[window]?.map windowPropertyBytes).getD 0 := by
  unfold windowProperties
  cases table.properties[window]? with
  | none => exact KeyMap.total_empty _
  | some properties => rfl

theorem initial_accounted (screen : ScreenModel) :
    (initial screen).Accounted := by
  refine ⟨(by decide : kMaximumBytesPerProperty < 2 ^ 32),
    (KeyMap.total_empty _).symm, Nat.zero_le _, ?_, ?_, ?_⟩
  · have root := ResourceTable.initial_findWindow screen screen.rootWindow
    rw [if_pos rfl] at root
    exact root ▸ rfl
  · intro window properties found
    simp [initial] at found
  · intro window properties found
    simp [initial] at found

namespace Accounted

theorem sized_window (accounted : table.Accounted) {window atom : Nat}
    {property : Property}
    (found : (table.windowProperties window)[atom]? = some property) :
    property.byteSize ≤ table.limits.maximumBytesPerProperty := by
  unfold windowProperties at found
  cases stored : table.properties[window]? with
  | none => simp [stored] at found
  | some properties =>
      rw [stored] at found
      exact accounted.sized window properties stored atom property found

/-- The bytes of one window are a part of the count. -/
theorem window_le (accounted : table.Accounted) (window : Nat) :
    windowPropertyBytes (table.windowProperties window) ≤
      table.totalPropertyBytes := by
  rw [accounted.counted, windowPropertyBytes_windowProperties, storedBytes,
    ← KeyMap.total_erase windowPropertyBytes table.properties window]
  exact Nat.le_add_left _ _

theorem property_le (accounted : table.Accounted) (window atom : Nat) :
    ((table.windowProperties window)[atom]?.map Property.byteSize).getD 0 ≤
      table.totalPropertyBytes := by
  refine Nat.le_trans ?_ (accounted.window_le window)
  rw [windowPropertyBytes,
    ← KeyMap.total_erase Property.byteSize (table.windowProperties window) atom]
  exact Nat.le_add_left _ _

/-- Other properties for a window, with the difference in the count. -/
theorem replace (accounted : table.Accounted) {window count : Nat}
    {properties : KeyMap Property}
    (alive : (table.resources.findWindow window).isSome)
    (sized : ∀ (atom : Nat) (property : Property),
      properties[atom]? = some property →
        property.byteSize ≤ table.limits.maximumBytesPerProperty)
    (counted : count + windowPropertyBytes (table.windowProperties window) =
      windowPropertyBytes properties + table.totalPropertyBytes)
    (limited : count ≤ table.limits.maximumTotalPropertyBytes) :
    Accounted { table with
      properties := table.properties.insert window properties
      totalPropertyBytes := count } := by
  refine ⟨accounted.narrow, ?_, limited, accounted.rooted, ?_, ?_⟩
  · have total := KeyMap.total_insert windowPropertyBytes table.properties
      window properties
    rw [← windowPropertyBytes_windowProperties] at total
    have before := accounted.counted
    unfold storedBytes at before ⊢
    dsimp only
    omega
  · intro other stored found
    rw [KeyMap.lookup_insert] at found
    split at found
    · rename_i same
      exact same ▸ alive
    · exact accounted.living other stored found
  · intro other stored found
    rw [KeyMap.lookup_insert] at found
    split at found
    · obtain rfl := Option.some.inj found
      exact sized
    · exact accounted.sized other stored found

theorem changeProperty (accounted : table.Accounted) (window atom : Nat)
    (value : Property) (mode : PropertyMode) :
    (table.changeProperty window atom value mode).2.Accounted := by
  unfold PropertyTable.changeProperty
  split
  · exact accounted
  rename_i found
  dsimp only
  split
  · exact accounted
  generalize replacementFor (table.windowProperties window)[atom]? value mode =
    replacement
  split
  · exact accounted
  · rename_i room
    simp only [Bool.or_eq_true, decide_eq_true_eq, not_or, Nat.not_lt] at room
    have stored := accounted.property_le window atom
    have total := KeyMap.total_insert Property.byteSize
      (table.windowProperties window) atom replacement
    have limited := accounted.limited
    refine accounted.replace (found ▸ rfl) ?_ ?_ ?_
    · intro other property here
      rw [KeyMap.lookup_insert] at here
      split at here
      · obtain rfl := Option.some.inj here
        exact room.1.1
      · exact accounted.sized_window here
    · unfold windowPropertyBytes
      omega
    · omega

theorem withoutProperty (accounted : table.Accounted) {window atom : Nat}
    {property : Property} (alive : (table.resources.findWindow window).isSome)
    (found : (table.windowProperties window)[atom]? = some property) :
    (table.withoutProperty window atom property).Accounted := by
  have stored := accounted.property_le window atom
  have total := KeyMap.total_erase Property.byteSize
    (table.windowProperties window) atom
  rw [found, Option.map_some, Option.getD_some] at stored total
  have limited := accounted.limited
  refine accounted.replace alive ?_ ?_ ?_
  · intro other kept here
    rw [KeyMap.lookup_erase] at here
    split at here
    · cases here
    · exact accounted.sized_window here
  · unfold windowPropertyBytes
    omega
  · omega

theorem deleteProperty (accounted : table.Accounted) (window atom : Nat) :
    (table.deleteProperty window atom).2.Accounted := by
  unfold PropertyTable.deleteProperty
  split
  · exact accounted
  rename_i alive
  split
  · exact accounted
  · rename_i found
    exact accounted.withoutProperty (alive ▸ rfl) found

theorem getProperty (accounted : table.Accounted)
    (window atom requestedType : Nat) (deleteAfterRead : Bool)
    (longOffset longLength : Nat) :
    (table.getProperty window atom requestedType deleteAfterRead longOffset
      longLength).2.Accounted := by
  unfold PropertyTable.getProperty
  split
  · exact accounted
  rename_i alive
  split
  · exact accounted
  rename_i found
  dsimp only
  split
  · exact accounted
  split
  · exact accounted
  split
  · exact accounted.withoutProperty (alive ▸ rfl) found
  · exact accounted

/-- The table of the resources may change as long as no window goes that has
properties. -/
theorem resources (accounted : table.Accounted) {resources : ResourceTable}
    (screen : resources.screen = table.resources.screen)
    (kept : ∀ window, (table.resources.findWindow window).isSome →
      (resources.findWindow window).isSome) :
    Accounted { table with resources } :=
  ⟨accounted.narrow, accounted.counted, accounted.limited,
    screen ▸ kept _ accounted.rooted,
    fun window properties found =>
      kept window (accounted.living window properties found),
    accounted.sized⟩

theorem absent (accounted : table.Accounted) {xid : Nat}
    (fresh : table.resources.resources.contains xid = false) :
    table.properties[xid]? = none := by
  cases found : table.properties[xid]? with
  | none => rfl
  | some properties =>
      have living := accounted.living xid properties found
      rw [ResourceTable.findWindow_absent fresh] at living
      cases living

theorem without (accounted : table.Accounted) {xid : Nat}
    {resources : ResourceTable}
    (fresh : table.resources.resources.contains xid = false)
    (screen : resources.screen = table.resources.screen)
    (kept : ∀ window, (table.resources.findWindow window).isSome →
      (resources.findWindow window).isSome) :
    Accounted { table with
      resources
      properties := table.properties.erase xid } := by
  have same : table.properties.erase xid = table.properties :=
    Std.ExtTreeMap.ext_getElem? fun id => by
      rw [KeyMap.lookup_erase]
      split
      · rename_i here
        rw [← here, accounted.absent fresh]
      · rfl
  rw [same]
  exact accounted.resources screen kept

theorem createWindow (accounted : table.Accounted)
    (owner resourceBase resourceMask : Nat) (spec : WindowCreateSpec) :
    (table.createWindow owner resourceBase resourceMask spec).2.Accounted := by
  have kept : ((table.resources.createWindow owner resourceBase resourceMask
        spec).2.screen = table.resources.screen) ∧
      ∀ window, (table.resources.findWindow window).isSome →
        ((table.resources.createWindow owner resourceBase resourceMask
          spec).2.findWindow window).isSome := by
    rcases table.resources.createWindow_cases owner resourceBase resourceMask
      spec with same | ⟨created, parent, above, fresh, _, _, _, _, added⟩
    · rw [same]
      exact ⟨rfl, fun _ present => present⟩
    · rw [added]
      refine ⟨ResourceTable.addWindow_screen _ _ _, fun window present =>
        ResourceTable.addWindow_present (fun same => ?_) present⟩
      rw [same, ResourceTable.findWindow_absent fresh] at above
      cases above
  unfold PropertyTable.createWindow
  dsimp only
  split
  · rename_i created
    exact accounted.without (ResourceTable.createWindow_fresh created) kept.1
      kept.2
  · exact accounted.resources kept.1 kept.2

theorem createServerProxyWindow (accounted : table.Accounted) (xid : Nat) :
    (table.createServerProxyWindow xid).2.Accounted := by
  have kept : ((table.resources.createServerProxyWindow xid).2.screen =
        table.resources.screen) ∧
      ∀ window, (table.resources.findWindow window).isSome →
        ((table.resources.createServerProxyWindow xid).2.findWindow
          window).isSome := by
    rcases table.resources.createServerProxyWindow_cases xid with
      same | ⟨created, above, fresh, _, _, _, _, added⟩
    · rw [same]
      exact ⟨rfl, fun _ present => present⟩
    · rw [added]
      refine ⟨ResourceTable.addWindow_screen _ _ _, fun window present =>
        ResourceTable.addWindow_present (fun same => ?_) present⟩
      have rooted := accounted.rooted
      rw [← above, same, ResourceTable.findWindow_absent fresh] at rooted
      cases rooted
  unfold PropertyTable.createServerProxyWindow
  dsimp only
  split
  · rename_i created
    exact accounted.without
      (ResourceTable.createServerProxyWindow_fresh created) kept.1 kept.2
  · exact accounted.resources kept.1 kept.2

theorem destroyLeaf (accounted : table.Accounted) (xid : Nat) :
    (table.destroyLeaf xid).Accounted := by
  unfold PropertyTable.destroyLeaf
  split
  · exact accounted
  rename_i found
  split
  · exact accounted
  rename_i away
  have total := KeyMap.total_erase windowPropertyBytes table.properties xid
  rw [← windowPropertyBytes_windowProperties] at total
  have before := accounted.counted
  have limited := accounted.limited
  have others : ∀ window, window ≠ xid →
      (table.resources.findWindow window).isSome →
        ((table.resources.destroyLeaf xid).findWindow window).isSome := by
    intro window other present
    rw [ResourceTable.findWindow_destroyLeaf found away, if_neg other]
    split
    · rwa [Option.isSome_map]
    · exact present
  refine ⟨accounted.narrow, ?_, by dsimp only; omega, ?_, ?_, ?_⟩
  · unfold storedBytes at before ⊢
    dsimp only
    omega
  · dsimp only
    rw [ResourceTable.destroyLeaf_screen]
    exact others _ (Ne.symm away) accounted.rooted
  · intro window properties here
    rw [KeyMap.lookup_erase] at here
    split at here
    · cases here
    · rename_i other
      exact others window (Ne.symm other)
        (accounted.living window properties here)
  · intro window properties here
    rw [KeyMap.lookup_erase] at here
    split at here
    · cases here
    · exact accounted.sized window properties here

theorem commitDestroyPlan (accounted : table.Accounted)
    (plan : WindowDestroyPlan) :
    (table.commitDestroyPlan plan).2.Accounted := by
  unfold PropertyTable.commitDestroyPlan
  split
  · exact accounted
  split
  · exact accounted
  · exact @run_preserves _ _
      (fun table entry => PropertyTable.destroyLeaf table entry.xid) Accounted
      (fun _ entry accounted => accounted.destroyLeaf entry.xid) _ accounted
      plan.postorder

theorem destroyWindow (accounted : table.Accounted) (xid : Nat) :
    (table.destroyWindow xid).2.Accounted := by
  unfold PropertyTable.destroyWindow
  split
  · exact accounted
  split
  · exact accounted
  · exact accounted.commitDestroyPlan _

theorem destroyRoot (accounted : table.Accounted) (root : Nat) :
    (table.destroyRoot root).Accounted := by
  unfold PropertyTable.destroyRoot
  split
  · exact accounted.commitDestroyPlan _
  · exact accounted

theorem freeOwned (accounted : table.Accounted) (xid : Nat) :
    (table.freeOwned xid).Accounted :=
  accounted.resources (ResourceTable.freeOwned_screen _ _)
    fun window present => by rwa [ResourceTable.findWindow_freeOwned]

theorem commitClientCleanup (accounted : table.Accounted)
    (plan : ClientCleanupPlan) :
    (table.commitClientCleanup plan).Accounted := by
  have destroyed : (run PropertyTable.destroyRoot table plan.roots).Accounted :=
    run_preserves (fun _ root accounted => accounted.destroyRoot root) accounted
      plan.roots
  exact @run_preserves _ _ PropertyTable.freeOwned Accounted
    (fun _ xid accounted => accounted.freeOwned xid) _ destroyed _

end Accounted

end PropertyTable

/-! ## Runs -/

inductive PropertyCall where
  | changeProperty (window atom : Nat) (value : Property) (mode : PropertyMode)
  | deleteProperty (window atom : Nat)
  | getProperty (window atom requestedType : Nat) (deleteAfterRead : Bool)
      (longOffset longLength : Nat)
  | createWindow (owner resourceBase resourceMask : Nat)
      (spec : WindowCreateSpec)
  | createServerProxyWindow (xid : Nat)
  | freeOwned (xid : Nat)
  | destroyWindow (xid : Nat)
  | commitClientCleanup (plan : ClientCleanupPlan)

namespace PropertyTable

def perform (table : PropertyTable) : PropertyCall → PropertyTable
  | .changeProperty window atom value mode =>
      (table.changeProperty window atom value mode).2
  | .deleteProperty window atom => (table.deleteProperty window atom).2
  | .getProperty window atom requestedType deleteAfterRead longOffset
      longLength =>
      (table.getProperty window atom requestedType deleteAfterRead longOffset
        longLength).2
  | .createWindow owner resourceBase resourceMask spec =>
      (table.createWindow owner resourceBase resourceMask spec).2
  | .createServerProxyWindow xid => (table.createServerProxyWindow xid).2
  | .freeOwned xid => table.freeOwned xid
  | .destroyWindow xid => (table.destroyWindow xid).2
  | .commitClientCleanup plan => table.commitClientCleanup plan

theorem perform_accounted {table : PropertyTable}
    (accounted : table.Accounted) (call : PropertyCall) :
    (table.perform call).Accounted := by
  cases call with
  | changeProperty window atom value mode =>
      exact accounted.changeProperty window atom value mode
  | deleteProperty window atom => exact accounted.deleteProperty window atom
  | getProperty window atom requestedType deleteAfterRead longOffset
      longLength =>
      exact accounted.getProperty window atom requestedType deleteAfterRead
        longOffset longLength
  | createWindow owner resourceBase resourceMask spec =>
      exact accounted.createWindow owner resourceBase resourceMask spec
  | createServerProxyWindow xid => exact accounted.createServerProxyWindow xid
  | freeOwned xid => exact accounted.freeOwned xid
  | destroyWindow xid => exact accounted.destroyWindow xid
  | commitClientCleanup plan => exact accounted.commitClientCleanup plan

theorem run_accounted (screen : ScreenModel) (calls : List PropertyCall) :
    (run perform (initial screen) calls).Accounted :=
  @run_preserves _ _ perform Accounted
    (fun _ call accounted => perform_accounted accounted call) _
    (initial_accounted screen) calls

end PropertyTable

end Glasswyrm.Server
