import Glasswyrm.Library.Run
import Glasswyrm.Server.MapStateRun

namespace Glasswyrm.Server

open Library
open Lifecycle (AppliedPolicyWindow LifecycleSnapshot LifecycleWindow)
open X11 (ScreenModel)

/-! The map states in every state that the server reaches. -/

/-! ## The state of the server -/

namespace ServerState

open ResourceTable

theorem intendedWindow_keeps (intent : LifecycleWindow)
    (window : WindowResource) :
    (intendedWindow intent window).link = window.link ∧
      (intendedWindow intent window).windowClass = window.windowClass ∧
      (intendedWindow intent window).mapState = window.mapState :=
  ⟨rfl, rfl, rfl⟩

theorem commitIntent_requested {outputs : List RandROutputObject}
    {table next : ResourceTable} {entry : Nat × LifecycleWindow}
    (requested : table.Requested)
    (committed : commitIntent outputs table entry = some next) :
    next.Requested := by
  obtain ⟨xid, intent⟩ := entry
  unfold commitIntent at committed
  obtain ⟨window, found, committed⟩ := Option.bind_eq_some_iff.mp committed
  rw [ite_eq_iff] at committed
  obtain ⟨_, wrong⟩ | ⟨candidate, committed⟩ := committed
  · cases wrong
  rw [Bool.not_eq_true', Bool.not_eq_false] at candidate
  simp only at committed
  split at committed
  · obtain ⟨scale, _, committed⟩ := Option.bind_eq_some_iff.mp committed
    obtain rfl := Option.some.inj committed
    apply requested.updateWindow candidate
    intro former isFormer
    rw [found] at isFormer
    obtain rfl := Option.some.inj isFormer
    exact intendedWindow_keeps intent window
  · obtain rfl := Option.some.inj committed
    apply requested.updateWindow candidate
    intro former isFormer
    rw [found] at isFormer
    obtain rfl := Option.some.inj isFormer
    exact intendedWindow_keeps intent window

theorem applyPolicy_sound {state : ServerState}
    (requested : state.resources.Requested)
    {policy : List AppliedPolicyWindow} {next : ServerState}
    (applied : state.applyPolicy policy = (true, next)) :
    next.resources.Sound := by
  unfold applyPolicy at applied
  simp only at applied
  split at applied
  · cases applied
  · rename_i placements _
    split at applied
    · cases applied
    · rename_i resources focusedWindow placed
      have sound := requested.applyPolicyState placed
      obtain ⟨_, rfl⟩ := Prod.mk.inj applied
      exact sound.numbered placements

/-- A policy that is turned down takes serials and nothing else. -/
theorem applyPolicy_refused {state next : ServerState}
    {policy : List AppliedPolicyWindow}
    (refused : state.applyPolicy policy = (false, next)) :
    next.resources = state.resources := by
  unfold applyPolicy at refused
  simp only at refused
  split at refused
  · obtain ⟨_, rfl⟩ := Prod.mk.inj refused
    rfl
  · split at refused
    · obtain ⟨_, rfl⟩ := Prod.mk.inj refused
      rfl
    · cases refused

theorem commitLifecycle_cases (state : ServerState)
    (snapshot : LifecycleSnapshot) :
    state.commitLifecycle snapshot = (false, state) ∨
      ∃ resources staged,
        snapshot.windows.toList.foldlM (commitIntent state.randr.outputs)
          state.resources = some resources ∧
        applyPolicy { state with resources }
          (snapshot.windows.toList.map policyOf) = (true, staged) ∧
        state.commitLifecycle snapshot = (true, staged) := by
  unfold commitLifecycle
  simp only
  split
  · exact Or.inl rfl
  · rename_i resources written
    split
    · exact Or.inl rfl
    · rename_i staged applied
      exact Or.inr ⟨resources, staged, written, applied, rfl⟩

theorem commitLifecycle_sound {state : ServerState}
    (sound : state.resources.Sound) (snapshot : LifecycleSnapshot) :
    (state.commitLifecycle snapshot).2.resources.Sound := by
  rcases commitLifecycle_cases state snapshot with
    same | ⟨resources, staged, written, applied, committed⟩
  · rw [same]
    exact sound
  · rw [committed]
    refine @applyPolicy_sound { state with resources } ?_ _ _ applied
    exact foldlM_preserves
      (fun _ _ _ requested taken => commitIntent_requested requested taken)
      sound.requested written

theorem commitCreateLifecycle_sound {state : ServerState}
    (sound : state.resources.Sound) (owner resourceBase resourceMask : Nat)
    (spec : WindowCreateSpec) (creationSerial : Nat)
    (evaluated : LifecycleSnapshot) :
    (state.commitCreateLifecycle owner resourceBase resourceMask spec
      creationSerial evaluated).2.resources.Sound := by
  have made := sound.createWindow owner resourceBase resourceMask spec
  unfold commitCreateLifecycle
  split
  · rename_i created isCreated
    rw [isCreated] at made
    have numbered : (created.updateWindow spec.xid fun window =>
        { window with creationSerial }).Sound := by
      apply made.updateWindow
      · exact fun _ => rfl
      · exact fun _ => rfl
    have committed := @commitLifecycle_sound { state with
      resources := created.updateWindow spec.xid fun window =>
        { window with creationSerial } } numbered evaluated
    simp only
    split
    · exact sound
    · rename_i staged same
      rw [same] at committed
      exact committed
  · exact sound

theorem commitDestroyLifecycle_sound {state : ServerState}
    (sound : state.resources.Sound) (xid : Nat)
    (evaluated : LifecycleSnapshot) :
    (state.commitDestroyLifecycle xid evaluated).2.resources.Sound := by
  unfold commitDestroyLifecycle
  split
  · exact sound
  · rename_i plan _
    have destroyed := sound.commitDestroyPlan plan
    split
    · rename_i resources gone
      rw [gone] at destroyed
      have committed :=
        @commitLifecycle_sound { state with resources } destroyed evaluated
      split
      · exact sound
      · rename_i staged same
        rw [same] at committed
        exact committed
    · exact sound

end ServerState

/-! ## Runs -/

/-- What happens to the windows. -/
inductive WindowCall
  | createWindow (owner resourceBase resourceMask : Nat)
      (spec : WindowCreateSpec)
  | createServerProxyWindow (xid : Nat)
  | createResource (owner resourceBase resourceMask xid : Nat)
      (payload : ResourcePayload)
  | freeOwned (xid : Nat)
  | configureLocal (xid : Nat) (configure : LocalConfigure)
  | setLocalMapIntent (xid : Nat) (mapped : Bool)
  | updateScreenGeometry (screen : ScreenModel)
  | installOutputs (randr : RandRState)
  | applyPolicy (policy : List AppliedPolicyWindow)
  | commitLifecycle (snapshot : LifecycleSnapshot)
  | commitCreateLifecycle (owner resourceBase resourceMask : Nat)
      (spec : WindowCreateSpec) (creationSerial : Nat)
      (evaluated : LifecycleSnapshot)
  | commitDestroyLifecycle (xid : Nat) (evaluated : LifecycleSnapshot)
  | destroyWindow (xid : Nat)
  | commitClientCleanup (plan : ClientCleanupPlan)

namespace ServerState

def perform (state : ServerState) : WindowCall → ServerState
  | .createWindow owner resourceBase resourceMask spec =>
      { state with resources := (state.resources.createWindow owner
          resourceBase resourceMask spec).2 }
  | .createServerProxyWindow xid =>
      { state with resources := (state.resources.createServerProxyWindow xid).2 }
  | .createResource owner resourceBase resourceMask xid payload =>
      { state with resources := (state.resources.createResource owner
          resourceBase resourceMask xid payload).2 }
  | .freeOwned xid =>
      { state with resources := state.resources.freeOwned xid }
  | .configureLocal xid configure =>
      { state with resources := (state.resources.configureLocal xid configure).2 }
  | .setLocalMapIntent xid mapped =>
      { state with resources :=
          (state.resources.setLocalMapIntent xid mapped).2 }
  | .updateScreenGeometry screen =>
      { state with resources := (state.resources.updateScreenGeometry screen).2 }
  | .installOutputs randr => { state with randr }
  | .applyPolicy policy => (state.applyPolicy policy).2
  | .commitLifecycle snapshot => (state.commitLifecycle snapshot).2
  | .commitCreateLifecycle owner resourceBase resourceMask spec creationSerial
      evaluated =>
      (state.commitCreateLifecycle owner resourceBase resourceMask spec
        creationSerial evaluated).2
  | .commitDestroyLifecycle xid evaluated =>
      (state.commitDestroyLifecycle xid evaluated).2
  | .destroyWindow xid =>
      { state with resources := (state.resources.destroyWindow xid).2 }
  | .commitClientCleanup plan =>
      { state with resources := state.resources.commitClientCleanup plan }

theorem perform_sound {state : ServerState} (sound : state.resources.Sound)
    (call : WindowCall) : (state.perform call).resources.Sound := by
  cases call with
  | createWindow owner resourceBase resourceMask spec =>
      exact sound.createWindow owner resourceBase resourceMask spec
  | createServerProxyWindow xid => exact sound.createServerProxyWindow xid
  | createResource owner resourceBase resourceMask xid payload =>
      exact sound.createResource owner resourceBase resourceMask xid payload
  | freeOwned xid => exact sound.freeOwned xid
  | configureLocal xid configure => exact sound.configureLocal xid configure
  | setLocalMapIntent xid mapped => exact sound.setLocalMapIntent xid mapped
  | updateScreenGeometry screen => exact sound.updateScreenGeometry screen
  | installOutputs randr => exact sound
  | applyPolicy policy =>
      cases applied : state.applyPolicy policy with
      | mk done next =>
          have here : state.perform (.applyPolicy policy) = next := by
            rw [perform, applied]
          rw [here]
          cases done with
          | true => exact applyPolicy_sound sound.requested applied
          | false =>
              rw [applyPolicy_refused applied]
              exact sound
  | commitLifecycle snapshot => exact commitLifecycle_sound sound snapshot
  | commitCreateLifecycle owner resourceBase resourceMask spec creationSerial
      evaluated =>
      exact commitCreateLifecycle_sound sound owner resourceBase resourceMask
        spec creationSerial evaluated
  | commitDestroyLifecycle xid evaluated =>
      exact commitDestroyLifecycle_sound sound xid evaluated
  | destroyWindow xid => exact sound.destroyWindow xid
  | commitClientCleanup plan => exact sound.commitClientCleanup plan

theorem run_sound {screen : ScreenModel} (real : screen.rootWindow ≠ 0)
    (calls : List WindowCall) :
    (run perform (initial screen) calls).resources.Sound :=
  @run_preserves _ _ perform (fun state => state.resources.Sound)
    (fun _ call sound => perform_sound sound call) _
    (ResourceTable.initial_sound real) calls

end ServerState

/-! ## The map state of a window -/

namespace ResourceTable

variable {table : ResourceTable}

/-- A window and what is above it, up to the root. -/
inductive OnPath (table : ResourceTable) : Nat → Nat → Prop
  | self (xid : Nat) : OnPath table xid xid
  | above {xid upper : Nat} {window : WindowResource}
      (found : table.findWindow xid = some window)
      (inner : xid ≠ table.screen.rootWindow)
      (later : OnPath table window.parent upper) : OnPath table xid upper

namespace Sound

/-- Whether a window is unmapped follows from its requests and the policy. -/
theorem unmapped_iff (sound : table.Sound) {xid : Nat}
    {window : WindowResource} (found : table.findWindow xid = some window)
    (inner : xid ≠ table.screen.rootWindow) :
    window.mapState = .unmapped ↔ window.mapRequested = false ∨
      (table.isPolicyCandidate xid = true ∧ window.policyVisible = false) := by
  rw [sound.settled.windows xid window found inner id, due, dueMapState]
  cases window.mapRequested <;> cases table.isPolicyCandidate xid <;>
    cases window.policyVisible <;> cases table.viewable window.parent <;> simp

/-- A window that is not unmapped is as visible as its parent. -/
theorem viewable_iff (sound : table.Sound) {xid : Nat}
    {window : WindowResource} (found : table.findWindow xid = some window)
    (inner : xid ≠ table.screen.rootWindow)
    (mapped : window.mapState ≠ .unmapped) :
    window.mapState = .viewable ↔ table.viewable window.parent = true := by
  rw [sound.settled.windows xid window found inner id, due, dueMapState]
    at mapped ⊢
  revert mapped
  cases window.mapRequested <;> cases table.isPolicyCandidate xid <;>
    cases window.policyVisible <;> cases table.viewable window.parent <;> simp

theorem viewable_above (sound : table.Sound) {xid upper : Nat}
    (way : table.OnPath xid upper) (seen : table.viewable xid = true) :
    table.viewable upper = true := by
  induction way with
  | self xid => exact seen
  | above found inner _ ih =>
      rw [viewable_of_found found, decide_eq_true_eq] at seen
      apply ih
      refine (sound.viewable_iff found inner ?_).mp seen
      rw [seen]
      exact MapState.noConfusion

/-- Below the root a window that is mapped all the way up is seen. -/
theorem viewable_of_path (sound : table.Sound) {xid : Nat}
    {window : WindowResource} (found : table.findWindow xid = some window)
    (mapped : ∀ upper other, table.OnPath xid upper →
      upper ≠ table.screen.rootWindow → table.findWindow upper = some other →
        other.mapState ≠ .unmapped) : table.viewable xid = true := by
  revert mapped
  apply @LinkedTree.descend _ _ _ sound.tree.linked (fun xid =>
    (∀ upper other, table.OnPath xid upper →
      upper ≠ table.screen.rootWindow → table.findWindow upper = some other →
        other.mapState ≠ .unmapped) → table.viewable xid = true) ?_ ?_ xid _
    (links_of_found found)
  · exact fun _ => sound.settled.root
  · intro node child link linked member ih mapped
    obtain ⟨above, isAbove, _, children⟩ := links_some linked
    rw [children] at member
    obtain ⟨inner, below, isBelow, parent⟩ := sound.tree.child isAbove member
    rw [viewable_of_found isBelow, decide_eq_true_eq]
    refine (sound.viewable_iff isBelow inner
      (mapped child below (.self child) inner isBelow)).mpr ?_
    rw [parent]
    refine ih fun upper other way => mapped upper other ?_
    apply OnPath.above isBelow inner
    rw [parent]
    exact way

end Sound

end ResourceTable

theorem map_states_consistent (screen : ScreenModel)
    (real : screen.rootWindow ≠ 0) (calls : List WindowCall) (xid : Nat)
    (window : WindowResource) :
    let table := (run ServerState.perform (.initial screen) calls).resources
    table.findWindow xid = some window → xid ≠ table.screen.rootWindow →
      (window.mapState = .unmapped ↔ window.mapRequested = false ∨
        (table.isPolicyCandidate xid = true ∧
          window.policyVisible = false)) ∧
      (window.mapState ≠ .unmapped →
        (window.mapState = .viewable ↔
          table.viewable window.parent = true)) ∧
      (window.mapState = .viewable ↔
        ∀ upper, table.OnPath xid upper → table.viewable upper = true) ∧
      (window.mapState = .viewable ↔
        ∀ upper other, table.OnPath xid upper →
          upper ≠ table.screen.rootWindow →
            table.findWindow upper = some other →
              other.mapState ≠ .unmapped) := by
  intro table found inner
  have sound : table.Sound := ServerState.run_sound real calls
  have seen : window.mapState = .viewable ↔ table.viewable xid = true := by
    rw [ResourceTable.viewable_of_found found, decide_eq_true_eq]
  refine ⟨sound.unmapped_iff found inner, sound.viewable_iff found inner,
    ?_, ?_⟩
  · rw [seen]
    exact ⟨fun here upper way => sound.viewable_above way here,
      fun all => all xid (.self xid)⟩
  · rw [seen]
    refine ⟨fun here upper other way _ isOther => ?_,
      sound.viewable_of_path found⟩
    have up := sound.viewable_above way here
    rw [ResourceTable.viewable_of_found isOther, decide_eq_true_eq] at up
    rw [up]
    exact MapState.noConfusion

/-- A client's window and a window inside it that asks to be mapped. -/
def nestedWindows : List WindowCall :=
  [.createWindow 1 0x200000 0x1fffff
    { xid := 0x200001, parent := 1, width := 8, height := 8 },
   .createWindow 1 0x200000 0x1fffff
    { xid := 0x200002, parent := 0x200001, width := 4, height := 4 },
   .setLocalMapIntent 0x200002 true]

theorem map_states_consistent_nested :
    ∃ window, (run ServerState.perform (.initial {}) nestedWindows
        ).resources.findWindow 0x200002 = some window ∧
      window.mapRequested = true ∧
      (window.mapState = .viewable ↔ ∀ upper,
        (run ServerState.perform (.initial {}) nestedWindows
          ).resources.OnPath 0x200002 upper →
        (run ServerState.perform (.initial {}) nestedWindows
          ).resources.viewable upper = true) := by
  have asked : ((run ServerState.perform (.initial {}) nestedWindows
      ).resources.findWindow 0x200002).any (·.mapRequested) = true := by
    decide +kernel
  obtain ⟨window, found, requested⟩ := (Option.any_eq_true _ _).mp asked
  exact ⟨window, found, requested, (map_states_consistent {} (by decide)
    nestedWindows 0x200002 window found (by decide +kernel)).2.2.1⟩

end Glasswyrm.Server
