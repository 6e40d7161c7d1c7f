import Glasswyrm.Library.Numbering
import Glasswyrm.Library.Run
import Glasswyrm.Output.ValidLayout
import Glasswyrm.Server.RandRState

namespace Glasswyrm.Server

open Output Compositor Library

/-! The identifiers over a whole run: a number is given to one output, CRTC or
mode and stays its own.  A mode goes by its internal identifier, so that two
outputs which show different modes under one identifier share the number. -/

/-- What an identifier is kept for. -/
inductive XidOwner where
  | output (id : Nat)
  | crtc (id : Nat)
  | mode (id : Nat)
deriving DecidableEq, Repr

/-- What RandR clients see under an identifier. -/
inductive RandRObject where
  | output (id : Nat)
  | crtc (id : Nat)
  | mode (id width height refreshMillihertz flags : Nat) (name : List UInt8)
deriving DecidableEq

def RandRObject.owner : RandRObject → XidOwner
  | output id => .output id
  | crtc id => .crtc id
  | mode id _ _ _ _ _ => .mode id

def RandRModeObject.object (mode : RandRModeObject) : RandRObject :=
  .mode mode.internalId mode.width mode.height mode.refreshMillihertz mode.flags
    mode.name

def RandROutputObject.published (output : RandROutputObject) :
    List (RandRObject × Nat) :=
  (.output output.internalId, output.xid) ::
    (.crtc output.internalId, output.crtcXid) ::
      output.modes.map fun mode => (mode.object, mode.xid)

/-- The objects with their identifiers. -/
def RandRState.published (randr : RandRState) : List (RandRObject × Nat) :=
  randr.outputs.flatMap (·.published)

/-! ## The table -/

namespace XidTable

variable {table before after : XidTable}

def assigned (table : XidTable) : XidOwner → Option Nat
  | .output id => table.outputXids[id]?.map (·.output)
  | .crtc id => table.outputXids[id]?.map (·.crtc)
  | .mode id => table.modeXids[id]?

def Sound (table : XidTable) : Prop :=
  Numbering kRandROutputId table.nextXid table.assigned

theorem sound_empty : ({} : XidTable).Sound := by
  have nothing : ({} : XidTable).assigned = fun _ => none := by
    funext owner
    cases owner <;> simp [assigned]
  unfold Sound
  rw [nothing]
  exact Numbering.empty kRandROutputId

/-- Allocations keep the identifiers apart and take none back. -/
structure Grown (before after : XidTable) : Prop where
  sound : before.Sound → after.Sound
  retains : Retains before.assigned after.assigned

theorem Grown.refl (table : XidTable) : Grown table table :=
  ⟨id, .refl _⟩

theorem Grown.trans {first second third : XidTable}
    (early : Grown first second) (late : Grown second third) :
    Grown first third :=
  ⟨late.sound ∘ early.sound, early.retains.trans late.retains⟩

theorem allocate_eq {next : XidTable} {xid : Nat}
    (allocated : table.allocate = some (xid, next)) :
    xid = table.nextXid ∧
      next = { table with nextXid := table.nextXid + 1 } := by
  unfold allocate at allocated
  split at allocated
  · cases allocated
  · obtain ⟨rfl, rfl⟩ := Prod.mk.inj (Option.some.inj allocated)
    exact ⟨rfl, rfl⟩

/-- One new number. -/
theorem grown_assign {owner : XidOwner}
    (new : before.assigned owner = none)
    (next : after.nextXid = before.nextXid + 1)
    (same : after.assigned =
      Function.update before.assigned owner (some before.nextXid)) :
    Grown before after where
  sound := by
    intro sound
    unfold Sound
    rw [next, same]
    exact sound.assign owner
  retains := by
    rw [same]
    exact Retains.assign new before.nextXid

theorem allocateMode_grown {modeId : Nat}
    (allocated : before.allocateMode modeId = some after) :
    Grown before after ∧ (after.assigned (.mode modeId)).isSome = true := by
  unfold allocateMode at allocated
  split at allocated
  · rename_i known
    obtain rfl := Option.some.inj allocated
    refine ⟨.refl _, ?_⟩
    rwa [assigned, ← Std.ExtTreeMap.contains_eq_isSome_getElem?]
  · rename_i unknown
    obtain ⟨⟨xid, middle⟩, given, rest⟩ := Option.bind_eq_some_iff.mp allocated
    obtain ⟨rfl, rfl⟩ := allocate_eq given
    obtain rfl := Option.some.inj rest
    have absent : before.modeXids[modeId]? = none :=
      Std.ExtTreeMap.getElem?_eq_none (by simpa using unknown)
    refine ⟨@grown_assign _ _ (.mode modeId) absent rfl ?_, ?_⟩
    · funext owner
      cases owner with
      | output id => rfl
      | crtc id => rfl
      | mode id =>
          rw [Function.update_apply, assigned, KeyMap.lookup_insert]
          simp only [XidOwner.mode.injEq, eq_comm (a := id)]
          rfl
    · rw [assigned, KeyMap.lookup_insert, if_pos rfl]
      rfl

theorem insertOutput_assigned (id : Nat) (xids : ObjectIds) (next : Nat) :
    XidTable.assigned
        { before with
          outputXids := before.outputXids.insert id xids
          nextXid := next } =
      Function.update
        (Function.update before.assigned (.output id) (some xids.output))
        (.crtc id) (some xids.crtc) := by
  funext owner
  rw [Function.update_apply, Function.update_apply]
  cases owner with
  | mode other => simp [assigned]
  | output other =>
      simp only [assigned, KeyMap.lookup_insert, XidOwner.output.injEq,
        reduceCtorEq, if_false, eq_comm (a := other)]
      split <;> simp
  | crtc other =>
      simp only [assigned, KeyMap.lookup_insert, XidOwner.crtc.injEq,
        reduceCtorEq, if_false, eq_comm (a := other)]
      split <;> simp

theorem allocateOutput_grown {id : Nat}
    (allocated : before.allocateOutput id = some after) :
    Grown before after ∧ (after.outputXids[id]?).isSome = true := by
  unfold allocateOutput at allocated
  split at allocated
  · rename_i known
    obtain rfl := Option.some.inj allocated
    exact ⟨.refl _, by
      rwa [← Std.ExtTreeMap.contains_eq_isSome_getElem?]⟩
  · rename_i unknown
    obtain ⟨⟨output, middle⟩, first, rest⟩ :=
      Option.bind_eq_some_iff.mp allocated
    obtain ⟨rfl, rfl⟩ := allocate_eq first
    obtain ⟨⟨crtc, last⟩, second, rest⟩ := Option.bind_eq_some_iff.mp rest
    obtain ⟨rfl, rfl⟩ := allocate_eq second
    obtain rfl := Option.some.inj rest
    have absent : before.outputXids[id]? = none :=
      Std.ExtTreeMap.getElem?_eq_none (by simpa using unknown)
    have unnamed : before.assigned (.output id) = none := by
      rw [assigned, absent, Option.map_none]
    have uncrtc : Function.update before.assigned (.output id)
        (some before.nextXid) (.crtc id) = none := by
      rw [Function.update_of_ne (by simp), assigned, absent, Option.map_none]
    refine ⟨⟨?_, ?_⟩, ?_⟩
    · intro sound
      rw [Sound, insertOutput_assigned]
      exact Numbering.assign (Numbering.assign sound (.output id)) (.crtc id)
    · rw [insertOutput_assigned]
      exact (Retains.assign unnamed _).trans (Retains.assign uncrtc _)
    · rw [KeyMap.lookup_insert, if_pos rfl]
      rfl

/-- What an output needs is there. -/
structure Serves (layout : OutputLayout) (entry : Nat × OutputDescriptor)
    (table : XidTable) : Prop where
  output : (table.outputXids[entry.1]?).isSome = true
  listed : ∀ mode ∈ entry.2.modes,
    (table.assigned (.mode mode.id)).isSome = true
  shown : ∀ state, layout.states[entry.1]? = some state →
    state.enabled = true → (table.assigned (.mode state.modeId)).isSome = true

theorem outputXids_isSome (grown : Grown before after) {id : Nat}
    (given : (before.outputXids[id]?).isSome = true) :
    (after.outputXids[id]?).isSome = true := by
  have named := @Retains.isSome _ _ _ grown.retains (.output id)
    (by simpa [assigned] using given)
  simpa [assigned] using named

theorem Serves.grown {layout : OutputLayout}
    {entry : Nat × OutputDescriptor} (grown : Grown before after)
    (serves : Serves layout entry before) : Serves layout entry after where
  output := outputXids_isSome grown serves.output
  listed mode member := grown.retains.isSome (serves.listed mode member)
  shown state found on := grown.retains.isSome (serves.shown state found on)

theorem allocateDescriptor_grown {layout : OutputLayout}
    {entry : Nat × OutputDescriptor}
    (allocated : allocateDescriptor layout before entry = some after) :
    Grown before after ∧ Serves layout entry after := by
  unfold allocateDescriptor at allocated
  obtain ⟨first, output, rest⟩ := Option.bind_eq_some_iff.mp allocated
  obtain ⟨second, modes, rest⟩ := Option.bind_eq_some_iff.mp rest
  obtain ⟨named, served⟩ := allocateOutput_grown output
  obtain ⟨listed, each⟩ := foldlM_achieves
    (fun mode table =>
      (table.assigned (.mode mode.id)).isSome = true)
    Grown.refl (fun _ _ _ early late => early.trans late)
    (fun _ _ _ grown given => grown.retains.isSome given)
    (fun _ mode _ _ taken => allocateMode_grown taken) modes
  have shows : Grown second after ∧ ∀ state,
      layout.states[entry.1]? = some state → state.enabled = true →
        (after.assigned (.mode state.modeId)).isSome = true := by
    dsimp only at rest
    split at rest
    · obtain ⟨shown, current⟩ := allocateMode_grown rest
      refine ⟨shown, ?_⟩
      intro state found _
      rwa [found, Option.getD_some] at current
    · rename_i off
      obtain rfl := Option.some.inj rest
      refine ⟨.refl _, ?_⟩
      intro state found on
      rw [found, Option.getD_some] at off
      exact absurd on off
  obtain ⟨shown, current⟩ := shows
  exact ⟨(named.trans listed).trans shown,
    { output := outputXids_isSome (listed.trans shown) served
      listed := fun mode member => shown.retains.isSome (each mode member)
      shown := current }⟩

theorem allocateLayout_grown {layout : OutputLayout}
    (allocated : before.allocateLayout layout = some after) :
    Grown before after ∧
      ∀ entry ∈ layout.descriptors.toList, Serves layout entry after :=
  foldlM_achieves (Serves layout)
    Grown.refl (fun _ _ _ early late => early.trans late)
    (fun _ _ _ grown serves => serves.grown grown)
    (fun _ _ _ _ taken => allocateDescriptor_grown taken) allocated

end XidTable

/-! ## What a layout publishes -/

/-- The modes of an output: those it lists, and the one it shows. -/
def shownModes (descriptor : OutputDescriptor) (state : OutputState) :
    List RandRObject :=
  descriptor.modes.map
      (fun mode => .mode mode.id mode.physicalWidth mode.physicalHeight
        mode.refreshMillihertz mode.flags mode.name) ++
    if state.enabled && !descriptor.modes.any (·.id = state.modeId) then
      [.mode state.modeId state.physicalWidth state.physicalHeight
        state.refreshMillihertz 0
        (decimalBytes state.physicalWidth ++ asciiBytes "x" ++
          decimalBytes state.physicalHeight)]
    else []

/-- The modes that some output lists or shows. -/
def allModes (layout : OutputLayout) : List RandRObject :=
  layout.outputOrder.flatMap fun id =>
    shownModes (layout.descriptor id) (layout.states[id]?.getD {})

/-- No two modes of the layout share an internal identifier. -/
def ModesAgree (layout : OutputLayout) : Prop :=
  ∀ first ∈ allModes layout, ∀ second ∈ allModes layout,
    first.owner = second.owner → first = second

/-- The mode that the CRTC of an output is said to have. -/
def RandROutputObject.currentMode (output : RandROutputObject) :
    Option RandRModeObject :=
  output.modes.find? (·.current)

/-- An output of the layout, with modes of the layout: the CRTC of an enabled
one has the mode of its state. -/
structure RefersWithin (layout : OutputLayout) (output : RandROutputObject) :
    Prop where
  known : output.internalId ∈ layout.descriptors
  modes : ∀ mode ∈ output.modes, mode.object ∈ allModes layout
  current : output.enabled = true →
    ∃ state mode, layout.states[output.internalId]? = some state ∧
      output.currentMode = some mode ∧ mode ∈ output.modes ∧
      mode.internalId = state.modeId

section

variable {layout : OutputLayout} {table : XidTable} {id : Nat}

theorem RandROutputObject.of_modes (table : XidTable) :
    (RandROutputObject.of layout table id).modes.map (·.object) =
      shownModes (layout.descriptor id) (layout.states[id]?.getD {}) := by
  unfold RandROutputObject.of shownModes
  simp only [List.map_append, List.map_map]
  congr 1
  split <;> rfl

theorem RandROutputObject.of_current {mode : RandRModeObject}
    (member : mode ∈ (RandROutputObject.of layout table id).modes) :
    mode.current = true ↔
      mode.internalId = (layout.states[id]?.getD {}).modeId := by
  unfold RandROutputObject.of at member
  simp only [List.mem_append, List.mem_map] at member
  obtain ⟨listed, _, rfl⟩ | member := member
  · simp [RandRModeObject.listed, eq_comm]
  · split at member
    · obtain rfl := List.mem_singleton.mp member
      simp [RandRModeObject.unlisted]
    · cases member

/-- An enabled output has its current mode among its modes. -/
theorem RandROutputObject.of_shows (table : XidTable) {state : OutputState}
    (found : layout.states[id]? = some state) (on : state.enabled = true) :
    ∃ mode ∈ (RandROutputObject.of layout table id).modes,
      mode.internalId = state.modeId := by
  unfold RandROutputObject.of
  simp only [found, Option.getD_some, List.mem_append, List.mem_map]
  by_cases known : ∃ mode ∈ (layout.descriptor id).modes,
      mode.id = state.modeId
  · obtain ⟨mode, member, same⟩ := known
    exact ⟨_, .inl ⟨mode, member, rfl⟩, same⟩
  · refine ⟨.unlisted table state, .inr ?_, rfl⟩
    rw [if_pos, List.mem_singleton]
    simpa [on] using known

theorem RandROutputObject.of_refersWithin (valid : ValidLayout layout)
    (ordered : id ∈ layout.outputOrder) :
    RefersWithin layout (.of layout table id) := by
  have present := valid.mem_outputOrder.mp ordered
  obtain ⟨state, found⟩ := KeyMap.mem_iff.mp present
  have here : (layout.states[id]?.getD {}) = state := by
    rw [found, Option.getD_some]
  refine ⟨(valid.complete id).mp present, ?_, ?_⟩
  · intro mode member
    refine List.mem_flatMap.mpr ⟨id, ordered, ?_⟩
    rw [← RandROutputObject.of_modes table]
    exact List.mem_map_of_mem member
  · intro on
    have enabled : state.enabled = true := by
      rw [← here]
      exact on
    obtain ⟨shown, among, same⟩ :=
      RandROutputObject.of_shows table found enabled
    have current := (RandROutputObject.of_current among).mpr (here ▸ same)
    obtain ⟨mode, first⟩ := Option.isSome_iff_exists.mp
      (List.find?_isSome.mpr ⟨shown, among, current⟩)
    have member := List.mem_of_find?_eq_some first
    have its := (RandROutputObject.of_current member).mp
      (List.find?_some first)
    exact ⟨state, mode, found, first, member, here ▸ its⟩

/-- Whatever is published has the identifier that is kept for it. -/
theorem RandROutputObject.of_published
    (serves : XidTable.Serves layout (id, layout.descriptor id) table)
    {state : OutputState} (found : layout.states[id]? = some state)
    {object : RandRObject} {xid : Nat}
    (member : (object, xid) ∈ (RandROutputObject.of layout table id).published) :
    table.assigned object.owner = some xid := by
  obtain ⟨xids, named⟩ := Option.isSome_iff_exists.mp serves.output
  have modes : ∀ modeId : Nat,
      (table.assigned (.mode modeId)).isSome = true →
        table.assigned (.mode modeId) =
          some (table.modeXids[modeId]?.getD 0) := by
    intro modeId given
    obtain ⟨number, kept⟩ := Option.isSome_iff_exists.mp given
    rw [kept, show table.modeXids[modeId]? = some number from kept,
      Option.getD_some]
  unfold RandROutputObject.published at member
  obtain same | member := List.mem_cons.mp member
  · obtain ⟨rfl, rfl⟩ := Prod.mk.inj same
    simp [RandRObject.owner, XidTable.assigned, RandROutputObject.of, named]
  obtain same | member := List.mem_cons.mp member
  · obtain ⟨rfl, rfl⟩ := Prod.mk.inj same
    simp [RandRObject.owner, XidTable.assigned, RandROutputObject.of, named]
  obtain ⟨mode, among, same⟩ := List.mem_map.mp member
  obtain ⟨rfl, rfl⟩ := Prod.mk.inj same
  unfold RandROutputObject.of at among
  simp only [found, Option.getD_some, List.mem_append, List.mem_map] at among
  obtain ⟨listed, kept, rfl⟩ | shown := among
  · exact modes listed.id (serves.listed listed kept)
  · split at shown
    · rename_i on
      obtain rfl := List.mem_singleton.mp shown
      exact modes state.modeId
        (serves.shown state found (Bool.and_eq_true_iff.mp on).1)
    · cases shown

end

/-! ## A run -/

namespace RandRState

variable {randr next : RandRState} {layout : OutputLayout}

/-- The outputs are those of the installed layout. -/
structure Shows (randr : RandRState) (layout : OutputLayout) : Prop where
  valid : ValidLayout layout
  outputs : randr.outputs = layout.outputOrder.map (.of layout randr.xids)
  serves : ∀ entry ∈ layout.descriptors.toList,
    XidTable.Serves layout entry randr.xids

structure Consistent (randr : RandRState) : Prop where
  sound : randr.xids.Sound
  empty : randr.layout = none → randr.outputs = []
  shows : ∀ layout, randr.layout = some layout → randr.Shows layout

theorem consistent_initial : ({} : RandRState).Consistent where
  sound := XidTable.sound_empty
  empty _ := rfl
  shows layout installed := by cases installed

/-- What a successful call does. -/
theorem configureOutputLayout_some
    (configured : randr.configureOutputLayout layout = some next) :
    ValidLayout layout ∧ randr.xids.allocateLayout layout = some next.xids ∧
      next.layout = some layout ∧
      next.outputs = layout.outputOrder.map (.of layout next.xids) := by
  unfold configureOutputLayout at configured
  split at configured
  · cases configured
  · rename_i accepted
    obtain ⟨xids, allocated, made⟩ := Option.bind_eq_some_iff.mp configured
    obtain rfl := Option.some.inj made
    have valid : (validateLayout layout).valid = true := by
      cases checked : (validateLayout layout).valid with
      | true => rfl
      | false => simp [checked] at accepted
    exact ⟨validateLayout_iff.mp valid, allocated, rfl, rfl⟩

theorem configureOutputLayout_consistent (consistent : randr.Consistent)
    (configured : randr.configureOutputLayout layout = some next) :
    next.Consistent ∧ Retains randr.xids.assigned next.xids.assigned := by
  obtain ⟨valid, allocated, installed, outputs⟩ :=
    configureOutputLayout_some configured
  obtain ⟨grown, served⟩ := XidTable.allocateLayout_grown allocated
  refine ⟨⟨grown.sound consistent.sound, ?_, ?_⟩, grown.retains⟩
  · intro missing
    rw [installed] at missing
    cases missing
  · intro other same
    obtain rfl := Option.some.inj (installed.symm.trans same)
    exact ⟨valid, outputs, served⟩

/-- The call: a layout that is refused changes nothing. -/
def step (randr : RandRState) (layout : OutputLayout) : RandRState :=
  (randr.configureOutputLayout layout).getD randr

/-- The state after the layouts of a run. -/
def reached (layouts : List OutputLayout) : RandRState :=
  run step {} layouts

theorem step_consistent (consistent : randr.Consistent)
    (layout : OutputLayout) :
    (randr.step layout).Consistent ∧
      Retains randr.xids.assigned (randr.step layout).xids.assigned := by
  unfold step
  cases configured : randr.configureOutputLayout layout with
  | none => exact ⟨consistent, .refl _⟩
  | some next => exact configureOutputLayout_consistent consistent configured

theorem run_consistent (consistent : randr.Consistent)
    (layouts : List OutputLayout) :
    (run step randr layouts).Consistent ∧
      Retains randr.xids.assigned (run step randr layouts).xids.assigned := by
  induction layouts generalizing randr with
  | nil => exact ⟨consistent, .refl _⟩
  | cons layout later ih =>
      obtain ⟨kept, early⟩ := step_consistent consistent layout
      obtain ⟨final, late⟩ := ih kept
      exact ⟨final, early.trans late⟩

theorem reached_consistent (layouts : List OutputLayout) :
    (reached layouts).Consistent :=
  (run_consistent consistent_initial layouts).1

theorem reached_append (early late : List OutputLayout) :
    Retains (reached early).xids.assigned
      (reached (early ++ late)).xids.assigned := by
  unfold reached
  rw [run_append]
  exact (run_consistent (reached_consistent early) late).2

/-! ## Identifiers -/

theorem Shows.published (shows : randr.Shows layout) {object : RandRObject}
    {xid : Nat} :
    (object, xid) ∈ randr.published ↔
      ∃ id ∈ layout.outputOrder,
        (object, xid) ∈ (RandROutputObject.of layout randr.xids id).published := by
  rw [RandRState.published, shows.outputs, List.flatMap_map, List.mem_flatMap]

theorem Shows.assigned (shows : randr.Shows layout) {object : RandRObject}
    {xid : Nat} (published : (object, xid) ∈ randr.published) :
    randr.xids.assigned object.owner = some xid := by
  obtain ⟨id, ordered, member⟩ := shows.published.mp published
  obtain ⟨state, found⟩ :=
    KeyMap.mem_iff.mp (shows.valid.mem_outputOrder.mp ordered)
  have described := shows.valid.described found
  exact RandROutputObject.of_published
    (shows.serves _ (KeyMap.mem_toList.mpr described)) found member

theorem Consistent.assigned (consistent : randr.Consistent)
    {object : RandRObject} {xid : Nat}
    (published : (object, xid) ∈ randr.published) :
    randr.xids.assigned object.owner = some xid := by
  cases installed : randr.layout with
  | none =>
      rw [RandRState.published, consistent.empty installed] at published
      cases published
  | some layout => exact (consistent.shows layout installed).assigned published

/-- The published modes are those of the layout. -/
theorem Shows.mode_iff (shows : randr.Shows layout) {object : RandRObject} :
    object ∈ allModes layout ↔
      (∃ xid, (object, xid) ∈ randr.published) ∧
        ∃ id, object.owner = .mode id := by
  constructor
  · intro member
    obtain ⟨id, ordered, listed⟩ := List.mem_flatMap.mp member
    rw [← RandROutputObject.of_modes randr.xids] at listed
    obtain ⟨mode, among, rfl⟩ := List.mem_map.mp listed
    refine ⟨⟨mode.xid, shows.published.mpr ⟨id, ordered, ?_⟩⟩, _, rfl⟩
    exact List.mem_cons_of_mem _ (List.mem_cons_of_mem _
      (List.mem_map_of_mem among))
  · rintro ⟨⟨xid, published⟩, modeId, owner⟩
    obtain ⟨id, ordered, member⟩ := shows.published.mp published
    unfold RandROutputObject.published at member
    obtain same | member := List.mem_cons.mp member
    · obtain ⟨rfl, _⟩ := Prod.mk.inj same
      cases owner
    obtain same | member := List.mem_cons.mp member
    · obtain ⟨rfl, _⟩ := Prod.mk.inj same
      cases owner
    obtain ⟨mode, among, same⟩ := List.mem_map.mp member
    obtain ⟨rfl, _⟩ := Prod.mk.inj same
    exact List.mem_flatMap.mpr ⟨id, ordered, by
      rw [← RandROutputObject.of_modes randr.xids]
      exact List.mem_map_of_mem among⟩

/-- Two different objects have two identifiers. -/
def IdentifiersUnique (randr : RandRState) : Prop :=
  ∀ first ∈ randr.published, ∀ second ∈ randr.published,
    first.2 = second.2 → first.1 = second.1

/-- Only the modes of a layout can be taken for one another. -/
theorem Consistent.identifiersUnique_iff (consistent : randr.Consistent) :
    randr.IdentifiersUnique ↔
      ∀ layout, randr.layout = some layout → ModesAgree layout := by
  constructor
  · intro unique layout installed first here second there same
    have shows := consistent.shows layout installed
    obtain ⟨⟨left, firstPublished⟩, _⟩ := shows.mode_iff.mp here
    obtain ⟨⟨right, secondPublished⟩, _⟩ := shows.mode_iff.mp there
    refine unique (first, left) firstPublished (second, right)
      secondPublished ?_
    have firstNumber := shows.assigned firstPublished
    rw [same, shows.assigned secondPublished] at firstNumber
    exact (Option.some.inj firstNumber).symm
  · intro agree
    rintro ⟨first, left⟩ here ⟨second, right⟩ there same
    obtain rfl : left = right := same
    have owners : first.owner = second.owner :=
      consistent.sound.distinct _ _ left (consistent.assigned here)
        (consistent.assigned there)
    cases installed : randr.layout with
    | none =>
        rw [RandRState.published, consistent.empty installed] at here
        cases here
    | some layout =>
        have shows := consistent.shows layout installed
        cases first with
        | output id =>
            cases second <;> simp_all [RandRObject.owner]
        | crtc id =>
            cases second <;> simp_all [RandRObject.owner]
        | mode id width height refreshMillihertz flags name =>
            exact agree layout installed _
              (shows.mode_iff.mpr ⟨⟨left, here⟩, id, rfl⟩) _
              (shows.mode_iff.mpr ⟨⟨left, there⟩, id, owners.symm⟩) owners

/-- Over any sequence of layouts: what is published again has the identifier
it had; a published output is one of the installed layout, with its modes; a
layout that is refused changes nothing.  Different objects have different
identifiers exactly as long as no two modes of the installed layout share an
internal identifier. -/
theorem identifiers_kept (layouts : List OutputLayout) :
    (∀ later : List OutputLayout, ∀ first ∈ (reached layouts).published,
      ∀ second ∈ (reached (layouts ++ later)).published,
        first.1.owner = second.1.owner → first.2 = second.2) ∧
    ((reached layouts).IdentifiersUnique ↔
      ∀ layout, (reached layouts).layout = some layout → ModesAgree layout) ∧
    (∀ output ∈ (reached layouts).outputs,
      ∃ layout, (reached layouts).layout = some layout ∧
        RefersWithin layout output) ∧
    ∀ layout, (reached layouts).configureOutputLayout layout = none →
      reached (layouts ++ [layout]) = reached layouts := by
  have consistent := reached_consistent layouts
  refine ⟨?_, consistent.identifiersUnique_iff, ?_, ?_⟩
  · rintro later ⟨first, left⟩ here ⟨second, right⟩ there same
    have kept := reached_append layouts later _ _ (consistent.assigned here)
    rw [show first.owner = second.owner from same,
      (reached_consistent _).assigned there] at kept
    exact (Option.some.inj kept).symm
  · intro output member
    cases installed : (reached layouts).layout with
    | none =>
        rw [consistent.empty installed] at member
        cases member
    | some layout =>
        have shows := consistent.shows layout installed
        rw [shows.outputs] at member
        obtain ⟨id, ordered, rfl⟩ := List.mem_map.mp member
        exact ⟨layout, rfl,
          RandROutputObject.of_refersWithin shows.valid ordered⟩
  · intro layout refused
    unfold reached at refused ⊢
    rw [run_concat, step, refused, Option.getD_none]

end RandRState

/-- The second output of the pair lists the mode that the first one, which
takes any mode, is given in another size. -/
def sharedModeLayout : OutputLayout :=
  { pairLayout with
    states := pairLayout.states
      |>.insert 1
        { (pairLayout.states[1]?.getD {}) with
          modeId := 22
          logicalWidth := 320
          logicalHeight := 200
          physicalWidth := 320
          physicalHeight := 200 }
      |>.insert 2 { (pairLayout.states[2]?.getD {}) with logicalX := 320 }
    rootLogicalWidth := 1120 }

theorem sharedMode_published :
    ¬∀ layouts : List OutputLayout,
      (∀ layout ∈ layouts, (validateLayout layout).valid = true) →
        (RandRState.reached layouts).IdentifiersUnique := by
  intro alwaysUnique
  have unique := alwaysUnique [sharedModeLayout] (by decide +kernel)
  have one : (RandRObject.mode 22 320 200 60000 0 (asciiBytes "320x200"), 259) ∈
      (RandRState.reached [sharedModeLayout]).published := by decide +kernel
  have other : (RandRObject.mode 22 800 600 60000 0 [98], 259) ∈
      (RandRState.reached [sharedModeLayout]).published := by decide +kernel
  exact absurd (unique _ one _ other rfl) (by decide)

end Glasswyrm.Server
