import Glasswyrm.Server.RandRState
import Glasswyrm.Server.Reconfiguration

namespace Glasswyrm.Server

open Output Compositor OutputConfigurationCoordinator

/-! Whether an accepted candidate can be installed: RandR refuses a layout
whose mode lists are not those of the layout it has. -/

/-! ## Mode lists -/

/-- A mode without its marks. -/
def unmarked (mode : OutputMode) : OutputMode :=
  { mode with preferred := false, current := false }

def extents (mode : OutputMode) : Nat × Nat × Nat :=
  (mode.physicalWidth, mode.physicalHeight, mode.refreshMillihertz)

/-- The extents that a record adds to the modes of its output. -/
def addedExtents (descriptor : OutputDescriptor) (value : OutputUpsert) :
    Option (Nat × Nat × Nat) :=
  let wanted := (value.physicalPixelWidth, value.physicalPixelHeight,
    value.refreshMillihertz)
  if value.enabled && !descriptor.modes.any (extents · = wanted) then
    some wanted
  else none

/-- The extents of the modes that a layout lists beyond the inventory's. -/
def listedBeyond (inventory layout : OutputLayout) (id : Nat) :
    List (Nat × Nat × Nat) :=
  ((layout.descriptor id).modes.drop
    (inventory.descriptor id).modes.length).map extents

theorem sameMode_iff {first second : OutputMode} :
    sameMode first second = true ↔ unmarked first = unmarked second := by
  unfold sameMode unmarked
  simp only [Bool.and_eq_true, decide_eq_true_eq, OutputMode.mk.injEq,
    and_assoc, and_true]

theorem sameModes_iff {left right : List OutputMode} :
    sameModes left right = true ↔ left.map unmarked = right.map unmarked := by
  induction left generalizing right with
  | nil => cases right <;> simp [sameModes]
  | cons first left ih =>
      cases right with
      | nil => simp [sameModes]
      | cons second right =>
          rw [sameModes, Bool.and_eq_true, sameMode_iff, ih, List.map_cons,
            List.map_cons, List.cons.injEq]

theorem clearCurrent_unmarked (modes : List OutputMode) :
    (clearCurrent modes).map unmarked = modes.map unmarked := by
  rw [clearCurrent, List.map_map]
  rfl

theorem selectCurrent_unmarked (state : OutputState)
    (modes : List OutputMode) :
    (selectCurrent state modes).map unmarked = modes.map unmarked := by
  induction modes with
  | nil => rfl
  | cons mode rest ih =>
      rw [selectCurrent]
      split
      · rw [List.map_cons, clearCurrent_unmarked, List.map_cons]
        rfl
      · rw [List.map_cons, ih, List.map_cons]
        rfl

/-- What a list may have beyond the inventory's modes. -/
inductive AddedModes (id : Nat) : List OutputMode → Prop
  | none : AddedModes id []
  | arbitrary {modeId : Nat} (value : OutputUpsert)
      (derived : deriveOutputModeId id value.physicalPixelWidth
        value.physicalPixelHeight value.refreshMillihertz 0 (modeName value) =
          some modeId) :
      AddedModes id [unmarked (arbitraryMode id modeId value)]

/-- An added mode is known by its extents. -/
theorem AddedModes.ext {id : Nat} {first second : List OutputMode}
    (left : AddedModes id first) (right : AddedModes id second)
    (same : first.map extents = second.map extents) : first = second := by
  cases left with
  | none =>
      cases right with
      | none => rfl
      | arbitrary => cases same
  | arbitrary value derived =>
      cases right with
      | none => cases same
      | arbitrary other derived' =>
          obtain ⟨width, height, refresh⟩ : value.physicalPixelWidth =
              other.physicalPixelWidth ∧ value.physicalPixelHeight =
                other.physicalPixelHeight ∧
              value.refreshMillihertz = other.refreshMillihertz := by
            simpa [extents, unmarked, arbitraryMode] using same
          have name : modeName value = modeName other := by
            rw [modeName, modeName, width, height, refresh]
          rw [width, height, refresh, name, derived'] at derived
          obtain rfl := Option.some.inj derived
          unfold arbitraryMode
          rw [width, height, refresh, name]

/-- A layout lists the modes of the inventory, and some more. -/
structure ListsInventory (inventory layout : OutputLayout) : Prop where
  described : ∀ (id : Nat) (descriptor : OutputDescriptor),
    inventory.descriptors[id]? = some descriptor →
      ∃ modes added, layout.descriptors[id]? = some { descriptor with modes } ∧
        AddedModes id added ∧
        modes.map unmarked = descriptor.modes.map unmarked ++ added
  known : ∀ id : Nat, id ∈ layout.descriptors → id ∈ inventory.descriptors

variable {inventory committed candidate : OutputLayout}
  {staged : KeyMap OutputUpsert} {primary : Nat}

theorem ListsInventory.refl (inventory : OutputLayout) :
    ListsInventory inventory inventory where
  described _ descriptor found :=
    ⟨descriptor.modes, [], found, .none, (List.append_nil _).symm⟩
  known _ member := member

/-- The modes of a configured output. -/
theorem ConfiguredOutput.added {generation id : Nat}
    {descriptor described : OutputDescriptor} {old state : OutputState}
    {value : OutputUpsert}
    (configured : ConfiguredOutput generation primary id descriptor old value
      described state) :
    ∃ added, AddedModes id added ∧
      described.modes.map unmarked = descriptor.modes.map unmarked ++ added ∧
      added.map extents = (addedExtents descriptor value).toList := by
  have matching : modeMatches (proposedState id generation primary value) =
      fun mode => decide (extents mode = (value.physicalPixelWidth,
        value.physicalPixelHeight, value.refreshMillihertz)) := by
    funext mode
    rw [Bool.eq_iff_iff, modeMatches_iff, decide_eq_true_eq, extents,
      Prod.mk.injEq, Prod.mk.injEq]
    rfl
  unfold addedExtents
  simp only
  rw [← matching]
  cases configured with
  | disabled off =>
      rw [off]
      exact ⟨[], .none, (List.append_nil _).symm, rfl⟩
  | @enabled modes modeId on _ selected =>
      unfold selectMode at selected
      split at selected
      · rename_i mode first
        obtain ⟨rfl, rfl⟩ := Prod.mk.inj (Option.some.inj selected)
        have listed : descriptor.modes.any (modeMatches
            (proposedState id generation primary value)) = true :=
          List.any_eq_true.mpr ⟨mode, List.mem_of_find?_eq_some first,
            List.find?_some first⟩
        rw [listed]
        refine ⟨[], .none, ?_, by simp⟩
        rw [selectCurrent_unmarked, List.append_nil]
      · rename_i unlisted
        split at selected
        · obtain ⟨derivedId, derived, shape⟩ :=
            Option.map_eq_some_iff.mp selected
          obtain ⟨rfl, rfl⟩ := Prod.mk.inj shape
          have absent : descriptor.modes.any (modeMatches
              (proposedState id generation primary value)) = false := by
            rw [List.any_eq_false]
            exact List.find?_eq_none.mp unlisted
          rw [absent, on]
          refine ⟨[unmarked (arbitraryMode id derivedId value)],
            .arbitrary value derived, ?_, rfl⟩
          rw [List.map_append, clearCurrent_unmarked]
          rfl
        · cases selected

theorem AcceptedCandidate.listsInventory
    (accepted : AcceptedCandidate inventory committed staged primary
      candidate) : ListsInventory inventory candidate where
  described id descriptor found := by
    obtain ⟨value, described, state, _, configured, here, _⟩ :=
      accepted.proposed.outputs id descriptor found
    obtain ⟨added, arbitrary, modes, _⟩ := configured.added
    exact ⟨described.modes, added, configured.described_eq ▸ here, arbitrary,
      modes⟩
  known id member := by
    by_contra absent
    exact (accepted.proposed.others id absent).1 member

namespace ListsInventory

/-- The modes listed beyond the inventory's are the added ones. -/
theorem listedBeyond_eq {layout : OutputLayout} {id : Nat}
    {descriptor : OutputDescriptor} {modes added : List OutputMode}
    (found : inventory.descriptors[id]? = some descriptor)
    (here : layout.descriptors[id]? = some { descriptor with modes })
    (listed : modes.map unmarked = descriptor.modes.map unmarked ++ added) :
    listedBeyond inventory layout id = added.map extents := by
  have same : ∀ list : List OutputMode,
      list.map extents = (list.map unmarked).map extents := by
    intro list
    rw [List.map_map]
    rfl
  rw [listedBeyond, descriptor_of_lookup found, descriptor_of_lookup here, same,
    List.map_drop, listed, List.drop_left']
  rw [List.length_map]

theorem size_eq (lists : ListsInventory inventory candidate) :
    candidate.descriptors.size = inventory.descriptors.size := by
  apply le_antisymm (KeyMap.size_le_of_keys lists.known)
  refine KeyMap.size_le_of_keys fun id member => ?_
  obtain ⟨descriptor, found⟩ := KeyMap.mem_iff.mp member
  obtain ⟨_, _, here, _⟩ := lists.described id descriptor found
  exact KeyMap.mem_of_lookup here

/-- Two layouts have one inventory exactly when they add the same modes to
it. -/
theorem same_iff (left : ListsInventory inventory committed)
    (right : ListsInventory inventory candidate) :
    sameInventoryIdentity committed candidate = true ↔
      ∀ id : Nat, id ∈ inventory.descriptors →
        listedBeyond inventory committed id =
          listedBeyond inventory candidate id := by
  rw [sameInventoryIdentity, Bool.and_eq_true, decide_eq_true_eq, left.size_eq,
    right.size_eq, List.all_eq_true]
  simp only [true_and]
  constructor
  · intro same id member
    obtain ⟨descriptor, found⟩ := KeyMap.mem_iff.mp member
    obtain ⟨modes, added, here, _, listed⟩ := left.described id descriptor found
    obtain ⟨modes', added', there, _, listed'⟩ :=
      right.described id descriptor found
    have agree := same (id, { descriptor with modes })
      (KeyMap.mem_toList.mpr here)
    simp only [there, Option.any_some, decide_true, Bool.true_and,
      sameModes_iff] at agree
    rw [listed, listed', List.append_cancel_left_eq] at agree
    rw [listedBeyond_eq found here listed, listedBeyond_eq found there listed',
      agree]
  · rintro same ⟨id, described⟩ member
    have here := KeyMap.mem_toList.mp member
    have known := left.known id (KeyMap.mem_of_lookup here)
    obtain ⟨descriptor, found⟩ := KeyMap.mem_iff.mp known
    obtain ⟨modes, added, here', arbitrary, listed⟩ :=
      left.described id descriptor found
    obtain rfl := Option.some.inj (here.symm.trans here')
    obtain ⟨modes', added', there, arbitrary', listed'⟩ :=
      right.described id descriptor found
    have agree := same id known
    rw [listedBeyond_eq found here listed,
      listedBeyond_eq found there listed'] at agree
    simp only [there, Option.any_some, decide_true, Bool.true_and,
      sameModes_iff]
    rw [listed, listed', arbitrary.ext arbitrary' agree]

end ListsInventory

/-- The candidate lists beyond the inventory what its records add. -/
theorem AcceptedCandidate.listedBeyond_eq
    (accepted : AcceptedCandidate inventory committed staged primary
      candidate) {id : Nat} (known : id ∈ inventory.descriptors) :
    listedBeyond inventory candidate id =
      ((staged[id]?.bind (addedExtents (inventory.descriptor id))).toList) := by
  obtain ⟨descriptor, found⟩ := KeyMap.mem_iff.mp known
  obtain ⟨value, described, state, recorded, configured, here, _⟩ :=
    accepted.proposed.outputs id descriptor found
  obtain ⟨added, _, listed, same⟩ := configured.added
  rw [configured.described_eq] at here
  rw [ListsInventory.listedBeyond_eq found here listed, recorded,
    descriptor_of_lookup found]
  exact same

/-! ## Installation -/

/-- What a request changes of the modes beyond the inventory's: nothing. -/
def AddsCommittedModes (inventory committed : OutputLayout)
    (staged : KeyMap OutputUpsert) : Prop :=
  ∀ id : Nat, id ∈ inventory.descriptors →
    listedBeyond inventory committed id =
      (staged[id]?.bind (addedExtents (inventory.descriptor id))).toList

/-- RandR with a layout installed and identifiers left for another. -/
structure Installed (layout next : OutputLayout) (randr : RandRState) :
    Prop where
  layout : randr.layout = some layout
  room : randr.xids.Room (xidsNeeded next)

/-- The committed layouts are the inventory and accepted candidates. -/
theorem ConfigurationRun.committed_lists {layouts : List OutputLayout}
    {coordinator : OutputConfigurationCoordinator}
    (valid : (validateLayout inventory).valid = true)
    {allowed : ConfigurationRequest → Prop}
    (run : ConfigurationRun inventory allowed layouts coordinator) :
    coordinator = .fresh inventory coordinator.committedLayout ∧
      (validateLayout coordinator.committedLayout).valid = true ∧
      ListsInventory inventory coordinator.committedLayout := by
  induction run with
  | start => exact ⟨rfl, valid, .refl inventory⟩
  | configure _ _ configured ih =>
      rw [ih.1] at configured
      obtain ⟨staged, candidate, _, accepted, rfl⟩ := configure_some configured
      exact ⟨rfl, validateLayout_iff.mpr accepted.valid,
        accepted.listsInventory⟩

/-- A candidate can be installed over the committed layout, and the committed
layout over the candidate, exactly when it adds to the inventory the modes that
the committed layout has beyond it. -/
theorem candidate_installable_iff (inventory : OutputLayout)
    (valid : (validateLayout inventory).valid = true)
    (layouts : List OutputLayout)
    (coordinator : OutputConfigurationCoordinator)
    (run : ConfigurationRun inventory (fun _ => True) layouts coordinator)
    (staged : KeyMap OutputUpsert) (primary : Nat) (candidate : OutputLayout)
    (built : buildCandidate coordinator.inventory coordinator.committedLayout
      staged primary = .ok candidate) (before after : RandRState)
    (installed : Installed coordinator.committedLayout candidate before)
    (switched : Installed candidate coordinator.committedLayout after) :
    (before.configureOutputLayout candidate).isSome = true ∧
        (after.configureOutputLayout coordinator.committedLayout).isSome =
          true ↔
      AddsCommittedModes coordinator.inventory coordinator.committedLayout
        staged := by
  obtain ⟨clean, committedValid, lists⟩ := run.committed_lists valid
  have inventoried : coordinator.inventory = inventory :=
    congrArg OutputConfigurationCoordinator.inventory clean
  rw [inventoried] at built ⊢
  have accepted := buildCandidate_ok.mp built
  have forth := lists.same_iff accepted.listsInventory
  have back := accepted.listsInventory.same_iff lists
  rw [RandRState.configureOutputLayout_isSome installed.layout
      (validateLayout_iff.mpr accepted.valid) installed.room,
    RandRState.configureOutputLayout_isSome switched.layout committedValid
      switched.room, forth, back]
  have added : ∀ id : Nat, id ∈ inventory.descriptors →
      listedBeyond inventory candidate id =
        (staged[id]?.bind (addedExtents (inventory.descriptor id))).toList :=
    fun id known => accepted.listedBeyond_eq known
  constructor
  · intro same id known
    exact (same.1 id known).trans (added id known)
  · intro same
    exact ⟨fun id known => (same id known).trans (added id known).symm,
      fun id known => (added id known).trans (same id known).symm⟩

/-- RandR with a layout and its first identifiers. -/
def RandRState.holding (layout : OutputLayout) : RandRState where
  layout := some layout

theorem installed_holding {layout next : OutputLayout}
    (few : xidsNeeded next ≤ 1000) : Installed layout next (.holding layout) :=
  ⟨rfl, nofun, by
    change kRandROutputId + xidsNeeded next ≤ xidMaximum
    unfold kRandROutputId xidMaximum
    omega⟩

/-- The records of a request under their outputs' identifiers. -/
def ConfigurationRequest.records (request : ConfigurationRequest) :
    KeyMap OutputUpsert :=
  KeyMap.file (·.outputId) ∅ request.outputs

/-- Moving an output adds no mode. -/
theorem candidate_installable_iff_moved :
    ∃ candidate, buildCandidate pairLayout pairLayout movingRequest.records 1 =
        .ok candidate ∧
      (((RandRState.holding pairLayout).configureOutputLayout candidate).isSome =
            true ∧
          ((RandRState.holding candidate).configureOutputLayout
            pairLayout).isSome = true ↔
        AddsCommittedModes pairLayout pairLayout movingRequest.records) := by
  have accepted : (match buildCandidate pairLayout pairLayout
      movingRequest.records 1 with
    | .ok candidate => decide (xidsNeeded candidate ≤ 1000)
    | .error _ => false) = true := by decide +kernel
  split at accepted
  · rename_i candidate built
    exact ⟨candidate, built, candidate_installable_iff pairLayout
      pairLayout_valid [pairLayout] (.start pairLayout) .start
      movingRequest.records 1 candidate built _ _
      (installed_holding (of_decide_eq_true accepted))
      (installed_holding (by decide +kernel))⟩
  · cases accepted

/-- The request that gives the first output of the pair a mode of its own. -/
def resizingRequest : ConfigurationRequest where
  configurationId := 5
  outputs :=
    [{ outputRecord (stateOf pairLayout 1) with
        logicalWidth := 320
        logicalHeight := 200
        physicalPixelWidth := 320
        physicalPixelHeight := 200 },
      { outputRecord (stateOf pairLayout 2) with logicalX := 320 }]
  primaryOutputId := 1

/-- An arbitrary mode is accepted by the coordinator and refused by RandR. -/
theorem arbitrary_mode_not_installable :
    ¬∀ (inventory : OutputLayout), (validateLayout inventory).valid = true →
      ∀ (layouts : List OutputLayout)
        (coordinator : OutputConfigurationCoordinator),
        ConfigurationRun inventory (fun _ => True) layouts coordinator →
        ∀ (staged : KeyMap OutputUpsert) (primary : Nat)
          (candidate : OutputLayout),
          buildCandidate coordinator.inventory coordinator.committedLayout
            staged primary = .ok candidate →
          ∀ before after : RandRState,
            Installed coordinator.committedLayout candidate before →
            Installed candidate coordinator.committedLayout after →
              (before.configureOutputLayout candidate).isSome = true ∧
                (after.configureOutputLayout
                  coordinator.committedLayout).isSome = true := by
  intro installable
  have refused : (match buildCandidate pairLayout pairLayout
      resizingRequest.records 1 with
    | .ok candidate => decide (xidsNeeded candidate ≤ 1000) &&
        ((RandRState.holding pairLayout).configureOutputLayout
          candidate).isNone
    | .error _ => false) = true := by decide +kernel
  split at refused
  · rename_i candidate built
    obtain ⟨few, none⟩ := Bool.and_eq_true_iff.mp refused
    have accepted := (installable pairLayout pairLayout_valid [pairLayout]
      (.start pairLayout) .start resizingRequest.records 1 candidate built
      (.holding pairLayout) (.holding candidate)
      (installed_holding (of_decide_eq_true few))
      (installed_holding (by decide +kernel))).1
    rw [Option.isNone_iff_eq_none.mp none] at accepted
    cases accepted
  · cases refused

end Glasswyrm.Server
