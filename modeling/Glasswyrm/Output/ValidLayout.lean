import Glasswyrm.Output.Layout

namespace Glasswyrm.Output

open Lifecycle LayoutValidationResult

/-! What an accepted layout is: the checks of the validation, without their
order and the errors they give. -/

structure ValidOutput (id : Nat) (descriptor : OutputDescriptor)
    (state : OutputState) : Prop where
  nonzero : id ≠ 0
  described : descriptor.id = id
  identified : state.outputId = id
  named : validName descriptor.name = true
  metadata : descriptorMetadataIsValid descriptor = true
  placed : state.enabled = true → 0 ≤ state.logicalX ∧ 0 ≤ state.logicalY
  scale : validScaleState descriptor state = true
  transform : supportsTransform descriptor state.transform = true
  mode : validModeState descriptor state = true
  extent : validLogicalExtent state = true
  disabled : validDisabledState state = true

/-- A disabled output has no mode. -/
theorem ValidOutput.dark {id : Nat} {descriptor : OutputDescriptor}
    {state : OutputState} (valid : ValidOutput id descriptor state)
    (off : state.enabled = false) :
    state.physicalWidth = 0 ∧ state.physicalHeight = 0 ∧
      state.refreshMillihertz = 0 := by
  have disabled := valid.disabled
  simp only [validDisabledState, off, Bool.false_or, Bool.and_eq_true,
    decide_eq_true_eq] at disabled
  exact ⟨disabled.1.1.2, disabled.1.2, disabled.2⟩

/-- An enabled output has one. -/
theorem ValidOutput.lit {id : Nat} {descriptor : OutputDescriptor}
    {state : OutputState} (valid : ValidOutput id descriptor state)
    (on : state.enabled = true) : state.physicalWidth ≠ 0 := by
  have mode := valid.mode
  simp only [validModeState, validDescriptorModes, Bool.and_eq_true, on,
    Bool.not_true, Bool.false_or, List.all_eq_true] at mode
  obtain ⟨⟨⟨⟨⟨⟨⟨_, modes⟩, _⟩, _⟩, _⟩, _⟩, _⟩, _, matching⟩ := mode
  unfold stateMatchesMode at matching
  split at matching
  · rename_i listed found
    have sound := modes listed (List.mem_of_find?_eq_some found)
    simp only [validMode, Bool.and_eq_true, decide_eq_true_eq]
      at sound matching
    rw [matching.1.1.2]
    exact sound.1.1.1.1.1.2
  · simp only [Bool.and_eq_true, decide_eq_true_eq] at matching
    exact matching.1.1.2

namespace OutputLayout

def modeIdentifiers (layout : OutputLayout) : List Nat :=
  layout.states.toList.flatMap fun entry =>
    (layout.descriptor entry.1).modes.map (·.id)

def totalPixels (layout : OutputLayout) : Nat :=
  (layout.enabledEntries.map (·.2.pixels)).sum

end OutputLayout

structure ValidLayout (layout : OutputLayout) : Prop where
  few : layout.descriptors.size ≤ kMaximumOutputs
  complete : ∀ id : Nat, id ∈ layout.states ↔ id ∈ layout.descriptors
  outputs : ∀ (id : Nat) (descriptor : OutputDescriptor) (state : OutputState),
    layout.descriptors[id]? = some descriptor →
      layout.states[id]? = some state → ValidOutput id descriptor state
  names : (layout.descriptors.toList.map (·.2.name)).Nodup
  primary : layout.primaryEntries.map (·.1) = [layout.primaryOutputId]
  eligible : (layout.descriptor layout.primaryOutputId).primaryEligible = true
  apart : layout.enabledEntries.Pairwise fun left right =>
    outputRectanglesOverlap left.2 right.2 = false
  root : (validateRoot layout).valid = true
  modes : layout.modeIdentifiers.Nodup
  pixels : layout.totalPixels ≤ kMaximumTotalOutputPixels
  generation : layout.generation ≠ 0
  generations : ∀ (id : Nat) (state : OutputState),
    layout.states[id]? = some state → state.generation = layout.generation
  count : layout.enabledOutputCount = layout.enabledEntries.length
  order : layout.outputOrder = layout.expectedOutputOrder

/-! ## The loops -/

variable {layout : OutputLayout}

theorem validateStates_valid {check : OutputDescriptor → OutputState → Bool}
    {error : LayoutValidationError} (fails : error ≠ .none) :
    (validateStates layout check error).valid = true ↔
      ∀ (id : Nat) (state : OutputState), layout.states[id]? = some state →
        check (layout.descriptor id) state = true := by
  unfold validateStates
  rw [all_valid, List.forall_mem_map]
  constructor
  · intro checked id state found
    have passed := checked (id, state) (KeyMap.mem_toList.mpr found)
    exact (require_valid fails id).mp passed
  · intro checked entry member
    obtain ⟨id, state⟩ := entry
    exact (require_valid fails id).mpr
      (checked id state (KeyMap.mem_toList.mp member))

theorem validateOverlaps_valid {entries : List (Nat × OutputState)} :
    (validateOverlaps entries).valid = true ↔
      entries.Pairwise fun left right =>
        outputRectanglesOverlap left.2 right.2 = false := by
  induction entries with
  | nil => simp [validateOverlaps, valid]
  | cons left rest ih =>
      rw [validateOverlaps, andThen_valid, ih, List.pairwise_cons, all_valid,
        List.forall_mem_map]
      refine and_congr_left fun _ => forall₂_congr fun right _ => ?_
      rw [require_valid (by decide), Bool.not_eq_true']

/-- The part of the descriptor loop that is about one output. -/
def DescribedOutput (layout : OutputLayout) (id : Nat)
    (descriptor : OutputDescriptor) : Prop :=
  id ≠ 0 ∧ descriptor.id = id ∧
    (layout.states[id]?.any (·.outputId = id)) = true ∧
    validName descriptor.name = true ∧
    descriptorMetadataIsValid descriptor = true ∧
    (layout.states[id]?.any fun state =>
      !state.enabled || (0 ≤ state.logicalX && 0 ≤ state.logicalY)) = true

theorem validateDescriptors_valid {names : List (List UInt8)}
    {entries : List (Nat × OutputDescriptor)} :
    (validateDescriptors layout names entries).valid = true ↔
      (∀ entry ∈ entries, DescribedOutput layout entry.1 entry.2) ∧
        (entries.map (·.2.name)).Nodup ∧
        ∀ entry ∈ entries, entry.2.name ∉ names := by
  induction entries generalizing names with
  | nil => simp [validateDescriptors, valid]
  | cons entry rest ih =>
      obtain ⟨id, descriptor⟩ := entry
      rw [validateDescriptors, andThen_valid, andThen_valid, andThen_valid,
        andThen_valid, require_valid (by decide), require_valid (by decide),
        require_valid (by decide), require_valid (by decide), ih]
      simp only [Bool.and_eq_true, decide_eq_true_eq, Bool.not_eq_true',
        List.contains_eq_mem, decide_eq_false_iff_not, List.forall_mem_cons,
        List.map_cons, List.nodup_cons]
      simp only [List.mem_cons, not_or]
      constructor
      · rintro ⟨⟨⟨nonzero, described⟩, identified⟩, ⟨named, fresh⟩, metadata,
          placed, others, distinct, later⟩
        refine ⟨⟨⟨nonzero, described, identified, named, metadata, placed⟩,
          others⟩, ⟨?_, distinct⟩, fresh, fun entry member =>
            (later entry member).2⟩
        intro repeated
        obtain ⟨entry, member, same⟩ := List.mem_map.mp repeated
        exact (later entry member).1 same
      · rintro ⟨⟨⟨nonzero, described, identified, named, metadata, placed⟩,
          others⟩, ⟨single, distinct⟩, fresh, later⟩
        refine ⟨⟨⟨nonzero, described⟩, identified⟩, ⟨named, fresh⟩, metadata,
          placed, others, distinct, fun entry member =>
            ⟨?_, later entry member⟩⟩
        intro same
        exact single (List.mem_map.mpr ⟨entry, member, same⟩)

/-- What the mode loop adds up. -/
def countedPixels (entry : Nat × OutputState) : Nat :=
  if entry.2.enabled then entry.2.pixels else 0

theorem validateModes_valid {seen : List Nat} {total : Nat}
    {entries : List (Nat × OutputState)}
    (bounded : total ≤ kMaximumTotalOutputPixels) :
    (validateModes layout seen total entries).valid = true ↔
      (entries.flatMap fun entry =>
          (layout.descriptor entry.1).modes.map (·.id)).Nodup ∧
        (∀ id ∈ entries.flatMap fun entry =>
          (layout.descriptor entry.1).modes.map (·.id), id ∉ seen) ∧
        (∀ entry ∈ entries,
          validModeState (layout.descriptor entry.1) entry.2 = true) ∧
        total + (entries.map countedPixels).sum ≤
          kMaximumTotalOutputPixels := by
  induction entries generalizing seen total with
  | nil => simpa [validateModes, valid] using bounded
  | cons entry rest ih =>
      obtain ⟨id, state⟩ := entry
      rw [validateModes, andThen_valid, andThen_valid, andThen_valid,
        require_valid (by decide), require_valid (by decide),
        require_valid (by decide)]
      have counts : (if state.enabled then state.pixels else 0) =
          countedPixels (id, state) := rfl
      simp only [counts]
      generalize hcounted : countedPixels (id, state) = counted
      simp only [Bool.and_eq_true, decide_eq_true_eq, List.all_eq_true,
        Bool.not_eq_true', List.contains_eq_mem, decide_eq_false_iff_not,
        List.flatMap_cons, List.nodup_append, List.mem_append, List.map_cons,
        List.sum_cons, List.forall_mem_cons, hcounted]
      constructor
      · rintro ⟨⟨distinct, fresh⟩, mode, fits, later⟩
        obtain ⟨restDistinct, restFresh, restModes, restFits⟩ :=
          (ih (by omega)).mp later
        refine ⟨⟨distinct, restDistinct, ?_⟩, ?_, ⟨mode, restModes⟩,
          by omega⟩
        · rintro first member second other rfl
          exact restFresh first other (List.mem_append_right _ member)
        · rintro identifier (member | member)
          · exact fresh identifier member
          · exact fun found => restFresh identifier member
              (List.mem_append_left _ found)
      · rintro ⟨⟨distinct, restDistinct, separate⟩, fresh, ⟨mode, restModes⟩,
          fits⟩
        refine ⟨⟨distinct, fun identifier member =>
          fresh identifier (.inl member)⟩, mode, by omega,
          (ih (by omega)).mpr ⟨restDistinct, ?_, restModes, by omega⟩⟩
        intro identifier member
        rw [List.mem_append, not_or]
        exact ⟨fresh identifier (.inr member), fun found =>
          separate identifier found identifier member rfl⟩

theorem countedPixels_sum :
    (layout.states.toList.map countedPixels).sum = layout.totalPixels := by
  unfold OutputLayout.totalPixels OutputLayout.enabledEntries
  induction layout.states.toList with
  | nil => rfl
  | cons entry rest ih =>
      rw [List.map_cons, List.sum_cons, ih, List.filter_cons, countedPixels]
      split <;> simp

/-! ## The checks of a layout -/

theorem validateInventory_valid :
    (validateInventory layout).valid = true ↔
      layout.descriptors.size ≤ kMaximumOutputs ∧
        ∀ id : Nat, id ∈ layout.states ↔ id ∈ layout.descriptors := by
  unfold validateInventory
  rw [andThen_valid, andThen_valid, require_valid (by decide),
    require_valid (by decide), all_valid, List.forall_mem_map]
  simp only [require_valid (show LayoutValidationError.incompleteInventory ≠
    .none by decide), Bool.and_eq_true, decide_eq_true_eq,
    Std.ExtTreeMap.contains_iff_mem, Std.ExtTreeMap.mem_keys]
  constructor
  · rintro ⟨⟨few, _⟩, same, included⟩
    refine ⟨few, fun id => ⟨fun member => ?_, included id⟩⟩
    exact KeyMap.mem_of_size_le included same.ge member
  · rintro ⟨few, complete⟩
    have same : layout.descriptors.size = layout.states.size :=
      le_antisymm (KeyMap.size_le_of_keys fun id => (complete id).mpr)
        (KeyMap.size_le_of_keys fun id => (complete id).mp)
    exact ⟨⟨few, same ▸ few⟩, same, fun id => (complete id).mpr⟩

theorem validatePrimary_valid :
    (validatePrimary layout).valid = true ↔
      layout.primaryOutputId ≠ 0 ∧
        layout.primaryEntries.map (·.1) = [layout.primaryOutputId] ∧
        (layout.descriptor layout.primaryOutputId).primaryEligible = true := by
  unfold validatePrimary
  rw [andThen_valid, require_valid (by decide), require_valid (by decide)]
  simp only [Bool.and_eq_true, decide_eq_true_eq, Bool.not_eq_true',
    List.isEmpty_eq_false_iff]
  constructor
  · rintro ⟨_, ⟨⟨single, nonzero⟩, selected⟩, eligible⟩
    obtain ⟨entry, shape⟩ := List.length_eq_one_iff.mp single
    rw [shape] at selected eligible ⊢
    simp only [List.getLast?_singleton, Option.map_some, Option.getD_some]
      at selected eligible
    rw [selected]
    exact ⟨selected ▸ nonzero, rfl, eligible⟩
  · rintro ⟨nonzero, shape, eligible⟩
    obtain ⟨entry, only, same⟩ := List.map_eq_singleton_iff.mp shape
    have enabled : layout.enabledEntries ≠ [] := by
      intro none
      rw [OutputLayout.primaryEntries, none] at only
      cases only
    rw [only]
    simp only [List.getLast?_singleton, Option.map_some, Option.getD_some]
    rw [same]
    exact ⟨enabled, ⟨⟨rfl, nonzero⟩, rfl⟩, eligible⟩

theorem descriptor_of_lookup {id : Nat} {descriptor : OutputDescriptor}
    (found : layout.descriptors[id]? = some descriptor) :
    layout.descriptor id = descriptor := by
  rw [OutputLayout.descriptor, found, Option.getD_some]

namespace ValidLayout

variable {id : Nat} {state : OutputState}

theorem described (valid : ValidLayout layout)
    (found : layout.states[id]? = some state) :
    layout.descriptors[id]? = some (layout.descriptor id) := by
  obtain ⟨descriptor, hdescriptor⟩ := KeyMap.mem_iff.mp
    ((valid.complete id).mp (KeyMap.mem_of_lookup found))
  rw [hdescriptor, descriptor_of_lookup hdescriptor]

theorem output (valid : ValidLayout layout)
    (found : layout.states[id]? = some state) :
    ValidOutput id (layout.descriptor id) state :=
  valid.outputs id _ state (valid.described found) found

theorem primary_state (valid : ValidLayout layout) :
    ∃ state, layout.states[layout.primaryOutputId]? = some state ∧
      state.enabled = true ∧ state.primary = true := by
  obtain ⟨⟨id, state⟩, only, same⟩ := List.map_eq_singleton_iff.mp valid.primary
  have member : (id, state) ∈ layout.primaryEntries := by simp [only]
  obtain ⟨enabled, primary⟩ := List.mem_filter.mp member
  obtain ⟨found, on⟩ := List.mem_filter.mp enabled
  have here : id = layout.primaryOutputId := same
  subst here
  exact ⟨state, KeyMap.mem_toList.mp found, on, primary⟩

theorem primary_nonzero (valid : ValidLayout layout) :
    layout.primaryOutputId ≠ 0 := by
  obtain ⟨state, found, _⟩ := valid.primary_state
  exact (valid.output found).nonzero

/-- The order of a valid layout lists every output once. -/
theorem outputOrder_perm (valid : ValidLayout layout) :
    layout.outputOrder.Perm layout.states.keys := by
  rw [valid.order, OutputLayout.expectedOutputOrder,
    ← Std.ExtTreeMap.map_fst_toList_eq_keys]
  exact (List.perm_insertionSort _ _).map _

theorem mem_outputOrder (valid : ValidLayout layout) :
    id ∈ layout.outputOrder ↔ id ∈ layout.states :=
  valid.outputOrder_perm.mem_iff.trans Std.ExtTreeMap.mem_keys

end ValidLayout

/-- The validation accepts the valid layouts. -/
theorem validateLayout_iff :
    (validateLayout layout).valid = true ↔ ValidLayout layout := by
  unfold validateLayout validateInventoryGeometry validateScaleModeState
    validateMetadata
  simp only [andThen_valid]
  rw [validateInventory_valid, validatePrimary_valid, validateDescriptors_valid,
    validateOverlaps_valid, validateStates_valid (by decide),
    validateStates_valid (by decide), validateModes_valid (Nat.zero_le _),
    validateStates_valid (by decide), validateStates_valid (by decide),
    require_valid (by decide), validateStates_valid (by decide),
    require_valid (by decide), countedPixels_sum]
  constructor
  · rintro ⟨⟨⟨few, complete⟩, ⟨_, primary, eligible⟩, ⟨described, names, _⟩,
      apart, root⟩, ⟨scales, transforms, ⟨modes, _, modeStates, pixels⟩,
      extents, disabled⟩, generation, generations, counts⟩
    simp only [Bool.and_eq_true, decide_eq_true_eq, Nat.zero_add]
      at counts generation generations pixels
    refine ⟨few, complete, ?_, names, primary, eligible, apart, root, modes,
      pixels, generation, generations, counts.1, counts.2⟩
    intro id descriptor state hdescriptor hstate
    have here := descriptor_of_lookup hdescriptor
    obtain ⟨nonzero, same, identified, named, metadata, placed⟩ :=
      described (id, descriptor) (KeyMap.mem_toList.mpr hdescriptor)
    rw [hstate] at identified placed
    simp only [Option.any_some, decide_eq_true_eq, Bool.or_eq_true,
      Bool.not_eq_true', Bool.and_eq_true] at identified placed
    exact {
      nonzero, described := same, identified, named, metadata
      placed := fun enabled => placed.resolve_left (by simp [enabled])
      scale := here ▸ scales id state hstate
      transform := here ▸ transforms id state hstate
      mode := here ▸ modeStates (id, state) (KeyMap.mem_toList.mpr hstate)
      extent := extents id state hstate
      disabled := disabled id state hstate }
  · intro valid
    have found := fun (id : Nat) (state : OutputState)
      (hstate : layout.states[id]? = some state) => valid.output hstate
    refine ⟨⟨⟨valid.few, valid.complete⟩,
      ⟨valid.primary_nonzero, valid.primary, valid.eligible⟩,
      ⟨?_, valid.names, by simp⟩, valid.apart, valid.root⟩,
      ⟨fun id state hstate => (found id state hstate).scale,
      fun id state hstate => (found id state hstate).transform,
      ⟨valid.modes, by simp, ?_, by simpa using valid.pixels⟩,
      fun id state hstate => (found id state hstate).extent,
      fun id state hstate => (found id state hstate).disabled⟩,
      by simpa using valid.generation, ?_, by simp [valid.count, valid.order]⟩
    · rintro ⟨id, descriptor⟩ member
      have hdescriptor := KeyMap.mem_toList.mp member
      obtain ⟨state, hstate⟩ := KeyMap.mem_iff.mp
        ((valid.complete id).mpr (KeyMap.mem_of_lookup hdescriptor))
      have output := valid.outputs id descriptor state hdescriptor hstate
      refine ⟨output.nonzero, output.described, ?_, output.named,
        output.metadata, ?_⟩
      · rw [hstate, Option.any_some]
        exact decide_eq_true output.identified
      · rw [hstate, Option.any_some]
        cases enabled : state.enabled with
        | false => rfl
        | true => simpa using output.placed enabled
    · rintro ⟨id, state⟩ member
      exact (found id state (KeyMap.mem_toList.mp member)).mode
    · intro id state hstate
      exact decide_eq_true (valid.generations id state hstate)

/-! ## A layout -/

/-- Two outputs side by side: one that may be configured freely, and one with
fixed attributes. -/
def pairLayout : OutputLayout where
  descriptors := (∅ : KeyMap OutputDescriptor)
    |>.insert 1
      { id := 1
        name := [65]
        connected := true
        supportedTransformMask := 255
        modeConfigurable := true
        scaleConfigurable := true
        transformConfigurable := true
        primaryEligible := true
        arbitraryHeadlessMode := true
        modes :=
          [{ id := 11
             outputId := 1
             physicalWidth := 640
             physicalHeight := 480
             refreshMillihertz := 60000
             name := [97]
             preferred := true
             current := true }] }
    |>.insert 2
      { id := 2
        name := [66]
        connected := true
        modes :=
          [{ id := 22
             outputId := 2
             physicalWidth := 800
             physicalHeight := 600
             refreshMillihertz := 60000
             name := [98]
             preferred := true
             current := true }] }
  states := (∅ : KeyMap OutputState)
    |>.insert 1
      { outputId := 1
        enabled := true
        modeId := 11
        logicalWidth := 640
        logicalHeight := 480
        physicalWidth := 640
        physicalHeight := 480
        refreshMillihertz := 60000
        primary := true
        generation := 1 }
    |>.insert 2
      { outputId := 2
        enabled := true
        modeId := 22
        logicalX := 640
        logicalWidth := 800
        logicalHeight := 600
        physicalWidth := 800
        physicalHeight := 600
        refreshMillihertz := 60000
        generation := 1 }
  primaryOutputId := 1
  rootLogicalWidth := 1440
  rootLogicalHeight := 600
  generation := 1
  enabledOutputCount := 2
  outputOrder := [1, 2]

theorem pairLayout_valid : (validateLayout pairLayout).valid = true := by
  decide +kernel

end Glasswyrm.Output
