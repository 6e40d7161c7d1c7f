import Glasswyrm.Output.ValidLayout

namespace Glasswyrm.Output

open Lifecycle LayoutValidationResult

/-! A layout with other mode lists, mode identifiers and generation.  Only the
checks of the modes can tell the difference. -/

/-- A state under another mode identifier and generation. -/
def OutputState.remodel (state : OutputState) (modeId generation : Nat) :
    OutputState :=
  { state with modeId, generation }

def OutputLayout.remodel (layout : OutputLayout)
    (modes : Nat → List OutputMode) (modeId : Nat → Nat) (generation : Nat) :
    OutputLayout :=
  { layout with
    descriptors := layout.descriptors.map fun id descriptor =>
      { descriptor with modes := modes id }
    states := layout.states.map fun id state =>
      state.remodel (modeId id) generation
    generation }

namespace OutputLayout

variable (layout : OutputLayout) (modes : Nat → List OutputMode)
  (modeId : Nat → Nat) (generation : Nat)

/-- What becomes of an entry. -/
def remodelEntry (entry : Nat × OutputState) : Nat × OutputState :=
  (entry.1, entry.2.remodel (modeId entry.1) generation)

theorem remodel_states_toList :
    (layout.remodel modes modeId generation).states.toList =
      layout.states.toList.map (remodelEntry modeId generation) :=
  Std.ExtTreeMap.toList_map

@[simp] theorem remodel_state (id : Nat) :
    (layout.remodel modes modeId generation).states[id]? =
      layout.states[id]?.map fun state =>
        state.remodel (modeId id) generation :=
  Std.ExtTreeMap.getElem?_map

@[simp] theorem remodel_descriptor (id : Nat) :
    (layout.remodel modes modeId generation).descriptors[id]? =
      layout.descriptors[id]?.map fun descriptor =>
        { descriptor with modes := modes id } :=
  Std.ExtTreeMap.getElem?_map

theorem remodel_enabledEntries :
    (layout.remodel modes modeId generation).enabledEntries =
      layout.enabledEntries.map (remodelEntry modeId generation) := by
  unfold enabledEntries
  rw [remodel_states_toList, List.filter_map]
  rfl

theorem remodel_primaryEntries :
    (layout.remodel modes modeId generation).primaryEntries =
      layout.primaryEntries.map (remodelEntry modeId generation) := by
  unfold primaryEntries
  rw [remodel_enabledEntries, List.filter_map]
  rfl

theorem remodel_expectedOutputOrder :
    (layout.remodel modes modeId generation).expectedOutputOrder =
      layout.expectedOutputOrder := by
  have sorted := List.map_insertionSort
    (fun left right : Nat × OutputState => orderKey left ≤ orderKey right)
    (fun left right : Nat × OutputState => orderKey left ≤ orderKey right)
    (remodelEntry modeId generation) layout.states.toList
    fun _ _ _ _ => Iff.rfl
  unfold expectedOutputOrder
  rw [remodel_states_toList, ← sorted, List.map_map]
  rfl

theorem remodel_totalPixels :
    (layout.remodel modes modeId generation).totalPixels =
      layout.totalPixels := by
  unfold totalPixels
  rw [remodel_enabledEntries, List.map_map]
  rfl

theorem remodel_validateRoot :
    validateRoot (layout.remodel modes modeId generation) =
      validateRoot layout := by
  have width : (layout.remodel modes modeId generation).rootWidth =
      layout.rootWidth := by
    unfold rootWidth
    rw [remodel_enabledEntries, List.foldl_map]
    rfl
  have height : (layout.remodel modes modeId generation).rootHeight =
      layout.rootHeight := by
    unfold rootHeight
    rw [remodel_enabledEntries, List.foldl_map]
    rfl
  unfold validateRoot
  rw [width, height]
  rfl

end OutputLayout

/-- The checks that do not look at the modes. -/
theorem ValidOutput.remodel {id : Nat} {descriptor : OutputDescriptor}
    {state : OutputState} (valid : ValidOutput id descriptor state)
    {modes : List OutputMode} {modeId generation : Nat}
    (mode : validModeState { descriptor with modes }
      (state.remodel modeId generation) = true) :
    ValidOutput id { descriptor with modes }
      (state.remodel modeId generation) where
  nonzero := valid.nonzero
  described := valid.described
  identified := valid.identified
  named := valid.named
  metadata := valid.metadata
  placed := valid.placed
  scale := valid.scale
  transform := valid.transform
  mode := mode
  extent := valid.extent
  disabled := valid.disabled

theorem ValidLayout.remodel {layout : OutputLayout} (valid : ValidLayout layout)
    {modes : Nat → List OutputMode} {modeId : Nat → Nat} {generation : Nat}
    (started : generation ≠ 0)
    (modeStates : ∀ (id : Nat) (state : OutputState),
      layout.states[id]? = some state →
        validModeState { layout.descriptor id with modes := modes id }
          (state.remodel (modeId id) generation) = true)
    (distinct : (layout.states.toList.flatMap fun entry =>
      (modes entry.1).map (·.id)).Nodup) :
    ValidLayout (layout.remodel modes modeId generation) where
  few := by
    change (Std.ExtTreeMap.map _ layout.descriptors).size ≤ _
    rw [Std.ExtTreeMap.size_map]
    exact valid.few
  complete id := by
    change id ∈ Std.ExtTreeMap.map _ layout.states ↔
      id ∈ Std.ExtTreeMap.map _ layout.descriptors
    rw [Std.ExtTreeMap.mem_map, Std.ExtTreeMap.mem_map]
    exact valid.complete id
  outputs id descriptor state hdescriptor hstate := by
    rw [OutputLayout.remodel_descriptor] at hdescriptor
    rw [OutputLayout.remodel_state] at hstate
    obtain ⟨_, found, rfl⟩ := Option.map_eq_some_iff.mp hdescriptor
    obtain ⟨before, here, rfl⟩ := Option.map_eq_some_iff.mp hstate
    have mode := modeStates id before here
    rw [descriptor_of_lookup found] at mode
    exact (valid.outputs id _ before found here).remodel mode
  names := by
    change ((Std.ExtTreeMap.map _ layout.descriptors).toList.map _).Nodup
    rw [Std.ExtTreeMap.toList_map, List.map_map]
    exact valid.names
  primary := by
    rw [OutputLayout.remodel_primaryEntries, List.map_map]
    exact valid.primary
  eligible := by
    obtain ⟨state, found, _⟩ := valid.primary_state
    have described := OutputLayout.remodel_descriptor layout modes modeId
      generation layout.primaryOutputId
    rw [valid.described found] at described
    change ((layout.remodel modes modeId generation).descriptor
      layout.primaryOutputId).primaryEligible = true
    rw [descriptor_of_lookup described]
    exact valid.eligible
  apart := by
    rw [OutputLayout.remodel_enabledEntries, List.pairwise_map]
    exact valid.apart
  root := by
    rw [OutputLayout.remodel_validateRoot]
    exact valid.root
  modes := by
    unfold OutputLayout.modeIdentifiers
    rw [OutputLayout.remodel_states_toList, List.flatMap_map]
    have same : ∀ entry ∈ layout.states.toList,
        ((layout.remodel modes modeId generation).descriptor entry.1).modes =
          modes entry.1 := by
      rintro ⟨id, state⟩ member
      have described := valid.described (KeyMap.mem_toList.mp member)
      rw [OutputLayout.descriptor, OutputLayout.remodel_descriptor, described]
      rfl
    have mapped : layout.states.toList.flatMap (fun entry =>
        ((layout.remodel modes modeId generation).descriptor
          (OutputLayout.remodelEntry modeId generation entry).1).modes.map
            (·.id)) =
        layout.states.toList.flatMap fun entry =>
          (modes entry.1).map (·.id) :=
      List.flatMap_congr fun entry member => by
        exact congrArg (List.map _) (same entry member)
    rw [mapped]
    exact distinct
  pixels := by
    rw [OutputLayout.remodel_totalPixels]
    exact valid.pixels
  generation := started
  generations id state found := by
    rw [OutputLayout.remodel_state] at found
    obtain ⟨before, _, rfl⟩ := Option.map_eq_some_iff.mp found
    rfl
  count := by
    rw [OutputLayout.remodel_enabledEntries, List.length_map]
    exact valid.count
  order := by
    rw [OutputLayout.remodel_expectedOutputOrder]
    exact valid.order

end Glasswyrm.Output
