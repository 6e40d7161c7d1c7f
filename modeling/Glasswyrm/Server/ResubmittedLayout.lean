import Glasswyrm.Library.Order
import Glasswyrm.Output.RemodeledLayout
import Glasswyrm.Server.CandidateLayout
import Glasswyrm.Server.OutputSceneProjection

namespace Glasswyrm.Server

open Output Compositor

/-! A layout submitted again: its own records, proposed over a layout that was
committed since. -/

theorem colorFrom_colorRecord (color : SdrMetadata) :
    colorFrom (colorRecord color) = color := by
  obtain ⟨space, transfer, primaries⟩ := color
  cases space <;> cases transfer <;> cases primaries <;> rfl

/-- A state comes back from its record, without its mode. -/
theorem proposedState_outputRecord (id generation primary : Nat)
    (state : OutputState) :
    proposedState id generation primary (outputRecord state) =
      { state with
        outputId := id
        modeId := 0
        primary := decide (id = primary)
        generation } := by
  unfold proposedState outputRecord
  simp only [colorFrom_colorRecord]

def layoutRecords (layout : OutputLayout) : KeyMap OutputUpsert :=
  layout.states.map fun _ state => outputRecord state

/-- The mode list and the mode that a layout's own record selects. -/
def selection (inventory layout : OutputLayout) (id : Nat) :
    List OutputMode × Nat :=
  let descriptor := inventory.descriptor id
  let state := stateOf layout id
  if state.enabled then
    (selectMode id descriptor state (outputRecord state)).getD ([], 0)
  else (descriptor.modes, 0)

def resubmittedLayout (inventory layout : OutputLayout) (generation : Nat) :
    OutputLayout :=
  layout.remodel (fun id => (selection inventory layout id).1)
    (fun id => (selection inventory layout id).2) generation

/-- The selection looks at the extents and the refresh rate only. -/
theorem selectMode_congr {id : Nat} {descriptor : OutputDescriptor}
    {state other : OutputState} {value record : OutputUpsert}
    (width : state.physicalWidth = other.physicalWidth)
    (height : state.physicalHeight = other.physicalHeight)
    (refresh : state.refreshMillihertz = other.refreshMillihertz)
    (recordWidth : value.physicalPixelWidth = record.physicalPixelWidth)
    (recordHeight : value.physicalPixelHeight = record.physicalPixelHeight)
    (recordRefresh : value.refreshMillihertz = record.refreshMillihertz) :
    selectMode id descriptor state value =
      selectMode id descriptor other record := by
  have matching : modeMatches state = modeMatches other := by
    funext mode
    rw [modeMatches, modeMatches, width, height, refresh]
  have select : selectCurrent state = selectCurrent other := by
    funext modes
    induction modes with
    | nil => rfl
    | cons mode rest ih => rw [selectCurrent, selectCurrent, matching, ih]
  have name : modeName value = modeName record := by
    rw [modeName, modeName, recordWidth, recordHeight, recordRefresh]
  have arbitrary : ∀ modeId,
      arbitraryMode id modeId value = arbitraryMode id modeId record := by
    intro modeId
    rw [arbitraryMode, arbitraryMode, name, recordWidth, recordHeight,
      recordRefresh]
  unfold selectMode
  rw [matching, select, width, height, refresh, name]
  simp only [arbitrary]

/-! ## Metadata -/

/-- The greatest value of a list, counted with and without a sign. -/
theorem foldl_max_cast {α : Type*} (entries : List α) (edge : α → Nat)
    (signed : α → Int) (start : Nat)
    (same : ∀ entry ∈ entries, (edge entry : Int) = signed entry) :
    ((entries.foldl (fun most entry => max most (edge entry)) start : Nat) :
        Int) =
      entries.foldl (fun most entry => max most (signed entry)) (start : Int) := by
  induction entries generalizing start with
  | nil => rfl
  | cons entry rest ih =>
      have next : ((max start (edge entry) : Nat) : Int) =
          max (start : Int) (signed entry) := by
        rw [← same entry List.mem_cons_self]
        omega
      rw [List.foldl_cons, List.foldl_cons,
        ih _ fun other member => same other (List.mem_cons_of_mem _ member),
        next]

theorem farEdge_cast {position : Int} {extent : Nat} (placed : 0 ≤ position)
    (within : position + extent ≤ 32767) :
    (farEdge position extent : Int) = position + extent := by
  unfold farEdge
  rw [if_pos placed, Nat.mod_eq_of_lt (by omega)]
  omega

/-- The computed metadata are those of a valid layout. -/
theorem updateLayoutMetadata_valid {layout : OutputLayout}
    (valid : ValidLayout layout) : updateLayoutMetadata layout = layout := by
  have root := valid.root
  rw [validateRoot, LayoutValidationResult.require_valid (by decide)] at root
  simp only [Bool.and_eq_true, decide_eq_true_eq] at root
  obtain ⟨⟨⟨⟨_, wide⟩, high⟩, width⟩, height⟩ := root
  have placed : ∀ entry ∈ layout.enabledEntries,
      0 ≤ entry.2.logicalX ∧ 0 ≤ entry.2.logicalY := by
    rintro ⟨id, state⟩ member
    obtain ⟨found, enabled⟩ := List.mem_filter.mp member
    exact (valid.output (KeyMap.mem_toList.mp found)).placed enabled
  have widthBound := fun entry member =>
    ((Library.le_foldl_max layout.enabledEntries (fun entry =>
      entry.2.logicalX + entry.2.logicalWidth) 0).2 entry member).trans wide
  have heightBound := fun entry member =>
    ((Library.le_foldl_max layout.enabledEntries (fun entry =>
      entry.2.logicalY + entry.2.logicalHeight) 0).2 entry member).trans high
  have computedWidth := foldl_max_cast layout.enabledEntries
    (fun entry => farEdge entry.2.logicalX entry.2.logicalWidth)
    (fun entry => entry.2.logicalX + entry.2.logicalWidth) 0
    fun entry member => farEdge_cast (placed entry member).1
      (widthBound entry member)
  have computedHeight := foldl_max_cast layout.enabledEntries
    (fun entry => farEdge entry.2.logicalY entry.2.logicalHeight)
    (fun entry => entry.2.logicalY + entry.2.logicalHeight) 0
    fun entry member => farEdge_cast (placed entry member).2
      (heightBound entry member)
  have sameWidth := Int.natCast_inj.mp (computedWidth.trans width.symm)
  have sameHeight := Int.natCast_inj.mp (computedHeight.trans height.symm)
  unfold updateLayoutMetadata
  simp only
  rw [sameWidth, sameHeight, ← valid.count, ← valid.order]

/-! ## Resubmission -/

/-- What makes a layout one that its own records describe again. -/
structure Resubmittable (inventory layout : OutputLayout) : Prop where
  valid : ValidLayout layout
  described : ∀ (id : Nat) (descriptor : OutputDescriptor),
    inventory.descriptors[id]? = some descriptor →
      ∃ modes, layout.descriptors[id]? = some { descriptor with modes }
  known : ∀ id : Nat, id ∈ layout.descriptors → id ∈ inventory.descriptors
  selectable : ∀ (id : Nat) (state : OutputState),
    layout.states[id]? = some state → state.enabled = true →
      (selectMode id (inventory.descriptor id) state
        (outputRecord state)).isSome = true
  modeStates : ∀ (id : Nat) (state : OutputState),
    layout.states[id]? = some state → ∀ generation,
      validModeState
        { layout.descriptor id with modes := (selection inventory layout id).1 }
        (state.remodel (selection inventory layout id).2 generation) = true
  distinct : (layout.states.toList.flatMap fun entry =>
    (selection inventory layout entry.1).1.map (·.id)).Nodup

namespace Resubmittable

variable {inventory layout committed : OutputLayout}

theorem resubmitted_valid (resubmittable : Resubmittable inventory layout)
    {generation : Nat} (started : generation ≠ 0) :
    ValidLayout (resubmittedLayout inventory layout generation) :=
  resubmittable.valid.remodel started
    (fun id state found => resubmittable.modeStates id state found generation)
    resubmittable.distinct

/-- The primary output of a valid layout is the one marked so. -/
theorem primary_iff (valid : ValidLayout layout) {id : Nat}
    {state : OutputState} (found : layout.states[id]? = some state) :
    state.primary = decide (id = layout.primaryOutputId) := by
  have output := valid.output found
  rw [Bool.eq_iff_iff, decide_eq_true_eq]
  constructor
  · intro primary
    have enabled : state.enabled = true := by
      by_contra off
      have disabled := output.disabled
      simp [validDisabledState, off, primary] at disabled
    have member : (id, state) ∈ layout.primaryEntries :=
      List.mem_filter.mpr ⟨List.mem_filter.mpr
        ⟨KeyMap.mem_toList.mpr found, enabled⟩, primary⟩
    have listed : id ∈ layout.primaryEntries.map (·.1) :=
      List.mem_map.mpr ⟨_, member, rfl⟩
    rw [valid.primary] at listed
    exact List.mem_singleton.mp listed
  · rintro rfl
    obtain ⟨other, here, _, primary⟩ := valid.primary_state
    rwa [Option.some.inj (found.symm.trans here)]

/-- The proposed state of a record is the recorded state. -/
theorem proposed_eq (valid : ValidLayout layout) {id generation : Nat}
    {state : OutputState} (found : layout.states[id]? = some state) :
    proposedState id generation layout.primaryOutputId (outputRecord state) =
      state.remodel 0 generation := by
  have identified := (valid.output found).identified
  have primary := primary_iff valid found
  rw [proposedState_outputRecord, ← primary, OutputState.remodel]
  obtain ⟨outputId⟩ := state
  cases identified
  rfl

/-- The record of an output configures it as it is. -/
theorem configured (valid : ValidLayout layout) {id generation : Nat}
    {descriptor : OutputDescriptor} {old state : OutputState}
    (found : layout.states[id]? = some state)
    (selectable : state.enabled = true →
      (selectMode id descriptor state (outputRecord state)).isSome = true)
    {selected : List OutputMode × Nat}
    (shape : selected =
      if state.enabled then
        (selectMode id descriptor state (outputRecord state)).getD ([], 0)
      else (descriptor.modes, 0))
    (granted : state.enabled = true → AttributesGranted descriptor old state) :
    ConfiguredOutput generation layout.primaryOutputId id descriptor old
      (outputRecord state) { descriptor with modes := selected.1 }
      (state.remodel selected.2 generation) := by
  have proposed : proposedState id generation layout.primaryOutputId
      (outputRecord state) = state.remodel 0 generation :=
    proposed_eq valid found
  cases enabled : state.enabled with
  | false =>
      have off : (outputRecord state).enabled = false := enabled
      rw [enabled, if_neg (by decide)] at shape
      have result : ConfiguredOutput generation layout.primaryOutputId id
        descriptor old (outputRecord state) descriptor _ := .disabled off
      rw [proposed] at result
      rw [shape]
      exact result
  | true =>
      have on : (outputRecord state).enabled = true := enabled
      obtain ⟨⟨modes, modeId⟩, chosen⟩ :=
        Option.isSome_iff_exists.mp (selectable enabled)
      rw [enabled, if_pos rfl, chosen, Option.getD_some] at shape
      have same : selectMode id descriptor (proposedState id generation
          layout.primaryOutputId (outputRecord state)) (outputRecord state) =
            some (modes, modeId) := by
        rw [← chosen]
        exact selectMode_congr rfl rfl rfl rfl rfl rfl
      have kept : AttributesGranted descriptor old
          (proposedState id generation layout.primaryOutputId
            (outputRecord state)) := by
        obtain ⟨scale, transform, mode⟩ := granted enabled
        exact ⟨scale, transform, mode⟩
      have result := ConfiguredOutput.enabled on kept same
      rw [proposed] at result
      rw [shape]
      exact result

/-- A layout whose fixed attributes the committed one shares is accepted. -/
theorem accepted (resubmittable : Resubmittable inventory layout)
    (sound : ValidLayout inventory)
    (room : committed.generation ≠ generationMaximum)
    (granted : ∀ (id : Nat) (state : OutputState),
      layout.states[id]? = some state → state.enabled = true →
        AttributesGranted (inventory.descriptor id) (stateOf committed id)
          state)
    (fixed : drmResult committed (resubmittedLayout inventory layout
      (committed.generation + 1)) = .accepted) :
    AcceptedCandidate inventory committed (layoutRecords layout)
      layout.primaryOutputId
      (resubmittedLayout inventory layout (committed.generation + 1)) where
  room := room
  known := by
    obtain ⟨state, found, _⟩ := resubmittable.valid.primary_state
    exact resubmittable.known _
      ((resubmittable.valid.complete _).mp (KeyMap.mem_of_lookup found))
  fixed := fixed
  valid := resubmittable.resubmitted_valid (Nat.succ_ne_zero _)
  proposed := {
    generation := rfl
    primaryOutputId := rfl
    metadata := updateLayoutMetadata_valid
      (resubmittable.resubmitted_valid (Nat.succ_ne_zero _))
    others := fun id absent => by
      have undescribed : id ∉ layout.descriptors := fun member =>
        absent (resubmittable.known id member)
      have stateless : id ∉ layout.states := fun member =>
        undescribed ((resubmittable.valid.complete id).mp member)
      have unknown : id ∉ inventory.states := fun member =>
        absent ((sound.complete id).mp member)
      refine ⟨?_, ?_⟩
      · change id ∉ Std.ExtTreeMap.map _ layout.descriptors
        rwa [Std.ExtTreeMap.mem_map]
      · rw [resubmittedLayout, OutputLayout.remodel_state,
          Std.ExtTreeMap.getElem?_eq_none stateless,
          Std.ExtTreeMap.getElem?_eq_none unknown]
        rfl
    outputs := fun id descriptor found => by
      obtain ⟨modes, described⟩ := resubmittable.described id descriptor found
      obtain ⟨state, here⟩ := KeyMap.mem_iff.mp
        ((resubmittable.valid.complete id).mpr (KeyMap.mem_of_lookup described))
      have inventoried : inventory.descriptor id = descriptor :=
        descriptor_of_lookup found
      have current := stateOf_lookup here
      refine ⟨outputRecord state,
        { descriptor with modes := (selection inventory layout id).1 },
        state.remodel (selection inventory layout id).2
          (committed.generation + 1), ?_, ?_, ?_, ?_⟩
      · rw [layoutRecords, Std.ExtTreeMap.getElem?_map, here]
        rfl
      · apply configured resubmittable.valid here
        · intro enabled
          have selectable := resubmittable.selectable id state here enabled
          rwa [inventoried] at selectable
        · rw [selection, inventoried, current]
        · intro enabled
          have kept := granted id state here enabled
          rwa [inventoried] at kept
      · rw [resubmittedLayout, OutputLayout.remodel_descriptor, described]
        rfl
      · rw [resubmittedLayout, OutputLayout.remodel_state, here]
        rfl }

end Resubmittable

end Glasswyrm.Server
