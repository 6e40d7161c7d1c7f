import Glasswyrm.Server.OutputConfiguration

namespace Glasswyrm.Server

open Output Compositor

/-! The candidate that the coordinator builds, output by output. -/

/-- What an output's attribute has to keep for the request to be granted:
nothing while the output is disabled, and nothing that it may configure. -/
structure AttributesGranted (descriptor : OutputDescriptor)
    (old state : OutputState) : Prop where
  scale : descriptor.scaleConfigurable = true ∨ state.scale = old.scale
  transform : descriptor.transformConfigurable = true ∨
    state.transform = old.transform
  mode : descriptor.modeConfigurable = true ∨
    (state.physicalWidth = old.physicalWidth ∧
      state.physicalHeight = old.physicalHeight ∧
      state.refreshMillihertz = old.refreshMillihertz)

/-- The modes and the mode of one output in a candidate. -/
inductive ConfiguredOutput (generation primary id : Nat)
    (descriptor : OutputDescriptor) (old : OutputState) (value : OutputUpsert) :
    OutputDescriptor → OutputState → Prop
  | disabled (off : value.enabled = false) :
      ConfiguredOutput generation primary id descriptor old value descriptor
        (proposedState id generation primary value)
  | enabled {modes : List OutputMode} {modeId : Nat}
      (on : value.enabled = true)
      (granted : AttributesGranted descriptor old
        (proposedState id generation primary value))
      (selected : selectMode id descriptor
        (proposedState id generation primary value) value =
          some (modes, modeId)) :
      ConfiguredOutput generation primary id descriptor old value
        { descriptor with modes }
        { proposedState id generation primary value with modeId }

section

variable {generation primary id : Nat}
  {descriptor described : OutputDescriptor} {old state : OutputState}
  {value : OutputUpsert}

theorem configureOutput_ok :
    configureOutput generation primary id descriptor old value =
        .ok (described, state) ↔
      ConfiguredOutput generation primary id descriptor old value described
        state := by
  constructor
  · intro success
    unfold configureOutput at success
    simp only at success
    split at success
    · rename_i off
      obtain ⟨rfl, rfl⟩ := Prod.mk.inj (Except.ok.inj success)
      exact .disabled (by simpa using off)
    · rename_i on
      split at success
      · cases success
      · rename_i scale
        split at success
        · cases success
        · rename_i transform
          split at success
          · cases success
          · rename_i mode
            split at success
            · cases success
            · rename_i modes modeId selected
              obtain ⟨rfl, rfl⟩ := Prod.mk.inj (Except.ok.inj success)
              refine .enabled (by simpa using on) ⟨?_, ?_, ?_⟩ selected
              · grind
              · grind
              · grind
  · intro configured
    cases configured with
    | disabled off => simp [configureOutput, off]
    | enabled on granted selected =>
        obtain ⟨scale, transform, mode⟩ := granted
        unfold configureOutput
        simp only
        rw [if_neg (by simp [on]), if_neg (by grind), if_neg (by grind),
          if_neg (by grind), selected]

/-- Apart from its modes an output is described as in the inventory. -/
theorem ConfiguredOutput.described_eq
    (configured : ConfiguredOutput generation primary id descriptor old value
      described state) :
    described = { descriptor with modes := described.modes } := by
  cases configured <;> rfl

/-- Apart from its mode the state is the proposed one. -/
theorem ConfiguredOutput.state_eq
    (configured : ConfiguredOutput generation primary id descriptor old value
      described state) :
    state = { proposedState id generation primary value with
      modeId := state.modeId } := by
  cases configured <;> rfl

end

/-! ## The loop over the inventory -/

section

variable {committed start candidate : OutputLayout}
  {staged : KeyMap OutputUpsert} {entries : List (Nat × OutputDescriptor)}

/-- What the loop makes of one entry. -/
def ConfiguredEntry (committed : OutputLayout) (staged : KeyMap OutputUpsert)
    (generation primary : Nat) (candidate : OutputLayout)
    (entry : Nat × OutputDescriptor) : Prop :=
  ∃ value described state, staged[entry.1]? = some value ∧
    ConfiguredOutput generation primary entry.1 entry.2
      (committed.states[entry.1]?.getD {}) value described state ∧
    candidate.descriptors[entry.1]? = some described ∧
    candidate.states[entry.1]? = some state

/-- What the loop changes, and what it leaves. -/
structure ConfiguredLoop (committed : OutputLayout)
    (staged : KeyMap OutputUpsert) (entries : List (Nat × OutputDescriptor))
    (start candidate : OutputLayout) : Prop where
  frame : candidate = { start with
    descriptors := candidate.descriptors, states := candidate.states }
  configured : ∀ entry ∈ entries, ConfiguredEntry committed staged
    start.generation start.primaryOutputId candidate entry
  others : ∀ id, (∀ entry ∈ entries, entry.1 ≠ id) →
    candidate.descriptors[id]? = start.descriptors[id]? ∧
      candidate.states[id]? = start.states[id]?

theorem configureOutputs_ok
    (distinct : entries.Pairwise fun left right => left.1 ≠ right.1)
    (success : configureOutputs committed staged entries start =
      .ok candidate) :
    ConfiguredLoop committed staged entries start candidate := by
  induction entries generalizing start with
  | nil =>
      obtain rfl := Except.ok.inj success
      exact ⟨rfl, by simp, fun _ _ => ⟨rfl, rfl⟩⟩
  | cons entry rest ih =>
      obtain ⟨id, descriptor⟩ := entry
      obtain ⟨fresh, later⟩ := List.pairwise_cons.mp distinct
      rw [configureOutputs] at success
      split at success
      · cases success
      · rename_i value hvalue
        split at success
        · cases success
        · rename_i described state configured
          have loop := ih later success
          obtain ⟨atDescriptor, atState⟩ := loop.others id
            fun other member => (fresh other member).symm
          simp only [KeyMap.lookup_insert, if_true] at atDescriptor atState
          refine ⟨loop.frame, ?_, ?_⟩
          · rw [List.forall_mem_cons]
            exact ⟨⟨value, described, state, hvalue,
              configureOutput_ok.mp configured, atDescriptor, atState⟩,
              loop.configured⟩
          · intro other absent
            obtain ⟨away, absent⟩ := List.forall_mem_cons.mp absent
            have outside := loop.others other absent
            simpa only [KeyMap.lookup_insert, if_neg away] using outside

theorem configureOutputs_total {generation primary : Nat}
    (atGeneration : start.generation = generation)
    (atPrimary : start.primaryOutputId = primary)
    (granted : ∀ entry ∈ entries, ∃ value described state,
      staged[entry.1]? = some value ∧
        ConfiguredOutput generation primary entry.1 entry.2
          (committed.states[entry.1]?.getD {}) value described state) :
    ∃ candidate,
      configureOutputs committed staged entries start = .ok candidate := by
  induction entries generalizing start with
  | nil => exact ⟨start, rfl⟩
  | cons entry rest ih =>
      obtain ⟨id, descriptor⟩ := entry
      obtain ⟨⟨value, described, state, hvalue, configured⟩, others⟩ :=
        List.forall_mem_cons.mp granted
      rw [configureOutputs, hvalue]
      simp only
      rw [atGeneration, atPrimary, configureOutput_ok.mpr configured]
      exact ih rfl rfl others

end

/-! ## Candidates -/

/-- The layout that a request makes of the inventory. -/
structure ProposedLayout (inventory committed : OutputLayout)
    (staged : KeyMap OutputUpsert) (primary : Nat)
    (candidate : OutputLayout) : Prop where
  generation : candidate.generation = committed.generation + 1
  primaryOutputId : candidate.primaryOutputId = primary
  outputs : ∀ (id : Nat) (descriptor : OutputDescriptor),
    inventory.descriptors[id]? = some descriptor →
      ConfiguredEntry committed staged (committed.generation + 1) primary
        candidate (id, descriptor)
  others : ∀ id : Nat, id ∉ inventory.descriptors →
    id ∉ candidate.descriptors ∧
      candidate.states[id]? = inventory.states[id]?
  metadata : updateLayoutMetadata candidate = candidate

/-- A candidate that the coordinator accepts. -/
structure AcceptedCandidate (inventory committed : OutputLayout)
    (staged : KeyMap OutputUpsert) (primary : Nat)
    (candidate : OutputLayout) : Prop where
  room : committed.generation ≠ generationMaximum
  known : primary ∈ inventory.descriptors
  proposed : ProposedLayout inventory committed staged primary candidate
  fixed : drmResult committed candidate = .accepted
  valid : ValidLayout candidate

variable {inventory committed candidate : OutputLayout}
  {staged : KeyMap OutputUpsert} {primary : Nat}

/-- The metadata are computed from the states. -/
theorem updateLayoutMetadata_idem (layout : OutputLayout) :
    updateLayoutMetadata (updateLayoutMetadata layout) =
      updateLayoutMetadata layout := rfl

theorem ProposedLayout.of_loop {configured : OutputLayout}
    (loop : ConfiguredLoop committed staged inventory.descriptors.toList
      { inventory with
        generation := committed.generation + 1
        primaryOutputId := primary } configured) :
    ProposedLayout inventory committed staged primary
      (updateLayoutMetadata configured) where
  generation := congrArg OutputLayout.generation loop.frame
  primaryOutputId := congrArg OutputLayout.primaryOutputId loop.frame
  outputs id descriptor found :=
    loop.configured (id, descriptor) (KeyMap.mem_toList.mpr found)
  others id absent := by
    have outside := loop.others id (by
      rintro ⟨other, descriptor⟩ member rfl
      exact absent (KeyMap.mem_of_lookup (KeyMap.mem_toList.mp member)))
    refine ⟨fun member => ?_, outside.2⟩
    obtain ⟨descriptor, found⟩ := KeyMap.mem_iff.mp member
    exact absent (KeyMap.mem_of_lookup (outside.1.symm.trans found))
  metadata := updateLayoutMetadata_idem configured

/-- A request makes one layout. -/
theorem ProposedLayout.unique {other : OutputLayout}
    (proposed : ProposedLayout inventory committed staged primary candidate)
    (again : ProposedLayout inventory committed staged primary other) :
    candidate = other := by
  have entries : ∀ id : Nat,
      candidate.descriptors[id]? = other.descriptors[id]? ∧
        candidate.states[id]? = other.states[id]? := by
    intro id
    cases found : inventory.descriptors[id]? with
    | none =>
        have absent : id ∉ inventory.descriptors := by
          rw [KeyMap.mem_iff]
          simp [found]
        obtain ⟨undescribed, atState⟩ := proposed.others id absent
        obtain ⟨undescribed', atState'⟩ := again.others id absent
        refine ⟨?_, atState.trans atState'.symm⟩
        rw [Std.ExtTreeMap.getElem?_eq_none undescribed,
          Std.ExtTreeMap.getElem?_eq_none undescribed']
    | some descriptor =>
        obtain ⟨value, described, state, hvalue, configured, hd, hs⟩ :=
          proposed.outputs id descriptor found
        obtain ⟨value', described', state', hvalue', configured', hd', hs'⟩ :=
          again.outputs id descriptor found
        obtain rfl := Option.some.inj (hvalue.symm.trans hvalue')
        have same := (configureOutput_ok.mpr configured).symm.trans
          (configureOutput_ok.mpr configured')
        obtain ⟨rfl, rfl⟩ := Prod.mk.inj (Except.ok.inj same)
        exact ⟨hd.trans hd'.symm, hs.trans hs'.symm⟩
  have descriptors : candidate.descriptors = other.descriptors :=
    Std.ExtTreeMap.ext_getElem? fun id => (entries id).1
  have states : candidate.states = other.states :=
    Std.ExtTreeMap.ext_getElem? fun id => (entries id).2
  have generations := proposed.generation.trans again.generation.symm
  have primaries := proposed.primaryOutputId.trans again.primaryOutputId.symm
  rw [← proposed.metadata, ← again.metadata]
  unfold updateLayoutMetadata OutputLayout.enabledEntries
    OutputLayout.expectedOutputOrder
  rw [descriptors, states, generations, primaries]

theorem buildCandidate_ok :
    buildCandidate inventory committed staged primary = .ok candidate ↔
      AcceptedCandidate inventory committed staged primary candidate := by
  have distinct : inventory.descriptors.toList.Pairwise
      fun left right => left.1 ≠ right.1 :=
    (KeyMap.toList_pairwise inventory.descriptors).imp Nat.ne_of_lt
  constructor
  · intro success
    unfold buildCandidate at success
    split at success
    · cases success
    · rename_i room
      split at success
      · cases success
      · rename_i known
        split at success
        · cases success
        · rename_i configured loop
          simp only at success
          split at success
          · cases success
          · rename_i fixed
            split at success
            · rename_i valid
              obtain rfl := Except.ok.inj success
              exact {
                room
                known := by simpa using known
                proposed := .of_loop (configureOutputs_ok distinct loop)
                fixed := not_not.mp fixed
                valid := validateLayout_iff.mp valid }
            · cases success
  · rintro ⟨room, known, proposed, fixed, valid⟩
    have finishes : ∃ configured,
        configureOutputs committed staged inventory.descriptors.toList
          { inventory with
            generation := committed.generation + 1
            primaryOutputId := primary } = .ok configured := by
      apply configureOutputs_total rfl rfl
      rintro ⟨id, descriptor⟩ member
      obtain ⟨value, described, state, hvalue, configured, _⟩ :=
        proposed.outputs id descriptor (KeyMap.mem_toList.mp member)
      exact ⟨value, described, state, hvalue, configured⟩
    obtain ⟨configured, loop⟩ := finishes
    have same : updateLayoutMetadata configured = candidate :=
      (ProposedLayout.of_loop (configureOutputs_ok distinct loop)).unique
        proposed
    unfold buildCandidate
    rw [if_neg room, if_neg (by simpa using known), loop]
    simp only
    rw [same, if_neg (not_not.mpr fixed),
      if_pos (validateLayout_iff.mpr valid)]

end Glasswyrm.Server
