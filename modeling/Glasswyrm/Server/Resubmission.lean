import Glasswyrm.Server.ResubmittedLayout

namespace Glasswyrm.Server

open Output Compositor

/-! The layouts that may be submitted again: the candidates that were accepted,
and an inventory whose modes can be listed. -/

/-! ## Candidates -/

section

variable {inventory committed layout : OutputLayout}
  {staged : KeyMap OutputUpsert} {primary : Nat}

namespace AcceptedCandidate

/-- The loop's output under an identifier of the candidate. -/
theorem configured
    (accepted : AcceptedCandidate inventory committed staged primary layout)
    {id : Nat} {state : OutputState} (found : layout.states[id]? = some state) :
    ∃ value, staged[id]? = some value ∧
      inventory.descriptors[id]? = some (inventory.descriptor id) ∧
      ConfiguredOutput (committed.generation + 1) primary id
        (inventory.descriptor id) (stateOf committed id) value
        (layout.descriptor id) state := by
  have described := accepted.valid.described found
  have known : id ∈ inventory.descriptors := by
    by_contra absent
    exact (accepted.proposed.others id absent).1 (KeyMap.mem_of_lookup described)
  obtain ⟨descriptor, inventoried⟩ := KeyMap.mem_iff.mp known
  obtain ⟨value, described', state', hvalue, configured, hd, hs⟩ :=
    accepted.proposed.outputs id descriptor inventoried
  obtain rfl := Option.some.inj (found.symm.trans hs)
  obtain rfl := Option.some.inj (described.symm.trans hd)
  rw [descriptor_of_lookup inventoried]
  exact ⟨value, hvalue, inventoried, configured⟩

/-- An accepted candidate selects its own modes. -/
theorem selection_eq
    (accepted : AcceptedCandidate inventory committed staged primary layout)
    {id : Nat} {state : OutputState} (found : layout.states[id]? = some state) :
    selection inventory layout id =
        ((layout.descriptor id).modes, state.modeId) ∧
      (state.enabled = true →
        (selectMode id (inventory.descriptor id) state
          (outputRecord state)).isSome = true) := by
  obtain ⟨value, _, _, configured⟩ := accepted.configured found
  generalize layout.descriptor id = described at configured ⊢
  rw [selection, stateOf_lookup found]
  cases configured with
  | disabled off =>
      have disabled : (proposedState id (committed.generation + 1) primary
        value).enabled = false := off
      rw [disabled]
      exact ⟨rfl, fun on => Bool.noConfusion on⟩
  | @enabled modes modeId on _ selected =>
      have enabled : (proposedState id (committed.generation + 1) primary
        value).enabled = true := on
      have same : selectMode id (inventory.descriptor id)
          { proposedState id (committed.generation + 1) primary value with
            modeId }
          (outputRecord { proposedState id (committed.generation + 1) primary
            value with modeId }) = some (modes, modeId) := by
        rw [← selected]
        exact selectMode_congr rfl rfl rfl rfl rfl rfl
      rw [same, if_pos enabled]
      exact ⟨rfl, fun _ => rfl⟩

theorem resubmittable
    (accepted : AcceptedCandidate inventory committed staged primary layout) :
    Resubmittable inventory layout where
  valid := accepted.valid
  described id descriptor found := by
    obtain ⟨value, described, state, _, configured, hd, _⟩ :=
      accepted.proposed.outputs id descriptor found
    exact ⟨described.modes, configured.described_eq ▸ hd⟩
  known id member := by
    by_contra absent
    exact (accepted.proposed.others id absent).1 member
  selectable id state found := (accepted.selection_eq found).2
  modeStates id state found generation := by
    rw [(accepted.selection_eq found).1]
    exact (accepted.valid.output found).mode
  distinct := by
    have same : layout.states.toList.flatMap (fun entry =>
        (selection inventory layout entry.1).1.map (·.id)) =
          layout.modeIdentifiers := by
      apply List.flatMap_congr
      rintro ⟨id, state⟩ member
      rw [(accepted.selection_eq (KeyMap.mem_toList.mp member)).1]
    rw [same]
    exact accepted.valid.modes

end AcceptedCandidate

end

/-! ## Inventories -/

/-- The identifier of the mode that an output needs and does not list. -/
def unlistedMode (id : Nat) (descriptor : OutputDescriptor)
    (state : OutputState) : Option Nat :=
  if state.enabled && !descriptor.modes.any (modeMatches state) then
    deriveOutputModeId id state.physicalWidth state.physicalHeight
      state.refreshMillihertz 0 (modeName (outputRecord state))
  else none

/-- The identifiers of the modes that the outputs need and do not list. -/
def unlistedModes (layout : OutputLayout) : List Nat :=
  layout.states.toList.flatMap fun entry =>
    (unlistedMode entry.1 (layout.descriptor entry.1) entry.2).toList

/-- Every enabled output lists a mode with its extents and refresh rate, or
has room for one under an identifier that no other mode has. -/
def modesListable (layout : OutputLayout) : Bool :=
  (layout.enabledEntries.all fun entry =>
    let descriptor := layout.descriptor entry.1
    descriptor.modes.any (modeMatches entry.2) ||
      (decide (descriptor.modes.length < kMaximumModesPerOutput) &&
        (unlistedMode entry.1 descriptor entry.2).isSome)) &&
    (layout.modeIdentifiers ++ unlistedModes layout).Nodup

@[simp] theorem clearCurrent_ids (modes : List OutputMode) :
    (clearCurrent modes).map (·.id) = modes.map (·.id) := by
  rw [clearCurrent, List.map_map]
  rfl

@[simp] theorem selectCurrent_ids (state : OutputState)
    (modes : List OutputMode) :
    (selectCurrent state modes).map (·.id) = modes.map (·.id) := by
  induction modes with
  | nil => rfl
  | cons mode rest ih =>
      rw [selectCurrent]
      split
      · rw [List.map_cons, clearCurrent_ids, List.map_cons]
      · rw [List.map_cons, ih, List.map_cons]

theorem clearCurrent_countP (modes : List OutputMode) :
    (clearCurrent modes).countP (·.current) = 0 := by
  rw [List.countP_eq_zero]
  intro mode member
  obtain ⟨other, _, rfl⟩ := List.mem_map.mp member
  exact nofun

theorem selectCurrent_countP (state : OutputState) (modes : List OutputMode) :
    (selectCurrent state modes).countP (·.current) ≤ 1 := by
  induction modes with
  | nil => exact Nat.zero_le _
  | cons mode rest ih =>
      rw [selectCurrent]
      split
      · rw [List.countP_cons_of_pos rfl, clearCurrent_countP]
      · rwa [List.countP_cons_of_neg (by simp)]

theorem clearCurrent_length (modes : List OutputMode) :
    (clearCurrent modes).length = modes.length := List.length_map _

theorem selectCurrent_length (state : OutputState) (modes : List OutputMode) :
    (selectCurrent state modes).length = modes.length := by
  have ids := congrArg List.length (selectCurrent_ids state modes)
  rwa [List.length_map, List.length_map] at ids

theorem clearCurrent_valid {descriptor : OutputDescriptor}
    {modes listed : List OutputMode}
    (valid : ∀ mode ∈ listed, validMode descriptor mode = true) :
    ∀ mode ∈ clearCurrent listed,
      validMode { descriptor with modes } mode = true := by
  intro mode member
  obtain ⟨other, found, rfl⟩ := List.mem_map.mp member
  exact valid other found

theorem selectCurrent_valid {descriptor : OutputDescriptor}
    {modes listed : List OutputMode} (state : OutputState)
    (valid : ∀ mode ∈ listed, validMode descriptor mode = true) :
    ∀ mode ∈ selectCurrent state listed,
      validMode { descriptor with modes } mode = true := by
  induction listed with
  | nil => exact nofun
  | cons mode rest ih =>
      obtain ⟨here, later⟩ := List.forall_mem_cons.mp valid
      rw [selectCurrent]
      split
      · exact List.forall_mem_cons.mpr ⟨here, clearCurrent_valid later⟩
      · exact List.forall_mem_cons.mpr ⟨here, ih later⟩

/-- The selected mode is the one found under its identifier. -/
theorem selectCurrent_find {state : OutputState} {modes : List OutputMode}
    {selected : OutputMode}
    (distinct : (modes.map (·.id)).Nodup)
    (first : modes.find? (modeMatches state) = some selected) :
    (selectCurrent state modes).find? (·.id = selected.id) =
      some { selected with current := true } := by
  induction modes with
  | nil => cases first
  | cons mode rest ih =>
      rw [List.map_cons, List.nodup_cons] at distinct
      rw [selectCurrent]
      cases matching : modeMatches state mode with
      | true =>
          rw [List.find?_cons_of_pos matching] at first
          obtain rfl := Option.some.inj first
          rw [if_pos rfl, List.find?_cons_of_pos (by simp)]
      | false =>
          rw [List.find?_cons_of_neg (by simp [matching])] at first
          have member := List.mem_of_find?_eq_some first
          have different : mode.id ≠ selected.id := fun same =>
            distinct.1 (same ▸ List.mem_map.mpr ⟨selected, member, rfl⟩)
          rw [if_neg (by decide), List.find?_cons_of_neg (by simpa using different)]
          exact ih distinct.2 first

theorem modeMatches_iff {state : OutputState} {mode : OutputMode} :
    modeMatches state mode = true ↔
      mode.physicalWidth = state.physicalWidth ∧
        mode.physicalHeight = state.physicalHeight ∧
        mode.refreshMillihertz = state.refreshMillihertz := by
  unfold modeMatches
  simp only [Bool.and_eq_true, decide_eq_true_eq, and_assoc]

/-- A listed mode may be selected. -/
theorem validModeState_listed {descriptor : OutputDescriptor}
    {state : OutputState} {selected : OutputMode}
    (valid : validModeState descriptor state = true)
    (first : descriptor.modes.find? (modeMatches state) = some selected)
    (generation : Nat) :
    validModeState
      { descriptor with modes := selectCurrent state descriptor.modes }
      (state.remodel selected.id generation) = true := by
  simp only [validModeState, validDescriptorModes, Bool.and_eq_true,
    decide_eq_true_eq, List.all_eq_true, Bool.or_eq_true,
    Bool.not_eq_true'] at valid ⊢
  obtain ⟨⟨⟨⟨⟨⟨⟨few, valid⟩, distinct⟩, _⟩, width⟩, height⟩, pixels⟩, on⟩ := valid
  refine ⟨⟨⟨⟨⟨⟨⟨?_, selectCurrent_valid state valid⟩, ?_⟩,
    selectCurrent_countP state _⟩, width⟩, height⟩, pixels⟩, ?_⟩
  · rwa [selectCurrent_length]
  · rwa [selectCurrent_ids]
  · refine on.imp id fun connected => ⟨connected.1, ?_⟩
    obtain ⟨sameWidth, sameHeight, sameRefresh⟩ :=
      modeMatches_iff.mp (List.find?_some first)
    have found := selectCurrent_find distinct first
    unfold stateMatchesMode OutputState.remodel
    simp only [found, sameWidth, sameHeight, sameRefresh,
      decide_true, Bool.and_self]

/-- An arbitrary mode may be selected where there is room for it. -/
theorem validModeState_arbitrary {id modeId : Nat}
    {descriptor : OutputDescriptor} {state : OutputState}
    (valid : validModeState descriptor state = true)
    (enabled : state.enabled = true) (described : descriptor.id = id)
    (room : descriptor.modes.length < kMaximumModesPerOutput)
    (derived : deriveOutputModeId id state.physicalWidth state.physicalHeight
      state.refreshMillihertz 0 (modeName (outputRecord state)) = some modeId)
    (fresh : modeId ∉ descriptor.modes.map (·.id)) (generation : Nat) :
    validModeState
      { descriptor with
        modes := clearCurrent descriptor.modes ++
          [arbitraryMode id modeId (outputRecord state)] }
      (state.remodel modeId generation) = true := by
  simp only [validModeState, validDescriptorModes, Bool.and_eq_true,
    decide_eq_true_eq, List.all_eq_true, Bool.or_eq_true,
    Bool.not_eq_true'] at valid ⊢
  obtain ⟨⟨⟨⟨⟨⟨⟨_, valid⟩, distinct⟩, _⟩, width⟩, height⟩, pixels⟩, on⟩ := valid
  obtain ⟨_, wide, high, refreshed, named, short⟩ :=
    deriveOutputModeId_some derived
  obtain ⟨connected, _⟩ := on.resolve_left (by simp [enabled])
  have listed : ∀ mode ∈ clearCurrent descriptor.modes, mode.id ≠ modeId := by
    intro mode member same
    have ids := List.mem_map.mpr ⟨mode, member, same⟩
    rw [clearCurrent_ids] at ids
    exact fresh ids
  refine ⟨⟨⟨⟨⟨⟨⟨?_, ?_⟩, ?_⟩, ?_⟩, width⟩, height⟩, pixels⟩, .inr ⟨connected, ?_⟩⟩
  · rw [List.length_append, clearCurrent_length, List.length_singleton]
    exact room
  · intro mode member
    rcases List.mem_append.mp member with old | new
    · exact clearCurrent_valid valid mode old
    · obtain rfl := List.mem_singleton.mp new
      have identified := deriveOutputModeId_nonzero derived
      have name : validName (modeName (outputRecord state)) = true := by
        rw [validName, Bool.and_eq_true, decide_eq_true_eq, Bool.not_eq_true',
          List.isEmpty_eq_false_iff]
        exact ⟨named, short⟩
      unfold validMode
      simp only [Bool.and_eq_true, decide_eq_true_eq]
      exact ⟨⟨⟨⟨⟨⟨⟨⟨identified, described.symm⟩, name⟩, wide⟩, high⟩, refreshed⟩,
        width⟩, height⟩, pixels⟩
  · rw [List.map_append, clearCurrent_ids]
    refine List.nodup_append.mpr ⟨distinct, List.nodup_singleton _, ?_⟩
    rintro first member second last rfl
    obtain rfl := List.mem_singleton.mp last
    exact fresh member
  · rw [List.countP_append, clearCurrent_countP]
    exact Nat.le_refl 1
  · have found : (clearCurrent descriptor.modes ++
        [arbitraryMode id modeId (outputRecord state)]).find?
          (·.id = modeId) =
        some (arbitraryMode id modeId (outputRecord state)) := by
      rw [List.find?_append, List.find?_eq_none.mpr fun mode member => by
        simpa using listed mode member]
      simp [arbitraryMode]
    unfold stateMatchesMode OutputState.remodel
    simp only [found]
    simp [arbitraryMode, outputRecord]

/-! ## The inventory -/

section

variable {inventory : OutputLayout} {id : Nat} {state : OutputState}

/-- A mode that is not listed under its identifier is an arbitrary one. -/
theorem selectMode_of_valid (id : Nat) {descriptor : OutputDescriptor}
    (metadata : descriptorMetadataIsValid descriptor = true)
    (valid : validModeState descriptor state = true)
    (enabled : state.enabled = true) :
    (∃ selected, descriptor.modes.find? (modeMatches state) = some selected) ∨
      (descriptor.modes.find? (modeMatches state) = none ∧
        ∀ value : OutputUpsert, selectMode id descriptor state value =
          (deriveOutputModeId id state.physicalWidth state.physicalHeight
            state.refreshMillihertz 0 (modeName value)).map fun modeId =>
              (clearCurrent descriptor.modes ++
                [arbitraryMode id modeId value], modeId)) := by
  cases first : descriptor.modes.find? (modeMatches state) with
  | some selected => exact .inl ⟨selected, rfl⟩
  | none =>
      refine .inr ⟨rfl, fun value => ?_⟩
      simp only [validModeState, Bool.and_eq_true, Bool.or_eq_true,
        Bool.not_eq_true'] at valid
      obtain ⟨_, matching⟩ := valid.2.resolve_left (by simp [enabled])
      unfold stateMatchesMode at matching
      split at matching
      · rename_i mode found
        simp only [Bool.and_eq_true, decide_eq_true_eq] at matching
        obtain ⟨⟨⟨_, width⟩, height⟩, refresh⟩ := matching
        have same := modeMatches_iff.mpr ⟨width.symm, height.symm, refresh.symm⟩
        have none := List.find?_eq_none.mp first mode
          (List.mem_of_find?_eq_some found)
        exact absurd same none
      · simp only [Bool.and_eq_true, decide_eq_true_eq] at matching
        obtain ⟨⟨⟨⟨⟨headless, arbitrary⟩, _⟩, _⟩, _⟩, _⟩ := matching
        have configurable : descriptor.modeConfigurable = true := by
          simp only [descriptorMetadataIsValid, headless, Bool.and_eq_true]
            at metadata
          simpa [arbitrary] using metadata.2
        unfold selectMode
        rw [first]
        simp only [headless, arbitrary, configurable, decide_true,
          Bool.and_self, if_true]

/-- What a listable inventory selects for one of its outputs. -/
theorem inventory_selection (valid : ValidLayout inventory)
    (listable : modesListable inventory = true)
    (found : inventory.states[id]? = some state) :
    (selection inventory inventory id).1.map (·.id) =
        (inventory.descriptor id).modes.map (·.id) ++
          (unlistedMode id (inventory.descriptor id) state).toList ∧
      (state.enabled = true →
        (selectMode id (inventory.descriptor id) state
          (outputRecord state)).isSome = true) ∧
      ∀ generation,
        validModeState
          { inventory.descriptor id with
            modes := (selection inventory inventory id).1 }
          (state.remodel (selection inventory inventory id).2 generation) =
            true := by
  have output := valid.output found
  rw [selection, stateOf_lookup found]
  generalize hdescriptor : inventory.descriptor id = descriptor at output ⊢
  cases enabled : state.enabled with
  | false =>
      have unlisted : unlistedMode id descriptor state = none := by
        simp [unlistedMode, enabled]
      rw [unlisted, if_neg (by decide)]
      refine ⟨(List.append_nil _).symm, fun on => Bool.noConfusion on,
        fun generation => ?_⟩
      -- A disabled state is not matched with its mode.
      have same : validModeState descriptor (state.remodel 0 generation) =
          validModeState descriptor state := by
        simp only [validModeState, OutputState.remodel, enabled,
          Bool.not_false, Bool.true_or]
        rfl
      exact same.trans output.mode
  | true =>
      rw [if_pos rfl]
      rcases selectMode_of_valid id output.metadata output.mode enabled
        with ⟨selected, first⟩ | ⟨unlisted, arbitrary⟩
      · have matching : descriptor.modes.any (modeMatches state) = true :=
          List.any_eq_true.mpr
            ⟨selected, List.mem_of_find?_eq_some first, List.find?_some first⟩
        have listed : unlistedMode id descriptor state = none := by
          simp [unlistedMode, matching]
        have chosen : selectMode id descriptor state (outputRecord state) =
            some (selectCurrent state descriptor.modes, selected.id) := by
          rw [selectMode, first]
        rw [chosen, listed]
        refine ⟨?_, fun _ => rfl, validModeState_listed output.mode first⟩
        simp
      · have matching : descriptor.modes.any (modeMatches state) = false := by
          rw [List.any_eq_false]
          exact List.find?_eq_none.mp unlisted
        rw [modesListable, Bool.and_eq_true, List.all_eq_true,
          decide_eq_true_eq] at listable
        have member : (id, state) ∈ inventory.enabledEntries :=
          List.mem_filter.mpr ⟨KeyMap.mem_toList.mpr found, enabled⟩
        have roomy := listable.1 (id, state) member
        simp only [hdescriptor, matching, Bool.false_or, Bool.and_eq_true,
          decide_eq_true_eq] at roomy
        obtain ⟨room, derivable⟩ := roomy
        obtain ⟨modeId, derived⟩ := Option.isSome_iff_exists.mp derivable
        have identity : deriveOutputModeId id state.physicalWidth
            state.physicalHeight state.refreshMillihertz 0
            (modeName (outputRecord state)) = some modeId := by
          simpa [unlistedMode, enabled, matching] using derived
        have fresh : modeId ∉ descriptor.modes.map (·.id) := by
          intro repeated
          have distinct := (List.nodup_append.mp listable.2).2.2 modeId
            (List.mem_flatMap.mpr
              ⟨(id, state), KeyMap.mem_toList.mpr found, by rwa [hdescriptor]⟩)
            modeId (List.mem_flatMap.mpr
              ⟨(id, state), KeyMap.mem_toList.mpr found, by
                rw [hdescriptor, derived]
                exact List.mem_singleton_self modeId⟩)
          exact distinct rfl
        rw [arbitrary, identity, derived]
        refine ⟨?_, fun _ => rfl, validModeState_arbitrary output.mode enabled
          output.described room identity fresh⟩
        simp [arbitraryMode]

theorem inventory_resubmittable (valid : ValidLayout inventory)
    (listable : modesListable inventory = true) :
    Resubmittable inventory inventory where
  valid := valid
  described id descriptor found := ⟨descriptor.modes, found⟩
  known id member := member
  selectable id state found :=
    (inventory_selection valid listable found).2.1
  modeStates id state found :=
    (inventory_selection valid listable found).2.2
  distinct := by
    rw [modesListable, Bool.and_eq_true, decide_eq_true_eq] at listable
    have same : inventory.states.toList.flatMap (fun entry =>
        (selection inventory inventory entry.1).1.map (·.id)) =
          inventory.states.toList.flatMap fun entry =>
            (inventory.descriptor entry.1).modes.map (·.id) ++
              (unlistedMode entry.1 (inventory.descriptor entry.1)
                entry.2).toList := by
      apply List.flatMap_congr
      rintro ⟨id, state⟩ member
      have whole : modesListable inventory = true := by
        rw [modesListable, Bool.and_eq_true, decide_eq_true_eq]
        exact listable
      exact (inventory_selection valid whole (KeyMap.mem_toList.mp member)).1
    rw [same]
    exact (List.flatMap_append_perm _ _ _).nodup_iff.mp listable.2

end

end Glasswyrm.Server
