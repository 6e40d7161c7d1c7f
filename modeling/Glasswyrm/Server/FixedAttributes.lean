import Glasswyrm.Server.Resubmission

namespace Glasswyrm.Server

open Output Compositor

/-! What a run of configurations keeps of the attributes that an output does
not let be configured. -/

/-- An output's attributes are those of the inventory, disabled or not. -/
structure KeptAttributes (descriptor : OutputDescriptor)
    (original state : OutputState) : Prop where
  scale : descriptor.scaleConfigurable = true ∨ state.scale = original.scale
  transform : descriptor.transformConfigurable = true ∨
    state.transform = original.transform
  mode : descriptor.modeConfigurable = true ∨
    (state.enabled = original.enabled ∧
      state.physicalWidth = original.physicalWidth ∧
      state.physicalHeight = original.physicalHeight ∧
      state.refreshMillihertz = original.refreshMillihertz ∧
      (state.enabled = true → state.modeId = original.modeId))

/-- A proposed record that touches no fixed attribute and does not disable an
output whose mode is fixed. -/
def recordKeeps (descriptor : OutputDescriptor) (original : OutputState)
    (value : OutputUpsert) : Bool :=
  (descriptor.scaleConfigurable ||
      (value.scaleNumerator = original.scale.numerator &&
        value.scaleDenominator = original.scale.denominator)) &&
    (descriptor.transformConfigurable ||
      value.transform = original.transform) &&
    (descriptor.modeConfigurable || !original.enabled || value.enabled)

/-- The mode of an output with a fixed mode is the first one listed with its
extents and refresh rate. -/
def fixedModesFirst (layout : OutputLayout) : Bool :=
  layout.enabledEntries.all fun entry =>
    let descriptor := layout.descriptor entry.1
    descriptor.modeConfigurable ||
      (descriptor.modes.find? (modeMatches entry.2)).any
        (·.id = entry.2.modeId)

def AllKept (inventory layout : OutputLayout) : Prop :=
  ∀ (id : Nat) (original state : OutputState),
    inventory.states[id]? = some original →
      layout.states[id]? = some state →
        KeptAttributes (inventory.descriptor id) original state

variable {inventory committed layout : OutputLayout}
  {staged : KeyMap OutputUpsert} {primary : Nat}

theorem AllKept.refl (inventory : OutputLayout) :
    AllKept inventory inventory := by
  intro id original state here found
  obtain rfl := Option.some.inj (here.symm.trans found)
  exact ⟨.inr rfl, .inr rfl, .inr ⟨rfl, rfl, rfl, rfl, fun _ => rfl⟩⟩

/-- A granted record that keeps the fixed attributes makes a state that
does. -/
theorem KeptAttributes.step {id generation : Nat}
    {descriptor described : OutputDescriptor} {original old state : OutputState}
    {value : OutputUpsert}
    (sound : ValidOutput id descriptor original)
    (valid : ValidOutput id described state)
    (first : original.enabled = true → descriptor.modeConfigurable = true ∨
      (descriptor.modes.find? (modeMatches original)).any
        (·.id = original.modeId) = true)
    (kept : KeptAttributes descriptor original old)
    (keeps : recordKeeps descriptor original value = true)
    (configured : ConfiguredOutput generation primary id descriptor old value
      described state) : KeptAttributes descriptor original state := by
  simp only [recordKeeps, Bool.and_eq_true, Bool.or_eq_true,
    decide_eq_true_eq, Bool.not_eq_true'] at keeps
  obtain ⟨⟨scale, transform⟩, stays⟩ := keeps
  have shape := configured.state_eq
  have sameScale : state.scale =
      { numerator := value.scaleNumerator
        denominator := value.scaleDenominator } := by
    rw [shape]
    rfl
  have sameTransform : state.transform = value.transform := by
    rw [shape]
    rfl
  have sameEnabled : state.enabled = value.enabled := by
    rw [shape]
    rfl
  refine ⟨scale.imp_right fun same => ?_,
    transform.imp_right fun same => sameTransform.trans same, ?_⟩
  · rw [sameScale, same.1, same.2]
  · cases mutable : descriptor.modeConfigurable with
    | true => exact .inl rfl
    | false =>
        refine .inr ?_
        cases configured with
        | disabled off =>
            have darkened : original.enabled = false := by
              simpa [mutable, off] using stays
            have dark := valid.dark off
            have origin := sound.dark darkened
            exact ⟨off.trans darkened.symm, dark.1.trans origin.1.symm,
              dark.2.1.trans origin.2.1.symm, dark.2.2.trans origin.2.2.symm,
              fun on => absurd (off.symm.trans on) nofun⟩
        | @enabled modes modeId on granted selected =>
            obtain ⟨_, oldWidth, oldHeight, oldRefresh, _⟩ :=
              kept.mode.resolve_left (by simp [mutable])
            obtain ⟨width, height, refresh⟩ :=
              granted.mode.resolve_left (by simp [mutable])
            have sameWidth := width.trans oldWidth
            have sameHeight := height.trans oldHeight
            have sameRefresh := refresh.trans oldRefresh
            have lit : original.enabled = true := by
              by_contra off
              have dark := sound.dark (by simpa using off)
              exact valid.lit on (sameWidth.trans dark.1)
            refine ⟨on.trans lit.symm, sameWidth, sameHeight, sameRefresh,
              fun _ => ?_⟩
            have matching : modeMatches original =
                modeMatches (proposedState id generation primary value) := by
              funext mode
              rw [modeMatches, modeMatches, sameWidth, sameHeight, sameRefresh]
            have listed := (first lit).resolve_left (by simp [mutable])
            rw [matching] at listed
            obtain ⟨mode, found, same⟩ := (Option.any_eq_true _ _).mp listed
            unfold selectMode at selected
            rw [found] at selected
            obtain ⟨_, rfl⟩ := Prod.mk.inj (Option.some.inj selected)
            exact of_decide_eq_true same

/-! ## The single fixed output -/

/-- A single output whose mode is fixed is at the same place in two layouts. -/
structure SamePlacement (before after : OutputLayout) (id : Nat) : Prop where
  modeId : (stateOf before id).modeId = (stateOf after id).modeId
  width : (stateOf before id).physicalWidth = (stateOf after id).physicalWidth
  height :
    (stateOf before id).physicalHeight = (stateOf after id).physicalHeight
  refresh :
    (stateOf before id).refreshMillihertz = (stateOf after id).refreshMillihertz
  x : (stateOf before id).logicalX = (stateOf after id).logicalX
  y : (stateOf before id).logicalY = (stateOf after id).logicalY
  primary : (stateOf before id).primary = (stateOf after id).primary
  enabled : (stateOf before id).enabled = (stateOf after id).enabled
  primaryOutputId : before.primaryOutputId = after.primaryOutputId

theorem SamePlacement.refl (layout : OutputLayout) (id : Nat) :
    SamePlacement layout layout id :=
  ⟨rfl, rfl, rfl, rfl, rfl, rfl, rfl, rfl, rfl⟩

theorem SamePlacement.symm {before after : OutputLayout} {id : Nat}
    (same : SamePlacement before after id) : SamePlacement after before id where
  modeId := same.modeId.symm
  width := same.width.symm
  height := same.height.symm
  refresh := same.refresh.symm
  x := same.x.symm
  y := same.y.symm
  primary := same.primary.symm
  enabled := same.enabled.symm
  primaryOutputId := same.primaryOutputId.symm

theorem SamePlacement.trans {first second third : OutputLayout} {id : Nat}
    (left : SamePlacement first second id)
    (right : SamePlacement second third id) : SamePlacement first third id where
  modeId := left.modeId.trans right.modeId
  width := left.width.trans right.width
  height := left.height.trans right.height
  refresh := left.refresh.trans right.refresh
  x := left.x.trans right.x
  y := left.y.trans right.y
  primary := left.primary.trans right.primary
  enabled := left.enabled.trans right.enabled
  primaryOutputId := left.primaryOutputId.trans right.primaryOutputId

theorem singleFixed_none_iff {before after : OutputLayout} :
    validateSingleFixedDrmConfiguration before after = .none ↔
      isSingleFixedDrmOutputProfile before = true ∧
        isSingleFixedDrmOutputProfile after = true ∧
        before.outputOrder.headD 0 = after.outputOrder.headD 0 ∧
        SamePlacement before after (before.outputOrder.headD 0) := by
  unfold validateSingleFixedDrmConfiguration
  simp only
  constructor
  · intro accepted
    split at accepted
    · cases accepted
    · rename_i profiles
      split at accepted
      · cases accepted
      · rename_i identity
        split at accepted
        · cases accepted
        · rename_i mode
          split at accepted
          · cases accepted
          · rename_i position
            split at accepted
            · cases accepted
            · rename_i primary
              split at accepted
              · cases accepted
              · rename_i enabled
                have same := not_not.mp identity
                rw [← same] at mode position primary enabled
                simp only [Bool.or_eq_true, Bool.not_eq_true',
                  decide_eq_true_eq, not_or, Bool.not_eq_false,
                  not_not] at profiles mode position primary enabled
                obtain ⟨⟨⟨modeId, width⟩, height⟩, refresh⟩ := mode
                exact ⟨profiles.1, profiles.2, same, modeId, width, height,
                  refresh, position.1, position.2, primary.1, enabled,
                  primary.2⟩
  · rintro ⟨first, second, identity, placement⟩
    obtain ⟨modeId, width, height, refresh, x, y, primary, enabled,
      primaryOutputId⟩ := placement
    unfold stateOf at modeId width height refresh x y primary enabled
    rw [if_neg (by simp [first, second]), if_neg (not_not.mpr identity),
      ← identity]
    generalize before.outputOrder.headD 0 = id at *
    rw [if_neg (by simp [modeId, width, height, refresh]),
      if_neg (by simp [x, y]), if_neg (by simp [primary, primaryOutputId]),
      if_neg (by simp [enabled])]

/-- The profile is told from the descriptors of a valid layout. -/
theorem singleFixed_iff (valid : ValidLayout layout) :
    isSingleFixedDrmOutputProfile layout = true ↔
      layout.descriptors.size = 1 ∧
        ∀ (id : Nat) (descriptor : OutputDescriptor),
          layout.descriptors[id]? = some descriptor →
            descriptor.kind = .drm ∧ descriptor.modeConfigurable = false ∧
              descriptor.scaleConfigurable = true ∧
              descriptor.transformConfigurable = true := by
  have sizes : layout.states.size = layout.descriptors.size :=
    le_antisymm (KeyMap.size_le_of_keys fun id => (valid.complete id).mp)
      (KeyMap.size_le_of_keys fun id => (valid.complete id).mpr)
  have count : layout.outputOrder.length = layout.states.size := by
    rw [valid.order, OutputLayout.expectedOutputOrder, List.length_map,
      List.length_insertionSort, Std.ExtTreeMap.length_toList]
  unfold isSingleFixedDrmOutputProfile
  constructor
  · intro single
    split at single
    · rename_i id order
      simp only [Bool.and_eq_true, decide_eq_true_eq] at single
      obtain ⟨⟨⟨one, _⟩, fixed⟩, _⟩ := single
      refine ⟨one, fun other descriptor found => ?_⟩
      obtain ⟨described, here, flags⟩ := (Option.any_eq_true _ _).mp fixed
      have only : other = id := by
        by_contra different
        have bound : [other, id].length ≤ layout.descriptors.size := by
          apply KeyMap.length_le_size
          · simp [different]
          · intro key member
            rcases List.mem_pair.mp member with rfl | rfl
            · exact KeyMap.mem_of_lookup found
            · exact KeyMap.mem_of_lookup here
        rw [one] at bound
        exact absurd bound (by simp)
      subst only
      obtain rfl := Option.some.inj (here.symm.trans found)
      simp only [Bool.and_eq_true, decide_eq_true_eq, Bool.not_eq_true']
        at flags
      exact ⟨flags.1.1.1.2, flags.1.1.2, flags.1.2, flags.2⟩
    · cases single
  · rintro ⟨one, fixed⟩
    obtain ⟨id, order⟩ := List.length_eq_one_iff.mp
      (count.trans (sizes.trans one))
    rw [order]
    simp only [Bool.and_eq_true, decide_eq_true_eq]
    have member : id ∈ layout.outputOrder := by simp [order]
    rw [valid.order, OutputLayout.expectedOutputOrder] at member
    obtain ⟨⟨_, state⟩, listed, rfl⟩ := List.mem_map.mp member
    have found := KeyMap.mem_toList.mp
      ((List.mem_insertionSort _).mp listed)
    have output := valid.output found
    have described := valid.described found
    obtain ⟨drm, mode, scale, transform⟩ := fixed _ _ described
    refine ⟨⟨⟨one, sizes.trans one⟩, ?_⟩, ?_⟩
    · rw [described]
      simp [output.described, drm, mode, scale, transform]
    · rw [found]
      simp [output.identified]

/-! ## Layouts that can be returned to -/

/-- The profile does not depend on the modes. -/
theorem singleFixed_congr (sound : ValidLayout inventory)
    (valid : ValidLayout layout)
    (described : ∀ (id : Nat) (descriptor : OutputDescriptor),
      inventory.descriptors[id]? = some descriptor →
        ∃ modes, layout.descriptors[id]? = some { descriptor with modes })
    (known : ∀ id : Nat, id ∈ layout.descriptors → id ∈ inventory.descriptors) :
    isSingleFixedDrmOutputProfile layout =
      isSingleFixedDrmOutputProfile inventory := by
  have present : ∀ id : Nat,
      id ∈ inventory.descriptors → id ∈ layout.descriptors := by
    intro id member
    obtain ⟨descriptor, found⟩ := KeyMap.mem_iff.mp member
    obtain ⟨_, here⟩ := described id descriptor found
    exact KeyMap.mem_of_lookup here
  have sizes : layout.descriptors.size = inventory.descriptors.size :=
    le_antisymm (KeyMap.size_le_of_keys known)
      (KeyMap.size_le_of_keys present)
  rw [Bool.eq_iff_iff, singleFixed_iff valid, singleFixed_iff sound, sizes]
  refine and_congr_right fun _ => ⟨?_, ?_⟩
  · intro fixed id descriptor found
    obtain ⟨modes, here⟩ := described id descriptor found
    have flags := fixed id _ here
    exact flags
  · intro fixed id descriptor found
    obtain ⟨original, inventoried⟩ := KeyMap.mem_iff.mp
      (known id (KeyMap.mem_of_lookup found))
    obtain ⟨modes, here⟩ := described id original inventoried
    obtain rfl := Option.some.inj (here.symm.trans found)
    exact fixed id original inventoried

namespace Resubmittable

/-- A resubmittable layout has the profile of its inventory. -/
theorem profile (resubmittable : Resubmittable inventory layout)
    (sound : ValidLayout inventory) :
    isSingleFixedDrmOutputProfile layout =
      isSingleFixedDrmOutputProfile inventory :=
  singleFixed_congr sound resubmittable.valid resubmittable.described
    resubmittable.known

theorem resubmitted_profile (resubmittable : Resubmittable inventory layout)
    (sound : ValidLayout inventory) {generation : Nat}
    (started : generation ≠ 0) :
    isSingleFixedDrmOutputProfile
        (resubmittedLayout inventory layout generation) =
      isSingleFixedDrmOutputProfile inventory := by
  apply singleFixed_congr sound (resubmittable.resubmitted_valid started)
  · intro id descriptor found
    obtain ⟨modes, here⟩ := resubmittable.described id descriptor found
    exact ⟨(selection inventory layout id).1, by
      rw [resubmittedLayout, OutputLayout.remodel_descriptor, here]
      rfl⟩
  · intro id member
    obtain ⟨descriptor, found⟩ := KeyMap.mem_iff.mp member
    rw [resubmittedLayout, OutputLayout.remodel_descriptor,
      Option.map_eq_some_iff] at found
    obtain ⟨_, here, _⟩ := found
    exact resubmittable.known id (KeyMap.mem_of_lookup here)

end Resubmittable

/-- A layout that keeps the fixed attributes of the inventory and selects its
own fixed modes. -/
structure Reconfigurable (inventory layout : OutputLayout) : Prop where
  resubmittable : Resubmittable inventory layout
  kept : AllKept inventory layout
  ownMode : ∀ (id : Nat) (state : OutputState),
    layout.states[id]? = some state → state.enabled = true →
      (inventory.descriptor id).modeConfigurable = false →
        (selection inventory layout id).2 = state.modeId
  placed : isSingleFixedDrmOutputProfile inventory = true →
    inventory.outputOrder.headD 0 = layout.outputOrder.headD 0 ∧
      SamePlacement inventory layout (inventory.outputOrder.headD 0)

/-- The output of the single fixed profile. -/
theorem single_output (valid : ValidLayout layout)
    (single : isSingleFixedDrmOutputProfile layout = true) :
    ∃ state descriptor,
      layout.states[layout.outputOrder.headD 0]? = some state ∧
        layout.descriptors[layout.outputOrder.headD 0]? = some descriptor ∧
        state.enabled = true ∧ descriptor.modeConfigurable = false := by
  have fixed := ((singleFixed_iff valid).mp single).2
  obtain ⟨primary, lookup, enabled, _⟩ := valid.primary_state
  have listed : layout.primaryOutputId ∈ layout.outputOrder := by
    rw [valid.order, OutputLayout.expectedOutputOrder]
    exact List.mem_map.mpr ⟨(layout.primaryOutputId, primary),
      (List.mem_insertionSort _).mpr (KeyMap.mem_toList.mpr lookup), rfl⟩
  unfold isSingleFixedDrmOutputProfile at single
  split at single
  · rename_i id order
    rw [order] at listed ⊢
    obtain rfl := List.mem_singleton.mp listed
    have described := valid.described lookup
    exact ⟨primary, _, lookup, described, enabled,
      (fixed _ _ described).2.1⟩
  · cases single

namespace Reconfigurable

/-- A resubmitted layout is placed as the layout was. -/
theorem resubmitted_placement (layout' : Reconfigurable inventory layout)
    (sound : ValidLayout inventory)
    (single : isSingleFixedDrmOutputProfile inventory = true)
    (generation : Nat) :
    SamePlacement layout (resubmittedLayout inventory layout generation)
      (layout.outputOrder.headD 0) := by
  have valid := layout'.resubmittable.valid
  have profile := (layout'.resubmittable.profile sound).trans single
  obtain ⟨state, descriptor, found, described, enabled, fixed⟩ :=
    single_output valid profile
  generalize layout.outputOrder.headD 0 = id at *
  have inventoried : (inventory.descriptor id).modeConfigurable = false := by
    obtain ⟨original, here⟩ := KeyMap.mem_iff.mp
      (layout'.resubmittable.known id (KeyMap.mem_of_lookup described))
    obtain ⟨modes, same⟩ := layout'.resubmittable.described id original here
    obtain rfl := Option.some.inj (same.symm.trans described)
    rw [descriptor_of_lookup here]
    exact fixed
  have after : stateOf (resubmittedLayout inventory layout generation) id =
      state.remodel (selection inventory layout id).2 generation := by
    apply stateOf_lookup
    rw [resubmittedLayout, OutputLayout.remodel_state, found]
    rfl
  have before := stateOf_lookup found
  have own := layout'.ownMode id state found enabled inventoried
  constructor
  · rw [before, after]
    exact own.symm
  all_goals first | rfl | (rw [before, after]; rfl)

/-- The single fixed output does not stand in the way. -/
theorem drmResult_accepted (committed' : Reconfigurable inventory committed)
    (layout' : Reconfigurable inventory layout)
    (sound : ValidLayout inventory) {generation : Nat}
    (started : generation ≠ 0) :
    drmResult committed (resubmittedLayout inventory layout generation) =
      .accepted := by
  have before := committed'.resubmittable.profile sound
  have after := layout'.resubmittable.resubmitted_profile sound started
  unfold drmResult
  split
  · rename_i single
    have profile := before.symm.trans single
    obtain ⟨fromHead, fromInventory⟩ := committed'.placed profile
    obtain ⟨toHead, toLayout⟩ := layout'.placed profile
    have again := layout'.resubmitted_placement sound profile generation
    rw [← toHead] at again
    have placement := (fromInventory.symm.trans toLayout).trans again
    rw [singleFixed_none_iff.mpr ⟨single, after.trans profile,
      fromHead.symm.trans toHead, fromHead ▸ placement⟩]
  · rfl

/-- A fixed attribute of the layout is that of the committed one. -/
theorem granted (committed' : Reconfigurable inventory committed)
    (layout' : Reconfigurable inventory layout)
    (sound : ValidLayout inventory) {id : Nat} {state : OutputState}
    (found : layout.states[id]? = some state) :
    AttributesGranted (inventory.descriptor id) (stateOf committed id)
      state := by
  have known := layout'.resubmittable.known id
    ((layout'.resubmittable.valid.complete id).mp (KeyMap.mem_of_lookup found))
  obtain ⟨original, inventoried⟩ :=
    KeyMap.mem_iff.mp ((sound.complete id).mpr known)
  obtain ⟨descriptor, described⟩ := KeyMap.mem_iff.mp known
  obtain ⟨_, here⟩ := committed'.resubmittable.described id descriptor described
  obtain ⟨old, present⟩ := KeyMap.mem_iff.mp
    ((committed'.resubmittable.valid.complete id).mpr (KeyMap.mem_of_lookup here))
  rw [stateOf_lookup present]
  obtain ⟨scale, transform, mode⟩ := layout'.kept id original state inventoried
    found
  obtain ⟨oldScale, oldTransform, oldMode⟩ :=
    committed'.kept id original old inventoried present
  refine ⟨?_, ?_, ?_⟩
  · rcases scale with configurable | same
    · exact .inl configurable
    · exact oldScale.imp_right fun unchanged => same.trans unchanged.symm
  · rcases transform with configurable | same
    · exact .inl configurable
    · exact oldTransform.imp_right fun unchanged => same.trans unchanged.symm
  · rcases mode with configurable | ⟨_, width, height, refresh, _⟩
    · exact .inl configurable
    · exact oldMode.imp_right fun ⟨_, oldWidth, oldHeight, oldRefresh, _⟩ =>
        ⟨width.trans oldWidth.symm, height.trans oldHeight.symm,
          refresh.trans oldRefresh.symm⟩

/-- Any of these layouts is accepted over any other. -/
theorem accepted (committed' : Reconfigurable inventory committed)
    (layout' : Reconfigurable inventory layout)
    (sound : ValidLayout inventory)
    (room : committed.generation ≠ generationMaximum) :
    AcceptedCandidate inventory committed (layoutRecords layout)
      layout.primaryOutputId
      (resubmittedLayout inventory layout (committed.generation + 1)) :=
  layout'.resubmittable.accepted sound room
    (fun _ _ found _ => committed'.granted layout' sound found)
    (committed'.drmResult_accepted layout' sound (Nat.succ_ne_zero _))

end Reconfigurable

/-- The inventory can be returned to. -/
theorem Reconfigurable.initial (sound : ValidLayout inventory)
    (listable : modesListable inventory = true)
    (first : fixedModesFirst inventory = true) :
    Reconfigurable inventory inventory where
  resubmittable := inventory_resubmittable sound listable
  kept := .refl inventory
  ownMode id state found enabled fixed := by
    rw [fixedModesFirst, List.all_eq_true] at first
    have listed := first (id, state) (List.mem_filter.mpr
      ⟨KeyMap.mem_toList.mpr found, enabled⟩)
    simp only [fixed, Bool.false_or] at listed
    obtain ⟨mode, here, same⟩ := (Option.any_eq_true _ _).mp listed
    rw [selection, stateOf_lookup found, if_pos enabled, selectMode, here]
    exact of_decide_eq_true same
  placed _ := ⟨rfl, .refl inventory _⟩

/-- What the records of a request ask of the fixed attributes. -/
def KeepsFixed (inventory : OutputLayout) (staged : KeyMap OutputUpsert) :
    Prop :=
  ∀ (id : Nat) (value : OutputUpsert), staged[id]? = some value →
    recordKeeps (inventory.descriptor id) (stateOf inventory id) value = true

/-- An accepted candidate of a keeping request can be returned to. -/
theorem Reconfigurable.step {candidate : OutputLayout}
    (committed' : Reconfigurable inventory committed)
    (sound : ValidLayout inventory) (first : fixedModesFirst inventory = true)
    (keeps : KeepsFixed inventory staged)
    (accepted : AcceptedCandidate inventory committed staged primary
      candidate) : Reconfigurable inventory candidate where
  resubmittable := accepted.resubmittable
  kept id original state inventoried found := by
    obtain ⟨value, staged, described, configured⟩ := accepted.configured found
    have origin := sound.output inventoried
    obtain ⟨_, here⟩ := committed'.resubmittable.described id _ described
    obtain ⟨old, present⟩ := KeyMap.mem_iff.mp
      ((committed'.resubmittable.valid.complete id).mpr
        (KeyMap.mem_of_lookup here))
    have kept := committed'.kept id original old inventoried present
    have asked := keeps id value staged
    rw [stateOf_lookup inventoried] at asked
    rw [stateOf_lookup present] at configured
    refine kept.step origin (accepted.valid.output found) ?_ asked configured
    intro enabled
    rw [fixedModesFirst, List.all_eq_true] at first
    have listed := first (id, original) (List.mem_filter.mpr
      ⟨KeyMap.mem_toList.mpr inventoried, enabled⟩)
    rwa [Bool.or_eq_true] at listed
  ownMode id state found _ _ := by
    rw [(accepted.selection_eq found).1]
  placed single := by
    have profile := (committed'.resubmittable.profile sound).trans single
    have fixed := accepted.fixed
    rw [drmResult, if_pos profile] at fixed
    have unchanged : validateSingleFixedDrmConfiguration committed candidate =
        .none := by
      split at fixed
      · assumption
      · cases fixed
      · cases fixed
    obtain ⟨_, _, head, placement⟩ := singleFixed_none_iff.mp unchanged
    obtain ⟨fromHead, fromInventory⟩ := committed'.placed single
    rw [← fromHead] at placement
    exact ⟨fromHead.trans head, fromInventory.trans placement⟩

end Glasswyrm.Server
