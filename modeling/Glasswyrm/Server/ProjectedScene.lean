import Glasswyrm.Compositor.DamageCoverage
import Glasswyrm.Compositor.SceneValidation
import Glasswyrm.Library.Order
import Glasswyrm.Server.ResubmittedLayout

namespace Glasswyrm.Server

open Output Compositor

/-! What the compositor's validation makes of the records of a valid layout. -/

/-! ## Records -/

variable {layout : OutputLayout} {id : Nat} {descriptor : OutputDescriptor}
  {state : OutputState}

theorem validScale_of_layout
    (valid : validScaleState descriptor state = true) :
    validScale state.scale.numerator state.scale.denominator = true := by
  simp only [validScaleState, validOutputScale, RationalScale.validOutputScale,
    RationalScale.isReduced, RationalScale.inRange, Bool.and_eq_true,
    decide_eq_true_eq] at valid
  obtain ⟨⟨_, _, ⟨few, ⟨_, whole⟩, reduced⟩, least, most⟩, _⟩ := valid
  simp only [validScale, Bool.and_eq_true, decide_eq_true_eq]
  refine ⟨⟨⟨⟨whole, few⟩, reduced⟩, ?_⟩, ?_⟩
  · omega
  · change state.scale.numerator ≤ 4 * state.scale.denominator
    omega

/-- The extents of an enabled output come from its mode. -/
theorem mode_extents_of_layout (valid : ValidOutput id descriptor state)
    (on : state.enabled = true) :
    state.physicalWidth ≠ 0 ∧ state.physicalHeight ≠ 0 ∧
      state.refreshMillihertz ≠ 0 ∧ state.physicalWidth ≤ 4096 ∧
      state.physicalHeight ≤ 4096 ∧
      state.physicalWidth * state.physicalHeight ≤ 16777216 := by
  have limits := valid.scale
  have mode := valid.mode
  simp only [validScaleState, descriptorLimitsAreValid, Bool.and_eq_true,
    decide_eq_true_eq, and_assoc] at limits
  simp only [validModeState, validDescriptorModes, Bool.and_eq_true, on,
    Bool.not_true, Bool.false_or, List.all_eq_true, decide_eq_true_eq,
    and_assoc] at mode
  obtain ⟨_, _, _, wideLimit, highLimit, largeLimit, _⟩ := limits
  obtain ⟨_, modes, _, _, wide, high, large, _, matching⟩ := mode
  have lit : state.physicalWidth ≠ 0 ∧ state.physicalHeight ≠ 0 ∧
      state.refreshMillihertz ≠ 0 := by
    unfold stateMatchesMode at matching
    split at matching
    · rename_i listed found
      have sound := modes listed (List.mem_of_find?_eq_some found)
      simp only [validMode, Bool.and_eq_true, decide_eq_true_eq, and_assoc]
        at sound matching
      obtain ⟨_, width, height, refresh⟩ := matching
      rw [width, height, refresh]
      exact ⟨sound.2.2.2.1, sound.2.2.2.2.1, sound.2.2.2.2.2.1⟩
    · simp only [Bool.and_eq_true, decide_eq_true_eq, and_assoc] at matching
      exact matching.2.2.2
  exact ⟨lit.1, lit.2.1, lit.2.2, wide.trans wideLimit, high.trans highLimit,
    large.trans largeLimit⟩

/-- Both sides round the same extents up. -/
theorem logicalDimension_of_layout {physical logical : Nat}
    {scale : RationalScale}
    (derived : deriveLogicalDimension physical scale = some logical) :
    logicalDimension physical scale.numerator scale.denominator = logical := by
  unfold deriveLogicalDimension at derived
  simp only [Option.ite_none_left_eq_some, Option.some.injEq] at derived
  exact derived.2.2

/-- An extent is not rounded away. -/
theorem logicalDimension_pos {physical numerator denominator : Nat}
    (lit : physical ≠ 0) (whole : denominator ≠ 0) :
    logicalDimension physical numerator denominator ≠ 0 := by
  unfold logicalDimension
  simp only
  intro none
  have product : physical * denominator ≠ 0 := Nat.mul_ne_zero lit whole
  have parts := Nat.div_add_mod (physical * denominator) numerator
  split at none
  · exact Nat.succ_ne_zero _ none
  · rename_i remainder
    rw [Nat.add_zero] at none
    rw [none, not_not.mp remainder, Nat.mul_zero] at parts
    exact product parts.symm

theorem derivedExtent_of_layout (valid : ValidOutput id descriptor state)
    (on : state.enabled = true) : derivedExtent (outputRecord state) = true := by
  have extent := valid.extent
  simp only [validLogicalExtent, on, Bool.not_true, Bool.false_or,
    decide_eq_true_eq] at extent
  obtain ⟨width, hwidth, extent⟩ := Option.bind_eq_some_iff.mp extent
  obtain ⟨height, hheight, extent⟩ := Option.bind_eq_some_iff.mp extent
  obtain ⟨rfl, rfl⟩ := LogicalExtent.mk.inj (Option.some.inj extent)
  have wide := logicalDimension_of_layout hwidth
  have high := logicalDimension_of_layout hheight
  have swaps : transformSwapsExtents state.transform =
      transformSwapsAxes state.transform := by
    cases state.transform <;> rfl
  unfold derivedExtent outputRecord
  simp only [swaps]
  unfold transformedPhysicalExtent at wide high
  rw [Bool.and_eq_true, decide_eq_true_eq, decide_eq_true_eq]
  split at wide
  · rename_i swapped
    rw [if_pos swapped, if_pos swapped]
    rw [if_pos swapped] at high
    exact ⟨wide.symm, high.symm⟩
  · rename_i straight
    rw [if_neg straight, if_neg straight]
    rw [if_neg straight] at high
    exact ⟨wide.symm, high.symm⟩

/-- The far edges of the enabled outputs are within the root. -/
theorem far_edges_of_layout (valid : ValidLayout layout)
    (found : layout.states[id]? = some state) (on : state.enabled = true) :
    state.logicalX + state.logicalWidth ≤ 32767 ∧
      state.logicalY + state.logicalHeight ≤ 32767 := by
  have root := valid.root
  rw [validateRoot, LayoutValidationResult.require_valid (by decide)] at root
  simp only [Bool.and_eq_true, decide_eq_true_eq, and_assoc] at root
  obtain ⟨_, _, wide, high, _⟩ := root
  have member : (id, state) ∈ layout.enabledEntries :=
    List.mem_filter.mpr ⟨KeyMap.mem_toList.mpr found, on⟩
  have right := (Library.le_foldl_max layout.enabledEntries (fun entry =>
    entry.2.logicalX + entry.2.logicalWidth) 0).2 (id, state) member
  have bottom := (Library.le_foldl_max layout.enabledEntries (fun entry =>
    entry.2.logicalY + entry.2.logicalHeight) 0).2 (id, state) member
  exact ⟨right.trans wide, bottom.trans high⟩

/-- The record of an enabled output is within the compositor's bounds. -/
theorem boundedOutput_of_layout (valid : ValidLayout layout)
    (found : layout.states[id]? = some state) (on : state.enabled = true) :
    boundedOutput (outputRecord state) = true := by
  have output := valid.output found
  obtain ⟨lit, high, fresh, wide, tall, pixels⟩ := mode_extents_of_layout output on
  obtain ⟨left, top⟩ := output.placed on
  obtain ⟨right, bottom⟩ := far_edges_of_layout valid found on
  have derived := derivedExtent_of_layout output on
  have scale := validScale_of_layout output.scale
  simp only [validScale, Bool.and_eq_true, decide_eq_true_eq, and_assoc]
    at scale
  have whole := scale.1
  simp only [derivedExtent, Bool.and_eq_true, decide_eq_true_eq] at derived
  have width : state.logicalWidth ≠ 0 := by
    refine derived.1.trans_ne (logicalDimension_pos ?_ whole)
    split <;> assumption
  have height : state.logicalHeight ≠ 0 := by
    refine derived.2.trans_ne (logicalDimension_pos ?_ whole)
    split <;> assumption
  have horizontal : checkedExtent state.logicalX state.logicalWidth = true :=
    (checkedExtent_iff _ _).mpr ⟨width, by unfold int32Minimum; omega,
      by unfold int32Maximum; omega⟩
  have vertical : checkedExtent state.logicalY state.logicalHeight = true :=
    (checkedExtent_iff _ _).mpr ⟨height, by unfold int32Minimum; omega,
      by unfold int32Maximum; omega⟩
  unfold boundedOutput outputRecord
  simp only [Bool.and_eq_true, decide_eq_true_eq, and_assoc]
  exact ⟨left, top, width, height, lit, high, fresh, wide, tall, pixels,
    horizontal, vertical, right, bottom⟩

theorem validModelOutput_of_layout (valid : ValidLayout layout)
    (found : layout.states[id]? = some state) :
    validModelOutput (outputRecord state) = true := by
  have output := valid.output found
  unfold validModelOutput
  rw [Bool.and_eq_true]
  refine ⟨validScale_of_layout output.scale, ?_⟩
  cases on : state.enabled with
  | true =>
      have enabled : (outputRecord state).enabled = true := on
      rw [enabled, Bool.not_true, if_neg (by decide), Bool.and_eq_true]
      exact ⟨boundedOutput_of_layout valid found on,
        derivedExtent_of_layout output on⟩
  | false =>
      have disabled : (outputRecord state).enabled = false := on
      have dark := output.disabled
      simp only [validDisabledState, on, Bool.false_or, Bool.and_eq_true,
        decide_eq_true_eq] at dark
      obtain ⟨⟨⟨⟨⟨⟨⟨_, x⟩, y⟩, width⟩, height⟩, wide⟩, high⟩, refresh⟩ := dark
      rw [disabled, Bool.not_false, if_pos rfl]
      unfold disabledOutput outputRecord
      simp only [Bool.and_eq_true, decide_eq_true_eq]
      exact ⟨⟨⟨⟨⟨⟨x, y⟩, width⟩, height⟩, wide⟩, high⟩, refresh⟩

/-- The record of a valid output is a valid record, except that its color may
be another. -/
theorem validSceneOutput_outputRecord (valid : ValidLayout layout)
    (found : layout.states[id]? = some state) :
    validSceneOutput (outputRecord state) .outputModel =
      srgb (colorRecord state.color) := by
  have output := valid.output found
  have identified : state.outputId ≠ 0 := output.identified ▸ output.nonzero
  have modelled := validModelOutput_of_layout valid found
  unfold validSceneOutput
  simp only [modelled, Bool.and_true]
  change (decide (state.outputId ≠ 0) && _) = _
  rw [decide_eq_true identified, Bool.true_and]
  rfl

/-! ## The outputs of the scene -/

/-- The primary output first and then the others are all of them. -/
theorem primaryFirst_perm (valid : ValidLayout layout) :
    (layout.primaryOutputId ::
      layout.outputOrder.filter (· ≠ layout.primaryOutputId)).Perm
        layout.states.keys := by
  have perm := valid.outputOrder_perm
  have distinct := perm.nodup_iff.mpr (KeyMap.keys_nodup layout.states)
  obtain ⟨primary, found, _⟩ := valid.primary_state
  have listed : layout.primaryOutputId ∈ layout.outputOrder :=
    perm.mem_iff.mpr
      (Std.ExtTreeMap.mem_keys.mpr (KeyMap.mem_of_lookup found))
  have others : layout.outputOrder.filter (· ≠ layout.primaryOutputId) =
      layout.outputOrder.erase layout.primaryOutputId := by
    rw [distinct.erase_eq_filter]
    exact List.filter_congr fun id _ => by
      rw [Bool.eq_iff_iff]
      simp
  rw [others]
  exact (List.perm_cons_erase listed).symm.trans perm

/-- The records, with the primary output's first, are those of the layout. -/
theorem populateOutputSceneRecords_some (valid : ValidLayout layout) :
    ∃ records, populateOutputSceneRecords layout = some records ∧
      KeyMap.file (·.outputId) ∅ records.outputs = layoutRecords layout ∧
      (∀ record, record ∈ records.outputs ↔
        ∃ (id : Nat) (state : OutputState), layout.states[id]? = some state ∧
          outputRecord state = record) ∧
      records.primaryOutputId = layout.primaryOutputId ∧
      records.outputLayoutGeneration = layout.generation := by
  have perm := primaryFirst_perm valid
  unfold populateOutputSceneRecords
  simp only
  generalize layout.primaryOutputId :: layout.outputOrder.filter
    (· ≠ layout.primaryOutputId) = listing at perm ⊢
  have stated : ∀ id ∈ listing, ∃ state, layout.states[id]? = some state := by
    intro id member
    exact KeyMap.mem_iff.mp (Std.ExtTreeMap.mem_keys.mp (perm.mem_iff.mp member))
  have identified : ∀ id ∈ listing,
      (outputRecord (stateOf layout id)).outputId = id := by
    intro id member
    obtain ⟨state, found⟩ := stated id member
    rw [stateOf_lookup found]
    exact (valid.output found).identified
  have distinct : (listing.map fun id =>
      outputRecord (stateOf layout id)).Pairwise fun left right =>
        left.outputId ≠ right.outputId := by
    rw [List.pairwise_map]
    refine (perm.nodup_iff.mpr (KeyMap.keys_nodup layout.states)).imp_of_mem ?_
    intro left right leftMember rightMember different
    rwa [identified left leftMember, identified right rightMember]
  rw [if_pos (by rw [List.length_map, perm.length_eq,
    Std.ExtTreeMap.length_keys])]
  refine ⟨_, rfl, ?_, ?_, rfl, rfl⟩
  · refine Std.ExtTreeMap.ext_getElem? fun id => ?_
    rw [layoutRecords, Std.ExtTreeMap.getElem?_map]
    cases found : layout.states[id]? with
    | none =>
        rw [KeyMap.file_lookup_absent]
        · rfl
        · intro record member
          obtain ⟨other, listed, rfl⟩ := List.mem_map.mp member
          rw [identified other listed]
          rintro rfl
          obtain ⟨state, here⟩ := stated other listed
          rw [found] at here
          cases here
    | some state =>
        have listed : id ∈ listing := perm.mem_iff.mpr
          (Std.ExtTreeMap.mem_keys.mpr (KeyMap.mem_of_lookup found))
        have present := KeyMap.file_lookup_present ∅ distinct
          (List.mem_map.mpr ⟨id, listed, rfl⟩)
        rw [identified id listed, stateOf_lookup found] at present
        exact present
  · intro record
    rw [List.mem_map]
    constructor
    · rintro ⟨id, listed, rfl⟩
      obtain ⟨state, found⟩ := stated id listed
      exact ⟨id, state, found, by rw [stateOf_lookup found]⟩
    · rintro ⟨id, state, found, rfl⟩
      refine ⟨id, perm.mem_iff.mpr (Std.ExtTreeMap.mem_keys.mpr
        (KeyMap.mem_of_lookup found)), ?_⟩
      rw [stateOf_lookup found]

/-! ## Memberships -/

/-- Two full rectangles meet where their sides do. -/
theorem intersection_isSome_iff {left right : Rectangle}
    (leftFull : left.empty = false) (rightFull : right.empty = false)
    (leftValid : left.hasValidExtents = true)
    (rightValid : right.hasValidExtents = true) :
    (left.intersection right).isSome = true ↔
      left.x < right.right ∧ right.x < left.right ∧
        left.y < right.bottom ∧ right.y < left.bottom := by
  have leftWide : left.x < left.right ∧ left.y < left.bottom := by
    simp only [Rectangle.empty, Bool.or_eq_false_iff, decide_eq_false_iff_not]
      at leftFull
    simp only [Rectangle.right, Rectangle.bottom]
    omega
  have rightWide : right.x < right.right ∧ right.y < right.bottom := by
    simp only [Rectangle.empty, Bool.or_eq_false_iff, decide_eq_false_iff_not]
      at rightFull
    simp only [Rectangle.right, Rectangle.bottom]
    omega
  unfold Rectangle.intersection
  simp only [leftFull, rightFull, leftValid, rightValid, Bool.not_true,
    Bool.or_self, Bool.false_eq_true, if_false]
  split
  · rename_i apart
    simp only [Option.isSome_none, Bool.false_eq_true, false_iff]
    omega
  · rename_i meets
    simp only [Option.isSome_some, true_iff]
    omega

/-- The rectangle of an enabled output is full. -/
theorem outputRectangle_full (valid : ValidLayout layout)
    (found : layout.states[id]? = some state) (on : state.enabled = true) :
    (outputRectangle (outputRecord state)).empty = false ∧
      (outputRectangle (outputRecord state)).hasValidExtents = true := by
  have bounded := boundedOutput_of_layout valid found on
  unfold boundedOutput at bounded
  simp only [Bool.and_eq_true, decide_eq_true_eq, and_assoc] at bounded
  obtain ⟨_, _, width, height, _, _, _, _, _, _, horizontal, vertical, _⟩ :=
    bounded
  obtain ⟨_, left, right⟩ := (checkedExtent_iff _ _).mp horizontal
  obtain ⟨_, top, bottom⟩ := (checkedExtent_iff _ _).mp vertical
  constructor
  · simp only [Rectangle.empty, Bool.or_eq_false_iff, decide_eq_false_iff_not]
    exact ⟨width, height⟩
  · exact (Rectangle.hasValidExtents_iff _).mpr ⟨left, right, top, bottom⟩

theorem surfaceRectangle_full {surface : SurfaceUpsert}
    (sound : validSceneSurface surface .outputModel = true) :
    (surfaceRectangle surface).empty = false ∧
      (surfaceRectangle surface).hasValidExtents = true := by
  simp only [validSceneSurface, validSurfaceRecord, Bool.and_eq_true] at sound
  obtain ⟨⟨⟨⟨_, horizontal⟩, vertical⟩, _⟩, _⟩ := sound
  obtain ⟨width, left, right⟩ := (checkedExtent_iff _ _).mp horizontal
  obtain ⟨height, top, bottom⟩ := (checkedExtent_iff _ _).mp vertical
  constructor
  · simp only [Rectangle.empty, Bool.or_eq_false_iff, decide_eq_false_iff_not]
    exact ⟨width, height⟩
  · exact (Rectangle.hasValidExtents_iff _).mpr ⟨left, right, top, bottom⟩

/-- Both sides agree on the outputs that a window meets. -/
theorem intersects_iff (valid : ValidLayout layout)
    (found : layout.states[id]? = some state) (on : state.enabled = true)
    {surface : SurfaceUpsert}
    (sound : validSceneSurface surface .outputModel = true) :
    intersects surface.logicalX surface.logicalY surface.logicalWidth
        surface.logicalHeight state =
      ((surfaceRectangle surface).intersection
        (outputRectangle (outputRecord state))).isSome := by
  obtain ⟨windowFull, windowValid⟩ := surfaceRectangle_full sound
  obtain ⟨outputFull, outputValid⟩ := outputRectangle_full valid found on
  rw [Bool.eq_iff_iff, intersection_isSome_iff windowFull outputFull windowValid
    outputValid]
  unfold intersects
  simp only [Bool.and_eq_true, decide_eq_true_eq, and_assoc]
  change _ ↔ surface.logicalX < state.logicalX + state.logicalWidth ∧
    state.logicalX < surface.logicalX + surface.logicalWidth ∧
    surface.logicalY < state.logicalY + state.logicalHeight ∧
    state.logicalY < surface.logicalY + surface.logicalHeight
  tauto

/-- The scene's outputs by identifier. -/
def recordEntry (entry : Nat × OutputState) : Nat × OutputUpsert :=
  (entry.1, outputRecord entry.2)

theorem layoutRecords_toList :
    (layoutRecords layout).toList = layout.states.toList.map recordEntry :=
  Std.ExtTreeMap.toList_map

theorem orderKey_le_iff {left right : Nat × OutputState}
    (leftOn : left.2.enabled = true) (rightOn : right.2.enabled = true) :
    OutputLayout.orderKey left ≤ OutputLayout.orderKey right ↔
      MembershipBefore (recordEntry left) (recordEntry right) := by
  unfold OutputLayout.orderKey MembershipBefore
  rw [if_pos leftOn, if_pos rightOn]
  simp only [Library.cons_le_cons_iff, recordEntry, outputRecord]
  grind

/-- A window's membership list is the compositor's, order included. -/
theorem projected_memberships (valid : ValidLayout layout)
    {scene : Scene} (outputs : scene.outputs = layoutRecords layout)
    {surface : SurfaceUpsert}
    (sound : validSceneSurface surface .outputModel = true)
    (visible : surface.visible = true) :
    geometricMemberships scene surface =
      layout.outputOrder.filter fun id =>
        (stateOf layout id).enabled &&
          intersects surface.logicalX surface.logicalY surface.logicalWidth
            surface.logicalHeight (stateOf layout id) := by
  have total : Std.Total fun left right : Nat × OutputState =>
      OutputLayout.orderKey left ≤ OutputLayout.orderKey right :=
    ⟨fun _ _ => le_total _ _⟩
  have transitive : IsTrans _ fun left right : Nat × OutputState =>
      OutputLayout.orderKey left ≤ OutputLayout.orderKey right :=
    ⟨fun _ _ _ => le_trans⟩
  let keep : Nat × OutputState → Bool := fun entry =>
    entry.2.enabled &&
      intersects surface.logicalX surface.logicalY surface.logicalWidth
        surface.logicalHeight entry.2
  have meeting : scene.outputs.toList.filter (fun entry =>
      entry.2.enabled && ((surfaceRectangle surface).intersection
        (outputRectangle entry.2)).isSome) =
      (layout.states.toList.filter keep).map recordEntry := by
    rw [outputs, layoutRecords_toList, List.filter_map]
    congr 1
    apply List.filter_congr
    rintro ⟨id, state⟩ member
    have found := KeyMap.mem_toList.mp member
    change (state.enabled && _) = (state.enabled && _)
    cases on : state.enabled with
    | false => rfl
    | true =>
        rw [Bool.true_and, Bool.true_and]
        exact (intersects_iff valid found on sound).symm
  have sorted := List.map_insertionSort
    (fun left right => OutputLayout.orderKey left ≤ OutputLayout.orderKey right)
    MembershipBefore recordEntry (layout.states.toList.filter keep)
    (fun left leftMember right rightMember => orderKey_le_iff
      (Bool.and_eq_true_iff.mp (List.mem_filter.mp leftMember).2).1
      (Bool.and_eq_true_iff.mp (List.mem_filter.mp rightMember).2).1)
  have listed : ∀ entry ∈ layout.states.toList.insertionSort
      (fun left right =>
        OutputLayout.orderKey left ≤ OutputLayout.orderKey right),
      keep entry = keep (entry.1, stateOf layout entry.1) := by
    rintro ⟨id, state⟩ member
    have found := KeyMap.mem_toList.mp ((List.mem_insertionSort _).mp member)
    rw [stateOf_lookup found]
  unfold geometricMemberships
  rw [if_neg (by simp [visible])]
  simp only
  rw [meeting, ← sorted, List.map_map, ← Library.filter_insertionSort,
    valid.order, OutputLayout.expectedOutputOrder, List.filter_map,
    List.filter_congr listed]
  rfl

/-! ## The scene -/

/-- The projected state of a window as the compositor keeps it. -/
def membershipOf (projected : SurfaceOutputProjection) :
    SurfaceOutputMembership where
  primaryOutputId := projected.primaryOutputId
  outputIds := projected.outputIds
  preferredScaleNumerator := projected.preferredScaleNumerator
  preferredScaleDenominator := projected.preferredScaleDenominator
  clientBufferScale := projected.clientBufferScale
  scaleMode := projected.scaleMode
  layoutGeneration := projected.layoutGeneration

def projectSurface (layout : OutputLayout) (surface : SurfaceUpsert)
    (scaleMode : SurfaceScaleMode) : Option SurfaceOutputProjection :=
  projectSurfaceOutputs layout surface.outputId surface.logicalX
    surface.logicalY surface.logicalWidth surface.logicalHeight surface.visible
    surface.scaleNumerator scaleMode

/-- The scene of the records of a layout and of windows whose output states
are projected. -/
def projectedScene (layout : OutputLayout) (records : OutputSceneRecords)
    (surfaces : KeyMap SurfaceUpsert) (scaleMode : Nat → SurfaceScaleMode) :
    Scene where
  outputs := KeyMap.file (·.outputId) ∅ records.outputs
  surfaces := surfaces
  surfaceOutputs := surfaces.filterMap fun id surface =>
    if metadataSurface surface then none
    else (projectSurface layout surface (scaleMode id)).map membershipOf
  primaryOutputId := records.primaryOutputId
  configurationGeneration := records.outputLayoutGeneration

/-- Windows that are assigned to enabled outputs, with valid records. -/
structure AssignedWindows (layout : OutputLayout)
    (surfaces : KeyMap SurfaceUpsert) : Prop where
  few : surfaces.size ≤ maximumSurfaces
  sound : ∀ (id : Nat) (surface : SurfaceUpsert),
    surfaces[id]? = some surface → id = surface.surfaceId ∧
      validSceneSurface surface .outputModel = true
  assigned : ∀ (id : Nat) (surface : SurfaceUpsert),
    surfaces[id]? = some surface →
      (stateOf layout surface.outputId).enabled = true

/-- The colors of all outputs are sRGB. -/
def SrgbOutputs (layout : OutputLayout) : Prop :=
  ∀ (id : Nat) (state : OutputState), layout.states[id]? = some state →
    srgb (colorRecord state.color) = true

/-- A visible window that meets an output meets its assigned one. -/
def MeetAssigned (layout : OutputLayout) (surfaces : KeyMap SurfaceUpsert) :
    Prop :=
  ∀ (id : Nat) (surface : SurfaceUpsert), surfaces[id]? = some surface →
    metadataSurface surface = false → surface.visible = true →
    ∀ (other : Nat) (state : OutputState), layout.states[other]? = some state →
      state.enabled = true →
      intersects surface.logicalX surface.logicalY surface.logicalWidth
        surface.logicalHeight state = true →
      intersects surface.logicalX surface.logicalY surface.logicalWidth
        surface.logicalHeight (stateOf layout surface.outputId) = true

/-! ## Acceptance -/

theorem validateOutputs_some {entries : List (Nat × OutputState)}
    {start : Nat}
    (sound : ∀ entry ∈ entries, entry.1 = entry.2.outputId ∧
      validSceneOutput (outputRecord entry.2) .outputModel = true)
    (room : start + ((entries.filter (·.2.enabled)).map (·.2.pixels)).sum ≤
      maximumTotalOutputPixels) :
    ((entries.map recordEntry).foldlM
      (fun total entry => validateOutput entry.1 entry.2 total) start).isSome =
        true := by
  induction entries generalizing start with
  | nil => rfl
  | cons entry rest ih =>
      obtain ⟨⟨identified, here⟩, later⟩ := List.forall_mem_cons.mp sound
      have passes : ¬(decide ((recordEntry entry).1 ≠
          (recordEntry entry).2.outputId) ||
            !validSceneOutput (recordEntry entry).2 .outputModel) = true := by
        change ¬(decide (entry.1 ≠ entry.2.outputId) ||
          !validSceneOutput (outputRecord entry.2) .outputModel) = true
        rw [here, identified]
        simp
      rw [List.map_cons, List.foldlM_cons]
      cases on : entry.2.enabled with
      | false =>
          have skipped : validateOutput (recordEntry entry).1
              (recordEntry entry).2 start = some start := by
            unfold validateOutput
            rw [if_neg passes, if_pos (by simp [recordEntry, outputRecord, on])]
          rw [skipped]
          apply ih later
          rwa [List.filter_cons_of_neg (by simp [on])] at room
      | true =>
          rw [List.filter_cons_of_pos (by simp [on]), List.map_cons,
            List.sum_cons] at room
          have counted : validateOutput (recordEntry entry).1
              (recordEntry entry).2 start =
                some (start + entry.2.pixels) := by
            unfold validateOutput
            rw [if_neg passes, if_neg (by simp [recordEntry, outputRecord, on])]
            simp only
            rw [if_neg]
            · rfl
            · change ¬maximumTotalOutputPixels - start < entry.2.pixels
              omega
          rw [counted]
          exact ih later (by omega)

/-- The outputs of a valid layout do not overlap in the scene. -/
theorem overlappingOutputs_of_layout (valid : ValidLayout layout)
    {scene : Scene} (outputs : scene.outputs = layoutRecords layout) :
    overlappingOutputs scene = false := by
  unfold overlappingOutputs
  simp only
  rw [outputs, layoutRecords_toList, List.filter_map]
  simp only [Bool.not_eq_false', decide_eq_true_eq, List.pairwise_map]
  refine valid.apart.imp_of_mem ?_
  rintro ⟨leftId, left⟩ ⟨rightId, right⟩ leftMember rightMember apart
  obtain ⟨leftMember, leftOn⟩ := List.mem_filter.mp leftMember
  obtain ⟨rightMember, rightOn⟩ := List.mem_filter.mp rightMember
  have leftFull := outputRectangle_full valid (KeyMap.mem_toList.mp leftMember)
    leftOn
  have rightFull := outputRectangle_full valid
    (KeyMap.mem_toList.mp rightMember) rightOn
  rw [← Option.not_isSome_iff_eq_none, recordEntry, recordEntry,
    intersection_isSome_iff leftFull.1 rightFull.1 leftFull.2 rightFull.2]
  rintro ⟨first, second, third, fourth⟩
  rw [outputRectanglesOverlap] at apart
  have meets : (decide (left.logicalX < right.logicalX + right.logicalWidth) &&
      decide (right.logicalX < left.logicalX + left.logicalWidth) &&
      decide (left.logicalY < right.logicalY + right.logicalHeight) &&
      decide (right.logicalY < left.logicalY + left.logicalHeight)) = true := by
    simp only [Bool.and_eq_true, decide_eq_true_eq]
    exact ⟨⟨⟨first, second⟩, third⟩, fourth⟩
  rw [meets] at apart
  cases apart

section

variable {records : OutputSceneRecords} {surfaces : KeyMap SurfaceUpsert}
  {scaleMode : Nat → SurfaceScaleMode} {surface : SurfaceUpsert}

/-- The outputs a window is on, by the layout. -/
def memberships (layout : OutputLayout) (surface : SurfaceUpsert) :
    List Nat :=
  if surface.visible then
    layout.outputOrder.filter fun id =>
      (stateOf layout id).enabled &&
        intersects surface.logicalX surface.logicalY surface.logicalWidth
          surface.logicalHeight (stateOf layout id)
  else []

/-- A valid window on an enabled output has a projection. -/
theorem projectSurface_some
    (sound : validSceneSurface surface .outputModel = true)
    (assigned : (stateOf layout surface.outputId).enabled = true)
    (mode : SurfaceScaleMode) :
    projectSurface layout surface mode = some
      { primaryOutputId := surface.outputId
        outputIds := memberships layout surface
        preferredScaleNumerator :=
          (stateOf layout surface.outputId).scale.numerator
        preferredScaleDenominator :=
          (stateOf layout surface.outputId).scale.denominator
        clientBufferScale := surface.scaleNumerator
        scaleMode := mode
        layoutGeneration := layout.generation } := by
  obtain ⟨full, _⟩ := surfaceRectangle_full sound
  simp only [validSceneSurface, validSurfaceRecord, validClientScale,
    Bool.and_eq_true, decide_eq_true_eq, and_assoc] at sound
  obtain ⟨_, _, _, _, _, least, most, _⟩ := sound
  rw [Rectangle.empty, Bool.or_eq_false_iff, decide_eq_false_iff_not,
    decide_eq_false_iff_not] at full
  obtain ⟨wide, high⟩ : surface.logicalWidth ≠ 0 ∧ surface.logicalHeight ≠ 0 :=
    full
  unfold projectSurface projectSurfaceOutputs
  rw [stateOf_enabled assigned]
  simp only
  rw [if_neg]
  · rfl
  · simp only [assigned, Bool.not_true, Bool.false_or, Bool.or_eq_true,
      decide_eq_true_eq, not_or]
    omega

/-- The compositor computes the outputs that the layout has a window on. -/
theorem geometricMemberships_eq (valid : ValidLayout layout)
    {scene : Scene} (outputs : scene.outputs = layoutRecords layout)
    (sound : validSceneSurface surface .outputModel = true) :
    geometricMemberships scene surface = memberships layout surface := by
  unfold memberships
  split
  · rename_i visible
    exact projected_memberships valid outputs sound visible
  · rename_i hidden
    unfold geometricMemberships
    rw [if_pos (by simpa using hidden)]

/-- The check of a window comes down to its assigned output. -/
theorem validateSurface_projected (valid : ValidLayout layout)
    {scene : Scene} (outputs : scene.outputs = layoutRecords layout)
    (generation : scene.configurationGeneration = layout.generation)
    (identified : id = surface.surfaceId)
    (sound : validSceneSurface surface .outputModel = true)
    (assigned : (stateOf layout surface.outputId).enabled = true)
    (state : scene.surfaceOutputs[id]? =
      if metadataSurface surface then none
      else (projectSurface layout surface (scaleMode id)).map membershipOf) :
    validateSurface scene id surface = .accepted ↔
      metadataSurface surface = true ∨ memberships layout surface = [] ∨
        surface.outputId ∈ memberships layout surface := by
  have here : scene.outputs[surface.outputId]? =
      some (outputRecord (stateOf layout surface.outputId)) := by
    rw [outputs, layoutRecords, Std.ExtTreeMap.getElem?_map,
      stateOf_enabled assigned]
    rfl
  have lists := geometricMemberships_eq valid outputs sound
  have enabled : (outputRecord (stateOf layout surface.outputId)).enabled =
      true := assigned
  unfold validateSurface
  rw [if_neg (by simp [identified, sound]), here]
  simp only
  rw [if_neg (by simp [enabled])]
  cases metadata : metadataSurface surface with
  | true =>
      rw [metadata, if_pos rfl] at state
      have absent : id ∉ scene.surfaceOutputs := by
        rw [KeyMap.mem_iff, state]
        simp
      rw [if_pos rfl, if_neg absent]
      simp
  | false =>
      rw [metadata, if_neg (by decide),
        projectSurface_some sound assigned] at state
      rw [if_neg (by decide), state]
      simp only [Option.map_some, membershipOf]
      rw [if_neg (by simp [lists, generation, outputRecord])]
      simp only [Bool.false_eq_true, false_or]
      split
      · rename_i refused
        simp only [Bool.and_eq_true, decide_eq_true_eq, Bool.not_eq_true',
          List.contains_eq_mem, decide_eq_false_iff_not] at refused
        simp [refused.1, refused.2]
      · rename_i passed
        simp only [Bool.and_eq_true, decide_eq_true_eq, Bool.not_eq_true',
          List.contains_eq_mem, decide_eq_false_iff_not, not_and,
          not_not] at passed
        simp only [true_iff]
        exact or_iff_not_imp_left.mpr passed

/-- A window's memberships contain its assigned output or none exactly when
it meets its assigned output or none. -/
theorem memberships_assigned (valid : ValidLayout layout)
    (assigned : (stateOf layout surface.outputId).enabled = true) :
    (memberships layout surface = [] ∨
        surface.outputId ∈ memberships layout surface) ↔
      (surface.visible = true →
        ∀ (other : Nat) (state : OutputState),
          layout.states[other]? = some state → state.enabled = true →
          intersects surface.logicalX surface.logicalY surface.logicalWidth
              surface.logicalHeight state = true →
            intersects surface.logicalX surface.logicalY surface.logicalWidth
              surface.logicalHeight (stateOf layout surface.outputId) =
                true) := by
  have listed : ∀ other : Nat, other ∈ layout.outputOrder ↔
      other ∈ layout.states := fun _ => valid.mem_outputOrder
  unfold memberships
  cases visible : surface.visible with
  | false => simp
  | true =>
      rw [if_pos rfl, List.filter_eq_nil_iff, List.mem_filter, assigned,
        Bool.true_and, listed]
      have known : surface.outputId ∈ layout.states :=
        KeyMap.mem_of_lookup (stateOf_enabled assigned)
      simp only [known, true_and, Bool.and_eq_true, not_and, forall_const]
      constructor
      · rintro (none | meets) other state found on met
        · have member := (listed other).mpr (KeyMap.mem_of_lookup found)
          have apart := none other member
          rw [stateOf_lookup found] at apart
          exact absurd met (apart on)
        · exact meets
      · intro meets
        refine or_iff_not_imp_right.mpr fun apart other member on met => ?_
        exact apart (meets other _ (stateOf_enabled on) on met)

/-- The checks of a scene, without their order. -/
theorem validateOutputModelScene_accepted {scene : Scene} :
    validateOutputModelScene scene = .accepted ↔
      (scene.output.isSome || scene.outputs.isEmpty ||
        Wm.maximumOutputs < scene.outputs.size || scene.primaryOutputId = 0 ||
        scene.configurationGeneration = 0 || overlappingOutputs scene) = false ∧
      (scene.outputs.toList.foldlM
        (fun total entry => validateOutput entry.1 entry.2 total) 0).isSome =
          true ∧
      (∃ output, scene.outputs[scene.primaryOutputId]? = some output ∧
        output.enabled = true) ∧
      scene.surfaces.size ≤ maximumSurfaces ∧
      (∀ (id : Nat) (surface : SurfaceUpsert),
        scene.surfaces[id]? = some surface →
          validateSurface scene id surface = .accepted) ∧
      scene.surfaceOutputs.keys.all (scene.surfaces.contains ·) = true := by
  unfold validateOutputModelScene
  constructor
  · intro accepted
    split at accepted
    · cases accepted
    · rename_i shape
      split at accepted
      · cases accepted
      · rename_i pixels counted
        split at accepted
        · cases accepted
        · rename_i output found
          split at accepted
          · cases accepted
          · rename_i enabled
            split at accepted
            · cases accepted
            · rename_i few
              split at accepted
              · rename_i passed
                split at accepted
                · rename_i known
                  refine ⟨by simpa using shape, by rw [counted]; rfl,
                    ⟨output, found, by simpa using enabled⟩,
                    Nat.le_of_not_lt few, ?_, known⟩
                  intro id surface here
                  exact firstRejection_accepted passed _ (List.mem_map.mpr
                    ⟨(id, surface), KeyMap.mem_toList.mpr here, rfl⟩)
                · cases accepted
              · rename_i rejected
                exact absurd accepted rejected
  · rintro ⟨shape, counted, ⟨output, found, enabled⟩, few, passed, known⟩
    obtain ⟨pixels, counted⟩ := Option.isSome_iff_exists.mp counted
    rw [shape, if_neg (by decide), counted]
    simp only
    rw [found]
    simp only
    rw [if_neg (by simp [enabled]), if_neg (Nat.not_lt.mpr few),
      firstRejection_of_accepted]
    · simp only
      rw [if_pos known]
    · intro result member
      obtain ⟨⟨id, surface⟩, entry, rfl⟩ := List.mem_map.mp member
      exact passed id surface (KeyMap.mem_toList.mp entry)

/-- The memberships that a scene has for its windows. -/
theorem projectedScene_surfaceOutputs (layout : OutputLayout)
    (records : OutputSceneRecords) (surfaces : KeyMap SurfaceUpsert)
    (scaleMode : Nat → SurfaceScaleMode) (id : Nat) :
    (projectedScene layout records surfaces scaleMode).surfaceOutputs[id]? =
      surfaces[id]?.bind fun surface =>
        if metadataSurface surface then none
        else (projectSurface layout surface (scaleMode id)).map membershipOf :=
  Std.ExtTreeMap.getElem?_filterMap'

/-- A valid layout's records and scene are accepted exactly when its colors are
sRGB and its windows meet the outputs they are assigned to.  The membership
lists are in any case those that the compositor computes. -/
theorem projected_scene_accepted_iff (layout : OutputLayout)
    (valid : (validateLayout layout).valid = true)
    (surfaces : KeyMap SurfaceUpsert) (windows : AssignedWindows layout surfaces)
    (scaleMode : Nat → SurfaceScaleMode) :
    ∃ records, populateOutputSceneRecords layout = some records ∧
      ((∀ record ∈ records.outputs,
          validSceneOutput record .outputModel = true) ↔ SrgbOutputs layout) ∧
      (validateOutputModelScene
          (projectedScene layout records surfaces scaleMode) = .accepted ↔
        SrgbOutputs layout ∧ MeetAssigned layout surfaces) ∧
      ∀ (id : Nat) (surface : SurfaceUpsert), surfaces[id]? = some surface →
        metadataSurface surface = false →
          ∃ membership,
            (projectedScene layout records surfaces scaleMode
              ).surfaceOutputs[id]? = some membership ∧
            membership.primaryOutputId = surface.outputId ∧
            membership.outputIds = geometricMemberships
              (projectedScene layout records surfaces scaleMode) surface := by
  have sound := validateLayout_iff.mp valid
  obtain ⟨records, populated, filed, listed, primary, generation⟩ :=
    populateOutputSceneRecords_some sound
  have colors : SrgbOutputs layout ↔ ∀ (id : Nat) (state : OutputState),
      layout.states[id]? = some state →
        validSceneOutput (outputRecord state) .outputModel = true := by
    refine forall₃_congr fun id state found => ?_
    rw [validSceneOutput_outputRecord sound found]
  refine ⟨records, populated, ?_, ?_, fun id surface found shown => ?_⟩
  · rw [colors]
    constructor
    · intro accepted id state found
      exact accepted _ ((listed _).mpr ⟨id, state, found, rfl⟩)
    · intro accepted record member
      obtain ⟨id, state, found, rfl⟩ := (listed record).mp member
      exact accepted id state found
  · generalize hscene : projectedScene layout records surfaces scaleMode = scene
    have outputs : scene.outputs = layoutRecords layout := hscene ▸ filed
    have atPrimary : scene.primaryOutputId = layout.primaryOutputId :=
      hscene ▸ primary
    have atGeneration : scene.configurationGeneration = layout.generation :=
      hscene ▸ generation
    have surfaced : scene.surfaces = surfaces := hscene ▸ rfl
    have states := projectedScene_surfaceOutputs layout records surfaces
      scaleMode
    rw [hscene] at states
    have checked : ∀ (id : Nat) (surface : SurfaceUpsert),
        surfaces[id]? = some surface →
          (validateSurface scene id surface = .accepted ↔
            metadataSurface surface = true ∨
              memberships layout surface = [] ∨
              surface.outputId ∈ memberships layout surface) := by
      intro id surface found
      obtain ⟨identified, record⟩ := windows.sound id surface found
      apply validateSurface_projected sound outputs atGeneration identified
        record (windows.assigned id surface found)
      rw [states, found, Option.bind_some]
    have known : scene.surfaceOutputs.keys.all
        (scene.surfaces.contains ·) = true := by
      rw [List.all_eq_true]
      intro id member
      obtain ⟨membership, found⟩ := KeyMap.mem_iff.mp
        (Std.ExtTreeMap.mem_keys.mp member)
      rw [states] at found
      obtain ⟨surface, here, _⟩ := Option.bind_eq_some_iff.mp found
      rw [surfaced, Std.ExtTreeMap.contains_iff_mem]
      exact KeyMap.mem_of_lookup here
    have shape : (scene.output.isSome || scene.outputs.isEmpty ||
        Wm.maximumOutputs < scene.outputs.size || scene.primaryOutputId = 0 ||
        scene.configurationGeneration = 0 || overlappingOutputs scene) =
          false := by
      obtain ⟨state, found, _⟩ := sound.primary_state
      have full : scene.outputs.isEmpty = false := by
        rw [outputs, Std.ExtTreeMap.isEmpty_eq_false_iff]
        intro empty
        have listed : layout.primaryOutputId ∈ layoutRecords layout := by
          rw [layoutRecords, Std.ExtTreeMap.mem_map]
          exact KeyMap.mem_of_lookup found
        rw [empty] at listed
        exact Std.ExtTreeMap.not_mem_empty listed
      have few : scene.outputs.size ≤ Wm.maximumOutputs := by
        rw [outputs, layoutRecords, Std.ExtTreeMap.size_map]
        exact (KeyMap.size_le_of_keys fun id => (sound.complete id).mp).trans
          sound.few
      have historical : scene.output = none := hscene ▸ rfl
      rw [historical, full, atPrimary, atGeneration,
        overlappingOutputs_of_layout sound outputs]
      simp [few, sound.primary_nonzero, sound.generation]
    have primaryOn : ∃ output, scene.outputs[scene.primaryOutputId]? =
        some output ∧ output.enabled = true := by
      obtain ⟨state, found, on, _⟩ := sound.primary_state
      refine ⟨outputRecord state, ?_, on⟩
      rw [outputs, atPrimary, layoutRecords, Std.ExtTreeMap.getElem?_map, found]
      rfl
    rw [validateOutputModelScene_accepted]
    constructor
    · rintro ⟨_, counted, _, _, passed, _⟩
      refine ⟨colors.mpr fun id state found => ?_, fun id surface found => ?_⟩
      · obtain ⟨pixels, counted⟩ := Option.isSome_iff_exists.mp counted
        rw [outputs] at counted
        refine (outputs_foldlM_some counted (id, outputRecord state) ?_).2
        rw [KeyMap.mem_toList, layoutRecords, Std.ExtTreeMap.getElem?_map, found]
        rfl
      · intro shown
        have assigned := windows.assigned id surface found
        refine (memberships_assigned sound assigned).mp ?_
        have accepted := (checked id surface found).mp
          (passed id surface (surfaced ▸ found))
        exact accepted.resolve_left (by simp [shown])
    · rintro ⟨srgb, meets⟩
      refine ⟨shape, ?_, primaryOn, surfaced ▸ windows.few, ?_, known⟩
      · rw [outputs, layoutRecords_toList]
        apply validateOutputs_some
        · rintro ⟨id, state⟩ member
          have found := KeyMap.mem_toList.mp member
          exact ⟨(sound.output found).identified.symm,
            colors.mp srgb id state found⟩
        · rw [Nat.zero_add]
          exact sound.pixels
      · intro id surface found
        rw [surfaced] at found
        have assigned := windows.assigned id surface found
        refine (checked id surface found).mpr ?_
        cases shown : metadataSurface surface with
        | true => exact .inl rfl
        | false =>
            exact .inr ((memberships_assigned sound assigned).mpr
              (meets id surface found shown))
  · have record := (windows.sound id surface found).2
    have projected := projectSurface_some record
      (windows.assigned id surface found) (scaleMode id)
    have placed := projectedScene_surfaceOutputs layout records surfaces
      scaleMode id
    rw [found, Option.bind_some, shown, if_neg Bool.false_ne_true, projected,
      Option.map_some] at placed
    exact ⟨_, placed, rfl, (geometricMemberships_eq sound filed record).symm⟩

/-- A window that is assigned to the first output of the pair. -/
def pairWindow (x : Int) : SurfaceUpsert where
  surfaceId := 5
  outputId := 1
  logicalX := x
  logicalWidth := 20
  logicalHeight := 20
  visible := true

theorem pairWindow_assigned {x : Int} {surface : SurfaceUpsert}
    (placed : surface = pairWindow x)
    (sound : validSceneSurface surface .outputModel = true) {layout}
    (first : (stateOf layout 1).enabled = true) :
    AssignedWindows layout ((∅ : KeyMap SurfaceUpsert).insert 5 surface) := by
  have only : ∀ (id : Nat) (other : SurfaceUpsert),
      ((∅ : KeyMap SurfaceUpsert).insert 5 surface)[id]? = some other →
        id = 5 ∧ other = surface := by
    intro id other found
    rw [KeyMap.lookup_insert] at found
    split at found
    · rename_i same
      exact ⟨same.symm, (Option.some.inj found).symm⟩
    · simp at found
  refine ⟨?_, ?_, ?_⟩
  · rw [Std.ExtTreeMap.size_insert]
    simp [maximumSurfaces]
  · intro id other found
    obtain ⟨rfl, rfl⟩ := only id other found
    exact ⟨placed ▸ rfl, sound⟩
  · intro id other found
    obtain ⟨rfl, rfl⟩ := only id other found
    rw [placed]
    exact first

/-- The pair's scene with a window on both of its outputs. -/
theorem projected_scene_accepted_iff_pair :
    AssignedWindows pairLayout
        ((∅ : KeyMap SurfaceUpsert).insert 5 (pairWindow 630)) ∧
      ∃ records, populateOutputSceneRecords pairLayout = some records ∧
        ((∀ record ∈ records.outputs,
            validSceneOutput record .outputModel = true) ↔
          SrgbOutputs pairLayout) ∧
        (validateOutputModelScene (projectedScene pairLayout records
            ((∅ : KeyMap SurfaceUpsert).insert 5 (pairWindow 630))
            fun _ => .legacy) = .accepted ↔
          SrgbOutputs pairLayout ∧ MeetAssigned pairLayout
            ((∅ : KeyMap SurfaceUpsert).insert 5 (pairWindow 630))) ∧
        ∃ membership, (projectedScene pairLayout records
            ((∅ : KeyMap SurfaceUpsert).insert 5 (pairWindow 630))
            fun _ => .legacy).surfaceOutputs[5]? = some membership ∧
          membership.primaryOutputId = 1 ∧
          membership.outputIds = geometricMemberships (projectedScene
            pairLayout records ((∅ : KeyMap SurfaceUpsert).insert 5
              (pairWindow 630)) fun _ => .legacy) (pairWindow 630) := by
  have windows := pairWindow_assigned (rfl : pairWindow 630 = pairWindow 630)
    (by decide +kernel) (by decide +kernel : (stateOf pairLayout 1).enabled = true)
  obtain ⟨records, populated, each, scene, lists⟩ :=
    projected_scene_accepted_iff pairLayout pairLayout_valid _ windows
      fun _ => .legacy
  refine ⟨windows, records, populated, each, scene,
    lists 5 (pairWindow 630) ?_ (by decide)⟩
  rw [KeyMap.lookup_insert, if_pos rfl]

/-- The pair with another color on its first output. -/
def colorfulLayout : OutputLayout :=
  { pairLayout with
    states := pairLayout.states.insert 1
      { stateOf pairLayout 1 with color := { colorSpace := .displayP3 } } }

/-- A color other than sRGB is refused, and so is a window that meets only an
output that it is not assigned to. -/
theorem validators_disagree :
    (¬∀ (layout : OutputLayout) (surfaces : KeyMap SurfaceUpsert)
        (records : OutputSceneRecords),
        (validateLayout layout).valid = true →
        AssignedWindows layout surfaces → MeetAssigned layout surfaces →
        populateOutputSceneRecords layout = some records →
          ∀ record ∈ records.outputs,
            validSceneOutput record .outputModel = true) ∧
      ¬∀ (layout : OutputLayout) (surfaces : KeyMap SurfaceUpsert)
        (records : OutputSceneRecords),
        (validateLayout layout).valid = true →
        AssignedWindows layout surfaces → SrgbOutputs layout →
        populateOutputSceneRecords layout = some records →
          validateOutputModelScene (projectedScene layout records surfaces
            fun _ => .legacy) = .accepted := by
  constructor
  · intro eachAccepted
    have records : (populateOutputSceneRecords colorfulLayout).any (fun records =>
        !records.outputs.all (validSceneOutput · .outputModel)) = true := by
      decide +kernel
    obtain ⟨records, populated, refused⟩ := (Option.any_eq_true _ _).mp records
    have accepted := eachAccepted colorfulLayout ∅ records (by decide +kernel)
      ⟨by simp [maximumSurfaces], by simp, by simp⟩ (by simp [MeetAssigned])
      populated
    rw [List.all_eq_true.mpr accepted] at refused
    cases refused
  · intro sceneAccepted
    have windows := pairWindow_assigned
      (rfl : pairWindow 700 = pairWindow 700) (by decide +kernel)
      (by decide +kernel : (stateOf pairLayout 1).enabled = true)
    have records : (populateOutputSceneRecords pairLayout).any (fun records =>
        validateOutputModelScene (projectedScene pairLayout records
          ((∅ : KeyMap SurfaceUpsert).insert 5 (pairWindow 700))
            fun _ => .legacy) ≠ .accepted) = true := by
      decide +kernel
    obtain ⟨records, populated, refused⟩ := (Option.any_eq_true _ _).mp records
    refine of_decide_eq_true refused (sceneAccepted pairLayout _ records
      pairLayout_valid windows ?_ populated)
    have colors : (pairLayout.states.toList.all fun entry =>
        srgb (colorRecord entry.2.color)) = true := by decide +kernel
    intro id state found
    exact List.all_eq_true.mp colors (id, state) (KeyMap.mem_toList.mpr found)

end

end Glasswyrm.Server
