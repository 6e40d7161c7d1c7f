import Glasswyrm.Server.ConfigurationTransaction
import Glasswyrm.Server.FixedAttributes

namespace Glasswyrm.Server

open Output Compositor OutputConfigurationCoordinator OutputControlPeer

attribute [local irreducible] Output.validateLayout

/-! Configurations one after another: each is a whole snapshot with its
request, which the window manager and the compositor accept. -/

structure ConfigurationRequest where
  configurationId : Nat
  outputs : List OutputUpsert
  primaryOutputId : Nat
deriving DecidableEq, Repr

namespace ConfigurationRequest

def snapshot (request : ConfigurationRequest) (generation : Nat) :
    StagedSnapshot where
  snapshotId := request.configurationId
  generation := generation
  expectedCount := request.outputs.length
  actualCount := request.outputs.length
  outputs := request.outputs
  complete := true

def commitment (request : ConfigurationRequest) (generation : Nat) :
    OutputConfigurationCommit where
  configurationId := request.configurationId
  baseGeneration := generation
  primaryOutputId := request.primaryOutputId

/-- The request that describes a layout. -/
def describing (layout : OutputLayout) (configurationId : Nat) :
    ConfigurationRequest where
  configurationId := configurationId
  outputs := layout.states.toList.map fun entry => outputRecord entry.2
  primaryOutputId := layout.primaryOutputId

end ConfigurationRequest

/-- A configuration over the current generation, from its snapshot to its
commit. -/
def OutputConfigurationCoordinator.configure
    (coordinator : OutputConfigurationCoordinator)
    (request : ConfigurationRequest) :
    Option OutputConfigurationCoordinator :=
  let generation := coordinator.committedLayout.generation
  match judge coordinator (request.snapshot generation)
      (request.commitment generation) with
  | (some _, _) => none
  | (none, pending) =>
      some pending.acceptPolicy.2.acceptCompositor.2.commit.2

/-! ## Snapshots -/

variable {inventory committed : OutputLayout}
  {coordinator : OutputConfigurationCoordinator}

/-- A staged record is one of the snapshot's, under its own identifier. -/
def StagedFrom (outputs : List OutputUpsert)
    (coordinator : OutputConfigurationCoordinator) : Prop :=
  ∀ (id : Nat) (value : OutputUpsert),
    coordinator.stagedOutputs[id]? = some value →
      value ∈ outputs ∧ value.outputId = id

theorem StagedFrom.recordFailure {outputs : List OutputUpsert}
    (staged : StagedFrom outputs coordinator)
    (result : OutputConfigurationResult) :
    StagedFrom outputs (coordinator.recordFailure result) := by
  unfold OutputConfigurationCoordinator.recordFailure
  split
  · exact staged
  · exact staged

theorem StagedFrom.stageOutput {outputs : List OutputUpsert}
    (staged : StagedFrom outputs coordinator) {value : OutputUpsert}
    (member : value ∈ outputs) :
    StagedFrom outputs (coordinator.stageOutput value).2 := by
  have counted : StagedFrom outputs { coordinator with
      itemCount := coordinator.itemCount + 1 } := staged
  unfold OutputConfigurationCoordinator.stageOutput
  split
  · exact staged
  · split
    · exact staged
    · simp only
      split
      · exact counted.recordFailure _
      · split
        · exact counted.recordFailure _
        · intro id record found
          simp only [KeyMap.lookup_insert] at found
          split at found
          · rename_i same
            obtain rfl := Option.some.inj found
            exact ⟨member, same⟩
          · exact staged id record found

theorem StagedFrom.handOver {staged : StagedSnapshot} :
    StagedFrom staged.outputs
      (handOver (fresh inventory committed) staged) := by
  have empty : StagedFrom staged.outputs (fresh inventory committed) := by
    intro id value found
    exact absurd found (by
      simp [fresh, OutputConfigurationCoordinator.start])
  have begun : StagedFrom staged.outputs ((fresh inventory committed
      ).beginSnapshot staged.snapshotId staged.expectedCount).2 := by
    unfold beginSnapshot
    split
    · exact empty
    · split
      · exact empty
      · exact empty
  unfold OutputControlPeer.handOver
  generalize (fresh inventory committed).beginSnapshot staged.snapshotId
    staged.expectedCount = opened at begun ⊢
  obtain ⟨status, opened⟩ := opened
  simp only
  split
  · have collected : ∀ outputs : List OutputUpsert,
        (∀ value ∈ outputs, value ∈ staged.outputs) →
        ∀ coordinator, StagedFrom staged.outputs coordinator →
          StagedFrom staged.outputs (outputs.foldl
            (fun coordinator output => (coordinator.stageOutput output).2)
            coordinator) := by
      intro outputs included
      induction outputs with
      | nil => exact fun _ kept => kept
      | cons output rest ih =>
          obtain ⟨member, others⟩ := List.forall_mem_cons.mp included
          exact fun coordinator kept =>
            ih others _ (kept.stageOutput member)
    have all := collected staged.outputs (fun _ member => member) opened begun
    unfold endSnapshot
    split
    · exact all
    · simp only
      split
      · exact all
      · exact all
  · exact begun

/-- The records of distinct known outputs are all staged. -/
theorem stageOutputs_all {outputs : List OutputUpsert}
    (collecting : coordinator.stage = .collecting)
    (known : ∀ value ∈ outputs, value.outputId ≠ 0 ∧
      value.outputId ∈ coordinator.inventory.descriptors)
    (fresh : ∀ value ∈ outputs,
      value.outputId ∉ coordinator.stagedOutputs)
    (distinct : outputs.Pairwise fun left right =>
      left.outputId ≠ right.outputId)
    (room : coordinator.itemCount + outputs.length ≤ uint32Maximum) :
    outputs.foldl
        (fun coordinator output => (coordinator.stageOutput output).2)
        coordinator =
      { coordinator with
        itemCount := coordinator.itemCount + outputs.length
        stagedOutputs := KeyMap.file (·.outputId) coordinator.stagedOutputs
          outputs } := by
  induction outputs generalizing coordinator with
  | nil => rfl
  | cons output rest ih =>
      obtain ⟨⟨nonzero, listed⟩, known⟩ := List.forall_mem_cons.mp known
      obtain ⟨unstaged, fresh⟩ := List.forall_mem_cons.mp fresh
      obtain ⟨different, distinct⟩ := List.pairwise_cons.mp distinct
      rw [List.length_cons] at room ⊢
      have staged : (coordinator.stageOutput output).2 =
          { coordinator with
            itemCount := coordinator.itemCount + 1
            stagedOutputs :=
              coordinator.stagedOutputs.insert output.outputId output } := by
        unfold stageOutput
        rw [if_neg (not_not.mpr collecting), if_neg (by omega)]
        simp only
        rw [if_neg (by simp [nonzero, listed]), if_neg (by simpa using unstaged)]
      obtain ⟨next, shape⟩ : ∃ next, next = (coordinator.stageOutput output).2 :=
        ⟨_, rfl⟩
      have stage := shape.trans staged
      rw [List.foldl_cons, ← shape, ih, stage]
      · simp only [KeyMap.file, List.foldl_cons, Nat.add_assoc,
          Nat.add_comm 1]
      · rw [stage]
        exact collecting
      · rw [stage]
        exact known
      · rw [stage]
        intro value member
        rw [Std.ExtTreeMap.mem_insert, compare_eq_iff_eq]
        rintro (same | present)
        · exact different value member same
        · exact fresh value member present
      · exact distinct
      · rw [stage]
        simp only
        omega

/-! ## Configurations -/

/-- An accepted request has begun the transaction of its candidate. -/
theorem Staging.submit_accepted
    (staging : Staging inventory committed coordinator)
    {request : OutputConfigurationCommit}
    {pending : OutputConfigurationCoordinator}
    (accepted : coordinator.submit request = (none, pending)) :
    ∃ candidate,
      buildCandidate inventory committed coordinator.stagedOutputs
          request.primaryOutputId = .ok candidate ∧
        pending = .during inventory committed .policyPending
          { configurationId := request.configurationId
            oldLayout := committed
            proposedLayout := candidate } .compositorRejected := by
  unfold OutputConfigurationCoordinator.submit at accepted
  simp only at accepted
  split at accepted
  · cases accepted
  · split at accepted
    · cases accepted
    · split at accepted
      · cases accepted
      · split at accepted
        · cases accepted
        · split at accepted
          · cases accepted
          · split at accepted
            · cases accepted
            · split at accepted
              · cases accepted
              · rename_i candidate built
                rw [staging.inventory_eq, staging.committedLayout] at built
                refine ⟨candidate, built, (Prod.mk.inj accepted).2.symm.trans ?_⟩
                rw [staging.begins, staging.committedLayout]

/-- A configuration commits an accepted candidate of its records. -/
theorem configure_some {request : ConfigurationRequest}
    {next : OutputConfigurationCoordinator}
    (configured : (fresh inventory committed).configure request = some next) :
    ∃ staged candidate,
      (∀ (id : Nat) (value : OutputUpsert), staged[id]? = some value →
        value ∈ request.outputs ∧ value.outputId = id) ∧
      AcceptedCandidate inventory committed staged request.primaryOutputId
        candidate ∧
      next = .fresh inventory candidate := by
  unfold configure judge at configured
  simp only at configured
  split at configured
  · cases configured
  · rename_i pending verdict
    obtain rfl := Option.some.inj configured
    have staging : Staging inventory committed (handOver
        (fresh inventory committed) (request.snapshot committed.generation)) :=
      Staging.initial.handOver _
    have taken : (handOver (fresh inventory committed)
        (request.snapshot committed.generation)).submit
          (request.commitment committed.generation) = (none, pending) := verdict
    obtain ⟨candidate, built, rfl⟩ := staging.submit_accepted taken
    have staged : StagedFrom (request.snapshot committed.generation).outputs
        (handOver (fresh inventory committed)
          (request.snapshot committed.generation)) := .handOver
    exact ⟨_, candidate, staged, buildCandidate_ok.mp built, rfl⟩

/-- The records of a layout, in the order of its outputs' identifiers. -/
theorem describing_outputs {layout : OutputLayout} (valid : ValidLayout layout)
    (configurationId : Nat) :
    KeyMap.file (·.outputId) ∅
        (ConfigurationRequest.describing layout configurationId).outputs =
      layoutRecords layout :=
  KeyMap.file_map_toList outputRecord (·.outputId) fun _ _ found =>
    (valid.output found).identified

/-- The records of a layout are staged whole. -/
theorem handOver_describing {layout : OutputLayout}
    (resubmittable : Resubmittable inventory layout)
    (sound : ValidLayout inventory) {configurationId generation : Nat}
    (identified : configurationId ≠ 0) :
    let request := ConfigurationRequest.describing layout configurationId
    handOver (fresh inventory committed) (request.snapshot generation) =
      { fresh inventory committed with
        stage := .snapshotReady
        snapshotId := configurationId
        expectedItemCount := request.outputs.length
        itemCount := request.outputs.length
        stagedOutputs := layoutRecords layout } := by
  intro request
  have valid := resubmittable.valid
  have sizes : layout.states.size = inventory.descriptors.size := by
    apply le_antisymm
    · exact KeyMap.size_le_of_keys fun id member =>
        resubmittable.known id ((valid.complete id).mp member)
    · refine KeyMap.size_le_of_keys fun id member => ?_
      obtain ⟨descriptor, found⟩ := KeyMap.mem_iff.mp member
      obtain ⟨_, here⟩ := resubmittable.described id descriptor found
      exact (valid.complete id).mpr (KeyMap.mem_of_lookup here)
  have count : request.outputs.length = layout.states.size :=
    (List.length_map _).trans Std.ExtTreeMap.length_toList
  have few : request.outputs.length ≤ kMaximumOutputs := by
    rw [count, sizes]
    exact sound.few
  have some_output : request.outputs.length ≠ 0 := by
    obtain ⟨state, found, _⟩ := valid.primary_state
    intro none
    have member : outputRecord state ∈ request.outputs := List.mem_map.mpr
      ⟨(layout.primaryOutputId, state), KeyMap.mem_toList.mpr found, rfl⟩
    rw [List.length_eq_zero_iff.mp none] at member
    cases member
  have records : ∀ value ∈ request.outputs, value.outputId ≠ 0 ∧
      value.outputId ∈ inventory.descriptors := by
    intro value member
    obtain ⟨⟨id, state⟩, entry, rfl⟩ := List.mem_map.mp member
    have found := KeyMap.mem_toList.mp entry
    have output := valid.output found
    change state.outputId ≠ 0 ∧ state.outputId ∈ inventory.descriptors
    rw [output.identified]
    exact ⟨output.nonzero,
      resubmittable.known id ((valid.complete id).mp (KeyMap.mem_of_lookup found))⟩
  have distinct : request.outputs.Pairwise fun left right =>
      left.outputId ≠ right.outputId := by
    refine List.pairwise_map.mpr
      ((KeyMap.toList_pairwise layout.states).imp_of_mem ?_)
    intro left right leftMember rightMember less
    change left.2.outputId ≠ right.2.outputId
    rw [(valid.output (KeyMap.mem_toList.mp leftMember)).identified,
      (valid.output (KeyMap.mem_toList.mp rightMember)).identified]
    exact Nat.ne_of_lt less
  have begun : (fresh inventory committed).beginSnapshot
      (request.snapshot generation).snapshotId
      (request.snapshot generation).expectedCount =
      (.accepted, { fresh inventory committed with
        snapshotId := configurationId
        expectedItemCount := request.outputs.length
        stage := .collecting }) := by
    change (fresh inventory committed).beginSnapshot configurationId
      request.outputs.length = _
    unfold beginSnapshot
    rw [if_neg (by simp [fresh, OutputConfigurationCoordinator.start]),
      if_neg (by
        simp [fresh, OutputConfigurationCoordinator.start, identified,
          some_output, few])]
    rfl
  have staged := stageOutputs_all
    (rfl : OutputConfigurationCoordinator.stage { fresh inventory committed with
      snapshotId := configurationId
      expectedItemCount := request.outputs.length
      stage := .collecting } = .collecting) records
    (fun _ _ => Std.ExtTreeMap.not_mem_empty) distinct (by
      change 0 + _ ≤ uint32Maximum
      rw [Nat.zero_add]
      exact few.trans (by decide))
  unfold OutputControlPeer.handOver
  rw [begun]
  simp only [if_true]
  have same : (request.snapshot generation).outputs = request.outputs := rfl
  rw [same, staged]
  have filed : KeyMap.file (·.outputId) (fresh inventory committed
      ).stagedOutputs request.outputs = layoutRecords layout :=
    describing_outputs valid configurationId
  unfold endSnapshot
  rw [if_neg (by
    simp [ConfigurationRequest.snapshot, request,
      ConfigurationRequest.describing])]
  simp only [filed]
  rw [if_neg]
  · simp only [fresh, OutputConfigurationCoordinator.start, Nat.zero_add]
  · have records : (layoutRecords layout).size =
        inventory.descriptors.size := by
      rw [layoutRecords, Std.ExtTreeMap.size_map, sizes]
    simp [fresh, OutputConfigurationCoordinator.start, records,
      ConfigurationRequest.snapshot]

/-- A layout that may be committed is, by its own records. -/
theorem configure_describing {layout candidate : OutputLayout}
    (resubmittable : Resubmittable inventory layout)
    (sound : ValidLayout inventory) {configurationId : Nat}
    (identified : configurationId ≠ 0)
    (accepted : AcceptedCandidate inventory committed (layoutRecords layout)
      layout.primaryOutputId candidate) :
    (fresh inventory committed).configure
        (.describing layout configurationId) =
      some (.fresh inventory candidate) := by
  have built := buildCandidate_ok.mpr accepted
  let request := ConfigurationRequest.describing layout configurationId
  have handed : handOver (fresh inventory committed)
      (request.snapshot committed.generation) =
        { fresh inventory committed with
          stage := .snapshotReady
          snapshotId := configurationId
          expectedItemCount := request.outputs.length
          itemCount := request.outputs.length
          stagedOutputs := layoutRecords layout } :=
    handOver_describing resubmittable sound identified
  have submitted : ∃ pending, (handOver (fresh inventory committed)
      (request.snapshot committed.generation)).submit
        (request.commitment committed.generation) = (none, pending) := by
    rw [handed]
    unfold OutputConfigurationCoordinator.submit
    simp [fresh, OutputConfigurationCoordinator.start,
      ConfigurationRequest.commitment, request,
      ConfigurationRequest.describing, built, validateLayout_iff.mpr sound,
      identified]
  obtain ⟨pending, submitted⟩ := submitted
  have staging : Staging inventory committed (handOver
      (fresh inventory committed) (request.snapshot committed.generation)) :=
    Staging.initial.handOver _
  obtain ⟨proposed, same, rfl⟩ := staging.submit_accepted submitted
  rw [handed] at same
  obtain rfl := Except.ok.inj (built.symm.trans same)
  have judged : judge (fresh inventory committed)
      (request.snapshot committed.generation)
      (request.commitment committed.generation) = _ := submitted
  unfold configure
  simp only
  rw [show (fresh inventory committed).committedLayout = committed from rfl,
    judged]
  rfl

/-! ## Runs -/

/-- The layouts committed so far and the coordinator, after configurations
that each meet a condition. -/
inductive ConfigurationRun (inventory : OutputLayout)
    (allowed : ConfigurationRequest → Prop) :
    List OutputLayout → OutputConfigurationCoordinator → Prop
  | start : ConfigurationRun inventory allowed [inventory] (.start inventory)
  | configure {layouts : List OutputLayout}
      {coordinator next : OutputConfigurationCoordinator}
      {request : ConfigurationRequest}
      (earlier : ConfigurationRun inventory allowed layouts coordinator)
      (permitted : allowed request)
      (configured : coordinator.configure request = some next) :
      ConfigurationRun inventory allowed
        (next.committedLayout :: layouts) next

/-- Fixed attributes are those of the inventory. -/
structure FixedKept (inventory layout : OutputLayout) : Prop where
  fixed : ∀ (id : Nat) (original state : OutputState),
    inventory.states[id]? = some original →
      layout.states[id]? = some state → state.enabled = true →
        let descriptor := inventory.descriptor id
        (descriptor.scaleConfigurable = false →
            state.scale = original.scale) ∧
          (descriptor.transformConfigurable = false →
            state.transform = original.transform) ∧
          (descriptor.modeConfigurable = false →
            state.modeId = original.modeId ∧
              state.physicalWidth = original.physicalWidth ∧
              state.physicalHeight = original.physicalHeight ∧
              state.refreshMillihertz = original.refreshMillihertz)

/-- A request that touches no fixed attribute of the inventory. -/
def ConfigurationRequest.keepsFixed (inventory : OutputLayout)
    (request : ConfigurationRequest) : Bool :=
  request.outputs.all fun value =>
    recordKeeps (inventory.descriptor value.outputId)
      (stateOf inventory value.outputId) value

/-- Every layout of such a run can be returned to. -/
theorem ConfigurationRun.reconfigurable {layouts : List OutputLayout}
    (sound : ValidLayout inventory)
    (listable : modesListable inventory = true)
    (first : fixedModesFirst inventory = true)
    (run : ConfigurationRun inventory
      (fun request => request.keepsFixed inventory = true) layouts
      coordinator) :
    coordinator = .fresh inventory coordinator.committedLayout ∧
      Reconfigurable inventory coordinator.committedLayout ∧
      ∀ layout ∈ layouts, Reconfigurable inventory layout := by
  induction run with
  | start =>
      have initial := Reconfigurable.initial sound listable first
      refine ⟨rfl, initial, fun layout member => ?_⟩
      obtain rfl := List.mem_singleton.mp member
      exact initial
  | @configure layouts coordinator next request _ permitted configured ih =>
      obtain ⟨clean, current, earlier⟩ := ih
      rw [clean] at configured
      obtain ⟨staged, candidate, records, accepted, rfl⟩ :=
        configure_some configured
      have kept : KeepsFixed inventory staged := by
        intro id value found
        obtain ⟨member, rfl⟩ := records id value found
        exact List.all_eq_true.mp permitted value member
      have following := current.step sound first kept accepted
      refine ⟨rfl, following, ?_⟩
      exact List.forall_mem_cons.mpr ⟨following, earlier⟩

theorem Reconfigurable.fixedKept {layout : OutputLayout}
    (layout' : Reconfigurable inventory layout) :
    FixedKept inventory layout where
  fixed id original state inventoried found enabled := by
    obtain ⟨scale, transform, mode⟩ := layout'.kept id original state
      inventoried found
    refine ⟨fun fixed => ?_, fun fixed => ?_, fun fixed => ?_⟩
    · exact scale.resolve_left (by simp [fixed])
    · exact transform.resolve_left (by simp [fixed])
    · obtain ⟨_, width, height, refresh, identity⟩ :=
        mode.resolve_left (by simp [fixed])
      exact ⟨identity enabled, width, height, refresh⟩

/-- Where no request touches a fixed attribute, disabled or not, the fixed
attributes stay those of the inventory and every layout can be returned to. -/
theorem reconfiguration_reversible (inventory : OutputLayout)
    (valid : (validateLayout inventory).valid = true)
    (listable : modesListable inventory = true)
    (first : fixedModesFirst inventory = true) (layouts : List OutputLayout)
    (coordinator : OutputConfigurationCoordinator)
    (run : ConfigurationRun inventory
      (fun request => request.keepsFixed inventory = true) layouts
      coordinator) :
    (∀ layout ∈ layouts, FixedKept inventory layout) ∧
      (coordinator.committedLayout.generation ≠ generationMaximum →
        ∀ layout ∈ layouts, ∀ configurationId, configurationId ≠ 0 →
          (coordinator.configure
            (.describing layout configurationId)).isSome = true) := by
  have sound := validateLayout_iff.mp valid
  obtain ⟨clean, current, earlier⟩ := run.reconfigurable sound listable first
  refine ⟨fun layout member => (earlier layout member).fixedKept, ?_⟩
  intro room layout member configurationId identified
  have again := earlier layout member
  have accepted := current.accepted again sound room
  rw [clean, configure_describing again.resubmittable sound identified accepted]
  rfl

/-- The request that moves the second output of the pair. -/
def movingRequest : ConfigurationRequest where
  configurationId := 5
  outputs :=
    [outputRecord (stateOf pairLayout 1),
      { outputRecord (stateOf pairLayout 2) with logicalY := 20 }]
  primaryOutputId := 1

/-- The pair can be returned to after its second output has moved. -/
theorem reconfiguration_reversible_moved :
    ∃ moved, (OutputConfigurationCoordinator.start pairLayout).configure
        movingRequest = some moved ∧
      (∀ layout ∈ [moved.committedLayout, pairLayout],
        FixedKept pairLayout layout) ∧
      (moved.committedLayout.generation ≠ generationMaximum →
        ∀ layout ∈ [moved.committedLayout, pairLayout],
          ∀ configurationId, configurationId ≠ 0 →
            (moved.configure
              (.describing layout configurationId)).isSome = true) := by
  have accepted : ((OutputConfigurationCoordinator.start pairLayout).configure
      movingRequest).isSome = true := by decide +kernel
  obtain ⟨moved, configured⟩ := Option.isSome_iff_exists.mp accepted
  have result := reconfiguration_reversible pairLayout pairLayout_valid
    (by decide +kernel) (by decide +kernel)
    [moved.committedLayout, pairLayout] moved
    (.configure .start (by decide +kernel) configured)
  exact ⟨moved, configured, result⟩

/-- The request that disables the second output of the pair, whose mode is
fixed. -/
def disablingRequest : ConfigurationRequest where
  configurationId := 5
  outputs :=
    [outputRecord (stateOf pairLayout 1),
      { outputRecord (stateOf pairLayout 2) with
        enabled := false
        logicalX := 0
        logicalWidth := 0
        logicalHeight := 0
        physicalPixelWidth := 0
        physicalPixelHeight := 0
        refreshMillihertz := 0 }]
  primaryOutputId := 1

/-- An output whose mode is fixed cannot be enabled again. -/
theorem disabled_output_irreversible :
    ¬∀ (inventory : OutputLayout), (validateLayout inventory).valid = true →
      ∀ (layouts : List OutputLayout)
        (coordinator : OutputConfigurationCoordinator),
        ConfigurationRun inventory (fun _ => True) layouts coordinator →
          (∀ layout ∈ layouts, FixedKept inventory layout) ∧
            ∀ layout ∈ layouts, ∀ configurationId, configurationId ≠ 0 →
              (coordinator.configure
                (.describing layout configurationId)).isSome = true := by
  intro reversible
  have accepted : ((OutputConfigurationCoordinator.start pairLayout).configure
      disablingRequest).isSome = true := by decide +kernel
  obtain ⟨darkened, configured⟩ := Option.isSome_iff_exists.mp accepted
  have again := (reversible pairLayout pairLayout_valid
    [darkened.committedLayout, pairLayout] darkened
    (.configure .start trivial configured)).2 pairLayout (by simp) 9 (by decide)
  have refused : ((OutputConfigurationCoordinator.start pairLayout).configure
      disablingRequest).bind
        (·.configure (.describing pairLayout 9)) = none := by decide +kernel
  rw [configured, Option.bind_some] at refused
  rw [refused] at again
  cases again

end Glasswyrm.Server
