import Glasswyrm.Gwcomp.BufferOwnership
import Glasswyrm.Gwcomp.ContractDispatch

namespace Glasswyrm.Gwcomp

open Glasswyrm.Compositor Drm Library

/-! The life of a buffer in the compositor, from its attachment to its
release. -/

namespace Compositor

variable {before after : Compositor}

theorem calculateRetiredBuffers_metadata (owned : before.Owned)
    (metadata : before.profile = .m6MetadataProtocolServer) (staged : Scene) :
    before.calculateRetiredBuffers staged = ∅ := by
  refine Std.ExtTreeMap.eq_empty_iff_forall_not_mem.mpr fun bufferId retired =>
    ?_
  exact owned.metadata metadata bufferId (owned.retired_live retired)

theorem Owned.unattached (owned : before.Owned)
    (metadata : before.profile = .m6MetadataProtocolServer) :
    before.pendingAttachments = ∅ := by
  refine Std.ExtTreeMap.eq_empty_iff_forall_not_mem.mpr fun surfaceId member =>
    ?_
  obtain ⟨bufferId, attached⟩ := KeyMap.mem_iff.mp member
  exact owned.metadata metadata bufferId
    (owned.live surfaceId bufferId (.inl attached))

theorem withoutReleased_empty (mappings : KeyMap BufferMapping) :
    withoutReleased mappings ∅ = mappings := by
  refine Std.ExtTreeMap.ext_getElem? fun bufferId => ?_
  rw [withoutReleased, Std.ExtTreeMap.getElem?_filter']
  cases mappings[bufferId]? <;> simp

theorem union_empty (releases : ReleaseMap) : releases ∪ ∅ = releases := by
  refine Std.ExtTreeMap.ext_getElem? fun bufferId => ?_
  simp [Std.ExtTreeMap.getElem?_union]

theorem empty_union (releases : ReleaseMap) : ∅ ∪ releases = releases := by
  refine Std.ExtTreeMap.ext_getElem? fun bufferId => ?_
  simp [Std.ExtTreeMap.getElem?_union]

theorem Coherent.clearReleases (coherent : before.Coherent) :
    before.clearReleases.Coherent :=
  ⟨coherent.active, coherent.closed, fun transaction waits =>
    { coherent.pends transaction waits with }⟩

theorem Narrows.clearReleases (narrows : before.Narrows after)
    (drained : before.releases = ∅) : before.Narrows after.clearReleases :=
  ⟨narrows.mappings, drained.symm, narrows.profile, narrows.references⟩

/-- A commit either names no more buffers than before, or retires those that
it does not install. -/
inductive Buffers (before after : Compositor) (complete : Prop) : Prop
  | narrows (narrows : before.Narrows after) (incomplete : ¬complete)
  | retires (staged : Scene) (retires : before.Retires after staged)
      (complete : complete)

theorem CommitOutcome.buffers {value : FrameCommit} {frame : PresentedFrame}
    (outcome : before.CommitOutcome value after frame)
    (coherent : before.Coherent) (owned : before.Owned)
    (drained : before.releases = ∅) :
    before.Buffers after (frame.disposition = .complete) := by
  cases outcome with
  | refused lastCommitId later _ failed =>
      refine .narrows (.of_same rfl rfl rfl rfl rfl rfl) fun complete => ?_
      rcases failed with rejected | fatal
      · cases rejected.symm.trans complete
      · cases fatal.symm.trans complete
  | staged transaction stages _ pending =>
      refine .narrows (.of_same rfl rfl rfl rfl rfl rfl) fun complete => ?_
      cases pending.symm.trans complete
  | presented transaction stages visibleHash =>
      have closed := (coherent.closed
        (coherent.active.symm.trans stages.closed)).1
      refine .retires before.scene.pending ⟨?_, ?_, rfl, rfl, ?_, closed⟩ rfl
      · simp only [promote, stages.releases]
      · simp only [promote, stages.releases]
      · exact stages.attachments
  | disabled validated valid shown hidden =>
      have closed := (coherent.closed
        (coherent.active.symm.trans valid.closed)).1
      refine .retires validated.candidate.committed ?_ rfl
      unfold promoteDisabledOutput
      cases metadata : validated.metadataOnlyPeer with
      | true =>
          have profile := valid.metadataOnlyPeer.mp metadata
          simp only [if_true]
          have nothing := calculateRetiredBuffers_metadata owned profile
            validated.candidate.committed
          refine ⟨?_, ?_, rfl, rfl, rfl, closed⟩
          · rw [nothing]
            exact (withoutReleased_empty _).symm
          · rw [nothing]
            exact (union_empty _).symm
      | false =>
          simp only [Bool.false_eq_true, if_false, releaseRetiredBuffers]
          refine ⟨?_, rfl, rfl, rfl, rfl, closed⟩
          simp only [drained, empty_union]
          rfl
  | described validated valid metadata shown visible hash =>
      have closed := (coherent.closed
        (coherent.active.symm.trans valid.closed)).1
      have nothing := calculateRetiredBuffers_metadata owned metadata
        validated.candidate.committed
      refine .retires validated.candidate.committed
        ⟨?_, ?_, rfl, rfl, (owned.unattached metadata).symm, closed⟩ rfl
      · rw [nothing]
        exact (withoutReleased_empty _).symm
      · rw [nothing]
        exact (union_empty _).symm

/-- The report is a completed commit. -/
def Completes (report : Option (FrameCommit × PresentedFrame)) : Prop :=
  ∃ value frame, report = some (value, frame) ∧ frame.disposition = .complete

theorem Progress.buffers {report : Option (FrameCommit × PresentedFrame)}
    (progress : before.Progress after report) (coherent : before.Coherent)
    (owned : before.Owned) (drained : before.releases = ∅) :
    before.Buffers after (Completes report) := by
  cases progress with
  | waiting readiness alone =>
      refine .narrows (.of_same rfl rfl rfl rfl rfl rfl) ?_
      rintro ⟨value, frame, impossible, _⟩
      cases impossible
  | failed readiness unready presentation dropped value frame failed =>
      refine .narrows (.of_same rfl rfl rfl rfl rfl rfl) ?_
      rintro ⟨_, _, same, complete⟩
      obtain ⟨rfl, rfl⟩ := Prod.mk.inj (Option.some.inj same)
      rcases failed with rejected | fatal
      · cases rejected.symm.trans complete
      · cases fatal.symm.trans complete
  | committed idle value after frame outcome =>
      have ready : Coherent { before with pendingBufferReadiness := none } :=
        .of_idle idle coherent.active coherent.closed
      cases outcome.buffers ready ⟨owned.live, owned.owner, owned.metadata⟩
          drained with
      | narrows narrows incomplete =>
          refine .narrows ⟨narrows.mappings, narrows.releases,
            narrows.profile, narrows.references⟩ ?_
          rintro ⟨_, _, same, complete⟩
          split at same
          · cases same
          · obtain ⟨rfl, rfl⟩ := Prod.mk.inj (Option.some.inj same)
            exact incomplete complete
      | retires staged retires complete =>
          refine .retires staged ⟨retires.mappings, retires.releases,
            retires.profile, retires.pending, retires.committed, retires.kept⟩
            ⟨value, frame, ?_, complete⟩
          rw [if_neg (by rw [complete]; decide)]
  | completed transaction waits visibleHash =>
      have pends := coherent.pends transaction waits
      refine .retires transaction.candidate.committed
        ⟨?_, ?_, rfl, rfl, pends.attachments, (coherent.closed pends.closed).1⟩
        ⟨_, _, rfl, rfl⟩
      · simp only [promote, pends.releases]
      · simp only [promote, pends.releases]

end Compositor

namespace Runtime

open Compositor

/-- The buffers that the compositor has mapped. -/
def out (runtime : Runtime) : Set Nat :=
  {bufferId | bufferId ∈ runtime.compositor.mappings}

/-- Between two events every queued release has been sent, and only a
validated peer has buffers mapped. -/
structure Sound (runtime : Runtime) : Prop where
  coherent : runtime.compositor.Coherent
  owned : runtime.compositor.Owned
  drained : runtime.compositor.releases = ∅
  unpeered : runtime.peerValidated = false → ∀ bufferId : Nat,
    bufferId ∉ runtime.compositor.mappings

/-- What one event does to the buffers. -/
structure Lifetimes (runtime : Runtime) (event : RuntimeEvent) : Prop where
  sound : (runtime.step event).Sound
  loans : Loans runtime.out (runtime.loans event) (runtime.step event).out
  unnamed : ∀ bufferId reason,
    (bufferId, reason) ∈ (runtime.advance event).2.released →
      ∀ surfaceId, ¬(runtime.step event).compositor.References surfaceId
        bufferId
  refused : ∀ bufferId : Nat,
    (bufferId, BufferReleaseReason.invalid) ∈
      (runtime.advance event).2.released →
        bufferId ∉ runtime.compositor.mappings
  shown : (∃ commit frame,
    (runtime.advance event).2.acknowledged = some (commit, frame) ∧
      frame.disposition = .complete) →
    ∀ bufferId : Nat, bufferId ∈ (runtime.step event).compositor.mappings →
      ∃ surfaceId : Nat, (runtime.step event).compositor.committedAttachments[
        surfaceId]? = some bufferId

theorem disconnected_sound (compositor : Compositor) :
    Sound { compositor := compositor.disconnect } where
  coherent := disconnect_coherent compositor
  owned := by
    refine ⟨fun surfaceId bufferId named => ?_,
      fun bufferId first second named => ?_, fun _ bufferId => by simp [disconnect]⟩
    · simp [References, disconnect] at named
    · simp [References, disconnect] at named
  drained := rfl
  unpeered _ bufferId := by simp [disconnect]

theorem initial_sound (timeout : Nat) (sceneManifest : Bool) :
    (initial timeout sceneManifest).Sound where
  coherent := initial_coherent timeout sceneManifest
  owned := by
    refine ⟨fun surfaceId bufferId named => ?_,
      fun bufferId first second named => ?_, fun _ bufferId => ?_⟩
    · simp [References, initial, Compositor.initial] at named
    · simp [References, initial, Compositor.initial] at named
    · simp [initial, Compositor.initial]
  drained := rfl
  unpeered _ bufferId := by simp [initial, Compositor.initial]

theorem returned_nil : returned [] = [] := rfl

/-- The releases of retired buffers return them all. -/
theorem returned_retiring {releases : ReleaseMap}
    (retiring : Retiring releases) :
    returned releases.toList = releases.keys.map .release := by
  have valid : ∀ entry ∈ releases.toList, entry.2 ≠ .invalid :=
    fun entry member =>
      retiring entry.1 entry.2 (KeyMap.mem_toList.mp member)
  unfold returned
  rw [List.filter_eq_self.mpr (by simpa using valid),
    ← Std.ExtTreeMap.map_fst_toList_eq_keys, List.map_map]
  rfl

/-- What retires returns exactly the buffers that stop being mapped. -/
theorem retires_loans {before after : Compositor} {staged : Scene}
    (owned : before.Owned) (retires : before.Retires after staged) :
    Loans {id : Nat | id ∈ before.mappings}
      (returned (before.calculateRetiredBuffers staged).toList)
      {id : Nat | id ∈ after.mappings} := by
  have lent : ∀ id ∈ (before.calculateRetiredBuffers staged).keys,
      id ∈ {id : Nat | id ∈ before.mappings} := fun id member =>
    owned.retired_live (Std.ExtTreeMap.mem_keys.mp member)
  have released := Loans.releases
    (KeyMap.keys_nodup (before.calculateRetiredBuffers staged)) lent
  have same : {id : Nat | id ∈ before.mappings} \
      {id | id ∈ (before.calculateRetiredBuffers staged).keys} =
        {id : Nat | id ∈ after.mappings} := by
    ext id
    simp [retires.mappings, mem_withoutReleased]
  rw [returned_retiring (calculateRetiredBuffers_retiring before staged),
    ← same]
  exact released

section

variable {runtime : Runtime} {event : RuntimeEvent} {next : Compositor}
  {peerValidated : Bool} {result : ContractDispatchResult}

/-- An event that neither lends nor returns anything. -/
theorem Lifetimes.of_narrows (sound : runtime.Sound)
    (advanced : runtime.advance event =
      ({ compositor := next, peerValidated }, result))
    (coherent : next.Coherent) (narrows : runtime.compositor.Narrows next)
    (peered : peerValidated = false → runtime.peerValidated = false)
    (unlent : runtime.lent event = []) (released : result.released = [])
    (incomplete : ∀ commit frame,
      result.acknowledged = some (commit, frame) →
        frame.disposition ≠ .complete) : Lifetimes runtime event := by
  have stepped : runtime.step event =
      { compositor := next, peerValidated } := by rw [step, advanced]
  refine ⟨?_, ?_, ?_, ?_, ?_⟩
  · rw [stepped]
    refine ⟨coherent, narrows.owned sound.owned,
      narrows.releases.trans sound.drained, fun absent bufferId => ?_⟩
    rw [narrows.mappings]
    exact sound.unpeered (peered absent) bufferId
  · have same : (runtime.step event).out = runtime.out := by
      rw [stepped, out, out, narrows.mappings]
    rw [same, Runtime.loans, unlent, advanced, released]
    exact .nil runtime.out
  · intro bufferId reason member
    rw [advanced, released] at member
    cases member
  · intro bufferId member
    rw [advanced, released] at member
    cases member
  · rintro ⟨commit, frame, acknowledged, complete⟩
    rw [advanced] at acknowledged
    exact absurd complete (incomplete commit frame acknowledged)

/-- An event that completes a commit. -/
theorem Lifetimes.of_retires {staged : Scene} (sound : runtime.Sound)
    (advanced : runtime.advance event =
      ({ compositor := next.clearReleases, peerValidated }, result))
    (coherent : next.Coherent)
    (retires : runtime.compositor.Retires next staged)
    (peered : peerValidated = false → runtime.peerValidated = false)
    (unlent : runtime.lent event = [])
    (released : result.released = next.releases.toList) :
    Lifetimes runtime event := by
  have stepped : runtime.step event =
      { compositor := next.clearReleases, peerValidated } := by
    rw [step, advanced]
  have sent : result.released =
      (runtime.compositor.calculateRetiredBuffers staged).toList := by
    rw [released, retires.releases, sound.drained, empty_union]
  have owned := retires.owned sound.owned
  refine ⟨?_, ?_, ?_, ?_, ?_⟩
  · rw [stepped]
    refine ⟨coherent.clearReleases, ⟨owned.live, owned.owner, owned.metadata⟩,
      rfl, fun absent bufferId mapped => ?_⟩
    have still : bufferId ∈ next.mappings := mapped
    rw [retires.mappings, mem_withoutReleased] at still
    exact sound.unpeered (peered absent) bufferId still.1
  · rw [Runtime.loans, unlent, advanced, sent, stepped]
    have returning := retires_loans sound.owned retires
    exact returning
  · intro bufferId reason member surfaceId named
    rw [advanced, sent] at member
    rw [stepped] at named
    have retired := KeyMap.mem_of_lookup (KeyMap.mem_toList.mp member)
    exact sound.owned.retired_free retired surfaceId (retires.references named)
  · intro bufferId member
    rw [advanced, sent] at member
    exact absurd rfl (calculateRetiredBuffers_retiring _ _ _ _
      (KeyMap.mem_toList.mp member))
  · rintro - bufferId mapped
    rw [stepped] at mapped ⊢
    exact retires.shown mapped

/-- The releases that a commit or a completion sends. -/
theorem Lifetimes.of_buffers {complete : Prop} (sound : runtime.Sound)
    {commit : FrameCommit} {frame : PresentedFrame}
    (advanced : runtime.advance event =
      ({ compositor := next.clearReleases, peerValidated }, result))
    (coherent : next.Coherent)
    (buffers : runtime.compositor.Buffers next complete)
    (peered : peerValidated = false → runtime.peerValidated = false)
    (unlent : runtime.lent event = [])
    (released : result.released = next.releases.toList)
    (acknowledged : result.acknowledged = some (commit, frame))
    (completes : frame.disposition = .complete → complete) :
    Lifetimes runtime event := by
  cases buffers with
  | narrows narrows incomplete =>
      have drained := narrows.releases.trans sound.drained
      refine .of_narrows sound advanced coherent.clearReleases
        (narrows.clearReleases sound.drained) peered unlent ?_ ?_
      · rw [released, drained]
        rfl
      · intro _ other same finished
        obtain ⟨rfl, rfl⟩ :=
          Prod.mk.inj (Option.some.inj (acknowledged.symm.trans same))
        exact incomplete (completes finished)
  | retires staged retires _ =>
      exact .of_retires sound advanced coherent retires peered unlent released

end

/-! ## Events -/

/-- An event without effect. -/
theorem Lifetimes.refl {runtime : Runtime} {event : RuntimeEvent}
    (sound : runtime.Sound) (advanced : runtime.advance event = (runtime, {}))
    (unlent : runtime.lent event = []) : Lifetimes runtime event :=
  .of_narrows sound advanced sound.coherent (.refl _) id unlent rfl
    fun _ _ impossible => by cases impossible

theorem validate_lifetimes {runtime : Runtime} (sound : runtime.Sound)
    (profile : PeerProfile) (synchronization : Bool)
    (sceneProfile : SceneProfile) (primary generation : Nat) :
    Lifetimes runtime (.validate profile synchronization sceneProfile primary
      generation) := by
  cases peered : runtime.peerValidated with
  | true =>
      exact .refl sound (by simp [advance, peered]) (by simp [lent, peered])
  | false =>
      have unmapped := sound.unpeered peered
      cases configured : runtime.compositor.configureSceneProfile sceneProfile
          primary generation with
      | none =>
          have advanced : runtime.advance (.validate profile synchronization
              sceneProfile primary generation) =
              ({ compositor := runtime.compositor.disconnect }, {}) := by
            simp [advance, peered, configured, Compositor.connect]
          have lending : runtime.loans (.validate profile synchronization
              sceneProfile primary generation) = [.reset] := by
            rw [Runtime.loans, advanced]
            simp [lent, peered, configured, returned]
          refine ⟨?_, ?_, ?_, ?_, ?_⟩
          · rw [step, advanced]
            exact disconnected_sound runtime.compositor
          · have empty : (runtime.step (.validate profile synchronization
                sceneProfile primary generation)).out = ∅ := by
              rw [step, advanced]
              ext bufferId
              simp [out, disconnect]
            rw [lending, empty]
            exact .reset (.nil ∅)
          · intro bufferId reason member
            rw [advanced] at member
            cases member
          · intro bufferId member
            rw [advanced] at member
            cases member
          · rintro ⟨commit, frame, acknowledged, _⟩
            rw [advanced] at acknowledged
            cases acknowledged
      | some next =>
          obtain ⟨free, closed, _, same⟩ :=
            configureSceneProfile_some configured
          have advanced : runtime.advance (.validate profile synchronization
              sceneProfile primary generation) =
              ({ compositor :=
                  { next with
                    profile, cpuBufferSynchronization := synchronization }
                 peerValidated := true }, {}) := by
            simp [advance, peered, configured, Compositor.connect]
          have mappings : next.mappings = runtime.compositor.mappings := by
            rw [same]
          have unnamed : ∀ surfaceId bufferId,
              ¬next.References surfaceId bufferId := by
            intro surfaceId bufferId named
            rw [same] at named
            exact unmapped bufferId
              (sound.owned.live surfaceId bufferId named)
          refine ⟨?_, ?_, ?_, ?_, ?_⟩
          · rw [step, advanced]
            refine ⟨?_, ⟨fun surfaceId bufferId named => ?_,
              fun bufferId first second named => ?_, fun _ bufferId => ?_⟩,
              ?_, fun impossible => by cases impossible⟩
            · have connected := connect_coherent sound.coherent profile
                synchronization sceneProfile primary generation
              rw [Compositor.connect, configured] at connected
              exact connected
            · exact absurd named (unnamed surfaceId bufferId)
            · exact absurd named (unnamed first bufferId)
            · rw [mappings]
              exact unmapped bufferId
            · rw [same]
              exact sound.drained
          · rw [step, Runtime.loans, advanced]
            simp only [lent, peered, configured, Option.isSome_some,
              Bool.or_true, if_true, returned_nil, List.append_nil, out,
              mappings]
            exact .nil _
          · intro bufferId reason member
            rw [advanced] at member
            cases member
          · intro bufferId member
            rw [advanced] at member
            cases member
          · rintro ⟨commit, frame, acknowledged, _⟩
            rw [advanced] at acknowledged
            cases acknowledged

theorem disconnect_lifetimes (runtime : Runtime) :
    Lifetimes runtime .disconnect where
  sound := disconnected_sound runtime.compositor
  loans := by
    have empty : (runtime.step .disconnect).out = ∅ := by
      ext bufferId
      simp [step, advance, out, disconnect]
    rw [empty]
    exact .reset (.nil ∅)
  unnamed _ _ member := by cases member
  refused _ member := by cases member
  shown := by
    rintro ⟨commit, frame, acknowledged, _⟩
    cases acknowledged

/-- A mutation that lends nothing sends what it queued. -/
theorem Lifetimes.of_mutated {runtime : Runtime} {event : RuntimeEvent}
    {after : Compositor} (sound : runtime.Sound)
    (advanced : runtime.advance event =
      ({ compositor := after.clearReleases, peerValidated := true },
        { released := after.releases.toList }))
    (coherent : after.Coherent) (narrows : runtime.compositor.Narrows after)
    (unlent : runtime.lent event = []) : Lifetimes runtime event := by
  refine .of_narrows sound advanced coherent.clearReleases
    (narrows.clearReleases sound.drained) (fun impossible => by cases impossible)
    unlent ?_ fun _ _ impossible => by cases impossible
  rw [narrows.releases, sound.drained]
  rfl

/-- The release of an attachment that failed names no buffer that is out. -/
theorem invalid_lifetimes {runtime : Runtime} {event : RuntimeEvent}
    {bufferId : Nat} (sound : runtime.Sound)
    (advanced : runtime.advance event =
      ({ compositor := Compositor.clearReleases { runtime.compositor with
            releases := runtime.compositor.releases.insert bufferId .invalid }
         peerValidated := true },
        { released :=
            (runtime.compositor.releases.insert bufferId .invalid).toList }))
    (unlent : runtime.lent event = [])
    (coherent : Coherent { runtime.compositor with
      releases := runtime.compositor.releases.insert bufferId .invalid })
    (fresh : bufferId ∉ runtime.compositor.mappings) :
    Lifetimes runtime event := by
  have stepped : runtime.step event =
      { compositor := runtime.compositor.clearReleases
        peerValidated := true } := by
    rw [step, advanced]
    rfl
  have only : ∀ entry ∈
      (runtime.compositor.releases.insert bufferId .invalid).toList,
        entry = (bufferId, .invalid) := by
    rintro ⟨other, reason⟩ member
    have found := KeyMap.mem_toList.mp member
    rw [KeyMap.lookup_insert, sound.drained] at found
    split at found
    · rename_i same
      rw [← same, ← Option.some.inj found]
    · simp at found
  have narrows := (Narrows.refl runtime.compositor).clearReleases sound.drained
  have owned := narrows.owned sound.owned
  refine ⟨?_, ?_, ?_, ?_, ?_⟩
  · rw [stepped]
    exact ⟨coherent.clearReleases, owned, rfl,
      fun impossible => by cases impossible⟩
  · have same : (runtime.step event).out = runtime.out := by
      rw [stepped]
      rfl
    have nothing : returned
        (runtime.compositor.releases.insert bufferId .invalid).toList = [] := by
      unfold returned
      rw [List.filter_eq_nil_iff.mpr, List.map_nil]
      intro entry member
      simp [only entry member]
    rw [same, Runtime.loans, unlent, advanced, nothing]
    exact .nil runtime.out
  · intro other reason member surfaceId named
    rw [advanced] at member
    rw [stepped] at named
    obtain ⟨rfl, _⟩ := Prod.mk.inj (only _ member)
    exact fresh (owned.live surfaceId other named)
  · intro other member
    rw [advanced] at member
    obtain ⟨rfl, _⟩ := Prod.mk.inj (only _ member)
    exact fresh
  · rintro ⟨commit, frame, acknowledged, _⟩
    rw [advanced] at acknowledged
    cases acknowledged

theorem attached_lifetimes {runtime : Runtime} {event : RuntimeEvent}
    {surfaceId bufferId : Nat} {mapping : BufferMapping}
    (sound : runtime.Sound)
    (advanced : runtime.advance event =
      ({ compositor := Compositor.clearReleases { runtime.compositor with
            mappings := runtime.compositor.mappings.insert bufferId mapping
            pendingAttachments :=
              runtime.compositor.pendingAttachments.insert surfaceId bufferId }
         peerValidated := true },
        { released := runtime.compositor.releases.toList }))
    (lending : runtime.lent event = [.lend bufferId])
    (coherent : Coherent { runtime.compositor with
      mappings := runtime.compositor.mappings.insert bufferId mapping
      pendingAttachments :=
        runtime.compositor.pendingAttachments.insert surfaceId bufferId })
    (fresh : bufferId ∉ runtime.compositor.mappings)
    (buffered :
      runtime.compositor.profile ≠ .m6MetadataProtocolServer) :
    Lifetimes runtime event := by
  have released : (runtime.advance event).2.released = [] := by
    rw [advanced, sound.drained]
    rfl
  have owned := sound.owned.attach surfaceId mapping fresh buffered
  refine ⟨?_, ?_, ?_, ?_, ?_⟩
  · rw [step, advanced]
    exact ⟨coherent.clearReleases,
      ⟨owned.live, owned.owner, owned.metadata⟩, rfl,
      fun impossible => by cases impossible⟩
  · have more : (runtime.step event).out = insert bufferId runtime.out := by
      rw [step, advanced]
      ext other
      show other ∈ runtime.compositor.mappings.insert bufferId mapping ↔ _
      rw [Std.ExtTreeMap.mem_insert, Nat.compare_eq_eq, Set.mem_insert_iff,
        eq_comm]
      rfl
    rw [more, Runtime.loans, lending, released]
    exact .lend fresh (.nil _)
  · intro other reason member
    rw [released] at member
    cases member
  · intro other member
    rw [released] at member
    cases member
  · rintro ⟨commit, frame, acknowledged, _⟩
    rw [advanced] at acknowledged
    cases acknowledged

/-- A mutation sends the release of an attachment that failed, and nothing
else. -/
theorem mutation_lifetimes {runtime : Runtime} (sound : runtime.Sound)
    (mutation : Mutation) :
    Lifetimes runtime (.message (.mutation mutation)) := by
  cases peered : runtime.peerValidated with
  | false =>
      exact .refl sound (by simp [advance, peered]) (by simp [lent, peered])
  | true =>
      cases admitted : runtime.compositor.profile.admits mutation with
      | false =>
          have advanced : runtime.advance (.message (.mutation mutation)) =
              ({ compositor := runtime.compositor.clearReleases
                 peerValidated := true },
                { released := runtime.compositor.releases.toList }) := by
            simp only [advance, peered, Bool.not_true, Bool.false_eq_true,
              if_false, dispatchContractMessage, admitted, enqueueReleases]
          exact .of_mutated sound advanced sound.coherent (.refl _)
            (by simp [lent, peered, admitted])
      | true =>
          have mutated := mutate_mutated runtime.compositor mutation
          have coherent := mutated.coherent sound.coherent
          have advanced : runtime.advance (.message (.mutation mutation)) =
              ({ compositor :=
                  (runtime.compositor.mutate mutation).clearReleases
                 peerValidated := true },
                { released := (runtime.compositor.mutate
                    mutation).releases.toList }) := by
            simp only [advance, peered, Bool.not_true, Bool.false_eq_true,
              if_false, dispatchContractMessage, admitted, if_true,
              enqueueReleases]
          have lending : runtime.lent (.message (.mutation mutation)) =
              ((runtime.compositor.attachedBuffer mutation).map .lend).toList := by
            simp [lent, peered, admitted]
          generalize runtime.compositor.mutate mutation = after at *
          cases mutated with
          | edited edits unattached =>
              exact .of_mutated sound advanced coherent edits.narrows
                (by rw [lending, unattached]; rfl)
          | detached edits idle surfaceId unattached =>
              refine .of_mutated sound advanced coherent ?_
                (by rw [lending, unattached]; rfl)
              have narrows := edits.narrows
              refine ⟨narrows.mappings, narrows.releases, narrows.profile,
                fun surface buffer named => narrows.references surface buffer ?_⟩
              rcases named with pending | others
              · exact .inl (lookup_of_erase pending)
              · exact .inr others
          | invalid bufferId idle fresh unattached =>
              rw [unattached] at lending
              exact invalid_lifetimes sound advanced lending coherent fresh
          | attached surfaceId bufferId mapping idle fresh buffered taken =>
              rw [taken] at lending
              exact attached_lifetimes sound advanced lending coherent fresh
                buffered

/-- An operation that leaves the releases alone. -/
theorem Lifetimes.of_step {runtime : Runtime} {event : RuntimeEvent}
    {operation : Operation} (sound : runtime.Sound)
    (advanced : runtime.advance event =
      ({ runtime with compositor := runtime.compositor.step operation }, {}))
    (narrows : runtime.compositor.Narrows (runtime.compositor.step operation))
    (unlent : runtime.lent event = []) : Lifetimes runtime event :=
  .of_narrows sound advanced (step_coherent sound.coherent operation) narrows
    id unlent rfl fun _ _ impossible => by cases impossible

theorem beginSnapshot_step (compositor : Compositor) (generation : Nat) :
    compositor.Narrows (compositor.step (.beginSnapshot generation)) := by
  simp only [Compositor.step]
  cases opened : compositor.beginSnapshot generation with
  | none => exact .refl compositor
  | some after => exact beginSnapshot_narrows opened

theorem endSnapshot_step (compositor : Compositor) :
    compositor.Narrows (compositor.step .endSnapshot) := by
  simp only [Compositor.step]
  cases closed : compositor.endSnapshot with
  | none => exact .refl compositor
  | some after => exact endSnapshot_narrows closed

theorem suspend_step (compositor : Compositor)
    (suspended : BackendStateResult) :
    compositor.Narrows (compositor.step (.suspend suspended)) := by
  simp only [Compositor.step, suspendPresentation]
  split
  · exact .refl compositor
  · split
    · exact .refl compositor
    · split
      · exact .refl compositor
      · exact .of_same rfl rfl rfl rfl rfl rfl

theorem resume_step (compositor : Compositor) (resumed : PresentResult) :
    compositor.Narrows (compositor.step (.resume resumed)) := by
  simp only [Compositor.step, resumePresentation]
  split
  · exact .refl compositor
  · split
    · exact .refl compositor
    · exact .of_same rfl rfl rfl rfl rfl rfl

theorem frameCommit_lifetimes {runtime : Runtime} (sound : runtime.Sound)
    (value : FrameCommit) (acknowledge : Bool) (replies : CommitReplies) :
    Lifetimes runtime (.message (.frameCommit value acknowledge replies)) := by
  cases peered : runtime.peerValidated with
  | false => exact .refl sound (by simp [advance, peered]) rfl
  | true =>
      have progress := commit_progress runtime.compositor value replies
      have coherent := progress.coherent sound.coherent
      have buffers := progress.buffers sound.coherent sound.owned sound.drained
      have advanced : runtime.advance
          (.message (.frameCommit value acknowledge replies)) =
          ({ compositor := (runtime.compositor.dispatchContractMessage
              (.frameCommit value acknowledge replies)).1
             peerValidated := true },
            (runtime.compositor.dispatchContractMessage
              (.frameCommit value acknowledge replies)).2) := by
        simp only [advance, peered, Bool.not_true, Bool.false_eq_true, if_false]
      simp only [dispatchContractMessage] at advanced
      simp only [Compositor.step, finished] at coherent buffers
      generalize runtime.compositor.commit value replies = outcome at *
      obtain ⟨next, report⟩ := outcome
      have same : (if acknowledge then report.frame
          else { report.frame with
            result := .rejectedIncompleteMetadata }).disposition =
              report.frame.disposition := by cases acknowledge <;> rfl
      generalize (if acknowledge then report.frame
        else { report.frame with result := .rejectedIncompleteMetadata }) =
          frame at same advanced
      by_cases pending : frame.disposition = .pending
      · rw [if_pos (same.symm.trans pending)] at buffers
        simp only [if_pos pending] at advanced
        cases buffers with
        | narrows narrows incomplete =>
            exact .of_narrows sound advanced coherent narrows
              (fun impossible => by cases impossible) rfl rfl
              fun _ _ impossible => by cases impossible
        | retires staged retires complete =>
            obtain ⟨_, _, impossible, _⟩ := complete
            cases impossible
      · rw [if_neg (same ▸ pending)] at buffers
        simp only [if_neg pending, finishFrame, enqueueReleases] at advanced
        refine .of_buffers sound advanced coherent buffers
          (fun impossible => by cases impossible) rfl rfl rfl fun complete => ?_
        exact ⟨value, report.frame, rfl, same.symm.trans complete⟩

/-- A fatal completion carries a fatal frame. -/
theorem servicePresentation_fatal (compositor : Compositor)
    (replies : ServiceReplies)
    (fatal : (compositor.servicePresentation replies).2.completion.kind =
      .fatal) :
    (compositor.servicePresentation replies).2.completion.frame.disposition =
      .fatal := by
  revert fatal
  unfold Compositor.servicePresentation
  split
  · unfold serviceReadiness
    simp only
    split
    · exact fun _ => rfl
    · split
      · exact fun _ => rfl
      · split
        · exact fun _ => rfl
        · exact fun impossible => by cases impossible
        · split
          · exact fun impossible => by cases impossible
          · simp only
            split
            · rename_i fatal
              exact fun _ => fatal
            · exact fun impossible => by cases impossible
  · split
    · exact fun impossible => by cases impossible
    · unfold serviceTransaction
      simp only
      split
      · exact fun _ => rfl
      · split
        · split
          · exact fun _ => rfl
          · split
            · exact fun _ => rfl
            · exact fun impossible => by cases impossible
          · split
            · exact fun _ => rfl
            · exact fun impossible => by cases impossible
        · split
          · exact fun _ => rfl
          · exact fun impossible => by cases impossible

theorem presentation_lifetimes {runtime : Runtime} (sound : runtime.Sound)
    (replies : ServiceReplies) :
    Lifetimes runtime (.presentation replies) := by
  cases pending : runtime.compositor.presentationPending with
  | false =>
      exact .refl sound (by simp [advance, servicePresentation, pending]) rfl
  | true =>
      have progress := service_progress replies sound.coherent.exclusive
      have coherent := progress.coherent sound.coherent
      have buffers := progress.buffers sound.coherent sound.owned sound.drained
      have fatal := servicePresentation_fatal runtime.compositor replies
      have advanced : runtime.advance (.presentation replies) =
          runtime.servicePresentation replies := rfl
      simp only [servicePresentation, pending, Bool.not_true,
        Bool.false_eq_true, if_false] at advanced
      simp only [Compositor.step, finished] at coherent buffers
      generalize runtime.compositor.servicePresentation replies = outcome at *
      obtain ⟨next, report⟩ := outcome
      have peered : runtime.peerValidated = false →
          runtime.peerValidated = false := id
      cases kind : report.completion.kind with
      | none =>
          simp only [kind] at advanced
          rw [if_pos kind] at buffers
          cases buffers with
          | narrows narrows incomplete =>
              exact .of_narrows sound advanced coherent narrows peered rfl rfl
                fun _ _ impossible => by cases impossible
          | retires staged retires complete =>
              obtain ⟨_, _, impossible, _⟩ := complete
              cases impossible
      | fatal =>
          simp only [kind] at advanced
          rw [if_neg (by rw [kind]; decide)] at buffers
          cases buffers with
          | narrows narrows incomplete =>
              exact .of_narrows sound advanced coherent narrows peered rfl rfl
                fun _ _ impossible => by cases impossible
          | retires staged retires complete =>
              obtain ⟨_, _, same, complete⟩ := complete
              obtain ⟨rfl, rfl⟩ := Prod.mk.inj (Option.some.inj same)
              cases (fatal kind).symm.trans complete
      | complete =>
          simp only [kind, finishFrame, enqueueReleases] at advanced
          rw [if_neg (by rw [kind]; decide)] at buffers
          exact .of_buffers sound advanced coherent buffers peered rfl rfl rfl
            fun complete => ⟨_, _, rfl, complete⟩

theorem message_lifetimes {runtime : Runtime} (sound : runtime.Sound)
    (message : ContractMessage) : Lifetimes runtime (.message message) := by
  cases message with
  | mutation mutation => exact mutation_lifetimes sound mutation
  | frameCommit value acknowledge replies =>
      exact frameCommit_lifetimes sound value acknowledge replies
  | snapshotBegin completeSession generation =>
      cases peered : runtime.peerValidated with
      | false => exact .refl sound (by simp [advance, peered]) rfl
      | true =>
          cases completeSession with
          | false =>
              refine .refl sound ?_ rfl
              obtain ⟨compositor, validated⟩ := runtime
              obtain rfl : validated = true := peered
              rfl
          | true =>
              refine .of_step sound ?_
                (beginSnapshot_step runtime.compositor generation) rfl
              simp only [advance, peered, dispatchContractMessage]
              simp
  | snapshotEnd =>
      cases peered : runtime.peerValidated with
      | false => exact .refl sound (by simp [advance, peered]) rfl
      | true =>
          refine .of_step sound ?_ (endSnapshot_step runtime.compositor) rfl
          simp only [advance, peered, dispatchContractMessage]
          simp
  | snapshotAbort =>
      cases peered : runtime.peerValidated with
      | false => exact .refl sound (by simp [advance, peered]) rfl
      | true =>
          have narrows : runtime.compositor.Narrows
              (runtime.compositor.step .abortSnapshot) :=
            abortSnapshot_narrows runtime.compositor
          refine .of_step sound ?_ narrows rfl
          simp only [advance, peered, dispatchContractMessage]
          simp

theorem event_lifetimes {runtime : Runtime} (sound : runtime.Sound)
    (event : RuntimeEvent) : Lifetimes runtime event := by
  cases event with
  | validate profile synchronization sceneProfile primary generation =>
      exact validate_lifetimes sound profile synchronization sceneProfile
        primary generation
  | message message => exact message_lifetimes sound message
  | presentation replies => exact presentation_lifetimes sound replies
  | abort =>
      have narrows : runtime.compositor.Narrows
          (runtime.compositor.step .abort) := .of_same rfl rfl rfl rfl rfl rfl
      exact .of_step sound rfl narrows rfl
  | suspend suspended =>
      exact .of_step sound rfl (suspend_step runtime.compositor suspended) rfl
  | resume resumed =>
      exact .of_step sound rfl (resume_step runtime.compositor resumed) rfl
  | disconnect => exact disconnect_lifetimes runtime

/-! ## Runs -/

theorem run_sound (timeout : Nat) (sceneManifest : Bool)
    (events : List RuntimeEvent) :
    (run step (initial timeout sceneManifest) events).Sound := by
  have keeps : ∀ runtime event, Sound runtime → Sound (step runtime event) :=
    fun _ event sound => (event_lifetimes sound event).sound
  exact run_preserves keeps (initial_sound timeout sceneManifest) events

theorem run_loans {runtime : Runtime} (sound : runtime.Sound)
    (events : List RuntimeEvent) :
    Loans runtime.out (runtime.loansAlong events)
      (run step runtime events).out := by
  induction events generalizing runtime with
  | nil => exact .nil runtime.out
  | cons event rest ih =>
      have lifetimes := event_lifetimes sound event
      exact lifetimes.loans.append (ih lifetimes.sound)

/-- Attached buffers are mapped, a buffer is released once between two loans,
never while it is attached; only an attachment that failed is released as
invalid, and an accepted commit releases every buffer that it does not show. -/
theorem buffers_released_once (timeout : Nat) (sceneManifest : Bool)
    (events : List RuntimeEvent) :
    let start := initial timeout sceneManifest
    let runtime := run step start events
    (∀ surfaceId bufferId : Nat,
      runtime.compositor.committedAttachments[surfaceId]? = some bufferId ∨
        runtime.compositor.pendingAttachments[surfaceId]? = some bufferId →
      bufferId ∈ runtime.compositor.mappings) ∧
    Loans ∅ (start.loansAlong events) runtime.out ∧
    (∀ bufferId before between after,
      start.loansAlong events =
        before ++ .lend bufferId :: between ++ .lend bufferId :: after →
      .reset ∉ between → .lend bufferId ∉ between →
      between.count (.release bufferId) = 1) ∧
    ∀ event,
      (∀ bufferId reason,
        (bufferId, reason) ∈ (runtime.advance event).2.released →
        ∀ surfaceId, ¬(runtime.step event).compositor.References surfaceId
          bufferId) ∧
      (∀ bufferId : Nat,
        (bufferId, BufferReleaseReason.invalid) ∈
          (runtime.advance event).2.released →
        bufferId ∉ runtime.compositor.mappings) ∧
      ((∃ commit frame,
        (runtime.advance event).2.acknowledged = some (commit, frame) ∧
          frame.disposition = .complete) →
        ∀ bufferId : Nat,
          bufferId ∈ (runtime.step event).compositor.mappings →
          ∃ surfaceId : Nat,
            (runtime.step event).compositor.committedAttachments[
              surfaceId]? = some bufferId) := by
  intro start runtime
  have sound := run_sound timeout sceneManifest events
  have empty : start.out = ∅ := by
    ext bufferId
    simp [start, out, initial, Compositor.initial]
  have traced := run_loans (initial_sound timeout sceneManifest) events
  refine ⟨fun surfaceId bufferId named => ?_, empty ▸ traced,
    fun bufferId before between after history unreset unlent => ?_,
    fun event => ?_⟩
  · refine sound.owned.live surfaceId bufferId ?_
    rcases named with committed | pending
    · exact .inr (.inl committed)
    · exact .inl pending
  · have loans : Loans start.out
        (before ++ .lend bufferId :: between ++ .lend bufferId :: after)
        runtime.out := history ▸ traced
    exact loans.released_once unreset unlent
  · have lifetimes := event_lifetimes sound event
    exact ⟨lifetimes.unnamed, lifetimes.refused, lifetimes.shown⟩

end Runtime

end Glasswyrm.Gwcomp
