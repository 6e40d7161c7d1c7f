import Glasswyrm.Gwcomp.Coherence

namespace Glasswyrm.Gwcomp

open Glasswyrm.Compositor Drm Render Library

namespace Compositor

/-! Which buffers the attachments of a compositor name, and which of them a
commit retires. -/

/-- Some attachment of the surface names the buffer. -/
def References (compositor : Compositor) (surfaceId bufferId : Nat) : Prop :=
  compositor.pendingAttachments[surfaceId]? = some bufferId ∨
    compositor.committedAttachments[surfaceId]? = some bufferId ∨
    compositor.preSnapshotAttachments[surfaceId]? = some bufferId

/-- Attachments name live buffers, and each buffer belongs to one surface. -/
structure Owned (compositor : Compositor) : Prop where
  live : ∀ surfaceId bufferId, compositor.References surfaceId bufferId →
    bufferId ∈ compositor.mappings
  owner : ∀ bufferId first second, compositor.References first bufferId →
    compositor.References second bufferId → first = second
  metadata : compositor.profile = .m6MetadataProtocolServer →
    ∀ bufferId : Nat, bufferId ∉ compositor.mappings

/-- The operation leaves the buffers and names no more of them. -/
structure Narrows (before after : Compositor) : Prop where
  mappings : after.mappings = before.mappings
  releases : after.releases = before.releases
  profile : after.profile = before.profile
  references : ∀ surfaceId bufferId, after.References surfaceId bufferId →
    before.References surfaceId bufferId

variable {before after : Compositor}

theorem Narrows.refl (compositor : Compositor) :
    compositor.Narrows compositor :=
  ⟨rfl, rfl, rfl, fun _ _ => id⟩

theorem Narrows.owned (narrows : before.Narrows after) (owned : before.Owned) :
    after.Owned where
  live surfaceId bufferId named := by
    rw [narrows.mappings]
    exact owned.live surfaceId bufferId
      (narrows.references surfaceId bufferId named)
  owner bufferId first second left right :=
    owned.owner bufferId first second (narrows.references first bufferId left)
      (narrows.references second bufferId right)
  metadata profile := by
    rw [narrows.mappings]
    exact owned.metadata (narrows.profile.symm.trans profile)

/-- The same attachments name the same buffers. -/
theorem Narrows.of_same (mappings : after.mappings = before.mappings)
    (releases : after.releases = before.releases)
    (profile : after.profile = before.profile)
    (pending : after.pendingAttachments = before.pendingAttachments)
    (committed : after.committedAttachments = before.committedAttachments)
    (kept : after.preSnapshotAttachments = before.preSnapshotAttachments) :
    before.Narrows after := by
  refine ⟨mappings, releases, profile, fun surfaceId bufferId named => ?_⟩
  unfold References at named ⊢
  rwa [pending, committed, kept] at named

theorem Edits.narrows (edits : before.Edits after) : before.Narrows after :=
  .of_same edits.mappings edits.releases edits.profile
    edits.pendingAttachments edits.committedAttachments
    edits.preSnapshotAttachments

theorem lookup_of_erase {map : AttachmentMap} {key id : Nat} {value : Nat}
    (found : (map.erase key)[id]? = some value) : map[id]? = some value := by
  rw [KeyMap.lookup_erase] at found
  split at found
  · cases found
  · exact found

theorem lookup_of_filter {map : AttachmentMap} {keep : Nat → Nat → Bool}
    {id value : Nat} (found : (map.filter keep)[id]? = some value) :
    map[id]? = some value := by
  rw [Std.ExtTreeMap.getElem?_filter'] at found
  exact (Option.filter_eq_some_iff.mp found).1

theorem beginSnapshot_narrows {generation : Nat}
    (opened : before.beginSnapshot generation = some after) :
    before.Narrows after := by
  obtain ⟨_, _, _, same⟩ := beginSnapshot_some opened
  rw [same]
  refine ⟨rfl, rfl, rfl, fun surfaceId bufferId named => ?_⟩
  rcases named with pending | committed | kept
  · simp only at pending
    split at pending
    · exact .inr (.inl pending)
    · simp at pending
  · exact .inr (.inl committed)
  · exact .inl kept

theorem endSnapshot_narrows (closed : before.endSnapshot = some after) :
    before.Narrows after := by
  obtain ⟨_, _, _, same⟩ := endSnapshot_some closed
  rw [same]
  refine ⟨rfl, rfl, rfl, fun surfaceId bufferId named => ?_⟩
  rcases named with pending | committed | kept
  · simp only at pending
    split at pending
    · exact .inl (lookup_of_filter pending)
    · exact .inl pending
  · exact .inr (.inl committed)
  · simp at kept

theorem abortSnapshot_narrows (compositor : Compositor) :
    compositor.Narrows compositor.abortSnapshot := by
  unfold abortSnapshot
  split
  · exact .refl compositor
  · refine ⟨rfl, rfl, rfl, fun surfaceId bufferId named => ?_⟩
    rcases named with pending | committed | kept
    · exact .inr (.inr pending)
    · exact .inr (.inl committed)
    · simp at kept

/-! ## The retired buffers -/

theorem attached_iff {attachments : AttachmentMap} {bufferId : Nat} :
    attached attachments bufferId = true ↔
      ∃ surfaceId : Nat, attachments[surfaceId]? = some bufferId := by
  simp only [attached, List.any_eq_true, decide_eq_true_eq]
  constructor
  · rintro ⟨⟨surfaceId, named⟩, member, rfl⟩
    exact ⟨surfaceId, KeyMap.mem_toList.mp member⟩
  · rintro ⟨surfaceId, found⟩
    exact ⟨(surfaceId, bufferId), KeyMap.mem_toList.mpr found, rfl⟩

/-- No attachment failed among what is queued. -/
def Retiring (releases : ReleaseMap) : Prop :=
  ∀ (bufferId : Nat) reason, releases[bufferId]? = some reason →
    reason ≠ .invalid

theorem Retiring.insert {releases : ReleaseMap} (retiring : Retiring releases)
    {bufferId : Nat} {reason : BufferReleaseReason}
    (valid : reason ≠ .invalid) : Retiring (releases.insert bufferId reason) := by
  intro other found lookup
  rw [KeyMap.lookup_insert] at lookup
  split at lookup
  · exact Option.some.inj lookup ▸ valid
  · exact retiring other found lookup

section

variable {pending : AttachmentMap} {staged : Scene} {bufferId : Nat}

theorem mem_insert_iff {releases : ReleaseMap} {queued : Nat}
    {reason : BufferReleaseReason} :
    bufferId ∈ releases.insert queued reason ↔
      bufferId ∈ releases ∨ queued = bufferId := by
  rw [Std.ExtTreeMap.mem_insert, Nat.compare_eq_eq]
  exact or_comm

theorem retireCommitted_mem (releases : ReleaseMap) (old : Nat × Nat) :
    bufferId ∈ retireCommitted pending staged releases old ↔
      bufferId ∈ releases ∨
        (old.2 = bufferId ∧ pending[old.1]? ≠ some bufferId) := by
  unfold retireCommitted
  split
  · rename_i absent
    rw [mem_insert_iff, absent]
    simp
  · rename_i now found
    split
    · rename_i replaced
      rw [mem_insert_iff, found]
      refine or_congr_right ⟨fun same => ⟨same, fun kept => replaced ?_⟩,
        And.left⟩
      exact (Option.some.inj kept).trans same.symm
    · rename_i kept
      rw [Decidable.not_not] at kept
      rw [found, kept]
      simp

theorem retireCommitted_retiring {releases : ReleaseMap}
    (retiring : Retiring releases) (old : Nat × Nat) :
    Retiring (retireCommitted pending staged releases old) := by
  unfold retireCommitted
  split
  · refine retiring.insert ?_
    split <;> decide
  · split
    · exact retiring.insert (by decide)
    · exact retiring

theorem retireUnattached_mem (releases : ReleaseMap) (mapped : Nat) :
    bufferId ∈ retireUnattached pending releases mapped ↔
      bufferId ∈ releases ∨
        (mapped = bufferId ∧ attached pending bufferId = false) := by
  unfold retireUnattached
  split
  · rename_i free
    simp only [Bool.and_eq_true, Bool.not_eq_true'] at free
    rw [mem_insert_iff]
    refine or_congr_right ⟨?_, And.left⟩
    rintro rfl
    exact ⟨rfl, free.1⟩
  · rename_i taken
    refine ⟨.inl, ?_⟩
    rintro (queued | ⟨rfl, free⟩)
    · exact queued
    · simp only [Bool.and_eq_true, Bool.not_eq_true', not_and,
        Bool.not_eq_false] at taken
      exact Std.ExtTreeMap.contains_iff_mem.mp (taken free)

theorem retireUnattached_retiring {releases : ReleaseMap}
    (retiring : Retiring releases) (mapped : Nat) :
    Retiring (retireUnattached pending releases mapped) := by
  unfold retireUnattached
  split
  · exact retiring.insert (by decide)
  · exact retiring

theorem foldl_retireCommitted_mem (entries : List (Nat × Nat))
    (releases : ReleaseMap) :
    bufferId ∈ entries.foldl (retireCommitted pending staged) releases ↔
      bufferId ∈ releases ∨ ∃ old ∈ entries,
        old.2 = bufferId ∧ pending[old.1]? ≠ some bufferId := by
  induction entries generalizing releases with
  | nil => simp
  | cons old rest ih =>
      rw [List.foldl_cons, ih, retireCommitted_mem, List.exists_mem_cons_iff,
        or_assoc]

theorem foldl_retireUnattached_mem (ids : List Nat) (releases : ReleaseMap) :
    bufferId ∈ ids.foldl (retireUnattached pending) releases ↔
      bufferId ∈ releases ∨
        (bufferId ∈ ids ∧ attached pending bufferId = false) := by
  induction ids generalizing releases with
  | nil => simp
  | cons mapped rest ih =>
      rw [List.foldl_cons, ih, retireUnattached_mem, List.mem_cons, or_assoc]
      refine or_congr_right ?_
      rw [← or_and_right]
      exact and_congr_left' (or_congr_left eq_comm)

end

/-- The retired buffers are the committed ones that are no longer attached to
their surface, and the mapped ones that are attached to none. -/
theorem mem_calculateRetiredBuffers {compositor : Compositor} {staged : Scene}
    {bufferId : Nat} :
    bufferId ∈ compositor.calculateRetiredBuffers staged ↔
      (∃ surfaceId : Nat,
        compositor.committedAttachments[surfaceId]? = some bufferId ∧
          compositor.pendingAttachments[surfaceId]? ≠ some bufferId) ∨
        (bufferId ∈ compositor.mappings ∧ ∀ surfaceId : Nat,
          compositor.pendingAttachments[surfaceId]? ≠ some bufferId) := by
  unfold calculateRetiredBuffers
  rw [foldl_retireUnattached_mem, foldl_retireCommitted_mem,
    Std.ExtTreeMap.mem_keys, ← Bool.not_eq_true, attached_iff, not_exists]
  simp only [Std.ExtTreeMap.not_mem_empty, false_or]
  refine or_congr_left ⟨?_, ?_⟩
  · rintro ⟨⟨surfaceId, named⟩, member, rfl, apart⟩
    exact ⟨surfaceId, KeyMap.mem_toList.mp member, apart⟩
  · rintro ⟨surfaceId, found, apart⟩
    exact ⟨(surfaceId, bufferId), KeyMap.mem_toList.mpr found, rfl, apart⟩

theorem calculateRetiredBuffers_retiring (compositor : Compositor)
    (staged : Scene) : Retiring (compositor.calculateRetiredBuffers staged) := by
  have empty : Retiring ∅ := fun _ _ found => by simp at found
  have keepsCommitted : ∀ releases old, Retiring releases → Retiring
      (retireCommitted compositor.pendingAttachments staged releases old) :=
    fun _ old retiring => retireCommitted_retiring retiring old
  have keepsUnattached : ∀ releases mapped, Retiring releases → Retiring
      (retireUnattached compositor.pendingAttachments releases mapped) :=
    fun _ mapped retiring => retireUnattached_retiring retiring mapped
  exact run_preserves keepsUnattached
    (run_preserves keepsCommitted empty compositor.committedAttachments.toList)
    compositor.mappings.keys

/-! ## Accepted commits -/

/-- The commit installs what is pending, and takes along the mappings of the
buffers that it retires. -/
structure Retires (before after : Compositor) (staged : Scene) : Prop where
  mappings : after.mappings = withoutReleased before.mappings
    (before.calculateRetiredBuffers staged)
  releases : after.releases =
    before.releases ∪ before.calculateRetiredBuffers staged
  profile : after.profile = before.profile
  pending : after.pendingAttachments = before.pendingAttachments
  committed : after.committedAttachments = before.pendingAttachments
  kept : after.preSnapshotAttachments = ∅

theorem mem_withoutReleased {mappings : KeyMap BufferMapping}
    {releases : ReleaseMap} {bufferId : Nat} :
    bufferId ∈ withoutReleased mappings releases ↔
      bufferId ∈ mappings ∧ bufferId ∉ releases := by
  rw [KeyMap.mem_iff, KeyMap.mem_iff]
  unfold withoutReleased
  simp only [Std.ExtTreeMap.getElem?_filter', Option.filter_eq_some_iff,
    Bool.not_eq_true', ← Bool.not_eq_true, Std.ExtTreeMap.contains_iff_mem,
    exists_and_right]

/-- Nothing retired is attached any more. -/
theorem Owned.retired_free (owned : before.Owned) {staged : Scene}
    {bufferId : Nat} (retired : bufferId ∈ before.calculateRetiredBuffers staged)
    (surfaceId : Nat) :
    before.pendingAttachments[surfaceId]? ≠ some bufferId := by
  intro attached
  rcases mem_calculateRetiredBuffers.mp retired with
    ⟨other, committed, apart⟩ | ⟨_, free⟩
  · obtain rfl := owned.owner bufferId surfaceId other (.inl attached)
      (.inr (.inl committed))
    exact apart attached
  · exact free surfaceId attached

theorem Owned.retired_live (owned : before.Owned) {staged : Scene}
    {bufferId : Nat}
    (retired : bufferId ∈ before.calculateRetiredBuffers staged) :
    bufferId ∈ before.mappings := by
  rcases mem_calculateRetiredBuffers.mp retired with
    ⟨surfaceId, committed, _⟩ | ⟨mapped, _⟩
  · exact owned.live surfaceId bufferId (.inr (.inl committed))
  · exact mapped

theorem Retires.references {staged : Scene}
    (retires : before.Retires after staged) {surfaceId bufferId : Nat}
    (named : after.References surfaceId bufferId) :
    before.pendingAttachments[surfaceId]? = some bufferId := by
  rcases named with pending | committed | kept
  · rwa [retires.pending] at pending
  · rwa [retires.committed] at committed
  · rw [retires.kept] at kept
    simp at kept

theorem Retires.owned {staged : Scene} (retires : before.Retires after staged)
    (owned : before.Owned) : after.Owned where
  live surfaceId bufferId named := by
    have attached := retires.references named
    rw [retires.mappings, mem_withoutReleased]
    exact ⟨owned.live surfaceId bufferId (.inl attached), fun retired =>
      owned.retired_free retired surfaceId attached⟩
  owner bufferId first second left right :=
    owned.owner bufferId first second (.inl (retires.references left))
      (.inl (retires.references right))
  metadata profile bufferId mapped := by
    rw [retires.mappings, mem_withoutReleased] at mapped
    exact owned.metadata (retires.profile.symm.trans profile) bufferId mapped.1

/-- What is still mapped after an accepted commit is shown. -/
theorem Retires.shown {staged : Scene} (retires : before.Retires after staged)
    {bufferId : Nat} (mapped : bufferId ∈ after.mappings) :
    ∃ surfaceId : Nat,
      after.committedAttachments[surfaceId]? = some bufferId := by
  rw [retires.mappings, mem_withoutReleased,
    mem_calculateRetiredBuffers, not_or, not_and] at mapped
  obtain ⟨live, _, attached⟩ := mapped
  have shown := attached live
  rw [not_forall] at shown
  obtain ⟨surfaceId, shown⟩ := shown
  exact ⟨surfaceId, retires.committed ▸ Decidable.not_not.mp shown⟩

/-- The attachment of a fresh buffer. -/
theorem Owned.attach (owned : before.Owned) (surfaceId : Nat)
    {bufferId : Nat} (mapping : BufferMapping) (fresh : bufferId ∉ before.mappings)
    (buffered : before.profile ≠ .m6MetadataProtocolServer) :
    Owned { before with
      mappings := before.mappings.insert bufferId mapping
      pendingAttachments :=
        before.pendingAttachments.insert surfaceId bufferId } := by
  have cases : ∀ surface id, References { before with
      mappings := before.mappings.insert bufferId mapping
      pendingAttachments :=
        before.pendingAttachments.insert surfaceId bufferId } surface id →
      before.References surface id ∨ (surface = surfaceId ∧ id = bufferId) := by
    intro surface id named
    rcases named with pending | committed | kept
    · rw [KeyMap.lookup_insert] at pending
      split at pending
      · rename_i same
        exact .inr ⟨same.symm, (Option.some.inj pending).symm⟩
      · exact .inl (.inl pending)
    · exact .inl (.inr (.inl committed))
    · exact .inl (.inr (.inr kept))
  have unnamed : ∀ surface, ¬before.References surface bufferId :=
    fun surface named => fresh (owned.live surface bufferId named)
  refine ⟨fun surface id named => ?_, fun id first second left right => ?_,
    fun profile => absurd profile buffered⟩
  · rw [Std.ExtTreeMap.mem_insert, Nat.compare_eq_eq]
    rcases cases surface id named with earlier | ⟨_, rfl⟩
    · exact .inr (owned.live surface id earlier)
    · exact .inl rfl
  · rcases cases first id left with earlier | ⟨rfl, rfl⟩ <;>
      rcases cases second id right with other | ⟨rfl, same⟩
    · exact owned.owner id first second earlier other
    · exact absurd (same ▸ earlier) (unnamed first)
    · exact absurd other (unnamed second)
    · rfl

end Compositor

end Glasswyrm.Gwcomp
