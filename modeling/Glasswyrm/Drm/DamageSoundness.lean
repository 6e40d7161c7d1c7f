import Glasswyrm.Drm.DamageHistory

namespace Glasswyrm.Drm

open Compositor Compositor.Rectangle Library

namespace Scanout

variable {α : Type*}

/-- What is known of a buffer whose content is valid: the frames it missed
account for every pixel at which it differs from the last one, and every entry
of the history after its own frame stands for one of them. -/
structure Tracks (state : Scanout α) (buffer : ScanoutBuffer α) : Prop where
  known : ∃ last ∈ state.last, buffer.completedGeneration ≤ last.generation
  later : ∀ frame ∈ buffer.behind,
    buffer.completedGeneration ≤ frame.generation
  past : ∀ last ∈ state.last, ∀ frame ∈ buffer.behind,
    frame.generation ≤ last.generation
  differs : ∀ last ∈ state.last, ∀ x y, state.history.bounds.Contains x y →
    buffer.contents x y ≠ last.pixels x y →
      ∃ frame ∈ buffer.behind, Damaged frame.damage x y
  held : ∀ entry ∈ state.history.completed,
    buffer.completedGeneration < entry.generation →
      ∃ frame ∈ buffer.behind, frame.generation = entry.generation ∧
        Records state.history.bounds entry.rectangles frame.damage

structure Consistent (state : Scanout α) : Prop where
  recent : ∀ entry ∈ state.history.completed, ∃ last ∈ state.last,
    entry.generation ≤ last.generation
  tracked : ∀ number, (state.buffers number).contentValid = true →
    state.Tracks (state.buffers number)

theorem initial_consistent (width height : Nat) (blank : Raster α) :
    (initial width height blank).Consistent :=
  ⟨by simp [initial], by simp [initial]⟩

theorem mem_recordCompleted {history : DamageCopyHistory}
    {plan : DamageCopyPlan} {generation : Nat} {entry : CompletedDamage}
    (member : entry ∈ (history.recordCompleted plan generation).completed) :
    entry ∈ history.completed ∨
      entry = { generation, rectangles := plan.completedDamage } := by
  simp only [DamageCopyHistory.recordCompleted] at member
  rcases List.mem_append.mp (List.mem_of_mem_drop member) with kept | added
  · split at kept
    · cases kept
    · exact .inl kept
  · exact .inr (List.mem_singleton.mp added)

section

variable {state : Scanout α} {target : Nat} {frame : Frame α}
  {plan : DamageCopyPlan}

theorem complete_recent (consistent : state.Consistent)
    (follows : state.Follows frame) :
    ∀ entry ∈ (state.complete target frame plan).history.completed,
      entry.generation ≤ frame.generation := by
  intro entry member
  rcases mem_recordCompleted member with kept | rfl
  · obtain ⟨last, isLast, earlier⟩ := consistent.recent entry kept
    exact earlier.trans (follows.later last isLast)
  · exact Nat.le_refl _

/-- The buffer that the frame went to holds that frame. -/
theorem complete_target (consistent : state.Consistent)
    (follows : state.Follows frame) :
    (state.complete target frame plan).Tracks
      ((state.complete target frame plan).buffers target) := by
  have buffer : (state.complete target frame plan).buffers target =
      { contentValid := true
        completedGeneration := frame.generation
        contents := frame.pixels } := if_pos rfl
  rw [buffer]
  refine ⟨⟨frame, rfl, Nat.le_refl _⟩, by simp, by simp, ?_, ?_⟩
  · rintro last ⟨⟩ x y _ different
    exact absurd rfl different
  · intro entry member after
    have recent := complete_recent consistent follows entry member
    exact absurd after (Nat.not_lt.mpr recent)

/-- Every other buffer has missed one frame more. -/
theorem complete_other (follows : state.Follows frame)
    (planned : state.PlannedFor frame plan) {buffer : ScanoutBuffer α}
    (tracks : state.Tracks buffer) :
    (state.complete target frame plan).Tracks
      { buffer with behind := buffer.behind ++ [frame] } := by
  obtain ⟨last, isLast, bufferPast⟩ := tracks.known
  have lastPast := follows.later last isLast
  refine ⟨⟨frame, rfl, bufferPast.trans lastPast⟩, ?_, ?_, ?_, ?_⟩
  · intro missed member
    rcases List.mem_append.mp member with earlier | newest
    · exact tracks.later missed earlier
    · obtain rfl := List.mem_singleton.mp newest
      exact bufferPast.trans lastPast
  · rintro current ⟨⟩ missed member
    rcases List.mem_append.mp member with earlier | newest
    · exact (tracks.past last isLast missed earlier).trans lastPast
    · obtain rfl := List.mem_singleton.mp newest
      exact Nat.le_refl _
  · rintro current ⟨⟩ x y inside different
    by_cases same : buffer.contents x y = last.pixels x y
    · have damaged := follows.covers last isLast x y inside (same ▸ different)
      exact ⟨frame, by simp, damaged⟩
    · obtain ⟨missed, earlier, damaged⟩ :=
        tracks.differs last isLast x y inside same
      exact ⟨missed, List.mem_append_left _ earlier, damaged⟩
  · intro entry member after
    rcases mem_recordCompleted member with kept | rfl
    · obtain ⟨missed, earlier, same, records⟩ := tracks.held entry kept after
      exact ⟨missed, List.mem_append_left _ earlier, same, records⟩
    · obtain ⟨history, contentValid, completedGeneration, forced, width,
        height, rfl⟩ := planned
      have bounds : history.bounds = state.history.bounds := by
        simp only [DamageCopyHistory.bounds, width, height]
      refine ⟨frame, by simp, rfl, ?_⟩
      exact bounds ▸ plan_records history contentValid completedGeneration
        frame.generation frame.damage forced

end

theorem step_consistent (state : Scanout α) (event : Completion α)
    (consistent : state.Consistent) (admitted : state.allowed event) :
    (state.step event).Consistent := by
  cases event with
  | completed target frame plan =>
      obtain ⟨follows, planned⟩ := admitted
      refine ⟨fun entry member => ⟨frame, rfl,
        complete_recent consistent follows entry member⟩, ?_⟩
      intro number valid
      by_cases own : number = target
      · subst own
        exact complete_target consistent follows
      · have kept : (state.complete target frame plan).buffers number =
            { state.buffers number with
              behind := (state.buffers number).behind ++ [frame] } :=
          if_neg own
        rw [step, kept] at valid ⊢
        exact complete_other follows planned (consistent.tracked number valid)
  | rejected target frame plan => exact consistent
  | invalidated target =>
      refine ⟨consistent.recent, fun number valid => ?_⟩
      by_cases own : number = target
      · simp [step, own] at valid
      · have kept : (state.step (.invalidated target)).buffers number =
            state.buffers number := if_neg own
        rw [kept] at valid ⊢
        obtain ⟨known, later, past, differs, held⟩ :=
          consistent.tracked number valid
        exact ⟨known, later, past, differs, held⟩
  | cleared =>
      refine ⟨by simp [step, DamageCopyHistory.clear], fun number valid => ?_⟩
      obtain ⟨known, later, past, differs, _⟩ :=
        consistent.tracked number valid
      exact ⟨known, later, past, differs,
        by simp [step, DamageCopyHistory.clear]⟩

theorem run_consistent {width height : Nat} {blank : Raster α}
    {events : List (Completion α)}
    (guarded : Guarded step allowed (initial width height blank) events) :
    (run step (initial width height blank) events).Consistent :=
  guarded.preserves Consistent step_consistent
    (initial_consistent width height blank)

/-! ## What a plan copies -/

theorem fullPlan_fullCopy (history : DamageCopyHistory)
    {reason : FullCopyReason} (given : reason ≠ .none)
    (damage : List Rectangle) :
    (history.fullPlan reason damage).fullCopy = true :=
  decide_eq_true given

/-- A plan that is no full copy has gathered the damage since the buffer's own
frame, and leaves something of it on the output. -/
theorem plan_partial {history : DamageCopyHistory} {contentValid : Bool}
    {completedGeneration generation : Nat} {damage : List Rectangle}
    {forced : FullCopyReason} {plan : DamageCopyPlan}
    (made : history.plan contentValid completedGeneration generation damage
      forced = plan)
    (parts : plan.fullCopy = false) :
    forced = .none ∧ contentValid = true ∧
      completedGeneration < generation ∧ ∃ missing,
        history.missingDamage (completedGeneration + 1) (generation - 1) =
          some missing ∧
        plan.rectangles =
          (history.normalized (missing ++ damage)).rectangles ∧
        plan.rectangles ≠ [] := by
  have whole : ∀ reason, reason ≠ .none →
      history.fullPlan reason damage ≠ plan := by
    rintro reason given rfl
    rw [fullPlan_fullCopy history given] at parts
    cases parts
  unfold DamageCopyHistory.plan at made
  split at made
  · rename_i given
    exact absurd made (whole forced given)
  split at made
  · exact absurd made (whole .firstUse (by decide))
  split at made
  · exact absurd made (whole .historyMiss (by decide))
  split at made
  · exact absurd made (whole .damageUnavailable (by decide))
  rename_i asked valid newer _
  refine ⟨not_not.mp asked, by simpa using valid, Nat.not_le.mp newer, ?_⟩
  cases answered : history.missingDamage (completedGeneration + 1)
      (generation - 1) with
  | none =>
      rw [answered] at made
      exact absurd made (whole .historyMiss (by decide))
  | some missing =>
      simp only [answered] at made
      split at made
      · exact absurd made (whole .damageUnavailable (by decide))
      · rename_i something
        subst made
        exact ⟨missing, rfl, rfl, something⟩

theorem normalized_invalid {history : DamageCopyHistory}
    (invalid : history.bounds.hasValidExtents = false)
    (rectangles : List Rectangle) :
    (history.normalized rectangles).rectangles = [] := by
  have unchanged : history.normalized rectangles =
      { outputBounds := history.bounds } := by
    unfold DamageCopyHistory.normalized
    induction rectangles with
    | nil => rfl
    | cons rectangle rest ih =>
        rw [List.foldl_cons, DamageRegion.add_invalid _ (.inr invalid)]
        exact ih
  rw [unchanged]

/-- Where no two frames share a generation, the damage gathered reaches what
any missed frame damaged. -/
theorem missing_damaged {state : Scanout α} {target : Nat} {frame : Frame α}
    (follows : state.Follows frame)
    (tracks : state.Tracks (state.buffers target))
    (separate : ((state.buffers target).completedGeneration ::
      ((state.buffers target).behind ++ [frame]).map
        Frame.generation).Nodup)
    (valid : state.history.bounds.hasValidExtents = true)
    {missing : List Rectangle}
    (answered : state.history.missingDamage
      ((state.buffers target).completedGeneration + 1)
      (frame.generation - 1) = some missing)
    {missed : Frame α} (isMissed : missed ∈ (state.buffers target).behind)
    {x y : Int} (inside : state.history.bounds.Contains x y)
    (damaged : Damaged missed.damage x y) : Damaged missing x y := by
  obtain ⟨ownApart, apart⟩ := List.nodup_cons.mp separate
  have newApart : missed.generation ≠ frame.generation := by
    rw [List.map_append, List.nodup_append] at apart
    exact apart.2.2 missed.generation (List.mem_map_of_mem isMissed)
      frame.generation (by simp)
  have listed : missed ∈ (state.buffers target).behind ++ [frame] :=
    List.mem_append_left _ isMissed
  have after : (state.buffers target).completedGeneration <
      missed.generation := by
    refine lt_of_le_of_ne (tracks.later missed isMissed) fun same => ownApart ?_
    rw [same]
    exact List.mem_map_of_mem listed
  have before : missed.generation < frame.generation := by
    obtain ⟨last, isLast, _⟩ := tracks.known
    have past := tracks.past last isLast missed isMissed
    exact lt_of_le_of_ne (past.trans (follows.later last isLast)) newApart
  obtain ⟨entry, kept, generation, gathered⟩ :=
    missingDamage_gathers answered after (Nat.le_sub_one_of_lt before)
  obtain ⟨recorded, isRecorded, same, records⟩ :=
    tracks.held entry kept (generation ▸ after)
  -- the entry of that generation stands for this frame and no other
  obtain rfl : recorded = missed :=
    List.inj_on_of_nodup_map apart (List.mem_append_left _ isRecorded) listed
      (same.trans generation)
  obtain ⟨rectangle, member, reached⟩ := records valid x y inside damaged
  exact ⟨rectangle, gathered member, reached⟩

theorem plan_sound {state : Scanout α} (consistent : state.Consistent)
    {target : Nat} {frame : Frame α} (follows : state.Follows frame)
    {forced : FullCopyReason} (distinct : state.Distinct target frame forced) :
    state.Sound target frame (state.planFor target frame forced) := by
  generalize made : state.planFor target frame forced = plan
  cases whole : plan.fullCopy with
  | true => exact .inl whole
  | false =>
      refine .inr fun x y inside different => ?_
      obtain ⟨asked, contentValid, newer, missing, answered, planned,
        something⟩ := plan_partial made whole
      have separate := distinct asked contentValid newer (answered ▸ rfl)
      have tracks := consistent.tracked target contentValid
      -- a rectangle was left on the output, so its bounds are in range
      have valid : state.history.bounds.hasValidExtents = true := by
        by_contra invalid
        refine something (planned.trans ?_)
        exact normalized_invalid (Bool.not_eq_true _ ▸ invalid) _
      have damaged : Damaged (missing ++ frame.damage) x y := by
        obtain ⟨last, isLast, _⟩ := tracks.known
        by_cases same : (state.buffers target).contents x y = last.pixels x y
        · obtain ⟨rectangle, member, reached⟩ :=
            follows.covers last isLast x y inside (same ▸ different)
          exact ⟨rectangle, List.mem_append_right _ member, reached⟩
        · obtain ⟨missed, isMissed, damaged⟩ :=
            tracks.differs last isLast x y inside same
          obtain ⟨rectangle, member, reached⟩ := missing_damaged follows tracks
            separate valid answered isMissed inside damaged
          exact ⟨rectangle, List.mem_append_left _ member, reached⟩
      rw [planned]
      exact normalized_covers valid inside damaged

/-- In every run, the plan for a buffer whose missed frames were committed
under generations of their own, as far as the plan asks for them, copies every
pixel that has to change. -/
theorem every_plan_sound {width height : Nat} {blank : Raster α}
    {events : List (Completion α)}
    (guarded : Guarded step allowed (initial width height blank) events)
    {target : Nat} {frame : Frame α}
    (follows :
      (run step (initial width height blank) events).Follows frame)
    {forced : FullCopyReason}
    (distinct : (run step (initial width height blank) events).Distinct target
      frame forced) :
    (run step (initial width height blank) events).Sound target frame
      ((run step (initial width height blank) events).planFor target frame
        forced) :=
  plan_sound (run_consistent guarded) follows distinct

/-! ## Two frames of one generation

The first frame is blank, the second lights the left pixel, the third the right
one as well. -/

def cell (x : Int) : Rectangle := { x, width := 1, height := 1 }

def blankFrame : Frame Bool :=
  { generation := 1, pixels := fun _ _ => false, damage := [] }

def litFrame (generation : Nat) (lit : Int) : Frame Bool :=
  { generation
    pixels := fun x y => decide (0 ≤ x ∧ x ≤ lit ∧ y = 0)
    damage := [cell lit] }

theorem litFrame_pixels (generation : Nat) (lit x y : Int) :
    (litFrame generation lit).pixels x y =
      decide (0 ≤ x ∧ x ≤ lit ∧ y = 0) := rfl

theorem litFrame_damaged (generation : Nat) {lit x y : Int}
    (small : lit = 0 ∨ lit = 1) (column : x = lit) (row : y = 0) :
    Damaged (litFrame generation lit).damage x y := by
  refine ⟨cell lit, List.mem_singleton_self _, ?_, ?_⟩
  · rcases small with rfl | rfl <;> decide
  · subst column row
    simp only [cell, Contains, Rectangle.right, Rectangle.bottom]
    omega

def twoFrames : List (Completion Bool) :=
  [.completed 0 blankFrame
      (DamageCopyHistory.plan { width := 2, height := 1 } false 0 1 [] .none),
    .completed 1 (litFrame 2 0)
      (DamageCopyHistory.plan { width := 2, height := 1 } false 0 2 [cell 0]
        .none)]

def darkOutput : Scanout Bool := initial 2 1 fun _ _ => false

theorem twoFrames_guarded : Guarded step allowed darkOutput twoFrames := by
  have first : allowed darkOutput (.completed 0 blankFrame
      (DamageCopyHistory.plan { width := 2, height := 1 } false 0 1 []
        .none)) := by
    refine ⟨⟨?_, ?_⟩, { width := 2, height := 1 }, false, 0, .none,
      rfl, rfl, rfl⟩ <;> rintro last ⟨⟩
  refine ⟨first, ⟨⟨?_, ?_⟩, { width := 2, height := 1 }, false, 0, .none,
    rfl, rfl, rfl⟩, trivial⟩
  · rintro last ⟨⟩
    decide
  · rintro last ⟨⟩ x y _ different
    rw [litFrame_pixels] at different
    have lit : 0 ≤ x ∧ x ≤ 0 ∧ y = 0 := by
      by_contra dark
      exact different (decide_eq_false dark).symm
    exact litFrame_damaged 2 (.inl rfl) (by omega) lit.2.2

theorem twoFrames_last :
    (run step darkOutput twoFrames).last = some (litFrame 2 0) := rfl

/-- A later frame that lights the right pixel is one that may come next. -/
theorem litFrame_follows {generation : Nat} (later : 2 ≤ generation) :
    (run step darkOutput twoFrames).Follows (litFrame generation 1) := by
  refine ⟨?_, ?_⟩
  · rw [twoFrames_last]
    rintro last ⟨⟩
    exact later
  · rw [twoFrames_last]
    rintro last ⟨⟩ x y inside different
    simp only [litFrame_pixels, ne_eq, decide_eq_decide] at different
    refine litFrame_damaged generation (.inr rfl) ?_ ?_ <;> omega

theorem every_plan_sound_three :
    (run step darkOutput twoFrames).Sound 0 (litFrame 3 1)
      ((run step darkOutput twoFrames).planFor 0 (litFrame 3 1) .none) :=
  every_plan_sound twoFrames_guarded (litFrame_follows (by decide))
    (by intro _ _ _ _; decide)

/-- Under the generation of the frame it missed, the plan leaves the left
pixel dark. -/
theorem equal_generation_missed :
    Guarded step allowed darkOutput twoFrames ∧
      (run step darkOutput twoFrames).Follows (litFrame 2 1) ∧
      ¬(run step darkOutput twoFrames).Sound 0 (litFrame 2 1)
        ((run step darkOutput twoFrames).planFor 0 (litFrame 2 1) .none) := by
  refine ⟨twoFrames_guarded, litFrame_follows (Nat.le_refl 2), ?_⟩
  have planned : (run step darkOutput twoFrames).planFor 0 (litFrame 2 1)
      .none =
        { rectangles := [cell 1]
          completedDamage := [cell 1]
          fullFrameBytes := 8
          copiedBytes := 4
          historySpan := 1 } := by decide
  rw [planned]
  rintro (whole | copies)
  · exact absurd whole (by decide)
  · obtain ⟨rectangle, member, reached⟩ := copies 0 0 (by decide) (by decide)
    obtain rfl := List.mem_singleton.mp member
    exact absurd reached (by decide)

end Scanout

end Glasswyrm.Drm
