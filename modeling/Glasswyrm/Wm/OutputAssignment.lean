import Glasswyrm.Wm.MultiOutput
import Glasswyrm.Wm.Transients

namespace Glasswyrm.Wm

open Lifecycle Output Library

/-! What the assignment of a root window to an output promises. -/

variable {raw : RawState}

/-- What `validate_outputs` leaves of an enabled output. -/
structure UsableOutput (output : OutputContext) : Prop where
  enabled : output.enabled = true
  logical : validRectangle output.logical = true
  work : validRectangle output.work = true
  inside : contains output.logical output.work = true

theorem Valid.outputs (valid : Valid raw)
    (nonempty : raw.outputs.isEmpty = false) :
    validateOutputs raw = .none := by
  have profile := valid.profile
  rw [validateProfile, nonempty] at profile
  exact (EvaluationError.andThen_none_iff.mp profile).1

theorem validateOutputs_none {raw : RawState}
    (accepted : validateOutputs raw = .none) :
    (∀ (id : Nat) output, raw.outputs[id]? = some output →
      refusesOutput id output = false) ∧
    raw.outputs[raw.context.outputId]?.any (·.primary) = true := by
  unfold validateOutputs at accepted
  simp only at accepted
  split at accepted
  · cases accepted
  · split at accepted
    · cases accepted
    · rename_i admitted
      split at accepted
      · cases accepted
      · split at accepted
        · cases accepted
        · rename_i context
          simp only [Bool.or_eq_true, not_or, Bool.not_eq_true',
            Bool.not_eq_false] at context
          refine ⟨fun id output found => ?_, context.1.1.1.1.2⟩
          simp only [List.any_eq_true, not_exists, not_and,
            Bool.not_eq_true] at admitted
          exact admitted (id, output) (KeyMap.mem_toList.mpr found)

theorem Valid.output {id : Nat} {output : OutputContext} (valid : Valid raw)
    (found : raw.outputs[id]? = some output) :
    id ≠ 0 ∧ output.outputId = id ∧
      (output.primary = true → output.enabled = true) ∧
      (output.enabled = true → UsableOutput output) := by
  have nonempty : raw.outputs.isEmpty = false := by
    rw [Std.ExtTreeMap.isEmpty_eq_false_iff]
    rintro empty
    simp [empty] at found
  have admitted := (validateOutputs_none (valid.outputs nonempty)).1 id output
    found
  unfold refusesOutput at admitted
  simp only [Bool.or_eq_false_iff, decide_eq_false_iff_not,
    Decidable.not_not] at admitted
  obtain ⟨⟨⟨⟨⟨nonzero, key⟩, _⟩, _⟩, primary⟩, geometry⟩ := admitted
  refine ⟨nonzero, key.symm, fun isPrimary => ?_, fun enabled => ?_⟩
  · simpa [isPrimary] using primary
  · rw [if_pos enabled] at geometry
    simp only [Bool.or_eq_false_iff, Bool.not_eq_false'] at geometry
    exact ⟨enabled, geometry.1.1, geometry.1.2, geometry.2⟩

theorem enabledOutput_iff {outputs : KeyMap OutputContext} {id : Nat} :
    enabledOutput outputs id = true ↔
      ∃ output, outputs[id]? = some output ∧ output.enabled = true := by
  rw [enabledOutput]
  cases outputs[id]? <;> simp

/-- The context's output is one of the enabled ones. -/
theorem Valid.contextOutput (valid : Valid raw)
    (nonempty : raw.outputs.isEmpty = false) :
    enabledOutput raw.outputs raw.context.outputId = true := by
  have primary := (validateOutputs_none (valid.outputs nonempty)).2
  cases found : raw.outputs[raw.context.outputId]? with
  | none => simp [found] at primary
  | some output =>
      rw [found] at primary
      exact enabledOutput_iff.mpr
        ⟨output, found, (valid.output found).2.2.1 primary⟩

/-! ## The largest intersection -/

/-- What the loop over the outputs has found in those it has seen. -/
structure AreaTie.Sound (geometry : Rectangle)
    (seen : List (Nat × OutputContext)) (best : AreaTie) : Prop where
  tied : ∀ id ∈ best.tied, ∃ output, (id, output) ∈ seen ∧
    output.enabled = true ∧
    intersectionArea geometry output.logical = best.maximumArea
  bound : ∀ entry ∈ seen, entry.2.enabled = true →
    intersectionArea geometry entry.2.logical ≤ best.maximumArea
  nonempty : ∀ entry ∈ seen, entry.2.enabled = true → best.tied ≠ []
  empty : best.tied = [] → best.maximumArea = 0

theorem AreaTie.Sound.consider {geometry : Rectangle}
    {seen : List (Nat × OutputContext)} {best : AreaTie}
    (sound : best.Sound geometry seen) (entry : Nat × OutputContext) :
    (best.consider geometry entry).Sound geometry (seen ++ [entry]) := by
  obtain ⟨id, output⟩ := entry
  fun_cases AreaTie.consider geometry best (id, output) with
  | case1 disabled =>
      have off : output.enabled = false := by simpa using disabled
      refine ⟨fun other member => ?_, fun other member enabled => ?_,
        fun other member enabled => ?_, sound.empty⟩
      · obtain ⟨found, known, rest⟩ := sound.tied other member
        exact ⟨found, List.mem_append_left _ known, rest⟩
      · rcases List.mem_append.mp member with known | last
        · exact sound.bound other known enabled
        · rw [List.mem_singleton.mp last, off] at enabled
          cases enabled
      · rcases List.mem_append.mp member with known | last
        · exact sound.nonempty other known enabled
        · rw [List.mem_singleton.mp last, off] at enabled
          cases enabled
  | case2 on area larger =>
      have enabled : output.enabled = true := by simpa using on
      refine ⟨fun other member => ?_, fun other member _ => ?_, by simp,
        by simp⟩
      · obtain rfl := List.mem_singleton.mp member
        exact ⟨output, List.mem_append_right _ (List.mem_singleton.mpr rfl),
          enabled, rfl⟩
      · rcases List.mem_append.mp member with known | last
        · exact Nat.le_of_lt (Nat.lt_of_le_of_lt
            (sound.bound other known ‹_›) larger)
        · rw [List.mem_singleton.mp last]
  | case3 on area notLarger equal =>
      have enabled : output.enabled = true := by simpa using on
      refine ⟨fun other member => ?_, fun other member on => ?_, by simp,
        by simp⟩
      · rcases List.mem_append.mp member with known | last
        · obtain ⟨found, known, rest⟩ := sound.tied other known
          exact ⟨found, List.mem_append_left _ known, rest⟩
        · obtain rfl := List.mem_singleton.mp last
          exact ⟨output, List.mem_append_right _ (List.mem_singleton.mpr rfl),
            enabled, equal⟩
      · rcases List.mem_append.mp member with known | last
        · exact sound.bound other known on
        · rw [List.mem_singleton.mp last]
          exact Nat.le_of_eq equal
  | case4 on area notLarger different =>
      have smaller : area < best.maximumArea := by omega
      have found : best.tied ≠ [] := by
        intro empty
        rw [sound.empty empty] at smaller
        cases smaller
      refine ⟨fun other member => ?_, fun other member on => ?_,
        fun _ _ _ => found, sound.empty⟩
      · obtain ⟨found, known, rest⟩ := sound.tied other member
        exact ⟨found, List.mem_append_left _ known, rest⟩
      · rcases List.mem_append.mp member with known | last
        · exact sound.bound other known on
        · rw [List.mem_singleton.mp last]
          exact Nat.le_of_lt smaller

theorem largestOutputs_sound (outputs : KeyMap OutputContext)
    (geometry : Rectangle) :
    (largestOutputs outputs geometry).Sound geometry outputs.toList := by
  have loop : ∀ (rest seen : List (Nat × OutputContext)) (best : AreaTie),
      best.Sound geometry seen →
        (rest.foldl (AreaTie.consider geometry) best).Sound geometry
          (seen ++ rest) := by
    intro rest
    induction rest with
    | nil => intro seen best sound; simpa using sound
    | cons entry rest ih =>
        intro seen best sound
        have next := ih (seen ++ [entry]) _ (sound.consider entry)
        rwa [List.append_assoc] at next
  have start : AreaTie.Sound geometry [] {} :=
    ⟨by simp, by simp, by simp, fun _ => rfl⟩
  exact loop outputs.toList [] {} start

theorem AreaTie.contains_iff {best : AreaTie} {id : Nat} :
    best.contains id = true ↔ id ≠ 0 ∧ id ∈ best.tied := by
  simp [AreaTie.contains]

theorem AreaTie.choose_mem {best : AreaTie} (found : best.tied ≠ [])
    (previous preferred primary : Nat) :
    best.choose previous preferred primary ∈ best.tied := by
  fun_cases AreaTie.choose best previous preferred primary with
  | case1 tied => exact (contains_iff.mp tied).2
  | case2 _ tied => exact (contains_iff.mp tied).2
  | case3 _ _ tied => exact (contains_iff.mp tied).2
  | case4 =>
      cases tied : best.tied with
      | nil => exact absurd tied found
      | cons head rest => exact List.mem_cons_self

/-- Choosing again with the choice as the previous output changes nothing. -/
theorem AreaTie.choose_again {best : AreaTie} (found : best.tied ≠ [])
    {previous preferred primary : Nat}
    (nonzero : best.choose previous preferred primary ≠ 0) :
    best.choose (best.choose previous preferred primary) preferred primary =
      best.choose previous preferred primary := by
  have tied := contains_iff.mpr
    ⟨nonzero, choose_mem found previous preferred primary⟩
  generalize best.choose previous preferred primary = chosen at tied ⊢
  rw [AreaTie.choose, if_pos tied]

/-! ## Roots -/

/-- Some output is enabled and none has the identifier zero. -/
structure Assignable (outputs : KeyMap OutputContext) : Prop where
  some : ∃ id, enabledOutput outputs id = true
  nonzero : ∀ id, enabledOutput outputs id = true → id ≠ 0

theorem Valid.assignable (valid : Valid raw)
    (nonempty : raw.outputs.isEmpty = false) : Assignable raw.outputs where
  some := ⟨_, valid.contextOutput nonempty⟩
  nonzero id enabled := by
    obtain ⟨output, found, _⟩ := enabledOutput_iff.mp enabled
    exact (valid.output found).1

theorem Assignable.largest {outputs : KeyMap OutputContext}
    (assignable : Assignable outputs) (geometry : Rectangle) :
    (largestOutputs outputs geometry).tied ≠ [] ∧
      ∀ id ∈ (largestOutputs outputs geometry).tied,
        enabledOutput outputs id = true := by
  have sound := largestOutputs_sound outputs geometry
  constructor
  · obtain ⟨id, enabled⟩ := assignable.some
    obtain ⟨output, found, on⟩ := enabledOutput_iff.mp enabled
    exact sound.nonempty (id, output) (KeyMap.mem_toList.mpr found) on
  · intro id member
    obtain ⟨output, known, on, _⟩ := sound.tied id member
    exact enabledOutput_iff.mpr ⟨output, KeyMap.mem_toList.mp known, on⟩

theorem selectOutput_enabled {outputs : KeyMap OutputContext}
    (assignable : Assignable outputs) (primary : Nat)
    (selection : OutputSelection) :
    enabledOutput outputs (selectOutput outputs primary selection) = true := by
  fun_cases selectOutput outputs primary selection with
  | case1 inherited => exact inherited
  | case2 _ retained =>
      exact (Bool.and_eq_true_iff.mp retained).2
  | case3 =>
      obtain ⟨found, enabled⟩ := assignable.largest selection.geometry
      exact enabled _ (AreaTie.choose_mem found _ _ _)

/-- Selecting again with the selected output as the previous one. -/
theorem selectOutput_again {outputs : KeyMap OutputContext}
    (assignable : Assignable outputs) (primary : Nat)
    (selection : OutputSelection) :
    selectOutput outputs primary
        { selection with
          previousOutputId := selectOutput outputs primary selection } =
      selectOutput outputs primary selection := by
  have enabled := selectOutput_enabled assignable primary selection
  have nonzero := assignable.nonzero _ enabled
  revert enabled nonzero
  fun_cases selectOutput outputs primary selection with
  | case1 inherited =>
      intro _ _
      simp only [selectOutput, inherited, if_true]
  | case2 alone retained =>
      intro enabled _
      have retains := (Bool.and_eq_true_iff.mp retained).1
      simp only [selectOutput, alone, retains, enabled, Bool.and_true, if_true]
      simp
  | case3 alone free =>
      intro enabled nonzero
      obtain ⟨found, _⟩ := assignable.largest selection.geometry
      simp only [selectOutput, alone, enabled, Bool.and_true,
        AreaTie.choose_again found nonzero]
      simp

theorem assignRoot_enabled (assignable : Assignable raw.outputs)
    (window : RawWindow) (hint : WindowOutputHint) :
    enabledOutput raw.outputs (assignRoot raw window hint) = true := by
  fun_cases assignRoot raw window hint with
  | case1 =>
      fun_cases initialOutput raw hint with
      | case1 preferred => exact preferred
      | case2 _ primary => exact primary
      | case3 =>
          obtain ⟨id, enabled⟩ := assignable.some
          obtain ⟨output, found, on⟩ := enabledOutput_iff.mp enabled
          cases first : raw.outputs.toList.find?
              fun entry => entry.2.enabled with
          | none =>
              have off := List.find?_eq_none.mp first (id, output)
                (KeyMap.mem_toList.mpr found)
              exact absurd on off
          | some entry =>
              have on := List.find?_some first
              have known := List.mem_of_find?_eq_some first
              exact enabledOutput_iff.mpr
                ⟨entry.2, KeyMap.mem_toList.mp known, on⟩
  | case2 => exact selectOutput_enabled assignable _ _

/-- A root that is assigned again, with its output as the previous one, stays
where it is. -/
theorem assignRoot_again (assignable : Assignable raw.outputs)
    (window : RawWindow) {hint again : WindowOutputHint}
    (previous : again.previousOutputId = assignRoot raw window hint)
    (preferred : again.preferredOutputId = hint.preferredOutputId) :
    assignRoot raw window again = assignRoot raw window hint := by
  unfold assignRoot at previous ⊢
  split
  · simp only [initialOutput, preferred]
  · rename_i placed
    rw [if_neg placed] at previous
    have same : rootSelection window again =
        { rootSelection window hint with
          previousOutputId := selectOutput raw.outputs raw.context.outputId
            (rootSelection window hint) } := by
      simp only [rootSelection, previous, preferred]
    rw [same, selectOutput_again assignable]

end Glasswyrm.Wm
