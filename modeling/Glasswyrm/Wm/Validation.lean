import Glasswyrm.Wm.Types

namespace Glasswyrm.Wm

open Lifecycle Output

def int32Maximum : Int := 2147483647

def extentFits (origin : Int) (extent : Nat) : Bool :=
  extent ≠ 0 && origin + extent - 1 ≤ int32Maximum

def validRectangle (rectangle : Rectangle) : Bool :=
  rectangle.x ≥ 0 && rectangle.y ≥ 0 && rectangle.width ≠ 0 &&
    rectangle.height ≠ 0 && rectangle.width ≤ maximumWorkExtent &&
    rectangle.height ≤ maximumWorkExtent &&
    extentFits rectangle.x rectangle.width &&
    extentFits rectangle.y rectangle.height

def contains (outer inner : Rectangle) : Bool :=
  inner.x ≥ outer.x && inner.y ≥ outer.y &&
    inner.x + inner.width ≤ outer.x + outer.width &&
    inner.y + inner.height ≤ outer.y + outer.height

def overlaps (left right : Rectangle) : Bool :=
  left.x < right.x + right.width && right.x < left.x + left.width &&
    left.y < right.y + right.height && right.y < left.y + left.height

def validScale (output : OutputContext) : Bool :=
  output.scaleNumerator ≠ 0 && output.scaleDenominator ≠ 0 &&
    output.scaleDenominator ≤ 120 &&
    Nat.gcd output.scaleNumerator output.scaleDenominator = 1 &&
    output.scaleNumerator ≥ output.scaleDenominator &&
    output.scaleNumerator ≤ 4 * output.scaleDenominator

/-- One round of the loop over the outputs: whether the record is refused. -/
def refusesOutput (id : Nat) (output : OutputContext) : Bool :=
  id = 0 || id ≠ output.outputId || output.flags ≠ 0 ||
    !validScale output || (output.primary && !output.enabled) ||
    (if output.enabled then
      !validRectangle output.logical || !validRectangle output.work ||
        !contains output.logical output.work
    else
      output.logical ≠ {} || output.work ≠ {})

def enabledOutputs (raw : RawState) : List OutputContext :=
  raw.outputs.toList.filterMap fun (_, output) =>
    if output.enabled then some output else none

def overlapping : List OutputContext → Bool
  | [] => false
  | left :: rest =>
      rest.any (fun right => overlaps left.logical right.logical) ||
        overlapping rest

def maximumExtent (edge : OutputContext → Int)
    (outputs : List OutputContext) : Int :=
  outputs.foldl (fun maximum output => max maximum (edge output)) 0

def validateOutputs (raw : RawState) : EvaluationError :=
  let enabled := enabledOutputs raw
  if raw.outputs.size > maximumOutputs then .limit
  else if raw.outputs.toList.any fun (id, output) => refusesOutput id output
  then .invalidContext
  else if overlapping enabled then .invalidContext
  else if enabled.isEmpty || (enabled.filter (·.primary)).length ≠ 1 ||
      !(raw.outputs[raw.context.outputId]?.any (·.primary)) ||
      raw.context.workX ≠ 0 || raw.context.workY ≠ 0 ||
      (raw.context.workWidth : Int) ≠ maximumExtent
        (fun output => output.logical.x + output.logical.width) enabled ||
      (raw.context.workHeight : Int) ≠ maximumExtent
        (fun output => output.logical.y + output.logical.height) enabled
  then .invalidContext
  else .none

def validateHints (raw : RawState) : EvaluationError :=
  if raw.outputHints.size > raw.windows.size then .limit
  else if raw.outputHints.toList.any fun (id, hint) =>
      id = 0 || id ≠ hint.windowId || hint.flags ≠ 0 ||
        !raw.windows.contains id
  then .invalidWindow
  else .none

/-- The checks of `validate_window` on the record alone. -/
def refusesWindow (context : Context) (window : RawWindow) : Bool :=
  window.windowId = 0 || window.windowId = context.rootWindowId ||
    window.parentWindowId ≠ context.rootWindowId ||
    window.creationSerial = 0 || window.requestedWidth = 0 ||
    window.requestedHeight = 0 ||
    window.requestedWidth > maximumWindowExtent ||
    window.requestedHeight > maximumWindowExtent ||
    window.borderWidth > maximumBorderWidth ||
    window.flags ||| knownWindowFlags ≠ knownWindowFlags ||
    (window.stackSerial = 0 &&
      (window.stackSibling ≠ 0 || window.stackMode ≠ .none)) ||
    (window.stackSerial ≠ 0 && window.stackMode = .none) ||
    window.stackSibling = window.windowId ||
    (window.wantsMap && window.mapSerial = 0) ||
    !extentFits window.requestedX window.requestedWidth ||
    !extentFits window.requestedY window.requestedHeight

/-- The transient parent is unknown, or is an override-redirect window. -/
def lacksParent (windows : KeyMap RawWindow) (window : RawWindow) : Bool :=
  window.transientFor ≠ 0 &&
    !(windows[window.transientFor]?.any (!·.overrideRedirect))

/-- The checks of `validate_window` on a restack request. -/
def validateStacking (windows : KeyMap RawWindow) (window : RawWindow) :
    EvaluationError :=
  if window.stackSerial = 0 then .none
  else if window.transientFor ≠ 0 then .unsupportedMetadata
  else if window.stackSibling = 0 then .none
  else
    match windows[window.stackSibling]? with
    | none => .unknownReference
    | some sibling =>
        if sibling.transientFor ≠ 0 ||
            sibling.overrideRedirect ≠ window.overrideRedirect
        then .unsupportedMetadata
        else .none

/-- The checks of `validate_window` on the windows it refers to. -/
def validateReferences (windows : KeyMap RawWindow) (window : RawWindow) :
    EvaluationError :=
  if window.transientFor = window.windowId then .invalidWindow
  else if lacksParent windows window then .unknownReference
  else validateStacking windows window

def validateWindow (raw : RawState) (window : RawWindow)
    (creationSerials : List Nat) : EvaluationError :=
  if refusesWindow raw.context window ||
      creationSerials.contains window.creationSerial then .invalidWindow
  else if window.workspaceId ≠ 0 &&
      window.workspaceId ≠ raw.context.workspaceId then .unsupportedMetadata
  else validateReferences raw.windows window

/-- The loop over the windows; the set of creation serials is carried. -/
def validateWindows (raw : RawState) :
    List Nat → List (Nat × RawWindow) → EvaluationError
  | _, [] => .none
  | creationSerials, (id, window) :: rest =>
      if id ≠ window.windowId then .invalidWindow
      else
        (validateWindow raw window creationSerials).andThen
          (validateWindows raw (window.creationSerial :: creationSerials) rest)

/-- The walk along the transient parents.  A walk over known windows repeats
one of them after as many steps as there are windows, so `maximumWindows + 2`
rounds are enough for every state that passed the limit check. -/
def transientCycle (windows : KeyMap RawWindow) :
    Nat → List Nat → Nat → Bool
  | 0, _, _ => true
  | fuel + 1, visited, current =>
      if current = 0 then false
      else if visited.contains current then true
      else
        match windows[current]? with
        | none => false
        | some window =>
            transientCycle windows fuel (current :: visited)
              window.transientFor

/-- The checks of the context record. -/
def refusesContext (raw : RawState) : Bool :=
  let context := raw.context
  let maximumExtent :=
    if raw.outputs.isEmpty then maximumWorkExtent else maximumRootExtent
  context.rootWindowId = 0 || context.workspaceId = 0 ||
    context.outputId = 0 || context.flags ≠ 0 || context.workWidth = 0 ||
    context.workHeight = 0 || context.workWidth > maximumExtent ||
    context.workHeight > maximumExtent ||
    !extentFits context.workX context.workWidth ||
    !extentFits context.workY context.workHeight

/-- The outputs with their hints when the multi-output profile is in use. -/
def validateProfile (raw : RawState) : EvaluationError :=
  if !raw.outputs.isEmpty then
    (validateOutputs raw).andThen (validateHints raw)
  else if !raw.outputHints.isEmpty then .unsupportedMetadata
  else .none

def validate (raw : RawState) : EvaluationError :=
  if !raw.complete || !raw.hasContext then .incompleteSnapshot
  else if refusesContext raw then .invalidContext
  else
    (validateProfile raw).andThen
      (if raw.windows.size > maximumWindows then .limit
      else
        (validateWindows raw [] raw.windows.toList).andThen
          (if raw.windows.keys.any
              (transientCycle raw.windows (maximumWindows + 2) [])
          then .invalidWindow
          else .none))

/-- Dropping windows from the map only shortens the walks. -/
theorem transientCycle_of_submap {windows fewer : KeyMap RawWindow}
    (submap : ∀ (id : Nat) (window : RawWindow), fewer[id]? = some window →
      windows[id]? = some window) {fuel : Nat} {visited : List Nat}
    {current : Nat}
    (acyclic : transientCycle windows fuel visited current = false) :
    transientCycle fewer fuel visited current = false := by
  induction fuel generalizing visited current with
  | zero => simp [transientCycle] at acyclic
  | succ fuel ih =>
      simp only [transientCycle] at acyclic ⊢
      split
      · rfl
      · rename_i nonzero
        rw [if_neg nonzero] at acyclic
        split
        · rename_i repeated
          rw [if_pos repeated] at acyclic
          simp at acyclic
        · rename_i unvisited
          rw [if_neg unvisited] at acyclic
          cases found : fewer[current]? with
          | none => rfl
          | some window =>
              rw [submap current window found] at acyclic
              exact ih acyclic

/-! What acceptance means, one condition for each stage. -/

/-- What `validate_window` asks of one entry apart from fresh serials. -/
structure AdmissibleWindow (raw : RawState) (id : Nat) (window : RawWindow) :
    Prop where
  key : id = window.windowId
  record : refusesWindow raw.context window = false
  workspace : window.workspaceId = 0 ∨
    window.workspaceId = raw.context.workspaceId
  references : validateReferences raw.windows window = .none

structure Valid (raw : RawState) : Prop where
  complete : raw.complete = true
  hasContext : raw.hasContext = true
  context : refusesContext raw = false
  profile : validateProfile raw = .none
  size : raw.windows.size ≤ maximumWindows
  windows : ∀ (id : Nat) (window : RawWindow),
    raw.windows[id]? = some window → AdmissibleWindow raw id window
  serials : ∀ (left right : Nat) (first second : RawWindow),
    raw.windows[left]? = some first → raw.windows[right]? = some second →
      left ≠ right → first.creationSerial ≠ second.creationSerial
  acyclic : ∀ id ∈ raw.windows,
    transientCycle raw.windows (maximumWindows + 2) [] id = false

theorem validateWindow_none_iff {raw : RawState} {window : RawWindow}
    {creationSerials : List Nat} :
    validateWindow raw window creationSerials = .none ↔
      refusesWindow raw.context window = false ∧
        window.creationSerial ∉ creationSerials ∧
        (window.workspaceId = 0 ∨
          window.workspaceId = raw.context.workspaceId) ∧
        validateReferences raw.windows window = .none := by
  unfold validateWindow
  split
  · rename_i refused
    simp only [Bool.or_eq_true, List.contains_eq_mem, decide_eq_true_eq]
      at refused
    simp only [reduceCtorEq, false_iff, not_and]
    rintro accepted fresh
    rcases refused with refused | repeated
    · simp [accepted] at refused
    · exact absurd repeated fresh
  · rename_i passed
    simp only [Bool.or_eq_true, List.contains_eq_mem, decide_eq_true_eq,
      not_or, Bool.not_eq_true] at passed
    split
    · rename_i foreign
      simp only [reduceCtorEq, false_iff]
      rintro ⟨_, _, known, _⟩
      rcases known with known | known <;> simp [known] at foreign
    · rename_i known
      have knownWorkspace : window.workspaceId = 0 ∨
          window.workspaceId = raw.context.workspaceId := by
        by_cases zero : window.workspaceId = 0
        · exact .inl zero
        · simpa [zero] using known
      exact ⟨fun references => ⟨passed.1, passed.2, knownWorkspace, references⟩,
        fun checks => checks.2.2.2⟩

theorem validateWindows_none_iff {raw : RawState}
    {entries : List (Nat × RawWindow)} {creationSerials : List Nat} :
    validateWindows raw creationSerials entries = .none ↔
      (∀ entry ∈ entries, AdmissibleWindow raw entry.1 entry.2) ∧
      (∀ entry ∈ entries, entry.2.creationSerial ∉ creationSerials) ∧
      entries.Pairwise fun left right =>
        left.2.creationSerial ≠ right.2.creationSerial := by
  induction entries generalizing creationSerials with
  | nil => simp [validateWindows]
  | cons head rest ih =>
      obtain ⟨id, window⟩ := head
      have admissible_iff : AdmissibleWindow raw id window ∧
          window.creationSerial ∉ creationSerials ↔
            id = window.windowId ∧
              validateWindow raw window creationSerials = .none := by
        rw [validateWindow_none_iff]
        constructor
        · rintro ⟨⟨key, record, workspace, references⟩, fresh⟩
          exact ⟨key, record, fresh, workspace, references⟩
        · rintro ⟨key, record, fresh, workspace, references⟩
          exact ⟨⟨key, record, workspace, references⟩, fresh⟩
      have unfolded : validateWindows raw creationSerials
          ((id, window) :: rest) = .none ↔
            (id = window.windowId ∧
              validateWindow raw window creationSerials = .none) ∧
            validateWindows raw (window.creationSerial :: creationSerials)
              rest = .none := by
        rw [validateWindows]
        by_cases key : id = window.windowId
        · simp only [key, ne_eq, not_true_eq_false, if_false, true_and,
            EvaluationError.andThen_none_iff]
        · simp [key]
      rw [unfolded, ← admissible_iff, ih]
      simp only [List.mem_cons, List.pairwise_cons, not_or, forall_eq_or_imp]
      constructor
      · rintro ⟨⟨admissible, fresh⟩, later, serials, distinct⟩
        exact ⟨⟨admissible, later⟩,
          ⟨fresh, fun entry member => (serials entry member).2⟩,
          ⟨fun entry member => Ne.symm (serials entry member).1, distinct⟩⟩
      · rintro ⟨⟨admissible, later⟩, ⟨fresh, serials⟩, different, distinct⟩
        exact ⟨⟨admissible, fresh⟩, later,
          fun entry member =>
            ⟨Ne.symm (different entry member), serials entry member⟩,
          distinct⟩

theorem validate_none_iff {raw : RawState} :
    validate raw = .none ↔ Valid raw := by
  have loop : validateWindows raw [] raw.windows.toList = .none ↔
      (∀ (id : Nat) (window : RawWindow), raw.windows[id]? = some window →
        AdmissibleWindow raw id window) ∧
      (∀ (left right : Nat) (first second : RawWindow),
        raw.windows[left]? = some first → raw.windows[right]? = some second →
          left ≠ right → first.creationSerial ≠ second.creationSerial) := by
    have symmetric : ∀ left right : RawWindow,
        left.creationSerial ≠ right.creationSerial →
          right.creationSerial ≠ left.creationSerial :=
      fun _ _ different => different.symm
    have serials := KeyMap.pairwise_toList_iff raw.windows symmetric
    rw [validateWindows_none_iff, serials]
    simp only [Prod.forall, KeyMap.mem_toList, List.not_mem_nil,
      not_false_eq_true, implies_true, true_and]
  have walks : raw.windows.keys.any
      (transientCycle raw.windows (maximumWindows + 2) []) = false ↔
      ∀ id ∈ raw.windows,
        transientCycle raw.windows (maximumWindows + 2) [] id = false := by
    simp only [List.any_eq_false, Std.ExtTreeMap.mem_keys, Bool.not_eq_true]
  constructor
  · intro accepted
    unfold validate at accepted
    split at accepted
    · simp at accepted
    · rename_i complete
      simp only [Bool.or_eq_true, Bool.not_eq_true', not_or,
        Bool.not_eq_false] at complete
      split at accepted
      · simp at accepted
      · rename_i context
        obtain ⟨profile, accepted⟩ :=
          EvaluationError.andThen_none_iff.mp accepted
        split at accepted
        · simp at accepted
        · rename_i size
          obtain ⟨windows, accepted⟩ :=
            EvaluationError.andThen_none_iff.mp accepted
          split at accepted
          · simp at accepted
          · rename_i acyclic
            exact ⟨complete.1, complete.2, by simpa using context, profile,
              by simpa using size, (loop.mp windows).1, (loop.mp windows).2,
              walks.mp (by simpa using acyclic)⟩
  · intro valid
    have small : ¬ raw.windows.size > maximumWindows :=
      Nat.not_lt.mpr valid.size
    unfold validate
    simp only [valid.complete, valid.hasContext, valid.context,
      valid.profile, loop.mpr ⟨valid.windows, valid.serials⟩,
      walks.mpr valid.acyclic, small, Bool.not_true, Bool.or_self,
      Bool.false_eq_true, if_false, EvaluationError.andThen]

end Glasswyrm.Wm
