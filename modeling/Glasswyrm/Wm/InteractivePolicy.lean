import Glasswyrm.Wm.PolicyHash

namespace Glasswyrm.Wm

/-! Interactive move and resize: the pointer displaces a window from where the
interaction began, one geometry request at a time. -/

inductive InteractionKind
  | none
  | move
  | resizeBottomRight
deriving DecidableEq, Repr

inductive InteractionCursor
  | none
  | fleurMove
  | bottomRightResize
deriving DecidableEq, Repr

structure PointerPosition where
  x : Int := 0
  y : Int := 0
deriving DecidableEq, Repr

structure InteractiveGeometry where
  x : Int := 0
  y : Int := 0
  width : Nat := 0
  height : Nat := 0
deriving DecidableEq, Repr

structure InteractionBegin where
  kind : InteractionKind := .none
  target : Nat := 0
  button : Nat := 0
  pointer : PointerPosition := {}
  appliedGeometry : InteractiveGeometry := {}
  managed : Bool := false
  visible : Bool := false
  directRoot : Bool := false
  inputOutput : Bool := false
deriving DecidableEq, Repr

structure InteractionBeginResult where
  accepted : Bool := false
  consumeEvent : Bool := false
  focus : Bool := false
  raise : Bool := false
  cursor : InteractionCursor := .none
deriving DecidableEq, Repr

structure InteractivePolicy where
  bindings : InteractiveBindings := {}
  kind : InteractionKind := .none
  cursor : InteractionCursor := .none
  target : Nat := 0
  button : Nat := 0
  initialPointer : PointerPosition := {}
  latestPointer : PointerPosition := {}
  dispatchedPointer : Option PointerPosition := none
  initialGeometry : InteractiveGeometry := {}
  lastCommitted : InteractiveGeometry := {}
  transactionInFlight : Bool := false
  ending : Bool := false
  cursorPublished : Bool := false
deriving DecidableEq, Repr

def addCoordinate (origin delta : Int) : Int :=
  clamp (origin + delta) (-2147483648) 2147483647

def resizeExtent (origin : Nat) (delta : Int) (minimum : Nat) : Nat :=
  (clamp ((origin : Int) + delta) minimum maximumWindowExtent).toNat

namespace InteractivePolicy

def refusesBegin (policy : InteractivePolicy) (request : InteractionBegin) :
    Bool :=
  policy.kind ≠ .none ||
    (request.kind ≠ .move && request.kind ≠ .resizeBottomRight) ||
    request.target = 0 || request.button = 0 ||
    request.appliedGeometry.width = 0 || request.appliedGeometry.height = 0 ||
    !request.managed || !request.visible || !request.directRoot ||
    !request.inputOutput

def begin (policy : InteractivePolicy) (request : InteractionBegin) :
    InteractionBeginResult × InteractivePolicy :=
  if policy.refusesBegin request then ({}, policy)
  else
    let cursor : InteractionCursor :=
      if request.kind = .move then .fleurMove else .bottomRightResize
    ({ accepted := true
       consumeEvent := policy.bindings.consumeWmBindings
       focus := true
       raise := policy.bindings.raiseOnFocus
       cursor },
      { policy with
        kind := request.kind
        target := request.target
        button := request.button
        initialPointer := request.pointer
        latestPointer := request.pointer
        dispatchedPointer := none
        initialGeometry := request.appliedGeometry
        lastCommitted := request.appliedGeometry
        transactionInFlight := false
        ending := false
        cursorPublished := false
        cursor })

def motion (policy : InteractivePolicy) (pointer : PointerPosition) :
    InteractivePolicy :=
  if policy.kind ≠ .none then { policy with latestPointer := pointer }
  else policy

/-- The initial geometry displaced or resized by the way of the pointer. -/
def displaced (policy : InteractivePolicy) (pointer : PointerPosition) :
    InteractiveGeometry :=
  let deltaX := pointer.x - policy.initialPointer.x
  let deltaY := pointer.y - policy.initialPointer.y
  let geometry := policy.initialGeometry
  if policy.kind = .move then
    { geometry with
      x := addCoordinate geometry.x deltaX
      y := addCoordinate geometry.y deltaY }
  else
    { geometry with
      width := resizeExtent geometry.width deltaX policy.bindings.minimumWidth
      height :=
        resizeExtent geometry.height deltaY policy.bindings.minimumHeight }

def takeGeometryRequest (policy : InteractivePolicy) :
    Option InteractiveGeometry × InteractivePolicy :=
  if policy.kind = .none || policy.transactionInFlight ||
      policy.latestPointer = policy.initialPointer ||
      policy.dispatchedPointer = some policy.latestPointer then
    (none, policy)
  else
    (some (policy.displaced policy.latestPointer),
      { policy with
        dispatchedPointer := some policy.latestPointer
        transactionInFlight := true })

def completeGeometry (policy : InteractivePolicy)
    (applied : InteractiveGeometry) : Bool × InteractivePolicy :=
  if !policy.transactionInFlight || applied.width = 0 ||
      applied.height = 0 then
    (false, policy)
  else
    (true,
      { policy with lastCommitted := applied, transactionInFlight := false })

def release (policy : InteractivePolicy) (button : Nat)
    (pointer : PointerPosition) : Bool × InteractivePolicy :=
  if policy.kind = .none || button ≠ policy.button then (false, policy)
  else (true, { policy with latestPointer := pointer, ending := true })

def confirmCursorPublished (policy : InteractivePolicy) :
    Bool × InteractivePolicy :=
  if policy.kind = .none then (false, policy)
  else (true, { policy with cursorPublished := true })

def finishReady (policy : InteractivePolicy) : Bool :=
  if !policy.ending || policy.transactionInFlight || !policy.cursorPublished
  then false
  else
    policy.latestPointer = policy.initialPointer ||
      policy.dispatchedPointer = some policy.latestPointer

def abort (policy : InteractivePolicy) : Bool × InteractivePolicy :=
  if policy.kind = .none then (false, policy)
  else
    (true,
      { policy with
        kind := .none
        cursor := .none
        target := 0
        button := 0
        dispatchedPointer := none
        transactionInFlight := false
        ending := false
        cursorPublished := false })

def finish (policy : InteractivePolicy) : Bool × InteractivePolicy :=
  if !policy.finishReady then (false, policy) else policy.abort

variable {policy : InteractivePolicy}

theorem finishReady_iff :
    policy.finishReady = true ↔
      (policy.ending = true ∧ policy.transactionInFlight = false ∧
        policy.cursorPublished = true) ∧
      (policy.latestPointer = policy.initialPointer ∨
        policy.dispatchedPointer = some policy.latestPointer) := by
  unfold finishReady
  split
  · rename_i waiting
    simp only [Bool.or_eq_true, Bool.not_eq_true'] at waiting
    constructor
    · exact fun ready => Bool.noConfusion ready
    · rintro ⟨⟨ending, settled, published⟩, _⟩
      simp_all
  · rename_i waiting
    simp only [Bool.or_eq_true, Bool.not_eq_true', not_or, Bool.not_eq_true,
      Bool.not_eq_false] at waiting
    rw [Bool.or_eq_true, decide_eq_true_eq, decide_eq_true_eq]
    exact ⟨fun reached => ⟨⟨waiting.1.1, waiting.1.2, waiting.2⟩, reached⟩,
      And.right⟩

/-- An interaction that finishes was active and ready. -/
theorem finish_true (finished : policy.finish.1 = true) :
    policy.kind ≠ .none ∧ policy.finishReady = true := by
  unfold finish at finished
  split at finished
  · cases finished
  · rename_i ready
    rw [Bool.not_eq_true', Bool.not_eq_false] at ready
    refine ⟨fun none => ?_, ready⟩
    rw [abort, if_pos none] at finished
    cases finished

end InteractivePolicy

end Glasswyrm.Wm
