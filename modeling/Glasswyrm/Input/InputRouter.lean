import Glasswyrm.Server.ServerStateRun

namespace Glasswyrm.Input

open Library
open Server

/-! Which window the pointer is over, and where events about it go.  Every
search through the tree is cut off after as many rounds as there are windows. -/

/-! ## The window under the pointer -/

def topLevelHit (table : ResourceTable) (x y : Int) (child : Nat) : Bool :=
  (table.findWindow child).any fun window =>
    window.parent = table.screen.rootWindow &&
      window.windowClass = .inputOutput && window.mapState = .viewable &&
      window.policyVisible && !window.cleanupPending &&
      window.x ≤ x && window.y ≤ y &&
      x < window.x + window.width && y < window.y + window.height

/-- The children of the root from the top one down. -/
def hitTestTopLevel (table : ResourceTable) (x y : Int) : Nat :=
  let root := table.screen.rootWindow
  match table.findWindow root with
  | none => root
  | some rootWindow =>
      (rootWindow.children.reverse.find? (topLevelHit table x y)).getD root

/-- The place inside the border of a child that the point is on or in. -/
def childHit (table : ResourceTable) (originX originY x y : Int)
    (child : Nat) : Option (Nat × Int × Int) := do
  let window ← table.findWindow child
  if window.mapState ≠ .viewable || window.cleanupPending then none
  else
    let outerX := originX + window.x
    let outerY := originY + window.y
    let border : Int := window.borderWidth
    let right := outerX + window.width + border * 2
    let bottom := outerY + window.height + border * 2
    if outerX ≤ x && outerY ≤ y && x < right && y < bottom then
      some (child, outerX + border, outerY + border)
    else none

def hitTestFrom (table : ResourceTable) (x y : Int) :
    Nat → Nat → Int → Int → Nat
  | 0, current, _, _ => current
  | rounds + 1, current, originX, originY =>
      match table.findWindow current with
      | none => table.screen.rootWindow
      | some parent =>
          match parent.children.reverse.findSome?
              (childHit table originX originY x y) with
          | none => current
          | some (selected, selectedX, selectedY) =>
              if selected = 0 then current
              else hitTestFrom table x y rounds selected selectedX selectedY

def hitTestDeepestViewable (table : ResourceTable) (x y : Int) : Nat :=
  let root := table.screen.rootWindow
  let current := hitTestTopLevel table x y
  if current = root then root
  else
    match table.findWindow current with
    | none => root
    | some window =>
        hitTestFrom table x y table.resourceCount current window.x window.y

/-! ## The way up -/

def managedTopLevelAncestorFrom (table : ResourceTable) : Nat → Nat → Nat
  | 0, _ => table.screen.rootWindow
  | rounds + 1, current =>
      let root := table.screen.rootWindow
      match table.findWindow current with
      | none => root
      | some candidate =>
          if candidate.parent = root then
            if table.isPolicyCandidate current then current else root
          else if candidate.parent = 0 || candidate.parent = current then root
          else managedTopLevelAncestorFrom table rounds candidate.parent

def managedTopLevelAncestor (table : ResourceTable) (window : Nat) : Nat :=
  managedTopLevelAncestorFrom table table.resourceCount window

def windowAncestryFrom (table : ResourceTable) :
    Nat → Nat → List Nat → List Nat
  | 0, _, _ => []
  | rounds + 1, current, result =>
      match table.findWindow current with
      | none => []
      | some candidate =>
          let result := result ++ [current]
          if current = table.screen.rootWindow then result
          else if candidate.parent = 0 || candidate.parent = current then []
          else windowAncestryFrom table rounds candidate.parent result

def windowAncestry (table : ResourceTable) (window : Nat) : List Nat :=
  windowAncestryFrom table table.resourceCount window []

def windowRootOriginFrom (table : ResourceTable) :
    Nat → Nat → Int → Int → Option (Int × Int)
  | 0, _, _, _ => none
  | rounds + 1, current, x, y =>
      let root := table.screen.rootWindow
      match table.findWindow current with
      | none => none
      | some candidate =>
          if candidate.parent = 0 || candidate.parent = current then none
          else
            let border : Int :=
              if candidate.parent ≠ root then candidate.borderWidth else 0
            let x := x + candidate.x + border
            let y := y + candidate.y + border
            if candidate.parent = root then some (x, y)
            else windowRootOriginFrom table rounds candidate.parent x y

def windowRootOrigin (table : ResourceTable) (window : Nat) :
    Option (Int × Int) :=
  if window = table.screen.rootWindow then some (0, 0)
  else windowRootOriginFrom table table.resourceCount window 0 0

def immediateChildFrom (table : ResourceTable) (ancestor : Nat) :
    Nat → Nat → Nat
  | 0, _ => 0
  | rounds + 1, current =>
      match table.findWindow current with
      | none => 0
      | some candidate =>
          if candidate.parent = 0 || candidate.parent = current then 0
          else if candidate.parent = ancestor then current
          else immediateChildFrom table ancestor rounds candidate.parent

def immediateChildOnPath (table : ResourceTable)
    (ancestor descendant : Nat) : Nat :=
  if ancestor = descendant then 0
  else immediateChildFrom table ancestor table.resourceCount descendant

/-! ## Crossings -/

inductive NotifyDetail
  | ancestor
  | inferior
  | nonlinear
deriving DecidableEq, Repr

def isAncestorFrom (table : ResourceTable) (ancestor : Nat) :
    Nat → Nat → Bool
  | 0, _ => false
  | rounds + 1, descendant =>
      if descendant = ancestor then true
      else
        match table.findWindow descendant with
        | none => false
        | some candidate =>
            if candidate.parent = 0 || candidate.parent = descendant then false
            else isAncestorFrom table ancestor rounds candidate.parent

def isAncestor (table : ResourceTable) (ancestor descendant : Nat) : Bool :=
  isAncestorFrom table ancestor table.resourceCount descendant

/-- The details of the window that is left and of the one that is entered,
found in the tree. -/
def crossingDetails (table : ResourceTable) (oldTarget newTarget : Nat) :
    NotifyDetail × NotifyDetail :=
  if isAncestor table oldTarget newTarget then (.inferior, .ancestor)
  else if isAncestor table newTarget oldTarget then (.ancestor, .inferior)
  else (.nonlinear, .nonlinear)

/-- The same, found in ancestries that were taken before. -/
def ancestryCrossingDetails (oldAncestry newAncestry : List Nat) :
    NotifyDetail × NotifyDetail :=
  match oldAncestry, newAncestry with
  | oldTarget :: _, newTarget :: _ =>
      if newAncestry.contains oldTarget then (.inferior, .ancestor)
      else if oldAncestry.contains newTarget then (.ancestor, .inferior)
      else (.nonlinear, .nonlinear)
  | _, _ => (.nonlinear, .nonlinear)

/-! ## Coordinates -/

def kDoNotPropagate : Nat := 2 ^ 0 ||| 2 ^ 1 ||| 2 ^ 2 ||| 2 ^ 3 ||| 2 ^ 6 |||
  2 ^ 13

structure RecipientSelection where
  client : Nat
  mask : Nat
  live : Bool := true
deriving DecidableEq, Repr

structure RouteWindow where
  xid : Nat
  parent : Nat
  doNotPropagate : Nat := 0
  selections : List RecipientSelection := []
deriving DecidableEq, Repr

structure DeliveryTarget where
  eventWindow : Nat := 0
  clients : List Nat := []
deriving DecidableEq, Repr

/-- The clients that have selected some of the events. -/
def RouteWindow.recipients (window : RouteWindow) (deliveryMask : Nat) :
    List Nat :=
  (window.selections.filter fun selection =>
    selection.live && (selection.mask &&& deliveryMask) ≠ 0).map (·.client)

end Glasswyrm.Input
