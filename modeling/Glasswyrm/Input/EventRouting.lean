import Glasswyrm.Input.Ancestry

namespace Glasswyrm.Input

open Library
open Server
open X11 (ScreenModel)

/-! An event about a window goes to the nearest window above it that somebody
has selected it on, unless a window on the way keeps it. -/

variable {table : ResourceTable} {doNotPropagate : Nat → Nat} {xid : Nat}
  {way : List Nat} {deliveryMask : Nat}

/-- What an event is told of a window that it passes. -/
def routeOf (table : ResourceTable) (doNotPropagate : Nat → Nat)
    (xid : Nat) : RouteWindow :=
  match table.findWindow xid with
  | none => { xid, parent := 0 }
  | some window => {
      xid
      parent := window.parent
      doNotPropagate := doNotPropagate xid
      selections := window.eventSelections.toList.map fun entry =>
        { client := entry.1, mask := entry.2 } }

@[simp] theorem routeOf_xid : (routeOf table doNotPropagate xid).xid = xid := by
  unfold routeOf
  cases table.findWindow xid <;> rfl

/-- The clients that have selected some of the events on a window. -/
def selectors (table : ResourceTable) (deliveryMask xid : Nat) : List Nat :=
  (table.findWindow xid).elim [] fun window =>
    ResourceTable.recipients window deliveryMask

/-- Whether a window keeps events from those above it. -/
def keeps (doNotPropagate : Nat → Nat) (deliveryMask xid : Nat) : Bool :=
  (doNotPropagate xid &&& deliveryMask &&& kDoNotPropagate) ≠ 0

/-- The first window of a way that somebody has selected the events on. -/
def nearest (table : ResourceTable) (doNotPropagate : Nat → Nat)
    (deliveryMask : Nat) : List Nat → DeliveryTarget
  | [] => {}
  | xid :: rest =>
      let clients := selectors table deliveryMask xid
      if clients ≠ [] then { eventWindow := xid, clients }
      else if keeps doNotPropagate deliveryMask xid then {}
      else nearest table doNotPropagate deliveryMask rest

end Glasswyrm.Input
