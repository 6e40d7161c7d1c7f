import Glasswyrm.Library.KeyMap
import Glasswyrm.Library.Order
import Glasswyrm.Server.RegionReach

namespace Glasswyrm.Server

open Glasswyrm.Geometry (Rectangle)
open Library
open XFixesRegion

/-! The region resources of the clients. -/

inductive RegionStatus
  | success
  | badIdChoice
  | badRegion
  | badValue
  | badAlloc
deriving DecidableEq, Repr

structure XFixesRegionResource where
  owner : Nat
  rectangles : List Rectangle
deriving DecidableEq, Repr

structure RegionLimits where
  maximumXFixesRegionsPerClient : Nat := 4096
  maximumXFixesRegionRectangles : Nat := kMaximumXFixesRegionRectangles
deriving DecidableEq, Repr

structure RegionStore where
  limits : RegionLimits := {}
  regions : KeyMap XFixesRegionResource := ∅

namespace RegionStore

def findXFixesRegion (store : RegionStore) (xid : Nat) :
    Option (List Rectangle) :=
  store.regions[xid]?.map (·.rectangles)

def ownedRegions (store : RegionStore) (owner : Nat) : Nat :=
  (store.regions.toList.filter fun entry => entry.2.owner = owner).length

def put (store : RegionStore) (xid : Nat) (rectangles : List Rectangle) :
    RegionStore :=
  match store.regions[xid]? with
  | none => store
  | some region =>
      { store with
        regions := store.regions.insert xid { region with rectangles } }

/-- What is computed is put in its place only when it is within the limits.
There is no answer where the computation overflows. -/
def install (store : RegionStore) (refusal : RegionStatus)
    (computed : Except RegionFault (List Rectangle))
    (place : List Rectangle → RegionStore) :
    Option (RegionStatus × RegionStore) :=
  match computed with
  | .error .overflow => none
  | .error .refused => some (refusal, store)
  | .ok rectangles =>
      if store.limits.maximumXFixesRegionRectangles < rectangles.length then
        some (.badAlloc, store)
      else some (.success, place rectangles)

/-- `admitted` is whether the identifier is a free one of the client. -/
def createXFixesRegion (store : RegionStore) (owner : Nat) (admitted : Bool)
    (xid : Nat) (rectangles : List Rectangle) :
    Option (RegionStatus × RegionStore) :=
  if !admitted then some (.badIdChoice, store)
  else if store.limits.maximumXFixesRegionsPerClient ≤
      store.ownedRegions owner then some (.badAlloc, store)
  else if store.limits.maximumXFixesRegionRectangles < rectangles.length then
    some (.badAlloc, store)
  else store.install .badValue (normalizeRegion rectangles) fun rectangles =>
    { store with
      regions := store.regions.insertIfNew xid { owner, rectangles } }

def destroyXFixesRegion (store : RegionStore) (xid : Nat) :
    Option (RegionStatus × RegionStore) :=
  match store.findXFixesRegion xid with
  | none => some (.badRegion, store)
  | some _ =>
      some (.success, { store with regions := store.regions.erase xid })

def setXFixesRegion (store : RegionStore) (xid : Nat)
    (rectangles : List Rectangle) : Option (RegionStatus × RegionStore) :=
  match store.findXFixesRegion xid with
  | none => some (.badRegion, store)
  | some _ =>
      if store.limits.maximumXFixesRegionRectangles < rectangles.length then
        some (.badAlloc, store)
      else store.install .badValue (normalizeRegion rectangles) (store.put xid)

def copyXFixesRegion (store : RegionStore) (source destination : Nat) :
    Option (RegionStatus × RegionStore) :=
  match store.findXFixesRegion source, store.findXFixesRegion destination with
  | some rectangles, some _ =>
      store.install .badAlloc (.ok rectangles) (store.put destination)
  | _, _ => some (.badRegion, store)

/-- The operations that requests number 0, 1 and 2. -/
def combination : Nat → Option (List Rectangle → List Rectangle →
    Except RegionFault (List Rectangle))
  | 0 => some unionRegions
  | 1 => some intersectRegions
  | 2 => some subtractRegions
  | _ => none

def combineXFixesRegions (store : RegionStore)
    (source1 source2 destination operation : Nat) :
    Option (RegionStatus × RegionStore) :=
  match store.findXFixesRegion source1, store.findXFixesRegion source2,
      store.findXFixesRegion destination with
  | some first, some second, some _ =>
      match combination operation with
      | none => some (.badValue, store)
      | some combine =>
          store.install .badAlloc (combine first second)
            (store.put destination)
  | _, _, _ => some (.badRegion, store)

def translateXFixesRegion (store : RegionStore) (xid : Nat) (dx dy : Int) :
    Option (RegionStatus × RegionStore) :=
  match store.findXFixesRegion xid with
  | none => some (.badRegion, store)
  | some rectangles =>
      match translateRegion rectangles dx dy with
      | none => some (.badValue, store)
      | some translated =>
          store.install .badValue (.ok translated) (store.put xid)

def extentsXFixesRegion (store : RegionStore) (source destination : Nat) :
    Option (RegionStatus × RegionStore) :=
  match store.findXFixesRegion source, store.findXFixesRegion destination with
  | some rectangles, some _ =>
      let extents := regionExtents rectangles
      store.install .badAlloc (.ok (if extents.empty then [] else [extents]))
        (store.put destination)
  | _, _ => some (.badRegion, store)

end RegionStore

inductive RegionOperation
  | create (owner : Nat) (admitted : Bool) (xid : Nat)
      (rectangles : List Rectangle)
  | destroy (xid : Nat)
  | set (xid : Nat) (rectangles : List Rectangle)
  | copy (source destination : Nat)
  | combine (source1 source2 destination operation : Nat)
  | translate (xid : Nat) (dx dy : Int)
  | extents (source destination : Nat)

namespace RegionStore

def perform (store : RegionStore) :
    RegionOperation → Option (RegionStatus × RegionStore)
  | .create owner admitted xid rectangles =>
      store.createXFixesRegion owner admitted xid rectangles
  | .destroy xid => store.destroyXFixesRegion xid
  | .set xid rectangles => store.setXFixesRegion xid rectangles
  | .copy source destination => store.copyXFixesRegion source destination
  | .combine source1 source2 destination operation =>
      store.combineXFixesRegions source1 source2 destination operation
  | .translate xid dx dy => store.translateXFixesRegion xid dx dy
  | .extents source destination =>
      store.extentsXFixesRegion source destination

/-! ## What a failing operation leaves -/

variable {store after : RegionStore} {status : RegionStatus}

/-- An answer that leaves the store alone if it is not success. -/
def Harmless (store : RegionStore)
    (answer : Option (RegionStatus × RegionStore)) : Prop :=
  ∀ status after, answer = some (status, after) → status ≠ .success →
    after = store

theorem put_find (store : RegionStore) {xid : Nat} {held : List Rectangle}
    (found : store.findXFixesRegion xid = some held)
    (rectangles : List Rectangle) (other : Nat) :
    (store.put xid rectangles).findXFixesRegion other =
      if xid = other then some rectangles
      else store.findXFixesRegion other := by
  obtain ⟨region, lookup, _⟩ := Option.map_eq_some_iff.mp found
  unfold put findXFixesRegion
  rw [lookup]
  simp only [KeyMap.lookup_insert]
  split
  · rfl
  · rfl

end RegionStore

/-! ## Set algebra -/

namespace XFixesRegion

end XFixesRegion

end Glasswyrm.Server
