import Glasswyrm.Library.Run
import Glasswyrm.Server.PropertyData
import Glasswyrm.Server.WindowDestruction

namespace Glasswyrm.Server

open Library
open X11 (ScreenModel)

/-! The properties of the windows, which are kept beside the table of the
resources under the window's identifier, and the count of their bytes. -/

inductive PropertyMutationStatus where
  | success
  | badWindow
  | badMatch
  | badAlloc
deriving DecidableEq, Repr

inductive PropertyReadStatus where
  | success
  | badWindow
  | badValue
deriving DecidableEq, Repr

structure PropertyReadResult where
  status : PropertyReadStatus := .success
  present : Bool := false
  typeMatched : Bool := false
  deleted : Bool := false
  value : PropertySlice := {}
deriving DecidableEq, Repr

def kMaximumBytesPerProperty : Nat := 4 * 1024 * 1024
def kMaximumTotalPropertyBytes : Nat := 64 * 1024 * 1024
def kMaximumPropertiesPerWindow : Nat := 4096

structure ResourceLimits where
  maximumBytesPerProperty : Nat := kMaximumBytesPerProperty
  maximumTotalPropertyBytes : Nat := kMaximumTotalPropertyBytes
  maximumPropertiesPerWindow : Nat := kMaximumPropertiesPerWindow
deriving DecidableEq, Repr

structure PropertyTable where
  resources : ResourceTable
  properties : KeyMap (KeyMap Property) := ∅
  totalPropertyBytes : Nat := 0
  limits : ResourceLimits := {}

def windowPropertyBytes (properties : KeyMap Property) : Nat :=
  KeyMap.total Property.byteSize properties

namespace PropertyTable

def initial (screen : ScreenModel) : PropertyTable :=
  { resources := ResourceTable.initial screen }

def windowProperties (table : PropertyTable) (window : Nat) :
    KeyMap Property :=
  table.properties[window]?.getD ∅

/-- The bytes of all the properties of all the windows. -/
def storedBytes (table : PropertyTable) : Nat :=
  KeyMap.total windowPropertyBytes table.properties

/-! ## Changes -/

/-- A value with the one that it is added to. -/
def replacementFor (current : Option Property) (value : Property) :
    PropertyMode → Property
  | .replace => value
  | .append =>
      match current with
      | some current =>
          { value with
            data := concatenatePropertyData current.data value.data }
      | none => value
  | .prepend =>
      match current with
      | some current =>
          { value with
            data := concatenatePropertyData value.data current.data }
      | none => value

/-- No difference is below zero: what was stored is counted and the count is
within its limit. -/
def changeProperty (table : PropertyTable) (window atom : Nat)
    (value : Property) (mode : PropertyMode) :
    PropertyMutationStatus × PropertyTable :=
  match table.resources.findWindow window with
  | none => (.badWindow, table)
  | some _ =>
      let properties := table.windowProperties window
      let current := properties[atom]?
      if mode ≠ .replace && current.any (fun current =>
          current.type ≠ value.type || current.format ≠ value.format) then
        (.badMatch, table)
      else
        let replacement := replacementFor current value mode
        let oldSize := (current.map Property.byteSize).getD 0
        let newSize := replacement.byteSize
        if table.limits.maximumBytesPerProperty < newSize ||
            (current.isNone &&
              table.limits.maximumPropertiesPerWindow ≤ properties.size) ||
            table.limits.maximumTotalPropertyBytes -
              (table.totalPropertyBytes - oldSize) < newSize then
          (.badAlloc, table)
        else
          (.success, { table with
            properties := table.properties.insert window
              (properties.insert atom replacement)
            totalPropertyBytes :=
              table.totalPropertyBytes - oldSize + newSize })

def withoutProperty (table : PropertyTable) (window atom : Nat)
    (property : Property) : PropertyTable :=
  { table with
    properties := table.properties.insert window
      ((table.windowProperties window).erase atom)
    totalPropertyBytes := table.totalPropertyBytes - property.byteSize }

def deleteProperty (table : PropertyTable) (window atom : Nat) :
    Bool × PropertyTable :=
  match table.resources.findWindow window with
  | none => (false, table)
  | some _ =>
      match (table.windowProperties window)[atom]? with
      | none => (true, table)
      | some property => (true, table.withoutProperty window atom property)

/-! ## Reading -/

def getProperty (table : PropertyTable) (window atom requestedType : Nat)
    (deleteAfterRead : Bool) (longOffset longLength : Nat) :
    PropertyReadResult × PropertyTable :=
  match table.resources.findWindow window with
  | none => ({ status := .badWindow }, table)
  | some _ =>
      match (table.windowProperties window)[atom]? with
      | none => ({}, table)
      | some property =>
          let byteSize := property.byteSize
          let offset := longOffset * 4
          if byteSize < offset then ({ status := .badValue }, table)
          else
            let value : PropertySlice :=
              { type := property.type, format := property.format }
            if requestedType ≠ 0 && requestedType ≠ property.type then
              ({ present := true
                 value :=
                  { value with bytesAfter := byteSize % 2 ^ 32 } }, table)
            else
              let available := byteSize - offset
              let returned := min available (longLength * 4)
              let bytesAfter := (available - returned) % 2 ^ 32
              let data := slicePropertyData property.data offset returned
              let result : PropertyReadResult :=
                { present := true
                  typeMatched := true
                  value := { value with bytesAfter, data } }
              if deleteAfterRead && bytesAfter = 0 then
                ({ result with deleted := true },
                  table.withoutProperty window atom property)
              else (result, table)

/-! ## Windows -/

/-- A new window has no properties. -/
def createWindow (table : PropertyTable)
    (owner resourceBase resourceMask : Nat) (spec : WindowCreateSpec) :
    CreateWindowStatus × PropertyTable :=
  let (status, resources) :=
    table.resources.createWindow owner resourceBase resourceMask spec
  if status = .success then
    (status, { table with
      resources
      properties := table.properties.erase spec.xid })
  else (status, { table with resources })

def createServerProxyWindow (table : PropertyTable) (xid : Nat) :
    Bool × PropertyTable :=
  let (created, resources) := table.resources.createServerProxyWindow xid
  if created then
    (created, { table with
      resources
      properties := table.properties.erase xid })
  else (created, { table with resources })

def destroyLeaf (table : PropertyTable) (xid : Nat) : PropertyTable :=
  match table.resources.findWindow xid with
  | none => table
  | some _ =>
      if xid = table.resources.screen.rootWindow then table
      else
        { table with
          resources := table.resources.destroyLeaf xid
          properties := table.properties.erase xid
          totalPropertyBytes := table.totalPropertyBytes -
            windowPropertyBytes (table.windowProperties xid) }

def commitDestroyPlan (table : PropertyTable) (plan : WindowDestroyPlan) :
    DestroyWindowStatus × PropertyTable :=
  match table.resources.captureDestroyPlan plan.root with
  | none => (.badWindow, table)
  | some current =>
      if (current.postorder.map fun entry => (entry.xid, entry.parent)) ≠
          plan.postorder.map fun entry => (entry.xid, entry.parent) then
        (.badWindow, table)
      else
        (.success, plan.postorder.foldl
          (fun table entry => table.destroyLeaf entry.xid) table)

def destroyWindow (table : PropertyTable) (xid : Nat) :
    DestroyWindowStatus × PropertyTable :=
  if xid = table.resources.screen.rootWindow then (.rootPreserved, table)
  else
    match table.resources.captureDestroyPlan xid with
    | none => (.badWindow, table)
    | some plan => table.commitDestroyPlan plan

def destroyRoot (table : PropertyTable) (root : Nat) : PropertyTable :=
  match table.resources.captureDestroyPlan root with
  | some destroy => (table.commitDestroyPlan destroy).2
  | none => table

def freeOwned (table : PropertyTable) (xid : Nat) : PropertyTable :=
  { table with resources := table.resources.freeOwned xid }

def commitClientCleanup (table : PropertyTable) (plan : ClientCleanupPlan) :
    PropertyTable :=
  let destroyed := plan.roots.foldl destroyRoot table
  let remaining := destroyed.resources.resourcesByOwner[plan.owner]?.getD []
  remaining.foldl freeOwned destroyed

/-! ## What a change stores -/

theorem windowProperties_insert {table : PropertyTable} {window other : Nat}
    {properties : KeyMap Property} {total : Nat} :
    windowProperties { table with
        properties := table.properties.insert window properties
        totalPropertyBytes := total } other =
      if window = other then properties else table.windowProperties other := by
  unfold windowProperties
  dsimp only
  rw [KeyMap.lookup_insert]
  split
  · rfl
  · rfl

/-- A change that succeeds stores its replacement and nothing else, and one
that does not leaves the table. -/
theorem changeProperty_stores (table : PropertyTable) (window atom : Nat)
    (value : Property) (mode : PropertyMode) :
    let answer := table.changeProperty window atom value mode
    if answer.1 = .success then
      ∀ other key, (answer.2.windowProperties other)[key]? =
        if window = other ∧ atom = key then
          some (replacementFor (table.windowProperties window)[atom]? value
            mode)
        else (table.windowProperties other)[key]?
    else answer.2 = table := by
  dsimp only
  unfold changeProperty
  cases table.resources.findWindow window with
  | none => rfl
  | some _ =>
      dsimp only
      split
      · rfl
      split
      · rfl
      rw [if_pos rfl]
      intro other key
      rw [windowProperties_insert]
      by_cases here : window = other
      · subst here
        rw [if_pos rfl, KeyMap.lookup_insert]
        by_cases same : atom = key
        · rw [if_pos same, if_pos ⟨rfl, same⟩]
        · rw [if_neg same, if_neg fun both => same both.2]
      · rw [if_neg here, if_neg fun both => here both.1]

end PropertyTable

end Glasswyrm.Server
