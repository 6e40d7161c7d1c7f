import Glasswyrm.Server.OutputConfiguration

namespace Glasswyrm.Server

open Output Compositor

/-! The outputs as RandR clients see them: every output, CRTC and mode has an
identifier of its own, which it keeps. -/

def kRandROutputId : Nat := 256
def xidMaximum : Nat := 4294967295

structure ObjectIds where
  output : Nat
  crtc : Nat
deriving DecidableEq, Repr

structure RandRModeObject where
  internalId : Nat
  xid : Nat
  width : Nat
  height : Nat
  refreshMillihertz : Nat
  flags : Nat
  name : List UInt8
  preferred : Bool
  current : Bool
deriving DecidableEq

structure RandROutputObject where
  internalId : Nat
  xid : Nat
  crtcXid : Nat
  name : List UInt8
  connected : Bool
  enabled : Bool
  primary : Bool
  physicalWidthMm : Nat
  physicalHeightMm : Nat
  logicalX : Int
  logicalY : Int
  logicalWidth : Nat
  logicalHeight : Nat
  physicalWidth : Nat
  physicalHeight : Nat
  scale : RationalScale
  transform : OutputTransform
  modes : List RandRModeObject
deriving DecidableEq

structure XidTable where
  outputXids : KeyMap ObjectIds := ∅
  modeXids : KeyMap Nat := ∅
  nextXid : Nat := kRandROutputId
deriving DecidableEq

structure RandRState where
  layout : Option OutputLayout := none
  outputs : List RandROutputObject := []
  xids : XidTable := {}
deriving DecidableEq

/-! ## The inventory -/

/-- Which mode is preferred or current is no part of a mode's identity. -/
def sameMode (first second : OutputMode) : Bool :=
  first.id = second.id && first.outputId = second.outputId &&
    first.physicalWidth = second.physicalWidth &&
    first.physicalHeight = second.physicalHeight &&
    first.refreshMillihertz = second.refreshMillihertz &&
    first.flags = second.flags && first.name = second.name

def sameModes : List OutputMode → List OutputMode → Bool
  | [], [] => true
  | first :: left, second :: right => sameMode first second && sameModes left right
  | _, _ => false

def sameInventoryIdentity (left right : OutputLayout) : Bool :=
  left.descriptors.size = right.descriptors.size &&
    left.descriptors.toList.all fun entry =>
      right.descriptors[entry.1]?.any fun found =>
        found.name = entry.2.name && found.kind = entry.2.kind &&
          sameModes entry.2.modes found.modes

/-! ## Identifiers -/

namespace XidTable

/-- The identifiers end before the last 32-bit number. -/
def allocate (table : XidTable) : Option (Nat × XidTable) :=
  if table.nextXid = 0 || table.nextXid = xidMaximum then none
  else some (table.nextXid, { table with nextXid := table.nextXid + 1 })

def allocateMode (table : XidTable) (modeId : Nat) : Option XidTable :=
  if table.modeXids.contains modeId then some table
  else do
    let (xid, next) ← table.allocate
    return { next with modeXids := next.modeXids.insert modeId xid }

def allocateOutput (table : XidTable) (id : Nat) : Option XidTable :=
  if table.outputXids.contains id then some table
  else do
    let (output, next) ← table.allocate
    let (crtc, next) ← next.allocate
    return { next with
      outputXids := next.outputXids.insert id { output, crtc } }

/-- The modes of an output, and the current one where it is not listed. -/
def allocateDescriptor (layout : OutputLayout) (table : XidTable)
    (entry : Nat × OutputDescriptor) : Option XidTable := do
  let table ← table.allocateOutput entry.1
  let table ← entry.2.modes.foldlM
    (fun table mode => table.allocateMode mode.id) table
  let state := layout.states[entry.1]?.getD {}
  if state.enabled then table.allocateMode state.modeId else some table

def allocateLayout (table : XidTable) (layout : OutputLayout) :
    Option XidTable :=
  layout.descriptors.toList.foldlM (allocateDescriptor layout) table

end XidTable

/-! ## Objects -/

def RandRModeObject.listed (table : XidTable) (state : OutputState)
    (mode : OutputMode) : RandRModeObject where
  internalId := mode.id
  xid := table.modeXids[mode.id]?.getD 0
  width := mode.physicalWidth
  height := mode.physicalHeight
  refreshMillihertz := mode.refreshMillihertz
  flags := mode.flags
  name := mode.name
  preferred := mode.preferred
  current := decide (state.modeId = mode.id)

/-- The current mode of an output that does not list it. -/
def RandRModeObject.unlisted (table : XidTable) (state : OutputState) :
    RandRModeObject where
  internalId := state.modeId
  xid := table.modeXids[state.modeId]?.getD 0
  width := state.physicalWidth
  height := state.physicalHeight
  refreshMillihertz := state.refreshMillihertz
  flags := 0
  name := decimalBytes state.physicalWidth ++ asciiBytes "x" ++
    decimalBytes state.physicalHeight
  preferred := false
  current := true

def RandROutputObject.of (layout : OutputLayout) (table : XidTable)
    (id : Nat) : RandROutputObject :=
  let descriptor := layout.descriptor id
  let state := layout.states[id]?.getD {}
  let xids := table.outputXids[id]?.getD { output := 0, crtc := 0 }
  { internalId := id
    xid := xids.output
    crtcXid := xids.crtc
    name := descriptor.name
    connected := descriptor.connected
    enabled := state.enabled
    primary := state.primary
    physicalWidthMm := descriptor.physicalWidthMm
    physicalHeightMm := descriptor.physicalHeightMm
    logicalX := state.logicalX
    logicalY := state.logicalY
    logicalWidth := state.logicalWidth
    logicalHeight := state.logicalHeight
    physicalWidth := state.physicalWidth
    physicalHeight := state.physicalHeight
    scale := state.scale
    transform := state.transform
    modes :=
      descriptor.modes.map (.listed table state) ++
        if state.enabled && !descriptor.modes.any (·.id = state.modeId) then
          [.unlisted table state]
        else [] }

/-- A layout is taken over whole, or refused with nothing changed. -/
def RandRState.configureOutputLayout (randr : RandRState)
    (layout : OutputLayout) : Option RandRState :=
  if !(validateLayout layout).valid ||
      randr.layout.any fun installed =>
        !sameInventoryIdentity installed layout then none
  else do
    let xids ← randr.xids.allocateLayout layout
    return { layout := some layout
             outputs := layout.outputOrder.map (.of layout xids)
             xids }

/-! ## Room -/

/-- The identifiers a layout may take at most. -/
def xidsNeeded (layout : OutputLayout) : Nat :=
  (layout.descriptors.toList.map fun entry => entry.2.modes.length + 3).sum

namespace XidTable

/-- So many identifiers are left. -/
def Room (table : XidTable) (count : Nat) : Prop :=
  table.nextXid ≠ 0 ∧ table.nextXid + count ≤ xidMaximum

variable {table : XidTable} {rest : Nat}

theorem Room.allocate (room : table.Room (1 + rest)) :
    ∃ xid next, table.allocate = some (xid, next) ∧ next.Room rest := by
  obtain ⟨started, left⟩ := room
  refine ⟨table.nextXid, { table with nextXid := table.nextXid + 1 }, ?_,
    Nat.succ_ne_zero _, ?_⟩
  · rw [XidTable.allocate, if_neg]
    simp only [Bool.or_eq_true, decide_eq_true_eq, not_or]
    exact ⟨started, by omega⟩
  · change table.nextXid + 1 + rest ≤ xidMaximum
    omega

theorem Room.weaken {count : Nat} (room : table.Room count)
    (less : rest ≤ count) : table.Room rest :=
  ⟨room.1, by have := room.2; omega⟩

theorem Room.allocateMode (room : table.Room (1 + rest)) (modeId : Nat) :
    ∃ next, table.allocateMode modeId = some next ∧ next.Room rest := by
  unfold XidTable.allocateMode
  split
  · exact ⟨table, rfl, room.weaken (by omega)⟩
  · obtain ⟨xid, next, allocated, left⟩ := room.allocate
    rw [allocated]
    exact ⟨_, rfl, left⟩

theorem Room.allocateOutput (room : table.Room (2 + rest)) (id : Nat) :
    ∃ next, table.allocateOutput id = some next ∧ next.Room rest := by
  unfold XidTable.allocateOutput
  split
  · exact ⟨table, rfl, room.weaken (by omega)⟩
  · have first : table.Room (1 + (1 + rest)) := room.weaken (by omega)
    obtain ⟨output, middle, allocated, left⟩ := first.allocate
    obtain ⟨crtc, next, again, left⟩ := left.allocate
    rw [allocated, Option.bind_eq_bind, Option.bind_some]
    simp only
    rw [again]
    exact ⟨_, rfl, left⟩

theorem Room.allocateModes {modes : List OutputMode}
    (room : table.Room (modes.length + rest)) :
    ∃ next, modes.foldlM (fun table mode => table.allocateMode mode.id) table =
        some next ∧ next.Room rest := by
  induction modes generalizing table with
  | nil => exact ⟨table, rfl, room.weaken (by simp)⟩
  | cons mode later ih =>
      have first : table.Room (1 + (later.length + rest)) :=
        room.weaken (by rw [List.length_cons]; omega)
      obtain ⟨next, allocated, left⟩ := first.allocateMode mode.id
      rw [List.foldlM_cons, allocated]
      exact ih left

theorem Room.allocateDescriptor {entry : Nat × OutputDescriptor}
    (layout : OutputLayout)
    (room : table.Room (entry.2.modes.length + 3 + rest)) :
    ∃ next, allocateDescriptor layout table entry = some next ∧
      next.Room rest := by
  have outputs : table.Room (2 + (entry.2.modes.length + (1 + rest))) :=
    room.weaken (by omega)
  obtain ⟨first, allocated, left⟩ := outputs.allocateOutput entry.1
  obtain ⟨second, listed, left⟩ := left.allocateModes
  unfold XidTable.allocateDescriptor
  rw [allocated, Option.bind_eq_bind, Option.bind_some, listed,
    Option.bind_some]
  simp only
  split
  · exact left.allocateMode _
  · exact ⟨second, rfl, left.weaken (by omega)⟩

theorem Room.allocateLayout {layout : OutputLayout}
    (room : table.Room (xidsNeeded layout)) :
    (table.allocateLayout layout).isSome = true := by
  unfold XidTable.allocateLayout
  unfold xidsNeeded at room
  generalize layout.descriptors.toList = entries at room ⊢
  induction entries generalizing table with
  | nil => rfl
  | cons entry rest ih =>
      rw [List.map_cons, List.sum_cons] at room
      obtain ⟨next, allocated, left⟩ := room.allocateDescriptor layout
      rw [List.foldlM_cons, allocated]
      exact ih left

end XidTable

/-- Where the identifiers suffice, a valid layout is taken over exactly when
its inventory is that of the installed one. -/
theorem RandRState.configureOutputLayout_isSome {randr : RandRState}
    {installed layout : OutputLayout} (present : randr.layout = some installed)
    (valid : (validateLayout layout).valid = true)
    (room : randr.xids.Room (xidsNeeded layout)) :
    (randr.configureOutputLayout layout).isSome =
      sameInventoryIdentity installed layout := by
  obtain ⟨next, allocated⟩ := Option.isSome_iff_exists.mp room.allocateLayout
  unfold RandRState.configureOutputLayout
  rw [valid, present, allocated]
  cases same : sameInventoryIdentity installed layout <;> simp [same]

end Glasswyrm.Server
