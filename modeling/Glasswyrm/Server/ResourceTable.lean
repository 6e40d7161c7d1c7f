import Glasswyrm.Library.LinkedTree
import Glasswyrm.Server.Window
import Glasswyrm.X11.Setup

namespace Glasswyrm.Server

open Library
open Lifecycle (WindowClass LifecycleStackMode)
open X11 (ScreenModel)

/-! The resources of the clients.  Of a resource other than a window only its
kind is kept, and the drawable it depends on. -/

inductive PictureSource
  | drawable (drawable : Nat)
  | solid
deriving DecidableEq, Repr

inductive ResourcePayload
  | window (window : WindowResource)
  | pixmap
  | graphicsContext
  | font
  | cursor
  | colormap
  | shmSegment
  | xfixesRegion
  | damage (drawable : Nat)
  | picture (source : PictureSource)

namespace ResourcePayload

def window? : ResourcePayload → Option WindowResource
  | .window resource => some resource
  | _ => none

/-- Whether a resource goes with a drawable. -/
def dependsOn (drawable : Nat) : ResourcePayload → Bool
  | .damage other => other = drawable
  | .picture (.drawable other) => other = drawable
  | _ => false

end ResourcePayload

structure ResourceRecord where
  owner : Option Nat
  payload : ResourcePayload

structure ResourceTable where
  screen : ScreenModel
  resources : KeyMap ResourceRecord
  resourcesByOwner : KeyMap (List Nat) := ∅

def kDefaultFontXid : Nat := 0xfffffff0

/-! ## Identifiers -/

def uint32Maximum : Nat := 4294967295

def resourceIdMatchesClient (xid resourceBase resourceMask : Nat) : Bool :=
  xid ≠ 0 && (resourceBase &&& resourceMask) = 0 &&
    (xid &&& (uint32Maximum ^^^ resourceMask)) = resourceBase

def isServerOwnedId (xid : Nat) (screen : ScreenModel) : Bool :=
  xid = screen.rootWindow || xid = screen.defaultColormap ||
    xid = screen.rootVisual || (0x1FFFF100 ≤ xid && xid ≤ 0x1FFFF1FF)

namespace ResourceTable

/-- What is in the table already stays. -/
def emplace (resources : KeyMap ResourceRecord) (xid : Nat)
    (record : ResourceRecord) : KeyMap ResourceRecord :=
  resources.insertIfNew xid record

def initial (screen : ScreenModel) : ResourceTable :=
  let root : WindowResource := {
    width := screen.widthPixels
    height := screen.heightPixels
    depth := screen.rootDepth
    windowClass := .inputOutput
    visual := screen.rootVisual
    mapState := .viewable }
  let resources := emplace ∅ screen.rootWindow
    { owner := none, payload := .window root }
  let resources := emplace resources screen.defaultColormap
    { owner := none, payload := .colormap }
  let resources := emplace resources kDefaultFontXid
    { owner := none, payload := .font }
  { screen, resources }

def findWindow (table : ResourceTable) (xid : Nat) : Option WindowResource :=
  table.resources[xid]?.bind fun record => record.payload.window?

def resourceCount (table : ResourceTable) : Nat :=
  (table.resources.toList.filter fun entry =>
    entry.2.payload.window?.isSome).length

/-- A window changed in place. -/
def updateWindow (table : ResourceTable) (xid : Nat)
    (change : WindowResource → WindowResource) : ResourceTable :=
  match table.resources[xid]? with
  | some { owner, payload := .window window } =>
      { table with
        resources := table.resources.insert xid
          { owner, payload := .window (change window) } }
  | _ => table

def pushOwned (table : ResourceTable) (owner xid : Nat) : ResourceTable :=
  { table with
    resourcesByOwner := table.resourcesByOwner.insert owner
      (table.resourcesByOwner[owner]?.getD [] ++ [xid]) }

/-- The list of a client that owns nothing more is dropped. -/
def eraseOwned (table : ResourceTable) (owner xid : Nat) : ResourceTable :=
  match table.resourcesByOwner[owner]? with
  | none => table
  | some owned =>
      let rest := owned.filter (· ≠ xid)
      { table with
        resourcesByOwner :=
          if rest.isEmpty then table.resourcesByOwner.erase owner
          else table.resourcesByOwner.insert owner rest }

def validNewResourceId (table : ResourceTable)
    (xid resourceBase resourceMask : Nat) : Bool :=
  resourceIdMatchesClient xid resourceBase resourceMask &&
    !isServerOwnedId xid table.screen && !table.resources.contains xid

def updateScreenGeometry (table : ResourceTable) (screen : ScreenModel) :
    Bool × ResourceTable :=
  if screen.rootWindow ≠ table.screen.rootWindow ||
      screen.defaultColormap ≠ table.screen.defaultColormap ||
      screen.rootVisual ≠ table.screen.rootVisual ||
      screen.rootDepth ≠ table.screen.rootDepth ||
      screen.redMask ≠ table.screen.redMask ||
      screen.greenMask ≠ table.screen.greenMask ||
      screen.blueMask ≠ table.screen.blueMask ||
      screen.maximumRequestLength ≠ table.screen.maximumRequestLength ||
      screen.resourceIdMask ≠ table.screen.resourceIdMask ||
      screen.widthPixels = 0 || screen.heightPixels = 0 ||
      screen.widthMillimeters = 0 || screen.heightMillimeters = 0 then
    (false, table)
  else if (table.findWindow screen.rootWindow).isNone then (false, table)
  else
    let table := { table with screen }
    (true, table.updateWindow screen.rootWindow fun root =>
      { root with width := screen.widthPixels, height := screen.heightPixels })

/-! ## Map states -/

def isPolicyCandidate (table : ResourceTable) (xid : Nat) : Bool :=
  xid ≠ 4 && (table.findWindow xid).any fun window =>
    window.parent = table.screen.rootWindow &&
      window.windowClass = .inputOutput

/-- The state that a window is given under a parent. -/
def dueMapState (candidate : Bool) (window : WindowResource)
    (parentViewable : Bool) : MapState :=
  if !window.mapRequested then .unmapped
  else if candidate && !window.policyVisible then .unmapped
  else if parentViewable then .viewable else .unviewable

/-- The recursion is as deep as the tree, which has no more levels than the
table has resources. -/
def recomputeMapStatesFrom : Nat → Nat → Bool → ResourceTable → ResourceTable
  | 0, _, _, table => table
  | rounds + 1, xid, parentViewable, table =>
      match table.findWindow xid with
      | none => table
      | some window =>
          let mapState := dueMapState (table.isPolicyCandidate xid) window
            parentViewable
          let viewable := decide (mapState = .viewable)
          window.children.foldl
            (fun table child =>
              recomputeMapStatesFrom rounds child viewable table)
            (table.updateWindow xid fun window => { window with mapState })

def recomputeMapStates (table : ResourceTable) (xid : Nat) : ResourceTable :=
  let rounds := table.resources.size
  if xid = table.screen.rootWindow then
    match table.findWindow xid with
    | none => table
    | some root =>
        root.children.foldl
          (fun table child => recomputeMapStatesFrom rounds child true table)
          (table.updateWindow xid fun root =>
            { root with mapState := .viewable })
  else
    match table.findWindow xid with
    | none => table
    | some window =>
        recomputeMapStatesFrom rounds xid
          ((table.findWindow window.parent).any (·.mapState = .viewable))
          table

end ResourceTable

inductive LocalLifecycleStatus
  | success
  | badWindow
  | badMatch
  | badValue
  | badAlloc
deriving DecidableEq, Repr

structure LocalConfigure where
  x : Option Int := none
  y : Option Int := none
  width : Option Nat := none
  height : Option Nat := none
  borderWidth : Option Nat := none
  sibling : Option Nat := none
  stackMode : LifecycleStackMode := .none
deriving DecidableEq, Repr

def uint16Maximum : Nat := 65535
def int16Minimum : Int := -32768
def int16Maximum : Int := 32767

namespace ResourceTable

def setLocalMapIntent (table : ResourceTable) (xid : Nat) (mapped : Bool) :
    LocalLifecycleStatus × ResourceTable :=
  if (table.findWindow xid).isNone then (.badWindow, table)
  else if xid = table.screen.rootWindow || table.isPolicyCandidate xid then
    (.badMatch, table)
  else
    (.success, (table.updateWindow xid fun window =>
      { window with mapRequested := mapped }).recomputeMapStates xid)

/-! ## Local configuration -/

def configureValuesValid (configure : LocalConfigure) : Bool :=
  configure.width.all (fun width => width ≠ 0 && width ≤ uint16Maximum) &&
    configure.height.all (fun height =>
      height ≠ 0 && height ≤ uint16Maximum) &&
    configure.borderWidth.all (· ≤ uint16Maximum) &&
    configure.x.all (fun x => int16Minimum ≤ x && x ≤ int16Maximum) &&
    configure.y.all (fun y => int16Minimum ≤ y && y ≤ int16Maximum)

def siblingValid (table : ResourceTable) (xid : Nat) (window : WindowResource)
    (configure : LocalConfigure) : Bool :=
  configure.sibling.all fun sibling =>
    sibling ≠ xid && (table.findWindow sibling).any (fun found =>
      found.parent = window.parent) && configure.stackMode ≠ .none

/-- The window taken out of its siblings and put in at its new place. -/
def restacked (children : List Nat) (xid : Nat) (configure : LocalConfigure) :
    List Nat :=
  let rest := children.filter (· ≠ xid)
  match configure.sibling with
  | none =>
      if configure.stackMode = .above then rest ++ [xid] else xid :: rest
  | some sibling =>
      let position := rest.idxOf sibling
      rest.insertIdx
        (if configure.stackMode = .above then position + 1 else position) xid

/-- Pixels of another extent are copied into new ones. -/
def resizedStorage (window : WindowResource) (width height : Nat) :
    Option (Option PixelStorage) :=
  match window.storage with
  | none => some none
  | some storage =>
      if storage.width ≠ width || storage.height ≠ height then
        (storage.resizePreservingOverlap width height window.background).map
          some
      else some (some storage)

def configured (window : WindowResource) (configure : LocalConfigure)
    (storage : Option PixelStorage) : WindowResource :=
  let x := configure.x.getD window.x
  let y := configure.y.getD window.y
  let width := configure.width.getD window.width
  let height := configure.height.getD window.height
  let borderWidth := configure.borderWidth.getD window.borderWidth
  { window with
    x, y, width, height, borderWidth, storage
    requestedX := x
    requestedY := y
    requestedWidth := width
    requestedHeight := height
    requestedBorderWidth := borderWidth }

def configureLocal (table : ResourceTable) (xid : Nat)
    (configure : LocalConfigure) : LocalLifecycleStatus × ResourceTable :=
  match table.findWindow xid with
  | none => (.badWindow, table)
  | some window =>
      if xid = table.screen.rootWindow || table.isPolicyCandidate xid then
        (.badMatch, table)
      else if !configureValuesValid configure then (.badValue, table)
      else if (table.findWindow window.parent).isNone then (.badWindow, table)
      else if !table.siblingValid xid window configure then (.badMatch, table)
      else
        match resizedStorage window (configure.width.getD window.width)
            (configure.height.getD window.height) with
        | none => (.badAlloc, table)
        | some storage =>
            let moved := table.updateWindow xid fun window =>
              configured window configure storage
            (.success,
              if configure.stackMode = .none then moved
              else
                moved.updateWindow window.parent fun parent =>
                  { parent with
                    children := restacked parent.children xid configure })

/-- The windows that are shown go on top of the rest, in their order. -/
def reorderRootChildren (table : ResourceTable) (visible : List Nat) :
    Option ResourceTable := do
  let root ← table.findWindow table.screen.rootWindow
  let rest := root.children.filter fun child => !visible.contains child
  let children ← visible.foldlM (fun result child =>
    if !table.isPolicyCandidate child || result.contains child then none
    else some (result ++ [child])) rest
  return table.updateWindow table.screen.rootWindow fun root =>
    { root with children }

end ResourceTable

/-! ## Creation -/

inductive CreateWindowStatus
  | success
  | badIdChoice
  | badWindow
  | badValue
  | badMatch
deriving DecidableEq, Repr

def kInputOnlyAttributes : Nat :=
  2 ^ 5 ||| 2 ^ 9 ||| 2 ^ 11 ||| 2 ^ 12 ||| 2 ^ 14

namespace ResourceTable

def createdWindow (owner : Nat) (spec : WindowCreateSpec)
    (windowClass : WindowClass) : WindowResource :=
  { parent := spec.parent
    x := spec.x
    y := spec.y
    width := spec.width
    height := spec.height
    borderWidth := spec.borderWidth
    requestedX := spec.x
    requestedY := spec.y
    requestedWidth := spec.width
    requestedHeight := spec.height
    requestedBorderWidth := spec.borderWidth
    windowClass
    attributes := spec.attributes
    eventSelections :=
      if spec.initialEventMask ≠ 0 then
        (∅ : KeyMap Nat).insert owner spec.initialEventMask
      else ∅ }

/-- A window and its place among the children of its parent. -/
def addWindow (table : ResourceTable) (owner : Option Nat) (xid : Nat)
    (window : WindowResource) : ResourceTable :=
  let record : ResourceRecord := { owner, payload := .window window }
  let added := { table with resources := table.resources.insert xid record }
  let owned := match owner with
    | some owner => added.pushOwned owner xid
    | none => added
  owned.updateWindow window.parent fun parent =>
    { parent with children := parent.children ++ [xid] }

def createWindow (table : ResourceTable)
    (owner resourceBase resourceMask : Nat) (spec : WindowCreateSpec) :
    CreateWindowStatus × ResourceTable :=
  if !table.validNewResourceId spec.xid resourceBase resourceMask then
    (.badIdChoice, table)
  else
    match table.findWindow spec.parent with
    | none => (.badWindow, table)
    | some parent =>
        if spec.width = 0 || spec.height = 0 then (.badValue, table)
        else
          let windowClass :=
            if spec.windowClass = .copyFromParent then parent.windowClass
            else spec.windowClass
          let window := createdWindow owner spec windowClass
          if windowClass = .inputOnly then
            if spec.depth ≠ 0 || spec.visual ≠ 0 || spec.borderWidth ≠ 0 ||
                (spec.attributeMask &&&
                  (uint32Maximum ^^^ kInputOnlyAttributes)) ≠ 0 then
              (.badMatch, table)
            else (.success, table.addWindow (some owner) spec.xid window)
          else if parent.windowClass = .inputOnly then (.badMatch, table)
          else
            let depth := if spec.depth = 0 then parent.depth else spec.depth
            let visual :=
              if spec.visual = 0 then parent.visual else spec.visual
            if depth ≠ table.screen.rootDepth ||
                visual ≠ table.screen.rootVisual then (.badMatch, table)
            else
              (.success, table.addWindow (some owner) spec.xid
                { window with depth, visual })

def createServerProxyWindow (table : ResourceTable) (xid : Nat) :
    Bool × ResourceTable :=
  if xid = 0 || table.resources.contains xid then (false, table)
  else
    (true, table.addWindow none xid {
      parent := table.screen.rootWindow
      width := 1
      height := 1
      requestedWidth := 1
      requestedHeight := 1
      depth := table.screen.rootDepth
      windowClass := .inputOutput
      visual := table.screen.rootVisual })

/-- The creation of a resource of any other kind, in what all kinds do. -/
def createResource (table : ResourceTable)
    (owner resourceBase resourceMask xid : Nat) (payload : ResourcePayload) :
    Bool × ResourceTable :=
  if !table.validNewResourceId xid resourceBase resourceMask ||
      payload.window?.isSome then (false, table)
  else
    let record : ResourceRecord := { owner := some owner, payload }
    let added := { table with resources := table.resources.insert xid record }
    (true, added.pushOwned owner xid)

/-! ## Destruction -/

/-- The end of a resource of any other kind, in what all kinds do.  The
resources of the server itself are not freed. -/
def freeResource (table : ResourceTable) (xid : Nat) : ResourceTable :=
  match table.resources[xid]? with
  | none => table
  | some record =>
      match record.payload.window?, record.owner with
      | none, some owner =>
          let erased := { table with resources := table.resources.erase xid }
          erased.eraseOwned owner xid
      | _, _ => table

/-- The damage objects and the pictures of a drawable. -/
def dependents (table : ResourceTable) (drawable : Nat) : List Nat :=
  (table.resources.toList.filter fun entry =>
    entry.2.payload.dependsOn drawable).map Prod.fst

def removeForDrawable (table : ResourceTable) (drawable : Nat) :
    ResourceTable :=
  (table.dependents drawable).foldl freeResource table

end ResourceTable

structure ClientCleanupWindow where
  xid : Nat
  parent : Nat
  structureRecipients : List Nat
  substructureRecipients : List Nat
  owner : Option Nat
deriving DecidableEq, Repr

structure WindowDestroyPlan where
  root : Nat
  postorder : List ClientCleanupWindow
deriving DecidableEq, Repr

structure ClientCleanupPlan where
  owner : Nat
  roots : List Nat
deriving DecidableEq, Repr

inductive DestroyWindowStatus
  | success
  | badWindow
  | rootPreserved
deriving DecidableEq, Repr

def kStructureNotifyMask : Nat := 2 ^ 17
def kSubstructureNotifyMask : Nat := 2 ^ 19

namespace ResourceTable

/-- The clients that have selected some of the events. -/
def recipients (window : WindowResource) (mask : Nat) : List Nat :=
  (window.eventSelections.toList.filter fun entry =>
    (entry.2 &&& mask) ≠ 0).map Prod.fst

def cleanupEntry (table : ResourceTable) (xid : Nat)
    (window : WindowResource) : ClientCleanupWindow :=
  { xid
    parent := window.parent
    structureRecipients := recipients window kStructureNotifyMask
    substructureRecipients :=
      match table.findWindow window.parent with
      | some parent => recipients parent kSubstructureNotifyMask
      | none => []
    owner := table.resources[xid]?.bind (·.owner) }

/-- A window is entered when all its children have been; the stack holds each
window once for its children and once for itself. -/
def captureLoop (table : ResourceTable) : Nat → List (Nat × Bool) →
    List ClientCleanupWindow → Option (List ClientCleanupWindow)
  | _, [], postorder => some postorder
  | 0, _ :: _, _ => none
  | rounds + 1, (current, expanded) :: stack, postorder =>
      match table.findWindow current with
      | none => none
      | some window =>
          if expanded then
            captureLoop table rounds stack
              (postorder ++ [table.cleanupEntry current window])
          else
            captureLoop table rounds
              ((window.children.map fun child => (child, false)).reverse ++
                (current, true) :: stack) postorder

def captureDestroyPlan (table : ResourceTable) (xid : Nat) :
    Option WindowDestroyPlan := do
  if xid = table.screen.rootWindow || (table.findWindow xid).isNone then none
  let postorder ← table.captureLoop (2 * table.resources.size)
    [(xid, false)] []
  return { root := xid, postorder }

def withoutChild (children : List Nat) (xid : Nat) : List Nat :=
  if children.getLast? = some xid then children.dropLast
  else children.erase xid

def destroyLeaf (table : ResourceTable) (xid : Nat) : ResourceTable :=
  match table.findWindow xid with
  | none => table
  | some window =>
      if xid = table.screen.rootWindow then table
      else
        let owner := table.resources[xid]?.bind (·.owner)
        let cleared := table.removeForDrawable xid
        let unlisted := cleared.updateWindow window.parent fun parent =>
          { parent with children := withoutChild parent.children xid }
        let disowned := match owner with
          | some owner => unlisted.eraseOwned owner xid
          | none => unlisted
        { disowned with resources := disowned.resources.erase xid }

def commitDestroyPlan (table : ResourceTable) (plan : WindowDestroyPlan) :
    DestroyWindowStatus × ResourceTable :=
  match table.captureDestroyPlan plan.root with
  | none => (.badWindow, table)
  | some current =>
      if (current.postorder.map fun entry => (entry.xid, entry.parent)) ≠
          plan.postorder.map fun entry => (entry.xid, entry.parent) then
        (.badWindow, table)
      else
        (.success, plan.postorder.foldl
          (fun table entry => table.destroyLeaf entry.xid) table)

def destroyWindow (table : ResourceTable) (xid : Nat) :
    DestroyWindowStatus × ResourceTable :=
  if xid = table.screen.rootWindow then (.rootPreserved, table)
  else
    match table.captureDestroyPlan xid with
    | none => (.badWindow, table)
    | some plan => table.commitDestroyPlan plan

/-- With a pixmap goes what depends on it. -/
def freeOwned (table : ResourceTable) (xid : Nat) : ResourceTable :=
  match table.resources[xid]? with
  | some ⟨_, .pixmap⟩ => (table.removeForDrawable xid).freeResource xid
  | _ => table.freeResource xid

def destroyRoot (table : ResourceTable) (root : Nat) : ResourceTable :=
  match table.captureDestroyPlan root with
  | some destroy => (table.commitDestroyPlan destroy).2
  | none => table

/-- The windows first, then what the client still owns. -/
def commitClientCleanup (table : ResourceTable) (plan : ClientCleanupPlan) :
    ResourceTable :=
  let destroyed := plan.roots.foldl destroyRoot table
  let remaining := destroyed.resourcesByOwner[plan.owner]?.getD []
  remaining.foldl freeOwned destroyed

end ResourceTable

end Glasswyrm.Server
