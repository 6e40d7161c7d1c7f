import Glasswyrm.Render.Composition

namespace Glasswyrm.Render

open Library Compositor Compositor.Rectangle

/-! ## When the rendering completes -/

section

variable {request : RenderFrameRequest} {output : OutputUpsert}

/-- A surface id that the loop over one damage rectangle gets past. -/
def Admitted (request : RenderFrameRequest) (output : OutputUpsert)
    (rectangle : Rectangle) (id : Nat) : Prop :=
  ∃ surface, request.scene.surfaces[id]? = some surface ∧
    ∀ mapping, attachedMapping request id = some mapping →
      redrawn output rectangle surface = true → placed surface mapping = true

theorem renderSurface_succeeds_iff (valid : ValidScene request output)
    (rectangle : Rectangle) (frame : SoftwareFrame) (id : Nat) :
    (∃ next, renderSurface request output rectangle frame id = .ok next) ↔
      Admitted request output rectangle id := by
  unfold renderSurface Admitted
  cases found : request.scene.surfaces[id]? with
  | none => simp
  | some surface =>
      simp only [Option.some.injEq, exists_eq_left']
      by_cases shown : drawn surface = true
      · obtain ⟨mapping, attached, buffer⟩ :=
          valid.buffers id surface found shown
        have composed := compositeSurface_succeeds_iff frame
          (valid.surfaces id surface found) buffer
        simp only [shown, Bool.not_true, Bool.false_eq_true, if_false,
          attached, Option.some.injEq, forall_eq']
        cases meets : (surfaceBounds surface output).bind
            (·.intersection rectangle) with
        | none =>
            have apart : redrawn output rectangle surface = false := by
              simp only [redrawn, meets, Option.isSome_none, Bool.and_false]
            simp [apart]
        | some common =>
            have together : redrawn output rectangle surface = true := by
              simp only [redrawn, shown, meets, Option.isSome_some,
                Bool.and_self]
            obtain ⟨bufferId, attachment, mapped⟩ :=
              Option.bind_eq_some_iff.mp attached
            simp only [attachment, mapped, together, forall_const, ← composed,
              Option.isNone_some, Bool.false_eq_true, if_false]
            cases composite : compositeSurface frame surface mapping with
            | ok next => simp
            | error reason => cases reason <;> simp
      · have hidden : redrawn output rectangle surface = false := by
          simp [redrawn, shown]
        simp [shown, hidden]

theorem renderSurface_bounds {rectangle : Rectangle}
    (frame : SoftwareFrame) (id : Nat) (next : SoftwareFrame)
    (shape : frame.bounds = outputBounds output)
    (rendered : renderSurface request output rectangle frame id = .ok next) :
    next.bounds = outputBounds output :=
  (renderSurface_apply shape rendered 0 0).1

theorem renderRectangle_succeeds_iff (valid : ValidScene request output)
    (frame : SoftwareFrame) (rectangle : Rectangle)
    (shape : frame.bounds = outputBounds output) :
    (∃ next, renderRectangle request output frame rectangle = .ok next) ↔
      ∀ id ∈ request.stackingOrder, Admitted request output rectangle id :=
  foldlM_succeeds_iff _ renderSurface_bounds
    (fun frame id _ => renderSurface_succeeds_iff valid rectangle frame id)
    ((clear_apply frame rectangle 0 0).1.trans shape)

theorem renderRectangle_bounds (frame : SoftwareFrame) (rectangle : Rectangle)
    (next : SoftwareFrame) (shape : frame.bounds = outputBounds output)
    (rendered : renderRectangle request output frame rectangle = .ok next) :
    next.bounds = outputBounds output :=
  (renderRectangle_apply shape rendered 0 0).1

theorem configure_historical (valid : ValidScene request output) :
    SoftwareFrame.configure output.outputId output.logicalWidth
        output.logicalHeight =
      .ok {
        id := output.outputId
        width := output.logicalWidth
        height := output.logicalHeight
        enabled := true
        pixels := fun _ _ => clearPixel } := by
  have shape := valid.shape
  simp only [validSceneOutput, validHistoricalOutput, valid.enabled,
    Bool.not_true, Bool.false_eq_true, if_false, Bool.and_eq_true,
    decide_eq_true_eq] at shape
  obtain ⟨⟨id, _⟩, _, ⟨⟨⟨⟨⟨width, height⟩, widest⟩, highest⟩, _⟩, _⟩,
    pixels⟩ := shape
  have narrow : ¬maximumFrameWidth < output.logicalWidth :=
    Nat.not_lt.mpr widest
  have low : ¬maximumFrameHeight < output.logicalHeight :=
    Nat.not_lt.mpr highest
  have small : ¬maximumFramePixels <
      output.logicalWidth * output.logicalHeight := Nat.not_lt.mpr pixels
  have fits : ¬maximumFrameBytes / 4 <
      output.logicalWidth * output.logicalHeight := Nat.not_lt.mpr pixels
  simp [SoftwareFrame.configure, id, width, height, narrow, low, small, fits]

theorem render_complete_iff (valid : ValidScene request output) :
    (render request).complete = true ↔ Placeable request output := by
  have admitted : Placeable request output ↔
      ∀ rectangle ∈ request.damage, ∀ id ∈ request.stackingOrder,
        Admitted request output rectangle id := by
    constructor
    · intro placeable rectangle damaged id ordered
      obtain ⟨surface, found⟩ := KeyMap.mem_iff.mp (valid.order id ordered)
      exact ⟨surface, found, fun mapping =>
        placeable rectangle damaged id ordered surface mapping found⟩
    · intro all rectangle damaged id ordered surface mapping found attached
      obtain ⟨other, present, places⟩ := all rectangle damaged id ordered
      obtain rfl := Option.some.inj (present.symm.trans found)
      exact places mapping attached
  rw [admitted, ← foldlM_succeeds_iff _ renderRectangle_bounds
    (fun frame rectangle shape =>
      renderRectangle_succeeds_iff valid frame rectangle shape)
    (startFrame_apply request output 0 0).1]
  unfold render
  simp only [valid.present, valid.enabled, Bool.not_true, Bool.false_eq_true,
    if_false, configure_historical valid]
  cases request.damage.foldlM (renderRectangle request output)
      (startFrame request _) with
  | error error => simp [RenderFrameResult.complete]
  | ok frame => simp [RenderFrameResult.complete]

/-! ## What is left on a pixel -/

def pixelResidue (request : RenderFrameRequest) (output : OutputUpsert)
    (x y : Int) : Pass Stroke :=
  residue (pixelHistory request output x y)

/-- The strokes on the pixel since its last clearing are exactly the ones it is
due, or the pixel was copied and left alone. -/
def Settled (request : RenderFrameRequest) (output : OutputUpsert)
    (x y : Int) : Prop :=
  pixelResidue request output x y =
      { clears := true, strokes := dueStrokes request output x y } ∨
    pixelResidue request output x y = { clears := false, strokes := [] }

/-- The strokes left on the pixel mix to its due colour all the same. -/
def Harmless (request : RenderFrameRequest) (output : OutputUpsert)
    (x y : Int) : Prop :=
  (pixelResidue request output x y).strokes.foldl stroke
      (if (pixelResidue request output x y).clears then clearPixel
        else composition request output x y) =
    composition request output x y

theorem Settled.harmless {x y : Int} (settled : Settled request output x y) :
    Harmless request output x y := by
  unfold Harmless
  rcases settled with cleared | untouched
  · rw [cleared]
    rfl
  · rw [untouched]
    rfl

/-- The setting of one incremental frame: the previous frame holds the full
composition of an earlier scene, and the damage covers every pixel at which
the two compositions differ. -/
structure IncrementalFrame (request : RenderFrameRequest)
    (output : OutputUpsert) (earlier : RenderFrameRequest)
    (earlierOutput : OutputUpsert) : Prop where
  scene : ValidScene request output
  previous : ∀ previous, request.previous = some previous →
    previous.enabled = true → Shows previous earlier earlierOutput
  damage : ∀ x y, (outputBounds output).Contains x y →
    composition request output x y ≠ composition earlier earlierOutput x y →
      DamageCovers request.damage x y

theorem outputBounds_valid (valid : ValidScene request output) :
    (outputBounds output).hasValidExtents = true := by
  have shape := valid.shape
  simp only [validSceneOutput, validHistoricalOutput, valid.enabled,
    Bool.not_true, Bool.false_eq_true, if_false, Bool.and_eq_true,
    decide_eq_true_eq] at shape
  obtain ⟨_, _, ⟨⟨⟨⟨_, widest⟩, highest⟩, _⟩, _⟩, _⟩ := shape
  simp only [maximumOutputPhysicalExtent] at widest highest
  rw [hasValidExtents_iff]
  simp only [outputBounds, right, bottom, int32Minimum, int32Maximum]
  omega

theorem copied_previous {earlier : RenderFrameRequest}
    {earlierOutput : OutputUpsert}
    (incremental : IncrementalFrame request output earlier earlierOutput)
    (copies : copied request output = true) {x y : Int}
    (within : (outputBounds output).Contains x y) :
    previousPixel request x y = composition earlier earlierOutput x y := by
  unfold copied at copies
  unfold previousPixel
  cases previous : request.previous with
  | none => simp [previous] at copies
  | some frame =>
      simp only [previous, Option.any_some, Bool.and_eq_true,
        decide_eq_true_eq] at copies
      obtain ⟨⟨⟨enabled, _⟩, width⟩, height⟩ := copies
      have shows := incremental.previous frame previous enabled
      have bounds : outputBounds earlierOutput = outputBounds output := by
        simp only [outputBounds, ← shows.width, ← shows.height, width, height]
      exact shows.pixels x y (bounds ▸ within)

/-- An uncleared pixel shows the composition of the new scene already. -/
theorem uncleared_previous {earlier : RenderFrameRequest}
    {earlierOutput : OutputUpsert}
    (incremental : IncrementalFrame request output earlier earlierOutput)
    {x y : Int} (within : (outputBounds output).Contains x y)
    (uncleared : (pixelResidue request output x y).clears = false) :
    previousPixel request x y = composition request output x y := by
  simp only [pixelResidue, residue_clears, pixelHistory, List.any_cons,
    Bool.or_eq_false_iff, Bool.not_eq_false', List.any_map] at uncleared
  obtain ⟨copies, undamaged⟩ := uncleared
  rw [copied_previous incremental copies within]
  by_contra different
  obtain ⟨rectangle, member, valid, contains⟩ :=
    incremental.damage x y within (Ne.symm different)
  obtain ⟨common, meets⟩ := intersection_isSome valid
    (outputBounds_valid incremental.scene) contains within
  have clears := List.any_eq_false.mp undamaged rectangle member
  simp only [Function.comp_apply, damagePass, meets, inside_some] at clears
  exact clears ((intersection_contains meets x y).mpr ⟨contains, within⟩)

theorem render_pixel_iff {earlier : RenderFrameRequest}
    {earlierOutput : OutputUpsert}
    (incremental : IncrementalFrame request output earlier earlierOutput)
    (complete : (render request).complete = true) {x y : Int}
    (within : (outputBounds output).Contains x y) :
    (render request).frame.pixels x y = composition request output x y ↔
      Harmless request output x y := by
  obtain ⟨_, pixel⟩ := render_pixel incremental.scene.present complete x y
  rw [pixel]
  unfold Harmless lay
  cases clears : (pixelResidue request output x y).clears with
  | true =>
      simp only [pixelResidue] at clears ⊢
      simp only [clears, if_true]
  | false =>
      rw [uncleared_previous incremental within clears]
      simp only [pixelResidue] at clears ⊢
      simp only [clears, Bool.false_eq_true, if_false]

/-! ## When no pixel is unsettled -/

/-- The surface is drawn where its bounds say: no clip offset is added to its
position. -/
structure Unshifted (surface : SurfaceUpsert) : Prop where
  x : (localRectangle surface).x = 0
  y : (localRectangle surface).y = 0
  fitsX : coordinateFits surface.logicalX = true
  fitsY : coordinateFits surface.logicalY = true

theorem int32Sum_zero {value : Int} (fits : coordinateFits value = true) :
    int32Sum value 0 = value := by
  rw [coordinateFits_iff] at fits
  simp only [int32Minimum, int32Maximum] at fits
  unfold int32Sum
  rw [Int.add_zero]
  apply Int.bmod_eq_of_le <;> omega

/-- What `composite` samples of a surface is its visible part. -/
theorem sampledPart {surface : SurfaceUpsert} {mapping : BufferMapping}
    (buffer : ValidBuffer surface mapping) :
    (localRectangle surface).intersection (extentRectangle surface) =
      visiblePart surface := by
  have full : (extentRectangle surface).empty = false := by
    have width := buffer.wellformed.width
    have height := buffer.wellformed.height
    rw [buffer.width] at width
    rw [buffer.height] at height
    simp [empty, extentRectangle, width, height]
  unfold localRectangle visiblePart
  split
  · exact intersection_comm _ _
  · exact intersection_of_within (.refl _) buffer.extent full buffer.extent

theorem surfaceSource_unshifted {surface : SurfaceUpsert}
    {mapping : BufferMapping} (buffer : ValidBuffer surface mapping)
    (unshifted : Unshifted surface) (x y : Int) :
    surfaceSource (outputBounds output) surface mapping x y =
      if inside (surfaceBounds surface output) x y then
        some (x - surface.logicalX, y - surface.logicalY)
      else none := by
  unfold surfaceSource compositeSource surfaceBounds placedPart
  rw [sourceBounds_eq buffer, sampledPart buffer, unshifted.x, unshifted.y,
    int32Sum_zero unshifted.fitsX, int32Sum_zero unshifted.fitsY]
  cases visiblePart surface with
  | none => rfl
  | some sampled =>
      simp only [Option.bind_eq_bind, Option.bind_some]
      rcases Option.eq_none_or_eq_some
        (sampled.translate surface.logicalX surface.logicalY) with
        placing | ⟨translated, placing⟩
      · simp [placing]
      · simp only [placing, Option.bind_some]
        obtain ⟨rfl, _⟩ := translate_some placing
        have column : sampled.x + x - (sampled.x + surface.logicalX) =
            x - surface.logicalX := by omega
        have row : sampled.y + y - (sampled.y + surface.logicalY) =
            y - surface.logicalY := by omega
        rw [column, row]

/-! ## Pixels that nothing else is painted on -/

/-- The position in its buffer of the pixel that a surface paints at a point
for a damage rectangle. -/
def redrawnSource (request : RenderFrameRequest) (output : OutputUpsert)
    (rectangle : Rectangle) (x y : Int) (surfaceId : Nat) :
    Option (Int × Int) := do
  let surface ← request.scene.surfaces[surfaceId]?
  let mapping ← attachedMapping request surfaceId
  if redrawn output rectangle surface then
    surfaceSource (outputBounds output) surface mapping x y
  else none

/-- The position of the pixel that the surface is due at the point. -/
def dueSource (request : RenderFrameRequest) (output : OutputUpsert)
    (x y : Int) (surfaceId : Nat) : Option (Int × Int) := do
  let surface ← request.scene.surfaces[surfaceId]?
  let _ ← attachedMapping request surfaceId
  if drawn surface && inside (surfaceBounds surface output) x y then
    some (x - surface.logicalX, y - surface.logicalY)
  else none

def clearsPoint (output : OutputUpsert) (rectangle : Rectangle) (x y : Int) :
    Bool :=
  inside (rectangle.intersection (outputBounds output)) x y

/-- For the damage rectangle the pixel is left alone. -/
def Untouched (request : RenderFrameRequest) (output : OutputUpsert)
    (x y : Int) (rectangle : Rectangle) : Prop :=
  clearsPoint output rectangle x y = false ∧
    ∀ id ∈ request.stackingOrder,
      redrawnSource request output rectangle x y id = none

/-- Nothing but what is due was painted on the pixel since the last damage
rectangle that contains it; or no rectangle contains it, nothing was painted on
it, and the previous frame was copied. -/
def Undisturbed (request : RenderFrameRequest) (output : OutputUpsert)
    (x y : Int) : Prop :=
  (∃ earlier last later, request.damage = earlier ++ last :: later ∧
    clearsPoint output last x y = true ∧
    (∀ id ∈ request.stackingOrder,
      redrawnSource request output last x y id =
        dueSource request output x y id) ∧
    ∀ rectangle ∈ later, Untouched request output x y rectangle) ∨
  (copied request output = true ∧
    ∀ rectangle ∈ request.damage, Untouched request output x y rectangle)

/-- The pixel of a surface at a position in its buffer, as a stroke. -/
def positionStroke (request : RenderFrameRequest) (surfaceId : Nat)
    (position : Int × Int) : Option Stroke := do
  let surface ← request.scene.surfaces[surfaceId]?
  let mapping ← attachedMapping request surfaceId
  return bufferStroke surface mapping position

theorem redrawnStroke_source (rectangle : Rectangle) (x y : Int) (id : Nat) :
    redrawnStroke request output rectangle x y id =
      (redrawnSource request output rectangle x y id).bind
        (positionStroke request id) := by
  unfold redrawnStroke redrawnSource positionStroke
  cases request.scene.surfaces[id]? with
  | none => rfl
  | some surface =>
      cases attachedMapping request id with
      | none => rfl
      | some mapping =>
          simp only [Option.bind_eq_bind, Option.bind_some]
          split
          · rw [surfaceStroke_source]
            cases surfaceSource (outputBounds output) surface mapping x y <;>
              rfl
          · rfl

theorem dueStroke_source (x y : Int) (id : Nat) :
    dueStroke request output x y id =
      (dueSource request output x y id).bind (positionStroke request id) := by
  unfold dueStroke dueSource positionStroke
  cases request.scene.surfaces[id]? with
  | none => rfl
  | some surface =>
      cases attachedMapping request id with
      | none => rfl
      | some mapping =>
          simp only [Option.bind_eq_bind, Option.bind_some]
          split <;> rfl

theorem damagePass_untouched {rectangle : Rectangle} {x y : Int}
    (untouched : Untouched request output x y rectangle) :
    damagePass request output x y rectangle =
      { clears := false, strokes := [] } := by
  obtain ⟨kept, bare⟩ := untouched
  have nothing : request.stackingOrder.filterMap
      (redrawnStroke request output rectangle x y) = [] := by
    apply List.filterMap_eq_nil_iff.mpr
    intro id ordered
    rw [redrawnStroke_source, bare id ordered]
    rfl
  rw [damagePass, nothing]
  congr 1

theorem damagePass_due {rectangle : Rectangle} {x y : Int}
    (clears : clearsPoint output rectangle x y = true)
    (due : ∀ id ∈ request.stackingOrder,
      redrawnSource request output rectangle x y id =
        dueSource request output x y id) :
    damagePass request output x y rectangle =
      { clears := true, strokes := dueStrokes request output x y } := by
  unfold damagePass dueStrokes
  congr 1
  apply List.filterMap_congr
  intro id ordered
  rw [redrawnStroke_source, due id ordered, dueStroke_source]

theorem Undisturbed.settled {x y : Int}
    (undisturbed : Undisturbed request output x y) :
    Settled request output x y := by
  unfold Settled pixelResidue pixelHistory
  rcases undisturbed with ⟨earlier, last, later, damage, clears, due, rest⟩ |
    ⟨copies, rest⟩
  · left
    rw [damage, List.map_append, List.map_cons, damagePass_due clears due,
      ← List.cons_append]
    exact residue_last rfl (fun pass member => by
      obtain ⟨rectangle, listed, rfl⟩ := List.mem_map.mp member
      exact damagePass_untouched (rest rectangle listed))
  · right
    rw [copies, ← List.singleton_append]
    exact residue_idle (fun pass member => by
      obtain ⟨rectangle, listed, rfl⟩ := List.mem_map.mp member
      exact damagePass_untouched (rest rectangle listed))

/-- For a rectangle that contains the pixel, surfaces without a clip offset
paint what they are due. -/
theorem redrawnSource_due (valid : ValidScene request output)
    (unshifted : ∀ id ∈ request.stackingOrder, ∀ surface,
      request.scene.surfaces[id]? = some surface → Unshifted surface)
    {rectangle : Rectangle} {x y : Int}
    (clears : clearsPoint output rectangle x y = true) :
    ∀ id ∈ request.stackingOrder,
      redrawnSource request output rectangle x y id =
        dueSource request output x y id := by
  intro id ordered
  unfold redrawnSource dueSource
  obtain ⟨surface, found⟩ := KeyMap.mem_iff.mp (valid.order id ordered)
  simp only [found, Option.bind_eq_bind, Option.bind_some]
  by_cases shown : drawn surface = true
  · obtain ⟨mapping, attached, buffer⟩ := valid.buffers id surface found shown
    simp only [attached, Option.bind_some, redrawn, shown, Bool.true_and,
      surfaceSource_unshifted buffer (unshifted id ordered surface found)]
    cases bounds : surfaceBounds surface output with
    | none => simp
    | some area =>
        by_cases contains : area.Contains x y
        · obtain ⟨common, meets, within⟩ : ∃ common,
              rectangle.intersection (outputBounds output) = some common ∧
                common.Contains x y := by
            simpa [clearsPoint, inside, Option.any_eq_true] using clears
          have areaValid : area.hasValidExtents = true := by
            unfold surfaceBounds at bounds
            obtain ⟨_, _, meeting⟩ := Option.bind_eq_some_iff.mp bounds
            exact (intersection_some meeting).2.2.1
          obtain ⟨overlap, overlaps⟩ := intersection_isSome areaValid
            (intersection_some meets).1 contains
            ((intersection_contains meets x y).mp within).1
          simp [overlaps, inside, contains]
        · simp [inside, contains]
  · cases attachedMapping request id <;> simp [redrawn, shown]

/-- A frame on whose pixels nothing but what is due was painted is the full
composition, and none is whose surfaces have no place. -/
theorem renders_composition_undisturbed {earlier : RenderFrameRequest}
    {earlierOutput : OutputUpsert}
    (incremental : IncrementalFrame request output earlier earlierOutput) :
    (RendersComposition request output → Placeable request output) ∧
      (Placeable request output →
        (∀ x y, (outputBounds output).Contains x y →
          Undisturbed request output x y) →
            RendersComposition request output) := by
  have completes := render_complete_iff incremental.scene
  constructor
  · intro renders
    exact completes.mp renders.1
  · intro placeable undisturbed
    have complete := completes.mpr placeable
    refine ⟨complete, fun x y within => ?_⟩
    rw [render_pixel_iff incremental complete within]
    exact (undisturbed x y within).settled.harmless

end

/-! ## Two pixels under a half-opaque surface -/

def pairOutput : OutputUpsert :=
  { outputId := 1
    enabled := true
    logicalWidth := 2
    logicalHeight := 1
    physicalPixelWidth := 2
    physicalPixelHeight := 1 }

def pairSurface : SurfaceUpsert :=
  { surfaceId := 10
    outputId := 1
    logicalWidth := 2
    logicalHeight := 1
    visible := true
    opacity := 32768 }

def pairMapping (left right : UInt32) : BufferMapping :=
  { bufferId := 20
    width := 2
    height := 1
    stride := 8
    size := 8
    word := fun offset => if offset = 0 then left else right }

def pairRequest (left : UInt32) (damage : List Rectangle)
    (previous : Option SoftwareFrame) : RenderFrameRequest :=
  { scene := {
      output := some pairOutput
      surfaces := (∅ : KeyMap SurfaceUpsert).insert 10 pairSurface }
    stackingOrder := [10]
    mappings :=
      (∅ : KeyMap BufferMapping).insert 20 (pairMapping left 0xff0000)
    attachments := (∅ : KeyMap Nat).insert 10 20
    damage, previous }

def earlierPair : RenderFrameRequest := pairRequest 0xff0000 [] none

/-- The left pixel of the buffer has turned green since the earlier frame. -/
def laterPair (damage : List Rectangle) : RenderFrameRequest :=
  pairRequest 0x00ff00 damage
    (some {
      id := 1
      width := 2
      height := 1
      enabled := true
      pixels := composition earlierPair pairOutput })

theorem pairRequest_surface {left : UInt32} {damage : List Rectangle}
    {previous : Option SoftwareFrame} {id : Nat} {surface : SurfaceUpsert}
    (found : (pairRequest left damage previous).scene.surfaces[id]? =
      some surface) : id = 10 ∧ surface = pairSurface := by
  simp only [pairRequest, KeyMap.lookup_insert] at found
  split at found
  · rename_i same
    exact ⟨same.symm, (Option.some.inj found).symm⟩
  · simp at found

theorem pairRequest_valid (left : UInt32) (damage : List Rectangle)
    (previous : Option SoftwareFrame) :
    ValidScene (pairRequest left damage previous) pairOutput where
  present := rfl
  enabled := rfl
  shape := by decide
  surfaces := by
    intro id surface found
    obtain ⟨_, rfl⟩ := pairRequest_surface found
    decide
  order := by
    intro id ordered
    obtain rfl := List.mem_singleton.mp ordered
    simp [pairRequest]
  buffers := by
    intro id surface found _
    obtain ⟨rfl, rfl⟩ := pairRequest_surface found
    refine ⟨pairMapping left 0xff0000, ?_, ?_, rfl, rfl, ?_⟩
    · simp [attachedMapping, pairRequest]
    · constructor <;> simp [pairMapping, maximumMappingBytes]
    · intro format
      cases format

theorem pair_pixels {x y : Int}
    (within : (outputBounds pairOutput).Contains x y) :
    (x = 0 ∨ x = 1) ∧ y = 0 := by
  simp only [outputBounds, pairOutput, Contains, right, bottom] at within
  omega

theorem laterPair_incremental {damage : List Rectangle}
    (covers : DamageCovers damage 0 0) :
    IncrementalFrame (laterPair damage) pairOutput earlierPair pairOutput where
  scene := pairRequest_valid _ _ _
  previous := by
    intro previous same _
    obtain rfl := Option.some.inj same
    exact ⟨rfl, rfl, rfl, fun x y _ => rfl⟩
  damage := by
    intro x y within different
    obtain ⟨rfl | rfl, rfl⟩ := pair_pixels within
    · exact covers
    · -- neither composition looks at the damage
      have same : composition (laterPair []) pairOutput 1 0 =
          composition earlierPair pairOutput 1 0 := by decide
      exact absurd same different

/-- With all of the output damaged the frame is the composition. -/
theorem renders_composition_pair :
    RendersComposition (laterPair [{ width := 2, height := 1 }]) pairOutput := by
  have covers : DamageCovers [{ width := 2, height := 1 }] 0 0 :=
    ⟨_, List.mem_singleton_self _, by decide, by decide⟩
  refine (renders_composition_undisturbed (laterPair_incremental covers)).2
    ?_ ?_
  · intro rectangle damaged id ordered surface mapping found attached _
    obtain ⟨rfl, rfl⟩ := pairRequest_surface found
    simp only [attachedMapping, laterPair, pairRequest, KeyMap.lookup_insert,
      if_true, Option.bind_some, Option.some.injEq] at attached
    subst attached
    decide
  · intro x y within
    have clears : clearsPoint pairOutput { width := 2, height := 1 } x y =
        true := by
      obtain ⟨rfl | rfl, rfl⟩ := pair_pixels within <;> decide
    refine .inl ⟨[], _, [], rfl, clears, ?_, List.forall_mem_nil _⟩
    refine redrawnSource_due (pairRequest_valid _ _ _) ?_ clears
    intro id _ surface found
    obtain ⟨_, rfl⟩ := pairRequest_surface found
    constructor <;> decide

/-- Only the left pixel is damaged; the right one is painted a second time. -/
theorem translucent_surface_painted_twice :
    IncrementalFrame (laterPair [{ width := 1, height := 1 }]) pairOutput
        earlierPair pairOutput ∧
      ¬RendersComposition (laterPair [{ width := 1, height := 1 }])
        pairOutput := by
  refine ⟨laterPair_incremental
    ⟨_, List.mem_singleton_self _, by decide, by decide⟩, ?_⟩
  rintro ⟨_, pixels⟩
  have painted := pixels 1 0 (by decide)
  revert painted
  decide

end Glasswyrm.Render
