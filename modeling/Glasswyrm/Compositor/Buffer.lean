import Glasswyrm.Compositor.SceneValidation

namespace Glasswyrm.Compositor

def maximumMappingBytes : Nat := 64 * 1024 * 1024

def uint64Maximum : Nat := 18446744073709551615

structure BufferAttach where
  bufferId : Nat := 0
  surfaceId : Nat := 0
  width : Nat := 0
  height : Nat := 0
  stride : Nat := 0
  byteOffset : Nat := 0
  storageSize : Nat := 0
  pixelFormat : PixelFormat := .xrgb8888
  modifier : Nat := 0
  alphaSemantics : AlphaSemantics := .opaquePixels
  color : SdrColorMetadata := {}
  synchronization : SynchronizationMode := .none
  flags : Nat := 0
deriving DecidableEq, Repr

structure BufferDetach where
  surfaceId : Nat := 0
  bufferId : Nat := 0
deriving DecidableEq, Repr

/-- The mapped memory is read by 32-bit words: `word offset` is the value
`load_u32` finds at that byte, and `size` is the length of the mapping. -/
structure BufferMapping where
  bufferId : Nat := 0
  width : Nat := 0
  height : Nat := 0
  stride : Nat := 0
  pixelFormat : PixelFormat := .xrgb8888
  synchronization : SynchronizationMode := .none
  size : Nat := 0
  word : Nat → UInt32 := fun _ => 0

def isSrgb (color : SdrColorMetadata) : Bool :=
  srgb color && !color.luminanceAvailable &&
    color.minimumLuminanceMillinit = 0 &&
    color.maximumLuminanceMillinit = 0 &&
    color.maxFrameAverageLuminanceMillinit = 0

/-- Checks in the order they are made, each with the error it reports. -/
def firstError (checks : List (Bool × String)) : Option String :=
  (checks.find? (·.1)).map (·.2)

theorem firstError_none_iff (checks : List (Bool × String)) :
    firstError checks = none ↔ ∀ check ∈ checks, check.1 = false := by
  simp [firstError]

def metadataError (value : BufferAttach) : Option String :=
  let xrgb := value.pixelFormat = .xrgb8888 ∧
    value.alphaSemantics = .opaquePixels
  let argb := value.pixelFormat = .argb8888 ∧
    value.alphaSemantics = .premultiplied
  let rowBytes := value.width * 4
  let rows := value.height - 1
  let required := rows * value.stride + rowBytes
  firstError [
    (value.bufferId = 0 || value.width = 0 || value.height = 0,
      "buffer id and geometry must be nonzero"),
    (value.byteOffset ≠ 0, "nonzero buffer offsets are unsupported"),
    (value.modifier ≠ 0, "only linear buffers are supported"),
    (value.flags ≠ 0, "unsupported synchronization mode or flags"),
    (!isSrgb value.color, "only SDR sRGB buffer metadata is supported"),
    (¬xrgb ∧ ¬argb, "pixel format and alpha semantics are incompatible"),
    (value.stride < rowBytes || value.stride % 4 ≠ 0,
      "buffer stride is invalid"),
    (rows ≠ 0 && (uint64Maximum - rowBytes) / rows < value.stride,
      "buffer geometry overflows storage calculation"),
    (value.storageSize < required, "declared buffer storage is too small"),
    (value.storageSize = 0 || maximumMappingBytes < value.storageSize,
      "buffer mapping size is unsupported")]

/-- What the operating system reports about the descriptors of an attachment:
whether they are open, and the mapped words or the text of the first call that
fails. -/
structure Descriptors where
  buffer : Bool := true
  synchronization : Bool := false
  mapped : Except String (Nat → UInt32) := .ok fun _ => 0

def BufferMapping.import (attachment : BufferAttach)
    (descriptors : Descriptors) : Except String BufferMapping :=
  let synchronized : Bool := attachment.synchronization = .eventfd
  if !descriptors.buffer then .error "buffer descriptor is invalid"
  else
    match metadataError attachment with
    | some error => .error error
    | none =>
        if synchronized ≠ descriptors.synchronization then
          .error "buffer synchronization descriptor count is invalid"
        else
          descriptors.mapped.map fun word => {
            bufferId := attachment.bufferId
            width := attachment.width
            height := attachment.height
            stride := attachment.stride
            pixelFormat := attachment.pixelFormat
            synchronization := attachment.synchronization
            size := attachment.storageSize
            word }

/-- Every row of the image lies within the mapping. -/
structure BufferMapping.Wellformed (mapping : BufferMapping) : Prop where
  width : mapping.width ≠ 0
  height : mapping.height ≠ 0
  stride : mapping.width * 4 ≤ mapping.stride
  rows : (mapping.height - 1) * mapping.stride + mapping.width * 4 ≤
    mapping.size
  size : mapping.size ≤ maximumMappingBytes

theorem metadataError_none {value : BufferAttach}
    (valid : metadataError value = none) :
    value.width ≠ 0 ∧ value.height ≠ 0 ∧ value.width * 4 ≤ value.stride ∧
      (value.height - 1) * value.stride + value.width * 4 ≤
        value.storageSize ∧ value.storageSize ≤ maximumMappingBytes := by
  simp only [metadataError, firstError_none_iff, List.forall_mem_cons,
    Bool.or_eq_false_iff, decide_eq_false_iff_not] at valid
  obtain ⟨⟨⟨_, width⟩, height⟩, _, _, _, _, _, ⟨stride, _⟩, _, storage,
    ⟨_, limit⟩, _⟩ := valid
  exact ⟨width, height, Nat.le_of_not_lt stride, Nat.le_of_not_lt storage,
    Nat.le_of_not_lt limit⟩

/-- The renderer may take every imported mapping to be well formed. -/
theorem BufferMapping.import_wellformed {attachment : BufferAttach}
    {descriptors : Descriptors} {mapping : BufferMapping}
    (imported : BufferMapping.import attachment descriptors = .ok mapping) :
    mapping.Wellformed := by
  unfold BufferMapping.import at imported
  simp only at imported
  split at imported
  · cases imported
  · split at imported
    · cases imported
    · rename_i valid
      split at imported
      · cases imported
      · cases mapped : descriptors.mapped with
        | error text => simp [mapped, Except.map] at imported
        | ok word =>
            simp only [mapped, Except.map, Except.ok.injEq] at imported
            obtain rfl := imported
            obtain ⟨width, height, stride, rows, size⟩ :=
              metadataError_none valid
            exact ⟨width, height, stride, rows, size⟩

end Glasswyrm.Compositor
