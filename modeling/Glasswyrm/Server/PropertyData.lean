import Mathlib.Data.List.Basic

namespace Glasswyrm.Server

/-! The values of properties: items of one, two or four bytes, of which clients
read pieces that are counted in words of four. -/

inductive PropertyData where
  | bytes (values : List UInt8)
  | shorts (values : List UInt16)
  | longs (values : List UInt32)
deriving DecidableEq, Repr

structure Property where
  type : Nat := 0
  data : PropertyData := .bytes []
deriving DecidableEq, Repr

inductive PropertyMode where
  | replace
  | prepend
  | append
deriving DecidableEq, Repr

structure PropertySlice where
  type : Nat := 0
  format : Nat := 0
  bytesAfter : Nat := 0
  data : PropertyData := .bytes []
deriving DecidableEq, Repr

namespace PropertyData

/-- The bytes of an item. -/
def itemSize : PropertyData → Nat
  | .bytes _ => 1
  | .shorts _ => 2
  | .longs _ => 4

def itemCount : PropertyData → Nat
  | .bytes values => values.length
  | .shorts values => values.length
  | .longs values => values.length

def byteSize (data : PropertyData) : Nat :=
  data.itemCount * data.itemSize

def format (data : PropertyData) : Nat :=
  data.itemSize * 8

end PropertyData

def sliceValues {α : Type} (size : Nat) (values : List α)
    (byteOffset byteLength : Nat) : List α :=
  let first := byteOffset / size
  let count := byteLength / size
  let last := min values.length (first + count)
  if values.length ≤ first then [] else (values.drop first).take (last - first)

def slicePropertyData (data : PropertyData) (byteOffset byteLength : Nat) :
    PropertyData :=
  match data with
  | .bytes values => .bytes (sliceValues 1 values byteOffset byteLength)
  | .shorts values => .shorts (sliceValues 2 values byteOffset byteLength)
  | .longs values => .longs (sliceValues 4 values byteOffset byteLength)

/-- Items of another size are not added. -/
def concatenatePropertyData : PropertyData → PropertyData → PropertyData
  | .bytes first, .bytes second => .bytes (first ++ second)
  | .shorts first, .shorts second => .shorts (first ++ second)
  | .longs first, .longs second => .longs (first ++ second)
  | first, _ => first

namespace Property

def format (property : Property) : Nat :=
  property.data.format

def byteSize (property : Property) : Nat :=
  property.data.byteSize

end Property

/-! ## Slices -/

section

variable {α : Type} {size : Nat} {values : List α}

theorem sliceValues_eq (byteOffset byteLength : Nat) :
    sliceValues size values byteOffset byteLength =
      (values.drop (byteOffset / size)).take (byteLength / size) := by
  unfold sliceValues
  dsimp only
  split
  · rename_i beyond
    rw [List.drop_eq_nil_of_le beyond, List.take_nil]
  · rename_i within
    rw [Nat.not_le] at within
    rw [List.take_eq_take_iff, List.length_drop]
    generalize byteOffset / size = skipped at within ⊢
    generalize byteLength / size = taken
    omega

/-- Two slices that follow each other make one. -/
theorem sliceValues_append {first second : Nat} (word : size ∣ first) :
    sliceValues size values 0 first ++
        sliceValues size values first second =
      sliceValues size values 0 (first + second) := by
  obtain rfl | whole := Nat.eq_zero_or_pos size
  · simp [sliceValues_eq]
  obtain ⟨items, rfl⟩ := word
  simp only [sliceValues_eq, Nat.zero_div, List.drop_zero,
    Nat.mul_div_cancel_left _ whole, Nat.mul_add_div whole, List.take_add]

theorem sliceValues_length (whole : 0 < size) {first length : Nat}
    (start : size ∣ first) (items : size ∣ length)
    (within : first + length ≤ values.length * size) :
    (sliceValues size values first length).length * size = length := by
  obtain ⟨skipped, rfl⟩ := start
  obtain ⟨taken, rfl⟩ := items
  rw [← Nat.mul_add, Nat.mul_comm values.length] at within
  have room := Nat.le_of_mul_le_mul_left within whole
  rw [sliceValues_eq, Nat.mul_div_cancel_left _ whole,
    Nat.mul_div_cancel_left _ whole, List.length_take, List.length_drop,
    Nat.min_eq_left (by omega), Nat.mul_comm]

end

namespace PropertyData

variable {data : PropertyData}

theorem itemSize_dvd_four : data.itemSize ∣ 4 := by
  cases data
  · exact ⟨4, rfl⟩
  · exact ⟨2, rfl⟩
  · exact ⟨1, rfl⟩

/-- The value without its items. -/
def drained : PropertyData → PropertyData
  | .bytes _ => .bytes []
  | .shorts _ => .shorts []
  | .longs _ => .longs []

theorem slice_none : slicePropertyData data 0 0 = data.drained := by
  cases data <;> simp [slicePropertyData, drained, sliceValues_eq]

theorem slice_all : slicePropertyData data 0 data.byteSize = data := by
  cases data <;>
    simp [slicePropertyData, byteSize, itemCount, itemSize, sliceValues_eq]

theorem slice_append {first second : Nat} (word : 4 ∣ first) :
    concatenatePropertyData (slicePropertyData data 0 first)
        (slicePropertyData data first second) =
      slicePropertyData data 0 (first + second) := by
  have items := Nat.dvd_trans (@itemSize_dvd_four data) word
  cases data <;>
    exact congrArg _ (sliceValues_append items)

theorem slice_byteSize {first length : Nat} (start : 4 ∣ first)
    (items : data.itemSize ∣ length)
    (within : first + length ≤ data.byteSize) :
    (slicePropertyData data first length).byteSize = length := by
  have aligned := Nat.dvd_trans (@itemSize_dvd_four data) start
  cases data <;>
    exact sliceValues_length (by decide) aligned items within

theorem itemSize_dvd_byteSize : data.itemSize ∣ data.byteSize :=
  Nat.dvd_mul_left _ _

end PropertyData

end Glasswyrm.Server
