import Glasswyrm.Library.Bytes

namespace Glasswyrm.X11

open Library

/-! Numbers in the byte order that a client chose. -/

inductive ByteOrder
  | littleEndian
  | bigEndian
deriving DecidableEq, Repr

namespace ByteOrder

def fromMarker (marker : UInt8) : Option ByteOrder :=
  if marker = 108 then some .littleEndian
  else if marker = 66 then some .bigEndian
  else none

def value (order : ByteOrder) (bytes : List UInt8) : Nat :=
  match order with
  | .littleEndian => littleValue bytes
  | .bigEndian => littleValue bytes.reverse

/-- The first `width` bytes as a number. -/
def read (order : ByteOrder) (width : Nat) (bytes : List UInt8) : Option Nat :=
  if bytes.length < width then none else some (order.value (bytes.take width))

def write (order : ByteOrder) (width value : Nat) : List UInt8 :=
  match order with
  | .littleEndian => littleBytes width value
  | .bigEndian => (littleBytes width value).reverse

variable {order : ByteOrder} {width number : Nat} {bytes : List UInt8}

@[simp] theorem write_length : (order.write width number).length = width := by
  cases order <;> simp [write]

/-- A number is read off bytes that are there. -/
theorem read_of_le (long : width ≤ bytes.length) :
    order.read width bytes = some (order.value (bytes.take width)) := by
  rw [read, if_neg (by omega)]

/-- What is read does not depend on what follows. -/
theorem read_append (long : width ≤ bytes.length) (more : List UInt8) :
    order.read width (bytes ++ more) = order.read width bytes := by
  rw [read_of_le long, read_of_le (by rw [List.length_append]; omega),
    List.take_append_of_le_length long]

end ByteOrder

end Glasswyrm.X11
