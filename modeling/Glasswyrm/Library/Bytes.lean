import Mathlib.Algebra.Group.Nat.Defs
import Mathlib.Data.List.Basic

namespace Glasswyrm.Library

/-! Little-endian bytes of fixed width, and the 64-bit FNV-1a hash over
them. -/

/-- The low bytes of a number, the least first. -/
def littleBytes : Nat → Nat → List UInt8
  | 0, _ => []
  | width + 1, value => UInt8.ofNat value :: littleBytes width (value / 256)

/-- A signed number as its unsigned two's complement. -/
def unsigned (width : Nat) (value : Int) : Nat :=
  (value % (256 ^ width : Nat)).toNat

/-- The number that bytes stand for, the least first. -/
def littleValue : List UInt8 → Nat
  | [] => 0
  | byte :: rest => byte.toNat + 256 * littleValue rest

/-- The signed number of the given width with these low bits. -/
def signed (width bits : Nat) : Int :=
  if bits < 256 ^ width / 2 then bits else (bits : Int) - (256 ^ width : Nat)

@[simp] theorem littleBytes_length (width value : Nat) :
    (littleBytes width value).length = width := by
  induction width generalizing value with
  | zero => rfl
  | succ width ih => rw [littleBytes, List.length_cons, ih]

/-- Bytes see a number only up to their width. -/
theorem littleBytes_mod (width value : Nat) :
    littleBytes width (value % 256 ^ width) = littleBytes width value := by
  induction width generalizing value with
  | zero => rfl
  | succ width ih =>
      have low : UInt8.ofNat (value % 256 ^ (width + 1)) =
          UInt8.ofNat value := by
        apply UInt8.toNat.inj
        rw [UInt8.toNat_ofNat', UInt8.toNat_ofNat', Nat.pow_succ,
          Nat.mul_comm]
        exact Nat.mod_mul_right_mod value 256 (256 ^ width)
      have high : value % 256 ^ (width + 1) / 256 =
          value / 256 % 256 ^ width := by
        rw [Nat.pow_succ, Nat.mul_comm, Nat.mod_mul_right_div_self]
      rw [littleBytes, littleBytes, low, high, ih]

theorem littleBytes_littleValue (bytes : List UInt8) :
    littleBytes bytes.length (littleValue bytes) = bytes := by
  induction bytes with
  | nil => rfl
  | cons byte rest ih =>
      have low : UInt8.ofNat (byte.toNat + 256 * littleValue rest) = byte := by
        apply UInt8.toNat.inj
        rw [UInt8.toNat_ofNat']
        have bound := byte.toNat_lt
        omega
      have high : (byte.toNat + 256 * littleValue rest) / 256 =
          littleValue rest := by
        have bound := byte.toNat_lt
        omega
      rw [List.length_cons, littleValue, littleBytes, low, high, ih]

theorem unsigned_signed (width bits : Nat) :
    unsigned width (signed width bits) = bits % 256 ^ width := by
  unfold unsigned signed
  split
  · rw [← Int.natCast_emod, Int.toNat_natCast]
  · rw [Int.sub_emod_right, ← Int.natCast_emod, Int.toNat_natCast]

/-! ## Hash -/

def hashByte (hash : UInt64) (value : UInt8) : UInt64 :=
  (hash ^^^ value.toUInt64) * 1099511628211

def hashBasis : UInt64 := 14695981039346656037

def hashBytes (bytes : List UInt8) (hash : UInt64) : UInt64 :=
  bytes.foldl hashByte hash

def hashLittle (width value : Nat) (hash : UInt64) : UInt64 :=
  hashBytes (littleBytes width value) hash

/-- The hash of a signed number. -/
def hashSigned (width : Nat) (value : Int) (hash : UInt64) : UInt64 :=
  hashLittle width (unsigned width value) hash

theorem hashBytes_append (first second : List UInt8) (hash : UInt64) :
    hashBytes (first ++ second) hash = hashBytes second (hashBytes first hash) :=
  List.foldl_append

theorem hashLittle_mod (width value : Nat) (hash : UInt64) :
    hashLittle width (value % 256 ^ width) hash = hashLittle width value hash := by
  rw [hashLittle, hashLittle, littleBytes_mod]

end Glasswyrm.Library
