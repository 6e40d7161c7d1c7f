import Glasswyrm.Library.Bytes

namespace Glasswyrm.Library

/-! Records of little-endian fields of fixed widths. -/

/-- The ways in which bytes fail to be a record. -/
inductive CodecStatus
  | truncated
  | trailingData
  | invalidValue
deriving DecidableEq, Repr

/-- The bytes of the given fields, each a width and a value. -/
def writeRecord (fields : List (Nat × Nat)) : List UInt8 :=
  fields.flatMap fun (width, value) => littleBytes width value

/-- The values of fields of the given widths. -/
def readRecord : List Nat → List UInt8 → Except CodecStatus (List Nat)
  | [], [] => .ok []
  | [], _ :: _ => .error .trailingData
  | width :: widths, bytes =>
      if bytes.length < width then .error .truncated
      else
        (readRecord widths (bytes.drop width)).map
          (littleValue (bytes.take width) :: ·)

/-- The hash of one field after the other. -/
def hashFields (fields : List (Nat × Nat)) (hash : UInt64) : UInt64 :=
  fields.foldl (fun hash (width, value) => hashLittle width value hash) hash

theorem writeRecord_nil : writeRecord [] = [] := rfl

theorem writeRecord_cons (width value : Nat) (rest : List (Nat × Nat)) :
    writeRecord ((width, value) :: rest) =
      littleBytes width value ++ writeRecord rest := rfl

variable {widths values : List Nat} {bytes : List UInt8}

theorem readRecord_cons {width : Nat}
    (success : readRecord (width :: widths) bytes = .ok values) :
    ∃ rest, width ≤ bytes.length ∧
      readRecord widths (bytes.drop width) = .ok rest ∧
      values = littleValue (bytes.take width) :: rest := by
  rw [readRecord] at success
  split at success
  · cases success
  · cases found : readRecord widths (bytes.drop width) with
    | error status =>
        rw [found] at success
        cases success
    | ok rest =>
        rw [found] at success
        exact ⟨rest, by omega, rfl, (Except.ok.inj success).symm⟩

/-- Bytes are a record in one way only. -/
theorem writeRecord_readRecord
    (success : readRecord widths bytes = .ok values) :
    writeRecord (widths.zip values) = bytes := by
  induction widths generalizing bytes values with
  | nil =>
      cases bytes with
      | nil => rfl
      | cons byte rest => cases success
  | cons width widths ih =>
      obtain ⟨rest, long, later, rfl⟩ := readRecord_cons success
      have field := littleBytes_littleValue (bytes.take width)
      rw [List.length_take, Nat.min_eq_left long] at field
      have others := ih later
      rw [writeRecord] at others ⊢
      rw [List.zip_cons_cons, List.flatMap_cons, others]
      simp only [field, List.take_append_drop]

theorem hashFields_eq (fields : List (Nat × Nat)) (hash : UInt64) :
    hashFields fields hash = hashBytes (writeRecord fields) hash := by
  induction fields generalizing hash with
  | nil => rfl
  | cons field fields ih =>
      rw [writeRecord_cons, hashBytes_append, ← ih]
      rfl

end Glasswyrm.Library
