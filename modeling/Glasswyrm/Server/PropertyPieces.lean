import Glasswyrm.Server.PropertyRun

namespace Glasswyrm.Server

open Library
open X11 (ScreenModel)

/-! A property that is read piece by piece. -/

structure PropertyRead where
  deleteAfterRead : Bool := false
  longLength : Nat := 0
deriving DecidableEq, Repr

namespace PropertyTable

/-- Reads that each begin where the one before has ended, as far as there is
something after it. -/
def readInPieces (table : PropertyTable) (window atom requestedType : Nat) :
    Nat → List PropertyRead →
      List (PropertyRead × PropertyReadResult) × PropertyTable
  | _, [] => ([], table)
  | longOffset, read :: reads =>
      let (result, next) := table.getProperty window atom requestedType
        read.deleteAfterRead longOffset read.longLength
      if result.value.bytesAfter = 0 then ([(read, result)], next)
      else
        let (pieces, final) := next.readInPieces window atom requestedType
          (longOffset + result.value.data.byteSize / 4) reads
        ((read, result) :: pieces, final)

/-- The last piece is the one with nothing after it. -/
def Finished (pieces : List (PropertyRead × PropertyReadResult)) : Prop :=
  ∃ piece ∈ pieces.getLast?, piece.2.value.bytesAfter = 0

/-- The data of the pieces after what is there. -/
def joined (data : PropertyData)
    (pieces : List (PropertyRead × PropertyReadResult)) : PropertyData :=
  pieces.foldl (fun data piece =>
    concatenatePropertyData data piece.2.value.data) data

end PropertyTable

/-- The piece of a value that a read within it gives. -/
def pieceOf (property : Property) (longOffset : Nat) (read : PropertyRead) :
    PropertyReadResult :=
  let available := property.byteSize - longOffset * 4
  let returned := min available (read.longLength * 4)
  { present := true
    typeMatched := true
    deleted := read.deleteAfterRead && decide (available - returned = 0)
    value :=
      { type := property.type
        format := property.format
        bytesAfter := available - returned
        data := slicePropertyData property.data (longOffset * 4) returned } }

/-! ## The pieces of a value -/

variable {property : Property}

@[simp] theorem pieceOf_deleted (longOffset : Nat) (read : PropertyRead) :
    (pieceOf property longOffset read).deleted =
      (read.deleteAfterRead &&
        decide ((pieceOf property longOffset read).value.bytesAfter = 0)) :=
  rfl

/-- What a piece holds and what is after it make what was left. -/
theorem pieceOf_bytes {longOffset : Nat}
    (within : longOffset * 4 ≤ property.byteSize) (read : PropertyRead) :
    (pieceOf property longOffset read).value.bytesAfter +
        (pieceOf property longOffset read).value.data.byteSize =
      property.byteSize - longOffset * 4 := by
  have aligned : property.data.itemSize ∣
      min (property.byteSize - longOffset * 4) (read.longLength * 4) := by
    rcases Nat.le_total (property.byteSize - longOffset * 4)
      (read.longLength * 4) with all | part
    · rw [Nat.min_eq_left all]
      exact Nat.dvd_sub PropertyData.itemSize_dvd_byteSize
        (Nat.dvd_trans PropertyData.itemSize_dvd_four (Nat.dvd_mul_left _ _))
    · rw [Nat.min_eq_right part]
      exact Nat.dvd_trans PropertyData.itemSize_dvd_four (Nat.dvd_mul_left _ _)
  have room : longOffset * 4 +
      min (property.byteSize - longOffset * 4) (read.longLength * 4) ≤
        property.byteSize := by omega
  have size := PropertyData.slice_byteSize (Nat.dvd_mul_left 4 longOffset)
    aligned room
  unfold pieceOf
  dsimp only
  rw [size]
  omega

/-- A piece with something after it is as long as was asked for, and the next
one begins where it ends. -/
theorem pieceOf_more {longOffset : Nat}
    (within : longOffset * 4 ≤ property.byteSize) {read : PropertyRead}
    (more : (pieceOf property longOffset read).value.bytesAfter ≠ 0) :
    (pieceOf property longOffset read).value.data.byteSize =
        read.longLength * 4 ∧
      (longOffset + read.longLength) * 4 ≤ property.byteSize := by
  have bytes := pieceOf_bytes within read
  have after : (pieceOf property longOffset read).value.bytesAfter =
      property.byteSize - longOffset * 4 -
        min (property.byteSize - longOffset * 4) (read.longLength * 4) := rfl
  omega

/-- The value up to the end of a piece. -/
theorem pieceOf_joins {longOffset : Nat}
    (within : longOffset * 4 ≤ property.byteSize) (read : PropertyRead) :
    concatenatePropertyData
        (slicePropertyData property.data 0 (longOffset * 4))
        (pieceOf property longOffset read).value.data =
      slicePropertyData property.data 0
        (property.byteSize -
          (pieceOf property longOffset read).value.bytesAfter) := by
  unfold pieceOf
  dsimp only
  rw [PropertyData.slice_append (Nat.dvd_mul_left 4 longOffset)]
  congr 1
  omega

def piecesOf (property : Property) :
    Nat → List PropertyRead → List (PropertyRead × PropertyReadResult)
  | _, [] => []
  | longOffset, read :: reads =>
      let piece := pieceOf property longOffset read
      if piece.value.bytesAfter = 0 then [(read, piece)]
      else (read, piece) :: piecesOf property (longOffset + read.longLength) reads

/-- What holds of each piece, with the pieces before it and after it. -/
theorem piecesOf_split {longOffset : Nat} {reads : List PropertyRead}
    (within : longOffset * 4 ≤ property.byteSize)
    {front back : List (PropertyRead × PropertyReadResult)}
    {piece : PropertyRead × PropertyReadResult}
    (whole : piecesOf property longOffset reads = front ++ piece :: back) :
    (∃ start, piece.2 = pieceOf property start piece.1) ∧
      piece.2.value.bytesAfter +
          ((front ++ [piece]).map (·.2.value.data.byteSize)).sum =
        property.byteSize - longOffset * 4 ∧
      (piece.2.value.bytesAfter = 0 → back = []) := by
  induction reads generalizing longOffset front with
  | nil => simp [piecesOf] at whole
  | cons read reads ih =>
      have bytes := pieceOf_bytes within read
      unfold piecesOf at whole
      dsimp only at whole
      split at whole
      · obtain ⟨rfl, same⟩ | ⟨rest, _, none⟩ := List.cons_eq_append_iff.mp whole
        · obtain ⟨rfl, rfl⟩ := List.cons.inj same
          exact ⟨⟨longOffset, rfl⟩, by simpa using bytes, fun _ => rfl⟩
        · simp at none
      · rename_i more
        obtain ⟨rfl, same⟩ | ⟨rest, rfl, later⟩ :=
          List.cons_eq_append_iff.mp whole
        · obtain ⟨rfl, rfl⟩ := List.cons.inj same
          exact ⟨⟨longOffset, rfl⟩, by simpa using bytes,
            fun last => absurd last more⟩
        · obtain ⟨size, next⟩ := pieceOf_more within more
          obtain ⟨shaped, sum, last⟩ := ih next later
          refine ⟨shaped, ?_, last⟩
          rw [List.cons_append, List.map_cons, List.sum_cons]
          dsimp only
          omega

theorem piecesOf_cons_finished {longOffset : Nat} {read : PropertyRead}
    {reads : List PropertyRead}
    (more : (pieceOf property longOffset read).value.bytesAfter ≠ 0) :
    PropertyTable.Finished (piecesOf property longOffset (read :: reads)) ↔
      PropertyTable.Finished
        (piecesOf property (longOffset + read.longLength) reads) := by
  unfold PropertyTable.Finished
  rw [piecesOf]
  rw [if_neg more]
  cases piecesOf property (longOffset + read.longLength) reads with
  | nil => simpa using more
  | cons head tail => rw [List.getLast?_cons_cons]

/-- Enough reads that each ask for something come to the end. -/
theorem piecesOf_finishes {longOffset : Nat} {reads : List PropertyRead}
    (within : longOffset * 4 ≤ property.byteSize) (nonempty : reads ≠ [])
    (asks : ∀ read ∈ reads, 0 < read.longLength)
    (enough : property.byteSize - longOffset * 4 ≤ 4 * reads.length) :
    PropertyTable.Finished (piecesOf property longOffset reads) := by
  induction reads generalizing longOffset with
  | nil => exact absurd rfl nonempty
  | cons read reads ih =>
      have asked := asks read List.mem_cons_self
      rw [List.length_cons] at enough
      by_cases last : (pieceOf property longOffset read).value.bytesAfter = 0
      · rw [piecesOf]
        rw [if_pos last]
        exact ⟨_, rfl, last⟩
      · have bytes := pieceOf_bytes within read
        obtain ⟨size, next⟩ := pieceOf_more within last
        refine (piecesOf_cons_finished last).mpr (ih next ?_
          (fun read member => asks read (.tail _ member)) (by omega))
        rintro rfl
        rw [List.length_nil] at enough
        omega

/-- Pieces that are finished make the value. -/
theorem piecesOf_joined {longOffset : Nat} {reads : List PropertyRead}
    (within : longOffset * 4 ≤ property.byteSize)
    (finished : PropertyTable.Finished (piecesOf property longOffset reads)) :
    PropertyTable.joined (slicePropertyData property.data 0 (longOffset * 4))
      (piecesOf property longOffset reads) = property.data := by
  induction reads generalizing longOffset with
  | nil => simp [PropertyTable.Finished, piecesOf] at finished
  | cons read reads ih =>
      have joins := pieceOf_joins within read
      rw [piecesOf]
      split
      · rename_i last
        rw [last, Nat.sub_zero] at joins
        exact joins.trans PropertyData.slice_all
      · rename_i more
        have ended := (piecesOf_cons_finished more).mp finished
        obtain ⟨size, next⟩ := pieceOf_more within more
        have bytes := pieceOf_bytes within read
        have upTo : property.byteSize -
            (pieceOf property longOffset read).value.bytesAfter =
              (longOffset + read.longLength) * 4 := by omega
        rw [upTo] at joins
        rw [PropertyTable.joined, List.foldl_cons, joins]
        exact ih next ended

section

variable {table : PropertyTable} {window atom requestedType : Nat}
  {property : Property}
  (alive : (table.resources.findWindow window).isSome)
  (found : (table.windowProperties window)[atom]? = some property)
  (matched : requestedType = 0 ∨ requestedType = property.type)
  (small : property.byteSize < 2 ^ 32)

include alive found matched small

namespace PropertyTable

theorem getProperty_within {longOffset : Nat}
    (within : longOffset * 4 ≤ property.byteSize) (read : PropertyRead) :
    table.getProperty window atom requestedType read.deleteAfterRead longOffset
        read.longLength =
      (pieceOf property longOffset read,
        if (pieceOf property longOffset read).deleted then
          table.withoutProperty window atom property
        else table) := by
  obtain ⟨resource, isWindow⟩ := Option.isSome_iff_exists.mp alive
  have fits : (requestedType ≠ 0 && requestedType ≠ property.type) = false := by
    rcases matched with any | same
    · simp [any]
    · simp [same]
  have whole : ∀ returned, (property.byteSize - longOffset * 4 - returned) %
      2 ^ 32 = property.byteSize - longOffset * 4 - returned := fun returned =>
    Nat.mod_eq_of_lt (by omega)
  unfold getProperty pieceOf
  rw [isWindow, found]
  dsimp only
  rw [if_neg (Nat.not_lt.mpr within), fits, whole, if_neg Bool.false_ne_true]
  split
  · rename_i ends
    rw [ends]
  · rename_i stays
    rw [Bool.not_eq_true] at stays
    rw [stays]

/-- What is read in pieces are the pieces of the value, and the property goes
with a piece that deletes it. -/
theorem readInPieces_eq {longOffset : Nat}
    (within : longOffset * 4 ≤ property.byteSize) (reads : List PropertyRead) :
    table.readInPieces window atom requestedType longOffset reads =
      (piecesOf property longOffset reads,
        if (piecesOf property longOffset reads).any (·.2.deleted) then
          table.withoutProperty window atom property
        else table) := by
  induction reads generalizing longOffset with
  | nil => rfl
  | cons read reads ih =>
      rw [readInPieces, getProperty_within alive found matched small within,
        piecesOf]
      dsimp only
      split
      · rw [List.any_cons, List.any_nil, Bool.or_false]
      · rename_i more
        obtain ⟨size, next⟩ := pieceOf_more within more
        have stays : (pieceOf property longOffset read).deleted = false := by
          simp [more]
        rw [stays, if_neg Bool.false_ne_true, size,
          Nat.mul_div_cancel _ (by decide : 0 < 4), ih next, List.any_cons,
          stays, Bool.false_or]

end PropertyTable

end

/-- After any calls the count is that of what is stored, a change that succeeds
stores its replacement, and what is read of a property in pieces until nothing
is after it makes its value: enough reads come to that, what is after each
piece is what the pieces up to it lack, only the last has nothing after it, and
the property goes with the last if that is to delete it. -/
theorem PropertyTable.chunked_reads (screen : ScreenModel)
    (calls : List PropertyCall) :
    let table := run perform (initial screen) calls
    (table.totalPropertyBytes = table.storedBytes ∧
      ∀ window ∈ table.properties,
        (table.resources.findWindow window).isSome) ∧
    (∀ (window atom : Nat) (value : Property) (mode : PropertyMode),
      let answer := table.changeProperty window atom value mode
      if answer.1 = .success then
        ∀ other key, (answer.2.windowProperties other)[key]? =
          if window = other ∧ atom = key then
            some (replacementFor (table.windowProperties window)[atom]? value
              mode)
          else (table.windowProperties other)[key]?
      else answer.2 = table) ∧
    ∀ (window atom requestedType : Nat) (property : Property)
      (reads : List PropertyRead),
      (table.resources.findWindow window).isSome →
      (table.windowProperties window)[atom]? = some property →
      (requestedType = 0 ∨ requestedType = property.type) →
      let read := table.readInPieces window atom requestedType 0 reads
      (Finished read.1 →
        joined property.data.drained read.1 = property.data) ∧
      (reads ≠ [] → (∀ read ∈ reads, 0 < read.longLength) →
        property.byteSize ≤ 4 * reads.length → Finished read.1) ∧
      (∀ front piece back, read.1 = front ++ piece :: back →
        piece.2.value.bytesAfter +
            ((front ++ [piece]).map (·.2.value.data.byteSize)).sum =
          property.byteSize ∧
        (piece.2.value.bytesAfter = 0 → back = []) ∧
        (piece.2.deleted = true ↔
          piece.1.deleteAfterRead = true ∧ piece.2.value.bytesAfter = 0)) ∧
      read.2 =
        if read.1.any (·.2.deleted) then
          table.withoutProperty window atom property
        else table := by
  intro table
  have accounted := run_accounted screen calls
  refine ⟨⟨accounted.counted, fun window member => ?_⟩,
    table.changeProperty_stores, ?_⟩
  · obtain ⟨properties, stored⟩ := Option.isSome_iff_exists.mp
      (Std.ExtTreeMap.isSome_getElem?_iff_mem.mpr member)
    exact accounted.living window properties stored
  · intro window atom requestedType property reads alive found matched
    have small : property.byteSize < 2 ^ 32 :=
      Nat.lt_of_le_of_lt (accounted.sized_window found) accounted.narrow
    have start : 0 * 4 ≤ property.byteSize := by omega
    intro read
    rw [show read = _ from
      readInPieces_eq alive found matched small start reads]
    refine ⟨fun finished => ?_, fun nonempty asks enough => ?_, ?_, rfl⟩
    · have whole := piecesOf_joined start finished
      rwa [Nat.zero_mul, PropertyData.slice_none] at whole
    · exact piecesOf_finishes start nonempty asks enough
    · intro front piece back split
      obtain ⟨⟨offset, shaped⟩, sum, last⟩ := piecesOf_split start split
      refine ⟨sum, last, ?_⟩
      rw [shaped, pieceOf_deleted, Bool.and_eq_true, decide_eq_true_eq]

/-- The title of the root window, which is written and then added to. -/
def titledRoot : PropertyTable :=
  run PropertyTable.perform (.initial {})
    [.changeProperty 1 39
      { type := 31, data := .bytes [103, 108, 97, 115] } .replace,
     .changeProperty 1 39
      { type := 31, data := .bytes [115, 119, 121, 114, 109] } .append]

/-- Two words and what is left, which goes. -/
def titleReads : List PropertyRead :=
  [{ longLength := 1 }, { longLength := 1 },
   { deleteAfterRead := true, longLength := 1 }]

theorem PropertyTable.chunked_reads_title :
    let title : PropertyData :=
      .bytes [103, 108, 97, 115, 115, 119, 121, 114, 109]
    let read := titledRoot.readInPieces 1 39 31 0 titleReads
    titledRoot.totalPropertyBytes = titledRoot.storedBytes ∧
      joined title.drained read.1 = title ∧
      (read.2.windowProperties 1)[39]? = none := by
  intro title read
  obtain ⟨⟨counted, _⟩, _, reads⟩ := chunked_reads {}
    [.changeProperty 1 39
      { type := 31, data := .bytes [103, 108, 97, 115] } .replace,
     .changeProperty 1 39
      { type := 31, data := .bytes [115, 119, 121, 114, 109] } .append]
  have stored : (titledRoot.windowProperties 1)[39]? =
      some { type := 31, data := title } := by decide +kernel
  obtain ⟨whole, ends, _, left⟩ := reads 1 39 31 { type := 31, data := title }
    titleReads (by decide +kernel) stored (.inr rfl)
  refine ⟨counted, whole (ends (by decide) (by decide) (by decide)), ?_⟩
  rw [show read.2 = _ from left]
  decide +kernel

end Glasswyrm.Server
