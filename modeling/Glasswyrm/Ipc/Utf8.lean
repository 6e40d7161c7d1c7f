import Mathlib.Data.List.Basic

namespace Glasswyrm.Ipc

/-! The check of the texts that a wire record carries. -/

/-- A read of the view; `none` is a read past its end. -/
def byteAt (value : List UInt8) (index : Nat) : Option Nat :=
  value[index]?.map UInt8.toNat

/-- How many bytes a first byte announces, and the bits it contributes. -/
def leadByte (first : Nat) : Option (Nat × Nat) :=
  if first ≤ 0x7f then some (1, first)
  else if 0xc2 ≤ first ∧ first ≤ 0xdf then some (2, first &&& 0x1f)
  else if 0xe0 ≤ first ∧ first ≤ 0xef then some (3, first &&& 0x0f)
  else if 0xf0 ≤ first ∧ first ≤ 0xf4 then some (4, first &&& 0x07)
  else none

/-- The loop over the continuation bytes. The outer option is the read, the
inner one the answer. -/
def continuationBytes (value : List UInt8) :
    Nat → Nat → Nat → Option (Option Nat)
  | 0, _, codepoint => some (some codepoint)
  | remaining + 1, index, codepoint => do
      let byte ← byteAt value index
      if byte &&& 0xc0 ≠ 0x80 then some none
      else
        continuationBytes value remaining (index + 1)
          (codepoint <<< 6 ||| byte &&& 0x3f)

def overlong (count codepoint : Nat) : Bool :=
  (count = 2 && codepoint < 0x80) || (count = 3 && codepoint < 0x800) ||
    (count = 4 && codepoint < 0x10000)

/-- One turn of the loop: the bytes it consumes, unless it answers false. -/
def sequenceAt (value : List UInt8) (index : Nat) : Option (Option Nat) := do
  let first ← byteAt value index
  match leadByte first with
  | none => some none
  | some (count, bits) =>
      if value.length - index < count then some none
      else
        match ← continuationBytes value (count - 1) (index + 1) bits with
        | none => some none
        | some codepoint =>
            if overlong count codepoint ||
                (0xd800 ≤ codepoint && codepoint ≤ 0xdfff) ||
                0x10ffff < codepoint then some none
            else some (some count)

theorem leadByte_positive {first count bits : Nat}
    (lead : leadByte first = some (count, bits)) : 0 < count := by
  unfold leadByte at lead
  split_ifs at lead <;> cases lead <;> decide

theorem sequenceAt_positive {value : List UInt8} {index count : Nat}
    (consumed : sequenceAt value index = some (some count)) : 0 < count := by
  obtain ⟨first, _, consumed⟩ := Option.bind_eq_some_iff.mp consumed
  split at consumed
  · cases consumed
  · rename_i lead
    split at consumed
    · cases consumed
    · obtain ⟨answer, _, consumed⟩ := Option.bind_eq_some_iff.mp consumed
      split at consumed
      · cases consumed
      · split at consumed <;> cases consumed
        exact leadByte_positive lead

/-- The loop from an index on; `none` is a read past the end. -/
def validUtf8From (value : List UInt8) (index : Nat) : Option Bool :=
  if index < value.length then
    match consumed : sequenceAt value index with
    | none => none
    | some none => some false
    | some (some count) =>
        have := sequenceAt_positive consumed
        validUtf8From value (index + count)
  else some true
termination_by value.length - index

def validUtf8 (value : List UInt8) : Option Bool := validUtf8From value 0

/-! ## Well-formed texts -/

/-- A concatenation of encoded characters. A character is a Unicode scalar
value, and its encoding the shortest one. -/
def WellFormedUtf8 (value : List UInt8) : Prop :=
  ∃ text : List Char, value = text.flatMap String.utf8EncodeChar

/-- The scalar value of a character. -/
def IsScalar (codepoint : Nat) : Prop :=
  codepoint < 0xd800 ∨ 0xdfff < codepoint ∧ codepoint ≤ 0x10ffff

/-! ## Bits of a byte -/

theorem continuation_iff {byte : Nat} (small : byte < 256) :
    byte &&& 0xc0 = 0x80 ↔ 0x80 ≤ byte ∧ byte ≤ 0xbf := by
  have all : ∀ byte : Fin 256, byte.val &&& 0xc0 = 0x80 ↔
      0x80 ≤ byte.val ∧ byte.val ≤ 0xbf := by decide +kernel
  exact all ⟨byte, small⟩

theorem append_bits (codepoint byte : Nat) :
    codepoint <<< 6 ||| byte &&& 0x3f = codepoint * 64 + byte % 64 := by
  have low : byte &&& 0x3f = byte % 64 := Nat.and_two_pow_sub_one_eq_mod byte 6
  have bound : byte % 64 < 2 ^ 6 := Nat.mod_lt byte (by decide)
  rw [low, ← Nat.shiftLeft_add_eq_or_of_lt bound, Nat.shiftLeft_eq]

theorem lead_bits (first : Nat) :
    first &&& 0x1f = first % 32 ∧ first &&& 0x0f = first % 16 ∧
      first &&& 0x07 = first % 8 :=
  ⟨Nat.and_two_pow_sub_one_eq_mod first 5,
    Nat.and_two_pow_sub_one_eq_mod first 4,
    Nat.and_two_pow_sub_one_eq_mod first 3⟩

theorem byteAt_lt {value : List UInt8} {index byte : Nat}
    (read : byteAt value index = some byte) : byte < 256 := by
  obtain ⟨found, _, rfl⟩ := Option.map_eq_some_iff.mp read
  exact found.toNat_lt

theorem continuationBytes_read {value : List UInt8}
    {remaining index codepoint byte : Nat}
    (read : byteAt value index = some byte) :
    continuationBytes value (remaining + 1) index codepoint =
      if 0x80 ≤ byte ∧ byte ≤ 0xbf then
        continuationBytes value remaining (index + 1)
          (codepoint * 64 + byte % 64)
      else some none := by
  rw [continuationBytes, read, Option.bind_eq_bind, Option.bind_some,
    append_bits]
  simp only [ne_eq, continuation_iff (byteAt_lt read), ite_not]

/-! ## Reads stay inside -/

theorem byteAt_isSome {value : List UInt8} {index : Nat}
    (within : index < value.length) : ∃ byte, byteAt value index = some byte :=
  ⟨_, by rw [byteAt, List.getElem?_eq_getElem within, Option.map_some]⟩

theorem continuationBytes_isSome {value : List UInt8}
    {remaining index : Nat} (codepoint : Nat)
    (within : index + remaining ≤ value.length) :
    (continuationBytes value remaining index codepoint).isSome := by
  induction remaining generalizing index codepoint with
  | zero => rfl
  | succ remaining ih =>
      obtain ⟨byte, read⟩ :=
        byteAt_isSome (show index < value.length by omega)
      rw [continuationBytes_read read]
      split
      · exact ih _ (by omega)
      · rfl

theorem sequenceAt_isSome {value : List UInt8} {index : Nat}
    (within : index < value.length) : (sequenceAt value index).isSome := by
  obtain ⟨first, read⟩ := byteAt_isSome within
  rw [sequenceAt, read, Option.bind_eq_bind, Option.bind_some]
  split
  · rfl
  · rename_i count bits lead
    split
    · rfl
    · rename_i long
      have positive := leadByte_positive lead
      obtain ⟨answer, looped⟩ := Option.isSome_iff_exists.mp
        (continuationBytes_isSome bits
          (show index + 1 + (count - 1) ≤ value.length by omega))
      rw [looped, Option.bind_eq_bind, Option.bind_some]
      split
      · rfl
      · split <;> rfl

/-! ## One turn and one character -/

theorem byteAt_drop (value : List UInt8) (start index : Nat) :
    byteAt (value.drop start) index = byteAt value (start + index) := by
  rw [byteAt, List.getElem?_drop, byteAt]

theorem continuationBytes_drop (value : List UInt8) (start : Nat) :
    ∀ remaining index codepoint,
      continuationBytes (value.drop start) remaining index codepoint =
        continuationBytes value remaining (start + index) codepoint := by
  intro remaining
  induction remaining with
  | zero => intros; rfl
  | succ remaining ih =>
      intro index codepoint
      simp only [continuationBytes, byteAt_drop, ih, Nat.add_assoc]

/-- A turn looks at the rest of the text only. -/
theorem sequenceAt_drop (value : List UInt8) (start : Nat) :
    sequenceAt value start = sequenceAt (value.drop start) 0 := by
  simp only [sequenceAt, byteAt_drop, continuationBytes_drop, List.length_drop,
    Nat.add_zero, Nat.sub_zero, Nat.zero_add]

/-- What the loop over the continuation bytes gathers. -/
def gathered : Nat → List UInt8 → Nat
  | codepoint, [] => codepoint
  | codepoint, byte :: rest =>
      gathered (codepoint * 64 + byte.toNat % 64) rest

def IsTail (byte : UInt8) : Prop := 0x80 ≤ byte.toNat ∧ byte.toNat ≤ 0xbf

theorem continuationBytes_some {value : List UInt8}
    {remaining index codepoint answer : Nat}
    (looped : continuationBytes value remaining index codepoint =
      some (some answer)) :
    ∃ tail rest, value.drop index = tail ++ rest ∧ tail.length = remaining ∧
      (∀ byte ∈ tail, IsTail byte) ∧ answer = gathered codepoint tail := by
  induction remaining generalizing index codepoint with
  | zero =>
      cases looped
      exact ⟨[], value.drop index, rfl, rfl, by simp, rfl⟩
  | succ remaining ih =>
      obtain ⟨byte, read, _⟩ := Option.bind_eq_some_iff.mp looped
      obtain ⟨found, here, rfl⟩ := Option.map_eq_some_iff.mp read
      rw [continuationBytes_read read] at looped
      split at looped
      · rename_i isTail
        obtain ⟨tail, rest, split, length, tails, rfl⟩ := ih looped
        refine ⟨found :: tail, rest, ?_, by rw [List.length_cons, length], ?_,
          rfl⟩
        · obtain ⟨within, rfl⟩ := List.getElem?_eq_some_iff.mp here
          rw [List.drop_eq_getElem_cons within, split, List.cons_append]
        · exact List.forall_mem_cons.mpr ⟨isTail, tails⟩
      · cases looped

theorem continuationBytes_append {tail : List UInt8} (before rest : List UInt8)
    (codepoint : Nat) (tails : ∀ byte ∈ tail, IsTail byte) :
    continuationBytes (before ++ (tail ++ rest)) tail.length before.length
      codepoint = some (some (gathered codepoint tail)) := by
  induction tail generalizing before codepoint with
  | nil => rfl
  | cons byte tail ih =>
      obtain ⟨isTail, tails⟩ := List.forall_mem_cons.mp tails
      have read : byteAt (before ++ (byte :: tail ++ rest)) before.length =
          some byte.toNat := by
        simp [byteAt]
      rw [List.length_cons, continuationBytes_read read,
        if_pos ⟨isTail.1, isTail.2⟩]
      have later := ih (before ++ [byte]) (codepoint * 64 + byte.toNat % 64)
        tails
      simpa [gathered] using later

/-- The bytes that one turn accepts. -/
structure IsSequence (first : UInt8) (tail : List UInt8) (bits : Nat) :
    Prop where
  lead : leadByte first.toNat = some (tail.length + 1, bits)
  tails : ∀ byte ∈ tail, IsTail byte
  shortest : overlong (tail.length + 1) (gathered bits tail) = false
  scalar : IsScalar (gathered bits tail)

theorem sequenceAt_sound {value : List UInt8} {count : Nat}
    (consumed : sequenceAt value 0 = some (some count)) :
    ∃ first tail rest bits, value = first :: (tail ++ rest) ∧
      IsSequence first tail bits ∧ count = tail.length + 1 := by
  obtain ⟨lead, read, consumed⟩ := Option.bind_eq_some_iff.mp consumed
  obtain ⟨first, here, rfl⟩ := Option.map_eq_some_iff.mp read
  split at consumed
  · cases consumed
  · rename_i announced bits lead
    have positive := leadByte_positive lead
    split at consumed
    · cases consumed
    · obtain ⟨answer, looped, consumed⟩ := Option.bind_eq_some_iff.mp consumed
      split at consumed
      · cases consumed
      · rename_i codepoint
        split at consumed
        · cases consumed
        · rename_i accepted
          obtain rfl := Option.some.inj (Option.some.inj consumed)
          obtain ⟨tail, rest, split, length, tails, rfl⟩ :=
            continuationBytes_some looped
          have whole : announced = tail.length + 1 := by omega
          subst whole
          simp only [Bool.or_eq_true, Bool.and_eq_true, decide_eq_true_eq,
            not_or, Bool.not_eq_true] at accepted
          refine ⟨first, tail, rest, bits, ?_, ⟨lead, tails, accepted.1.1, ?_⟩,
            rfl⟩
          · obtain ⟨within, rfl⟩ := List.getElem?_eq_some_iff.mp here
            rw [← split, ← List.drop_eq_getElem_cons within, List.drop_zero]
          · unfold IsScalar
            omega

theorem sequenceAt_complete {first : UInt8} {tail : List UInt8} {bits : Nat}
    (rest : List UInt8) (accepted : IsSequence first tail bits) :
    sequenceAt (first :: (tail ++ rest)) 0 =
      some (some (tail.length + 1)) := by
  have read : byteAt (first :: (tail ++ rest)) 0 = some first.toNat := rfl
  have looped : continuationBytes (first :: (tail ++ rest)) tail.length 1
      bits = some (some (gathered bits tail)) :=
    continuationBytes_append [first] rest bits accepted.tails
  have long : ¬(first :: (tail ++ rest)).length - 0 < tail.length + 1 := by
    simp only [List.length_cons, List.length_append]
    omega
  have fits : ¬(0xd800 ≤ gathered bits tail ∧ gathered bits tail ≤ 0xdfff) ∧
      ¬0x10ffff < gathered bits tail := by
    have scalar := accepted.scalar
    unfold IsScalar at scalar
    omega
  simp [sequenceAt, read, accepted.lead, looped, accepted.shortest, fits.1,
    fits.2]

/-! ## Sequences are the encodings of the characters -/

theorem IsScalar.char {codepoint : Nat} (scalar : IsScalar codepoint) :
    ∃ char : Char, char.val.toNat = codepoint := by
  have valid : codepoint.isValidChar := by
    unfold IsScalar at scalar
    unfold Nat.isValidChar
    omega
  exact ⟨Char.ofNatAux codepoint valid, rfl⟩

theorem isScalar_char (char : Char) : IsScalar char.val.toNat := by
  have valid := char.valid
  unfold UInt32.isValidChar Nat.isValidChar at valid
  unfold IsScalar
  omega

theorem ofNat_eq {byte : UInt8} {value : Nat} (same : value = byte.toNat) :
    byte = UInt8.ofNat value := by
  rw [same, UInt8.ofNat_toNat]

section Encodings

variable {char : Char}

theorem encode_one (high : char.val.toNat ≤ 0x7f) :
    String.utf8EncodeChar char = [UInt8.ofNat char.val.toNat] :=
  if_pos high

theorem encode_two (low : 0x7f < char.val.toNat)
    (high : char.val.toNat ≤ 0x7ff) :
    String.utf8EncodeChar char =
      [UInt8.ofNat (char.val.toNat / 64 % 0x20 + 0xc0),
        UInt8.ofNat (char.val.toNat % 0x40 + 0x80)] :=
  (if_neg (Nat.not_le.mpr low)).trans (if_pos high)

theorem encode_three (low : 0x7ff < char.val.toNat)
    (high : char.val.toNat ≤ 0xffff) :
    String.utf8EncodeChar char =
      [UInt8.ofNat (char.val.toNat / 4096 % 0x10 + 0xe0),
        UInt8.ofNat (char.val.toNat / 64 % 0x40 + 0x80),
        UInt8.ofNat (char.val.toNat % 0x40 + 0x80)] :=
  (if_neg (by omega)).trans ((if_neg (by omega)).trans (if_pos high))

theorem encode_four (low : 0xffff < char.val.toNat) :
    String.utf8EncodeChar char =
      [UInt8.ofNat (char.val.toNat / 262144 % 0x08 + 0xf0),
        UInt8.ofNat (char.val.toNat / 4096 % 0x40 + 0x80),
        UInt8.ofNat (char.val.toNat / 64 % 0x40 + 0x80),
        UInt8.ofNat (char.val.toNat % 0x40 + 0x80)] :=
  (if_neg (by omega)).trans ((if_neg (by omega)).trans (if_neg (by omega)))

end Encodings

theorem IsSequence.encodes {first : UInt8} {tail : List UInt8} {bits : Nat}
    (accepted : IsSequence first tail bits) :
    ∃ char, first :: tail = String.utf8EncodeChar char := by
  obtain ⟨lead, tails, shortest, scalar⟩ := accepted
  obtain ⟨char, value⟩ := scalar.char
  refine ⟨char, ?_⟩
  unfold leadByte at lead
  simp only [lead_bits] at lead
  split_ifs at lead with ascii two three four
  · obtain ⟨length, rfl⟩ := Prod.mk.inj (Option.some.inj lead)
    obtain rfl : tail = [] := List.eq_nil_of_length_eq_zero (by omega)
    rw [gathered] at value
    rw [encode_one (by omega), ← ofNat_eq value]
  · obtain ⟨length, rfl⟩ := Prod.mk.inj (Option.some.inj lead)
    obtain ⟨b, rfl⟩ := List.length_eq_one_iff.mp (show tail.length = 1 by omega)
    simp only [List.forall_mem_cons, IsTail] at tails
    simp only [gathered] at value
    have firstByte : char.val.toNat / 64 % 0x20 + 0xc0 = first.toNat := by
      omega
    have secondByte : char.val.toNat % 0x40 + 0x80 = b.toNat := by omega
    rw [encode_two (by omega) (by omega), ← ofNat_eq firstByte,
      ← ofNat_eq secondByte]
  · obtain ⟨length, rfl⟩ := Prod.mk.inj (Option.some.inj lead)
    obtain ⟨b, c, rfl⟩ := List.length_eq_two.mp (show tail.length = 2 by omega)
    simp only [List.forall_mem_cons, IsTail] at tails
    have long : 0x800 ≤ gathered (first.toNat % 16) [b, c] := by
      simpa [overlong] using shortest
    simp only [gathered] at value long
    have firstByte : char.val.toNat / 4096 % 0x10 + 0xe0 = first.toNat := by
      omega
    have secondByte : char.val.toNat / 64 % 0x40 + 0x80 = b.toNat := by omega
    have thirdByte : char.val.toNat % 0x40 + 0x80 = c.toNat := by omega
    rw [encode_three (by omega) (by omega), ← ofNat_eq firstByte,
      ← ofNat_eq secondByte, ← ofNat_eq thirdByte]
  · obtain ⟨length, rfl⟩ := Prod.mk.inj (Option.some.inj lead)
    obtain ⟨b, c, d, rfl⟩ :=
      List.length_eq_three.mp (show tail.length = 3 by omega)
    simp only [List.forall_mem_cons, IsTail] at tails
    have long : 0x10000 ≤ gathered (first.toNat % 8) [b, c, d] := by
      simpa [overlong] using shortest
    simp only [IsScalar, gathered] at value long scalar
    have firstByte : char.val.toNat / 262144 % 0x08 + 0xf0 = first.toNat := by
      omega
    have secondByte : char.val.toNat / 4096 % 0x40 + 0x80 = b.toNat := by omega
    have thirdByte : char.val.toNat / 64 % 0x40 + 0x80 = c.toNat := by omega
    have fourthByte : char.val.toNat % 0x40 + 0x80 = d.toNat := by omega
    rw [encode_four (by omega), ← ofNat_eq firstByte, ← ofNat_eq secondByte,
      ← ofNat_eq thirdByte, ← ofNat_eq fourthByte]

theorem toNat_byte {value : Nat} (small : value < 256) :
    (UInt8.ofNat value).toNat = value := by
  rw [UInt8.toNat_ofNat', Nat.mod_eq_of_lt small]

theorem isTail_low (value : Nat) :
    IsTail (UInt8.ofNat (value % 0x40 + 0x80)) := by
  rw [IsTail, toNat_byte (by omega)]
  omega

theorem low_bits (value : Nat) :
    (UInt8.ofNat (value % 0x40 + 0x80)).toNat % 64 = value % 64 := by
  rw [toNat_byte (by omega)]
  omega

/-- The encoding of a character is a sequence that a turn accepts. -/
theorem encoded_isSequence (char : Char) :
    ∃ first tail bits, String.utf8EncodeChar char = first :: tail ∧
      IsSequence first tail bits := by
  have scalar := isScalar_char char
  by_cases one : char.val.toNat ≤ 0x7f
  · refine ⟨_, _, char.val.toNat, encode_one one, ?_, ?_, rfl, scalar⟩
    · rw [toNat_byte (by omega), leadByte, if_pos one]
      rfl
    · exact List.forall_mem_nil _
  by_cases two : char.val.toNat ≤ 0x7ff
  · have value : gathered (char.val.toNat / 64)
        [UInt8.ofNat (char.val.toNat % 0x40 + 0x80)] = char.val.toNat := by
      simp only [gathered, low_bits]
      omega
    refine ⟨_, _, char.val.toNat / 64, encode_two (by omega) two, ?_, ?_, ?_,
      ?_⟩
    · rw [toNat_byte (by omega), leadByte, if_neg (by omega),
        if_pos (by omega), (lead_bits _).1]
      exact congrArg (fun bits => some (2, bits)) (by omega)
    · simp only [List.forall_mem_singleton, isTail_low]
    · rw [value, overlong]
      simp only [List.length_cons, List.length_nil, Bool.or_eq_false_iff,
        Bool.and_eq_false_iff, decide_eq_false_iff_not]
      omega
    · rw [value]
      exact scalar
  by_cases three : char.val.toNat ≤ 0xffff
  · have value : gathered (char.val.toNat / 4096)
        [UInt8.ofNat (char.val.toNat / 64 % 0x40 + 0x80),
          UInt8.ofNat (char.val.toNat % 0x40 + 0x80)] = char.val.toNat := by
      simp only [gathered, low_bits]
      omega
    refine ⟨_, _, char.val.toNat / 4096, encode_three (by omega) three, ?_, ?_,
      ?_, ?_⟩
    · rw [toNat_byte (by omega), leadByte, if_neg (by omega),
        if_neg (by omega), if_pos (by omega), (lead_bits _).2.1]
      exact congrArg (fun bits => some (3, bits)) (by omega)
    · simp only [List.forall_mem_cons, isTail_low, true_and]
      exact List.forall_mem_nil _
    · rw [value, overlong]
      simp only [List.length_cons, List.length_nil, Bool.or_eq_false_iff,
        Bool.and_eq_false_iff, decide_eq_false_iff_not]
      omega
    · rw [value]
      exact scalar
  have value : gathered (char.val.toNat / 262144)
      [UInt8.ofNat (char.val.toNat / 4096 % 0x40 + 0x80),
        UInt8.ofNat (char.val.toNat / 64 % 0x40 + 0x80),
        UInt8.ofNat (char.val.toNat % 0x40 + 0x80)] = char.val.toNat := by
    simp only [gathered, low_bits]
    omega
  have bounded : char.val.toNat ≤ 0x10ffff := by
    unfold IsScalar at scalar
    omega
  refine ⟨_, _, char.val.toNat / 262144, encode_four (by omega), ?_, ?_, ?_,
    ?_⟩
  · rw [toNat_byte (by omega), leadByte, if_neg (by omega), if_neg (by omega),
      if_neg (by omega), if_pos (by omega), (lead_bits _).2.2]
    exact congrArg (fun bits => some (4, bits)) (by omega)
  · simp only [List.forall_mem_cons, isTail_low, true_and]
    exact List.forall_mem_nil _
  · rw [value, overlong]
    simp only [List.length_cons, List.length_nil, Bool.or_eq_false_iff,
      Bool.and_eq_false_iff, decide_eq_false_iff_not]
    omega
  · rw [value]
    exact scalar

/-- A turn consumes the character that the rest of the text starts with. -/
theorem sequenceAt_encoded {value rest : List UInt8} {index : Nat}
    {char : Char}
    (starts : value.drop index = String.utf8EncodeChar char ++ rest) :
    sequenceAt value index =
      some (some (String.utf8EncodeChar char).length) := by
  obtain ⟨first, tail, bits, encoded, accepted⟩ := encoded_isSequence char
  rw [sequenceAt_drop, starts, encoded]
  exact sequenceAt_complete rest accepted

/-! ## The loop -/

theorem WellFormedUtf8.cons {value rest : List UInt8} {char : Char}
    (split : value = String.utf8EncodeChar char ++ rest)
    (formed : WellFormedUtf8 rest) : WellFormedUtf8 value := by
  obtain ⟨text, rfl⟩ := formed
  exact ⟨char :: text, split⟩

theorem validUtf8From_isSome (value : List UInt8) (index : Nat) :
    (validUtf8From value index).isSome := by
  fun_induction validUtf8From value index with
  | case1 index within overread =>
      have read := sequenceAt_isSome within
      rw [overread] at read
      exact read
  | case2 => rfl
  | case3 index within count consumed positive ih => exact ih
  | case4 => rfl

theorem validUtf8From_iff (value : List UInt8) (index : Nat) :
    validUtf8From value index = some true ↔
      WellFormedUtf8 (value.drop index) := by
  fun_induction validUtf8From value index with
  | case1 index within overread =>
      have read := sequenceAt_isSome within
      rw [overread] at read
      cases read
  | case2 index within refused =>
      refine ⟨fun accepted => Bool.noConfusion (Option.some.inj accepted),
        fun ⟨text, formed⟩ => ?_⟩
      cases text with
      | nil =>
          have stops := List.drop_eq_nil_iff.mp formed
          omega
      | cons char text =>
          rw [sequenceAt_encoded formed] at refused
          cases refused
  | case3 index within count consumed positive ih =>
      rw [ih]
      constructor
      · intro formed
        rw [sequenceAt_drop] at consumed
        obtain ⟨first, tail, rest, bits, split, accepted, rfl⟩ :=
          sequenceAt_sound consumed
        obtain ⟨char, encoded⟩ := accepted.encodes
        rw [← List.cons_append, encoded] at split
        refine WellFormedUtf8.cons split ?_
        have length : (String.utf8EncodeChar char).length =
            tail.length + 1 := by
          rw [← encoded, List.length_cons]
        rw [← List.drop_drop, split, ← length, List.drop_left] at formed
        exact formed
      · intro ⟨text, formed⟩
        cases text with
        | nil =>
            have stops := List.drop_eq_nil_iff.mp formed
            omega
        | cons char text =>
            rw [sequenceAt_encoded formed] at consumed
            obtain rfl := Option.some.inj (Option.some.inj consumed)
            refine ⟨text, ?_⟩
            rw [← List.drop_drop, formed]
            exact List.drop_left
  | case4 index beyond =>
      refine ⟨fun _ => ⟨[], ?_⟩, fun _ => rfl⟩
      rw [List.drop_eq_nil_iff.mpr (Nat.not_lt.mp beyond), List.flatMap_nil]

/-- The check never reads past the end, and accepts exactly the well-formed
texts. -/
theorem validUtf8_exact (value : List UInt8) :
    (∃ accepted, validUtf8 value = some accepted) ∧
      (validUtf8 value = some true ↔ WellFormedUtf8 value) :=
  ⟨Option.isSome_iff_exists.mp (validUtf8From_isSome value 0),
    validUtf8From_iff value 0⟩

end Glasswyrm.Ipc
