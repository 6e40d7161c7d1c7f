import Glasswyrm.Library.Bytes
import Glasswyrm.Output.Types

namespace Glasswyrm.Output

open Library

/-! Stable identifiers of modes: a hash whose two highest bits mark it as the
identifier of a mode. -/

def kOutputIdentityNamespace : UInt64 := 9223372036854775808
def kModeIdentityNamespace : UInt64 := 4611686018427387904

/-- The bytes of a number, the most significant first. -/
def networkBytes (width value : Nat) : List UInt8 :=
  (littleBytes width value).reverse

def asciiBytes (text : String) : List UInt8 :=
  text.toList.map fun character => UInt8.ofNat character.toNat

def modeIdentity (hash : UInt64) : UInt64 :=
  (hash &&& ~~~kOutputIdentityNamespace) ||| kModeIdentityNamespace

/-- The bytes hashed for the identifier of a mode. -/
def modeIdentityBytes (outputId physicalWidth physicalHeight
    refreshMillihertz flags : Nat) (name : List UInt8) : List UInt8 :=
  asciiBytes "glasswyrm:mode:" ++ networkBytes 8 outputId ++
    networkBytes 4 physicalWidth ++ networkBytes 4 physicalHeight ++
    networkBytes 4 refreshMillihertz ++ networkBytes 4 flags ++
    networkBytes 4 name.length ++ name

def deriveOutputModeId (outputId physicalWidth physicalHeight
    refreshMillihertz flags : Nat) (name : List UInt8) : Option Nat :=
  if outputId = 0 || physicalWidth = 0 || physicalHeight = 0 ||
      refreshMillihertz = 0 || name.isEmpty || 63 < name.length then none
  else
    some (modeIdentity (hashBytes (modeIdentityBytes outputId physicalWidth
      physicalHeight refreshMillihertz flags name) hashBasis)).toNat

/-- What an identifier is derived from. -/
theorem deriveOutputModeId_some {outputId width height refresh flags : Nat}
    {name : List UInt8} {id : Nat}
    (derived : deriveOutputModeId outputId width height refresh flags name =
      some id) :
    outputId ≠ 0 ∧ width ≠ 0 ∧ height ≠ 0 ∧ refresh ≠ 0 ∧ name ≠ [] ∧
      name.length ≤ 63 := by
  unfold deriveOutputModeId at derived
  split at derived
  · cases derived
  · rename_i sound
    simp only [Bool.or_eq_true, decide_eq_true_eq, not_or,
      List.isEmpty_iff] at sound
    obtain ⟨⟨⟨⟨⟨output, width⟩, height⟩, refresh⟩, named⟩, short⟩ := sound
    exact ⟨output, width, height, refresh, named, by omega⟩

/-- The identifier of a mode is never zero. -/
theorem deriveOutputModeId_nonzero {outputId width height refresh flags : Nat}
    {name : List UInt8} {id : Nat}
    (derived : deriveOutputModeId outputId width height refresh flags name =
      some id) : id ≠ 0 := by
  unfold deriveOutputModeId at derived
  split at derived
  · cases derived
  · obtain rfl := Option.some.inj derived
    generalize hashBytes _ _ = hash
    intro zero
    have cleared : (hash &&& ~~~kOutputIdentityNamespace) |||
        kModeIdentityNamespace = 0 := UInt64.toNat.inj zero
    have marked : ((hash &&& ~~~kOutputIdentityNamespace) |||
        kModeIdentityNamespace) &&& kModeIdentityNamespace =
          kModeIdentityNamespace := by
      generalize hash &&& ~~~kOutputIdentityNamespace = low
      generalize kModeIdentityNamespace = bit
      apply UInt64.eq_of_toBitVec_eq
      ext index
      rw [UInt64.toBitVec_and, UInt64.toBitVec_or, BitVec.getElem_and,
        BitVec.getElem_or]
      cases bit.toBitVec[index] <;> simp
    rw [cleared] at marked
    revert marked
    decide

end Glasswyrm.Output
