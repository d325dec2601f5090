/-!
# Bytes on the wire

Everything that crosses the network is a list of bytes.  A 16-bit word is
written with its high byte first, and a length is padded to the next
multiple of four.
-/

namespace Pinhole

abbrev Bytes := List UInt8

namespace Bytes

/-- Both bytes of a word, the high one first. -/
def ofWord (word : UInt16) : Bytes :=
  [UInt8.ofNat (word.toNat / 256), UInt8.ofNat word.toNat]

/-- The word whose high byte is `high` and whose low byte is `low`. -/
def toWord (high low : UInt8) : UInt16 :=
  UInt16.ofNat (high.toNat * 256 + low.toNat)

theorem ofWord_toWord (high low : UInt8) :
    ofWord (toWord high low) = [high, low] := by
  have hhigh := high.toNat_lt
  have hlow := low.toNat_lt
  have hword :
      (UInt16.ofNat (high.toNat * 256 + low.toNat)).toNat =
        high.toNat * 256 + low.toNat := by
    rw [UInt16.toNat_ofNat']
    omega
  have hdiv : (high.toNat * 256 + low.toNat) / 256 = high.toNat := by omega
  simp only [ofWord, toWord, hword, hdiv, List.cons.injEq, and_true]
  refine ⟨by simp, ?_⟩
  apply UInt8.toNat_inj.1
  rw [UInt8.toNat_ofNat']
  omega

theorem toWord_ofWord (word : UInt16) :
    toWord (UInt8.ofNat (word.toNat / 256)) (UInt8.ofNat word.toNat) =
      word := by
  have hword := word.toNat_lt
  apply UInt16.toNat_inj.1
  rw [toWord, UInt16.toNat_ofNat', UInt8.toNat_ofNat', UInt8.toNat_ofNat']
  omega

/-- The least multiple of four that is not below `length`. -/
def padded (length : Nat) : Nat :=
  (length + 3) / 4 * 4

theorem le_padded (length : Nat) : length ≤ padded length := by
  unfold padded
  omega

theorem padded_lt (length : Nat) : padded length < length + 4 := by
  unfold padded
  omega

end Bytes

end Pinhole
