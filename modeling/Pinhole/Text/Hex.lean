/-!
# Hexadecimal numbers

Digits are written in capitals with leading zeros up to a fixed width, or in
small letters without any.
-/

namespace Pinhole.Hex

/-- The value of a hexadecimal digit, in capitals or small letters. -/
def digit? (char : Char) : Option Nat :=
  if '0' ≤ char ∧ char ≤ '9' then some (char.toNat - '0'.toNat)
  else if 'a' ≤ char ∧ char ≤ 'f' then some (char.toNat - 'a'.toNat + 10)
  else if 'A' ≤ char ∧ char ≤ 'F' then some (char.toNat - 'A'.toNat + 10)
  else none

/-- The number written by a text of hexadecimal digits. -/
def read? (text : List Char) : Option Nat :=
  if text = [] then none
  else
    text.foldl
      (fun value? char => do
        let value ← value?
        let digit ← digit? char
        return 16 * value + digit)
      (some 0)

/-- Small letters, no leading zeros. -/
def write (value : Nat) : List Char :=
  Nat.toDigits 16 value

/-- Capitals, with leading zeros up to `width` digits. -/
def writePadded (width value : Nat) : List Char :=
  let digits := (Nat.toDigits 16 value).map Char.toUpper
  List.replicate (width - digits.length) '0' ++ digits

end Pinhole.Hex
