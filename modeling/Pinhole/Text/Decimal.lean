/-!
# Unsigned decimal numbers

A number is written in the fewest digits.  Reading takes an optional plus sign
and then one or more digits, leading zeros allowed, and refuses a value above
the limit of the field it is read for.  The first character that makes the
text unreadable decides which fault is reported.
-/

namespace Pinhole.Decimal

/-- Why a text is not a number of the wanted size. -/
inductive Fault where
  | empty
  | invalidDigit
  | tooLarge
deriving DecidableEq, Repr

def Fault.message : Fault → String
  | .empty => "cannot parse integer from empty string"
  | .invalidDigit => "invalid digit found in string"
  | .tooLarge => "number too large to fit in target type"

/-- The value of an ASCII digit. -/
def digit? (char : Char) : Option Nat :=
  if '0' ≤ char ∧ char ≤ '9' then some (char.toNat - '0'.toNat) else none

/-- Appends the digits of a text to a number, as long as it stays within the
limit. -/
def readDigits (limit : Nat) : Nat → List Char → Except Fault Nat
  | value, [] => .ok value
  | value, char :: rest =>
      match digit? char with
      | none => .error .invalidDigit
      | some digit =>
          let next := 10 * value + digit
          if next ≤ limit then readDigits limit next rest
          else .error .tooLarge

/-- The number a text denotes, if it is at most `limit`. -/
def read (limit : Nat) : List Char → Except Fault Nat
  | [] => .error .empty
  | ['+'] => .error .invalidDigit
  | '+' :: digits => readDigits limit 0 digits
  | digits => readDigits limit 0 digits

/-- The digits of a number, without leading zeros. -/
def write (value : Nat) : List Char :=
  Nat.toDigits 10 value

end Pinhole.Decimal
