import Pinhole.Text.Decimal
import Pinhole.Text.Fields
import Pinhole.Text.Hex
import Pinhole.Toml.Key
import Pinhole.Toml.Value

/-!
# Values without quotes

Booleans, integers, floating-point numbers, dates and times are written without
quotes; each is recognised from all the characters up to the next delimiter.
Single underscores may stand between the digits of a number.  An integer has 64
bits and a sign.  A floating-point number must not be too large to be finite,
unless it is negative.
-/

namespace Pinhole.Toml

/-- What ends a value without quotes. -/
def isDelimiter (char : Char) : Bool :=
  char ∈ [' ', '\t', '\n', '\r', ',', ']', '}', '#']

/-- Digits, with single underscores between them. -/
def isDigitRun (isDigit : Char → Bool) (text : List Char) : Bool :=
  (fields '_' text).all fun field => !field.isEmpty && field.all isDigit

/-- The number that digits write in a base. -/
def digitsValue (base : Nat) (text : List Char) : Nat :=
  text.foldl
    (fun value char =>
      match Hex.digit? char with
      | some digit => base * value + digit
      | none => value)
    0

/-- A sign and what follows it. -/
def splitSign : List Char → Bool × List Char
  | '+' :: rest => (false, rest)
  | '-' :: rest => (true, rest)
  | text => (false, text)

/-- A decimal number without a sign and without leading zeros. -/
def isPlainDecimal (text : List Char) : Bool :=
  isDigitRun isDigit text && (text.length = 1 || text.head? ≠ some '0')

/-- The least and the greatest integer. -/
def integerLimit : Nat := UInt64.size / 2

/-- Keeps an integer that is in range. -/
def inRange? (value : Int) : Option Int :=
  if -(integerLimit : Int) ≤ value ∧ value < integerLimit then some value
  else none

/-- Digits of a base behind its mark. -/
def basedInteger? (base : Nat) (isDigit : Char → Bool) (digits : List Char) :
    Option Int :=
  if isDigitRun isDigit digits then inRange? (digitsValue base digits)
  else none

def integer? : List Char → Option Int
  | '0' :: 'x' :: digits =>
      basedInteger? 16 (fun char => (Hex.digit? char).isSome) digits
  | '0' :: 'o' :: digits =>
      basedInteger? 8 (fun char => '0' ≤ char ∧ char ≤ '7') digits
  | '0' :: 'b' :: digits =>
      basedInteger? 2 (fun char => char = '0' ∨ char = '1') digits
  | text =>
      let (negative, digits) := splitSign text
      if isPlainDecimal digits then
        let value : Int := digitsValue 10 digits
        inRange? (if negative then -value else value)
      else none

/-- Cuts a text before the first character that is one of the given ones; the
second part is what follows it, if there is one. -/
def cutAt (isMark : Char → Bool) (text : List Char) :
    List Char × Option (List Char) :=
  (text.takeWhile (!isMark ·),
    match text.dropWhile (!isMark ·) with
    | [] => none
    | _ :: rest => some rest)

/-- Whether the number `digits · 10 ^ exponent` rounds to a finite one: it is
below the greatest finite number by less than half of the last step. -/
def isFinite (digits : Nat) (exponent : Int) : Bool :=
  if digits = 0 then true
  else
    let magnitude := (Nat.toDigits 10 digits).length + exponent
    if magnitude ≤ 308 then true
    else if 309 < magnitude then false
    else
      let limit := Nat.pow 2 1024 - Nat.pow 2 970
      if 0 ≤ exponent then digits * Nat.pow 10 exponent.toNat < limit
      else digits < limit * Nat.pow 10 (-exponent).toNat

/-- Whether a text is a floating-point number: a decimal integer with a
fraction, an exponent or both, or one of the special values. -/
def isFloat (text : List Char) : Bool :=
  let (negative, unsigned) := splitSign text
  if unsigned = ['i', 'n', 'f'] ∨ unsigned = ['n', 'a', 'n'] then true
  else
    let (mantissa, exponent?) := cutAt (fun char => char = 'e' ∨ char = 'E')
      unsigned
    let (whole, fraction?) := cutAt (· = '.') mantissa
    let (exponentNegative, exponentDigits) := splitSign (exponent?.getD ['0'])
    if isPlainDecimal whole && (fraction?.isSome || exponent?.isSome) &&
        isDigitRun isDigit (fraction?.getD ['0']) &&
        isDigitRun isDigit exponentDigits then
      let fraction := (fraction?.getD []).filter isDigit
      let size : Int := digitsValue 10 exponentDigits
      let exponent := if exponentNegative then -size else size
      negative ||
        isFinite (digitsValue 10 (whole ++ fraction))
          (exponent - fraction.length)
    else false

/-- The value of a text that is all digits, of a given length. -/
def fixedDigits? (width : Nat) (text : List Char) : Option Nat :=
  if text.length = width ∧ text.all isDigit then
    some (digitsValue 10 text)
  else none

def daysInMonth (year month : Nat) : Nat :=
  if month = 2 then
    if year % 4 = 0 ∧ (year % 100 ≠ 0 ∨ year % 400 = 0) then 29 else 28
  else if month ∈ [4, 6, 9, 11] then 30
  else 31

/-- A year, a month and a day that exist. -/
def isDate (text : List Char) : Bool :=
  match fields '-' text with
  | [year, month, day] =>
      match fixedDigits? 4 year, fixedDigits? 2 month, fixedDigits? 2 day with
      | some year, some month, some day =>
          1 ≤ month && month ≤ 12 && 1 ≤ day && day ≤ daysInMonth year month
      | _, _, _ => false
  | _ => false

/-- Whether a text is a number of two digits that is at most `limit`. -/
def isTwoDigits (limit : Nat) (text : List Char) : Bool :=
  match fixedDigits? 2 text with
  | some value => value ≤ limit
  | none => false

/-- An hour, a minute and a second, which may have a fraction. -/
def isTime (text : List Char) : Bool :=
  let (clock, fraction?) := cutAt (· = '.') text
  match fields ':' clock with
  | [hour, minute, second] =>
      isTwoDigits 23 hour && isTwoDigits 59 minute && isTwoDigits 60 second &&
        (match fraction? with
        | none => true
        | some digits => !digits.isEmpty && digits.all isDigit)
  | _ => false

/-- An hour and a minute behind a sign. -/
def isOffset (text : List Char) : Bool :=
  match fields ':' text with
  | [hour, minute] => isTwoDigits 23 hour && isTwoDigits 59 minute
  | _ => false

/-- A time that may be followed by its offset from universal time. -/
def isOffsetTime (text : List Char) : Bool :=
  match cutAt (fun char => char = 'Z' ∨ char = 'z') text with
  | (time, some rest) => isTime time && rest.isEmpty
  | (_, none) =>
      match cutAt (fun char => char = '+' ∨ char = '-') text with
      | (time, some offset) => isTime time && isOffset offset
      | (time, none) => isTime time

/-- A date, a time, or a date with a time behind `T` or a blank. -/
def isDateTime (text : List Char) : Bool :=
  isTime text || isDate text ||
    isDate (text.take 10) &&
      match text.drop 10 with
      | 'T' :: time | 't' :: time | ' ' :: time => isOffsetTime time
      | _ => false

/-- The characters of a value without quotes.  A time may follow a date behind
a blank. -/
def bareText (text : List Char) : List Char × List Char :=
  let token := text.takeWhile (!isDelimiter ·)
  let rest := text.dropWhile (!isDelimiter ·)
  match rest with
  | ' ' :: digit :: _ =>
      if isDate token && isDigit digit then
        let time := (rest.drop 1).takeWhile (!isDelimiter ·)
        (token ++ ' ' :: time, (rest.drop 1).dropWhile (!isDelimiter ·))
      else (token, rest)
  | _ => (token, rest)

/-- The value of a text without quotes. -/
def bareValue? (text : List Char) : Option Value :=
  if text = ['t', 'r', 'u', 'e'] then some (.boolean true)
  else if text = ['f', 'a', 'l', 's', 'e'] then some (.boolean false)
  else if isDateTime text then some (.datetime (String.ofList text))
  else if isFloat text then some (.float (String.ofList text))
  else (integer? text).map .integer

/-- Reads a value without quotes. -/
def readBare (text : List Char) : Option (Value × List Char) := do
  let (token, rest) := bareText text
  return (← bareValue? token, rest)

end Pinhole.Toml
