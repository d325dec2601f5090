import Pinhole.Text.Decimal
import Pinhole.Text.Hex
import Pinhole.Toml.Key

/-!
# Printing a document

Tables are printed one after another with an empty line between them, each with
its header and its keys.  A string is printed in the first of these forms that
can hold it: between quotation marks without escapes other than tabs, between
apostrophes, on several lines between quotation marks with no more than two of
them in a row, on several lines between apostrophes, and at last with all the
escapes it needs.  A string with line breaks is printed on several lines and
starts on a line of its own.
-/

namespace Pinhole.Toml

/-- The length of the longest run of a character. -/
def longestRun (char : Char) (text : List Char) : Nat :=
  (text.foldl
    (fun (run, longest) next =>
      let run := if next = char then run + 1 else 0
      (run, max longest run))
    (0, 0)).2

/-- A character that only an escape can show. -/
def isControl (char : Char) : Bool :=
  (char < ' ' ∧ char ≠ '\t' ∧ char ≠ '\n') ∨ char = '\x7f'

/-- The escape of a character between quotation marks, if it needs one. -/
def escaped? (char : Char) : Option (List Char) :=
  if char = '\x08' then some ['\\', 'b']
  else if char = '\t' then some ['\\', 't']
  else if char = '\n' then some ['\\', 'n']
  else if char = '\x0c' then some ['\\', 'f']
  else if char = '\r' then some ['\\', 'r']
  else if char = '"' then some ['\\', '"']
  else if char = '\\' then some ['\\', '\\']
  else if isControl char then
    some ('\\' :: 'u' :: Hex.writePadded 4 char.toNat)
  else none

/-- The content of a string on one line. -/
def escapeLine (text : List Char) : List Char :=
  text.flatMap fun char => (escaped? char).getD [char]

/-- The content of a string on several lines, after a number of quotation marks
in a row.  Line breaks stand for themselves, and so do up to two quotation marks
in a row. -/
def escapeLines : (quotes : Nat) → List Char → List Char
  | _, [] => []
  | quotes, char :: rest =>
      if char = '"' then
        if quotes < 2 then '"' :: escapeLines (quotes + 1) rest
        else '\\' :: '"' :: escapeLines 0 rest
      else if char = '\n' then '\n' :: escapeLines 0 rest
      else (escaped? char).getD [char] ++ escapeLines 0 rest

def quotes : List Char := ['"', '"', '"']

def apostrophes : List Char := ['\'', '\'', '\'']

/-- The line break that opens a string of several lines. -/
def firstBreak (text : List Char) : List Char :=
  if '\n' ∈ text then ['\n'] else []

/-- A string in the form that suits it. -/
def printString (text : List Char) : List Char :=
  let control := text.any isControl
  let backslash := '\\' ∈ text
  let lines := '\n' ∈ text
  let quotation := longestRun '"' text
  let apostrophe := longestRun '\'' text
  if ¬control ∧ ¬backslash ∧ quotation = 0 ∧ ¬lines then
    '"' :: escapeLine text ++ ['"']
  else if ¬control ∧ apostrophe = 0 ∧ ¬lines then
    '\'' :: text ++ ['\'']
  else if ¬control ∧ ¬backslash ∧ quotation ≤ 2 then
    quotes ++ firstBreak text ++ escapeLines 0 text ++ quotes
  else if ¬control ∧ apostrophe ≤ 2 then
    apostrophes ++ firstBreak text ++ text ++ apostrophes
  else if lines then
    quotes ++ firstBreak text ++ escapeLines 0 text ++ quotes
  else '"' :: escapeLine text ++ ['"']

/-- A value that is printed on a key's line. -/
inductive Scalar where
  | string (text : String)
  | natural (value : Nat)
deriving DecidableEq, Repr

def Scalar.print : Scalar → List Char
  | string text => printString text.toList
  | natural value => Decimal.write value

/-- A key, between quotation marks if it needs them. -/
def printKey (key : String) : List Char :=
  if isBareKey key.toList then key.toList
  else '"' :: escapeLine key.toList ++ ['"']

/-- A key and its value on a line. -/
def printField (field : String × Scalar) : List Char :=
  printKey field.1 ++ [' ', '=', ' '] ++ field.2.print ++ ['\n']

/-- A table with its header. -/
def printTable (table : String × List (String × Scalar)) : List Char :=
  '[' :: printKey table.1 ++ [']', '\n'] ++ table.2.flatMap printField

/-- A document of tables. -/
def print (tables : List (String × List (String × Scalar))) : String :=
  String.ofList ((tables.map printTable).intersperse ['\n']).flatten

end Pinhole.Toml
