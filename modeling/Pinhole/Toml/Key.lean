/-!
# Keys

A key of letters, digits, underscores and hyphens is written without quotes.
-/

namespace Pinhole.Toml

def isDigit (char : Char) : Bool :=
  '0' ≤ char ∧ char ≤ '9'

/-- A character of a key that is written without quotes. -/
def isBareKeyChar (char : Char) : Bool :=
  ('a' ≤ char ∧ char ≤ 'z') ∨ ('A' ≤ char ∧ char ≤ 'Z') ∨ isDigit char ∨
    char = '_' ∨ char = '-'

/-- Whether a key needs no quotes. -/
def isBareKey (key : List Char) : Bool :=
  !key.isEmpty && key.all isBareKeyChar

end Pinhole.Toml
