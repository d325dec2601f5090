import Pinhole.Text.Hex
import Pinhole.Toml.Blank

/-!
# Reading strings

A string stands between quotation marks, which allow escapes, or between
apostrophes, which do not; tripled, either may enclose several lines.  A line
break right behind the opening of several lines is not part of the string, and
a backslash at the end of a line removes everything up to the next character
that is not blank.  Up to two quotes may stand right before the closing ones.
-/

namespace Pinhole.Toml

/-- A character that stands for itself between quotation marks. -/
def isBasicChar (char : Char) : Bool :=
  char = '\t' ∨
    (' ' ≤ char ∧ char ≠ '"' ∧ char ≠ '\\' ∧ char ≠ '\x7f')

/-- A character that may stand between apostrophes. -/
def isLiteralChar (char : Char) : Bool :=
  char = '\t' ∨ (' ' ≤ char ∧ char ≠ '\'' ∧ char ≠ '\x7f')

/-- The character with a number, if there is one. -/
def character? (number : Nat) : Option Char :=
  if number.isValidChar then some (Char.ofNat number) else none

/-- A character given by its number in `width` hexadecimal digits. -/
def unicode? (width : Nat) (text : List Char) :
    Option (Char × List Char) := do
  let digits := text.take width
  if digits.length = width then
    let number ← Hex.read? digits
    let char ← character? number
    return (char, text.drop width)
  else none

/-- What a backslash and the characters behind it stand for. -/
def escape? : List Char → Option (Char × List Char)
  | 'b' :: rest => some ('\x08', rest)
  | 't' :: rest => some ('\t', rest)
  | 'n' :: rest => some ('\n', rest)
  | 'f' :: rest => some ('\x0c', rest)
  | 'r' :: rest => some ('\r', rest)
  | '"' :: rest => some ('"', rest)
  | '\\' :: rest => some ('\\', rest)
  | 'u' :: rest => unicode? 4 rest
  | 'U' :: rest => unicode? 8 rest
  | _ => none

theorem length_unicode? {width : Nat} {text rest : List Char} {char : Char}
    (h : unicode? width text = some (char, rest)) :
    rest.length ≤ text.length := by
  simp only [unicode?, Option.bind_eq_bind, Option.pure_def] at h
  split at h
  · simp only [Option.bind_eq_some_iff, Option.some.injEq,
      Prod.mk.injEq] at h
    obtain ⟨_, _, _, _, _, rfl⟩ := h
    simp
  · cases h

theorem length_escape? {text rest : List Char} {char : Char}
    (h : escape? text = some (char, rest)) : rest.length < text.length := by
  unfold escape? at h
  split at h
  case h_8 | h_9 =>
    have := length_unicode? h
    simp only [List.length_cons]
    omega
  case h_10 => cases h
  all_goals
    simp only [Option.some.injEq, Prod.mk.injEq] at h
    obtain ⟨_, rfl⟩ := h
    simp

/-- Puts a character in front of what was read. -/
def prepend (char : Char) (read : Option (List Char × List Char)) :
    Option (List Char × List Char) :=
  read.map fun (content, rest) => (char :: content, rest)

/-- Reads up to the closing quotation mark. -/
def readBasic (text : List Char) : Option (List Char × List Char) :=
  match text with
  | [] => none
  | '"' :: rest => some ([], rest)
  | '\\' :: rest =>
      match _hescape : escape? rest with
      | none => none
      | some (char, rest') => prepend char (readBasic rest')
  | char :: rest =>
      if isBasicChar char then prepend char (readBasic rest) else none
termination_by text.length
decreasing_by
  · have := length_escape? _hescape
    simp only [List.length_cons]
    omega
  · simp

/-- Reads up to the closing apostrophe. -/
def readLiteral : List Char → Option (List Char × List Char)
  | [] => none
  | '\'' :: rest => some ([], rest)
  | char :: rest =>
      if isLiteralChar char then prepend char (readLiteral rest) else none

/-- Up to two quotes that belong to the string although they follow the first
three of its closing ones. -/
def closingQuotes (quote : Char) : List Char → List Char × List Char
  | first :: second :: rest =>
      if first = quote then
        if second = quote then ([quote, quote], rest)
        else ([quote], second :: rest)
      else ([], first :: second :: rest)
  | [first] => if first = quote then ([quote], []) else ([], [first])
  | [] => ([], [])

/-- Drops blanks and line breaks. -/
def dropLines (text : List Char) : List Char :=
  match text with
  | '\n' :: rest => dropLines rest
  | '\r' :: '\n' :: rest => dropLines rest
  | char :: rest => if isBlank char then dropLines rest else char :: rest
  | [] => []

/-- What follows a backslash at the end of a line, the blanks and line breaks
behind it dropped. -/
def continuation? (text : List Char) : Option (List Char) :=
  (lineBreak? (dropBlank text)).map dropLines

theorem length_lineBreak? {text rest : List Char}
    (h : lineBreak? text = some rest) : rest.length < text.length := by
  unfold lineBreak? at h
  split at h
  · cases h
    simp only [List.length_cons]
    omega
  · cases h
    simp only [List.length_cons]
    omega
  · cases h

theorem length_dropLines (text : List Char) :
    (dropLines text).length ≤ text.length := by
  fun_induction dropLines text with
  | case1 rest ih | case2 rest ih | case3 char rest _ _ _ ih =>
      simp only [List.length_cons]
      omega
  | case4 => simp
  | case5 => simp

theorem length_continuation? {text rest : List Char}
    (h : continuation? text = some rest) : rest.length < text.length := by
  obtain ⟨lines, hlines, rfl⟩ := Option.map_eq_some_iff.1 h
  have hbreak := length_lineBreak? hlines
  have hblank := length_dropWhile_le isBlank text
  have hdrop := length_dropLines lines
  unfold dropBlank at hbreak
  omega

/-- Reads up to the closing three quotation marks. -/
def readBasicLines (text : List Char) : Option (List Char × List Char) :=
  match text with
  | [] => none
  | '"' :: '"' :: '"' :: rest => some (closingQuotes '"' rest)
  | '\\' :: rest =>
      match _hlines : continuation? rest with
      | some rest' => readBasicLines rest'
      | none =>
          match _hescape : escape? rest with
          | none => none
          | some (char, rest') => prepend char (readBasicLines rest')
  | '\r' :: '\n' :: rest => prepend '\n' (readBasicLines rest)
  | char :: rest =>
      if isBasicChar char ∨ char = '\n' ∨ char = '"' then
        prepend char (readBasicLines rest)
      else none
termination_by text.length
decreasing_by
  · have := length_continuation? _hlines
    simp only [List.length_cons]
    omega
  · have := length_escape? _hescape
    simp only [List.length_cons]
    omega
  · simp only [List.length_cons]
    omega
  · simp

/-- Reads up to the closing three apostrophes. -/
def readLiteralLines : List Char → Option (List Char × List Char)
  | [] => none
  | '\'' :: '\'' :: '\'' :: rest => some (closingQuotes '\'' rest)
  | '\r' :: '\n' :: rest => prepend '\n' (readLiteralLines rest)
  | char :: rest =>
      if isLiteralChar char ∨ char = '\n' ∨ char = '\'' then
        prepend char (readLiteralLines rest)
      else none

/-- Drops the line break that may follow the opening of several lines. -/
def dropFirstBreak (text : List Char) : List Char :=
  (lineBreak? text).getD text

/-- Reads a string in any of its four forms. -/
def readString : List Char → Option (List Char × List Char)
  | '"' :: '"' :: '"' :: rest => readBasicLines (dropFirstBreak rest)
  | '"' :: rest => readBasic rest
  | '\'' :: '\'' :: '\'' :: rest => readLiteralLines (dropFirstBreak rest)
  | '\'' :: rest => readLiteral rest
  | _ => none

end Pinhole.Toml
