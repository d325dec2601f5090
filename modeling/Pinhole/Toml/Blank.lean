/-!
# Blanks, line breaks and comments

A line break is a line feed, which a carriage return may precede.  A comment
runs from a number sign to the end of its line and holds no control character
but tabs.
-/

namespace Pinhole.Toml

def isBlank (char : Char) : Bool :=
  char = ' ' ∨ char = '\t'

def isCommentChar (char : Char) : Bool :=
  char = '\t' ∨ (' ' ≤ char ∧ char ≠ '\x7f')

def dropBlank (text : List Char) : List Char :=
  text.dropWhile isBlank

/-- What follows a line break, if there is one. -/
def lineBreak? : List Char → Option (List Char)
  | '\n' :: rest => some rest
  | '\r' :: '\n' :: rest => some rest
  | _ => none

/-- Drops a comment, if there is one. -/
def dropComment : List Char → List Char
  | '#' :: rest => rest.dropWhile isCommentChar
  | text => text

/-- What follows the end of a line, which may hold blanks and a comment. -/
def lineEnd? (text : List Char) : Option (List Char) :=
  match dropComment (dropBlank text) with
  | [] => some []
  | rest => lineBreak? rest

theorem length_dropWhile_le {α : Type} (p : α → Bool) (items : List α) :
    (items.dropWhile p).length ≤ items.length :=
  (List.dropWhile_sublist p).length_le

/-- Drops blanks, line breaks and comments in any order. -/
def dropTrivia (text : List Char) : List Char :=
  match text with
  | [] => []
  | '\n' :: rest => dropTrivia rest
  | '\r' :: '\n' :: rest => dropTrivia rest
  | '#' :: rest => dropTrivia (rest.dropWhile isCommentChar)
  | char :: rest =>
      if isBlank char then dropTrivia rest else char :: rest
termination_by text.length
decreasing_by
  · simp
  · simp only [List.length_cons]
    omega
  · have hrest := length_dropWhile_le isCommentChar rest
    simp only [List.length_cons]
    omega
  · simp

end Pinhole.Toml
