import Pinhole.Toml.Bare
import Pinhole.Toml.Quoted

/-!
# Reading a document

A document is a sequence of statements, each on lines of its own: a key with a
value, or a header that names the table that the keys after it belong to.  Keys
are dotted paths.  Arrays may run over several lines and end in a comma, inline
tables may not.  Neither arrays and inline tables nor paths may be nested too
deep.
-/

namespace Pinhole.Toml

abbrev Path := List String

/-- One statement of a document. -/
inductive Statement where
  | assign (path : Path) (value : Value)
  /-- The table that the following keys belong to. -/
  | table (path : Path)
  /-- A new element of an array of tables. -/
  | element (path : Path)

/-- A path has fewer parts than this. -/
def depthLimit : Nat := 80

/-- Reads one part of a key. -/
def readKeyPart : List Char → Option (String × List Char)
  | '"' :: rest =>
      (readBasic rest).map fun (key, rest) => (String.ofList key, rest)
  | '\'' :: rest =>
      (readLiteral rest).map fun (key, rest) => (String.ofList key, rest)
  | text =>
      let key := text.takeWhile isBareKeyChar
      if key.isEmpty then none
      else some (String.ofList key, text.dropWhile isBareKeyChar)

/-- Reads a dotted path and the blanks around its parts. -/
def readPath (text : List Char) : Option (Path × List Char) :=
  match readKeyPart (dropBlank text) with
  | none => none
  | some (part, rest) =>
      match dropBlank rest with
      | '.' :: rest =>
          if _hrest : rest.length < text.length then
            (readPath rest).map fun (path, rest) => (part :: path, rest)
          else none
      | rest => some ([part], rest)
termination_by text.length

/-- Reads a path that is not too deep. -/
def readKey (text : List Char) : Option (Path × List Char) := do
  let (path, rest) ← readPath text
  if path.length < depthLimit then some (path, rest) else none

/-- Reads the items of an array up to its closing bracket, each with
`readItem`. -/
def readItems (readItem : List Char → Option (Value × List Char))
    (text : List Char) : Option (List Value × List Char) :=
  match dropTrivia text with
  | ']' :: rest => some ([], rest)
  | start =>
      match readItem start with
      | none => none
      | some (item, rest) =>
          match dropTrivia rest with
          | ']' :: rest => some ([item], rest)
          | ',' :: rest =>
              if _hrest : rest.length < text.length then
                (readItems readItem rest).map fun (items, rest) =>
                  (item :: items, rest)
              else none
          | _ => none
termination_by text.length

/-- Reads a key, an equals sign and a value. -/
def readPair (readItem : List Char → Option (Value × List Char))
    (text : List Char) : Option ((Path × Value) × List Char) := do
  let (path, rest) ← readKey text
  match rest with
  | '=' :: rest =>
      let (value, rest) ← readItem (dropBlank rest)
      return ((path, value), rest)
  | _ => none

/-- Reads the keys and values of an inline table up to its closing brace; there
is at least one. -/
def readPairs (readItem : List Char → Option (Value × List Char))
    (text : List Char) : Option (List (Path × Value) × List Char) :=
  match readPair readItem text with
  | none => none
  | some (pair, rest) =>
      match dropBlank rest with
      | '\x7d' :: rest => some ([pair], rest)
      | ',' :: rest =>
          if _hrest : rest.length < text.length then
            (readPairs readItem rest).map fun (pairs, rest) =>
              (pair :: pairs, rest)
          else none
      | _ => none
termination_by text.length

end Pinhole.Toml
