import Pinhole.Toml.Reader
import Pinhole.Toml.Tree

/-!
# Documents

The statements of a document are read one after another and build up one table.
Keys are given inside the table that the last header opened.
-/

namespace Pinhole.Toml

/-- The inline table of some keys and values. -/
def inlineTable? (pairs : List (Path × Value)) : Option Value := do
  let entries ← pairs.foldlM
    (fun entries (path, value) => Entries.assign entries path value) []
  return .table (entriesToValues entries)

/-- Reads a value in which arrays and inline tables may be nested `depth`
deep. -/
def readValue : (depth : Nat) → List Char → Option (Value × List Char)
  | _, '"' :: rest =>
      (readString ('"' :: rest)).map fun (text, rest) =>
        (.string (String.ofList text), rest)
  | _, '\'' :: rest =>
      (readString ('\'' :: rest)).map fun (text, rest) =>
        (.string (String.ofList text), rest)
  | depth + 1, '[' :: rest =>
      (readItems (readValue depth) rest).map fun (items, rest) =>
        (.array items, rest)
  | depth + 1, '\x7b' :: rest =>
      match dropBlank rest with
      | '\x7d' :: rest => some (.table [], rest)
      | _ => do
          let (pairs, rest) ← readPairs (readValue depth) rest
          return (← inlineTable? pairs, rest)
  | 0, '[' :: _ | 0, '\x7b' :: _ => none
  | _, text => readBare text

/-- Reads one statement, without the end of its line. -/
def readStatement : List Char → Option (Statement × List Char)
  | '[' :: '[' :: rest => do
      match ← readKey rest with
      | (path, ']' :: ']' :: rest) => return (.element path, rest)
      | _ => none
  | '[' :: rest => do
      match ← readKey rest with
      | (path, ']' :: rest) => return (.table path, rest)
      | _ => none
  | text => do
      let ((path, value), rest) ← readPair (readValue (depthLimit - 1)) text
      return (.assign path value, rest)

/-- Reads all statements. -/
def readStatements (text : List Char) : Option (List Statement) :=
  match dropTrivia text with
  | [] => some []
  | start =>
      match readStatement start with
      | none => none
      | some (statement, rest) =>
          match lineEnd? rest with
          | none => none
          | some rest =>
              if _hrest : rest.length < text.length then
                (readStatements rest).map (statement :: ·)
              else none
termination_by text.length

/-- A document while it is built: its table, and the path of the table that
keys are given in. -/
structure Draft where
  entries : Entries
  current : Path

namespace Draft

/-- Carries out a statement. -/
def add? (draft : Draft) : Statement → Option Draft
  | .assign path value => do
      let entries ← Entries.descend (Entries.assign · path value)
        draft.entries draft.current
      return { draft with entries := entries }
  | .table path => do
      let key ← path.getLast?
      let entries ← Entries.descend (Entries.openTable key) draft.entries
        path.dropLast
      return ⟨entries, path⟩
  | .element path => do
      let key ← path.getLast?
      let entries ← Entries.descend (Entries.openElement key) draft.entries
        path.dropLast
      return ⟨entries, path⟩

end Draft

/-- The table that statements build. -/
def tableOf? (statements : List Statement) :
    Option (List (String × Value)) := do
  let draft ← statements.foldlM Draft.add? ⟨[], []⟩
  return entriesToValues draft.entries

/-- Drops the mark that may open a text. -/
def dropByteOrderMark : List Char → List Char
  | '\ufeff' :: rest => rest
  | text => text

/-- The table of a document, if it is well-formed. -/
def parse? (text : String) : Option (List (String × Value)) := do
  tableOf? (← readStatements (dropByteOrderMark text.toList))

end Pinhole.Toml
