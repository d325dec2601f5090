import Pinhole.Toml.Value

/-!
# Building tables

A table comes into being in one of three ways: by its own header, by a header
of a table inside it, or as part of a dotted key.  Only a table of the second
kind may still get a header of its own, and only dotted keys add to a table of
the third.  A value, once given, is never added to.
-/

namespace Pinhole.Toml

/-- How a table came into being. -/
inductive Origin where
  | header
  /-- By the header of a table inside it. -/
  | implied
  /-- By a dotted key. -/
  | dotted
deriving DecidableEq, Repr

/-- What a key of a table holds. -/
inductive Node where
  | value (value : Value)
  | table (origin : Origin) (entries : List (String × Node))
  /-- An array of tables, none of which is a value.  The last one is being
  added to. -/
  | tables (before : List (List (String × Node)))
      (last : List (String × Node))

abbrev Entries := List (String × Node)

namespace Entries

/-- Puts a node in the place of the one that a key holds. -/
def replace (entries : Entries) (key : String) (node : Node) : Entries :=
  entries.map fun entry => if entry.1 = key then (key, node) else entry

/-- Gives a dotted key its value. -/
def assign (entries : Entries) (path : List String) (value : Value) :
    Option Entries :=
  match path with
  | [] => none
  | [key] =>
      match entries.lookup key with
      | some _ => none
      | none => some (entries ++ [(key, .value value)])
  | key :: next :: rest =>
      match entries.lookup key with
      | none => do
          let inner ← assign [] (next :: rest) value
          return entries ++ [(key, .table .dotted inner)]
      | some (.table .dotted inner) => do
          let inner ← assign inner (next :: rest) value
          return replace entries key (.table .dotted inner)
      | some (.table .implied inner) =>
          if rest = [] then none
          else do
            let inner ← assign inner (next :: rest) value
            return replace entries key (.table .implied inner)
      | some (.tables before last) =>
          if rest = [] then none
          else do
            let last ← assign last (next :: rest) value
            return replace entries key (.tables before last)
      | some (.table .header _) | some (.value _) => none

/-- Changes the table that a path of headers leads to, which comes into being if
it is not there. -/
def descend (change : Entries → Option Entries) (entries : Entries) :
    (path : List String) → Option Entries
  | [] => change entries
  | key :: rest =>
      match entries.lookup key with
      | none => do
          let inner ← descend change [] rest
          return entries ++ [(key, .table .implied inner)]
      | some (.table origin inner) => do
          let inner ← descend change inner rest
          return replace entries key (.table origin inner)
      | some (.tables before last) => do
          let last ← descend change last rest
          return replace entries key (.tables before last)
      | some (.value _) => none

/-- Makes room for a table that gets a header of its own. -/
def openTable (key : String) (entries : Entries) : Option Entries :=
  match entries.lookup key with
  | none => some (entries ++ [(key, .table .header [])])
  | some (.table .implied inner) =>
      some (replace entries key (.table .header inner))
  | some _ => none

/-- Adds an element to an array of tables. -/
def openElement (key : String) (entries : Entries) : Option Entries :=
  match entries.lookup key with
  | none => some (entries ++ [(key, .tables [] [])])
  | some (.tables before last) =>
      some (replace entries key (.tables (before ++ [last]) []))
  | some _ => none

end Entries

mutual

/-- A node as a value. -/
def Node.toValue : Node → Value
  | .value value => value
  | .table _ entries => .table (entriesToValues entries)
  | .tables before last =>
      .array (elementsToValues before ++ [.table (entriesToValues last)])

/-- The entries of a table as values. -/
def entriesToValues : List (String × Node) → List (String × Value)
  | [] => []
  | (key, node) :: rest => (key, node.toValue) :: entriesToValues rest

/-- The elements of an array of tables as values. -/
def elementsToValues : List (List (String × Node)) → List Value
  | [] => []
  | entries :: rest =>
      .table (entriesToValues entries) :: elementsToValues rest

end

end Pinhole.Toml
