import Pinhole.Net.SystemError
import Pinhole.Text.Fields

/-!
# Files

A tree of directories and files, seen from its top.  A path is followed part by
part, and every part but the last must lead to a directory; two dots lead to
the directory above, which for the top is the top itself.  A file may be
protected against writing.
-/

namespace Pinhole

/-- What stands at a place of the tree. -/
inductive FileNode where
  | file (contents : ByteArray) (writable : Bool)
  | directory

/-- The names that lead to a place from the top. -/
abbrev Place := List String

/-- What stands at each place, the top aside. -/
structure FileTree where
  below : Place → Option FileNode

/-- A path as a user writes it, cut at its slashes. -/
abbrev PathParts := List String

/-- An operation on files that may fail. -/
abbrev FileOperation := ExceptT SystemError (StateM FileTree)

namespace FileTree

/-- A tree with nothing in it. -/
def empty : FileTree := ⟨fun _ => none⟩

def node? (tree : FileTree) : Place → Option FileNode
  | [] => some .directory
  | place => tree.below place

/-- Puts a node at a place. -/
def put (tree : FileTree) (place : Place) (node : FileNode) : FileTree :=
  ⟨fun other => if other = place then some node else tree.below other⟩

/-- The longest name a file may have, in bytes. -/
def nameLimit : Nat := 255

/-- The longest path that can be followed, in bytes. -/
def pathLimit : Nat := 4095

/-- The parts between the slashes of a path. -/
def parts (path : String) : PathParts :=
  (fields '/' path.toList).map String.ofList

/-- Whether a part of a path leads nowhere else. -/
def staysPut (part : String) : Bool :=
  part = "" || part = "."

/-- The place above. -/
def above : Place → Place := List.dropLast

/-- The place to which parts of a path lead from another.  Nothing needs to be
there. -/
def follow (tree : FileTree) : Place → PathParts → Except SystemError Place
  | place, [] => .ok place
  | place, part :: rest =>
      match tree.node? place with
      | none => .error .notFound
      | some (.file ..) => .error .notDirectory
      | some .directory =>
          if staysPut part then follow tree place rest
          else if part = ".." then follow tree (above place) rest
          else if nameLimit < part.utf8ByteSize then .error .nameTooLong
          else follow tree (place ++ [part]) rest

/-- The place of a path. -/
def place (tree : FileTree) (path : String) : Except SystemError Place :=
  if path = "" then .error .notFound
  else if path.contains '\x00' then .error .unnameable
  else if pathLimit < path.utf8ByteSize then .error .nameTooLong
  else tree.follow [] (parts path)

/-- Whether a path leads to anything. -/
def contains (tree : FileTree) (path : String) : Bool :=
  match tree.place path with
  | .ok place => (tree.node? place).isSome
  | .error _ => false

/-- The contents of a file. -/
def read (tree : FileTree) (path : String) : Except SystemError ByteArray := do
  match tree.node? (← tree.place path) with
  | none => throw .notFound
  | some .directory => throw .isDirectory
  | some (.file contents _) => return contents

/-- The contents of a file that holds text. -/
def readText (tree : FileTree) (path : String) : Except SystemError String := do
  match String.fromUTF8? (← tree.read path) with
  | some text => return text
  | none => throw .notText

/-- The tree with new contents in a file, which comes into being if it is not
there. -/
def written (tree : FileTree) (path : String) (contents : ByteArray) :
    Except SystemError FileTree := do
  let place ← tree.place path
  match tree.node? place with
  | none => return tree.put place (.file contents true)
  | some (.file _ true) => return tree.put place (.file contents true)
  | some (.file _ false) => throw .permissionDenied
  | some .directory => throw .isDirectory

def write (path : String) (contents : ByteArray) : FileOperation Unit :=
  ExceptT.mk fun tree =>
    match tree.written path contents with
    | .ok tree => (.ok (), tree)
    | .error cause => (.error cause, tree)

/-- Creates the directories that are missing on the way from a place.  Those
that were created stay if a later one cannot be. -/
def createDirectories : Place → PathParts → FileOperation Unit
  | _, [] => return
  | place, part :: rest => do
      if part = ".." then createDirectories (above place) rest
      else if nameLimit < part.utf8ByteSize then throw .nameTooLong
      else
        let next := place ++ [part]
        match (← get).node? next with
        | some .directory => createDirectories next rest
        | some (.file ..) =>
            throw (if rest.isEmpty then .fileExists else .notDirectory)
        | none => do
            modify fun tree => tree.put next .directory
            createDirectories next rest

/-- The parts of the path of the directory that a path is in. -/
def parent (path : String) : PathParts :=
  ((parts path).filter fun part => !staysPut part).dropLast

/-- Writes a text to a file, in a directory that comes into being if it is not
there. -/
def writeText (path text : String) : FileOperation Unit := do
  if (parent path).any (·.contains '\x00') then throw .unnameable
  createDirectories [] (parent path)
  write path text.toUTF8

end FileTree

end Pinhole
