import Pinhole.Config.Reading
import Pinhole.Config.Writing
import Pinhole.Files
import Pinhole.Report

/-!
# The configuration file

Loading a configuration brings its file into normal form, so that the defaults
are visible in it: the file is written anew exactly if its text is not the
normal form already.  A file that cannot be written is no hindrance.
-/

namespace Pinhole

/-- Why a configuration cannot be loaded. -/
inductive LoadError where
  | unreadable (path : String) (cause : SystemError)
  | unparsable (path : String)
  /-- There is no normal form to compare the text with. -/
  | unwritable
deriving DecidableEq, Repr

/-- What a configuration without a normal form is reported as. -/
def unwritableReport : Report :=
  .alone "out-of-range value for u64 type"

def LoadError.report : LoadError → Report
  | unreadable path cause =>
      .because ("cannot read config file " ++ path) (.alone cause.text)
  | unparsable path => .alone ("cannot parse config file " ++ path)
  | unwritable => unwritableReport

/-- Why a configuration cannot be saved. -/
inductive SaveError where
  /-- It has no normal form. -/
  | unwritable
  | system (cause : SystemError)
deriving DecidableEq, Repr

/-- What became of the file of a configuration that was loaded. -/
inductive WriteBack where
  /-- It held the normal form. -/
  | unchanged
  | rewritten
  | failed (error : SaveError)
deriving DecidableEq, Repr

namespace Config

/-- Writes the normal form of a configuration to a file. -/
def save (config : Config) (path : String) :
    StateM FileTree (Except SaveError Unit) :=
  match config.toText? with
  | none => return .error .unwritable
  | some text => do
      let outcome ← (FileTree.writeText path text).run
      return outcome.mapError .system

/-- The configuration in a file, and the file's text. -/
def read (tree : FileTree) (path : String) :
    Except LoadError (Config × String) := do
  let text ← (tree.readText path).mapError (.unreadable path)
  match Config.parse? text with
  | some config => return (config, text)
  | none => throw (.unparsable path)

/-- Loads a configuration and brings its file into normal form. -/
def load (path : String) :
    StateM FileTree (Except LoadError (Config × WriteBack)) := do
  match Config.read (← get) path with
  | .error error => return .error error
  | .ok (config, text) =>
      match config.toText? with
      | none => return .error .unwritable
      | some normal =>
          if normal = text then return .ok (config, .unchanged)
          match ← config.save path with
          | .ok () => return .ok (config, .rewritten)
          | .error error => return .ok (config, .failed error)

end Config

end Pinhole
