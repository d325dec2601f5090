import Pinhole.Cli.Run

/-!
# The program

The configuration file is read into a tree of its own, the program runs on it,
and the file is written if the run changed it.  The network that the program
sees is that of an isolated host.
-/

namespace Pinhole

/-- The tree that holds nothing but what a path leads to. -/
def snapshot (path : String) : IO FileTree := do
  try
    let contents ← IO.FS.readBinFile path
    return (FileTree.writeText path "" *> FileTree.write path contents
      |>.run FileTree.empty).2
  catch
    | .noFileOrDirectory .. => return .empty
    | _ =>
        return (FileTree.createDirectories []
          ((FileTree.parts path).filter fun part => !FileTree.staysPut part)
          |>.run FileTree.empty).2

/-- Writes a file that a run changed.  A file that cannot be written stays as
it is. -/
def restore (path : String) (before after : FileTree) : IO Unit := do
  match before.read path, after.read path with
  | .ok old, .ok new =>
      if old.data ≠ new.data then
        try IO.FS.writeBinFile path new catch _ => pure ()
  | _, _ => pure ()

/-- How often timers are looked at. -/
def heartbeat : Duration := .milliseconds 100

/-- Supervises until the program is interrupted. -/
partial def supervise (setup : OfflineSetup) (printed : Nat)
    (state : OfflineRun) : IO Unit := do
  for line in state.log.drop printed do
    IO.println (line.level.name ++ " " ++ line.message)
  IO.sleep 100
  supervise setup state.log.length (state.advance setup heartbeat)

/-- The path of the configuration, if the arguments can be read. -/
def configPath? (arguments : List String) : Option String :=
  (Arguments.parse arguments).toOption.map Arguments.configPath

def runMain (arguments : List String) : IO UInt32 := do
  let files ←
    match configPath? arguments with
    | some path => snapshot path
    | none => pure .empty
  let ((outcome, after), _) := (runProgram arguments files).run Host.isolated
  if let some path := configPath? arguments then
    restore path files after
  match outcome with
  | .ended code output errors => do
      IO.print output
      IO.eprint errors
      return code.toUInt32
  | .supervising supervision => do
      let setup := supervision.offline
      supervise setup 0 (OfflineRun.start setup supervision.supervisor)
      return 0

end Pinhole

def main (arguments : List String) : IO UInt32 :=
  Pinhole.runMain arguments
