/-
**The command line.**

The program looks at its arguments, its variables and the files that the arguments name, runs the
application on them, and then prints and writes what the application left behind.
-/

import Handover.CommandLine.App
import Handover.Log.Stamp
import Std.Time.DateTime.Timestamp

set_option autoImplicit false

namespace Handover.CommandLine

/-- What stands at a path. -/
def nodeAt (path : String) : IO (Option File.Node) := do
  try
    return some (.file (← IO.FS.readBinFile path).toList)
  catch
    | .inappropriateType .. => return some .directory
    | _ => return none

/-- Takes over what a path passes and reaches. -/
def fetch (files : File.Tree) (path : String) : IO File.Tree := do
  if path = "" then return files
  (File.Tree.places path).foldlM (fun files place => do
    match ← nodeAt place.path with
    | some node => return files.set place node
    | none => return files) files

/-- Makes a directory or a file. -/
def store : File.Place × File.Node → IO Unit
  | (place, .directory) => IO.FS.createDirAll place.path
  | (place, .file content) => IO.FS.writeBinFile place.path ⟨content.toArray⟩

/-- The variables that stand in for flags. -/
def standInValues : IO Variables := do
  let names := (globalFlags ++ runFlags ++ scriptFlags).filterMap (·.standIn)
  let values ← names.filterMapM fun name => do return (← IO.getEnv name).map (name, ·)
  return fun name => values.lookup name

/-- The time and a new name for a call. -/
def stamps : IO Log.Stamps := do
  let now ← Std.Time.Timestamp.now
  return {
    time := Log.instant now.toMillisecondsSinceUnixEpoch.val.toNat
    call := Log.identity (← IO.getRandomBytes 16).toList }

/-- The exit code of a verdict, after what is to be said about it. -/
def conclude : Verdict → IO UInt32
  | .success => return 0
  | .exit code => return code.toUInt32
  | .failure f => do
    IO.eprintln ("Error: " ++ f.message)
    return 1

/-- Runs the application where the program was started. -/
def program (args : List String) : IO UInt32 := do
  let vars ← standInValues
  let settings ← (paths vars {} args).foldlM fetch {}
  let files ← (paths vars settings args).foldlM fetch settings
  let around : Surroundings := { vars, isTerminal := ← (← IO.getStdout).isTty }
  let stamps ← stamps
  let finish (world : World) (style : Log.Style) : IO Unit := do
    IO.print (world.written .out)
    IO.eprint (errorText style stamps world.journal)
    (world.files.since files).forM store
  match (App.main around args).run { files } with
  | .ok ending world =>
    finish world ending.style
    conclude ending.verdict
  | .error fault world =>
    finish world {}
    IO.eprintln ("panic: " ++ fault.text)
    return 2

end Handover.CommandLine

/-- The program. -/
def main (args : List String) : IO UInt32 := Handover.CommandLine.program args
