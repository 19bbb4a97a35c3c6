/-
**Script files.**

A script is kept in a file.  Reading one checks that it starts like a module; whether it is one is
found out when it is loaded.

Main definitions: `Handover.Script.fromFile`, `Handover.Script.toFile`.
-/

import Handover.Failure
import Handover.File.Tree
import Handover.Wasm.Binary

set_option autoImplicit false

namespace Handover.Script

/-- The path that is used if none is given. -/
def defaultPath : String := "main.wasm"

/-- A path, or the default one if it is empty. -/
def pathOr (path : String) : String := if path = "" then defaultPath else path

/-- The bytes of the script in a file. -/
def fromFile (files : File.Tree) (path : String) : Except Failure Bytes :=
  let path := pathOr path
  match files.read path with
  | .error p => .error (.load ("read script " ++ path) (some (.plain p.message)))
  | .ok bytes =>
    if Module.header.isPrefixOf bytes then .ok bytes
    else .error (.invalidData .load (path ++ " is not a WebAssembly module"))

/-- Puts a script into a file. -/
def toFile (files : File.Tree) (path : String) (bytes : Bytes) : Except Failure File.Tree :=
  match files.write path bytes with
  | .error p => .error (.load ("write script " ++ path) (some (.plain p.message)))
  | .ok files => .ok files

end Handover.Script
