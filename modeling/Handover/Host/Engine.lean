/-
**The host.**

The host runs scripts.  It offers them the slots of the objects that were lent to them, and a log.
A script may use a handle only while it is lent; anything else is a fault, which ends the script
and is reported as its failure.

Main definitions:

* `Handover.Host`, `Handover.Host.start` — a host and the functions that it offers;
* `Handover.Script`, `Handover.Host.load` — a script that was found valid;
* `Handover.Host.answer` — what happens when a script calls the host;
* `Handover.Host.main` — runs a script on a handle.
-/

import Handover.Host.Boundary
import Handover.Host.Result
import Handover.Object.Proxy
import Handover.Script.File
import Handover.Script.Reference
import Handover.Wasm.Run

set_option autoImplicit false

namespace Handover

/-- Performs an action and turns a fault into a value.  What was changed stays changed. -/
def Act.attempt {α : Type} (act : Act α) : Act (Except Fault α) := fun w =>
  match act w with
  | .ok a w => .ok (.ok a) w
  | .error e w => .ok (.error e) w

/-! ### Hosts -/

/-- A host for scripts. -/
structure Host where
  /-- Where scripts log to. -/
  output : Channel
  /-- The most pages that a script's memory may have. -/
  pageLimit : Nat
  /-- The functions that a script may import. -/
  functions : List ImportedFunction
  isClosed : Bool := false
deriving Repr

/-- A script that was found valid. -/
structure Script where
  name : String
  program : Program
  isClosed : Bool := false
deriving Repr

namespace Host

/-- The function through which scripts log a handle. -/
def logFunction : ImportedFunction where
  module := logModule
  name := "handle"
  type := { params := [.i64] }

/-- The slots that the host can call. -/
def callable : List String := ["destroy", "number"]

/-- Starts a host.  No limit, written zero, means the largest one. -/
def start (b : Boundary) (output : Channel) (pages : Nat) : Except Failure Host := do
  if Program.maxPages < pages then
    throw (.invalidInput .host ("memory limit " ++ toString pages ++ " pages exceeds "
      ++ toString Program.maxPages))
  let imports ← b.imports
  match imports.find? fun i => !callable.contains i.name with
  | some i => throw (.registration i.module i.name (some (.plain "no dispatcher")))
  | none =>
    return {
      output, functions := imports ++ [logFunction]
      pageLimit := if pages = 0 then Program.maxPages else pages }

/-- Loads a script. -/
def load (host : Host) (name : String) (bytes : Bytes) : Except Failure Script :=
  match if host.isClosed then none else Program.load? host.pageLimit bytes with
  | some program => .ok { name, program }
  | none => .error (.load ("compile " ++ name) (some (.plain "not a valid module")))

/-- Loads the script in a file. -/
def loadFile (host : Host) (files : File.Tree) (path : String) : Except Failure Script := do
  host.load (Script.pathOr path) (← Script.fromFile files path)

/-! ### Calls of the host -/

/-- Calls a slot of a lent object.  The result of `number` fills the place of the result, if the
slot has one. -/
def callSlot (slot : ImportedFunction) (h : Handle) : Act (List UInt64) := do
  match ← Proxy.lookupLent h with
  | .error f =>
    Act.log .warn .runtime "script passed a bad handle"
      [("slot", .text slot.name), ("handle", .number h), ("error", .text f.message)]
    Act.fault f
  | .ok p =>
    Act.log .debug .runtime "slot call" [("slot", .text slot.name), ("handle", .number h)]
    if slot.name = "destroy" then
      p.drop
      return []
    else
      let n ← p.number
      return slot.type.results.map fun _ => n.toUInt32.toUInt64

/-- What happens when a script calls an imported function. -/
def answer (host : Host) : HostCall Act := fun module name args => do
  let h := (args.head?.getD 0).toNat
  if module = logModule then
    Act.printLine host.output ("script: thing " ++ Text.address h)
    return []
  else
    match host.functions.find? fun i => i.module == module && i.name == name with
    | none => return []
    | some slot => callSlot slot h

/-! ### Running a script -/

/-- Whether the host offers every function that a program imports. -/
def links (host : Host) (p : Program) : Bool := p.imports.all host.functions.contains

/-- The index and the signature of the function that a script is run by. -/
def mainOf (p : Program) : Except Failure (Nat × FuncType) := do
  let some (idx, type) := p.export? Script.mainExport
    | throw (.notFound .host "export" Script.mainExport)
  if type.params ≠ [.i64] ∨ 1 < type.results.length then
    let report : Report := {
      phase := .host, kind := .typeMismatch
      detail := Script.mainExport ++ " has signature " ++ type.spelling
        ++ ", want func(i64) -> (any)" }
    throw (.report report)
  return (idx, type)

/-- The failure of a script that was stopped. -/
def stopped (s : Script) (reason : String) : Failure :=
  .hostFailure ("script " ++ s.name ++ " main") (some (.plain reason))

/-- Runs a script on a handle. -/
def main (host : Host) (s : Script) (h : Handle) : Act (Except Failure Result) := do
  match mainOf s.program with
  | .error f => return .error f
  | .ok (idx, type) =>
    if host.isClosed || s.isClosed || !host.links s.program then
      return .error (.instantiation (some (.plain "the imports cannot be resolved")))
    Act.log .debug .runtime "calling script" [("script", .text s.name), ("handle", .number h)]
    match ← Act.attempt ((s.program.run idx [h.toUInt64]).perform host.answer) with
    | .error e => return .error (stopped s (e.text ++ " (recovered by wazero)"))
    | .ok (.error t) => return .error (stopped s t.message)
    | .ok (.ok words) => return .ok (.ofWords type.results words)

end Host

end Handover
