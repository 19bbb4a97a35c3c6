/-
**The application.**

The application reads its settings, sets up the log and performs a command: it runs a script on a
thing, writes the reference script, or writes the headers of an interface description.

Main definitions:

* `Handover.CommandLine.Verdict` — how the application ended;
* `Handover.CommandLine.Surroundings` — what is given from outside;
* `Handover.CommandLine.App.perform` — performs a command;
* `Handover.CommandLine.App.main` — the application.
-/

import Handover.CommandLine.Invocation
import Handover.Foreign
import Handover.Header.Scope
import Handover.Log.Line
import Handover.Trace

set_option autoImplicit false

namespace Handover.CommandLine

/-- How the application ended. -/
inductive Verdict where
  | success
  | failure (f : Failure)
  /-- A failure that was already reported. -/
  | exit (code : Nat)
deriving DecidableEq, Repr

/-- What is given from outside. -/
structure Surroundings where
  boundary : Boundary := {}
  vars : Variables := fun _ => none
  /-- The time of an event of a trace. -/
  clock : Nat → Int := fun _ => 0
  /-- Whether the output is a terminal. -/
  isTerminal : Bool := false

/-- How an application ended, and how its log is to be written. -/
structure Ending where
  verdict : Verdict
  style : Log.Style := {}
deriving Repr

namespace App

/-- The verdict on an outcome. -/
def verdictOf : Except Failure Unit → Verdict
  | .ok () => .success
  | .error f => .failure f

/-! ### Running a script -/

/-- The observer that records a trace. -/
def tracer : Observer := "trace"

/-- What a run is made with: the entry point and the number of the thing. -/
def resolve (around : Surroundings) (s : Settings) (o : RunOptions) :
    Except Failure (Entry × Int32) := do
  let entry : Entry := {
    boundary := around.boundary, script := o.script.getD s.script
    allowance := { pages := s.memoryLimitPages.toNat }
    bytes := if o.isBuiltin then some (Script.reference around.boundary.slots .standard) else none }
  match o.number with
  | none => return (entry, s.number)
  | some n =>
    if n < Int32.minValue.toInt ∨ Int32.maxValue.toInt < n then
      throw (Settings.refusal (toString n) "--number must fit in 32 bits")
    return (entry, Int32.ofInt n)

/-- Hands a thing to the entry point. -/
def handOver (entry : Entry) (number : Int32) (isForeign : Bool) : Act (Except Failure Unit) := do
  if isForeign then
    let (destroyed, outcome) ← runForeign entry number
    Act.printLine entry.output ("C destroy ran " ++ toString destroyed ++ " time(s)")
    return outcome
  else
    entry.main ⟨← wrapReference { number, diagnostics := some entry.output }⟩

/-- Runs a script on a thing. -/
def run (around : Surroundings) (s : Settings) (o : RunOptions) : Act Verdict := do
  match resolve around s o with
  | .error f => return .failure f
  | .ok (entry, number) =>
    if o.isInteractive then return .failure (.plain "interactive mode needs a terminal")
    let before := (← get).journal.length
    if o.hasTrace then modify fun w => { w with table := w.table.subscribe tracer }
    let outcome ← handOver entry number o.isForeign
    if o.hasTrace then
      let seen := (← get).journal.drop before
      Act.print entry.output
        (Trace.render around.isTerminal (Trace.ofJournal around.clock tracer seen))
      modify fun w => { w with table := w.table.unsubscribe tracer }
    match outcome with
    | .ok () => return .success
    | .error _ => return .exit 1

/-! ### Writing files -/

/-- Writes the reference script to a file. -/
def writeScript (around : Surroundings) (o : Script.Options) (path : String) : Act Verdict := do
  let bytes := Script.reference around.boundary.slots o
  match Script.toFile (← get).files path bytes with
  | .error f => return .failure f
  | .ok files =>
    modify fun w => { w with files }
    Act.printLine .out ("wrote " ++ path ++ " (" ++ toString bytes.length ++ " bytes)")
    return .success

/-- The failure of an operation on a file while headers are written. -/
def headerFailure (detail : String) (p : File.Problem) : Failure :=
  .within .generate .invalidInput (some (.plain p.message)) detail

/-- The headers of an interface description in a file. -/
def headersOf (files : File.Tree) (source : String) : Except Failure (List HeaderFile) := do
  if source = "" then throw (.invalidInput .generate "missing IDL file")
  let bytes ← (files.read source).mapError (headerFailure ("read " ++ source))
  let description ← (Description.ofBytes bytes).mapError SyntaxError.failure
  description.headers

/-- Writes one header after the other; those that were written stay. -/
def writeHeaders (directory : String) : List HeaderFile → Act (Except Failure Unit)
  | [] => return .ok ()
  | h :: hs => do
    let path := File.join directory h.name
    match (← get).files.write path h.code.render with
    | .error p => return .error (headerFailure ("create " ++ path) p)
    | .ok files =>
      modify fun w => { w with files }
      writeHeaders directory hs

/-- Writes the headers of an interface description into a directory. -/
def header (source directory : String) : Act Verdict := do
  match headersOf (← get).files source with
  | .error f => return .failure f
  | .ok headers =>
    let (files, problem) := (← get).files.makeDirs directory
    modify fun w => { w with files }
    match problem with
    | some p => return .failure (headerFailure "create output directory" p)
    | none =>
      match ← writeHeaders directory headers with
      | .error f => return .failure f
      | .ok () =>
        for h in headers do Act.printLine .out (File.join directory h.name)
        return .success

/-! ### The application -/

/-- Performs a command. -/
def perform (around : Surroundings) (s : Settings) : Command → Act Verdict
  | .run options => run around s options
  | .script options path => writeScript around options path
  | .header source directory => header source directory

/-- How the log is written under some settings. -/
def styleOf (s : Settings) : Log.Style where
  threshold := (Log.Level.ofName? s.logLevel).getD .info
  format := if s.logFormat = "json" then .json else .text

/-- The application.  The settings are looked at before the command. -/
def main (around : Surroundings) (args : List String) : Act Ending := do
  let files := (← get).files
  let start : Except Failure (Settings × List String) := do
    let (overrides, args) ← Overrides.read around.vars args
    return (← overrides.settings files, args)
  match start with
  | .error f => return { verdict := .failure f }
  | .ok (settings, args) =>
    let style := styleOf settings
    match Command.ofArguments around.vars args with
    | .error f => return { verdict := .failure f, style }
    | .ok command => return { verdict := ← perform around settings command, style }

end App

/-- What stands in the error output: texts and the lines of the log, in order. -/
def errorText (style : Log.Style) (stamps : Log.Stamps) (journal : List Mark) : String :=
  String.join <| journal.map fun
    | .wrote .err text => text
    | .logged record => style.lines stamps record
    | _ => ""

end Handover.CommandLine
