/-
**The entry point.**

The entry point takes over an object, lends it to a script, runs the script and gives the object
up.  Whatever the script does, the object is destroyed when the call is over: by the script, or
else on return.

Main definitions:

* `Handover.Entry` — what a call is made with;
* `Handover.Entry.main` — the call.
-/

import Handover.Host.Engine

set_option autoImplicit false

namespace Handover

/-- What the script of a call may use. -/
structure Allowance where
  /-- The most pages of memory; zero for no limit. -/
  pages : Nat := 0
  /-- Where the script logs to, if not to the output of the call. -/
  output : Option Channel := none
deriving DecidableEq, Repr

/-- What a call of the entry point is made with. -/
structure Entry where
  boundary : Boundary := {}
  output : Channel := .out
  errors : Channel := .err
  allowance : Allowance := {}
  /-- The path of the script. -/
  script : String := ""
  /-- The bytes of the script, in place of the file. -/
  bytes : Option Bytes := none
deriving Repr

namespace Entry

/-- The name of a script that comes from no file. -/
def inlineName : String := "inline"

/-- The values that every log record of a call is about. -/
def logFields (h : Handle) : List (String × Log.Value) := [("call", .callId), ("handle", .number h)]

/-- Loads the script and runs it. -/
def run (e : Entry) (h : Handle) : Act (Except Failure Result) := do
  match Host.start e.boundary (e.allowance.output.getD e.output) e.allowance.pages with
  | .error f => return .error f
  | .ok host =>
    let files := (← get).files
    let loaded := match e.bytes with
      | some bytes => host.load inlineName bytes
      | none => host.loadFile files e.script
    match loaded with
    | .error f => return .error f
    | .ok s =>
      Act.log .debug .entry "running script" (logFields h ++ [("script", .text s.name)])
      host.main s h

/-- Reports how the script ended. -/
def conclude (e : Entry) (h : Handle) : Except Failure Result → Act (Except Failure Unit)
  | .error f => do
    Act.printLine e.errors ("error " ++ f.message)
    Act.log .error .entry "script failed" (logFields h ++ [("error", .text f.message)])
    return .error f
  | .ok r => do
    Act.printLine e.output ("script main: " ++ r.text)
    Act.log .info .entry "script returned" (logFields h ++ [("result", r.logValue)])
    return .ok ()

/-- Destroys the object if the script has not. -/
def giveUp (h : Handle) : Act Unit := do
  if ← reclaim h then
    dropHandle h
    Act.log .debug .entry "destroyed on return" (logFields h)
  else
    Act.log .debug .entry "destroyed by script" (logFields h)

/-- Takes over an object and runs the script on it. -/
def main (e : Entry) (d : Deed) : Act (Except Failure Unit) := do
  let h ← d.take
  let p ← Proxy.ofHandle h
  let n ← p.number
  Act.printLine e.output ("Got into rust " ++ toString n.toInt)
  let address := (p.descriptor.map (← get).slotsAddress).getD 0
  Act.printLine e.output ("Vtable " ++ Text.address address)
  let h ← p.intoHandle
  let outcome ← e.conclude h (← e.run h)
  giveUp h
  return outcome

end Entry

end Handover
