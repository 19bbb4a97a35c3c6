/-
**The reference script.**

A script is a module that exports `main`, which takes a handle.  The reference script logs the
handle, reads the number, destroys the object and returns the number; each step but the second can
be left out, and it can be made to trap before it returns.

Main definitions:

* `Handover.Script.Options` — what the script does;
* `Handover.Script.instructions` — the body of `main`;
* `Handover.Script.reference` — the bytes of the script.
-/

import Handover.Slot
import Handover.Wasm.Binary
import Handover.Wasm.Instr

set_option autoImplicit false

namespace Handover.Script

/-- The function that every script exports. -/
def mainExport : String := "main"

/-- What the reference script does with the object. -/
structure Options where
  /-- Log the handle first. -/
  trace : Bool := false
  /-- Destroy the object after reading its number. -/
  destroy : Bool := false
  /-- Trap after all other steps. -/
  trap : Bool := false
deriving DecidableEq, Repr

/-- The options of the script that is used by default. -/
def Options.standard : Options := { trace := true, destroy := true }

/-- The signature under which the script imports a slot: the receiver, then the parameters.  Types
that no core value carries are left out. -/
def slotType (s : Slot) : FuncType where
  params := .i64 :: (WitType.flattenAll? s.params).getD []
  results := (WitType.flattenAll? s.results).getD []

/-- Imports the slots in order and gives their indices by name, later ones first. -/
def importSlots : List Slot → Building (List (String × UInt32))
  | [] => return []
  | s :: ss => do
    let idx ← Module.importFunc thingModule s.name (slotType s)
    return (← importSlots ss) ++ [(s.name, idx)]

/-- The body of `main`, given the indices of the functions that it calls. -/
def instructions (opts : Options) (log number destroy : UInt32) : List Instr :=
  (if opts.trace then [.localGet 0, .call log] else [])
    ++ [.localGet 0, .call number, .localSet 1]
    ++ (if opts.destroy then [.localGet 0, .call destroy] else [])
    ++ (if opts.trap then [.unreachable] else [])
    ++ [.localGet 1, .finish]

/-- Builds the reference script.  A slot that is missing has index zero. -/
def assemble (slots : List Slot) (opts : Options) : Building Unit := do
  let log ← Module.importFunc logModule "handle" { params := [.i64] }
  let indices ← importSlots slots
  let index (name : String) := (indices.lookup name).getD 0
  let body := instructions opts log (index "number") (index "destroy")
  let _ ← Module.exportFunc mainExport { params := [.i64], results := [.i32] } [.i32]
    (Instr.encodeAll body)

/-- The reference script over the given slots. -/
def reference (slots : List Slot) (opts : Options) : Bytes :=
  (Module.build (assemble slots opts)).encode

end Handover.Script
