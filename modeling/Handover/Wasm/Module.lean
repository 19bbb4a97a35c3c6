/-
**Core modules under construction.**

A module is built step by step.  Signatures are shared: a signature that is already there is not
added again.  Imported functions take the lowest function indices, so an import that comes after a
defined function is refused and changes nothing.

Main definitions:

* `Handover.Module` — the sections of a module;
* `Handover.Building` — steps that change a module and may be refused;
* `Handover.Module.addType`, `Handover.Module.importFunc`, `Handover.Module.addFunc`,
  `Handover.Module.exportFunc` — the steps.
-/

import Handover.Failure
import Handover.Text.Utf8
import Handover.Wasm.ValType

set_option autoImplicit false

namespace Handover

/-- An imported function. -/
structure Import where
  module : String
  name : String
  typeIdx : UInt32
deriving DecidableEq, Repr

/-- An exported function. -/
structure Export where
  name : String
  idx : UInt32
deriving DecidableEq, Repr

/-- The locals and the instruction bytes of a function. -/
structure FuncBody where
  locals : List ValType
  code : Bytes
deriving DecidableEq, Repr

/-- A core module. -/
structure Module where
  types : List FuncType := []
  imports : List Import := []
  /-- The type index of each defined function. -/
  funcs : List UInt32 := []
  /-- The least size of each memory, in pages. -/
  memories : List UInt32 := []
  exports : List Export := []
  code : List FuncBody := []
deriving DecidableEq, Repr

/-- A step of building a module. -/
abbrev Building := EStateM Fault Module

namespace Module

/-- The index of a signature, which is added if it is missing. -/
def addType (t : FuncType) : Building UInt32 := do
  let m ← get
  match m.types.findIdx? (· = t) with
  | some i => return i.toUInt32
  | none =>
    set { m with types := m.types ++ [t] }
    return m.types.length.toUInt32

/-- Adds an imported function and gives its index. -/
def importFunc (module name : String) (t : FuncType) : Building UInt32 := do
  if !(← get).funcs.isEmpty then
    throw (.message "wasm: imports must precede defined functions")
  let typeIdx ← addType t
  modify fun m => { m with imports := m.imports ++ [{ module, name, typeIdx }] }
  return ((← get).imports.length - 1).toUInt32

/-- Defines a function and gives its index. -/
def addFunc (t : FuncType) (locals : List ValType) (code : Bytes) : Building UInt32 := do
  let typeIdx ← addType t
  modify fun m => { m with funcs := m.funcs ++ [typeIdx], code := m.code ++ [{ locals, code }] }
  let m ← get
  return (m.imports.length + m.funcs.length - 1).toUInt32

/-- Defines a function and exports it under a name. -/
def exportFunc (name : String) (t : FuncType) (locals : List ValType) (code : Bytes) :
    Building UInt32 := do
  let idx ← addFunc t locals code
  modify fun m => { m with exports := m.exports ++ [{ name, idx }] }
  return idx

/-- Exports a function by its index, whatever it is. -/
def exportAs (name : String) (idx : UInt32) : Building UInt32 := do
  modify fun m => { m with exports := m.exports ++ [{ name, idx }] }
  return idx

/-- The module that a list of steps builds, whether or not some are refused. -/
def build {α : Type} (b : Building α) (m : Module := {}) : Module :=
  match b.run m with
  | .ok _ m => m
  | .error _ m => m

end Module

end Handover
