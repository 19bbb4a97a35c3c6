/-
**Programs.**

A program is a module that was found valid: every index that it uses exists, every type is known,
its exported names differ, and its functions are well typed.  Its memory must fit the limit.

Main definitions:

* `Handover.Function`, `Handover.Program` — the functions, resolved;
* `Handover.Program.ofModule?` — the program of a valid module;
* `Handover.Program.load?` — the program that some bytes stand for.
-/

import Handover.Wasm.Binary
import Handover.Wasm.Typing

set_option autoImplicit false

namespace Handover

/-- An imported function with its signature. -/
structure ImportedFunction where
  module : String
  name : String
  type : FuncType
deriving DecidableEq, Repr

/-- A defined function. -/
structure Function where
  type : FuncType
  locals : List ValType
  code : List Instr
deriving DecidableEq, Repr

/-- A valid module.  Its functions are numbered, imported ones first. -/
structure Program where
  imports : List ImportedFunction
  functions : List Function
  exports : List Export
deriving DecidableEq, Repr

namespace Program

/-- The most pages of memory that there can be. -/
def maxPages : Nat := 65536

/-- The signatures of the functions, by index. -/
def funcTypes (p : Program) : List FuncType := p.imports.map (·.type) ++ p.functions.map (·.type)

/-- Whether a function is well typed among others. -/
def isTyped (funcs : List FuncType) (f : Function) : Bool :=
  Context.accepts { funcs, locals := f.type.params ++ f.locals } f.type.results f.code

/-- Whether a signature has known types only. -/
def isKnownType (t : FuncType) : Bool := (t.params ++ t.results).all ValType.isKnown

/-- The program of a module, if the module is valid.  A memory may have at most `limit` pages. -/
def ofModule? (limit : Nat) (m : Module) : Option Program := do
  guard (m.types.all isKnownType)
  let imports ← m.imports.mapM fun i => do
    return { module := i.module, name := i.name, type := ← m.types[i.typeIdx.toNat]? }
  guard (m.funcs.length = m.code.length)
  let functions ← (m.funcs.zip m.code).mapM fun (idx, body) => do
    guard (body.locals.all ValType.isKnown)
    return {
      type := ← m.types[idx.toNat]?, locals := body.locals
      code := ← Instr.decodeAll? body.code : Function }
  let p : Program := { imports, functions, exports := m.exports }
  guard (functions.all (isTyped p.funcTypes))
  guard (m.exports.all fun e => e.idx.toNat < p.funcTypes.length)
  guard (m.exports.map (·.name)).Nodup
  guard (m.memories.length ≤ 1 ∧ m.memories.all (·.toNat ≤ limit))
  return p

/-- The program that some bytes stand for. -/
def load? (limit : Nat) (bytes : Bytes) : Option Program := do
  ofModule? limit (← Module.decode? bytes)

/-- The index and the signature of an exported function. -/
def export? (p : Program) (name : String) : Option (Nat × FuncType) := do
  let e ← p.exports.find? (·.name == name)
  return (e.idx.toNat, ← p.funcTypes[e.idx.toNat]?)

end Program

end Handover
