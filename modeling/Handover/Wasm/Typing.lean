/-
**Typing of function bodies.**

An instruction takes operands of certain types from a stack and leaves others.  After an
instruction that never returns the stack is open: it gives an operand of any type that is asked
for.  A body is well typed if its last instruction, and no other, is the closing one, and the stack
then holds the results and nothing else.

Main definitions:

* `Handover.Operands` — what is known of the stack;
* `Handover.Context` — the types of the functions and of the locals;
* `Handover.Context.step?`, `Handover.Context.accepts` — typing of one instruction and of a body.
-/

import Handover.Wasm.Instr

set_option autoImplicit false

namespace Handover

/-! ### Operands -/

/-- The types on the stack, the top first.  Below them an open stack holds whatever is needed. -/
structure Operands where
  known : List ValType := []
  isOpen : Bool := false
deriving DecidableEq, Repr

namespace Operands

/-- Takes an operand of a type. -/
def pop? (s : Operands) (t : ValType) : Option Operands :=
  match s.known with
  | u :: rest => if u = t then some { s with known := rest } else none
  | [] => if s.isOpen then some s else none

/-- Takes an operand of any type. -/
def popAny? (s : Operands) : Option Operands :=
  match s.known with
  | _ :: rest => some { s with known := rest }
  | [] => if s.isOpen then some s else none

/-- Takes operands of a list of types, the last of which is on top. -/
def popAll? (s : Operands) (ts : List ValType) : Option Operands :=
  ts.reverse.foldlM pop? s

/-- Leaves an operand. -/
def push (s : Operands) (t : ValType) : Operands := { s with known := t :: s.known }

/-- Leaves operands of a list of types, the last of which is on top. -/
def pushAll (s : Operands) (ts : List ValType) : Operands := ts.foldl push s

end Operands

/-! ### Bodies -/

/-- What a body refers to by index. -/
structure Context where
  /-- The signatures of the functions. -/
  funcs : List FuncType
  /-- The types of the parameters and the locals. -/
  locals : List ValType
deriving DecidableEq, Repr

namespace Context

/-- The stack after an instruction that is not the closing one. -/
def step? (c : Context) (s : Operands) : Instr → Option Operands
  | .unreachable => some { isOpen := true }
  | .nop => some s
  | .finish => none
  | .call f => do
    let t ← c.funcs[f.toNat]?
    return (← s.popAll? t.params).pushAll t.results
  | .drop => s.popAny?
  | .localGet i => return s.push (← c.locals[i.toNat]?)
  | .localSet i => do s.pop? (← c.locals[i.toNat]?)
  | .localTee i => do
    let t ← c.locals[i.toNat]?
    return (← s.pop? t).push t
  | .i32Const _ => some (s.push .i32)
  | .i64Const _ => some (s.push .i64)
  | .f32Const _ => some (s.push .f32)
  | .f64Const _ => some (s.push .f64)
  | .refNull t => some (s.push t)
  | .v128Const _ _ => some (s.push .v128)

/-- The stack before the closing instruction, which must be the last one. -/
def run? (c : Context) : Operands → List Instr → Option Operands
  | s, [.finish] => some s
  | s, i :: is => do c.run? (← c.step? s i) is
  | _, [] => none

/-- Whether instructions are a body that leaves results of the given types. -/
def accepts (c : Context) (results : List ValType) (code : List Instr) : Bool :=
  match c.run? {} code with
  | none => false
  | some s => ((s.popAll? results).map (·.known.isEmpty)).getD false

end Context

end Handover
