/-
**Runs.**

Running a function of a program ends with results or in a trap.  On the way it calls imported
functions; the run waits there until the host answers.  So a run is a tree, and what the host does
at its nodes is up to the host.

Main definitions:

* `Handover.Run` — the tree of a run;
* `Handover.Program.invoke` — the run of a function;
* `Handover.Run.perform` — the run against a host.
-/

import Handover.Wasm.Program

set_option autoImplicit false

namespace Handover

/-- Why a run stopped by itself. -/
inductive Trap where
  | unreachable
  /-- Too many calls were waiting for each other. -/
  | exhausted
deriving DecidableEq, Repr

/-- The wording of a trap. -/
def Trap.message : Trap → String
  | unreachable => "wasm error: unreachable"
  | exhausted => "stack overflow"

/-- A run.  Values are words: a shorter value fills the low bits, and of a longer one the low bits
are kept. -/
inductive Run where
  | done (results : List UInt64)
  | trap (t : Trap)
  /-- The run waits for the results of an imported function. -/
  | call (module name : String) (args : List UInt64) (next : List UInt64 → Run)

namespace Program

/-- How a function is called: its index, its arguments and what follows with its results. -/
abbrev Caller := Nat → List UInt64 → (List UInt64 → Run) → Run

/-- Runs instructions on locals and a stack, the top first; `next` follows with the stack. -/
def runCode (types : List FuncType) (caller : Caller) :
    List Instr → List UInt64 → List UInt64 → (List UInt64 → Run) → Run
  | [], _, stack, next => next stack
  | i :: is, locals, stack, next =>
    let continueWith (v : UInt64) := runCode types caller is locals (v :: stack) next
    match i with
    | .unreachable => .trap .unreachable
    | .nop | .finish => runCode types caller is locals stack next
    | .call f =>
      let arity := ((types[f.toNat]?).map (·.params.length)).getD 0
      caller f.toNat (stack.take arity).reverse fun results =>
        runCode types caller is locals (results.reverse ++ stack.drop arity) next
    | .drop => runCode types caller is locals stack.tail next
    | .localGet n => continueWith (locals[n.toNat]?.getD 0)
    | .localSet n =>
      runCode types caller is (locals.set n.toNat (stack.head?.getD 0)) stack.tail next
    | .localTee n =>
      runCode types caller is (locals.set n.toNat (stack.head?.getD 0)) stack next
    | .i32Const v => continueWith v.toUInt32.toUInt64
    | .i64Const v => continueWith v.toUInt64
    | .f32Const bits => continueWith bits.toUInt64
    | .f64Const bits => continueWith bits
    | .refNull _ => continueWith 0
    | .v128Const low _ => continueWith low

/-- The run of a function, in which at most `depth` calls wait for each other. -/
def invoke (p : Program) : Nat → Caller
  | 0, _, _, _ => .trap .exhausted
  | depth + 1, f, args, next =>
    match p.imports[f]? with
    | some i => .call i.module i.name args next
    | none =>
      match p.functions[f - p.imports.length]? with
      | none => .trap .unreachable
      | some fn =>
        runCode p.funcTypes (p.invoke depth) fn.code (args ++ fn.locals.map fun _ => 0) []
          fun stack => next (stack.take fn.type.results.length).reverse

/-- How many calls may wait for each other: enough that every function has its turn. -/
def maxDepth (p : Program) : Nat := 10000 + p.functions.length

/-- The run of a function from the outside. -/
def run (p : Program) (f : Nat) (args : List UInt64) : Run := p.invoke p.maxDepth f args .done

end Program

/-- A host: what it does when an imported function is called. -/
abbrev HostCall (m : Type → Type) := String → String → List UInt64 → m (List UInt64)

/-- Performs a run against a host. -/
def Run.perform {m : Type → Type} [Monad m] (host : HostCall m) :
    Run → m (Except Trap (List UInt64))
  | done results => pure (.ok results)
  | trap t => pure (.error t)
  | call module name args next => do
    let results ← host module name args
    (next results).perform host

end Handover
