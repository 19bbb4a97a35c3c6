/-
**The binary format of modules.**

A module is eight bytes of header followed by sections in increasing order.  A section is a number,
a length and that many bytes; a section with nothing in it is left out.  Most of them are lists,
written as a count and the items.  The locals of a function are grouped: equal neighbours are
written once, with their number.

Main definitions:

* `Handover.Module.encode` — the bytes of a module;
* `Handover.Module.decode?` — the module that some bytes stand for.
-/

import Handover.Wasm.Leb128
import Handover.Wasm.Module

set_option autoImplicit false

namespace Handover

namespace Module

/-- The first eight bytes of every module: the magic number and the version. -/
def header : Bytes := [0x00, 0x61, 0x73, 0x6d, 0x01, 0x00, 0x00, 0x00]

/-! ### Writing -/

/-- A number of items. -/
def encodeCount (n : Nat) : Bytes := Leb128.unsigned n.toUInt32

/-- A byte string behind its length. -/
def encodeBlock (bs : Bytes) : Bytes := encodeCount bs.length ++ bs

/-- A list behind its length. -/
def encodeList {α : Type} (item : α → Bytes) (xs : List α) : Bytes :=
  encodeCount xs.length ++ xs.flatMap item

/-- A name. -/
def encodeName (s : String) : Bytes := encodeBlock (Bytes.ofString s)

/-- A list of value types. -/
def encodeValTypes (ts : List ValType) : Bytes := encodeList (fun t => [t.code]) ts

/-- A signature. -/
def encodeFuncType (t : FuncType) : Bytes :=
  0x60 :: (encodeValTypes t.params ++ encodeValTypes t.results)

/-- An imported function. -/
def encodeImport (i : Import) : Bytes :=
  encodeName i.module ++ encodeName i.name ++ 0x00 :: Leb128.unsigned i.typeIdx

/-- An exported function. -/
def encodeExport (e : Export) : Bytes :=
  encodeName e.name ++ 0x00 :: Leb128.unsigned e.idx

/-- A memory without an upper bound. -/
def encodeMemory (least : UInt32) : Bytes := 0x00 :: Leb128.unsigned least

/-- The runs of equal neighbours in a list of locals, each with its length. -/
def localRuns : List ValType → List (Nat × ValType)
  | [] => []
  | t :: ts =>
    match localRuns ts with
    | (n, u) :: runs => if t = u then (n + 1, u) :: runs else (1, t) :: (n, u) :: runs
    | [] => [(1, t)]

/-- A list of locals. -/
def encodeLocals (ts : List ValType) : Bytes :=
  encodeList (fun (n, t) => encodeCount n ++ [t.code]) (localRuns ts)

/-- A function body behind its length. -/
def encodeBody (b : FuncBody) : Bytes := encodeBlock (encodeLocals b.locals ++ b.code)

/-- A section that holds a list, or nothing if the list is empty. -/
def encodeSection {α : Type} (id : UInt8) (item : α → Bytes) (xs : List α) : Bytes :=
  if xs.isEmpty then [] else id :: encodeBlock (encodeList item xs)

/-- The bytes of a module. -/
def encode (m : Module) : Bytes :=
  header
    ++ encodeSection 1 encodeFuncType m.types
    ++ encodeSection 2 encodeImport m.imports
    ++ encodeSection 3 Leb128.unsigned m.funcs
    ++ encodeSection 5 encodeMemory m.memories
    ++ encodeSection 7 encodeExport m.exports
    ++ encodeSection 10 encodeBody m.code

/-! ### Reading -/

/-- A step of reading: what stands at the head of a byte string, and what follows it. -/
abbrev Reading (α : Type) := Bytes → Option (α × Bytes)

/-- Reads one byte. -/
def readByte : Reading UInt8
  | [] => none
  | b :: bs => some (b, bs)

/-- Reads the byte `b`. -/
def readExactly (b : UInt8) (bs : Bytes) : Option Bytes :=
  match bs with
  | c :: rest => if c = b then some rest else none
  | [] => none

/-- Reads a 32-bit number. -/
def readU32 : Reading UInt32 := fun bs =>
  (Leb128.readNat 32 bs).map fun (n, r) => (n.toUInt32, r)

/-- Reads a length and as many bytes. -/
def readBlock : Reading Bytes := fun bs => do
  let (n, bs) ← readU32 bs
  if n.toNat ≤ bs.length then some (bs.take n.toNat, bs.drop n.toNat) else none

/-- Reads `n` items. -/
def readMany {α : Type} (item : Reading α) : Nat → Reading (List α)
  | 0, bs => some ([], bs)
  | n + 1, bs => do
    let (x, bs) ← item bs
    let (xs, bs) ← readMany item n bs
    return (x :: xs, bs)

/-- Reads a list behind its length. -/
def readList {α : Type} (item : Reading α) : Reading (List α) := fun bs => do
  let (n, bs) ← readU32 bs
  readMany item n.toNat bs

/-- Reads a name. -/
def readName : Reading String := fun bs => do
  let (b, bs) ← readBlock bs
  return (← b.decode?, bs)

/-- Reads a value type, whatever it is. -/
def readValType : Reading ValType := fun bs => (readByte bs).map fun (b, r) => (⟨b⟩, r)

/-- Reads a signature. -/
def readFuncType : Reading FuncType := fun bs => do
  let bs ← readExactly 0x60 bs
  let (params, bs) ← readList readValType bs
  let (results, bs) ← readList readValType bs
  return ({ params, results }, bs)

/-- Reads an imported function. -/
def readImport : Reading Import := fun bs => do
  let (module, bs) ← readName bs
  let (name, bs) ← readName bs
  let bs ← readExactly 0x00 bs
  let (typeIdx, bs) ← readU32 bs
  return ({ module, name, typeIdx }, bs)

/-- Reads an exported function. -/
def readExport : Reading Export := fun bs => do
  let (name, bs) ← readName bs
  let bs ← readExactly 0x00 bs
  let (idx, bs) ← readU32 bs
  return ({ name, idx }, bs)

/-- Reads a memory without an upper bound. -/
def readMemory : Reading UInt32 := fun bs => do
  let bs ← readExactly 0x00 bs
  readU32 bs

/-- Reads a run of equal locals.  An empty run leaves no trace, so its type must be known here. -/
def readRun : Reading (Nat × ValType) := fun bs => do
  let (n, bs) ← readU32 bs
  let (t, bs) ← readValType bs
  if n = 0 ∧ !t.isKnown then none else return ((n.toNat, t), bs)

/-- The number of locals that some runs stand for. -/
def countRuns (runs : List (Nat × ValType)) : Nat := runs.foldl (fun n run => n + run.1) 0

/-- The locals that some runs stand for. -/
def expandRuns (runs : List (Nat × ValType)) : List ValType :=
  runs.flatMap fun (n, t) => List.replicate n t

/-- Reads a function body behind its length.  The number of its locals fits a 32-bit number. -/
def readBody : Reading FuncBody := fun bs => do
  let (b, bs) ← readBlock bs
  let (runs, code) ← readList readRun b
  if countRuns runs < UInt32.size then return ({ locals := expandRuns runs, code }, bs) else none

/-- Reads a section if it is there: its list must fill it exactly. -/
def readSection {α : Type} (id : UInt8) (item : Reading α) : Reading (List α)
  | [] => some ([], [])
  | b :: bs =>
    if b = id then do
      let (content, bs) ← readBlock bs
      let (xs, rest) ← readList item content
      if rest.isEmpty then return (xs, bs) else none
    else some ([], b :: bs)

/-- The module that some bytes stand for. -/
def decode? (bs : Bytes) : Option Module := do
  if !header.isPrefixOf bs then none
  let bs := bs.drop header.length
  let (types, bs) ← readSection 1 readFuncType bs
  let (imports, bs) ← readSection 2 readImport bs
  let (funcs, bs) ← readSection 3 readU32 bs
  let (memories, bs) ← readSection 5 readMemory bs
  let (exports, bs) ← readSection 7 readExport bs
  let (code, bs) ← readSection 10 readBody bs
  if bs.isEmpty then return { types, imports, funcs, memories, exports, code } else none

end Module

end Handover
