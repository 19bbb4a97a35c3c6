/-
**Instructions.**

The instructions that a script may use.  Each has an opcode and at most one immediate; an index or
an integer is written with variable length, a float or a vector by its bytes, lowest first.

Main definitions:

* `Handover.Instr` — the instructions;
* `Handover.Instr.encode`, `Handover.Instr.encodeAll` — their bytes;
* `Handover.Instr.read?`, `Handover.Instr.decodeAll?` — the way back.
-/

import Handover.Wasm.Leb128
import Handover.Wasm.ValType

set_option autoImplicit false

namespace Handover

/-- An instruction. -/
inductive Instr where
  | unreachable
  | nop
  | finish
  | call (f : UInt32)
  | drop
  | localGet (i : UInt32)
  | localSet (i : UInt32)
  | localTee (i : UInt32)
  | i32Const (v : Int32)
  | i64Const (v : Int64)
  | f32Const (bits : UInt32)
  | f64Const (bits : UInt64)
  | refNull (t : ValType)
  | v128Const (low high : UInt64)
deriving DecidableEq, Repr

/-- The `n` lowest bytes of a number, lowest first. -/
def Bytes.ofWord : Nat → Nat → Bytes
  | 0, _ => []
  | n + 1, v => v.toUInt8 :: Bytes.ofWord n (v / 256)

/-- The number that `n` bytes spell, lowest first, and what follows them. -/
def Bytes.readWord? : Nat → Bytes → Option (Nat × Bytes)
  | 0, bs => some (0, bs)
  | _ + 1, [] => none
  | n + 1, b :: bs => (Bytes.readWord? n bs).map fun (v, r) => (b.toNat + 256 * v, r)

namespace Instr

/-- The bytes of an instruction. -/
def encode : Instr → Bytes
  | unreachable => [0x00]
  | nop => [0x01]
  | finish => [0x0b]
  | call f => 0x10 :: Leb128.unsigned f
  | drop => [0x1a]
  | localGet i => 0x20 :: Leb128.unsigned i
  | localSet i => 0x21 :: Leb128.unsigned i
  | localTee i => 0x22 :: Leb128.unsigned i
  | i32Const v => 0x41 :: Leb128.signed32 v
  | i64Const v => 0x42 :: Leb128.signed64 v
  | f32Const bits => 0x43 :: Bytes.ofWord 4 bits.toNat
  | f64Const bits => 0x44 :: Bytes.ofWord 8 bits.toNat
  | refNull t => [0xd0, t.code]
  | v128Const low high =>
    0xfd :: 0x0c :: (Bytes.ofWord 8 low.toNat ++ Bytes.ofWord 8 high.toNat)

/-- The bytes of a list of instructions. -/
def encodeAll (is : List Instr) : Bytes := is.flatMap encode

/-- The instruction with an index immediate. -/
def readIndex? (make : UInt32 → Instr) (bs : Bytes) : Option (Instr × Bytes) :=
  (Leb128.readNat 32 bs).map fun (n, r) => (make n.toUInt32, r)

/-- The instruction at the head of a byte string, and what follows it. -/
def read? : Bytes → Option (Instr × Bytes)
  | [] => none
  | op :: bs =>
    match op.toNat with
    | 0x00 => some (unreachable, bs)
    | 0x01 => some (nop, bs)
    | 0x0b => some (finish, bs)
    | 0x10 => readIndex? call bs
    | 0x1a => some (drop, bs)
    | 0x20 => readIndex? localGet bs
    | 0x21 => readIndex? localSet bs
    | 0x22 => readIndex? localTee bs
    | 0x41 => (Leb128.readInt 32 bs).map fun (i, r) => (i32Const (Int32.ofInt i), r)
    | 0x42 => (Leb128.readInt 64 bs).map fun (i, r) => (i64Const (Int64.ofInt i), r)
    | 0x43 => (Bytes.readWord? 4 bs).map fun (v, r) => (f32Const v.toUInt32, r)
    | 0x44 => (Bytes.readWord? 8 bs).map fun (v, r) => (f64Const v.toUInt64, r)
    | 0xd0 =>
      match bs with
      | t :: r =>
        if ⟨t⟩ = ValType.funcref ∨ ⟨t⟩ = ValType.externref then some (refNull ⟨t⟩, r) else none
      | [] => none
    | 0xfd =>
      match bs with
      | 0x0c :: bs => do
        let (low, bs) ← Bytes.readWord? 8 bs
        let (high, bs) ← Bytes.readWord? 8 bs
        return (v128Const low.toUInt64 high.toUInt64, bs)
      | _ => none
    | _ => none

/-- At most `fuel` instructions that make up a byte string. -/
def decodeUpTo : Nat → Bytes → Option (List Instr)
  | _, [] => some []
  | 0, _ => none
  | fuel + 1, bs => do
    let (i, rest) ← read? bs
    return i :: (← decodeUpTo fuel rest)

/-- The instructions that make up a byte string.  Each has at least one byte. -/
def decodeAll? (bs : Bytes) : Option (List Instr) := decodeUpTo bs.length bs

end Instr

end Handover
