/-
**Reading back instructions.**

An instruction is read back from its bytes, whatever follows it, and so is a list of them.  The
bytes of an immediate may look like opcodes, but an immediate ends by itself or has a fixed length,
so that the reader stands in front of an opcode after every instruction.  The reader of a list is
bounded by the number of bytes; that is enough, because every instruction has at least one.

Main definitions: `Handover.Instr.Valid` — a null reference names a reference type.

Main results:

* `Handover.Instr.reads_of_valid` — an instruction is read back;
* `Handover.Instr.decodeAll?_encodeAll` — a list of instructions is read back;
* `Handover.Instr.uniquely_decodable` — **different lists of instructions have different bytes**.
-/

import Handover.Proofs.ModuleRoundTrip
import Handover.Wasm.Instr

set_option autoImplicit false

namespace Handover

/-- A number that fits `n` bytes is read back from them. -/
theorem Bytes.readWord?_ofWord {n v : Nat} (hv : v < Nat.pow 256 n) (rest : Bytes) :
    Bytes.readWord? n (Bytes.ofWord n v ++ rest) = some (v, rest) := by
  induction n generalizing v with
  | zero =>
      obtain rfl : v = 0 := Nat.lt_one_iff.1 hv
      rfl
  | succ n ih =>
      have hbyte : v.toUInt8.toNat = v % 256 := rfl
      have hhigh : v / 256 < Nat.pow 256 n := (Nat.div_lt_iff_lt_mul (by decide)).2 hv
      have hsum : v % 256 + 256 * (v / 256) = v := Nat.mod_add_div v 256
      rw [Bytes.ofWord, List.cons_append, Bytes.readWord?, ih hhigh]
      simp only [Option.map_some, hbyte, hsum]

namespace Instr

open Handover.Module (Reads)

/-! ### One instruction -/

/-- An index is read back and put into its instruction. -/
theorem readIndex?_unsigned (make : UInt32 → Instr) (v : UInt32) (rest : Bytes) :
    readIndex? make (Leb128.unsigned v ++ rest) = some (make v, rest) := by
  rw [readIndex?, Leb128.readNat_unsigned]
  simp

/-- An integer is read back with its sign. -/
theorem reads_i32Const (v : Int32) : Reads read? encode (i32Const v) := by
  intro rest
  simp [encode, read?, Leb128.readInt_signed32]

theorem reads_i64Const (v : Int64) : Reads read? encode (i64Const v) := by
  intro rest
  simp [encode, read?, Leb128.readInt_signed64]

theorem reads_f32Const (bits : UInt32) : Reads read? encode (f32Const bits) := by
  intro rest
  have hread := Bytes.readWord?_ofWord (n := 4) bits.toNat_lt rest
  simp [encode, read?, hread]

theorem reads_f64Const (bits : UInt64) : Reads read? encode (f64Const bits) := by
  intro rest
  have hread := Bytes.readWord?_ofWord (n := 8) bits.toNat_lt rest
  simp [encode, read?, hread]

theorem reads_v128Const (low high : UInt64) : Reads read? encode (v128Const low high) := by
  intro rest
  have hlow := Bytes.readWord?_ofWord (n := 8) low.toNat_lt
    (Bytes.ofWord 8 high.toNat ++ rest)
  have hhigh := Bytes.readWord?_ofWord (n := 8) high.toNat_lt rest
  simp [encode, read?, hlow, hhigh]

/-- A null reference names a reference type.  Nothing is asked of other instructions. -/
def Valid : Instr → Prop
  | refNull t => t = .funcref ∨ t = .externref
  | _ => True

theorem reads_refNull {t : ValType} (ht : t = .funcref ∨ t = .externref) :
    Reads read? encode (refNull t) := by
  intro rest
  simp [encode, read?, ht]

/-- Every instruction is read back, whatever follows it. -/
theorem reads_of_valid {i : Instr} (hi : i.Valid) : Reads read? encode i := by
  cases i with
  | unreachable => exact fun _ => rfl
  | nop => exact fun _ => rfl
  | finish => exact fun _ => rfl
  | call f => exact readIndex?_unsigned call f
  | drop => exact fun _ => rfl
  | localGet n => exact readIndex?_unsigned localGet n
  | localSet n => exact readIndex?_unsigned localSet n
  | localTee n => exact readIndex?_unsigned localTee n
  | i32Const v => exact reads_i32Const v
  | i64Const v => exact reads_i64Const v
  | f32Const bits => exact reads_f32Const bits
  | f64Const bits => exact reads_f64Const bits
  | refNull t => exact reads_refNull hi
  | v128Const low high => exact reads_v128Const low high

/-! ### Lists -/

theorem encode_ne_nil (i : Instr) : i.encode ≠ [] := by
  cases i <;> simp [encode]

/-- A list has no more instructions than bytes. -/
theorem length_le_encodeAll (is : List Instr) : is.length ≤ (encodeAll is).length := by
  induction is with
  | nil => exact Nat.le_refl 0
  | cons i is ih =>
      have hpos : 0 < i.encode.length := List.length_pos_iff.2 i.encode_ne_nil
      have hcons : (encodeAll (i :: is)).length = i.encode.length + (encodeAll is).length := by
        simp [encodeAll]
      rw [List.length_cons, hcons]
      omega

/-- Enough fuel reads the list back. -/
theorem decodeUpTo_encodeAll {is : List Instr} (his : ∀ i ∈ is, i.Valid) {fuel : Nat}
    (hfuel : is.length ≤ fuel) : decodeUpTo fuel (encodeAll is) = some is := by
  induction is generalizing fuel with
  | nil => cases fuel <;> rfl
  | cons i is ih =>
      obtain ⟨hi, his⟩ := List.forall_mem_cons.1 his
      obtain ⟨b, bs, hbytes⟩ := List.exists_cons_of_ne_nil i.encode_ne_nil
      have hread : read? (b :: (bs ++ encodeAll is)) = some (i, encodeAll is) := by
        have hread := reads_of_valid hi (encodeAll is)
        rwa [hbytes, List.cons_append] at hread
      have hall : encodeAll (i :: is) = b :: (bs ++ encodeAll is) := by
        rw [encodeAll, List.flatMap_cons, hbytes, List.cons_append, encodeAll]
      cases fuel with
      | zero => simp at hfuel
      | succ fuel =>
          rw [hall, decodeUpTo, hread]
          · simp [ih his (Nat.le_of_succ_le_succ hfuel)]
          · exact List.cons_ne_nil _ _

/-- A list of instructions is read back. -/
theorem decodeAll?_encodeAll {is : List Instr} (his : ∀ i ∈ is, i.Valid) :
    decodeAll? (encodeAll is) = some is :=
  decodeUpTo_encodeAll his (length_le_encodeAll is)

/-- **Different lists of instructions have different bytes.**  The bytes of a list are read back as
that list, with none left over.  Behind the bytes of the instructions in front, the reader finds the
next instruction and stops where the rest begins. -/
theorem uniquely_decodable (is : List Instr) (his : ∀ i ∈ is, i.Valid) :
    decodeAll? (encodeAll is) = some is ∧
      (∀ front i back, is = front ++ i :: back →
        read? ((encodeAll is).drop (encodeAll front).length) = some (i, encodeAll back)) ∧
      ∀ js, (∀ j ∈ js, j.Valid) → encodeAll js = encodeAll is → js = is := by
  refine ⟨decodeAll?_encodeAll his, ?_, ?_⟩
  · rintro front i back rfl
    have hi : i.Valid := his i (by simp)
    have hbytes : encodeAll (front ++ i :: back) =
        encodeAll front ++ (i.encode ++ encodeAll back) := by
      simp [encodeAll]
    rw [hbytes, List.drop_left]
    exact reads_of_valid hi _
  · intro js hjs hbytes
    have hdecode := decodeAll?_encodeAll hjs
    rw [hbytes, decodeAll?_encodeAll his] at hdecode
    exact (Option.some.inj hdecode).symm

/-- Instructions whose immediates look like the opcodes of others, and immediates at the ends of
their ranges. -/
def extremes : List Instr :=
  [localGet 0x0b, call 0x1a, i32Const 0, localSet 0x2000, i32Const Int32.minValue,
    i64Const Int64.minValue, i64Const (-65), call 0xffffffff, localTee 128, drop, unreachable, finish]

theorem uniquely_decodable_extremes :
    (∀ i ∈ extremes, i.Valid) ∧ decodeAll? (encodeAll extremes) = some extremes := by
  have hvalid : ∀ i ∈ extremes, i.Valid := by simp [extremes, Valid]
  exact ⟨hvalid, (uniquely_decodable extremes hvalid).1⟩

end Instr

end Handover
