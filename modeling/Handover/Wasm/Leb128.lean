/-
**Integers of variable length.**

An integer is written in groups of seven bits, lowest first; every byte but the last has its high
bit set.  A signed integer ends where the remaining bits are copies of the last bit written.
Reading is bounded by a width: it accepts longer spellings than the shortest one as long as the
value fits and no byte lies beyond the width.  In the last byte of the width the bits beyond it
repeat the sign; only the highest of them is not looked at.

Main definitions:

* `Handover.Leb128.ofNat`, `Handover.Leb128.ofInt` — the shortest spelling;
* `Handover.Leb128.unsigned`, `Handover.Leb128.signed32`, `Handover.Leb128.signed64` — the
  spelling of a machine word;
* `Handover.Leb128.readNat`, `Handover.Leb128.readInt` — the value at the head of a byte string,
  and what follows it.
-/

import Handover.Text.Utf8

set_option autoImplicit false

namespace Handover.Leb128

/-! ### Writing -/

/-- The unsigned spelling of `n`. -/
def ofNat (n : Nat) : Bytes :=
  if n < 128 then [n.toUInt8] else (n % 128 + 128).toUInt8 :: ofNat (n / 128)
termination_by n

/-- The signed spelling of `i`. -/
def ofInt (i : Int) : Bytes :=
  let low := (i % 128).toNat
  let high := i / 128
  if (high = 0 ∧ low < 64) ∨ (high = -1 ∧ 64 ≤ low) then [low.toUInt8]
  else (low + 128).toUInt8 :: ofInt high
termination_by i.natAbs
decreasing_by omega

/-- A 32-bit word without sign. -/
def unsigned (v : UInt32) : Bytes := ofNat v.toNat

/-- A 32-bit word with sign. -/
def signed32 (v : Int32) : Bytes := ofInt v.toInt

/-- A 64-bit word with sign. -/
def signed64 (v : Int64) : Bytes := ofInt v.toInt

/-! ### Reading -/

/-- The unsigned value of at most `width` bits at the head of a byte string. -/
def readNat (width : Nat) : Bytes → Option (Nat × Bytes)
  | [] => none
  | b :: rest =>
    if b < 128 then
      if b.toNat < Nat.pow 2 width then some (b.toNat, rest) else none
    else if 7 < width then
      (readNat (width - 7) rest).map fun (n, r) => (b.toNat - 128 + 128 * n, r)
    else none

/-- The signed value of at most `width` bits at the head of a byte string. -/
def readInt (width : Nat) : Bytes → Option (Int × Bytes)
  | [] => none
  | b :: rest =>
    if 128 ≤ b then
      if 7 < width then
        (readInt (width - 7) rest).map fun (i, r) => (b.toNat - 128 + 128 * i, r)
      else none
    else if 7 ≤ width then
      some (if b < 64 then b.toNat else b.toNat - 128, rest)
    else
      let low := b.toNat % 64
      let half := Nat.pow 2 (width - 1)
      if low < half then some (low, rest)
      else if 64 ≤ low + half then some (low - 64, rest)
      else none

end Handover.Leb128
