/-
**Reading back integers.**

A spelling of an integer ends by itself, so that it can be read back whatever follows it.  The
proof goes along the groups of seven bits: reading a group leaves the rest of the number, and as
many bits of the width.

The spelling that is written is also the shortest.  A byte string of `k` bytes stands for a number
of at most `7 * k` bits, and such a number is written in `k` bytes.  So whatever is shorter than
the spelling of a number is read as another number.

Main definitions:

* `Handover.Leb128.Spelling` — the byte strings that stand for one integer.

Main results:

* `Handover.Leb128.readNat_ofNat` — **an unsigned integer that fits the width is read back**;
* `Handover.Leb128.readInt_ofInt` — **an integer with sign that fits the width is read back**;
* `Handover.Leb128.length_ofNat_le`, `Handover.Leb128.length_ofInt_le` — the length of what is
  written;
* `Handover.Leb128.exact_and_shortest` — **machine words are read back from their shortest
  spelling**.
-/

import Handover.Wasm.Leb128
import Mathlib.Algebra.Group.Nat.Defs
import Mathlib.Tactic.ByContra

set_option autoImplicit false

namespace Handover.Leb128

/-! ### Groups of seven bits -/

/-- A group with its high bit clear ends a number. -/
theorem lastGroup_lt {n : Nat} (hn : n < 128) : n.toUInt8 < 128 := by
  rw [UInt8.lt_iff_toNat_lt, UInt8.toNat_ofNat_of_lt' (show n < 256 by omega)]
  exact hn

/-- A group with its high bit set is followed by another. -/
theorem le_nextGroup {n : Nat} (hn : n < 128) : 128 ≤ (n + 128).toUInt8 := by
  rw [UInt8.le_iff_toNat_le, UInt8.toNat_ofNat_of_lt' (show n + 128 < 256 by omega)]
  exact Nat.le_add_left 128 n

/-! ### Without sign -/

/-- A number with a group to come has more than seven bits. -/
theorem seven_lt_of_lt_two_pow {n width : Nat} (hlow : 128 ≤ n) (hn : n < 2 ^ width) :
    7 < width := by
  by_contra hwidth
  have hpow : 2 ^ width ≤ 2 ^ 7 := Nat.pow_le_pow_right (by decide) (Nat.le_of_not_lt hwidth)
  omega

/-- The groups after the first fit what is left of the width. -/
theorem div_lt_two_pow {n width : Nat} (hwidth : 7 < width) (hn : n < 2 ^ width) :
    n / 128 < 2 ^ (width - 7) := by
  rw [Nat.div_lt_iff_lt_mul (by decide)]
  calc n < 2 ^ width := hn
    _ = 2 ^ (width - 7 + 7) := by rw [Nat.sub_add_cancel (Nat.le_of_lt hwidth)]
    _ = 2 ^ (width - 7) * 128 := by rw [Nat.pow_add]

/-- **An unsigned integer that fits the width is read back**, whatever follows it. -/
theorem readNat_ofNat {n width : Nat} (hn : n < 2 ^ width) (rest : Bytes) :
    readNat width (ofNat n ++ rest) = some (n, rest) := by
  fun_induction ofNat n generalizing width with
  | case1 n hlow =>
      have hbyte : n.toUInt8.toNat = n :=
        UInt8.toNat_ofNat_of_lt' (show n < 256 by omega)
      rw [List.singleton_append, readNat, if_pos (lastGroup_lt hlow), hbyte]
      exact if_pos hn
  | case2 n hhigh ih =>
      have hbyte : (n % 128 + 128).toUInt8.toNat = n % 128 + 128 :=
        UInt8.toNat_ofNat_of_lt' (show n % 128 + 128 < 256 by omega)
      have hmore : ¬ (n % 128 + 128).toUInt8 < 128 :=
        UInt8.not_lt.2 (le_nextGroup (Nat.mod_lt n (by decide)))
      have hwidth := seven_lt_of_lt_two_pow (Nat.le_of_not_lt hhigh) hn
      rw [List.cons_append, readNat, if_neg hmore, if_pos hwidth, ih (div_lt_two_pow hwidth hn),
        hbyte]
      simp only [Option.map_some, Option.some.injEq, Prod.mk.injEq, and_true]
      omega

/-! ### With sign -/

theorem toNat_lowGroup (i : Int) : (i % 128).toNat.toUInt8.toNat = (i % 128).toNat :=
  UInt8.toNat_ofNat_of_lt' (show (i % 128).toNat < 256 by omega)

theorem lowGroup_lt (i : Int) : ¬ 128 ≤ (i % 128).toNat.toUInt8 :=
  UInt8.not_le.2 (lastGroup_lt (by omega))

/-- The last group, where seven bits are left: its highest bit is the sign. -/
theorem readInt_last {i : Int} {width : Nat} (hwidth : 7 ≤ width) (hi : -64 ≤ i ∧ i < 64)
    (rest : Bytes) : readInt width ((i % 128).toNat.toUInt8 :: rest) = some (i, rest) := by
  have hsign : (i % 128).toNat.toUInt8 < 64 ↔ 0 ≤ i := by
    rw [UInt8.lt_iff_toNat_lt, toNat_lowGroup]
    show (i % 128).toNat < 64 ↔ 0 ≤ i
    omega
  rw [readInt, if_neg (lowGroup_lt i), if_pos hwidth, toNat_lowGroup]
  simp only [hsign, Option.some.injEq, Prod.mk.injEq, and_true]
  split <;> omega

/-- The last group, where fewer bits are left: the bits beyond them repeat the sign. -/
theorem readInt_short {i : Int} {width : Nat} (hwidth : width + 1 < 7)
    (hlow : -(2 ^ width : Nat) ≤ i) (hhigh : i < (2 ^ width : Nat)) (rest : Bytes) :
    readInt (width + 1) ((i % 128).toNat.toUInt8 :: rest) = some (i, rest) := by
  have hhalf : 2 ^ width ≤ 2 ^ 5 := Nat.pow_le_pow_right (by decide) (by omega)
  have hpow : Nat.pow 2 (width + 1 - 1) = 2 ^ width := rfl
  rw [readInt, if_neg (lowGroup_lt i), if_neg (Nat.not_le.2 hwidth)]
  simp only [toNat_lowGroup, hpow]
  generalize 2 ^ width = half at *
  -- six bits are looked at, so a negative number shows up as `i + 64`
  by_cases hpos : 0 ≤ i
  · rw [if_pos (by omega)]
    simp only [Option.some.injEq, Prod.mk.injEq, and_true]
    omega
  · rw [if_neg (by omega), if_pos (by omega)]
    simp only [Option.some.injEq, Prod.mk.injEq, and_true]
    omega

/-- The groups after the first fit what is left of the width. -/
theorem ediv_bounds {i : Int} {width : Nat} (hwidth : 7 ≤ width) (hlow : -(2 ^ width : Nat) ≤ i)
    (hhigh : i < (2 ^ width : Nat)) :
    -(2 ^ (width - 7) : Nat) ≤ i / 128 ∧ i / 128 < (2 ^ (width - 7) : Nat) := by
  have hpow : 2 ^ width = 2 ^ (width - 7) * 128 := by
    rw [← Nat.sub_add_cancel hwidth, Nat.pow_add, Nat.add_sub_cancel]
  rw [hpow] at hlow hhigh
  omega

/-- **An integer with sign that fits the width is read back**, whatever follows it. -/
theorem readInt_ofInt {i : Int} {width : Nat} (hlow : -(2 ^ width : Nat) ≤ i)
    (hhigh : i < (2 ^ width : Nat)) (rest : Bytes) :
    readInt (width + 1) (ofInt i ++ rest) = some (i, rest) := by
  fun_induction ofInt i generalizing width with
  | case1 i low high =>
      by_cases hwidth : 7 ≤ width + 1
      · exact readInt_last hwidth (by omega) rest
      · exact readInt_short (Nat.not_le.1 hwidth) hlow hhigh rest
  | case2 i low high hmore =>
      rename_i ih
      have hwidth : 7 ≤ width := by
        by_contra hshort
        have hpow : 2 ^ width ≤ 2 ^ 6 := Nat.pow_le_pow_right (by decide) (by omega)
        omega
      obtain ⟨hlow', hhigh'⟩ := ediv_bounds hwidth hlow hhigh
      have hbyte : (low + 128).toUInt8.toNat = low + 128 :=
        UInt8.toNat_ofNat_of_lt' (show low + 128 < 256 by omega)
      have hcontinued : 128 ≤ (low + 128).toUInt8 := le_nextGroup (by omega)
      have hleft : width + 1 - 7 = width - 7 + 1 := by omega
      rw [List.cons_append, readInt, if_pos hcontinued, if_pos (by omega), hleft, ih hlow' hhigh',
        hbyte]
      simp only [Option.map_some, Option.some.injEq, Prod.mk.injEq, and_true]
      omega

/-! ### Machine words -/

theorem readNat_unsigned (v : UInt32) (rest : Bytes) :
    readNat 32 (unsigned v ++ rest) = some (v.toNat, rest) :=
  readNat_ofNat v.toNat_lt rest

theorem readInt_signed32 (v : Int32) (rest : Bytes) :
    readInt 32 (signed32 v ++ rest) = some (v.toInt, rest) :=
  @readInt_ofInt v.toInt 31 v.le_toInt v.toInt_lt rest

theorem readInt_signed64 (v : Int64) (rest : Bytes) :
    readInt 64 (signed64 v ++ rest) = some (v.toInt, rest) :=
  @readInt_ofInt v.toInt 63 v.le_toInt v.toInt_lt rest

/-! ### The length of what is written -/

/-- A number of `k + 1` groups is written in at most `k + 1` bytes. -/
theorem length_ofNat_le {n k : Nat} (hn : n < 128 ^ (k + 1)) : (ofNat n).length ≤ k + 1 := by
  fun_induction ofNat n generalizing k with
  | case1 n hlow => exact Nat.le_add_left 1 k
  | case2 n hhigh ih =>
      cases k with
      | zero => exact absurd hn hhigh
      | succ k =>
          have hdiv : n / 128 < 128 ^ (k + 1) := (Nat.div_lt_iff_lt_mul (by decide)).2 hn
          exact Nat.succ_le_succ (ih hdiv)

/-- A number of `k + 1` groups with sign is written in at most `k + 1` bytes. -/
theorem length_ofInt_le {i : Int} {k : Nat} (hlow : -(64 * 128 ^ k : Nat) ≤ i)
    (hhigh : i < (64 * 128 ^ k : Nat)) : (ofInt i).length ≤ k + 1 := by
  fun_induction ofInt i generalizing k with
  | case1 i low high => exact Nat.le_add_left 1 k
  | case2 i low high hmore =>
      rename_i ih
      cases k with
      | zero => omega
      | succ k =>
          rw [Nat.pow_succ] at hlow hhigh
          exact Nat.succ_le_succ (ih (by omega) (by omega))

/-! ### Spellings -/

/-- A byte string that stands for one integer: every byte but the last has its high bit set. -/
inductive Spelling : Bytes → Prop
  | last {b : UInt8} (hb : b < 128) : Spelling [b]
  | more {b : UInt8} {bs : Bytes} (hb : 128 ≤ b) (hbs : Spelling bs) : Spelling (b :: bs)

theorem Spelling.length_pos {bs : Bytes} (hbs : Spelling bs) : 0 < bs.length := by
  cases hbs with
  | last => exact Nat.one_pos
  | more => exact Nat.succ_pos _

/-- What is written is a spelling. -/
theorem spelling_ofNat (n : Nat) : Spelling (ofNat n) := by
  fun_induction ofNat n with
  | case1 n hlow => exact .last (lastGroup_lt hlow)
  | case2 n hhigh ih => exact .more (le_nextGroup (Nat.mod_lt n (by decide))) ih

theorem spelling_ofInt (i : Int) : Spelling (ofInt i) := by
  fun_induction ofInt i with
  | case1 i low high => exact .last (UInt8.not_le.1 (lowGroup_lt i))
  | case2 i low high hmore =>
      rename_i ih
      exact .more (le_nextGroup (by omega)) ih

/-- A spelling for which there is room is read as a number of as many groups. -/
theorem Spelling.exists_readNat {bs : Bytes} (hbs : Spelling bs) {width : Nat}
    (hwidth : 7 * bs.length ≤ width) :
    ∃ n < 128 ^ bs.length, readNat width bs = some (n, []) := by
  induction hbs generalizing width with
  | @last b hb =>
      have hbyte : b.toNat < 128 := UInt8.lt_iff_toNat_lt.1 hb
      have hfits : b.toNat < 2 ^ width :=
        calc b.toNat < 2 ^ 7 := hbyte
          _ ≤ 2 ^ width := Nat.pow_le_pow_right (by decide) hwidth
      refine ⟨b.toNat, hbyte, ?_⟩
      rw [readNat, if_pos hb]
      exact if_pos hfits
  | @more b bs hb hbs ih =>
      have hpos := hbs.length_pos
      rw [List.length_cons] at hwidth
      obtain ⟨n, hn, hread⟩ := @ih (width - 7) (by omega)
      have hlast : ¬ b < 128 := UInt8.not_lt.2 hb
      refine ⟨b.toNat - 128 + 128 * n, ?_, ?_⟩
      · have hbyte := b.toNat_lt
        rw [List.length_cons, Nat.pow_succ]
        omega
      · rw [readNat, if_neg hlast, if_pos (by omega), hread]
        rfl

/-- A spelling for which there is room is read as a number of as many groups, one bit of which is
the sign. -/
theorem Spelling.exists_readInt {bs : Bytes} (hbs : Spelling bs) {width : Nat}
    (hwidth : 7 * bs.length ≤ width) :
    ∃ i : Int, (-(64 * 128 ^ (bs.length - 1) : Nat) ≤ i ∧ i < (64 * 128 ^ (bs.length - 1) : Nat)) ∧
      readInt width bs = some (i, []) := by
  induction hbs generalizing width with
  | @last b hb =>
      have hbyte : b.toNat < 128 := UInt8.lt_iff_toNat_lt.1 hb
      have hseven : 7 ≤ width := hwidth
      have hread :
          readInt width [b] = some (if b < 64 then (b.toNat : Int) else b.toNat - 128, []) := by
        rw [readInt, if_neg (UInt8.not_le.2 hb), if_pos hseven]
      refine ⟨_, ?_, hread⟩
      show -(64 : Int) ≤ _ ∧ _ < (64 : Int)
      -- the sign is the highest of the seven bits
      by_cases hsign : b < 64
      · have hsmall : b.toNat < 64 := UInt8.lt_iff_toNat_lt.1 hsign
        rw [if_pos hsign]
        omega
      · have hlarge : 64 ≤ b.toNat := UInt8.le_iff_toNat_le.1 (UInt8.not_lt.1 hsign)
        rw [if_neg hsign]
        omega
  | @more b bs hb hbs ih =>
      have hpos := hbs.length_pos
      rw [List.length_cons] at hwidth
      obtain ⟨i, ⟨hlow, hhigh⟩, hread⟩ := @ih (width - 7) (by omega)
      refine ⟨b.toNat - 128 + 128 * i, ?_, ?_⟩
      · have hleast : 128 ≤ b.toNat := UInt8.le_iff_toNat_le.1 hb
        have hbyte := b.toNat_lt
        have hpow : 128 ^ ((b :: bs).length - 1) = 128 ^ (bs.length - 1) * 128 := by
          rw [List.length_cons, Nat.add_sub_cancel, ← Nat.pow_succ, Nat.succ_eq_add_one,
            Nat.sub_add_cancel hpos]
        rw [hpow]
        omega
      · rw [readInt, if_pos hb, if_pos (by omega), hread]
        rfl

/-- Whatever is shorter than what is written of `n` is read as another number. -/
theorem Spelling.exists_readNat_ne {bs : Bytes} (hbs : Spelling bs) {n width : Nat}
    (hshort : bs.length < (ofNat n).length) (hwidth : 7 * bs.length ≤ width) :
    ∃ m ≠ n, readNat width bs = some (m, []) := by
  obtain ⟨m, hm, hread⟩ := hbs.exists_readNat hwidth
  refine ⟨m, ?_, hread⟩
  rintro rfl
  obtain ⟨k, hk⟩ := Nat.exists_eq_add_one.2 hbs.length_pos
  rw [hk] at hm hshort
  exact Nat.not_lt.2 (length_ofNat_le hm) hshort

/-- Whatever is shorter than what is written of `i` with its sign is read as another number. -/
theorem Spelling.exists_readInt_ne {bs : Bytes} (hbs : Spelling bs) {i : Int} {width : Nat}
    (hshort : bs.length < (ofInt i).length) (hwidth : 7 * bs.length ≤ width) :
    ∃ j ≠ i, readInt width bs = some (j, []) := by
  obtain ⟨j, ⟨hlow, hhigh⟩, hread⟩ := hbs.exists_readInt hwidth
  refine ⟨j, ?_, hread⟩
  rintro rfl
  have hlength := length_ofInt_le hlow hhigh
  rw [Nat.sub_add_cancel hbs.length_pos] at hlength
  exact Nat.not_lt.2 hlength hshort

/-- **Machine words are read back from their shortest spelling.**  What is written of a word is
read as that word, and the reader stops where the rest begins.  It is a spelling of at most five
bytes for 32 bits, and at most ten for 64.  Every shorter spelling is read too, but as another
number. -/
theorem exact_and_shortest (v : UInt32) (w : Int32) (x : Int64) (rest : Bytes) :
    (readNat 32 (unsigned v ++ rest) = some (v.toNat, rest) ∧
      readInt 32 (signed32 w ++ rest) = some (w.toInt, rest) ∧
      readInt 64 (signed64 x ++ rest) = some (x.toInt, rest)) ∧
    (Spelling (unsigned v) ∧ Spelling (signed32 w) ∧ Spelling (signed64 x)) ∧
    ((unsigned v).length ≤ 5 ∧ (signed32 w).length ≤ 5 ∧ (signed64 x).length ≤ 10) ∧
    ∀ bs, Spelling bs →
      (bs.length < (unsigned v).length → ∃ n ≠ v.toNat, readNat 32 bs = some (n, [])) ∧
      (bs.length < (signed32 w).length → ∃ i ≠ w.toInt, readInt 32 bs = some (i, [])) ∧
      (bs.length < (signed64 x).length → ∃ i ≠ x.toInt, readInt 64 bs = some (i, [])) := by
  have hv : (unsigned v).length ≤ 5 := by
    have hhigh := v.toNat_lt
    exact length_ofNat_le (by omega)
  have hw : (signed32 w).length ≤ 5 := by
    have hlow := w.le_toInt
    have hhigh := w.toInt_lt
    exact length_ofInt_le (by omega) (by omega)
  have hx : (signed64 x).length ≤ 10 := by
    have hlow := x.le_toInt
    have hhigh := x.toInt_lt
    exact length_ofInt_le (by omega) (by omega)
  refine ⟨⟨readNat_unsigned v rest, readInt_signed32 w rest, readInt_signed64 x rest⟩,
    ⟨spelling_ofNat _, spelling_ofInt _, spelling_ofInt _⟩, ⟨hv, hw, hx⟩, fun bs hbs => ?_⟩
  refine ⟨fun hshort => ?_, fun hshort => ?_, fun hshort => ?_⟩
  -- what is shorter has at most four bytes (nine for 64 bits), for which there is room
  · exact hbs.exists_readNat_ne hshort (by omega)
  · exact hbs.exists_readInt_ne hshort (by omega)
  · exact hbs.exists_readInt_ne hshort (by omega)

/-- Numbers just beyond one byte, the lowest word, and a byte that is shorter than all of them. -/
theorem exact_and_shortest_beyond_one_byte :
    readInt 64 (signed64 Int64.minValue ++ [0x80]) = some (Int64.minValue.toInt, [0x80]) ∧
      Spelling [0x7f] ∧
      [(0x7f : UInt8)].length < (unsigned 128).length ∧
      (∃ n ≠ 128, readNat 32 [0x7f] = some (n, [])) ∧
      [(0x7f : UInt8)].length < (signed32 (-65)).length ∧
      ∃ i ≠ -65, readInt 32 [0x7f] = some (i, []) := by
  obtain ⟨⟨-, -, hread⟩, -, -, hshorter⟩ :=
    exact_and_shortest 128 (-65) Int64.minValue [0x80]
  have hbyte : Spelling [0x7f] := .last (by decide)
  have hunsigned : [(0x7f : UInt8)].length < (unsigned 128).length := by simp [unsigned, ofNat]
  have hsigned : [(0x7f : UInt8)].length < (signed32 (-65)).length := by simp [signed32, ofInt]
  obtain ⟨hnat, hint, -⟩ := hshorter [0x7f] hbyte
  exact ⟨hread, hbyte, hunsigned, hnat hunsigned, hsigned, hint hsigned⟩

end Handover.Leb128
