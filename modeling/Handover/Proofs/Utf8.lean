/-
**Bytes read as characters.**

The lenient reader takes one character off the front of a byte string, with as many bytes as belong
to it, and goes on behind them.  So a byte string may be cut in front of every byte that cannot
continue a sequence, and its parts are read one by one.  The bytes of a text are read as that text.
A byte that is no part of a well-formed sequence is read as a replacement character, and so is lost.

Main definitions:

* `Handover.Bytes.StartsAfresh` — bytes that continue no sequence.

Main results:

* `Handover.Bytes.decodeChars_append` — **a byte string may be cut** in front of such bytes;
* `Handover.Bytes.mem_of_mem_decodeChars` — an ASCII character is read off its own byte only;
* `Handover.Bytes.decode_ofString`, `Handover.Bytes.decode?_ofString` — **a text is read back from
  its bytes**, by the lenient reader and by the strict one.
-/

import Handover.Text.Utf8
import Mathlib.Data.List.Basic

set_option autoImplicit false

namespace Handover.Bytes

/-! ### First bytes -/

/-- The first bytes of longer sequences, with the range of the second byte and the number of bytes
after it. -/
theorem lead?_eq (b : UInt8) : lead? b =
    if 0xc2 ≤ b.toNat ∧ b.toNat ≤ 0xdf then some (0x80, 0xbf, 0)
    else if 0xe0 ≤ b.toNat ∧ b.toNat ≤ 0xef then
      some (if b.toNat = 0xe0 then 0xa0 else 0x80, if b.toNat = 0xed then 0x9f else 0xbf, 1)
    else if 0xf0 ≤ b.toNat ∧ b.toNat ≤ 0xf4 then
      some (if b.toNat = 0xf0 then 0x90 else 0x80, if b.toNat = 0xf4 then 0x8f else 0xbf, 2)
    else none := by
  unfold lead?
  simp only [Bool.and_eq_true, decide_eq_true_eq, beq_iff_eq, UInt8.le_iff_toNat_le,
    ← UInt8.toNat_inj, UInt8.reduceToNat]
  grind

theorem lead?_eq_some {b lo hi : UInt8} {more : Nat} (h : lead? b = some (lo, hi, more)) :
    (0xc2 ≤ b.toNat ∧ b.toNat ≤ 0xdf ∧ lo.toNat = 0x80 ∧ hi.toNat = 0xbf ∧ more = 0) ∨
    (0xe0 ≤ b.toNat ∧ b.toNat ≤ 0xef ∧ lo.toNat = (if b.toNat = 0xe0 then 0xa0 else 0x80) ∧
      hi.toNat = (if b.toNat = 0xed then 0x9f else 0xbf) ∧ more = 1) ∨
    (0xf0 ≤ b.toNat ∧ b.toNat ≤ 0xf4 ∧ lo.toNat = (if b.toNat = 0xf0 then 0x90 else 0x80) ∧
      hi.toNat = (if b.toNat = 0xf4 then 0x8f else 0xbf) ∧ more = 2) := by
  rw [lead?_eq] at h
  split at h
  · simp only [Option.some.injEq, Prod.mk.injEq] at h
    obtain ⟨rfl, rfl, rfl⟩ := h
    exact Or.inl ⟨by omega, by omega, rfl, rfl, rfl⟩
  split at h
  · simp only [Option.some.injEq, Prod.mk.injEq] at h
    obtain ⟨rfl, rfl, rfl⟩ := h
    exact Or.inr (Or.inl ⟨by omega, by omega, by split <;> rfl, by split <;> rfl, rfl⟩)
  split at h
  · simp only [Option.some.injEq, Prod.mk.injEq] at h
    obtain ⟨rfl, rfl, rfl⟩ := h
    exact Or.inr (Or.inr ⟨by omega, by omega, by split <;> rfl, by split <;> rfl, rfl⟩)
  · cases h

theorem le_of_lead? {b lo hi : UInt8} {more : Nat} (h : lead? b = some (lo, hi, more)) :
    0xc2 ≤ b.toNat ∧ 0x80 ≤ lo.toNat ∧ hi.toNat ≤ 0xbf := by
  rcases lead?_eq_some h with ⟨hb, -, hlo, hhi, -⟩ | ⟨hb, -, hlo, hhi, -⟩ | ⟨hb, -, hlo, hhi, -⟩
  · omega
  · split at hlo <;> split at hhi <;> omega
  · split at hlo <;> split at hhi <;> omega

theorem isContinuation_iff (x : UInt8) :
    isContinuation x = true ↔ 0x80 ≤ x.toNat ∧ x.toNat ≤ 0xbf := by
  simp [isContinuation, UInt8.le_iff_toNat_le]

theorem codePoint_one (b x : UInt8) :
    codePoint b [x] = 64 * (b.toNat % 32) + x.toNat % 64 := rfl

theorem codePoint_two (b x y : UInt8) :
    codePoint b [x, y] = 64 * (64 * (b.toNat % 16) + x.toNat % 64) + y.toNat % 64 := rfl

theorem codePoint_three (b x y z : UInt8) : codePoint b [x, y, z] =
    64 * (64 * (64 * (b.toNat % 8) + x.toNat % 64) + y.toNat % 64) + z.toNat % 64 := rfl

/-! ### The character at the head -/

/-- Bytes that make up a sequence behind its first byte: as many as this asks for, and all of them
in their ranges. -/
structure Completes (b second : UInt8) (tail : Bytes) : Prop where
  range : ∃ lo hi, lead? b = some (lo, hi, tail.length) ∧ lo.toNat ≤ second.toNat ∧
    second.toNat ≤ hi.toNat
  tail : ∀ x ∈ tail, isContinuation x = true

theorem headChar_of_lt {b : UInt8} (hb : b.toNat < 0x80) (bs : Bytes) :
    headChar b bs = (Char.ofNat b.toNat, 0) := by
  rw [headChar, if_pos (UInt8.lt_iff_toNat_lt.2 hb)]

namespace Completes

variable {b second : UInt8} {tail : Bytes} (hseq : Completes b second tail)
include hseq

/-- A whole sequence is one character. -/
theorem headChar_eq (rest : Bytes) : headChar b (second :: (tail ++ rest)) =
    (Char.ofNat (codePoint b (second :: tail)), tail.length + 1) := by
  obtain ⟨⟨lo, hi, hlead, hlo, hhi⟩, htail⟩ := hseq
  have hge : ¬ b < 0x80 := by
    have := (le_of_lead? hlead).1
    rw [UInt8.lt_iff_toNat_lt]
    exact Nat.not_lt_of_le (Nat.le_trans (by decide) this)
  rw [headChar, if_neg hge, hlead]
  simp [UInt8.le_iff_toNat_le.2 hlo, UInt8.le_iff_toNat_le.2 hhi, List.all_eq_true.2 htail]

/-- Every byte behind the first continues the sequence. -/
theorem continues : ∀ x ∈ second :: tail, isContinuation x = true := by
  obtain ⟨⟨lo, hi, hlead, hlo, hhi⟩, htail⟩ := hseq
  obtain ⟨-, hge, hle⟩ := le_of_lead? hlead
  exact List.forall_mem_cons.2 ⟨(isContinuation_iff _).2 ⟨by omega, by omega⟩, htail⟩

/-- A sequence of more than one byte stands for a character that is not ASCII. -/
theorem le_codePoint : 0x80 ≤ codePoint b (second :: tail) ∧
    (codePoint b (second :: tail)).isValidChar := by
  obtain ⟨⟨lo, hi, hlead, hlo, hhi⟩, -⟩ := hseq
  rcases lead?_eq_some hlead with
    ⟨hge, hle, hl, hh, hmore⟩ | ⟨hge, hle, hl, hh, hmore⟩ | ⟨hge, hle, hl, hh, hmore⟩
  · obtain rfl := List.length_eq_zero_iff.1 hmore
    rw [codePoint_one, Nat.isValidChar]
    omega
  · obtain ⟨x, rfl⟩ := List.length_eq_one_iff.1 hmore
    rw [codePoint_two, Nat.isValidChar]
    split at hl <;> split at hh <;> omega
  · obtain ⟨x, y, rfl⟩ := List.length_eq_two.1 hmore
    rw [codePoint_three, Nat.isValidChar]
    split at hl <;> split at hh <;> omega

end Completes

/-- A byte that is not ASCII starts a whole sequence, or is replaced. -/
theorem headChar_cases {b : UInt8} (hb : 0x80 ≤ b.toNat) (bs : Bytes) :
    headChar b bs = ('�', 0) ∨
      ∃ second tail rest, Completes b second tail ∧ bs = second :: (tail ++ rest) := by
  have hge : ¬ b < 0x80 := by
    rw [UInt8.lt_iff_toNat_lt]
    exact Nat.not_lt_of_le hb
  cases hlead : lead? b with
  | none => exact Or.inl (by rw [headChar, if_neg hge, hlead])
  | some range =>
      obtain ⟨lo, hi, more⟩ := range
      cases bs with
      | nil => exact Or.inl (by rw [headChar, if_neg hge, hlead])
      | cons second rest =>
          by_cases hwhole : lo ≤ second ∧ second ≤ hi ∧ more ≤ rest.length ∧
              ∀ x ∈ rest.take more, isContinuation x = true
          · obtain ⟨hlo, hhi, hmore, htail⟩ := hwhole
            have hlength : (rest.take more).length = more := List.length_take_of_le hmore
            refine Or.inr
              ⟨second, rest.take more, rest.drop more, ⟨⟨lo, hi, ?_, ?_, ?_⟩, htail⟩, ?_⟩
            · rw [hlead, hlength]
            · exact UInt8.le_iff_toNat_le.1 hlo
            · exact UInt8.le_iff_toNat_le.1 hhi
            · rw [List.take_append_drop]
          · refine Or.inl ?_
            rw [headChar, if_neg hge, hlead]
            refine if_neg fun hcond => hwhole ?_
            simp only [Bool.and_eq_true, decide_eq_true_eq, List.all_eq_true] at hcond
            exact ⟨hcond.1.1.1, hcond.1.1.2, hcond.1.2, hcond.2⟩

theorem headChar_snd_le (b : UInt8) (bs : Bytes) : (headChar b bs).2 ≤ bs.length := by
  by_cases hb : b.toNat < 0x80
  · rw [headChar_of_lt hb]
    exact Nat.zero_le _
  rcases headChar_cases (Nat.le_of_not_lt hb) bs with hbad | ⟨second, tail, rest, hseq, rfl⟩
  · rw [hbad]
    exact Nat.zero_le _
  · rw [hseq.headChar_eq]
    simp

/-! ### Cutting -/

/-- The bytes continue no sequence that was started before them. -/
def StartsAfresh (bs : Bytes) : Prop := ∀ x ∈ bs.head?, isContinuation x = false

/-- Whether a byte starts a whole sequence does not depend on bytes that start afresh. -/
theorem headChar_append (b : UInt8) (bs : Bytes) {cs : Bytes} (hcs : StartsAfresh cs) :
    headChar b (bs ++ cs) = headChar b bs := by
  by_cases hb : b.toNat < 0x80
  · rw [headChar_of_lt hb, headChar_of_lt hb]
  have hb : 0x80 ≤ b.toNat := Nat.le_of_not_lt hb
  rcases headChar_cases hb bs with hbad | ⟨second, tail, rest, hseq, rfl⟩
  · rcases headChar_cases hb (bs ++ cs) with hbad' | ⟨second, tail, rest, hseq, hsplit⟩
    · rw [hbad, hbad']
    · -- the sequence would end in `bs` already, since all of it is continuation
      exfalso
      rw [← List.cons_append] at hsplit
      rcases List.append_eq_append_iff.1 hsplit with ⟨ds, hseqs, hrest⟩ | ⟨ds, rfl, -⟩
      · cases ds with
        | nil =>
            rw [List.append_nil] at hseqs
            rw [← hseqs, ← List.append_nil tail, hseq.headChar_eq] at hbad
            simp at hbad
        | cons d ds =>
            have hafresh := hcs d (by rw [hrest]; rfl)
            have hcontinues := hseq.continues d (by rw [hseqs]; simp)
            rw [hafresh] at hcontinues
            cases hcontinues
      · rw [List.cons_append, hseq.headChar_eq] at hbad
        simp at hbad
  · rw [List.cons_append, List.append_assoc, hseq.headChar_eq, hseq.headChar_eq]

theorem decodeChars_cons (b : UInt8) (bs : Bytes) :
    decodeChars (b :: bs) = (headChar b bs).1 :: decodeChars (bs.drop (headChar b bs).2) := by
  rw [decodeChars]

theorem decodeChars_ascii {b : UInt8} (hb : b.toNat < 0x80) (bs : Bytes) :
    decodeChars (b :: bs) = Char.ofNat b.toNat :: decodeChars bs := by
  rw [decodeChars_cons, headChar_of_lt hb]
  rfl

/-- **A byte string may be cut** in front of bytes that start afresh. -/
theorem decodeChars_append (bs : Bytes) {cs : Bytes} (hcs : StartsAfresh cs) :
    decodeChars (bs ++ cs) = decodeChars bs ++ decodeChars cs := by
  induction bs using decodeChars.induct with
  | case1 => simp [decodeChars]
  | case2 b bs c n hhead ih =>
      have hle := headChar_snd_le b bs
      rw [hhead] at hle
      rw [List.cons_append, decodeChars_cons, decodeChars_cons, headChar_append b bs hcs, hhead,
        List.drop_append_of_le_length hle, ih, List.cons_append]

/-! ### ASCII characters -/

theorem toNat_ofNat_of_isValidChar {n : Nat} (hn : n.isValidChar) : (Char.ofNat n).toNat = n := by
  have hof : Char.ofNat n = Char.ofNatAux n hn := dif_pos hn
  rw [hof]
  rfl

theorem le_toNat_headChar {b : UInt8} (hb : 0x80 ≤ b.toNat) (bs : Bytes) :
    0x80 ≤ (headChar b bs).1.toNat := by
  rcases headChar_cases hb bs with hbad | ⟨second, tail, rest, hseq, rfl⟩
  · rw [hbad]
    decide
  · obtain ⟨hge, hvalid⟩ := hseq.le_codePoint
    rw [hseq.headChar_eq, toNat_ofNat_of_isValidChar hvalid]
    exact hge

/-- An ASCII character is read off its own byte only. -/
theorem mem_of_mem_decodeChars {c : Char} (hc : c.toNat < 0x80) {bs : Bytes}
    (hmem : c ∈ decodeChars bs) : UInt8.ofNat c.toNat ∈ bs := by
  induction bs using decodeChars.induct with
  | case1 => simp [decodeChars] at hmem
  | case2 b bs d n hhead ih =>
      rw [decodeChars_cons, hhead] at hmem
      rcases List.mem_cons.1 hmem with rfl | hmem
      · by_cases hb : b.toNat < 0x80
        · rw [headChar_of_lt hb] at hhead
          obtain ⟨rfl, -⟩ := Prod.mk.inj hhead
          rw [toNat_ofNat_of_isValidChar (Or.inl (by omega)), UInt8.ofNat_toNat]
          exact List.mem_cons_self
        · have hge := le_toNat_headChar (Nat.le_of_not_lt hb) bs
          rw [hhead] at hge
          exact absurd hc (Nat.not_lt_of_le hge)
      · exact List.mem_cons_of_mem _ (List.mem_of_mem_drop (ih hmem))

/-! ### The bytes of a character -/

theorem toNat_ofNat_of_lt {n : Nat} (hn : n < 256) : (UInt8.ofNat n).toNat = n :=
  UInt8.toNat_ofNat_of_lt' hn

/-- The low six bits of a number, as they stand in a sequence. -/
theorem isContinuation_low (n : Nat) : isContinuation (UInt8.ofNat (n % 0x40 + 0x80)) = true := by
  rw [isContinuation_iff, toNat_ofNat_of_lt (by omega)]
  omega

section Sequences

variable {v : Nat}

theorem headChar_two (hv : 0x80 ≤ v) (hv' : v ≤ 0x7ff) (rest : Bytes) :
    headChar (UInt8.ofNat (v / 64 % 0x20 + 0xc0)) (UInt8.ofNat (v % 0x40 + 0x80) :: rest) =
      (Char.ofNat v, 1) := by
  have hb := toNat_ofNat_of_lt (show v / 64 % 0x20 + 0xc0 < 256 by omega)
  have hx := toNat_ofNat_of_lt (show v % 0x40 + 0x80 < 256 by omega)
  generalize UInt8.ofNat (v / 64 % 0x20 + 0xc0) = b at *
  generalize UInt8.ofNat (v % 0x40 + 0x80) = x at *
  have hlead := lead?_eq b
  rw [if_pos (by omega)] at hlead
  have hseq : Completes b x [] := by
    refine ⟨⟨_, _, hlead, ?_, ?_⟩, by simp⟩
    · show 0x80 ≤ _
      omega
    · show _ ≤ 0xbf
      omega
  have hpoint : codePoint b [x] = v := by
    rw [codePoint_one]
    omega
  rw [← hpoint]
  exact hseq.headChar_eq rest

/-- The second byte keeps out what fits into two bytes, and the surrogates. -/
theorem headChar_three (hv : 0x800 ≤ v) (hv' : v ≤ 0xffff) (hsurrogate : v < 0xd800 ∨ 0xdfff < v)
    (rest : Bytes) :
    headChar (UInt8.ofNat (v / 4096 % 0x10 + 0xe0))
      (UInt8.ofNat (v / 64 % 0x40 + 0x80) :: UInt8.ofNat (v % 0x40 + 0x80) :: rest) =
        (Char.ofNat v, 2) := by
  have hb := toNat_ofNat_of_lt (show v / 4096 % 0x10 + 0xe0 < 256 by omega)
  have hx := toNat_ofNat_of_lt (show v / 64 % 0x40 + 0x80 < 256 by omega)
  have hy := toNat_ofNat_of_lt (show v % 0x40 + 0x80 < 256 by omega)
  have hcontinues := isContinuation_low v
  generalize UInt8.ofNat (v / 4096 % 0x10 + 0xe0) = b at *
  generalize UInt8.ofNat (v / 64 % 0x40 + 0x80) = x at *
  generalize UInt8.ofNat (v % 0x40 + 0x80) = y at *
  have hlead := lead?_eq b
  rw [if_neg (by omega), if_pos (by omega)] at hlead
  have hseq : Completes b x [y] := by
    refine ⟨⟨_, _, hlead, ?_, ?_⟩, by simpa using hcontinues⟩
    · split
      · show 0xa0 ≤ _
        omega
      · show 0x80 ≤ _
        omega
    · split
      · show _ ≤ 0x9f
        omega
      · show _ ≤ 0xbf
        omega
  have hpoint : codePoint b [x, y] = v := by
    rw [codePoint_two]
    omega
  rw [← hpoint]
  exact hseq.headChar_eq rest

/-- The second byte keeps out what fits into three bytes, and what is no character any more. -/
theorem headChar_four (hv : 0x10000 ≤ v) (hv' : v < 0x110000) (rest : Bytes) :
    headChar (UInt8.ofNat (v / 262144 % 0x08 + 0xf0))
      (UInt8.ofNat (v / 4096 % 0x40 + 0x80) :: UInt8.ofNat (v / 64 % 0x40 + 0x80) ::
        UInt8.ofNat (v % 0x40 + 0x80) :: rest) = (Char.ofNat v, 3) := by
  have hb := toNat_ofNat_of_lt (show v / 262144 % 0x08 + 0xf0 < 256 by omega)
  have hx := toNat_ofNat_of_lt (show v / 4096 % 0x40 + 0x80 < 256 by omega)
  have hy := toNat_ofNat_of_lt (show v / 64 % 0x40 + 0x80 < 256 by omega)
  have hz := toNat_ofNat_of_lt (show v % 0x40 + 0x80 < 256 by omega)
  have hcontinues := isContinuation_low (v / 64)
  have hcontinues' := isContinuation_low v
  generalize UInt8.ofNat (v / 262144 % 0x08 + 0xf0) = b at *
  generalize UInt8.ofNat (v / 4096 % 0x40 + 0x80) = x at *
  generalize UInt8.ofNat (v / 64 % 0x40 + 0x80) = y at *
  generalize UInt8.ofNat (v % 0x40 + 0x80) = z at *
  have hlead := lead?_eq b
  rw [if_neg (by omega), if_neg (by omega), if_pos (by omega)] at hlead
  have hseq : Completes b x [y, z] := by
    refine ⟨⟨_, _, hlead, ?_, ?_⟩, by simpa using ⟨hcontinues, hcontinues'⟩⟩
    · split
      · show 0x90 ≤ _
        omega
      · show 0x80 ≤ _
        omega
    · split
      · show _ ≤ 0x8f
        omega
      · show _ ≤ 0xbf
        omega
  have hpoint : codePoint b [x, y, z] = v := by
    rw [codePoint_three]
    omega
  rw [← hpoint]
  exact hseq.headChar_eq rest

end Sequences

/-- The bytes of a character start afresh, and are read as the character. -/
theorem headChar_encodeChar (c : Char) : ∃ b bs, String.utf8EncodeChar c = b :: bs ∧
    isContinuation b = false ∧ ∀ rest, headChar b (bs ++ rest) = (c, bs.length) := by
  have hvalid : c.val.toNat < 0xd800 ∨ 0xdfff < c.val.toNat ∧ c.val.toNat < 0x110000 := c.valid
  have hchar : Char.ofNat c.val.toNat = c := Char.ofNat_toNat c
  have hafresh : ∀ n < 256, n < 0x80 ∨ 0xbf < n → isContinuation (UInt8.ofNat n) = false := by
    intro n hlt hn
    rw [Bool.eq_false_iff]
    intro hcontinues
    rw [isContinuation_iff, toNat_ofNat_of_lt hlt] at hcontinues
    omega
  fun_cases String.utf8EncodeChar c with
  | case1 v hv =>
      have hb : (UInt8.ofNat v).toNat = v := toNat_ofNat_of_lt (by omega)
      refine ⟨_, _, rfl, hafresh _ (by omega) (by omega), fun rest => ?_⟩
      rw [headChar_of_lt (by omega), hb, hchar]
      rfl
  | case2 v hv hv' =>
      refine ⟨_, _, rfl, hafresh _ (by omega) (by omega), fun rest => ?_⟩
      exact (headChar_two (by omega) hv' rest).trans (congrArg (·, 1) hchar)
  | case3 v hv hv' hv'' =>
      refine ⟨_, _, rfl, hafresh _ (by omega) (by omega), fun rest => ?_⟩
      exact (headChar_three (by omega) hv'' (by omega) rest).trans (congrArg (·, 2) hchar)
  | case4 v hv hv' hv'' =>
      refine ⟨_, _, rfl, hafresh _ (by omega) (by omega), fun rest => ?_⟩
      exact (headChar_four (by omega) (by omega) rest).trans (congrArg (·, 3) hchar)

theorem startsAfresh_encodeChar (c : Char) (bs : Bytes) :
    StartsAfresh (String.utf8EncodeChar c ++ bs) := by
  obtain ⟨b, rest, heq, hafresh, -⟩ := headChar_encodeChar c
  rw [heq]
  intro x hx
  obtain rfl : b = x := by simpa using hx
  exact hafresh

theorem decodeChars_encodeChar (c : Char) (bs : Bytes) :
    decodeChars (String.utf8EncodeChar c ++ bs) = c :: decodeChars bs := by
  obtain ⟨b, rest, heq, -, hhead⟩ := headChar_encodeChar c
  rw [heq, List.cons_append, decodeChars_cons, hhead, List.drop_left]

/-! ### The bytes of a text -/

/-- Taking the bytes of an array one by one. -/
theorem toList_loop (bs : ByteArray) (i : Nat) (r : List UInt8) :
    ByteArray.toList.loop bs i r = r.reverse ++ bs.data.toList.drop i := by
  fun_induction ByteArray.toList.loop bs i r with
  | case1 i r hi ih =>
      have hnext : bs.data.toList.drop i = bs.get! i :: bs.data.toList.drop (i + 1) := by
        have hget : bs.get! i = bs.data[i] := getElem!_pos bs.data i hi
        rw [List.drop_eq_getElem_cons (by simpa using hi), hget, Array.getElem_toList]
      rw [ih, hnext, List.reverse_cons, List.append_assoc, List.singleton_append]
  | case2 i r hi =>
      rw [List.drop_eq_nil_of_le (by simpa using Nat.le_of_not_lt hi), List.append_nil]

theorem ofString_eq_data (s : String) : ofString s = s.toByteArray.data.toList := by
  simp [ofString, String.toUTF8, ByteArray.toList, toList_loop]

/-- The bytes of a text spell the text. -/
theorem decode?_ofString (s : String) : (ofString s).decode? = some s := by
  have hbytes : (⟨(ofString s).toArray⟩ : ByteArray) = s.toByteArray := by
    rw [ofString_eq_data, Array.toArray_toList]
  rw [decode?, hbytes, String.fromUTF8?, dif_pos s.isValidUTF8]
  rfl

/-- The bytes of a text are those of its characters. -/
theorem ofString_eq (s : String) : ofString s = s.toList.flatMap String.utf8EncodeChar := by
  have hencode : (String.ofList s.toList).toByteArray =
      (s.toList.flatMap String.utf8EncodeChar).toByteArray := String.toByteArray_ofList
  rw [String.ofList_toList] at hencode
  rw [ofString_eq_data, hencode, List.data_toByteArray]

theorem decodeChars_encode (cs : List Char) (bs : Bytes) :
    decodeChars (cs.flatMap String.utf8EncodeChar ++ bs) = cs ++ decodeChars bs := by
  induction cs with
  | nil => rfl
  | cons c cs ih =>
      rw [List.flatMap_cons, List.append_assoc, decodeChars_encodeChar, ih, List.cons_append]

/-- **A text is read back from its bytes.** -/
theorem decode_ofString (s : String) : (ofString s).decode = s := by
  have hchars := decodeChars_encode s.toList []
  rw [List.append_nil, decodeChars, List.append_nil] at hchars
  rw [decode, ofString_eq, hchars, String.ofList_toList]

end Handover.Bytes
