/-
**Bytes and characters.**

Texts are stored as UTF-8.  Reading is lenient: a byte that is not part of a well-formed sequence
counts as one replacement character, and reading goes on with the byte behind it.

Main definitions:

* `Handover.Bytes`, `Handover.Bytes.ofString` — byte strings, and the bytes of a text;
* `Handover.Bytes.decode` — the lenient reading;
* `Handover.Bytes.decode?` — the strict one.
-/

set_option autoImplicit false

namespace Handover

/-- A byte string. -/
abbrev Bytes := List UInt8

namespace Bytes

/-- The bytes of a text. -/
def ofString (s : String) : Bytes := s.toUTF8.toList

/-- The text that the bytes spell, if they are well formed. -/
def decode? (bs : Bytes) : Option String := String.fromUTF8? ⟨bs.toArray⟩

/-- Whether `b` can stand behind the first byte of a sequence. -/
def isContinuation (b : UInt8) : Bool := 0x80 ≤ b && b ≤ 0xbf

/-- The range of the second byte of a sequence that starts with `b`, and the number of bytes after
that; `none` if no longer sequence starts with `b`. -/
def lead? (b : UInt8) : Option (UInt8 × UInt8 × Nat) :=
  if 0xc2 ≤ b && b ≤ 0xdf then some (0x80, 0xbf, 0)
  else if b == 0xe0 then some (0xa0, 0xbf, 1)
  else if b == 0xed then some (0x80, 0x9f, 1)
  else if 0xe1 ≤ b && b ≤ 0xef then some (0x80, 0xbf, 1)
  else if b == 0xf0 then some (0x90, 0xbf, 2)
  else if 0xf1 ≤ b && b ≤ 0xf3 then some (0x80, 0xbf, 2)
  else if b == 0xf4 then some (0x80, 0x8f, 2)
  else none

/-- The code point of a sequence of more than one byte: the low bits of the first byte, then six
bits of each byte after it. -/
def codePoint (first : UInt8) (rest : Bytes) : Nat :=
  let bits := match rest.length with
    | 1 => first.toNat % 32
    | 2 => first.toNat % 16
    | _ => first.toNat % 8
  rest.foldl (fun n b => 64 * n + b.toNat % 64) bits

/-- The character at the head of `b :: bs`, and how many of `bs` belong to it. -/
def headChar (b : UInt8) (bs : Bytes) : Char × Nat :=
  if b < 0x80 then (Char.ofNat b.toNat, 0)
  else match lead? b with
    | none => ('�', 0)
    | some (lo, hi, more) =>
      match bs with
      | [] => ('�', 0)
      | second :: rest =>
        if lo ≤ second && second ≤ hi && more ≤ rest.length
            && (rest.take more).all isContinuation then
          (Char.ofNat (codePoint b (second :: rest.take more)), more + 1)
        else ('�', 0)

/-- The characters of a byte string, read leniently. -/
def decodeChars : Bytes → List Char
  | [] => []
  | b :: bs =>
    let (c, n) := headChar b bs
    c :: decodeChars (bs.drop n)
termination_by bs => bs.length

/-- The text of a byte string, read leniently. -/
def decode (bs : Bytes) : String := String.ofList bs.decodeChars

end Bytes

end Handover
