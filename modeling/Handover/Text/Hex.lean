/-
**Hexadecimal text.**

Main definitions:

* `Handover.Text.hex` — the digits of a number in base sixteen, lower case, no leading zeros;
* `Handover.Text.hexPadded` — the same, filled with zeros to a width;
* `Handover.Text.address` — the spelling of an address, `0x` and the digits.
-/

set_option autoImplicit false

namespace Handover.Text

/-- The digits of `n` in base `b`, without leading zeros. -/
def digits (b n : Nat) : String := String.ofList (Nat.toDigits b n)

/-- The lower-case hexadecimal digits of `n`. -/
def hex (n : Nat) : String := digits 16 n

/-- `s` behind as many copies of `c` as it takes to reach `width` characters. -/
def padLeft (c : Char) (width : Nat) (s : String) : String :=
  "".pushn c (width - s.length) ++ s

/-- `s` before as many spaces as it takes to reach `width` characters. -/
def padRight (width : Nat) (s : String) : String :=
  s.pushn ' ' (width - s.length)

/-- The lower-case hexadecimal digits of `n`, at least `width` of them. -/
def hexPadded (width n : Nat) : String := padLeft '0' width (hex n)

/-- The spelling of an address. -/
def address (n : Nat) : String := "0x" ++ hex n

end Handover.Text
