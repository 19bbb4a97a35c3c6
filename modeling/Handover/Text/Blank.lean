/-
**Blank characters.**

The characters that separate words and mean nothing else: the white space of the character
standard, which reaches from the tab to the ideographic space and leaves out the zero-width ones.

Main definition: `Handover.Text.isBlank`.
-/

set_option autoImplicit false

namespace Handover.Text

/-- The runs of blank code points. -/
def blankRuns : List (Nat × Nat) := [
  (0x09, 0x0d), (0x20, 0x20), (0x85, 0x85), (0xa0, 0xa0), (0x1680, 0x1680), (0x2000, 0x200a),
  (0x2028, 0x2029), (0x202f, 0x202f), (0x205f, 0x205f), (0x3000, 0x3000)]

/-- Whether `c` is white space. -/
def isBlank (c : Char) : Bool :=
  blankRuns.any fun run => run.1 ≤ c.toNat && c.toNat ≤ run.2

end Handover.Text
