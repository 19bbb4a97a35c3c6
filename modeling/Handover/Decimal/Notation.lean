/-
**Notation of decimals.**

A number is written with a point, or with an exponent if its leading digit stands too far from the
point.

Main definitions:

* `Handover.Decimal.plain` — digits with a point;
* `Handover.Decimal.scientific` — one digit, a point, the other digits and an exponent;
* `Handover.Decimal.general` — the notation of results;
* `Handover.Decimal.positional` — the notation of log values.
-/

import Handover.Decimal.Shortest
import Handover.Text.Hex

set_option autoImplicit false

namespace Handover.Decimal

/-- The digits of a decimal. -/
def Expansion.text (d : Expansion) : String := toString d.digits

/-- The exponent of the leading digit of a decimal. -/
def Expansion.leading (d : Expansion) : Int := d.exponent + d.text.length - 1

/-- A decimal with a point. -/
def plain (d : Expansion) : String :=
  if 0 ≤ d.exponent then d.text.pushn '0' d.exponent.toNat
  else
    let places := (-d.exponent).toNat
    let digits := (Text.padLeft '0' (places + 1) d.text).toList
    let whole := digits.length - places
    String.ofList (digits.take whole) ++ "." ++ String.ofList (digits.drop whole)

/-- A decimal with an exponent of at least two digits. -/
def scientific (d : Expansion) : String :=
  let (head, rest) := d.text.toList.splitAt 1
  let e := d.leading
  String.ofList head ++ (if rest.isEmpty then "" else "." ++ String.ofList rest)
    ++ (if e < 0 then "e-" else "e+") ++ Text.padLeft '0' 2 (toString e.natAbs)

/-- A number without its sign, by the place of its leading digit: an exponent is written from six
places before the point and from five places after it. -/
def generalOf (d : Expansion) : String :=
  if d.digits ≠ 0 ∧ (d.leading < -4 ∨ 6 ≤ d.leading) then scientific d else plain d

/-- How a number is written, given how its size is written. -/
def Binary.write (size : Expansion → String) : Binary → String
  | notNumber => "NaN"
  | infinite isNegative => if isNegative then "-Inf" else "+Inf"
  | finite isNegative x => (if isNegative then "-" else "") ++ size x.shortest

/-- The notation of results. -/
def general (b : Binary) : String := b.write generalOf

/-- The notation of log values, which never have an exponent. -/
def positional (b : Binary) : String := b.write plain

/-- Whether the number is finite. -/
def Binary.isFinite : Binary → Bool
  | finite _ _ => true
  | _ => false

end Handover.Decimal
