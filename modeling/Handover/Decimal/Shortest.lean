/-
**The shortest decimal of a binary number.**

A binary floating point number stands for all reals that round to it.  Among the decimals in that
interval the shortest is the one with the fewest digits, and of several the one nearest to the
number.  The ends of the interval belong to it if the significand is even.

Main definitions:

* `Handover.Decimal.Format` — the layout of a binary format, `single` and `double`;
* `Handover.Decimal.Binary` — a number, taken apart;
* `Handover.Decimal.Expansion` — digits and the place of the last one;
* `Handover.Decimal.Finite.shortest` — the shortest decimal.
-/

set_option autoImplicit false

namespace Handover.Decimal

/-! ### Binary numbers -/

/-- The layout of a binary format. -/
structure Format where
  fractionBits : Nat
  exponentBits : Nat
deriving DecidableEq, Repr

/-- The format of 32 bits. -/
def Format.single : Format := ⟨23, 8⟩

/-- The format of 64 bits. -/
def Format.double : Format := ⟨52, 11⟩

/-- A finite number without its sign: `significand` times two to the `exponent`. -/
structure Finite where
  significand : Nat
  exponent : Int
  /-- Whether the next smaller number is only half as far away as the next larger one. -/
  isNarrowBelow : Bool := false
deriving DecidableEq, Repr

/-- A floating point number. -/
inductive Binary where
  | notNumber
  | infinite (isNegative : Bool)
  | finite (isNegative : Bool) (value : Finite)
deriving DecidableEq, Repr

/-- The number that a bit pattern stands for. -/
def Binary.ofBits (f : Format) (bits : Nat) : Binary :=
  let fraction := bits % Nat.pow 2 f.fractionBits
  let biased := bits / Nat.pow 2 f.fractionBits % Nat.pow 2 f.exponentBits
  let isNegative := bits / Nat.pow 2 (f.fractionBits + f.exponentBits) % 2 = 1
  let lowest : Int := 2 - (Nat.pow 2 (f.exponentBits - 1) : Nat) - f.fractionBits
  if biased = Nat.pow 2 f.exponentBits - 1 then
    if fraction = 0 then infinite isNegative else notNumber
  else if biased = 0 then finite isNegative { significand := fraction, exponent := lowest }
  else finite isNegative {
    significand := Nat.pow 2 f.fractionBits + fraction
    exponent := lowest + biased - 1
    isNarrowBelow := fraction = 0 ∧ 1 < biased }

/-! ### Decimals -/

/-- The decimal `digits` times ten to the `exponent`. -/
structure Expansion where
  digits : Nat
  exponent : Int
deriving DecidableEq, Repr

/-- Moves zeros at the end of the digits into the exponent; `fuel` bounds how many. -/
def Expansion.strip : Nat → Expansion → Expansion
  | 0, d => d
  | fuel + 1, d =>
    if d.digits ≠ 0 ∧ d.digits % 10 = 0 then strip fuel ⟨d.digits / 10, d.exponent + 1⟩ else d

namespace Finite

/-- A quarter of the last place of the significand, as a fraction of numerator and denominator. -/
def quarter (x : Finite) : Nat × Nat :=
  let e := x.exponent - 2
  if 0 ≤ e then (Nat.pow 2 e.toNat, 1) else (1, Nat.pow 2 (-e).toNat)

/-- The number, the lower and the upper end of the reals that round to it, and the denominator that
the three share. -/
def interval (x : Finite) : Nat × Nat × Nat × Nat :=
  let (unit, den) := x.quarter
  let m := 4 * x.significand
  (m * unit, (m - if x.isNarrowBelow then 1 else 2) * unit, (m + 2) * unit, den)

/-- Whether the decimal `c` times ten to the `k` rounds to the number. -/
def readsBack (x : Finite) (c : Nat) (k : Int) : Bool :=
  let (_, low, high, den) := x.interval
  let (c, scale) :=
    if 0 ≤ k then (c * Nat.pow 10 k.toNat * den, 1) else (c * den, Nat.pow 10 (-k).toNat)
  if x.significand % 2 = 0 then low * scale ≤ c ∧ c ≤ high * scale
  else low * scale < c ∧ c < high * scale

/-- The exponent of the leading decimal digit: the number of decimal digits of the whole part less
one, or minus the number of places up to the first digit that is not zero. -/
def leading (x : Finite) : Int :=
  let (value, _, _, den) := x.interval
  if den ≤ value then ((Nat.toDigits 10 (value / den)).length : Int) - 1
  else
    let places := (Nat.toDigits 10 (den / value)).length
    if den ≤ value * Nat.pow 10 (places - 1) then 1 - (places : Int) else -(places : Int)

/-- The decimal with the digits down to place `k` that rounds to the number, the nearer of the two
neighbours if both do. -/
def neighbour? (x : Finite) (k : Int) : Option Expansion :=
  let (value, _, _, den) := x.interval
  let (value, den) :=
    if 0 ≤ k then (value, den * Nat.pow 10 k.toNat) else (value * Nat.pow 10 (-k).toNat, den)
  let below := value / den
  let remainder := value % den
  let isNearer := 2 * remainder < den ∨ (2 * remainder = den ∧ below % 2 = 0)
  match x.readsBack below k, x.readsBack (below + 1) k with
  | true, true => some ⟨if isNearer then below else below + 1, k⟩
  | true, false => some ⟨below, k⟩
  | false, true => some ⟨below + 1, k⟩
  | false, false => none

/-- More digits than any shortest decimal of 64 bits has. -/
def maxDigits : Nat := 17

/-- The shortest decimal that rounds to the number. -/
def shortest (x : Finite) : Expansion :=
  if x.significand = 0 then ⟨0, 0⟩
  else
    let lead := x.leading
    match (List.range maxDigits).findSome? fun (n : Nat) => x.neighbour? (lead - n) with
    | some d => d.strip maxDigits
    | none => ⟨0, 0⟩

end Finite

end Handover.Decimal
