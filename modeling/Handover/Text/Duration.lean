/-
**Spans of time.**

A span is a number of nanoseconds with 64 bits.  It is rounded to a unit, halves away from zero,
and stays at the largest or smallest span if the rounded one would not fit.  It is written in
hours, minutes and seconds, or in the largest smaller unit of which there is at least one.

Main definitions: `Handover.Duration.round`, `Handover.Duration.text`.
-/

import Handover.Text.Hex

set_option autoImplicit false

namespace Handover.Duration

/-- The largest span. -/
def longest : Int := Int64.maxValue.toInt

/-- The smallest span. -/
def shortest : Int := Int64.minValue.toInt

/-- The multiple of `unit` next to a span. -/
def round (unit : Nat) (ns : Int) : Int :=
  let size := (2 * ns.natAbs + unit) / (2 * unit) * unit
  let rounded := if ns < 0 then -(size : Int) else size
  max shortest (min longest rounded)

/-- A whole part and `places` decimal places of `v`, without zeros at the end. -/
def decimal (places v : Nat) : String :=
  let unit := Nat.pow 10 places
  let digits := (Text.padLeft '0' places (toString (v % unit))).toList
  let kept := (digits.reverse.dropWhile (· = '0')).reverse
  toString (v / unit) ++ if kept.isEmpty then "" else "." ++ String.ofList kept

/-- The text of a span that is not negative. -/
def textOf (ns : Nat) : String :=
  if ns = 0 then "0s"
  else if ns < 1000 then toString ns ++ "ns"
  else if ns < 1000000 then decimal 3 ns ++ "µs"
  else if ns < 1000000000 then decimal 6 ns ++ "ms"
  else
    let minute := 60 * 1000000000
    let seconds := decimal 9 (ns % minute) ++ "s"
    let minutes := ns / minute
    if minutes = 0 then seconds
    else if minutes < 60 then toString minutes ++ "m" ++ seconds
    else toString (minutes / 60) ++ "h" ++ toString (minutes % 60) ++ "m" ++ seconds

/-- The text of a span. -/
def text (ns : Int) : String := (if ns < 0 then "-" else "") ++ textOf ns.natAbs

end Handover.Duration
