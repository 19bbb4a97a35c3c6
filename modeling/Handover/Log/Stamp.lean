/-
**Stamps of the log.**

The time of a record is written with its date, in milliseconds and in universal time; a call is
named by sixteen random bytes.

Main definitions:

* `Handover.Log.Date`, `Date.ofDay` — a date of the calendar, and the date of a day;
* `Handover.Log.instant` — the text of a time;
* `Handover.Log.identity` — the name of a call.
-/

import Handover.Text.Hex
import Handover.Text.Utf8

set_option autoImplicit false

namespace Handover.Log

/-! ### Times -/

/-- A date of the calendar. -/
structure Date where
  year : Nat
  month : Nat
  day : Nat
deriving DecidableEq, Repr

/-- The date of a day, counted from the first of January 1970.  Years are taken to begin in March,
so that the day that only some years have is their last. -/
def Date.ofDay (n : Nat) : Date :=
  let n := n + 719468
  let inEra := n % 146097
  let yearOfEra := (inEra - inEra / 1460 + inEra / 36524 - inEra / 146096) / 365
  let inYear := inEra - (365 * yearOfEra + yearOfEra / 4 - yearOfEra / 100)
  let fromMarch := (5 * inYear + 2) / 153
  let month := if fromMarch < 10 then fromMarch + 3 else fromMarch - 9
  { year := yearOfEra + 400 * (n / 146097) + (if month ≤ 2 then 1 else 0)
    month
    day := inYear - (153 * fromMarch + 2) / 5 + 1 }

/-- The decimal digits of a number, at least `width` of them. -/
def digits (width n : Nat) : String := Text.padLeft '0' width (toString n)

/-- The text of a time in milliseconds since 1970. -/
def instant (ms : Nat) : String :=
  let s := ms / 1000
  let date := Date.ofDay (s / 86400)
  digits 4 date.year ++ "-" ++ digits 2 date.month ++ "-" ++ digits 2 date.day ++ "T"
    ++ digits 2 (s / 3600 % 24) ++ ":" ++ digits 2 (s / 60 % 60) ++ ":" ++ digits 2 (s % 60)
    ++ "." ++ digits 3 (ms % 1000) ++ "Z"

/-! ### Calls -/

/-- The name of a call that sixteen random bytes make.  Six bits say that they are random. -/
def identity (random : Bytes) : String :=
  let byte (i : Nat) : Nat :=
    let b := (random[i]?.getD 0).toNat
    if i = 6 then b % 16 + 0x40 else if i = 8 then b % 64 + 0x80 else b
  let group (start len : Nat) : String :=
    String.join ((List.range len).map fun i => Text.hexPadded 2 (byte (start + i)))
  "-".intercalate [group 0 4, group 4 2, group 6 2, group 8 2, group 10 6]

end Handover.Log
