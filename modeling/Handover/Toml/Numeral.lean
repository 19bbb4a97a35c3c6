/-
**Numbers and moments in settings.**

A whole number is written in base ten, with or without a sign, or in base two, eight or sixteen
without one; a single underscore may stand between two digits, and a decimal number does not start
with a zero.  A fraction has digits on both sides of the point.  A moment is a date, a time of day
or both, and both may have an offset.

Main definitions:

* `Handover.Toml.takeNumeral` — reads a number or a moment;
* `Handover.Toml.wholeNumber?`, `Handover.Toml.isFraction`, `Handover.Toml.isMoment` — what the text
  of one is worth.
-/

import Handover.Toml.Quoted

set_option autoImplicit false

namespace Handover.Toml

/-- What a number or a moment is worth to the settings: only whole numbers are looked at. -/
inductive Numeral where
  | whole (n : Int)
  | fraction
  | moment
deriving DecidableEq, Repr

/-! ### Whole numbers -/

/-- Whether every underscore stands between two digits, and the last character is a digit.  Digits
of all bases count. -/
def hasGoodUnderscores (cs : List Char) : Bool :=
  let step := fun (ok, digitBefore) (c : Char) =>
    (ok && (c ≠ '_' || digitBefore), (hexDigit? c).isSome)
  let (ok, digitLast) := cs.foldl step (true, false)
  ok && digitLast

/-- Whether a decimal number starts with a zero that it could do without. -/
def hasLeadingZero : List Char → Bool
  | '0' :: c :: _ => !(['b', 'o', 'x'].contains c)
  | '-' :: '0' :: _ :: _ => true
  | '+' :: '0' :: _ :: _ => true
  | _ => false

/-- The number that digits of a base spell. -/
def naturalIn (base : Nat) (digits : List Char) : Option Nat :=
  if digits.isEmpty then none
  else digits.foldlM (fun n c => do
    let d ← hexDigit? c
    if d < base then some (base * n + d) else none) 0

/-- The number that a text spells; it has at most 64 bits. -/
def wholeNumber? (cs : List Char) : Option Int := do
  if !hasGoodUnderscores cs || hasLeadingZero cs then none
  let digits := cs.filter (· ≠ '_')
  let n : Int ← match digits with
    | '0' :: 'x' :: ds => naturalIn 16 ds
    | '0' :: 'o' :: ds => naturalIn 8 ds
    | '0' :: 'b' :: ds => naturalIn 2 ds
    | '-' :: ds => (naturalIn 10 ds).map fun n => -(n : Int)
    | '+' :: ds => naturalIn 10 ds
    | ds => naturalIn 10 ds
  if Int64.minValue.toInt ≤ n ∧ n ≤ Int64.maxValue.toInt then some n else none

/-! ### Fractions -/

/-- The pieces of a text between marks, the empty ones left out. -/
def pieces (isMark : Char → Bool) : List Char → List (List Char)
  | [] => []
  | c :: cs =>
    if isMark c then pieces isMark cs
    else
      match cs, pieces isMark cs with
      | d :: _, p :: ps => if isMark d then [c] :: p :: ps else (c :: p) :: ps
      | _, ps => [c] :: ps

/-- Whether every point has a digit after it. -/
def hasGoodPoints : List Char → Bool
  | [] => true
  | '.' :: c :: cs => c.isDigit && hasGoodPoints (c :: cs)
  | ['.'] => false
  | _ :: cs => hasGoodPoints cs

/-- A text without a sign at its beginning. -/
def dropSign : List Char → List Char
  | '+' :: cs => cs
  | '-' :: cs => cs
  | cs => cs

/-- The value of an exponent, if the text is one. -/
def exponent? : List Char → Option Int
  | [] => some 0
  | e :: cs =>
    if e = 'e' ∨ e = 'E' then do
      let n ← naturalIn 10 (dropSign cs)
      return if cs.head? = some '-' then -(n : Int) else n
    else none

/-- Whether `digits` times ten to the `exponent` is so large that it rounds to no 64-bit number. -/
def isTooLarge (digits : Nat) (exponent : Int) : Bool :=
  let limit := Nat.pow 2 1024 - Nat.pow 2 970
  if digits = 0 then false
  else if 400 < exponent then true
  else if 0 ≤ exponent then limit ≤ digits * Nat.pow 10 exponent.toNat
  else
    let places := min (-exponent).toNat (toString digits).length
    limit * Nat.pow 10 places ≤ digits

/-- Whether a text is a decimal number with a point or an exponent. -/
def isDecimal (cs : List Char) : Bool :=
  let body := dropSign cs
  let whole := body.takeWhile Char.isDigit
  let rest := body.dropWhile Char.isDigit
  let (fraction, rest) := match rest with
    | '.' :: ds => (ds.takeWhile Char.isDigit, ds.dropWhile Char.isDigit)
    | _ => ([], rest)
  match naturalIn 10 (whole ++ fraction), exponent? rest with
  | some n, some e => !isTooLarge n (e - fraction.length)
  | _, _ => false

/-- Whether a text is a fraction. -/
def isFraction (cs : List Char) : Bool :=
  let parts := pieces (fun c => c = '.' || c = 'e' || c = 'E') cs
  parts.all hasGoodUnderscores && !(parts.head?.any hasLeadingZero) && hasGoodPoints cs
    && isDecimal (cs.filter (· ≠ '_'))

/-! ### Moments -/

/-- The number that two digits spell, if it is at most `most`. -/
def twoDigits? (most : Nat) : Taking Nat
  | a :: b :: cs => do
    let n ← if a.isDigit && b.isDigit then naturalIn 10 [a, b] else none
    if n ≤ most then some (n, cs) else none
  | _ => none

/-- Reads one character of a kind. -/
def takeOne (isWanted : Char → Bool) : List Char → Option (List Char)
  | c :: cs => if isWanted c then some cs else none
  | [] => none

/-- The number of days of a month. -/
def daysIn (year month : Nat) : Nat :=
  if month = 2 then
    if year % 4 = 0 ∧ (year % 100 ≠ 0 ∨ year % 400 = 0) then 29 else 28
  else if month = 4 ∨ month = 6 ∨ month = 9 ∨ month = 11 then 30
  else 31

/-- Reads a date. -/
def takeDate (cs : List Char) : Option (List Char) := do
  let (century, cs) ← twoDigits? 99 cs
  let (year, cs) ← twoDigits? 99 cs
  let cs ← takeOne (· = '-') cs
  let (month, cs) ← twoDigits? 12 cs
  let cs ← takeOne (· = '-') cs
  let (day, cs) ← twoDigits? 31 cs
  if 1 ≤ month ∧ 1 ≤ day ∧ day ≤ daysIn (100 * century + year) month then some cs else none

/-- Reads a time of day, with or without a fraction of a second. -/
def takeTime (cs : List Char) : Option (List Char) := do
  let (_, cs) ← twoDigits? 23 cs
  let cs ← takeOne (· = ':') cs
  let (_, cs) ← twoDigits? 59 cs
  let cs ← takeOne (· = ':') cs
  let (_, cs) ← twoDigits? 59 cs
  match cs with
  | '.' :: d :: rest => if d.isDigit then some (rest.dropWhile Char.isDigit) else none
  | _ => some cs

/-- Whether a text is an offset, or nothing. -/
def isOffset : List Char → Bool
  | [] => true
  | ['Z'] => true
  | c :: cs =>
    (c = '+' || c = '-') && ((do
      let (_, cs) ← twoDigits? 24 cs
      let cs ← takeOne (· = ':') cs
      let (_, cs) ← twoDigits? 60 cs
      if cs.isEmpty then some () else none) : Option Unit).isSome

/-- Whether a text is a date, a time of day or both. -/
def isMoment (cs : List Char) : Bool :=
  let cs := cs.map fun c => if c = 'z' then 'Z' else if c = 't' ∨ c = ' ' then 'T' else c
  match takeDate cs with
  | some [] => true
  | some ('T' :: rest) => (takeTime rest).any isOffset
  | some _ => false
  | none => takeTime cs = some []

/-! ### Reading -/

/-- The value of the text of a whole number. -/
def wholeOf (text rest : List Char) : Option (Numeral × List Char) :=
  (wholeNumber? text).map fun n => (.whole n, rest)

/-- Reads the rest of a fraction whose beginning is `done`. -/
def takeFraction (done cs : List Char) : Option (Numeral × List Char) :=
  let isPart (c : Char) := c.isDigit || ['_', '.', '-', '+', 'e', 'E'].contains c
  if isFraction (done ++ cs.takeWhile isPart) then some (.fraction, cs.dropWhile isPart) else none

/-- Reads the rest of a moment whose beginning is `done`; blanks at its end do not belong to it. -/
def takeMoment (done cs : List Char) : Option (Numeral × List Char) :=
  let isPart (c : Char) :=
    c.isDigit || ['-', ':', 'T', 't', ' ', '.', 'Z', 'z', '+'].contains c
  let text := ((done ++ cs.takeWhile isPart).reverse.dropWhile (· = ' ')).reverse
  if isMoment text then some (.moment, cs.dropWhile isPart) else none

/-- Reads the rest of a decimal number whose beginning is `done`. -/
def takeDecimal (done cs : List Char) : Option (Numeral × List Char) :=
  let isPart (c : Char) := c.isDigit || c = '_'
  let text := done ++ cs.takeWhile isPart
  let rest := cs.dropWhile isPart
  match rest with
  | c :: _ => if c = '.' || c = 'e' || c = 'E' then takeFraction text rest else wholeOf text rest
  | [] => wholeOf text rest

/-- Reads a number or a moment that starts with digits. -/
def takeDigits (cs : List Char) : Option (Numeral × List Char) :=
  let text := cs.takeWhile Char.isDigit
  let rest := cs.dropWhile Char.isDigit
  match rest with
  | c :: _ =>
    if c = '-' || c = ':' then
      if text = ['0'] then wholeOf text rest else takeMoment text rest
    else takeDecimal text rest
  | [] => wholeOf text rest

/-- Reads a number of another base after its mark; it must start with a digit of the base. -/
def takeBased (base : Nat) (mark : Char) (cs : List Char) : Option (Numeral × List Char) :=
  let isDigit (c : Char) := (hexDigit? c).any (· < base)
  let isPart (c : Char) := isDigit c || c = '_'
  if cs.head?.any isDigit then
    wholeOf ('0' :: mark :: cs.takeWhile isPart) (cs.dropWhile isPart)
  else none

/-- Reads a number or a moment. -/
def takeNumeral : Taking Numeral
  | 'i' :: 'n' :: 'f' :: cs => some (.fraction, cs)
  | 'n' :: 'a' :: 'n' :: cs => some (.fraction, cs)
  | '0' :: 'x' :: cs => takeBased 16 'x' cs
  | '0' :: 'o' :: cs => takeBased 8 'o' cs
  | '0' :: 'b' :: cs => takeBased 2 'b' cs
  | c :: cs =>
    if c = '+' ∨ c = '-' then
      match cs with
      | 'i' :: 'n' :: 'f' :: rest => some (.fraction, rest)
      | 'n' :: 'a' :: 'n' :: rest => some (.fraction, rest)
      | d :: _ => if d.isDigit then takeDecimal [c] cs else none
      | [] => none
    else if c.isDigit then takeDigits (c :: cs)
    else none
  | [] => none

end Handover.Toml
