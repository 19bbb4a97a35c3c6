/-
**Quoted text in settings.**

Text stands between double quotes, where a backslash starts an escape, or between single quotes,
where nothing is escaped.  Three quotes open text over several lines: a newline right after them is
dropped, and a backslash at the end of a line swallows all blanks up to the next text.  Up to two
quotes may stand before the three that close such a text.

Main definitions:

* `Handover.Toml.takeBasic`, `Handover.Toml.takeLiteral` — text on one line;
* `Handover.Toml.takeLongBasic`, `Handover.Toml.takeLongLiteral` — text over several lines;
* `Handover.Toml.unescape` — what the escapes stand for.
-/

import Handover.Text.Hex

set_option autoImplicit false

namespace Handover.Toml

/-- A step of reading: what stands at the head of a text, and what follows it. -/
abbrev Taking (α : Type) := List Char → Option (α × List Char)

/-- Whether a character ends a line. -/
def isLineEnd (c : Char) : Bool := c = '\n' || c = '\r'

/-- Whether a character separates the parts of a line. -/
def isGap (c : Char) : Bool := c = ' ' || c = '\t'

/-! ### Escapes -/

/-- The value of a hexadecimal digit. -/
def hexDigit? (c : Char) : Option Nat :=
  if c.isDigit then some (c.toNat - '0'.toNat)
  else if 'a' ≤ c ∧ c ≤ 'f' then some (c.toNat - 'a'.toNat + 10)
  else if 'A' ≤ c ∧ c ≤ 'F' then some (c.toNat - 'A'.toNat + 10)
  else none

/-- Whether a character is a hexadecimal digit. -/
def isHexDigit (c : Char) : Bool := (hexDigit? c).isSome

/-- The character that hexadecimal digits name. -/
def charOfHex? (digits : List Char) : Option Char := do
  let n ← digits.foldlM (fun n c => (hexDigit? c).map (16 * n + ·)) 0
  if n.isValidChar then some (Char.ofNat n) else none

/-- The character that a one-letter escape stands for. -/
def shortEscape? : Char → Option Char
  | 'b' => some '\x08'
  | 't' => some '\t'
  | 'n' => some '\n'
  | 'f' => some '\x0c'
  | 'r' => some '\r'
  | '"' => some '"'
  | '\\' => some '\\'
  | _ => none

/-- Puts in place of every escape what it stands for. -/
def unescape : List Char → Option (List Char)
  | '\\' :: 'u' :: a :: b :: c :: d :: cs => do
    return (← charOfHex? [a, b, c, d]) :: (← unescape cs)
  | '\\' :: 'U' :: a :: b :: c :: d :: e :: f :: g :: h :: cs => do
    return (← charOfHex? [a, b, c, d, e, f, g, h]) :: (← unescape cs)
  | '\\' :: c :: cs => do return (← shortEscape? c) :: (← unescape cs)
  | ['\\'] => none
  | c :: cs => do return c :: (← unescape cs)
  | [] => some []

/-- Whether every escape is complete where it stands.  A backslash may also stand before a blank or
the end of a line. -/
def hasWholeEscapes : List Char → Bool
  | '\\' :: 'u' :: cs => (cs.take 4).length = 4 && (cs.take 4).all isHexDigit && hasWholeEscapes cs
  | '\\' :: 'U' :: cs => (cs.take 8).length = 8 && (cs.take 8).all isHexDigit && hasWholeEscapes cs
  | '\\' :: c :: cs =>
    ((shortEscape? c).isSome || isGap c || isLineEnd c) && hasWholeEscapes cs
  | ['\\'] => false
  | _ :: cs => hasWholeEscapes cs
  | [] => true

/-- Takes out every backslash at the end of a line, with the blanks after it. -/
def joinLines : List Char → List Char
  | '\\' :: '\\' :: cs => '\\' :: '\\' :: joinLines cs
  | '\\' :: cs =>
    let isSpace (c : Char) := isGap c || isLineEnd c
    if (cs.takeWhile isSpace).contains '\n' then joinLines (cs.dropWhile isSpace)
    else '\\' :: joinLines cs
  | c :: cs => c :: joinLines cs
  | [] => []
termination_by cs => cs.length
decreasing_by
  · simp only [List.length_cons]; omega
  · have := (List.dropWhile_sublist (l := cs) fun c => isGap c || isLineEnd c).length_le
    simp only [List.length_cons]
    omega
  · simp only [List.length_cons]; omega
  · simp only [List.length_cons]; omega

/-- The text without a newline at its beginning. -/
def dropFirstLineEnd : List Char → List Char
  | '\n' :: cs => cs
  | '\r' :: '\n' :: cs => cs
  | cs => cs

/-! ### Text on one line -/

/-- Splits a text at the quote that closes it; a backslash hides the character after it. -/
def splitBasic : List Char → Option (List Char × List Char)
  | [] => none
  | '"' :: cs => some ([], cs)
  | '\\' :: c :: cs => do
    let (inner, rest) ← splitBasic cs
    return ('\\' :: c :: inner, rest)
  | c :: cs => do
    let (inner, rest) ← splitBasic cs
    return (c :: inner, rest)

/-- Reads text after its opening double quote. -/
def takeBasic : Taking String := fun cs => do
  let (inner, rest) ← splitBasic cs
  if inner.any isLineEnd then none
  else return (String.ofList (← unescape inner), rest)

/-- Reads text after its opening single quote. -/
def takeLiteral : Taking String := fun cs =>
  let inner := cs.takeWhile (· ≠ '\'')
  match cs.dropWhile (· ≠ '\'') with
  | [] => none
  | _ :: rest => if inner.any isLineEnd then none else some (String.ofList inner, rest)

/-! ### Text over several lines -/

/-- Splits a text at the three quotes that close it, given what was read of it, the last character
first.  A quote before four others would be the sixth from the end and is refused, except after a
backslash. -/
def splitLong (quote : Char) (hasEscapes : Bool) :
    List Char → List Char → Option (List Char × List Char)
  | _, [] => none
  | done, c :: cs =>
    if c = quote then
      match cs with
      | a :: b :: rest =>
        if a = quote ∧ b = quote then
          if rest.head? = some quote then
            if done.take 2 = [quote, quote] ∧ ¬(hasEscapes ∧ done[2]? = some '\\') then none
            else splitLong quote hasEscapes (c :: done) cs
          else some (done.reverse, rest)
        else splitLong quote hasEscapes (c :: done) cs
      | _ => splitLong quote hasEscapes (c :: done) cs
    else if hasEscapes ∧ c = '\\' then
      match cs with
      | [] => none
      | a :: rest => splitLong quote hasEscapes (a :: c :: done) rest
    else splitLong quote hasEscapes (c :: done) cs

/-- Reads text after its three opening double quotes.  No escape may be divided between lines. -/
def takeLongBasic : Taking String := fun cs => do
  let (inner, rest) ← splitLong '"' true [] cs
  guard (hasWholeEscapes inner)
  return (String.ofList (← unescape (joinLines (dropFirstLineEnd inner))), rest)

/-- Reads text after its three opening single quotes. -/
def takeLongLiteral : Taking String := fun cs => do
  let (inner, rest) ← splitLong '\'' false [] cs
  return (String.ofList (dropFirstLineEnd inner), rest)

end Handover.Toml
