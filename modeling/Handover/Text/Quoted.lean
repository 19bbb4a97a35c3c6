/-
**Quoted text.**

A text is shown between double quotes and a character between single ones.  Printable characters
stand for themselves, the quote in use and the backslash get a backslash, seven control characters
have a letter of their own, and everything else is written by its code point: two hexadecimal
digits below 0x80, four up to 0xffff, eight beyond.  On request everything beyond ASCII is written
by its code point.

Main definitions: `Handover.Text.Repertoire`, `Handover.Text.quote` and `Handover.Text.quoteChar`,
and the same for a repertoire, `Handover.Text.quoteIn` and `Handover.Text.quoteCharIn`.
-/

import Handover.Text.Hex
import Handover.Text.Printable

set_option autoImplicit false

namespace Handover.Text

/-- The letter that names a control character behind a backslash. -/
def controlLetter? (c : Char) : Option Char :=
  match c.toNat with
  | 0x07 => some 'a'
  | 0x08 => some 'b'
  | 0x09 => some 't'
  | 0x0a => some 'n'
  | 0x0b => some 'v'
  | 0x0c => some 'f'
  | 0x0d => some 'r'
  | _ => none

/-- A character by its code point. -/
def codeEscape (c : Char) : String :=
  let n := c.toNat
  if n < 0x80 then "\\x" ++ hexPadded 2 n
  else if n < 0x10000 then "\\u" ++ hexPadded 4 n
  else "\\U" ++ hexPadded 8 n

/-- Which of the printable characters stand for themselves. -/
inductive Repertoire where
  | all
  | ascii
deriving DecidableEq, Repr

/-- Whether a character stands for itself. -/
def Repertoire.shows (r : Repertoire) (c : Char) : Bool :=
  isPrintable c && (r = .all || c.toNat < 0x80)

/-- A character as it stands between two `mark`s. -/
def escapeChar (r : Repertoire) (mark c : Char) : String :=
  if c == mark || c == '\\' then "\\".push c
  else if r.shows c then String.singleton c
  else match controlLetter? c with
    | some letter => "\\".push letter
    | none => codeEscape c

/-- `s` between double quotes. -/
def quoteIn (r : Repertoire) (s : String) : String :=
  "\"" ++ String.join (s.toList.map (escapeChar r '"')) ++ "\""

/-- `c` between single quotes. -/
def quoteCharIn (r : Repertoire) (c : Char) : String :=
  "'" ++ escapeChar r '\'' c ++ "'"

/-- `s` between double quotes, in all printable characters. -/
def quote (s : String) : String := quoteIn .all s

/-- `c` between single quotes, in all printable characters. -/
def quoteChar (c : Char) : String := quoteCharIn .all c

end Handover.Text
