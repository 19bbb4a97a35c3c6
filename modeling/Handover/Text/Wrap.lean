/-
**Wrapping.**

A text is laid out in lines of a limited width.  Words go to the next line as a whole if they can,
and blanks at the end of a line that is broken are left out.  Of a line that is only measured every
control character counts as a column, so more lines can be counted than are laid out.

Main definitions:

* `Handover.Text.Layout` — lines that are being filled;
* `Handover.Text.wrap` — the lines of a text;
* `Handover.Text.linesNeeded` — how many lines are counted for one line of a text.
-/

import Handover.Text.Blank
import Handover.Text.Glyph

set_option autoImplicit false

namespace Handover.Text

/-- Lines that are being filled, with blanks and the beginning of a word that are not placed yet. -/
structure Layout where
  done : List (List Char) := []
  line : List Char := []
  /-- The columns of the line. -/
  column : Nat := 0
  space : List Char := []
  spaceWidth : Nat := 0
  word : List Char := []
  wordWidth : Nat := 0

namespace Layout

/-- Places the blanks. -/
def placeSpace (l : Layout) : Layout :=
  { l with
    line := l.line ++ l.space, column := l.column + l.spaceWidth, space := [], spaceWidth := 0 }

/-- Places the word, if there is one, behind the blanks. -/
def placeWord (l : Layout) : Layout :=
  if l.word.isEmpty then l
  else
    let l := l.placeSpace
    { l with
      line := l.line ++ l.word, column := l.column + l.wordWidth, word := [], wordWidth := 0 }

/-- Ends the line.  Its last blanks are left out, and the word goes to the next line. -/
def newLine (l : Layout) : Layout :=
  { l with done := l.done ++ [l.line], line := [], column := 0, space := [], spaceWidth := 0 }

/-- Ends the line if there is no room for the blanks and the word. -/
def breakIfFull (limit : Nat) (l : Layout) : Layout :=
  if limit < l.column + l.wordWidth + l.spaceWidth then l.newLine else l

/-- Adds a blank of some width. -/
def blank (c : Char) (width : Nat) (l : Layout) : Layout :=
  let l := l.placeWord
  { l with space := l.space ++ [c], spaceWidth := l.spaceWidth + width }

/-- Adds to the word. -/
def extend (cs : List Char) (width : Nat) (l : Layout) : Layout :=
  { l with word := l.word ++ cs, wordWidth := l.wordWidth + width }

/-- Puts a mark behind the word that a line may end with. -/
def mark (c : Char) (l : Layout) : Layout :=
  let l := l.placeWord
  { l with line := l.line ++ [c], column := l.column + 1 }

/-- Adds a glyph to the word.  A word that is too long for a line is broken. -/
def push (limit : Nat) (g : Glyph) (l : Layout) : Layout :=
  let l := if limit < l.wordWidth + g.width then l.placeWord else l
  (l.extend g.chars g.width).breakIfFull limit

/-- Places what is left at the end of a line.  Blanks at the end are kept if there is room. -/
def settle (limit : Nat) (l : Layout) : Layout :=
  if l.wordWidth = 0 then
    let line := if l.column + l.spaceWidth ≤ limit then l.line ++ l.space else l.line
    placeWord { l with line, space := [], spaceWidth := 0 }
  else l.placeWord

/-- All lines. -/
def lines (l : Layout) : List (List Char) := l.done ++ [l.line]

end Layout

/-! ### Laying out -/

/-- Lays one more glyph out. -/
def wrapGlyph (limit : Nat) (l : Layout) : Glyph → Layout
  | .plain c =>
    if c = ' ' then l.blank c 1
    else if c = '-' then
      let l := l.placeSpace
      if l.column + l.wordWidth + 1 ≤ limit then l.mark c else l.push limit (.plain c)
    else l.push limit (.plain c)
  | .control c => if c = '\n' then (l.settle limit).newLine else l.extend [c] 0
  | g => if g.width = 0 then l.extend g.chars 0 else l.push limit g

/-- The lines of a text, each of which has at most `limit` columns where that is possible. -/
def wrap (limit : Nat) (text : List Char) : List (List Char) :=
  (((glyphs text).foldl (wrapGlyph limit) {}).settle limit).lines

/-! ### Measuring -/

/-- Counts an ASCII character, control characters like any other. -/
def measureChar (limit : Nat) (c : Char) (l : Layout) : Layout :=
  if isBlank c then l.blank c 1
  else if c = '-' then
    let l := l.placeSpace
    if limit ≤ l.column + l.wordWidth then l.extend [c] 1 else l.mark c
  else
    let l := (if l.column = limit then l.newLine else l).extend [c] 1
    (if l.wordWidth = limit then l.placeWord else l).breakIfFull limit

/-- The blank that does not separate words. -/
def firmBlank : Char := '\u00a0'

/-- Counts one more glyph. -/
def measureGlyph (limit : Nat) (l : Layout) : Glyph → Layout
  | .plain c => measureChar limit c l
  | .control c => measureChar limit c l
  | .sequence cs => l.extend cs 0
  | .cluster c cs =>
    if isBlank c ∧ c ≠ firmBlank then l.blank c (Glyph.cluster c cs).width
    else l.push limit (.cluster c cs)

/-- How many lines of `limit` columns are counted for a line. -/
def linesNeeded (limit : Nat) (line : List Char) : Nat :=
  ((glyphs line).foldl (measureGlyph limit) {}).done.length + 1

end Handover.Text
