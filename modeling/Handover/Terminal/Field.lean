/-
**The text field.**

A line of text with a cursor, in which text is typed and taken away, by characters or by words.
A word is a run of characters that are not blank.

Main definitions:

* `Handover.Terminal.Field` — the text and the place of the cursor;
* `Field.setText`, `Field.insert`, `Field.press` — what can be done with it;
* `EditKey.ofChord?` — the key that the name of a chord stands for;
* `Handover.Terminal.Editor` — a way to react to what is done with a field, of which the one here is
  `Editor.line`;
* `Handover.Terminal.integer` — the number that the text spells.
-/

import Handover.Failure
import Handover.Text.Blank
import Handover.Text.Quoted

set_option autoImplicit false

namespace Handover.Terminal

/-- A key that edits the text. -/
inductive EditKey where
  | backspace
  | delete
  | left
  | right
  | home
  | last
  | wordLeft
  | wordRight
  | deleteWordLeft
  | deleteWordRight
  | deleteToHome
  | deleteToLast
  /-- Changes nothing. -/
  | idle
deriving DecidableEq, Repr

/-- The key that the name of a chord stands for. -/
def EditKey.ofChord? : String → Option EditKey
  | "ctrl+h" => some backspace
  | "ctrl+d" => some delete
  | "ctrl+b" => some left
  | "ctrl+f" => some right
  | "ctrl+a" => some home
  | "ctrl+e" => some last
  | "alt+left" | "ctrl+left" | "alt+b" => some wordLeft
  | "alt+right" | "ctrl+right" | "alt+f" => some wordRight
  | "alt+backspace" | "ctrl+w" => some deleteWordLeft
  | "alt+delete" | "alt+d" => some deleteWordRight
  | "ctrl+u" => some deleteToHome
  | "ctrl+k" => some deleteToLast
  | "ctrl+v" | "ctrl+n" | "ctrl+p" => some idle
  | _ => none

/-- A line of text with a cursor, counted in characters before it. -/
structure Field where
  text : List Char := []
  cursor : Nat := 0
deriving DecidableEq, Repr

namespace Field

/-- The characters that stay of a text that is put in: line ends and tabulators become blanks, and
other control characters are left out. -/
def clean (cs : List Char) : List Char :=
  cs.filterMap fun c =>
    if c = '\n' ∨ c = '\r' ∨ c = '\t' then some ' '
    else if c.toNat < 0x20 ∨ (0x7f ≤ c.toNat ∧ c.toNat < 0xa0) ∨ c = '�' then none
    else some c

/-- Replaces the text.  The cursor goes to the end if it would lie beyond it, and also if it was at
the beginning of no text. -/
def setText (f : Field) (text : List Char) : Field :=
  let goesToEnd := (f.cursor = 0 ∧ f.text = []) ∨ text.length < f.cursor
  { text, cursor := if goesToEnd then text.length else f.cursor }

/-- Puts text in at the cursor. -/
def insert (f : Field) (typed : String) : Field :=
  let new := clean typed.toList
  setText { f with cursor := f.cursor + new.length }
    (f.text.take f.cursor ++ new ++ f.text.drop f.cursor)

/-- The characters before the cursor, the nearest first. -/
def before (f : Field) : List Char := (f.text.take f.cursor).reverse

/-- The characters from the cursor on. -/
def after (f : Field) : List Char := f.text.drop f.cursor

/-- The field with the characters before and after the cursor. -/
def around (before after : List Char) : Field :=
  { text := before.reverse ++ after, cursor := before.length }

/-- What is left of a text behind blanks and the word that follows them. -/
def skipWord (cs : List Char) : List Char :=
  (cs.dropWhile Text.isBlank).dropWhile (!Text.isBlank ·)

/-- Takes blanks away, but not the last character. -/
def trimBlanks : List Char → List Char
  | c :: d :: cs => if Text.isBlank c then trimBlanks (d :: cs) else c :: d :: cs
  | cs => cs

/-- Takes the characters up to a blank away, and the last one whatever it is. -/
def trimWord : List Char → List Char
  | c :: d :: cs => if Text.isBlank c then c :: d :: cs else trimWord (d :: cs)
  | _ => []

/-- Takes the word after the cursor away: the character at the cursor, blanks, and what follows up
to a blank.  If that character is the last one, the look at the next is beyond the end. -/
def deleteWordRight (f : Field) : Except Fault Field :=
  match f.after with
  | [] => .ok f
  | [_] => .error (.beyondEnd f.text.length f.text.length)
  | _ :: cs => .ok (around f.before (skipWord cs))

/-- Edits the text by a key. -/
def press (f : Field) : EditKey → Except Fault Field
  | .backspace => .ok (around f.before.tail f.after)
  | .delete => .ok (around f.before f.after.tail)
  | .left => .ok { f with cursor := f.cursor - 1 }
  | .right => .ok { f with cursor := min (f.cursor + 1) f.text.length }
  | .home => .ok { f with cursor := 0 }
  | .last => .ok { f with cursor := f.text.length }
  | .wordLeft => .ok { f with cursor := (skipWord f.before).length }
  | .wordRight => .ok { f with cursor := f.text.length - (skipWord f.after).length }
  | .deleteWordLeft => .ok (around (trimWord (trimBlanks f.before)) f.after)
  | .deleteWordRight => f.deleteWordRight
  | .deleteToHome => .ok (around [] f.after)
  | .deleteToLast => .ok (around f.before [])
  | .idle => .ok f

end Field

/-! ### Editing -/

/-- What is passed on to a field. -/
inductive Input where
  | key (k : EditKey)
  | text (typed : String)

/-- Takes what is passed on.  The name of a chord stands for its key. -/
def Field.receive (f : Field) : Input → Except Fault Field
  | .key k => f.press k
  | .text typed =>
    match EditKey.ofChord? typed with
    | some k => f.press k
    | none => .ok (f.insert typed)

/-- How a field reacts when its text is replaced, and to what is passed on to it. -/
structure Editor where
  setText : Field → List Char → Field
  receive : Field → Input → Except Fault Field

/-- The way of the field above. -/
def Editor.line : Editor where
  setText := Field.setText
  receive := Field.receive

/-! ### Numbers -/

/-- Reads digits on top of what was read before: a character that is no digit is a mistake, and so
is a number of more than 32 bits, whichever comes first. -/
def readDigits (n : Nat) : List Char → Except String Nat
  | [] => .ok n
  | c :: cs =>
    if c.isDigit then
      let n := 10 * n + (c.toNat - '0'.toNat)
      if n < UInt32.size then readDigits n cs else .error "value out of range"
    else .error "invalid syntax"

/-- The size of the number that digits spell. -/
def magnitude (cs : List Char) : Except String Nat :=
  if cs.isEmpty then .error "invalid syntax" else readDigits 0 cs

/-- The number that a text spells, or why it spells none. -/
def integer (text : List Char) : Except String Int32 :=
  let signed : Except String Int := match text with
    | '+' :: cs => (magnitude cs).map fun n => (n : Int)
    | '-' :: cs => (magnitude cs).map fun n => -(n : Int)
    | cs => (magnitude cs).map fun n => (n : Int)
  let checked : Except String Int := signed.bind fun n =>
    if Int32.minValue.toInt ≤ n ∧ n ≤ Int32.maxValue.toInt then .ok n
    else .error "value out of range"
  match checked with
  | .ok n => .ok (Int32.ofInt n)
  | .error e =>
    .error ("strconv.ParseInt: parsing " ++ Text.quote (String.ofList text) ++ ": " ++ e)

end Handover.Terminal
