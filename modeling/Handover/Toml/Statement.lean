/-
**Statements of settings.**

A file of settings is a list of statements, one on a line: a table is opened, an element is added
to a list of tables, or a key gets a value.  A key has one or more parts, divided by points.

Main definitions:

* `Handover.Toml.Literal` — a value as it is written;
* `Handover.Toml.Statement` — a statement;
* `Handover.Toml.statements?` — the statements of a text.
-/

import Handover.Text.Utf8
import Handover.Toml.Numeral

set_option autoImplicit false

namespace Handover.Toml

/-- The parts of a key. -/
abbrev Path := List String

/-- A value as it is written.  Fractions, truth values and moments are not told apart: no setting
takes any of them. -/
inductive Literal where
  | text (s : String)
  | whole (n : Int)
  | other
  | array (items : List Literal)
  | inline (pairs : List (Path × Literal))

/-- A statement. -/
inductive Statement where
  | table (path : Path)
  | element (path : Path)
  | assign (path : Path) (value : Literal)

/-! ### Blanks and comments -/

/-- Drops blanks on a line. -/
def skipGap (cs : List Char) : List Char := cs.dropWhile isGap

/-- Drops the rest of a line, but not its end. -/
def skipComment (cs : List Char) : List Char := cs.dropWhile (!isLineEnd ·)

/-- Drops blanks, line ends and comments. -/
def skipLines (cs : List Char) : List Char :=
  match _h : cs.dropWhile fun c => isGap c || isLineEnd c with
  | '#' :: more => skipLines (skipComment more)
  | rest => rest
termination_by cs.length
decreasing_by
  have h₁ := (List.dropWhile_sublist (l := cs) fun c => isGap c || isLineEnd c).length_le
  have h₂ := (List.dropWhile_sublist (l := more) (!isLineEnd ·)).length_le
  rw [_h] at h₁
  simp only [List.length_cons] at h₁
  simp only [skipComment]
  omega

/-- Reads the end of a statement: a comment may stand before the end of the line. -/
def endStatement (cs : List Char) : Option (List Char) :=
  match skipGap cs with
  | [] => some []
  | '#' :: rest => some (skipComment rest)
  | c :: rest => if isLineEnd c then some rest else none

/-! ### Keys -/

/-- Whether a character may stand in a key without quotes. -/
def isBare (c : Char) : Bool := c.isAlphanum || c = '_' || c = '-'

/-- Reads one part of a key. -/
def takePart : Taking String := fun cs =>
  match skipGap cs with
  | '"' :: rest => takeBasic rest
  | '\'' :: rest => takeLiteral rest
  | rest =>
    let bare := rest.takeWhile isBare
    if bare.isEmpty then none else some (String.ofList bare, rest.dropWhile isBare)

/-- Reads the parts of a key up to a mark; `fuel` bounds their number. -/
def takePathWithin (mark : Char) : Nat → Taking Path
  | 0, _ => none
  | fuel + 1, cs => do
    let (part, cs) ← takePart cs
    match skipGap cs with
    | c :: rest =>
      if c = mark then some ([part], rest)
      else if c = '.' then
        let (parts, rest) ← takePathWithin mark fuel rest
        return (part :: parts, rest)
      else none
    | [] => none

/-- Reads the parts of a key and the mark behind them. -/
def takePath (mark : Char) : Taking Path := fun cs => takePathWithin mark (cs.length + 1) cs

/-! ### Values -/

/-- Reads a value that is neither a list nor a table. -/
def takeScalar : Taking Literal
  | '"' :: '"' :: '"' :: cs => (takeLongBasic cs).map fun (s, r) => (.text s, r)
  | '"' :: cs => (takeBasic cs).map fun (s, r) => (.text s, r)
  | '\'' :: '\'' :: '\'' :: cs => (takeLongLiteral cs).map fun (s, r) => (.text s, r)
  | '\'' :: cs => (takeLiteral cs).map fun (s, r) => (.text s, r)
  | 't' :: 'r' :: 'u' :: 'e' :: cs => some (.other, cs)
  | 'f' :: 'a' :: 'l' :: 's' :: 'e' :: cs => some (.other, cs)
  | cs => (takeNumeral cs).map fun (n, r) =>
      (match n with
        | .whole n => .whole n
        | _ => .other, r)

mutual

/-- Reads a value; `fuel` bounds how many values it is made of. -/
def takeValueWithin : Nat → Taking Literal
  | 0, _ => none
  | fuel + 1, cs =>
    match skipGap cs with
    | '[' :: rest => (takeItems fuel rest).map fun (xs, r) => (.array xs, r)
    | '{' :: rest =>
      match skipGap rest with
      | '}' :: rest => some (.inline [], rest)
      | rest => (takePairs fuel rest).map fun (ps, r) => (.inline ps, r)
    | cs => takeScalar cs

/-- Reads the values of a list and its end. -/
def takeItems : Nat → Taking (List Literal)
  | 0, _ => none
  | fuel + 1, cs =>
    match skipLines cs with
    | ']' :: rest => some ([], rest)
    | cs => do
      let (x, cs) ← takeValueWithin fuel cs
      match skipLines cs with
      | ',' :: rest =>
        let (xs, rest) ← takeItems fuel rest
        return (x :: xs, rest)
      | ']' :: rest => return ([x], rest)
      | _ => none

/-- Reads the keys and values of a table on one line, at least one of them, and its end. -/
def takePairs : Nat → Taking (List (Path × Literal))
  | 0, _ => none
  | fuel + 1, cs => do
    let (path, cs) ← takePath '=' cs
    let (x, cs) ← takeValueWithin fuel cs
    match skipGap cs with
    | ',' :: rest =>
      let (ps, rest) ← takePairs fuel rest
      return ((path, x) :: ps, rest)
    | '}' :: rest => return ([(path, x)], rest)
    | _ => none

end

/-- Reads a value. -/
def takeValue : Taking Literal := fun cs => takeValueWithin (2 * cs.length + 2) cs

/-! ### Texts -/

/-- Reads a statement, but not the end of its line. -/
def takeStatement : Taking Statement
  | '[' :: '[' :: cs => do
    let (path, cs) ← takePath ']' cs
    match cs with
    | ']' :: rest => return (.element path, rest)
    | _ => none
  | '[' :: cs => do
    let (path, cs) ← takePath ']' cs
    return (.table path, cs)
  | cs => do
    let (path, cs) ← takePath '=' cs
    let (value, cs) ← takeValue cs
    return (.assign path value, cs)

/-- The statements of a text; `fuel` bounds their number. -/
def statementsWithin : Nat → List Char → Option (List Statement)
  | 0, _ => none
  | fuel + 1, cs =>
    match skipLines cs with
    | [] => some []
    | cs => do
      let (s, cs) ← takeStatement cs
      return s :: (← statementsWithin fuel (← endStatement cs))

/-- Whether a text has only characters that may stand in settings: of the control characters the
tabulator and the line ends, and a carriage return only before a line feed. -/
def isPlain : List Char → Bool
  | [] => true
  | '\r' :: '\n' :: cs => isPlain cs
  | c :: cs => (c = '\t' || c = '\n' || (0x20 ≤ c.toNat && c.toNat ≠ 0x7f)) && isPlain cs

/-- The bytes of a file without the mark that may stand at its beginning. -/
def dropMark : Bytes → Bytes
  | 0xef :: 0xbb :: 0xbf :: bs => bs
  | 0xff :: 0xfe :: bs => bs
  | 0xfe :: 0xff :: bs => bs
  | bs => bs

/-- The statements of a file. -/
def statements? (bytes : Bytes) : Option (List Statement) := do
  let cs := (← (dropMark bytes).decode?).toList
  if isPlain cs then statementsWithin (cs.length + 1) cs else none

end Handover.Toml
