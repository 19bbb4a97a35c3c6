/-
**Texts with directives.**

A template is a text in which a percent sign starts a directive: flags, a width and a verb that
says how the next argument is shown.  Nothing is refused: a directive that does not fit its
argument, has none, or breaks off leaves a note of that in the text, and arguments that no
directive asked for are listed at the end.  A width that is far too large ends the template.

Main definitions:

* `Handover.Text.Arg` — what a directive can show;
* `Handover.Text.Style` — the flags and the width of a directive;
* `Handover.Text.fill` — a template with its arguments.
-/

import Handover.Text.Quoted

set_option autoImplicit false

namespace Handover.Text

/-- An argument of a template. -/
inductive Arg where
  | text (s : String)
  | flag (b : Bool)
  | number (i : Int)
  | absent

/-- The flags and the width of a directive. -/
structure Style where
  plus : Bool := false
  minus : Bool := false
  zero : Bool := false
  width : Option Nat := none

/-- Fills `s` up to the width, on the left unless the minus flag is set.  Zeros go only left. -/
def Style.pad (st : Style) (s : String) : String :=
  match st.width with
  | none => s
  | some w =>
    if st.minus then padRight w s
    else padLeft (if st.zero then '0' else ' ') w s

/-- A number in base `b` with its sign.  Zeros asked for stand between sign and digits. -/
def Style.number (st : Style) (b : Nat) (i : Int) : String :=
  let sign := if i < 0 then "-" else if st.plus then "+" else ""
  let body := digits b i.natAbs
  if st.zero && !st.minus then
    sign ++ padLeft '0' (st.width.getD 0 - sign.length) body
  else
    st.pad (sign ++ body)

/-- The characters that a quoting directive shows: the plus flag asks for ASCII only. -/
def Style.repertoire (st : Style) : Repertoire := if st.plus then .ascii else .all

/-- The name of the kind of an argument, in notes. -/
def Arg.kind : Arg → String
  | .text _ => "string"
  | .flag _ => "bool"
  | .number _ => "int"
  | .absent => "<nil>"

/-- The character of a code point, or the replacement character. -/
def charOfInt (i : Int) : Char :=
  if h : i.toNat.isValidChar then
    if i < 0 then '�' else Char.ofNatAux i.toNat h
  else '�'

/-- The hexadecimal digits of the bytes of a text. -/
def hexOfText (s : String) : String :=
  String.join (s.toUTF8.toList.map fun b => hexPadded 2 b.toNat)

/-- An argument in its plain form. -/
def Arg.plain (st : Style) : Arg → String
  | .text s => st.pad s
  | .flag b => st.pad (if b then "true" else "false")
  | .number i => st.number 10 i
  | .absent => st.pad "<nil>"

/-- An argument under a verb, or `none` if the verb does not fit it.  The verb for the plain form
ignores the plus flag. -/
def Arg.show? (st : Style) (verb : Char) (a : Arg) : Option String :=
  if verb = 'v' then some (a.plain { st with plus := false })
  else match a with
  | .text s =>
    match verb with
    | 's' => some (st.pad s)
    | 'q' => some (st.pad (quoteIn st.repertoire s))
    | 'x' => some (st.pad (hexOfText s))
    | 'X' => some (st.pad (hexOfText s).toUpper)
    | _ => none
  | .flag b =>
    match verb with
    | 't' => some (st.pad (if b then "true" else "false"))
    | _ => none
  | .number i =>
    match verb with
    | 'd' => some (st.number 10 i)
    | 'b' => some (st.number 2 i)
    | 'o' => some (st.number 8 i)
    | 'x' => some (st.number 16 i)
    | 'X' => some (st.number 16 i).toUpper
    | 'c' => some (st.pad (String.singleton (charOfInt i)))
    | 'q' => some (st.pad (quoteCharIn st.repertoire (charOfInt i)))
    | _ => none
  | .absent => none

/-- An argument in a note: its kind and its plain form. -/
def Arg.note (st : Style) : Arg → String
  | .absent => "<nil>"
  | a => a.kind ++ "=" ++ a.plain st

/-- An argument under a verb, or the note that the verb does not fit it. -/
def Arg.render (st : Style) (verb : Char) (a : Arg) : String :=
  (a.show? st verb).getD ("%!" ++ String.singleton verb ++ "(" ++ a.note st ++ ")")

/-- The list of arguments that no directive asked for. -/
def extra : List Arg → String
  | [] => ""
  | args => "%!(EXTRA " ++ ", ".intercalate (args.map (Arg.note {})) ++ ")"

/-- Reads the flags at the head of a directive. -/
def takeFlags (st : Style) : List Char → Style × List Char
  | '+' :: cs => takeFlags { st with plus := true } cs
  | '-' :: cs => takeFlags { st with minus := true } cs
  | '0' :: cs => takeFlags { st with zero := true } cs
  | cs => (st, cs)

theorem length_takeFlags (st : Style) (cs : List Char) :
    (takeFlags st cs).2.length ≤ cs.length := by
  fun_induction takeFlags st cs <;> simp <;> omega

/-- The largest number that another digit may follow in a width. -/
def widthLimit : Nat := 1000000

/-- The number that decimal digits spell on top of `n`, or `none` if it grows too large. -/
def decimal? (n : Nat) : List Char → Option Nat
  | [] => some n
  | d :: ds => if widthLimit < n then none else decimal? (10 * n + (d.toNat - '0'.toNat)) ds

/-- Reads the flags and the width at the head of a directive.  After a width that is too large
nothing is left to read. -/
def takeStyle (cs : List Char) : Style × List Char :=
  let (st, rest) := takeFlags {} cs
  let ds := rest.takeWhile Char.isDigit
  match decimal? 0 ds with
  | none => (st, [])
  | some n =>
    ({ st with width := if ds.isEmpty then none else some n }, rest.dropWhile Char.isDigit)

theorem length_takeStyle (cs : List Char) : (takeStyle cs).2.length ≤ cs.length := by
  have h := length_takeFlags {} cs
  simp only [takeStyle]
  split
  · simp
  · exact Nat.le_trans (List.dropWhile_sublist _).length_le h

/-- The text that a template stands for, character by character. -/
def fillFrom (cs : List Char) (args : List Arg) : String :=
  match cs with
  | [] => extra args
  | c :: rest =>
    if c ≠ '%' then String.singleton c ++ fillFrom rest args
    else
      have := length_takeStyle rest
      match _h : takeStyle rest with
      | (_, []) => "%!(NOVERB)" ++ extra args
      | (st, verb :: rest') =>
        if verb = '%' then "%" ++ fillFrom rest' args
        else match args with
          | [] => "%!" ++ String.singleton verb ++ "(MISSING)" ++ fillFrom rest' []
          | a :: more => a.render st verb ++ fillFrom rest' more
termination_by cs.length
decreasing_by all_goals simp_all <;> omega

/-- A template with its arguments. -/
def fill (template : String) (args : List Arg) : String :=
  fillFrom template.toList args

end Handover.Text
