/-
**The tokens of an interface description.**

A source text is cut into words, texts between double quotes, and single marks.  Blanks separate
them, and two slashes start a comment that reaches to the end of the line.  Inside a text a
backslash takes the next character as it is.

Every token carries the number of the line on which it starts.  The count goes up at a line end
between tokens, at the end of a comment, and at a line end that stands unescaped inside a text.

Main definitions:

* `Handover.Shape`, `Handover.Token` — what a token is, and where it stands;
* `Handover.Mistake`, `Handover.SyntaxError` — what can be wrong with a source, and its wording;
* `Handover.Token.scan` — the tokens of a source.
-/

import Handover.Failure
import Handover.Text.Blank

set_option autoImplicit false

namespace Handover

/-- The kinds of token. -/
inductive Shape where
  | word (s : String)
  | text (s : String)
  | mark (c : Char)
deriving DecidableEq, Repr

/-- A token and the line on which it starts. -/
structure Token where
  shape : Shape
  line : Nat
deriving DecidableEq, Repr

/-- The characters of a token, a text without its quotes. -/
def Token.value (t : Token) : String :=
  match t.shape with
  | .word s => s
  | .text s => s
  | .mark c => String.singleton c

/-! ### Mistakes -/

/-- What a source may be expected to have next. -/
inductive Expected where
  | word
  | text
  | mark (c : Char)
deriving DecidableEq, Repr

/-- The wording of an expectation. -/
def Expected.wording : Expected → String
  | word => "identifier"
  | text => "string"
  | mark c => Text.quote (String.singleton c)

/-- What is wrong with a source. -/
inductive Mistake where
  | openText
  | strayChar (c : Char)
  | endBefore (what : Expected)
  | mismatch (what : Expected) (got : String)
  | endAfter (name : String)
  | noDeclaration (got : String)
  | openInterface (name : String)
  | nameTaken (name : String) (line : Nat)
  | methodTaken (interface method : String)
deriving DecidableEq, Repr

/-- The wording of a mistake. -/
def Mistake.detail : Mistake → String
  | openText => "unterminated string"
  | strayChar c => "unexpected character " ++ Text.quoteChar c
  | endBefore what => "unexpected end of input, expected " ++ what.wording
  | mismatch what got => "expected " ++ what.wording ++ ", got " ++ Text.quote got
  | endAfter name => "unexpected end of input after " ++ name ++ " ="
  | noDeclaration got => "expected interface, enum or string, got " ++ Text.quote got
  | openInterface name => "unterminated interface " ++ name
  | nameTaken name line => name ++ " already declared at line " ++ toString line
  | methodTaken interface method => "method " ++ interface ++ "." ++ method ++ " declared twice"

/-- A mistake and the line that is blamed for it. -/
structure SyntaxError where
  line : Nat
  mistake : Mistake
deriving DecidableEq, Repr

/-- A syntax error as a failure. -/
def SyntaxError.failure (e : SyntaxError) : Failure := .syntaxAt e.line e.mistake.detail

/-! ### Character classes -/

/-- Whether a word can start with `c`. -/
def isWordStart (c : Char) : Bool := c.isAlpha || c == '_'

/-- Whether a word can go on with `c`. -/
def isWordPart (c : Char) : Bool := isWordStart c || c.isDigit

/-- Whether `c` is a token by itself. -/
def isMark (c : Char) : Bool := "=\x7b\x7d();:,+#".toList.contains c

namespace Token

/-! ### Scanning -/

/-- What follows the end of the line. -/
def afterLine (cs : List Char) : List Char := (cs.dropWhile (· != '\n')).tail

theorem length_afterLine (cs : List Char) : (afterLine cs).length ≤ cs.length := by
  have h := (List.dropWhile_sublist (l := cs) (· != '\n')).length_le
  simp only [afterLine, List.length_tail]
  omega

/-- A text up to its closing quote: its characters, how many lines it added to the count, and what
follows it.  `none` if there is no closing quote. -/
def takeText : List Char → Option (List Char × Nat × List Char)
  | [] => none
  | '"' :: rest => some ([], 0, rest)
  | '\\' :: c :: rest => (takeText rest).map fun (s, n, r) => (c :: s, n, r)
  | c :: rest =>
    (takeText rest).map fun (s, n, r) => (c :: s, if c = '\n' then n + 1 else n, r)

theorem length_takeText {cs s r : List Char} {n : Nat} (h : takeText cs = some (s, n, r)) :
    r.length < cs.length := by
  fun_induction takeText cs generalizing s n r with
  | case1 => simp at h
  | case2 rest => simp_all
  | case3 c rest ih =>
    obtain ⟨⟨s', n', r'⟩, h', heq⟩ := Option.map_eq_some_iff.1 h
    have := ih h'
    simp_all
    omega
  | case4 c rest _ _ ih =>
    obtain ⟨⟨s', n', r'⟩, h', heq⟩ := Option.map_eq_some_iff.1 h
    have := ih h'
    simp_all
    omega

/-- The tokens of `cs`, of which the first character stands on line `line`. -/
def scanFrom (line : Nat) (cs : List Char) : Except SyntaxError (List Token) :=
  match cs with
  | [] => .ok []
  | c :: rest =>
    if c = '\n' then scanFrom (line + 1) rest
    else if Text.isBlank c then scanFrom line rest
    else if c = '/' ∧ rest.head? = some '/' then
      have := length_afterLine rest
      scanFrom (line + 1) (afterLine rest)
    else if c = '"' then
      match h : takeText rest with
      | none => .error ⟨line, .openText⟩
      | some (s, n, rest') =>
        have := length_takeText h
        return ⟨.text (String.ofList s), line⟩ :: (← scanFrom (line + n) rest')
    else if isWordStart c then
      have := (List.dropWhile_sublist (l := rest) isWordPart).length_le
      return ⟨.word (String.ofList (c :: rest.takeWhile isWordPart)), line⟩
        :: (← scanFrom line (rest.dropWhile isWordPart))
    else if isMark c then
      return ⟨.mark c, line⟩ :: (← scanFrom line rest)
    else .error ⟨line, .strayChar c⟩
termination_by cs.length

/-- The tokens of a source. -/
def scan (source : String) : Except SyntaxError (List Token) := scanFrom 1 source.toList

end Token

end Handover
