/-
**Names as words.**

A name such as `helloPrettyWorld` is a list of lower-case words.  It is cut before every upper-case
letter but the first character, joined by underscores for one style of spelling, and by capital
letters for the other.

Main definitions:

* `Handover.Words.ofCamel`, `Handover.Words.ofSnake` — the words of a name in either spelling;
* `Handover.Words.camel`, `Handover.Words.snake` — the two spellings.
-/

import Handover.Text.LetterCase

set_option autoImplicit false

namespace Handover

/-- The words of a name. -/
abbrev Words := List String

namespace Words

/-- Cuts before every upper-case letter but the first character. -/
def cutCamel : List Char → List (List Char)
  | [] => []
  | c :: cs =>
    have := (List.dropWhile_sublist (l := cs) (!Text.isUpper ·)).length_le
    (c :: cs.takeWhile (!Text.isUpper ·)) :: cutCamel (cs.dropWhile (!Text.isUpper ·))
termination_by cs => cs.length

/-- The words of a name in capitals style. -/
def ofCamel (s : String) : Words :=
  (cutCamel s.toList).map fun w => String.ofList (w.map Text.toLower)

/-- Cuts at every underscore. -/
def cutSnake : List Char → List (List Char)
  | [] => [[]]
  | '_' :: cs => [] :: cutSnake cs
  | c :: cs =>
    match cutSnake cs with
    | [] => [[c]]
    | w :: ws => (c :: w) :: ws

/-- The words of a name in underscore style; the empty name has none. -/
def ofSnake (s : String) : Words :=
  if s.isEmpty then [] else (cutSnake s.toList).map String.ofList

/-- The words joined by underscores. -/
def snake (ws : Words) : String := "_".intercalate ws

/-- A word with a capital first letter. -/
def capitalise (w : String) : String :=
  match w.toList with
  | [] => ""
  | c :: cs => String.ofList (Text.toUpper c :: cs)

/-- The words joined by capital letters. -/
def camel (ws : Words) : String := String.join (ws.map capitalise)

end Words

end Handover
