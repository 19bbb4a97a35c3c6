/-
**Lines of the log.**

A record is written as one line, in one of two formats: fields divided by tabulators, or one JSON
object.  The time and the identity of the running call are given from outside.

Main definitions:

* `Handover.Log.Format`, `Handover.Log.Style` — how the log is written, and from which level on;
* `Handover.Log.Stamps` — what is given from outside;
* `Handover.Log.Style.lines` — the text of a record.
-/

import Handover.Log.Record
import Handover.Text.JsonString

set_option autoImplicit false

namespace Handover.Log

/-- A format of the log. -/
inductive Format where
  | text
  | json
deriving DecidableEq, Repr

/-- How the log is written, and from which level on. -/
structure Style where
  threshold : Level := .info
  format : Format := .text
deriving DecidableEq, Repr

/-- The time of a record and the identity of the running call. -/
structure Stamps where
  time : String
  call : String
deriving DecidableEq, Repr

/-- The text of a value. -/
def Value.write (s : Stamps) : Value → String
  | text t => Text.jsonString t
  | number n => toString n
  | bare t => t
  | callId => Text.jsonString s.call

/-- The fields of a record as the inside of a JSON object, with a blank at each `gap`. -/
def writeFields (s : Stamps) (gap : String) (fields : List (String × Value)) : String :=
  ("," ++ gap).intercalate <|
    fields.map fun (k, v) => Text.jsonString k ++ ":" ++ gap ++ v.write s

/-- A record with its fields divided by tabulators. -/
def Record.textLine (s : Stamps) (r : Record) : String :=
  let fields := if r.fields.isEmpty then []
    else ["\x7b" ++ writeFields s " " r.fields ++ "\x7d"]
  "\t".intercalate ([s.time, r.level.name.toUpper, r.source.name, r.message] ++ fields) ++ "\n"

/-- A record as a JSON object. -/
def Record.jsonLine (s : Stamps) (r : Record) : String :=
  let head := [("level", Value.text r.level.name), ("ts", .text s.time),
    ("logger", .text r.source.name), ("msg", .text r.message)]
  "\x7b" ++ writeFields s "" (head ++ r.fields) ++ "\x7d\n"

/-- The line of a record, or nothing if its level is below the threshold. -/
def Style.lines (style : Style) (s : Stamps) (r : Record) : String :=
  if style.threshold.passes r.level then
    match style.format with
    | .text => r.textLine s
    | .json => r.jsonLine s
  else ""

end Handover.Log
