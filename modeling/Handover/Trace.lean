/-
**Traces.**

A trace lists what happened to handles, with the time of each event.  It is printed as lines with
tabulators or, for a terminal, as a table with a frame.

Main definitions:

* `Handover.Trace.Line`, `Handover.Trace.rows` — the events and their cells;
* `Handover.Trace.plain`, `Handover.Trace.framed` — the two forms;
* `Handover.Trace.ofJournal` — the events that an observer was told.
-/

import Handover.Grid
import Handover.Object.World
import Handover.Text.Duration

set_option autoImplicit false

namespace Handover.Trace

/-- One event of a trace. -/
structure Line where
  /-- Nanoseconds since the beginning of the trace. -/
  time : Int
  /-- The number of the kind of event. -/
  code : Nat
  handle : Handle
  typeName : String
deriving DecidableEq, Repr

/-- The titles of the columns. -/
def titles : List String := ["#", "at", "event", "handle", "type"]

/-- The column of the event. -/
def eventColumn : Nat := 2

/-- The cells of an event that comes after `n` others. -/
def cells (n : Nat) (l : Line) : List String :=
  [toString (n + 1), Duration.text (Duration.round 1000 l.time), Live.EventKind.nameOfCode l.code,
    Text.address l.handle, l.typeName]

/-- The cells of a trace. -/
def rows (ls : List Line) : List (List String) := ls.mapIdx cells

/-! ### Lines -/

/-- A trace as lines with tabulators. -/
def plain (ls : List Line) : String :=
  String.join ((titles :: rows ls).map fun r => "\t".intercalate r ++ "\n")

/-! ### Tables -/

/-- The cells of an event in a table.  The name of an unknown kind has no blanks around it. -/
def framedCells (n : Nat) (l : Line) : List Grid.Cell :=
  (cells n l).mapIdx fun i c =>
    let isBare := i = eventColumn ∧ (Live.EventKind.ofCode? l.code).isNone
    { text := c.toList, margin := if isBare then 0 else 1 }

/-- A trace as a table with a frame. -/
def framed (ls : List Line) : String :=
  Grid.render { titles := titles.map fun t => { text := t.toList }, rows := ls.mapIdx framedCells }

/-- A trace in the form that suits where it is printed. -/
def render (isStyled : Bool) (ls : List Line) : String := if isStyled then framed ls else plain ls

/-! ### Recording -/

/-- The number of a kind of event. -/
def codeOf (k : Live.EventKind) : Nat := Live.EventKind.all.findIdx (· = k)

/-- What an observer was told, in order; `clock` gives the time of each event. -/
def ofJournal (clock : Nat → Int) (observer : Observer) (journal : List Mark) : List Line :=
  let seen := journal.filterMap fun
    | .changed e told => if told.contains observer then some e else none
    | _ => none
  seen.mapIdx fun i e =>
    { time := clock i, code := codeOf e.kind, handle := e.handle, typeName := e.typeName }

end Handover.Trace
