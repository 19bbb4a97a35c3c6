/-
**The world.**

The world is everything that calls across the boundary can see or change: the holders with their
payloads, the live table, the foreign objects, the files, and a journal of all that was written,
told to observers or logged.  An action may be stopped by a fault; what it changed before stays.

Main definitions:

* `Handover.Holder`, `Handover.ForeignObject` — what stands behind a handle, and behind a pointer;
* `Handover.Mark` — one entry of the journal;
* `Handover.World`, `Handover.Act` — the world, and actions on it.
-/

import Handover.Failure
import Handover.File.Tree
import Handover.Live.Table
import Handover.Log.Record
import Handover.Object.Payload

set_option autoImplicit false

namespace Handover

/-! ### State -/

/-- What stands behind a handle: a payload with its type.  A destroyed holder has no payload. -/
structure Holder where
  descriptor : Descriptor
  payload : Option Payload
  /-- How often a payload of this holder was dropped. -/
  drops : Nat := 0
deriving DecidableEq, Repr

/-- An object that foreign code built. -/
structure ForeignObject where
  number : Int32
  /-- How often it was destroyed. -/
  destroyed : Nat := 0
deriving DecidableEq, Repr

/-- The name of an observer of the live table. -/
abbrev Observer := String

/-- One entry of the journal. -/
inductive Mark where
  | wrote (channel : Channel) (text : String)
  /-- A change of the live table, and the observers that were told, in order. -/
  | changed (event : Live.Event Unit) (told : List Observer)
  | logged (record : Log.Record)
deriving DecidableEq, Repr

/-- Everything that calls across the boundary can see or change. -/
structure World where
  table : Live.Table Unit Observer := {}
  /-- All holders ever made, earliest first. -/
  holders : List (Handle × Holder) := []
  /-- Whether each reference thing was used up. -/
  expired : List Bool := []
  objects : List ForeignObject := []
  files : File.Tree := {}
  journal : List Mark := []
deriving Repr

/-- An action on the world, which a fault may stop. -/
abbrev Act := EStateM Fault World

/-! ### The journal -/

/-- Adds an entry to the journal. -/
def Act.note (m : Mark) : Act Unit := modify fun w => { w with journal := w.journal ++ [m] }

/-- Writes text to a channel. -/
def Act.print (c : Channel) (text : String) : Act Unit := Act.note (.wrote c text)

/-- Writes a line to a channel. -/
def Act.printLine (c : Channel) (text : String) : Act Unit := Act.print c (text ++ "\n")

/-- Logs a record. -/
def Act.log (level : Log.Level) (source : Log.Source) (message : String)
    (fields : List (String × Log.Value)) : Act Unit :=
  Act.note (.logged { level, source, message, fields })

/-- Raises a failure. -/
def Act.fault {α : Type} (f : Failure) : Act α := throw (.failure f)

/-- Performs an operation of the live table and tells the observers. -/
def Act.onTable {ρ : Type}
    (op : Live.Table Unit Observer → Live.Outcome Unit Observer ρ) : Act ρ := do
  let o := op (← get).table
  modify fun w => { w with table := o.table }
  match o.event with
  | none => pure ()
  | some e => Act.note (.changed e o.table.observers)
  return o.result

namespace World

/-! ### Views -/

/-- The holder behind a handle. -/
def holder? (w : World) (h : Handle) : Option Holder := w.holders.lookup h

/-- The payload behind a handle. -/
def payload? (w : World) (h : Handle) : Option Payload := (w.holder? h).bind (·.payload)

/-- What was written to a channel, in order. -/
def written (w : World) (c : Channel) : String :=
  String.join <| w.journal.filterMap fun
    | .wrote c' text => if c' = c then some text else none
    | _ => none

/-- The changes of the live table, in order. -/
def events (w : World) : List (Live.Event Unit) :=
  w.journal.filterMap fun
    | .changed e _ => some e
    | _ => none

/-- The handle of the holder that was made after `n` others. -/
def handleAt (n : Nat) : Handle := 0xc0de5a7e0000 + 16 * n

/-- The address of the table of slots of a type: that of its first holder decides. -/
def slotsAddress (w : World) (d : Descriptor) : Nat :=
  0xca11ab1e0000 + 16 * w.holders.findIdx fun (_, x) => x.descriptor.typeName == d.typeName

end World

end Handover
