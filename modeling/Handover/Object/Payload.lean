/-
**Payloads.**

A payload is the value behind a handle.  It answers the question for its number, and some payloads
do something when they are dropped.  Both are described by data, so that a payload can be stored,
compared and run.

Main definitions:

* `Handover.Descriptor` — the type of a payload;
* `Handover.Answer` — how a payload answers for its number;
* `Handover.DropStep` — one thing that a payload does when it is dropped;
* `Handover.Payload` — a payload;
* `Handover.Payload.reference` — the payload used by default.
-/

import Handover.Text.Hex

set_option autoImplicit false

namespace Handover

/-- Where text is written to. -/
inductive Channel where
  /-- The output of the call. -/
  | out
  /-- The error output of the call. -/
  | err
  /-- An output of the script's own. -/
  | side
  /-- The output and error output of the process. -/
  | console
deriving DecidableEq, Repr

/-- The type of a payload.  All payloads of one type share their slots. -/
structure Descriptor where
  typeName : String
  /-- The number of a payload that was cleared, if such a payload can still be asked. -/
  cleared : Option Int32 := none
deriving DecidableEq, Repr

/-- How a payload answers for its number. -/
inductive Answer where
  | fixed (n : Int32)
  /-- The start, plus one for every earlier answer. -/
  | counting (start : Int32)
  /-- No answer: the question raises a message. -/
  | failing (text : String)
deriving DecidableEq, Repr

/-- A question about the handle that is being destroyed. -/
inductive Probe where
  | lookup
  | lent
  | live
deriving DecidableEq, Repr

/-- One thing that a payload does when it is dropped. -/
inductive DropStep where
  /-- Writes a line. -/
  | say (channel : Channel) (text : String)
  /-- Writes a line that ends in the number of answers given. -/
  | tally (channel : Channel) (label : String)
  /-- Raises a message. -/
  | fail (text : String)
  /-- Writes a line about the handle that is being destroyed. -/
  | probe (channel : Channel) (question : Probe)
  /-- Uses up a thing that must not be used up twice. -/
  | expire (thing : Nat)
  /-- Destroys a foreign object. -/
  | release (object : Nat)
deriving DecidableEq, Repr

/-- The value behind a handle. -/
structure Payload where
  answer : Answer
  onDrop : List DropStep := []
  /-- The number of answers given so far. -/
  calls : Nat := 0
deriving DecidableEq, Repr

/-- The number of a reference thing unless another one is chosen. -/
def defaultNumber : Int32 := 42

/-- A reference thing: a number and what happens when the thing is dropped.  It can be dropped
only once. -/
structure Reference where
  number : Int32 := defaultNumber
  /-- Where the thing says that it is going away. -/
  diagnostics : Option Channel := none
  hooks : List DropStep := []
deriving DecidableEq, Repr

/-- What a reference thing says when it is dropped. -/
def Reference.farewell : String := "GOING AWAY!"

/-- The payload of the reference thing with an identity. -/
def Payload.reference (r : Reference) (thing : Nat) : Payload where
  answer := .fixed r.number
  onDrop := .expire thing
    :: (r.diagnostics.map fun c => DropStep.say c Reference.farewell).toList ++ r.hooks

/-- The type of reference things. -/
def Descriptor.reference : Descriptor := { typeName := "*reference.Thing" }

end Handover
