/-
**The live table.**

A live table is a backend that tells its observers of every change: a handle was created, lent,
reclaimed or dropped.  An operation that changes the backend emits one event, and one that fails
emits none.  An observer is told once for every registration that it has at that moment.

Main definitions:

* `Handover.Live.EventKind`, `Handover.Live.Event` — what observers are told;
* `Handover.Live.Table` — a backend with its observers;
* `Handover.Live.Outcome` — the result of an operation, the table after it and the event it emits;
* `Handover.Live.Outcome.notices` — who is told of the event;
* `Table.insert`, `Table.remove`, `Table.lend`, `Table.reclaim`, `Table.subscribe`,
  `Table.unsubscribe` — the operations.
-/

import Handover.Live.Backend

set_option autoImplicit false

namespace Handover.Live

/-! ### Events -/

/-- What may happen to a handle. -/
inductive EventKind where
  | created
  | dropped
  | lent
  | reclaimed
deriving DecidableEq, Repr

namespace EventKind

/-- The kinds of events in the order of their numbers. -/
def all : List EventKind := [created, dropped, lent, reclaimed]

/-- The name of a kind of event. -/
def name : EventKind → String
  | created => "created"
  | dropped => "dropped"
  | lent => "lent"
  | reclaimed => "reclaimed"

/-- The kind of event with a number. -/
def ofCode? (code : Nat) : Option EventKind := all[code]?

/-- The name of the kind of event with a number. -/
def nameOfCode (code : Nat) : String := ((ofCode? code).map name).getD "unknown"

end EventKind

/-- One change of the table. -/
structure Event (α : Type) where
  kind : EventKind
  handle : Handle
  typeName : String
  value : α
deriving DecidableEq, Repr

/-! ### Tables -/

/-- The live handles and the registered observers, earliest first. -/
structure Table (α ω : Type) where
  backend : Backend α := {}
  observers : List ω := []
deriving DecidableEq, Repr

/-- The result of an operation, the table after it and the event that the observers are told. -/
structure Outcome (α ω ρ : Type) where
  result : ρ
  table : Table α ω
  event : Option (Event α) := none
deriving Repr

/-- What the observers are told, each with the event: one notice for every registration. -/
def Outcome.notices {α ω ρ : Type} (o : Outcome α ω ρ) : List (ω × Event α) :=
  o.event.toList.flatMap fun e => o.table.observers.map fun x => (x, e)

namespace Table

variable {α ω : Type}

/-- The event of a kind about a handle with an entry. -/
def eventOf (kind : EventKind) (h : Handle) (e : Entry α) : Event α where
  kind := kind
  handle := h
  typeName := e.typeName
  value := e.value

/-- The entry of a handle. -/
def get? (t : Table α ω) (h : Handle) : Option (Entry α) := t.backend.get? h

/-- Whether a handle is live. -/
def isLive (t : Table α ω) (h : Handle) : Bool := t.backend.isLive h

/-- Whether a handle is live and lent. -/
def isLent (t : Table α ω) (h : Handle) : Bool := t.backend.isLent h

/-- The number of live handles. -/
def size (t : Table α ω) : Nat := t.backend.size

/-- Registers an object. -/
def insert (t : Table α ω) (h : Handle) (typeName : String) (value : α) :
    Outcome α ω (Except Refusal Unit) :=
  match t.backend.create h typeName value with
  | (.error r, _) => { result := .error r, table := t }
  | (.ok (), b) => {
      result := .ok ()
      table := { t with backend := b }
      event := some (eventOf .created h { typeName, value }) }

/-- Forgets a handle. -/
def remove (t : Table α ω) (h : Handle) : Outcome α ω (Option (Entry α)) :=
  match t.backend.drop h with
  | (none, _) => { result := none, table := t }
  | (some e, b) => {
      result := some e
      table := { t with backend := b }
      event := some (eventOf .dropped h e) }

/-- The outcome of changing the mark of a handle. -/
def marked (t : Table α ω) (kind : EventKind) (h : Handle) : Bool × Backend α → Outcome α ω Bool
  | (false, _) => { result := false, table := t }
  | (true, b) => {
      result := true
      table := { t with backend := b }
      event := (b.get? h).map (eventOf kind h) }

/-- Marks a live handle as lent. -/
def lend (t : Table α ω) (h : Handle) : Outcome α ω Bool := t.marked .lent h (t.backend.lend h)

/-- Takes the mark of a lent handle away. -/
def reclaim (t : Table α ω) (h : Handle) : Outcome α ω Bool :=
  t.marked .reclaimed h (t.backend.reclaim h)

/-- Adds a registration of an observer. -/
def subscribe (t : Table α ω) (o : ω) : Table α ω := { t with observers := t.observers ++ [o] }

/-- Takes the earliest registration of an observer away, if it has one. -/
def unsubscribe [BEq ω] (t : Table α ω) (o : ω) : Table α ω :=
  { t with observers := t.observers.erase o }

end Table

end Handover.Live
