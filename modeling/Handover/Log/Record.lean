/-
**Log records.**

A log record says what happened, how much it matters, which part of the program says so, and which
values it is about.

Main definitions: `Handover.Log.Level`, `Handover.Log.Value`, `Handover.Log.Record`.
-/

set_option autoImplicit false

namespace Handover.Log

/-- How much a record matters. -/
inductive Level where
  | debug
  | info
  | warn
  | error
deriving DecidableEq, Repr

namespace Level

/-- The name of a level. -/
def name : Level → String
  | debug => "debug"
  | info => "info"
  | warn => "warn"
  | error => "error"

/-- The level of a name. -/
def ofName? (name : String) : Option Level :=
  [debug, info, warn, error].find? (·.name == name)

/-- The rank of a level. -/
def rank : Level → Nat
  | debug => 0
  | info => 1
  | warn => 2
  | error => 3

/-- Whether records of level `l` are kept by a log whose threshold is `threshold`. -/
def passes (threshold l : Level) : Bool := threshold.rank ≤ l.rank

end Level

/-- The part of the program that a record comes from. -/
inductive Source where
  | bridge
  | runtime
  | entry
deriving DecidableEq, Repr

/-- The name of a source. -/
def Source.name : Source → String
  | bridge => "bridge"
  | runtime => "runtime"
  | entry => "entry"

/-- A value that a record is about. -/
inductive Value where
  | text (s : String)
  | number (n : Int)
  /-- A value written as it stands. -/
  | bare (s : String)
  /-- The identity of the call that is running. -/
  | callId
deriving DecidableEq, Repr

/-- One line of the log. -/
structure Record where
  level : Level
  source : Source
  message : String
  fields : List (String × Value) := []
deriving DecidableEq, Repr

end Handover.Log
