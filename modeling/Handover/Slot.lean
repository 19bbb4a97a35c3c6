/-
**Slots.**

A slot is one entry of the table through which foreign code calls an object.  Its receiver is
implicit.  The destructor comes first, then the operations.

Main definitions: `Handover.Slot`, `Handover.Slot.standard`, `Handover.Slot.find?`.
-/

import Handover.Wit

set_option autoImplicit false

namespace Handover

/-- One entry of the table, as foreign code sees it. -/
structure Slot where
  name : String
  params : List WitType := []
  results : List WitType := []
deriving DecidableEq, Repr

namespace Slot

/-- The slots of an object, in layout order. -/
def standard : List Slot :=
  [{ name := "destroy" }, { name := "number", results := [.s32] }]

/-- The first slot of a name. -/
def find? (slots : List Slot) (name : String) : Option Slot := slots.find? (·.name == name)

end Slot

/-- The module under which a script imports the slots. -/
def thingModule : String := "sides:thing"

/-- The module under which a script imports the log. -/
def logModule : String := "sides:log"

end Handover
