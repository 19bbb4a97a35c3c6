/-
**The boundary.**

What an object offers is written down twice: in an interface description, and in the slots through
which foreign code calls it.  The boundary holds both.  A script may import a slot only if the two
agree on it, and every type that crosses is a scalar.

Main definitions:

* `Handover.Boundary` — the description and the slots;
* `Handover.Boundary.imports` — the functions that a script may import.
-/

import Handover.Interface.Parser
import Handover.Interface.Primitive
import Handover.Interface.Words
import Handover.Slot
import Handover.Wasm.Program

set_option autoImplicit false

namespace Handover

/-- The interface description that is used unless another one is given. -/
def standardSource : String :=
  "binding = \"sides\"\n\nThing = interface +c \x7b\n\tnumber(): i32;\n\x7d\n"

/-- The interface description of an object and its slots. -/
structure Boundary where
  source : String := standardSource
  slots : List Slot := Slot.standard
deriving Repr

namespace Boundary

/-- The interface that the boundary is about. -/
def interfaceName : String := "Thing"

/-- The destructor, which no description lists. -/
def destructor : Method := { name := "destroy", returns := "void", params := [] }

/-- The function that a script may import for a method. -/
def importOf (slots : List Slot) (m : Method) : Except Failure ImportedFunction := do
  let name := (Words.ofCamel m.name).snake
  let some slot := Slot.find? slots name | throw (.notFound .host "slot" name)
  let some params := m.paramTypes?
    | throw (.unsupported .host ("parameter types of " ++ m.name))
  let some results := m.resultTypes? | throw (.unsupported .host ("return type of " ++ m.name))
  if params ≠ slot.params ∨ results ≠ slot.results then
    throw (.typeMismatch .host (WitType.signature slot.params slot.results)
      (WitType.signature params results))
  let some coreParams := WitType.flattenAll? params
    | throw (.unsupported .host ("non-scalar parameters of " ++ m.name))
  let some coreResults := WitType.flattenAll? results
    | throw (.unsupported .host ("non-scalar results of " ++ m.name))
  return {
    module := thingModule, name
    type := { params := .i64 :: coreParams, results := coreResults } }

/-- The functions that a script may import, the destructor first. -/
def imports (b : Boundary) : Except Failure (List ImportedFunction) := do
  let description ← (Description.parse b.source).mapError SyntaxError.failure
  let some interface := description.interface? interfaceName
    | throw (.notFound .host "interface" interfaceName)
  (destructor :: interface.members).mapM (importOf b.slots)

end Boundary

end Handover
