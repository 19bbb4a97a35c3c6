/-
**Objects across the C boundary.**

C code knows an object by a pointer.  Behind it is either an object that C built, or a shell: a
small object that holds a handle and passes every call on.  A shell that comes back is unwrapped to
the handle that went in; an object of C's own is put behind a new handle.  Either way the entry
point gets ownership, and the object is destroyed once.

Main definitions:

* `Handover.Pointer` — an object as C knows it;
* `Handover.shell`, `Handover.adopt` — handing an object to C, and taking one over;
* `Pointer.number`, `Pointer.destroy` — the slots as C calls them;
* `Handover.runShell`, `Handover.runForeign`, `Handover.foreignMain` — calls of the entry point.
-/

import Handover.Entry
import Handover.Settings

set_option autoImplicit false

namespace Handover

/-- An object as C knows it. -/
inductive Pointer where
  /-- A shell around a handle. -/
  | shell (h : Handle)
  /-- An object that C built. -/
  | object (n : Nat)
deriving DecidableEq, Repr

/-! ### Slots -/

/-- The proxy of a handle that C passed, which must be live. -/
def checked (h : Handle) (slot : String) : Act Proxy := do
  match ← Proxy.lookup h with
  | .ok p => return p
  | .error f =>
    Act.log .error .entry "C passed a bad handle"
      [("slot", .text slot), ("handle", .number h), ("error", .text f.message)]
    Act.fault f

/-- The number slot of a shell. -/
def shellNumber (h : Handle) : Act Int32 := do (← checked h "number").number

/-- The destructor of a shell. -/
def shellDestroy (h : Handle) : Act Unit := do (← checked h "destroy").drop

namespace Pointer

/-- Asks an object for its number. -/
def number : Pointer → Act Int32
  | shell h => shellNumber h
  | object n => do return ((← get).objects[n]?.map (·.number)).getD 0

/-- Destroys an object. -/
def destroy : Pointer → Act Unit
  | shell h => shellDestroy h
  | object n => (DropStep.release n).run 0 0

end Pointer

/-! ### Ownership -/

/-- The type of objects that C built. -/
def Descriptor.foreign : Descriptor := { typeName := "*cabi.foreignThing" }

/-- Builds an object in C. -/
def newObject (number : Int32) : Act Nat := do
  let n := (← get).objects.length
  modify fun w => { w with objects := w.objects ++ [{ number }] }
  return n

/-- How often an object of C was destroyed. -/
def World.timesDestroyed (w : World) (n : Nat) : Nat := (w.objects[n]?.map (·.destroyed)).getD 0

/-- Hands an owned object to C. -/
def shell (d : Deed) : Act Pointer := do return .shell (← d.take)

/-- Takes over an object from C. -/
def adopt : Pointer → Act Deed
  | .shell h => return ⟨h⟩
  | .object n => do
    let number ← (Pointer.object n).number
    return ⟨← wrap .foreign { answer := .fixed number, onDrop := [.release n] }⟩

/-! ### Calls -/

/-- Says on C's side which number an object has. -/
def announce (e : Entry) (p : Pointer) : Act Unit := do
  Act.printLine e.output ("C side " ++ toString (← p.number).toInt)

/-- Passes an owned object through C to the entry point. -/
def runShell (e : Entry) (d : Deed) : Act (Except Failure Unit) := do
  let p ← shell d
  announce e p
  e.main (← adopt p)

/-- Passes an object of C to the entry point; says also how often it was destroyed. -/
def runForeign (e : Entry) (number : Int32) : Act (Nat × Except Failure Unit) := do
  let n ← newObject number
  announce e (.object n)
  let outcome ← e.main (← adopt (.object n))
  return ((← get).timesDestroyed n, outcome)

/-- The entry point as C calls it, set up by the file of settings that a variable names.  If the
settings are refused the object is destroyed all the same. -/
def foreignMain (boundary : Boundary) (file : String) (p : Pointer) : Act Unit := do
  let d ← adopt p
  match Settings.ofVariable (← get).files file with
  | .error f =>
    Act.printLine .console ("error " ++ f.message)
    dropHandle (← d.take)
  | .ok s =>
    let entry : Entry := {
      boundary, script := s.script, output := .console, errors := .console
      allowance := { pages := s.memoryLimitPages.toNat } }
    let _ ← entry.main d

/-- A new reference thing in a shell, with the number of the settings if they can be read. -/
def newShell (file : String) : Act Pointer := do
  let number := match Settings.ofVariable (← get).files file with
    | .ok s => s.number
    | .error _ => defaultNumber
  let h ← wrapReference { number, diagnostics := some .console }
  shell ⟨h⟩

end Handover
