/-
**The terminal.**

In the terminal a reference thing is driven by hand: a list of actions makes a new thing, calls its
slots, or hands it to the script.  While the script runs no key is heard.

Main definitions:

* `Handover.Terminal.Model` — what the terminal shows and holds;
* `Handover.Terminal.Message`, `Handover.Terminal.Reply` — what it is told and what it asks for;
* `Model.start`, `Model.updateBy`, `Model.close` — its life, with any editor of its text field;
* `Model.update` — the terminal with the editor of a line;
* `Model.view` — the lines of the list of actions.
-/

import Handover.Entry
import Handover.Terminal.Field

set_option autoImplicit false

namespace Handover.Terminal

/-! ### Models -/

/-- An action of the list. -/
inductive Action where
  /-- Make a new thing. -/
  | new
  /-- Call a slot. -/
  | slot (f : ImportedFunction)
  /-- Hand the thing to the script. -/
  | main
deriving DecidableEq, Repr

/-- The name of an action. -/
def Action.name : Action → String
  | new => "new"
  | slot f => f.name
  | main => "main"

/-- The line of an action. -/
def Action.line : Action → String
  | new => "new  wrap a new reference Thing"
  | slot f =>
    let names (ts : List ValType) := ", ".intercalate (ts.map ValType.signatureName)
    f.name ++ "(" ++ names f.type.params.tail ++ ")"
      ++ (if f.type.results.isEmpty then "" else " -> " ++ names f.type.results)
  | main => "main  hand the Thing to the script"

/-- What the terminal waits for. -/
inductive State where
  | select
  | number
  | running
deriving DecidableEq, Repr

/-- What the terminal shows and holds. -/
structure Model where
  entry : Entry
  /-- The number that is offered for a new thing. -/
  number : Int32
  actions : List Action
  field : Field := {}
  thing : Option Handle := none
  error : Option Failure := none
  selected : Nat := 0
  state : State := .select
deriving Repr

/-- A key that is not text. -/
inductive Key where
  | up
  | down
  | enter
  | escape
  | interrupt
  | pageUp
  | pageDown
  | edit (key : EditKey)
deriving DecidableEq, Repr

/-- What the terminal is told. -/
inductive Message where
  | key (k : Key)
  | typed (text : String)
  /-- The run that was asked for is over. -/
  | finished (outcome : Except Failure Unit)
  | tick
  | other

/-- What the terminal asks for. -/
inductive Reply where
  | nothing
  | quit
  /-- Hand an owned thing to the entry point. -/
  | start (deed : Deed)
deriving DecidableEq, Repr

namespace Model

/-- The observer that records the trace of a terminal. -/
def tracer : Observer := "terminal"

/-! ### Steps -/

/-- Gives up the thing that is held and wraps a new one. -/
def renew (m : Model) (number : Int32) : Act Model := do
  match m.thing with
  | some h => dropHandle h
  | none => pure ()
  let h ← wrapReference { number, diagnostics := some m.entry.output }
  Act.printLine m.entry.output ("wrapped Thing " ++ Text.address h)
  return { m with thing := some h }

/-- Starts a terminal with a first thing. -/
def start (entry : Entry) (number : Int32) : Act (Except Failure Model) := do
  match entry.boundary.imports with
  | .error f => return .error f
  | .ok imports =>
    modify fun w => { w with table := w.table.subscribe tracer }
    let actions := .new :: imports.map .slot ++ [.main]
    let entry := { entry with errors := entry.output }
    return .ok (← renew { entry, number, actions } number)

/-- The model with a failure. -/
def failed (m : Model) (text : String) : Model := { m with error := some (.plain text) }

/-- Opens the field for the number of a new thing. -/
def askNumber (m : Model) (editor : Editor) : Model :=
  { m with state := .number, field := editor.setText m.field (toString m.number.toInt).toList }

/-- Hands the thing that is held to the script. -/
def hand (m : Model) : Model × Reply :=
  match m.thing with
  | none => (m.failed "no Thing, press enter on new first", .nothing)
  | some h => ({ m with thing := none, state := .running }, .start ⟨h⟩)

/-- Prints the number of the thing that is held. -/
def showNumber (m : Model) : Act Model := do
  match m.thing with
  | none => return m.failed "no Thing"
  | some h =>
    let n ← (← Proxy.ofHandle h).number
    Act.printLine m.entry.output ("number() = " ++ toString n.toInt)
    return m

/-- Destroys the thing that is held. -/
def destroy (m : Model) : Act Model := do
  match m.thing with
  | none => return m.failed "no Thing"
  | some h =>
    dropHandle h
    return { m with thing := none }

/-- Performs the selected action.  What it does depends on its name alone, so a slot that is named
like another action does the same; a slot of any other name does nothing. -/
def call (m : Model) (editor : Editor) : Act (Model × Reply) := do
  let m : Model := { m with error := none }
  match m.actions[m.selected]?.map Action.name with
  | some "new" => return (m.askNumber editor, .nothing)
  | some "main" => return m.hand
  | some "number" => return (← m.showNumber, .nothing)
  | some "destroy" => return (← m.destroy, .nothing)
  | _ => return (m, .nothing)

/-- Takes the number over that was typed. -/
def accept (m : Model) : Act Model := do
  match integer m.field.text with
  | .error e => return m.failed e
  | .ok n => return { ← m.renew n with state := .select }

/-- Moves the selection up. -/
def moveUp (m : Model) : Model :=
  if m.state = .select then { m with selected := m.selected - 1 } else m

/-- Moves the selection down. -/
def moveDown (m : Model) : Model :=
  if m.state = .select ∧ m.selected + 1 < m.actions.length then
    { m with selected := m.selected + 1 }
  else m

/-- Passes something on to the field, if it is open. -/
def edit (m : Model) (editor : Editor) (input : Input) : Act Model := do
  if m.state = .number then
    match editor.receive m.field input with
    | .ok field => return { m with field }
    | .error e => throw e
  else return m

/-- Reacts to a key. -/
def press (m : Model) (editor : Editor) : Key → Act (Model × Reply)
  | .interrupt => return (m, .quit)
  | .up => return (m.moveUp, .nothing)
  | .down => return (m.moveDown, .nothing)
  | .pageUp | .pageDown => return (m, .nothing)
  | .escape => return ({ m with state := .select }, .nothing)
  | .enter =>
    match m.state with
    | .select => m.call editor
    | .number => do return (← m.accept, .nothing)
    | .running => return (m, .nothing)
  | .edit k => do return (← m.edit editor (.key k), .nothing)

/-- Reacts to typed text: three letters are commands, one of them only outside the field. -/
def typed (m : Model) (editor : Editor) (text : String) : Act (Model × Reply) := do
  match text with
  | "q" =>
    if m.state = .number then return (← m.edit editor (.text text), .nothing)
    else return (m, .quit)
  | "k" => return (m.moveUp, .nothing)
  | "j" => return (m.moveDown, .nothing)
  | _ => return (← m.edit editor (.text text), .nothing)

/-- Reacts to a message, with an editor of the text field. -/
def updateBy (m : Model) (editor : Editor) : Message → Act (Model × Reply)
  | .key k => if m.state = .running then return (m, .nothing) else m.press editor k
  | .typed text => if m.state = .running then return (m, .nothing) else m.typed editor text
  | .finished outcome =>
    let error := match outcome with
      | .ok () => none
      | .error f => some f
    return ({ m with error, state := .select }, .nothing)
  | .tick | .other => return (m, .nothing)

/-- Reacts to a message. -/
def update (m : Model) (msg : Message) : Act (Model × Reply) := m.updateBy .line msg

/-- Gives up what is held. -/
def close (m : Model) : Act Model := do
  match m.thing with
  | some h => dropHandle h
  | none => pure ()
  modify fun w => { w with table := w.table.unsubscribe tracer }
  return { m with thing := none }

/-! ### View -/

/-- The title, an empty line and the list of actions. -/
def view (m : Model) : List String :=
  let thing := match m.thing with
    | some h => " Thing " ++ Text.address h
    | none => " no Thing"
  (" sides " ++ thing) :: "" :: m.actions.mapIdx fun i a =>
    (if i = m.selected then "> " else "  ") ++ a.line

end Model

end Handover.Terminal
