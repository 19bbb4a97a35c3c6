/-
**Holders.**

Wrapping a payload makes a holder, and the holder's place is the handle.  A handle has two slots:
one answers for the number, the other destroys.  Destroying takes the payload out of the holder
first, then drops it, and releases the handle last.  So a payload whose drop is stopped by a fault
leaves its handle live, with nothing behind it.

Main definitions:

* `Handover.wrap` — puts a payload behind a new handle;
* `Handover.dropPayload` — drops a payload, and counts the drop;
* `Handover.numberSlot`, `Handover.destroySlot` — the slots;
* `Handover.World.refusal?`, `Handover.World.refusalLent?` — why a handle may not be used;
* `Handover.lend`, `Handover.reclaim` — handing a handle out and taking it back.
-/

import Handover.Object.World

set_option autoImplicit false

namespace Handover

/-! ### Checks -/

namespace World

/-- Whether a handle is live. -/
def isLive (w : World) (h : Handle) : Bool := w.table.isLive h

/-- Whether a handle is live and lent. -/
def isLent (w : World) (h : Handle) : Bool := w.table.isLent h

/-- The number of live handles. -/
def liveCount (w : World) : Nat := w.table.size

/-- The type under which a handle is registered. -/
def typeName? (w : World) (h : Handle) : Option String := (w.table.get? h).map (·.typeName)

/-- Why a handle may not be used: it must be live, with a payload behind it. -/
def refusal? (w : World) (h : Handle) : Option Failure :=
  if !w.isLive h then some (.invalidHandle .dispatch h)
  else if (w.payload? h).isNone then some (.protocol .dispatch h "holder already destroyed")
  else none

/-- Why a handle may not be used by foreign code: it must moreover be lent. -/
def refusalLent? (w : World) (h : Handle) : Option Failure :=
  match w.refusal? h with
  | some f => some f
  | none => if w.isLent h then none else some (.protocol .dispatch h "handle was not lent")

end World

/-- Changes the holder behind a handle. -/
def modifyHolder (h : Handle) (f : Holder → Holder) : Act Unit :=
  modify fun w => { w with holders := w.holders.map fun (k, x) => (k, if k = h then f x else x) }

/-! ### Wrapping -/

/-- Puts a payload behind a new handle. -/
def wrap (d : Descriptor) (p : Payload) : Act Handle := do
  let h := World.handleAt (← get).holders.length
  modify fun w => { w with holders := w.holders ++ [(h, { descriptor := d, payload := some p })] }
  match ← Act.onTable (·.insert h d.typeName ()) with
  | .error r =>
    let report : Report := {
      phase := .wrap, kind := .protocol, handle := h, hostType := d.typeName
      detail := "register holder" }
    Act.fault (.caused report (.plain r.message))
  | .ok () =>
    Act.log .debug .bridge "wrapped" [("handle", .number h), ("type", .text d.typeName)]
    return h

/-- Makes a reference thing; the result is its identity. -/
def newThing : Act Nat := do
  let n := (← get).expired.length
  modify fun w => { w with expired := w.expired ++ [false] }
  return n

/-- Puts a new reference thing behind a new handle. -/
def wrapReference (r : Reference) : Act Handle := do
  wrap .reference (.reference r (← newThing))

/-! ### Slots -/

/-- The number that a payload answers. -/
def Payload.reply (p : Payload) : Except Fault Int32 :=
  match p.answer with
  | .fixed n => .ok n
  | .counting start => .ok (start + Int32.ofNat p.calls)
  | .failing text => .error (.message text)

/-- Asks the payload behind a handle for its number. -/
def numberSlot (h : Handle) : Act Int32 := do
  match (← get).holder? h with
  | none => throw .emptySlot
  | some { descriptor := d, payload := none, .. } =>
    match d.cleared with
    | none => throw .emptySlot
    | some n => return n
  | some { payload := some p, .. } =>
    match p.reply with
    | .error e => throw e
    | .ok n =>
      modifyHolder h fun x => { x with payload := some { p with calls := p.calls + 1 } }
      return n

/-- The text of a refusal, if there is one. -/
def refusalText : Option Failure → String
  | none => "<nil>"
  | some f => f.message

/-- The answer to a question about a handle. -/
def Probe.reply (w : World) (h : Handle) : Probe → String
  | lookup => "lookup " ++ refusalText (w.refusal? h)
  | lent => "lent " ++ toString (w.isLent h) ++ " " ++ refusalText (w.refusalLent? h)
  | live => "live " ++ toString (w.isLive h)

/-- Performs one step of dropping a payload that gave `calls` answers. -/
def DropStep.run (h : Handle) (calls : Nat) : DropStep → Act Unit
  | say c text => Act.printLine c text
  | tally c label => Act.printLine c (label ++ toString calls)
  | fail text => throw (.message text)
  | probe c q => do Act.printLine c (q.reply (← get) h)
  | expire thing => do
    if (← get).expired[thing]?.getD false then throw (.message "reference: Thing dropped twice")
    modify fun w => { w with expired := w.expired.set thing true }
  | release object =>
    modify fun w => { w with objects := w.objects.modify object fun o =>
      { o with destroyed := o.destroyed + 1 } }

/-- Performs the steps of dropping a payload, in order. -/
def dropAll (h : Handle) (calls : Nat) : List DropStep → Act Unit
  | [] => return
  | step :: steps => do
    step.run h calls
    dropAll h calls steps

/-- Drops a payload of the holder behind a handle: the drop is counted, and its steps are performed.
Counting comes first, so that a drop which a fault stops is counted too. -/
def dropPayload (h : Handle) (p : Payload) : Act Unit := do
  modifyHolder h fun x => { x with drops := x.drops + 1 }
  dropAll h p.calls p.onDrop

/-- Destroys the holder behind a handle. -/
def destroySlot (h : Handle) : Act Unit := do
  match (← get).holder? h with
  | none => throw .emptySlot
  | some { payload := none, .. } => Act.fault (.protocol .dispatch h "holder destroyed twice")
  | some { payload := some p, .. } =>
    modifyHolder h fun x => { x with payload := none }
    dropPayload h p
    let _ ← Act.onTable (·.remove h)
    Act.log .debug .bridge "holder destroyed" [("handle", .number h)]

/-! ### Lending -/

/-- Hands a handle out to foreign code. -/
def lend (h : Handle) : Act Bool := Act.onTable (·.lend h)

/-- Takes a handle back from foreign code; says whether it is still live. -/
def reclaim (h : Handle) : Act Bool := do
  if !(← get).isLive h then return false
  let _ ← Act.onTable (·.reclaim h)
  return true

end Handover
