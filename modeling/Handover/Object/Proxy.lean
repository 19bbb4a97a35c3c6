/-
**Proxies and deeds.**

A proxy stands for the object behind a handle on this side of the boundary.  Dropping it, or
turning it back into a handle, uses it up: afterwards it is poisoned and has no slots.  A deed
carries the ownership of a handle across one call and can be taken once.

Main definitions:

* `Handover.Proxy` — a proxy, with the slots that it found when it was made;
* `Proxy.ofHandle`, `Proxy.lookup`, `Proxy.lookupLent` — making one;
* `Proxy.number`, `Proxy.drop`, `Proxy.intoHandle` — using one;
* `Handover.Deed`, `Handover.Deed.take` — ownership of a handle.
-/

import Handover.Object.Holder

set_option autoImplicit false

namespace Handover

/-! ### Proxies -/

/-- What a proxy knows: the slots that it found, and the handle.  A poisoned proxy knows nothing. -/
structure Proxy where
  descriptor : Option Descriptor := none
  handle : Handle := 0
deriving DecidableEq, Repr

namespace Proxy

/-- A proxy that was used up. -/
def poisoned : Proxy := {}

/-- The proxy of a handle that is known to have been made by `wrap`. -/
def ofHandle (h : Handle) : Act Proxy := do
  if h = 0 then Act.fault (.invalidHandle .dispatch 0)
  let holder := (← get).holder? h
  return { descriptor := (holder.filter (·.payload.isSome)).map (·.descriptor), handle := h }

/-- The proxy of a handle that must be live. -/
def lookup (h : Handle) : Act (Except Failure Proxy) := do
  match (← get).refusal? h with
  | some f => return .error f
  | none => return .ok (← ofHandle h)

/-- The proxy of a handle that must be live and lent. -/
def lookupLent (h : Handle) : Act (Except Failure Proxy) := do
  match (← get).refusalLent? h with
  | some f => return .error f
  | none => return .ok (← ofHandle h)

/-- Asks for the number. -/
def number (p : Proxy) : Act Int32 :=
  if p.descriptor.isNone then throw .emptySlot else numberSlot p.handle

/-- Destroys the object; the proxy is poisoned before that. -/
def drop (p : Proxy) : Act Unit :=
  if p.descriptor.isNone then throw .emptySlot else destroySlot p.handle

/-- What is left of the proxy after `drop`: a proxy without slots is not even touched. -/
def afterDrop (p : Proxy) : Proxy := if p.descriptor.isNone then p else poisoned

/-- Turns the proxy back into a handle, which is lent from then on.  The proxy is poisoned. -/
def intoHandle (p : Proxy) : Act Handle := do
  let _ ← lend p.handle
  return p.handle

end Proxy

/-- Destroys the object behind a handle. -/
def dropHandle (h : Handle) : Act Unit := do (← Proxy.ofHandle h).drop

/-! ### Deeds -/

/-- Ownership of a handle, to be taken once.  A deed that was taken holds handle zero. -/
structure Deed where
  handle : Handle := 0
deriving DecidableEq, Repr

namespace Deed

/-- Whether the deed still holds a handle. -/
def isValid (d : Deed) : Bool := d.handle ≠ 0

/-- A deed that was taken. -/
def taken : Deed := {}

/-- Takes the handle out of a deed. -/
def take (d : Deed) : Act Handle :=
  if d.isValid then return d.handle
  else Act.fault (.protocol .boundary 0 "handle already taken")

end Deed

end Handover
