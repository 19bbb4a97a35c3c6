/-
**The backend of the live table.**

A handle names a live object.  The backend keeps, for every live handle, the type under which the
object was registered, the object, and whether the handle is lent to foreign code at the moment.
Handle zero names nothing and is never live.  An operation that reports failure changes nothing.

Main definitions:

* `Handover.Handle` — the name of an object;
* `Handover.Live.Entry`, `Handover.Live.Backend` — what is known of the live handles;
* `Backend.create`, `Backend.drop`, `Backend.lend`, `Backend.reclaim` — the operations;
* `Backend.get?` — the view on which the operations are judged.
-/

set_option autoImplicit false

namespace Handover

/-- The name by which foreign code knows an object. -/
abbrev Handle := Nat

namespace Live

/-- What is known of a live handle. -/
structure Entry (α : Type) where
  typeName : String
  value : α
  /-- Whether foreign code holds the handle at the moment. -/
  isLent : Bool := false
deriving DecidableEq, Repr

/-- Why a handle was not registered. -/
inductive Refusal where
  | reserved
  | registered
deriving DecidableEq, Repr

/-- The wording of a refusal. -/
def Refusal.message : Refusal → String
  | reserved => "handle 0 is reserved"
  | registered => "handle already registered"

/-- The live handles, each with its entry. -/
structure Backend (α : Type) where
  entries : List (Handle × Entry α) := []
deriving DecidableEq, Repr

namespace Backend

variable {α : Type}

/-! ### Views -/

/-- The entry of a handle. -/
def get? (b : Backend α) (h : Handle) : Option (Entry α) := b.entries.lookup h

/-- Whether a handle is live. -/
def isLive (b : Backend α) (h : Handle) : Bool := (b.get? h).isSome

/-- Whether a handle is live and lent. -/
def isLent (b : Backend α) (h : Handle) : Bool := (b.get? h).any Entry.isLent

/-- The number of live handles. -/
def size (b : Backend α) : Nat := b.entries.length

/-! ### Operations -/

/-- Puts a binding before the first one of a larger handle. -/
def insertSorted (h : Handle) (e : Entry α) : List (Handle × Entry α) → List (Handle × Entry α)
  | [] => [(h, e)]
  | (k, x) :: rest => if h < k then (h, e) :: (k, x) :: rest else (k, x) :: insertSorted h e rest

/-- Changes the entry of a handle. -/
def modify (b : Backend α) (h : Handle) (f : Entry α → Entry α) : Backend α where
  entries := b.entries.map fun (k, e) => (k, if k = h then f e else e)

/-- Registers an object under a handle that is not in use. -/
def create (b : Backend α) (h : Handle) (typeName : String) (value : α) :
    Except Refusal Unit × Backend α :=
  if h = 0 then (.error .reserved, b)
  else if b.isLive h then (.error .registered, b)
  else (.ok (), { entries := insertSorted h { typeName, value } b.entries })

/-- Forgets a handle and gives the entry that it had. -/
def drop (b : Backend α) (h : Handle) : Option (Entry α) × Backend α :=
  match b.get? h with
  | none => (none, b)
  | some e => (some e, { entries := b.entries.filter (·.1 ≠ h) })

/-- Marks a live handle as lent; it must not be lent already. -/
def lend (b : Backend α) (h : Handle) : Bool × Backend α :=
  if b.isLive h && !b.isLent h then (true, b.modify h fun e => { e with isLent := true })
  else (false, b)

/-- Takes the mark of a lent handle away. -/
def reclaim (b : Backend α) (h : Handle) : Bool × Backend α :=
  if b.isLent h then (true, b.modify h fun e => { e with isLent := false }) else (false, b)

end Backend

end Live

end Handover
