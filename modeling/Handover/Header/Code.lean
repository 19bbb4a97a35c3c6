/-
**Code as a tree of lines, and reading it piece by piece.**

Code is a tree whose leaves are lines.  A reader hands it out as bytes in pieces of any size: it
keeps the trees that are still to come and the rest of the line it is in.

Main definitions:

* `Handover.Code` — a line, or a group of codes in order;
* `Handover.Code.flat` — all bytes at once, each line with its end;
* `Handover.Code.Reader`, `Handover.Code.Reader.read` — the same bytes, piece by piece;
* `Handover.Code.render` — everything that a reader hands out.
-/

import Handover.Text.Utf8

set_option autoImplicit false

namespace Handover

/-- A piece of generated code. -/
inductive Code where
  | line (text : String)
  | group (children : List Code)

namespace Code

/-- The bytes of a line with its end. -/
def lineBytes (text : String) : Bytes := Bytes.ofString text ++ [10]

/-- All bytes of a code. -/
def flat : Code → Bytes
  | line text => lineBytes text
  | group children => children.flatMap flat

mutual

/-- The number of nodes of a code. -/
def size : Code → Nat
  | line _ => 1
  | group children => 1 + sizeAll children

/-- The number of nodes of several codes. -/
def sizeAll : List Code → Nat
  | [] => 0
  | c :: cs => size c + sizeAll cs

end

theorem sizeAll_append (cs ds : List Code) : sizeAll (cs ++ ds) = sizeAll cs + sizeAll ds := by
  induction cs with
  | nil => simp [sizeAll]
  | cons c cs ih => simp [sizeAll, ih, Nat.add_assoc]

/-- A code that is being handed out. -/
structure Reader where
  /-- What is still to come. -/
  pending : List Code
  /-- The rest of the line that was started. -/
  buffer : Bytes

namespace Reader

/-- A reader at the start of a code. -/
def ofCode (c : Code) : Reader := ⟨[c], []⟩

/-- The first line among `pending`, and what comes after it. -/
def nextLine : List Code → Option (Bytes × List Code)
  | [] => none
  | line text :: rest => some (lineBytes text, rest)
  | group children :: rest => nextLine (children ++ rest)
termination_by cs => sizeAll cs
decreasing_by
  simp only [sizeAll_append, sizeAll, size]
  omega

/-- Starts the next line if the one before is used up. -/
def advance (r : Reader) : Reader :=
  if r.buffer.isEmpty then
    match nextLine r.pending with
    | none => ⟨[], []⟩
    | some (bytes, rest) => ⟨rest, bytes⟩
  else r

/-- Hands out at most `n` bytes of the current line; `none` once everything was handed out. -/
def read (n : Nat) (r : Reader) : Option Bytes × Reader :=
  let r := r.advance
  if r.buffer.isEmpty then (none, r)
  else (some (r.buffer.take n), { r with buffer := r.buffer.drop n })

/-- What a reader still has to hand out. -/
def rest (r : Reader) : Bytes := r.buffer ++ r.pending.flatMap flat

theorem nextLine_none {cs : List Code} (h : nextLine cs = none) : cs.flatMap flat = [] := by
  fun_induction nextLine cs with
  | case1 => rfl
  | case2 => simp at h
  | case3 children rest ih => simpa [flat] using ih h

theorem nextLine_some {cs more : List Code} {bytes : Bytes} (h : nextLine cs = some (bytes, more)) :
    cs.flatMap flat = bytes ++ more.flatMap flat ∧ bytes ≠ [] := by
  fun_induction nextLine cs with
  | case1 => simp at h
  | case2 text rest =>
    simp only [Option.some.injEq, Prod.mk.injEq] at h
    obtain ⟨rfl, rfl⟩ := h
    simp [flat, lineBytes]
  | case3 children rest ih => simpa [flat] using ih h

/-- Starting a line changes nothing about what is to come. -/
@[simp] theorem rest_advance (r : Reader) : r.advance.rest = r.rest := by
  unfold advance
  split
  · next hb =>
    have hb : r.buffer = [] := by simpa using hb
    split
    · next h => simp [rest, hb, nextLine_none h]
    · next h => simp [rest, hb, (nextLine_some h).1]
  · rfl

/-- The pieces that a reader hands out, put together, when it is asked for `n + 1` bytes at a
time. -/
def drain (n : Nat) (r : Reader) : Bytes :=
  if _h : r.advance.buffer = [] then []
  else
    r.advance.buffer.take (n + 1)
      ++ drain n { r.advance with buffer := r.advance.buffer.drop (n + 1) }
termination_by r.rest.length
decreasing_by
  rw [← rest_advance r]
  have : 0 < r.advance.buffer.length := List.length_pos_iff.2 _h
  simp only [rest, List.length_append, List.length_drop]
  omega

end Reader

/-- Everything that a reader hands out. -/
def render (c : Code) : Bytes := (Reader.ofCode c).drain 511

end Code

end Handover
