/-
**Reading code in pieces.**

A reader hands out the bytes of a code in pieces.  It opens groups as it comes to them, and keeps
what is left of a line for the next piece.  The invariant is about what is still to come: the rest
of the line and the bytes of all trees that were not opened yet.  A read takes its piece from the
front of that, and nothing else changes it.  So the pieces are always those of the whole text, and
the sizes that were asked for only say where it is cut.

Main definitions:

* `Handover.Code.Reader.answers`, `Handover.Code.Reader.after` — what several reads answer, and the
  reader behind them;
* `Handover.Code.Reader.delivered` — the bytes in some answers.

Main results:

* `Handover.Code.Reader.getD_read_append_rest` — a read takes its piece from the front of what is to
  come;
* `Handover.Code.Reader.delivered_append_rest` — several reads together;
* `Handover.Code.render_eq_flat` — all pieces are all bytes;
* `Handover.Code.pieces_of_any_sizes` — **the pieces do not depend on the sizes**.
-/

import Handover.Header.Code
import Mathlib.Data.List.Basic

set_option autoImplicit false

namespace Handover.Code

namespace Reader

/-! ### Several reads -/

/-- What reads of the given sizes answer, one after the other. -/
def answers (r : Reader) : List Nat → List (Option Bytes)
  | [] => []
  | n :: sizes => (r.read n).1 :: (r.read n).2.answers sizes

/-- The reader behind reads of the given sizes. -/
def after (r : Reader) : List Nat → Reader
  | [] => r
  | n :: sizes => (r.read n).2.after sizes

/-- The bytes in some answers, in order. -/
def delivered (as : List (Option Bytes)) : Bytes := as.flatMap (·.getD [])

theorem delivered_cons (a : Option Bytes) (as : List (Option Bytes)) :
    delivered (a :: as) = a.getD [] ++ delivered as := List.flatMap_cons

/-! ### One read -/

variable {r : Reader}

/-- A reader has a line in its buffer unless nothing is to come. -/
theorem buffer_advance_eq_nil_iff (r : Reader) : r.advance.buffer = [] ↔ r.rest = [] := by
  constructor
  · intro hbuffer
    rw [← rest_advance r]
    unfold advance at hbuffer ⊢
    split at hbuffer
    · next hempty =>
      rw [if_pos hempty]
      split at hbuffer
      · rfl
      · next hsome => exact absurd hbuffer (nextLine_some hsome).2
    · next hempty => exact absurd hbuffer (by simpa using hempty)
  · intro hrest
    rw [← rest_advance r] at hrest
    exact (List.append_eq_nil_iff.1 hrest).1

/-- Nothing is handed out once nothing is to come. -/
theorem read_of_rest_eq_nil (n : Nat) (hr : r.rest = []) : r.read n = (none, r.advance) := by
  have hbuffer := (buffer_advance_eq_nil_iff r).2 hr
  simp [read, hbuffer]

/-- Before that, a piece of the line is. -/
theorem read_of_rest_ne_nil (n : Nat) (hr : r.rest ≠ []) :
    r.read n = (some (r.advance.buffer.take n),
      { r.advance with buffer := r.advance.buffer.drop n }) := by
  have hbuffer : r.advance.buffer ≠ [] := mt (buffer_advance_eq_nil_iff r).1 hr
  simp [read, hbuffer]

theorem read_eq_none_iff (r : Reader) (n : Nat) : (r.read n).1 = none ↔ r.rest = [] := by
  constructor
  · intro hnone
    by_contra hr
    rw [read_of_rest_ne_nil n hr] at hnone
    cases hnone
  · intro hr
    rw [read_of_rest_eq_nil n hr]

/-- **A read takes its piece from the front of what is to come.** -/
theorem getD_read_append_rest (r : Reader) (n : Nat) :
    (r.read n).1.getD [] ++ (r.read n).2.rest = r.rest := by
  by_cases hr : r.rest = []
  · rw [read_of_rest_eq_nil n hr, rest_advance]
    rfl
  · rw [read_of_rest_ne_nil n hr]
    calc r.advance.buffer.take n ++ (r.advance.buffer.drop n ++ r.advance.pending.flatMap flat)
        = r.advance.buffer ++ r.advance.pending.flatMap flat := by
          rw [← List.append_assoc, List.take_append_drop]
      _ = r.rest := rest_advance r

/-- A piece has at most the size that was asked for. -/
theorem length_le_of_read {n : Nat} {piece : Bytes} (h : (r.read n).1 = some piece) :
    piece.length ≤ n := by
  by_cases hr : r.rest = []
  · rw [read_of_rest_eq_nil n hr] at h
    cases h
  · rw [read_of_rest_ne_nil n hr] at h
    obtain rfl := Option.some.inj h
    exact List.length_take_le n _

/-- A piece is not empty unless no byte was asked for. -/
theorem exists_read_cons {n : Nat} (hn : 0 < n) (hr : r.rest ≠ []) :
    ∃ b bs, (r.read n).1 = some (b :: bs) := by
  have hbuffer : r.advance.buffer ≠ [] := mt (buffer_advance_eq_nil_iff r).1 hr
  have htake : r.advance.buffer.take n ≠ [] := by
    rw [Ne, List.take_eq_nil_iff]
    exact not_or.2 ⟨Nat.ne_of_gt hn, hbuffer⟩
  obtain ⟨b, bs, hpiece⟩ := List.exists_cons_of_ne_nil htake
  exact ⟨b, bs, by rw [read_of_rest_ne_nil n hr, hpiece]⟩

/-! ### Runs of reads -/

/-- **Several reads take their pieces from the front of what is to come**, one after the other. -/
theorem delivered_append_rest (r : Reader) (sizes : List Nat) :
    delivered (r.answers sizes) ++ (r.after sizes).rest = r.rest := by
  induction sizes generalizing r with
  | nil => rfl
  | cons n sizes ih =>
      rw [answers, after, delivered_cons, List.append_assoc, ih, getD_read_append_rest]

/-- Once nothing is to come, no read hands anything out. -/
theorem eq_none_of_mem_answers {sizes : List Nat} (hr : r.rest = []) :
    ∀ a ∈ r.answers sizes, a = none := by
  induction sizes generalizing r with
  | nil => exact fun a ha => absurd ha List.not_mem_nil
  | cons n sizes ih =>
      have hrest : (r.read n).2.rest = [] := by
        rw [read_of_rest_eq_nil n hr, rest_advance, hr]
      intro a ha
      rcases List.mem_cons.1 ha with rfl | ha
      · rw [read_eq_none_iff, hr]
      · exact ih hrest a ha

/-- Every read of at least one byte makes progress. -/
theorem min_le_length_delivered {sizes : List Nat} (hsizes : ∀ n ∈ sizes, 0 < n) :
    min sizes.length r.rest.length ≤ (delivered (r.answers sizes)).length := by
  induction sizes generalizing r with
  | nil => simp
  | cons n sizes ih =>
      obtain ⟨hn, hsizes⟩ := List.forall_mem_cons.1 hsizes
      have hmore := @ih (r.read n).2 hsizes
      have hsplit := congrArg List.length (getD_read_append_rest r n)
      rw [List.length_append] at hsplit
      rw [answers, delivered_cons, List.length_append, List.length_cons]
      by_cases hr : r.rest = []
      · simp [hr]
      · obtain ⟨b, bs, hpiece⟩ := exists_read_cons hn hr
        have hlength : ((r.read n).1.getD []).length = bs.length + 1 := by rw [hpiece]; rfl
        omega

/-- Reading in equal pieces hands out everything. -/
theorem drain_eq_rest (n : Nat) (r : Reader) : r.drain n = r.rest := by
  fun_induction drain n r with
  | case1 r hbuffer => exact ((buffer_advance_eq_nil_iff r).1 hbuffer).symm
  | case2 r hbuffer ih =>
      have hr : r.rest ≠ [] := mt (buffer_advance_eq_nil_iff r).2 hbuffer
      have hread := getD_read_append_rest r (n + 1)
      rw [read_of_rest_ne_nil _ hr] at hread
      rw [ih]
      exact hread

end Reader

theorem rest_ofCode (c : Code) : (Reader.ofCode c).rest = c.flat := by
  simp [Reader.rest, Reader.ofCode]

/-- All pieces of a code are all its bytes. -/
theorem render_eq_flat (c : Code) : c.render = c.flat := by
  rw [render, Reader.drain_eq_rest, rest_ofCode]

/-- **The pieces do not depend on the sizes.**  After any reads, what was delivered is the front of
all bytes of the code.  The next read reports the end exactly if everything was delivered, and then
so does every read after it.  Before that it delivers at most as many bytes as it is asked for, and
at least one if it is asked for any; so as many such reads as there are bytes deliver everything.
Rendering a code gives all its bytes. -/
theorem pieces_of_any_sizes (c : Code) (sizes : List Nat) (n : Nat) :
    let r := (Reader.ofCode c).after sizes
    let sofar := Reader.delivered ((Reader.ofCode c).answers sizes)
    sofar <+: c.flat ∧
      ((r.read n).1 = none ↔ sofar = c.flat) ∧
      (sofar = c.flat → ∀ more, ∀ a ∈ r.answers more, a = none) ∧
      (sofar ≠ c.flat → ∃ piece, (r.read n).1 = some piece ∧ piece.length ≤ n ∧
        (0 < n → piece ≠ [])) ∧
      ((∀ k ∈ sizes, 0 < k) → c.flat.length ≤ sizes.length → sofar = c.flat) ∧
      c.render = c.flat := by
  intro r sofar
  have hsplit : sofar ++ r.rest = c.flat := by
    rw [← rest_ofCode c]
    exact Reader.delivered_append_rest _ sizes
  have hend : r.rest = [] ↔ sofar = c.flat := by
    rw [← hsplit, List.self_eq_append_right]
  refine ⟨⟨r.rest, hsplit⟩, ?_, ?_, ?_, ?_, render_eq_flat c⟩
  · rw [Reader.read_eq_none_iff, hend]
  · intro hall more
    exact Reader.eq_none_of_mem_answers (hend.2 hall)
  · intro hpart
    have hr : r.rest ≠ [] := mt hend.1 hpart
    have hread := Reader.read_of_rest_ne_nil n hr
    refine ⟨_, congrArg Prod.fst hread, Reader.length_le_of_read (congrArg Prod.fst hread), ?_⟩
    intro hn
    obtain ⟨b, bs, hpiece⟩ := Reader.exists_read_cons hn hr
    rw [hread] at hpiece
    rw [Option.some.inj hpiece]
    exact List.cons_ne_nil b bs
  · intro hsizes hlength
    have hmin := @Reader.min_le_length_delivered (Reader.ofCode c) sizes hsizes
    rw [rest_ofCode, Nat.min_eq_right hlength] at hmin
    have hprefix : sofar <+: c.flat := ⟨r.rest, hsplit⟩
    exact hprefix.eq_of_length_le hmin

end Handover.Code
