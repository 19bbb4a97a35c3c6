/-
**When a handle is released.**

Destroying a holder takes its payload out, drops it, and releases the handle last.  The drop runs
the payload's own steps, and one of them may raise a fault: because it is there to do so, or because
it uses up a thing that is used up already, which happens if the thing was wrapped twice.  Then the
handle is not released.  It stays live although its holder is empty, nothing is told, and since an
empty holder cannot be destroyed, it stays so for good.

Main definitions:

* `Handover.World.Stuck` — a live handle with an empty holder.

Main results:

* `Handover.Bench.stuck_run` — **a handle that is stuck stays stuck**, whatever comes after;
* `Handover.World.destroySlot_releases_iff` — when destroying releases the handle;
* `Handover.World.destroySlot_keeps_live` — a handle that is not released.
-/

import Handover.Proofs.Custody

set_option autoImplicit false

namespace Handover

/-! ### Handles that are stuck -/

namespace World

/-- A live handle whose holder is empty, with the number of times that observers were told of its
release. -/
structure Stuck (w : World) (h : Handle) (n : Nat) : Prop where
  kept : w.WellKept
  live : w.isLive h
  empty : w.payload? h = none
  told : (w.eventsOf h).count .dropped = n

namespace Stuck

variable {w w' : World} {h : Handle} {n : Nat} (hs : w.Stuck h n)
include hs

theorem of_apart (ha : Apart h w w') (hkept : w'.WellKept) : w'.Stuck h n := by
  refine ⟨hkept, ?_, ?_, ?_⟩
  · rw [isLive_eq, ha.table]
    exact hs.live
  · rw [payload?, ha.holder]
    exact hs.empty
  · rw [ha.events]
    exact hs.told

/-- Whatever has a payload is another handle. -/
theorem ne_of_payload {k : Handle} {p : Payload} (hp : w.payload? k = some p) : h ≠ k := by
  rintro rfl
  rw [hs.empty] at hp
  cases hp

theorem answered {k : Handle} {p : Payload} (hp : w.payload? k = some p) :
    (w.answered k p).Stuck h n := by
  have ha : Answered k p w (w.answered k p) := (OnlyWritten.refl _).answered
  exact hs.of_apart (ha.apart (hs.ne_of_payload hp)) (hs.kept.answered hp)

theorem wrapped (d : Descriptor) (p : Payload) : (w.wrapped d p).Stuck h n := by
  have hne : h ≠ handleAt w.holders.length := by
    rintro rfl
    have hheld := hs.kept.held _ hs.live
    rw [hs.kept.holder?_next] at hheld
    cases hheld
  refine ⟨hs.kept.wrapped d p, ?_, ?_, ?_⟩
  · rw [isLive_wrapped hs.kept, hs.live, Bool.or_true]
  · rw [payload?_wrapped hs.kept, if_neg hne]
    exact hs.empty
  · rw [eventsOf_wrapped hs.kept, if_neg hne.symm, List.append_nil]
    exact hs.told

/-- Handing out and taking back are told of, but they are no release. -/
theorem count_marking {kind : Live.EventKind} (hkind : kind ≠ .dropped) (k : Handle)
    (isLent cond : Bool) :
    ((w.told (w.table.marking k kind isLent cond)).eventsOf h).count .dropped = n := by
  have htold := events_told w (w.table.marking k kind isLent cond)
  rw [Live.Table.event_marking] at htold
  cases cond with
  | true =>
      rw [if_pos rfl] at htold
      rw [eventsOf_of_events htold, List.count_append, hs.told]
      split <;> simp [hkind]
  | false =>
      rw [if_neg (by simp), Option.toList_none, List.append_nil] at htold
      rw [eventsOf, htold, ← eventsOf]
      exact hs.told

theorem lent (k : Handle) : (w.told (w.table.lend k)).Stuck h n where
  kept := hs.kept.lent k
  live := by rw [isLive_lent]; exact hs.live
  empty := hs.empty
  told := hs.count_marking (by decide) k _ _

theorem reclaimed (k : Handle) : (w.told (w.table.reclaim k)).Stuck h n where
  kept := hs.kept.reclaimed k
  live := by rw [isLive_reclaimed]; exact hs.live
  empty := hs.empty
  told := hs.count_marking (by decide) k _ _

/-- No operation releases a handle that is stuck. -/
theorem of_moves (hmoves : w.Moves w') : w'.Stuck h n := by
  cases hmoves with
  | stays => exact hs
  | wrapped d p => exact hs.wrapped d p
  | answered hp => exact hs.answered hp
  | destroyed hp hd =>
      exact hs.of_apart (hd.apart (hs.ne_of_payload hp)) (hs.kept.destroyed hp hd)
  | broken hp hb => exact hs.of_apart (hb.apart (hs.ne_of_payload hp)) (hs.kept.broken hp hb)
  | lent k => exact hs.lent k
  | reclaimed k => exact hs.reclaimed k

end Stuck

end World

namespace Bench

/-- **A handle that is stuck stays stuck.** -/
theorem stuck_run {b : Bench} {h : Handle} {n : Nat} (hb : b.world.Stuck h n) (ops : List Op) :
    (b.run ops).world.Stuck h n := by
  induction ops generalizing b with
  | nil => exact hb
  | cons op ops ih => exact ih (hb.of_moves (moves_step hb.kept op))

end Bench

/-! ### Destroying -/

namespace World

/-- What a destruction that ended well does to the handle. -/
theorem Destroyed.released {w w' : World} {h : Handle} {p : Payload} (hw : w.WellKept)
    (hlive : w.isLive h) (hd : Destroyed h p w w') :
    w'.isLive h = false ∧ w'.liveCount + 1 = w.liveCount ∧
      w'.eventsOf h = w.eventsOf h ++ [.dropped] := by
  refine ⟨by simp [hd.isLive_eq], ?_, ?_⟩
  · rw [liveCount, hd.table]
    exact Live.Table.size_remove hw.ordered hlive
  · have htold := hd.events
    rw [Live.Table.event_remove] at htold
    rw [eventsOf_of_events htold, if_pos ⟨rfl, hlive⟩]

/-- A handle whose drop was stopped is stuck. -/
theorem Broken.stuck {w w' : World} {h : Handle} {p : Payload} (hw : w.WellKept)
    (hp : w.payload? h = some p) (hb : Broken h p w w') :
    w'.Stuck h ((w.eventsOf h).count .dropped) where
  kept := hw.broken hp hb
  live := by
    rw [isLive_eq, hb.table]
    exact hw.live h (by simp [hp])
  empty := by rw [hb.payload?_eq, if_pos rfl]
  told := by rw [eventsOf, hb.events, eventsOf]

/-- Destroying ends well exactly if the drop does. -/
theorem destroySlot_isOk_iff {w : World} {h : Handle} {p : Payload} (hp : w.payload? h = some p) :
    ((destroySlot h).result w).isOk ↔ w.Droppable p.onDrop := by
  -- taking the payload out uses up nothing
  have hempty : (w.emptied h).Droppable p.onDrop ↔ w.Droppable p.onDrop :=
    ⟨fun hd => ⟨hd.raises, hd.unused, hd.once⟩, fun hd => ⟨hd.raises, hd.unused, hd.once⟩⟩
  rw [← hempty, ← exists_run_dropAll_iff h p.calls, Act.result, run_destroySlot_of_some hp]
  cases (dropAll h p.calls p.onDrop).run (w.emptied h) with
  | ok u w' => simp
  | error e w' => simp

/-- **When destroying releases the handle.**  In every reachable world, if there is a payload behind
a handle, then destroying ends well exactly if the steps of the drop do.  If they do, the handle is
no longer live, there is one live handle less, and observers are told once that it was released.  If
they do not, the payload is gone but the handle is still live, and observers are told nothing; and
whatever operations come after, it stays live, nobody is told of its release, and destroying it is a
fault that changes nothing. -/
theorem destroySlot_releases_iff (w : World) (h : Handle) (p : Payload) (hw : w.Reachable)
    (hp : w.payload? h = some p) :
    let w' := (destroySlot h).after w
    (((destroySlot h).result w).isOk ↔ w.Droppable p.onDrop) ∧
      (w.Droppable p.onDrop → w'.isLive h = false ∧ w'.liveCount + 1 = w.liveCount ∧
        w'.eventsOf h = w.eventsOf h ++ [.dropped]) ∧
      (¬ w.Droppable p.onDrop → w'.isLive h = true ∧ w'.liveCount = w.liveCount ∧
        w'.events = w.events ∧ w'.drops h = 1 ∧
        ∀ (b : Bench) (ops : List Op), b.world = w' →
          (b.run ops).world.isLive h = true ∧
          ((b.run ops).world.eventsOf h).count .dropped = (w.eventsOf h).count .dropped ∧
          ∃ e, (destroySlot h).run (b.run ops).world = .error e (b.run ops).world) := by
  intro w'
  have hkept := hw.wellKept
  have hlive : w.isLive h := hkept.live h (by simp [hp])
  have hok := destroySlot_isOk_iff hp
  rcases destroySlot_cases hp with ⟨w₁, hrun, hd⟩ | ⟨e, w₁, hrun, hb⟩
  · have hdrop : w.Droppable p.onDrop := by
      rw [← hok, Act.result, hrun]
      rfl
    obtain rfl : w' = w₁ := Act.after_of_ok hrun
    exact ⟨hok, fun _ => hd.released hkept hlive, fun hnot => absurd hdrop hnot⟩
  · have hdrop : ¬ w.Droppable p.onDrop := by
      rw [← hok, Act.result, hrun]
      simp
    obtain rfl : w' = w₁ := Act.after_of_error hrun
    have hstuck := hb.stuck hkept hp
    refine ⟨hok, fun hd => absurd hd hdrop, fun _ => ⟨hstuck.live, ?_, hb.events, ?_, ?_⟩⟩
    · rw [liveCount, hb.table, liveCount]
    · rw [hb.drops_eq hp, hkept.drops_of_payload hp, if_pos rfl]
    · intro b ops hbench
      have hlater := Bench.stuck_run (b := b) (hbench ▸ hstuck) ops
      exact ⟨hlater.live, hlater.told, run_destroySlot_of_none hlater.empty⟩

/-- One thing behind two handles, of which the first was destroyed. -/
def wrappedTwice : World :=
  (Bench.run { world := { expired := [false] } } [
    .wrap .reference (.reference {} 0), .wrap .reference (.reference {} 0),
    .ofHandle (handleAt 0), .drop 0]).world

theorem destroySlot_releases_iff_wrappedTwice :
    wrappedTwice.Reachable ∧ wrappedTwice.payload? (handleAt 1) = some (.reference {} 0) ∧
      ¬ wrappedTwice.Droppable (Payload.reference {} 0).onDrop ∧
      ((destroySlot (handleAt 1)).after wrappedTwice).isLive (handleAt 1) = true := by
  have hreach : wrappedTwice.Reachable := ⟨_, _, ⟨rfl, rfl⟩, rfl, rfl⟩
  have hp : wrappedTwice.payload? (handleAt 1) = some (.reference {} 0) := rfl
  have hdrop : ¬ wrappedTwice.Droppable (Payload.reference {} 0).onDrop := by
    intro hd
    have hunused := hd.unused 0 (by decide)
    exact absurd hunused (by decide +kernel)
  obtain ⟨-, -, hstays⟩ := destroySlot_releases_iff wrappedTwice (handleAt 1) _ hreach hp
  exact ⟨hreach, hp, hdrop, (hstays hdrop).1⟩

/-- **A handle may stay live after its holder was destroyed**: the drop of its payload raises a
fault, since the same thing was dropped before through another handle. -/
theorem destroySlot_keeps_live :
    let w' := (destroySlot (handleAt 1)).after wrappedTwice
    wrappedTwice.Reachable ∧ wrappedTwice.isLive (handleAt 1) = true ∧
      (wrappedTwice.payload? (handleAt 1)).isSome = true ∧
      ((destroySlot (handleAt 1)).result wrappedTwice).isOk = false ∧
      w'.isLive (handleAt 1) = true ∧ w'.liveCount = wrappedTwice.liveCount ∧
      w'.eventsOf (handleAt 1) = [.created] := by
  refine ⟨⟨_, _, ⟨rfl, rfl⟩, rfl, rfl⟩, ?_⟩
  decide +kernel

end World

end Handover
