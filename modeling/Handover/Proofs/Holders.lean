/-
**What the slots do.**

A holder has two slots: one asks its payload for the number, and one destroys it.  This module
says once, for each of them, which world it leaves behind.  Everything that is proved about
sequences of calls is derived from these statements, and no later module unfolds the slots again.

Main definitions:

* `Handover.World.drops` — how often a payload behind a handle was dropped;
* `Handover.World.Destroyed`, `Handover.World.Broken` — the world after a destruction that ended
  well, and after one that a fault of the payload stopped;
* `Handover.World.DropsFreely`, `Handover.World.Calm` — the drop of one payload, and of all that
  are held, raises no fault.

Main results:

* `Handover.run_numberSlot_of_some`, `Handover.run_numberSlot_of_none` — asking for the number;
* `Handover.destroySlot_cases`, `Handover.destroySlot_ok` — destroying;
* `Handover.World.DropsFreely.of_emptied` — **destroying an object that is lent does not disturb
  the drop of another**, however the destruction ends.
-/

import Handover.Proofs.Actions

set_option autoImplicit false

namespace Handover

namespace World

/-! ### Views -/

/-- How often a payload behind a handle was dropped. -/
def drops (w : World) (h : Handle) : Nat := ((w.holder? h).map Holder.drops).getD 0

theorem payload?_eq_some {w : World} {h : Handle} {p : Payload} (hp : w.payload? h = some p) :
    ∃ x, w.holder? h = some x ∧ x.payload = some p :=
  Option.bind_eq_some_iff.1 hp

theorem isSome_holder?_of_payload {w : World} {h : Handle} (hp : (w.payload? h).isSome) :
    (w.holder? h).isSome := by
  obtain ⟨p, hp⟩ := Option.isSome_iff_exists.1 hp
  obtain ⟨x, hx, -⟩ := payload?_eq_some hp
  simp [hx]

theorem holder?_congr {w w' : World} (hholders : w'.holders = w.holders) (k : Handle) :
    w'.holder? k = w.holder? k := by
  rw [holder?, holder?, hholders]

theorem payload?_congr {w w' : World} (hholders : w'.holders = w.holders) (k : Handle) :
    w'.payload? k = w.payload? k := by
  rw [payload?, payload?, holder?_congr hholders]

/-- Whether there is a holder depends on the handles of the holders only. -/
theorem isSome_holder?_congr {w w' : World}
    (hhandles : w'.holders.map Prod.fst = w.holders.map Prod.fst) (k : Handle) :
    (w'.holder? k).isSome = (w.holder? k).isSome := by
  rw [Bool.eq_iff_iff, holder?, holder?, lookup_isSome_iff_mem, lookup_isSome_iff_mem, hhandles]

theorem isLive_eq (w : World) (h : Handle) : w.isLive h = (w.table.get? h).isSome := rfl

theorem isLent_eq (w : World) (h : Handle) :
    w.isLent h = (w.table.get? h).any Live.Entry.isLent := rfl

theorem isLive_of_isLent {w : World} {h : Handle} (hlent : w.isLent h) : w.isLive h :=
  Live.Table.isLive_of_isLent hlent

/-! ### The worlds after each slot -/

/-- The payload of `h` has given one more answer. -/
def answered (w : World) (h : Handle) (p : Payload) : World :=
  w.alter h fun x => { x with payload := some { p with calls := p.calls + 1 } }

/-- The payload of `h` was taken out, and its drop is counted. -/
def emptied (w : World) (h : Handle) : World :=
  w.alter h fun x => { x with payload := none, drops := x.drops + 1 }

theorem payload?_answered {w : World} {h : Handle} {p : Payload} (hp : w.payload? h = some p)
    (k : Handle) : (w.answered h p).payload? k =
      if k = h then some { p with calls := p.calls + 1 } else w.payload? k := by
  rw [payload?, answered, holder?_alter]
  split
  · rename_i hkh
    obtain ⟨x, hx, -⟩ := payload?_eq_some hp
    simp [hkh, hx]
  · rfl

/-- Answering takes no payload out and puts none in. -/
theorem isSome_payload?_answered {w : World} {h : Handle} {p : Payload}
    (hp : w.payload? h = some p) (k : Handle) :
    ((w.answered h p).payload? k).isSome = (w.payload? k).isSome := by
  rw [payload?_answered hp]
  split
  · rename_i hkh
    simp [hkh, hp]
  · rfl

@[simp] theorem drops_answered (w : World) (h : Handle) (p : Payload) (k : Handle) :
    (w.answered h p).drops k = w.drops k := by
  rw [drops, answered, holder?_alter]
  split <;> simp [drops, Function.comp_def]

theorem payload?_emptied (w : World) (h k : Handle) :
    (w.emptied h).payload? k = if k = h then none else w.payload? k := by
  rw [payload?, emptied, holder?_alter]
  split
  · cases w.holder? k <;> rfl
  · rfl

theorem drops_emptied {w : World} {h : Handle} {p : Payload} (hp : w.payload? h = some p)
    (k : Handle) : (w.emptied h).drops k = w.drops k + if k = h then 1 else 0 := by
  rw [drops, emptied, holder?_alter]
  split
  · rename_i hkh
    obtain ⟨x, hx, -⟩ := payload?_eq_some hp
    simp [drops, hkh, hx]
  · rfl

/-- What every attempt to destroy the holder of `h` with payload `p` leaves behind: the payload is
out, its drop is counted, and only its things may have been used up. -/
structure Emptied (h : Handle) (p : Payload) (w w' : World) : Prop where
  holders : w'.holders = (w.emptied h).holders
  expired_length : w'.expired.length = w.expired.length
  expired_of : ∀ t, w'.isExpired t → w.isExpired t ∨ t ∈ p.things
  expired_mono : ∀ t, w.isExpired t → w'.isExpired t

/-- The holder of `h` was destroyed and the handle released. -/
structure Destroyed (h : Handle) (p : Payload) (w w' : World) : Prop extends Emptied h p w w' where
  used : ∀ t ∈ p.things, t < w.expired.length → w'.isExpired t
  table : w'.table = (w.table.remove h).table
  events : w'.events = w.events ++ (w.table.remove h).event.toList

/-- The destruction of the holder of `h` was stopped by a fault of its payload. -/
structure Broken (h : Handle) (p : Payload) (w w' : World) : Prop extends Emptied h p w w' where
  table : w'.table = w.table
  events : w'.events = w.events

namespace Emptied

variable {h : Handle} {p : Payload} {w w' : World} (he : Emptied h p w w')
include he

theorem holder?_eq (k : Handle) : w'.holder? k = (w.emptied h).holder? k :=
  holder?_congr he.holders k

theorem handles_eq : w'.holders.map Prod.fst = w.holders.map Prod.fst := by
  rw [he.holders]
  exact handles_alter ..

theorem holder?_of_ne {k : Handle} (hk : k ≠ h) : w'.holder? k = w.holder? k := by
  rw [he.holder?_eq, emptied, holder?_alter, if_neg hk]

theorem payload?_eq (k : Handle) : w'.payload? k = if k = h then none else w.payload? k := by
  rw [← payload?_emptied, payload?_congr he.holders]

/-- A payload that is still in was in before, behind another handle. -/
theorem of_payload {k : Handle} {q : Payload} (hq : w'.payload? k = some q) :
    k ≠ h ∧ w.payload? k = some q := by
  rw [he.payload?_eq] at hq
  split at hq
  · cases hq
  · rename_i hkh
    exact ⟨hkh, hq⟩

theorem drops_eq (hp : w.payload? h = some p) (k : Handle) :
    w'.drops k = w.drops k + if k = h then 1 else 0 := by
  rw [← drops_emptied hp, drops, drops, he.holder?_eq]

end Emptied

/-- After the destruction of one object the others are live as before. -/
theorem Destroyed.isLive_eq {h : Handle} {p : Payload} {w w' : World} (hd : Destroyed h p w w')
    (k : Handle) : w'.isLive k = (decide (k ≠ h) && w.isLive k) := by
  rw [World.isLive_eq, hd.table, Live.Table.get?_remove]
  by_cases hkh : k = h <;> simp [hkh, World.isLive_eq]

/-- No handle is lent by a destruction. -/
theorem Destroyed.isLent_mono {h : Handle} {p : Payload} {w w' : World} (hd : Destroyed h p w w')
    (k : Handle) (hk : w'.isLent k) : w.isLent k := by
  rw [isLent_eq, hd.table, Live.Table.get?_remove] at hk
  split at hk
  · cases hk
  · exact hk

theorem Broken.isLent_mono {h : Handle} {p : Payload} {w w' : World} (hb : Broken h p w w')
    (k : Handle) (hk : w'.isLent k) : w.isLent k := by
  rwa [isLent_eq, hb.table] at hk

end World

/-! ### Asking for the number -/

theorem run_numberSlot_of_some {w : World} {h : Handle} {p : Payload}
    (hp : w.payload? h = some p) : (numberSlot h).run w =
      match p.reply with
      | .ok n => .ok n (w.answered h p)
      | .error e => .error e w := by
  obtain ⟨⟨d, q, n⟩, hx, rfl⟩ := World.payload?_eq_some hp
  simp only [numberSlot, EStateM.run_bind, EStateM.run_get, hx]
  cases p.reply <;> rfl

/-- A payload that answers once will answer again. -/
theorem Payload.exists_reply {p : Payload} {n : Int32} (hreply : p.reply = .ok n) (calls : Nat) :
    ∃ m, { p with calls }.reply = .ok m := by
  unfold Payload.reply at *
  cases hanswer : p.answer with
  | fixed m => exact ⟨m, rfl⟩
  | counting start => exact ⟨_, rfl⟩
  | failing text => simp [hanswer] at hreply

/-- With nothing behind the handle, nothing changes. -/
theorem run_numberSlot_of_none {w : World} {h : Handle} (hp : w.payload? h = none) :
    (∃ n, (numberSlot h).run w = .ok n w) ∨ ∃ e, (numberSlot h).run w = .error e w := by
  simp only [numberSlot, EStateM.run_bind, EStateM.run_get]
  cases hx : w.holder? h with
  | none => exact Or.inr ⟨_, rfl⟩
  | some x =>
      obtain ⟨d, q, n⟩ := x
      obtain rfl : q = none := by simpa [World.payload?, hx] using hp
      cases hd : d.cleared with
      | none => exact Or.inr ⟨.emptySlot, by simp [hd]⟩
      | some n => exact Or.inl ⟨n, by simp [hd]⟩

/-! ### Destroying -/

/-- Once a payload is taken out, dropping it counts the drop and performs its steps. -/
theorem run_dropPayload (w : World) (h : Handle) (p : Payload) :
    (dropPayload h p).run (w.alter h fun x => { x with payload := none }) =
      (dropAll h p.calls p.onDrop).run (w.emptied h) := by
  rw [dropPayload, EStateM.run_bind, run_modifyHolder, World.alter_alter]
  rfl

/-- Destroying a holder: the payload is taken out and dropped, then the handle is released. -/
theorem run_destroySlot_of_some {w : World} {h : Handle} {p : Payload}
    (hp : w.payload? h = some p) : (destroySlot h).run w =
      match (dropAll h p.calls p.onDrop).run (w.emptied h) with
      | .ok _ w' => .ok () ((w'.told (w'.table.remove h)).noted (.logged {
          level := .debug, source := .bridge, message := "holder destroyed"
          fields := [("handle", .number h)] }))
      | .error e w' => .error e w' := by
  obtain ⟨⟨d, q, n⟩, hx, rfl⟩ := World.payload?_eq_some hp
  simp only [destroySlot, EStateM.run_bind, EStateM.run_get, hx, run_modifyHolder, run_dropPayload]
  split <;> simp_all

/-- A holder that has no payload is not destroyed again. -/
theorem run_destroySlot_of_none {w : World} {h : Handle} (hp : w.payload? h = none) :
    ∃ e, (destroySlot h).run w = .error e w := by
  simp only [destroySlot, EStateM.run_bind, EStateM.run_get]
  cases hx : w.holder? h with
  | none => exact ⟨_, rfl⟩
  | some x =>
      obtain ⟨d, q, n⟩ := x
      obtain rfl : q = none := by simpa [World.payload?, hx] using hp
      exact ⟨_, rfl⟩

namespace World

/-- What a drop does after the payload was taken out, seen from the world before. -/
theorem OutsideChange.toEmptied {h : Handle} {p : Payload} {w w' : World}
    (hout : OutsideChange p.things (w.emptied h) w') : Emptied h p w w' where
  holders := hout.holders
  expired_length := hout.expired_length
  expired_of := hout.expired_of
  expired_mono := hout.expired_mono

/-- Releasing the handle after the drop. -/
theorem Consumed.toDestroyed {h : Handle} {p : Payload} {w w' : World} {m : Mark}
    (hout : Consumed p.things (w.emptied h) w') (hm : m.event? = none) :
    Destroyed h p w ((w'.told (w'.table.remove h)).noted m) where
  toEmptied := { hout.toOutsideChange.toEmptied with }
  used := hout.used
  table := by
    rw [table_noted, table_told, hout.table]
    rfl
  events := by
    rw [events_noted, events_told, hm, hout.table, hout.events]
    simp [emptied]

end World

/-- What destroying can do when there is a payload: it ends well, or a fault of the payload stops
it. -/
theorem destroySlot_cases {w : World} {h : Handle} {p : Payload} (hp : w.payload? h = some p) :
    (∃ w', (destroySlot h).run w = .ok () w' ∧ World.Destroyed h p w w') ∨
      ∃ e w', (destroySlot h).run w = .error e w' ∧ World.Broken h p w w' := by
  rw [run_destroySlot_of_some hp]
  rcases dropAll_cases h p.calls p.onDrop (w.emptied h) with ⟨w', hrun, hout⟩ | ⟨e, w', hrun, hout⟩
  · rw [hrun]
    exact Or.inl ⟨_, rfl, hout.toDestroyed rfl⟩
  · rw [hrun]
    exact Or.inr ⟨e, w', rfl, { hout.toEmptied with table := hout.table, events := hout.events }⟩

/-! ### Drops without faults -/

/-- A payload whose drop raises nothing of its own and uses up no thing twice. -/
structure Payload.Quiet (p : Payload) : Prop where
  raises : ∀ text, DropStep.fail text ∉ p.onDrop
  nodup : p.things.Nodup

namespace World

/-- The payload behind a handle uses up a thing when it is dropped. -/
def Holds (w : World) (h : Handle) (t : Nat) : Prop := ∃ p, w.payload? h = some p ∧ t ∈ p.things

/-- The drop of the payload `p` of `h` raises no fault, now or after foreign code has destroyed what
it was lent: what the drop uses up is not used up yet, and nothing behind another handle that is
lent would use it up.  Handles that are not lent do not matter, since foreign code cannot reach
them.

A drop performs the steps of its payload, which write, look at handles, use up things or release
objects of foreign code.  It does not call back into the bridge, so that no drop is performed inside
another. -/
structure DropsFreely (w : World) (h : Handle) (p : Payload) : Prop extends p.Quiet where
  unused : ∀ t ∈ p.things, w.isExpired t = false
  unshared : ∀ t ∈ p.things, ∀ k, w.isLent k → w.Holds k t → k = h

/-- The drop of every payload that is held raises no fault. -/
def Calm (w : World) : Prop := ∀ h p, w.payload? h = some p → w.DropsFreely h p

/-- One more answer does not change what a payload uses up. -/
theorem holds_answered {w : World} {h : Handle} {p : Payload} (hp : w.payload? h = some p)
    {k : Handle} {t : Nat} (hk : (w.answered h p).Holds k t) : w.Holds k t := by
  obtain ⟨q, hq, ht⟩ := hk
  rw [payload?_answered hp] at hq
  split at hq
  · rename_i hkh
    obtain rfl := Option.some.inj hq
    exact ⟨p, hkh ▸ hp, ht⟩
  · exact ⟨q, hq, ht⟩

namespace DropsFreely

variable {w w' : World} {h : Handle} {p : Payload}

/-- Whether a drop raises a fault depends on the things that are used up, and on those behind other
handles that are lent. -/
theorem mono (hfree : w.DropsFreely h p)
    (hexp : ∀ t ∈ p.things, w'.isExpired t → w.isExpired t)
    (hholds : ∀ k t, k ≠ h → w'.isLent k → w'.Holds k t → w.isLent k ∧ w.Holds k t) :
    w'.DropsFreely h p where
  toQuiet := hfree.toQuiet
  unused t ht := by
    by_contra hused
    have hold := hexp t ht (by simpa using hused)
    simp [hfree.unused t ht] at hold
  unshared t ht k hlent hk := by
    by_contra hkh
    obtain ⟨hlent₀, hk₀⟩ := hholds k t hkh hlent hk
    exact hkh (hfree.unshared t ht k hlent₀ hk₀)

/-- How often a payload was asked does not matter for its drop. -/
theorem asked (hfree : w.DropsFreely h p) (n : Nat) : w.DropsFreely h { p with calls := n } where
  raises := hfree.raises
  nodup := hfree.nodup
  unused := hfree.unused
  unshared := hfree.unshared

/-- **Destroying an object that is lent does not disturb the drop of another**, however the
destruction ends. -/
theorem of_emptied {k : Handle} {q : Payload} (hfree : w.DropsFreely h p) (hlent : w.isLent k)
    (hq : w.payload? k = some q) (hkh : k ≠ h) (he : Emptied k q w w')
    (hlents : ∀ j, w'.isLent j → w.isLent j) : w'.DropsFreely h p := by
  refine hfree.mono ?_ ?_
  · intro t ht hexp
    rcases he.expired_of t hexp with hold | hnew
    · exact hold
    · exact absurd (hfree.unshared t ht k hlent ⟨q, hq, hnew⟩) hkh
  · rintro j t - hj ⟨r, hr, htr⟩
    exact ⟨hlents j hj, r, (he.of_payload hr).2, htr⟩

end DropsFreely

end World

/-- A payload whose drop raises no fault is destroyed. -/
theorem destroySlot_ok {w : World} {h : Handle} {p : Payload} (hp : w.payload? h = some p)
    (hfree : w.DropsFreely h p) :
    ∃ w', (destroySlot h).run w = .ok () w' ∧ World.Destroyed h p w w' := by
  obtain ⟨w', hrun⟩ :=
    dropAll_ok h p.calls (w := w.emptied h) hfree.raises hfree.nodup hfree.unused
  rcases destroySlot_cases hp with hok | ⟨e, w₁, hslot, -⟩
  · exact hok
  · rw [run_destroySlot_of_some hp, hrun] at hslot
    cases hslot

end Handover
