/-
**Confinement of foreign code.**

Foreign code may call the slots with any words, in any order and as often as it likes.  It reaches
the objects that are lent to it and nothing else, and of those it can only destroy each one once.
What makes the proof go through is that every call is checked again when it is made: the facts about
a run of calls are sums over facts about the single calls.

Main definitions:

* `Handover.Visit.trace`, `Handover.Visit.last` — calls made one after another, and the world after
  them;
* `Handover.Confined` — what a run of calls can do.

Main results:

* `Handover.Visit.isLive_last` — a handle is live at the end, or one call has destroyed its object,
  if it was live at the start;
* `Handover.confined` — **foreign code is confined** to what it was lent.
-/

import Handover.Proofs.Accounts
import Handover.Proofs.Guest

set_option autoImplicit false

namespace Handover

namespace Visit

/-! ### Runs of calls -/

/-- Calls made one after another.  A fault ends the call that raises it; the next one is made all
the same. -/
def trace (host : Host) : World → List GuestCall → List Visit
  | _, [] => []
  | w, c :: cs => of host w c :: trace host (of host w c).after cs

/-- The world after the calls. -/
def last (host : Host) : World → List GuestCall → World
  | w, [] => w
  | w, c :: cs => last host (of host w c).after cs

/-- How many calls have destroyed the object behind `h`. -/
def destructions (host : Host) (w : World) (calls : List GuestCall) (h : Handle) : Nat :=
  (trace host w calls).countP (·.destroyed host h)

theorem destructions_cons (host : Host) (w : World) (c : GuestCall) (cs : List GuestCall)
    (h : Handle) : destructions host w (c :: cs) h =
      destructions host (of host w c).after cs h +
        if (of host w c).destroyed host h then 1 else 0 := by
  rw [destructions, trace, List.countP_cons]
  rfl

variable {host : Host} {w : World}

/-- Every call of a run is made in a world that is kept well and calm. -/
theorem mem_trace (hw : w.WellKept) (hcalm : w.Calm) {calls : List GuestCall} {v : Visit}
    (hv : v ∈ trace host w calls) :
    ∃ w₁ c, v = of host w₁ c ∧ w₁.WellKept ∧ w₁.Calm := by
  induction calls generalizing w with
  | nil => cases hv
  | cons c cs ih =>
      rcases List.mem_cons.1 hv with rfl | hv
      · exact ⟨w, c, rfl, hw, hcalm⟩
      · exact ih (wellKept_after hw) (calm_after hw hcalm) hv

/-! ### What a run leaves behind -/

section Last

variable (hw : w.WellKept)
include hw

/-- A handle that is live at the start is live at the end, or one call has destroyed its object. -/
theorem isLive_last (calls : List GuestCall) (h : Handle) :
    ((last host w calls).isLive h).toNat + destructions host w calls h = (w.isLive h).toNat := by
  induction calls generalizing w with
  | nil => rfl
  | cons c cs ih =>
      rw [destructions_cons, ← Nat.add_assoc]
      refine (congrArg (· + _) (ih (wellKept_after hw))).trans ?_
      rw [World.isLive_eq, get?_after hw]
      cases hd : (of host w c).destroyed host h with
      | false => rfl
      | true =>
          -- only a lent handle can go, and a lent handle is live
          rw [World.isLive_of_isLent (isLent_of_destroyed hw hd)]
          rfl

theorem isLent_of_last {calls : List GuestCall} {h : Handle}
    (hlent : (last host w calls).isLent h) : w.isLent h := by
  induction calls generalizing w with
  | nil => exact hlent
  | cons c cs ih =>
      have hafter := ih (wellKept_after hw) hlent
      rw [World.isLent_eq, get?_after hw] at hafter
      split at hafter
      · cases hafter
      · exact hafter

/-- What is not lent at the start is out of reach for the whole run. -/
theorem untouched_last {h : Handle} (hlent : ¬ w.isLent h) (calls : List GuestCall) :
    (last host w calls).table.get? h = w.table.get? h ∧
      (last host w calls).holder? h = w.holder? h := by
  induction calls generalizing w with
  | nil => exact ⟨rfl, rfl⟩
  | cons c cs ih =>
      have hget : (of host w c).after.table.get? h = w.table.get? h := by
        rw [get?_after hw, if_neg fun hd => hlent (isLent_of_destroyed hw hd)]
      have hlent' : ¬ (of host w c).after.isLent h := by rwa [World.isLent_eq, hget]
      obtain ⟨htable, hholder⟩ := ih (wellKept_after hw) hlent'
      exact ⟨htable.trans hget, hholder.trans (holder?_after hw hlent)⟩

theorem drops_last (hcalm : w.Calm) (calls : List GuestCall) (h : Handle) :
    (last host w calls).drops h = w.drops h + destructions host w calls h := by
  induction calls generalizing w with
  | nil => rfl
  | cons c cs ih =>
      refine (ih (wellKept_after hw) (calm_after hw hcalm)).trans ?_
      rw [drops_after hw hcalm, destructions_cons]
      omega

end Last

end Visit

/-! ### Confinement -/

/-- What a run of calls can do to the world. -/
structure Confined (host : Host) (w : World) (calls : List GuestCall) : Prop where
  /-- A handle that is not live and lent is refused, and nothing but a line in the log changes. -/
  refused : ∀ v ∈ Visit.trace host w calls, (v.call.slot? host).isSome →
    ¬ v.before.isLent v.call.handle → ∃ f, v.result = .error (.failure f) ∧
      f.head?.map (·.kind) =
        some (if v.before.isLive v.call.handle then .protocol else .invalidHandle) ∧
      World.OnlyWritten v.before v.after
  /-- An object that is lent, with its payload, can be destroyed. -/
  obeyed : ∀ v ∈ Visit.trace host w calls, v.call.destroys host →
    v.before.isLent v.call.handle → (v.before.payload? v.call.handle).isSome → v.result.isOk
  /-- What was not lent has the same entry and the same holder, payload and drops included. -/
  untouched : ∀ h, ¬ w.isLent h →
    (Visit.last host w calls).table.get? h = w.table.get? h ∧
      (Visit.last host w calls).holder? h = w.holder? h
  live_of_live : ∀ h, (Visit.last host w calls).isLive h → w.isLive h
  lent_of_lent : ∀ h, (Visit.last host w calls).isLent h → w.isLent h
  /-- A handle goes exactly when one call has destroyed its object. -/
  gone_iff : ∀ h, w.isLive h →
    (¬ (Visit.last host w calls).isLive h ↔ Visit.destructions host w calls h = 1)
  /-- The call that destroys an object drops its payload once. -/
  dropped : ∀ v ∈ Visit.trace host w calls, ∀ h, v.destroyed host h →
    v.after.drops h = v.before.drops h + 1
  drops : ∀ h, (Visit.last host w calls).drops h =
    w.drops h + Visit.destructions host w calls h

/-- **Foreign code is confined** to what it was lent, whatever it calls. -/
theorem confined (host : Host) {w : World} (hreach : w.Reachable) (hcalm : w.Calm)
    (calls : List GuestCall) : Confined host w calls := by
  have hw := hreach.wellKept
  have hlive : ∀ h, ((Visit.last host w calls).isLive h).toNat +
      Visit.destructions host w calls h = (w.isLive h).toNat := Visit.isLive_last hw calls
  constructor
  · intro v hv hslot hlent
    obtain ⟨w₁, c, rfl, hw₁, -⟩ := Visit.mem_trace hw hcalm hv
    obtain ⟨slot, hslot⟩ := Option.isSome_iff_exists.1 hslot
    exact (Visit.served hw₁ hslot).refused_of_not_lent hlent
  · intro v hv hdestroys hlent hp
    obtain ⟨w₁, c, rfl, hw₁, hcalm₁⟩ := Visit.mem_trace hw hcalm hv
    cases hslot : c.slot? host with
    | none => simp [Visit.of, GuestCall.destroys, hslot] at hdestroys
    | some slot => exact (Visit.served hw₁ hslot).isOk_of_calm hcalm₁ hlent hp hdestroys
  · exact fun h hlent => Visit.untouched_last hw hlent calls
  · intro h hlast
    have hsum := hlive h
    rw [hlast] at hsum
    cases hstart : w.isLive h with
    | true => rfl
    | false => simp [hstart] at hsum
  · exact fun h hlent => Visit.isLent_of_last hw hlent
  · intro h hstart
    have hsum := hlive h
    rw [hstart] at hsum
    cases hlast : (Visit.last host w calls).isLive h <;> simp [hlast] at hsum ⊢ <;> omega
  · intro v hv h hd
    obtain ⟨w₁, c, rfl, hw₁, hcalm₁⟩ := Visit.mem_trace hw hcalm hv
    rw [Visit.drops_after hw₁ hcalm₁, if_pos hd]
    rfl
  · exact Visit.drops_last hw hcalm calls

/-- A payload that says farewell. -/
def twin : Payload := { answer := .fixed 7, onDrop := [.say .out "bye"] }

/-- Two objects are wrapped, and the first is lent. -/
def lendingFirst : List Op := [
  .wrap { typeName := "twin" } twin, .wrap { typeName := "twin" } twin,
  .ofHandle (World.handleAt 0), .intoHandle 0]

/-- A script that destroys the object which is lent, tries that again, and then tries the other
object and a handle that it has made up. -/
def greedyCalls : List GuestCall := [
  { module := thingModule, name := "destroy", args := [(World.handleAt 0).toUInt64] },
  { module := thingModule, name := "destroy", args := [(World.handleAt 0).toUInt64] },
  { module := thingModule, name := "destroy", args := [(World.handleAt 1).toUInt64] },
  { module := thingModule, name := "number", args := [12345] }]

/-- The greedy script has destroyed one object, once. -/
theorem confined_greedyCalls :
    let w := (Bench.run { world := {} } lendingFirst).world
    Confined slotsOnly w greedyCalls ∧
      Visit.destructions slotsOnly w greedyCalls (World.handleAt 0) = 1 ∧
      Visit.destructions slotsOnly w greedyCalls (World.handleAt 1) = 0 := by
  have hadmits : ∀ w : World, w.Admits twin := by
    intro w
    refine ⟨⟨by simp [twin], by decide⟩, ?_, ?_⟩
    · exact fun t ht => absurd ht List.not_mem_nil
    · exact fun t ht => absurd ht List.not_mem_nil
  have hops : Bench.Follows (fun b op => op.Fair b) { world := {} } lendingFirst :=
    ⟨hadmits _, hadmits _, List.mem_cons_self .., trivial, trivial⟩
  have hcalm := (Bench.Sound.run ⟨rfl, rfl⟩ hops).orderly.calm
  exact ⟨confined slotsOnly ⟨{}, lendingFirst, ⟨rfl, rfl⟩, rfl, rfl⟩ hcalm greedyCalls,
    by decide +kernel, by decide +kernel⟩

end Handover
