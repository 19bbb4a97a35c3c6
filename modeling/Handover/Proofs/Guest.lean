/-
**Calls of foreign code.**

Foreign code calls the host by the name of a function and with any words.  The first word counts as
a handle.  Whatever the call names and passes, there are five ways in which a slot can serve it, and
this module lists them once; what is proved about foreign code later is derived from the list.

Main definitions:

* `Handover.GuestCall` — a call, with the handle that it passes and the slot that it reaches;
* `Handover.World.Served` — what a call of a slot can do;
* `Handover.Visit` — a call with the worlds before and after it.

Main results:

* `Handover.Host.callSlot_served` — **every call of a slot ends in one of these ways**;
* `Handover.Visit.served`, `Handover.Visit.idle` — the same of a call by name.
-/

import Handover.Host.Engine
import Handover.Proofs.Keeping

set_option autoImplicit false

namespace Handover

/-- A fault that is caught leaves behind what it left behind. -/
@[simp] theorem Act.run_attempt {α : Type} (act : Act α) (w : World) :
    act.attempt.run w = .ok (act.result w) (act.after w) := by
  rw [EStateM.run, attempt, result, after, EStateM.run]
  cases act w <;> rfl

/-! ### How a slot serves a call -/

namespace World

/-- The payload `p` of `h` was asked and has answered. -/
structure Answered (h : Handle) (p : Payload) (w w' : World) : Prop where
  table : w'.table = w.table
  holders : w'.holders = (w.answered h p).holders
  expired : w'.expired = w.expired
  events : w'.events = w.events

/-- What a call of a slot with the handle `h` can do.  The flag says whether the slot is the one
that destroys. -/
inductive Served (w : World) (h : Handle) : Bool → Except Fault (List UInt64) → World → Prop
  /-- The handle may not be used. -/
  | refused {destroys : Bool} {f : Failure} {w' : World} (hrefusal : w.refusalLent? h = some f)
      (hw : OnlyWritten w w') : Served w h destroys (.error (.failure f)) w'
  | answered {p : Payload} {words : List UInt64} {w' : World} (hlent : w.isLent h)
      (hp : w.payload? h = some p) (ha : Answered h p w w') : Served w h false (.ok words) w'
  /-- The payload raises a fault in place of an answer. -/
  | unanswered {p : Payload} {e : Fault} {w' : World} (hlent : w.isLent h)
      (hp : w.payload? h = some p) (hreply : p.reply = .error e) (hw : OnlyWritten w w') :
      Served w h false (.error e) w'
  | destroyed {p : Payload} {words : List UInt64} {w' : World} (hlent : w.isLent h)
      (hp : w.payload? h = some p) (hd : Destroyed h p w w') : Served w h true (.ok words) w'
  /-- The drop of the payload raises a fault. -/
  | broken {p : Payload} {e : Fault} {w' : World} (hlent : w.isLent h)
      (hp : w.payload? h = some p) (hfree : ¬ w.DropsFreely h p) (hb : Broken h p w w') :
      Served w h true (.error e) w'

/-! What is written before or after a slot is called makes no difference. -/

section Written

variable {h : Handle} {p : Payload} {w w₁ w' : World} (hw : OnlyWritten w w₁)
include hw

theorem Destroyed.of_written (hd : Destroyed h p w₁ w') : Destroyed h p w w' := by
  have hevents := hw.events
  obtain ⟨marks, -, rfl⟩ := hw
  exact { hd with events := hevents ▸ hd.events }

theorem Broken.of_written (hb : Broken h p w₁ w') : Broken h p w w' := by
  have hevents := hw.events
  obtain ⟨marks, -, rfl⟩ := hw
  exact { hb with events := hevents ▸ hb.events }

theorem Answered.of_written : Answered h p w (w₁.answered h p) := by
  have hevents := hw.events
  obtain ⟨marks, -, rfl⟩ := hw
  exact ⟨rfl, rfl, rfl, hevents⟩

theorem DropsFreely.of_written (hfree : w.DropsFreely h p) : w₁.DropsFreely h p := by
  obtain ⟨marks, -, rfl⟩ := hw
  exact hfree.mono (fun _ _ ht => ht) fun _ _ _ hlent hk => ⟨hlent, hk⟩

end Written

theorem OnlyWritten.answered {h : Handle} {p : Payload} {w w' : World}
    (hw : OnlyWritten (w.answered h p) w') : Answered h p w w' := by
  have hevents := hw.events
  obtain ⟨marks, -, rfl⟩ := hw
  exact ⟨rfl, rfl, rfl, hevents⟩

end World

open World in
/-- A handle that may be used is passed on to its slot, after a line in the log. -/
theorem Host.run_callSlot {w : World} (hw : w.WellKept) (slot : ImportedFunction) {h : Handle}
    (hr : w.refusalLent? h = none) : ∃ w₁, OnlyWritten w w₁ ∧ (callSlot slot h).run w =
      if slot.name = "destroy" then (destroySlot h >>= fun _ => pure []).run w₁
      else (numberSlot h >>= fun n =>
        pure (slot.type.results.map fun _ => n.toUInt32.toUInt64)).run w₁ := by
  obtain ⟨-, hp, -⟩ := (w.refusalLent?_eq_none h).1 hr
  have hslots : (w.proxy h).descriptor.isSome := (w.descriptor_proxy h).trans hp
  have hlookup : (Proxy.lookupLent h).run w = .ok (.ok (w.proxy h)) w := by
    rw [Proxy.run_lookupLent hw, hr]
    rfl
  obtain ⟨w₁, hlog, hwritten⟩ := OnlyWritten.log .debug .runtime "slot call"
    [("slot", .text slot.name), ("handle", .number h)] w
  refine ⟨w₁, hwritten, ?_⟩
  rw [callSlot, Act.run_bind_ok hlookup, Act.run_bind_ok hlog]
  split
  · rw [EStateM.run_bind, Proxy.run_drop_of_some hslots, EStateM.run_bind]
    rfl
  · rw [EStateM.run_bind, Proxy.run_number_of_some hslots, EStateM.run_bind]
    rfl

open World in
/-- **Every call of a slot ends in one of five ways.** -/
theorem Host.callSlot_served {w : World} (hw : w.WellKept) (slot : ImportedFunction) (h : Handle) :
    Served w h (slot.name == "destroy") ((callSlot slot h).result w)
      ((callSlot slot h).after w) := by
  rw [Act.result, Act.after]
  cases hr : w.refusalLent? h with
  | some f =>
      rw [callSlot, Act.run_bind_ok (Proxy.run_lookupLent hw h), hr]
      exact .refused hr (.noted w rfl)
  | none =>
      obtain ⟨w₁, hwritten, hrun⟩ := run_callSlot hw slot hr
      obtain ⟨-, hsome, hlent⟩ := (w.refusalLent?_eq_none h).1 hr
      obtain ⟨p, hp⟩ := Option.isSome_iff_exists.1 hsome
      have hp₁ : w₁.payload? h = some p := by
        obtain ⟨marks, -, rfl⟩ := hwritten
        exact hp
      rw [hrun]
      by_cases hname : slot.name = "destroy"
      · rw [if_pos hname, beq_iff_eq.2 hname]
        rcases destroySlot_cases hp₁ with ⟨w₂, hslot, hd⟩ | ⟨e, w₂, hslot, hb⟩
        · rw [Act.run_bind_ok hslot]
          exact .destroyed hlent hp (hd.of_written hwritten)
        · rw [Act.run_bind_error hslot]
          refine .broken hlent hp (fun hfree => ?_) (hb.of_written hwritten)
          obtain ⟨w₃, hok, -⟩ := destroySlot_ok hp₁ (hfree.of_written hwritten)
          rw [hslot] at hok
          cases hok
      · rw [if_neg hname, beq_false_of_ne hname]
        have hslot := run_numberSlot_of_some hp₁
        cases hreply : p.reply with
        | ok n =>
            rw [hreply] at hslot
            rw [Act.run_bind_ok hslot]
            exact .answered hlent hp (.of_written hwritten)
        | error e =>
            rw [hreply] at hslot
            rw [Act.run_bind_error hslot]
            exact .unanswered hlent hp hreply hwritten

/-! ### What a served call leaves behind -/

namespace World

theorem OnlyWritten.wellKept {w w' : World} (hwritten : OnlyWritten w w') (hw : w.WellKept) :
    w'.WellKept := by
  obtain ⟨marks, -, rfl⟩ := hwritten
  exact hw.congr rfl rfl

theorem OnlyWritten.calm {w w' : World} (hwritten : OnlyWritten w w') (hcalm : w.Calm) :
    w'.Calm := by
  intro h p hp
  refine DropsFreely.of_written hwritten (hcalm h p ?_)
  obtain ⟨marks, -, rfl⟩ := hwritten
  exact hp

namespace Answered

variable {h : Handle} {p : Payload} {w w' : World} (ha : Answered h p w w')
include ha

theorem holder?_eq (k : Handle) : w'.holder? k = (w.answered h p).holder? k :=
  holder?_congr ha.holders k

theorem holder?_of_ne {k : Handle} (hk : k ≠ h) : w'.holder? k = w.holder? k := by
  rw [ha.holder?_eq, World.answered, holder?_alter, if_neg hk]

theorem payload?_eq (k : Handle) : w'.payload? k = (w.answered h p).payload? k :=
  payload?_congr ha.holders k

theorem drops_eq (k : Handle) : w'.drops k = w.drops k := by
  rw [drops, ha.holder?_eq, ← drops, drops_answered]

theorem wellKept (hp : w.payload? h = some p) (hw : w.WellKept) : w'.WellKept :=
  (hw.answered hp).congr (congrArg _ ha.table) ha.holders

/-- An answer makes no difference to later drops. -/
theorem dropsFreely (hp : w.payload? h = some p) {k : Handle} {q : Payload}
    (hfree : w.DropsFreely k q) : w'.DropsFreely k q := by
  refine hfree.mono ?_ ?_
  · intro t _ ht
    rwa [isExpired, ha.expired] at ht
  · rintro j t - hj ⟨r, hr, ht⟩
    rw [isLent_eq, ha.table] at hj
    exact ⟨hj, holds_answered hp ⟨r, ha.payload?_eq j ▸ hr, ht⟩⟩

/-- Every payload is the one of before, up to the number of its answers. -/
theorem exists_payload (hp : w.payload? h = some p) {k : Handle} {q : Payload}
    (hq : w'.payload? k = some q) : ∃ n r, w.payload? k = some r ∧ q = { r with calls := n } := by
  rw [ha.payload?_eq, payload?_answered hp] at hq
  split at hq
  · rename_i hkh
    exact ⟨p.calls + 1, p, hkh ▸ hp, (Option.some.inj hq).symm⟩
  · exact ⟨q.calls, q, hq, rfl⟩

end Answered

namespace Served

variable {w w' : World} {h : Handle} {destroys : Bool} {r : Except Fault (List UInt64)}
  (hs : Served w h destroys r w')
include hs

theorem wellKept (hw : w.WellKept) : w'.WellKept := by
  cases hs with
  | refused _ hwritten => exact hwritten.wellKept hw
  | unanswered _ _ _ hwritten => exact hwritten.wellKept hw
  | answered _ hp ha => exact ha.wellKept hp hw
  | destroyed _ hp hd => exact hw.destroyed hp hd
  | broken _ hp _ hb => exact hw.broken hp hb

/-- The drop of another object is not disturbed by a call. -/
theorem dropsFreely {k : Handle} (hkh : h ≠ k) {p : Payload} (hfree : w.DropsFreely k p) :
    w'.DropsFreely k p := by
  cases hs with
  | refused _ hwritten => exact hfree.of_written hwritten
  | unanswered _ _ _ hwritten => exact hfree.of_written hwritten
  | answered _ hq ha => exact ha.dropsFreely hq hfree
  | destroyed hlent hq hd => exact hfree.of_emptied hlent hq hkh hd.toEmptied hd.isLent_mono
  | broken hlent hq _ hb => exact hfree.of_emptied hlent hq hkh hb.toEmptied hb.isLent_mono

theorem calm (hcalm : w.Calm) : w'.Calm := by
  intro k q hq
  have hother (hkh : h ≠ k) (hfree : w.DropsFreely k q) : w'.DropsFreely k q :=
    hs.dropsFreely hkh hfree
  cases hs with
  | refused _ hwritten => exact hwritten.calm hcalm k q hq
  | unanswered _ _ _ hwritten => exact hwritten.calm hcalm k q hq
  | answered _ hp ha =>
      obtain ⟨n, r, hr, rfl⟩ := ha.exists_payload hp hq
      exact ha.dropsFreely hp ((hcalm k r hr).asked n)
  | destroyed _ _ hd =>
      obtain ⟨hkh, hr⟩ := hd.of_payload hq
      exact hother hkh.symm (hcalm k q hr)
  | broken _ _ _ hb =>
      obtain ⟨hkh, hr⟩ := hb.of_payload hq
      exact hother hkh.symm (hcalm k q hr)

/-- Only the holder of the handle that was passed can change, and only if it is lent. -/
theorem holder?_eq {k : Handle} (hk : k = h → ¬ w.isLent h) : w'.holder? k = w.holder? k := by
  have hne : w.isLent h → k ≠ h := fun hlent hkh => hk hkh hlent
  cases hs with
  | refused _ hwritten => obtain ⟨marks, -, rfl⟩ := hwritten; rfl
  | unanswered _ _ _ hwritten => obtain ⟨marks, -, rfl⟩ := hwritten; rfl
  | answered hlent _ ha => exact ha.holder?_of_ne (hne hlent)
  | destroyed hlent _ hd => exact hd.holder?_of_ne (hne hlent)
  | broken hlent _ _ hb => exact hb.holder?_of_ne (hne hlent)

/-- A call that destroys its object releases the handle; no other call changes the table. -/
theorem get?_eq (k : Handle) : w'.table.get? k =
    if destroys && r.isOk && k == h then none else w.table.get? k := by
  cases hs with
  | refused _ hwritten => obtain ⟨marks, -, rfl⟩ := hwritten; simp
  | unanswered _ _ _ hwritten => obtain ⟨marks, -, rfl⟩ := hwritten; simp
  | answered _ _ ha => simp [ha.table]
  | destroyed _ _ hd => simp [hd.table, Live.Table.get?_remove]
  | broken _ _ _ hb => simp [hb.table]

/-- In a calm world the payloads that are dropped are those of the objects that are destroyed. -/
theorem drops_eq (hcalm : w.Calm) (k : Handle) :
    w'.drops k = w.drops k + if destroys && r.isOk && k == h then 1 else 0 := by
  cases hs with
  | refused _ hwritten =>
      obtain ⟨marks, -, rfl⟩ := hwritten
      simp [drops, holder?]
  | unanswered _ _ _ hwritten =>
      obtain ⟨marks, -, rfl⟩ := hwritten
      simp [drops, holder?]
  | answered _ _ ha => simp [ha.drops_eq]
  | destroyed _ hp hd => simp [hd.drops_eq hp]
  | broken _ hp hfree _ => exact absurd (hcalm _ _ hp) hfree

theorem isLent_of_destroyed (hdone : destroys && r.isOk) : w.isLent h := by
  cases hs with
  | refused => simp at hdone
  | unanswered hlent => exact hlent
  | answered hlent => exact hlent
  | destroyed hlent => exact hlent
  | broken hlent => exact hlent

/-- A handle that is not lent is refused: it is no handle of a live object, or it was not handed
out. -/
theorem refused_of_not_lent (hlent : ¬ w.isLent h) : ∃ f, r = .error (.failure f) ∧
    f.head?.map (·.kind) = some (if w.isLive h then .protocol else .invalidHandle) ∧
    OnlyWritten w w' := by
  cases hs with
  | refused hrefusal hwritten => exact ⟨_, rfl, kind_refusalLent? hrefusal, hwritten⟩
  | unanswered hyes => exact absurd hyes hlent
  | answered hyes => exact absurd hyes hlent
  | destroyed hyes => exact absurd hyes hlent
  | broken hyes => exact absurd hyes hlent

/-- A calm world lets a lent object be destroyed. -/
theorem isOk_of_calm (hcalm : w.Calm) (hlent : w.isLent h) (hp : (w.payload? h).isSome)
    (hdestroys : destroys) : r.isOk := by
  cases hs with
  | refused hrefusal =>
      have hnone := (w.refusalLent?_eq_none h).2 ⟨isLive_of_isLent hlent, hp, hlent⟩
      rw [hrefusal] at hnone
      cases hnone
  | unanswered => cases hdestroys
  | answered => rfl
  | destroyed => rfl
  | broken _ hp hfree => exact absurd (hcalm _ _ hp) hfree

end Served

end World

/-! ### Calls by name -/

/-- A call of foreign code: the function that it names, and the words that it passes. -/
structure GuestCall where
  module : String
  name : String
  args : List UInt64
deriving DecidableEq, Repr

namespace GuestCall

/-- The handle that a call passes.  One that passes nothing passes handle zero. -/
def handle (c : GuestCall) : Handle := (c.args.head?.getD 0).toNat

/-- The slot that a call reaches.  The log is no slot. -/
def slot? (c : GuestCall) (host : Host) : Option ImportedFunction :=
  if c.module = logModule then none
  else host.functions.find? fun i => i.module == c.module && i.name == c.name

/-- Whether the slot that a call reaches is the one that destroys. -/
def destroys (c : GuestCall) (host : Host) : Bool := (c.slot? host).any (·.name == "destroy")

end GuestCall

/-- A host that offers the two slots. -/
def slotsOnly : Host where
  output := .out
  pageLimit := 1
  functions := [
    { module := thingModule, name := "destroy", type := { params := [.i64] } },
    { module := thingModule, name := "number", type := { params := [.i64], results := [.i32] } }]

/-- A call with how it ended and the worlds before and after it. -/
structure Visit where
  call : GuestCall
  before : World
  result : Except Fault (List UInt64)
  after : World

namespace Visit

/-- The call made to a host in a world. -/
def of (host : Host) (w : World) (c : GuestCall) : Visit where
  call := c
  before := w
  result := (host.answer c.module c.name c.args).result w
  after := (host.answer c.module c.name c.args).after w

/-- Whether the call has destroyed the object behind `h`. -/
def destroyed (v : Visit) (host : Host) (h : Handle) : Bool :=
  v.call.destroys host && v.result.isOk && h == v.call.handle

variable {host : Host} {w : World} {c : GuestCall}

/-- A call that reaches no slot does nothing but write. -/
theorem idle (hslot : c.slot? host = none) :
    (of host w c).result = .ok [] ∧ World.OnlyWritten w (of host w c).after := by
  unfold GuestCall.slot? at hslot
  simp only [of, Act.result, Act.after, Host.answer]
  split at hslot
  · rename_i hlog
    rw [if_pos hlog, Act.run_bind_ok (Act.run_printLine ..)]
    exact ⟨rfl, .noted w rfl⟩
  · rename_i hlog
    rw [if_neg hlog, hslot]
    exact ⟨rfl, .refl w⟩

/-- A call that reaches a slot is served in one of the five ways. -/
theorem served (hw : w.WellKept) {slot : ImportedFunction} (hslot : c.slot? host = some slot) :
    w.Served c.handle (c.destroys host) (of host w c).result (of host w c).after := by
  have hcalls : host.answer c.module c.name c.args = Host.callSlot slot c.handle := by
    unfold GuestCall.slot? at hslot
    split at hslot
    · cases hslot
    · rename_i hlog
      simp only [Host.answer]
      rw [if_neg hlog, hslot]
      rfl
  simp only [of, hcalls, GuestCall.destroys, hslot]
  exact Host.callSlot_served hw slot c.handle

theorem destroyed_of_idle (hslot : c.slot? host = none) (h : Handle) :
    (of host w c).destroyed host h = false := by
  simp [destroyed, of, GuestCall.destroys, hslot]

section After

variable (hw : w.WellKept)
include hw

theorem wellKept_after : (of host w c).after.WellKept := by
  cases hslot : c.slot? host with
  | none => exact (idle hslot).2.wellKept hw
  | some slot => exact (served hw hslot).wellKept hw

theorem calm_after (hcalm : w.Calm) : (of host w c).after.Calm := by
  cases hslot : c.slot? host with
  | none => exact (idle hslot).2.calm hcalm
  | some slot => exact (served hw hslot).calm hcalm

theorem get?_after (h : Handle) : (of host w c).after.table.get? h =
    if (of host w c).destroyed host h then none else w.table.get? h := by
  cases hslot : c.slot? host with
  | none =>
      rw [destroyed_of_idle hslot, (idle hslot).2.outside.table]
      rfl
  | some slot => exact (served hw hslot).get?_eq h

theorem isLent_of_destroyed {h : Handle} (hd : (of host w c).destroyed host h) : w.isLent h := by
  cases hslot : c.slot? host with
  | none =>
      rw [destroyed_of_idle hslot] at hd
      cases hd
  | some slot =>
      obtain ⟨hdone, hh⟩ := Bool.and_eq_true_iff.1 hd
      obtain rfl := beq_iff_eq.1 hh
      exact (served hw hslot).isLent_of_destroyed hdone

/-- What is not lent is out of reach. -/
theorem holder?_after {h : Handle} (hlent : ¬ w.isLent h) :
    (of host w c).after.holder? h = w.holder? h := by
  cases hslot : c.slot? host with
  | none => exact World.holder?_congr (idle hslot).2.outside.holders h
  | some slot => exact (served hw hslot).holder?_eq fun heq => heq ▸ hlent

theorem drops_after (hcalm : w.Calm) (h : Handle) :
    (of host w c).after.drops h =
      w.drops h + if (of host w c).destroyed host h then 1 else 0 := by
  cases hslot : c.slot? host with
  | none =>
      rw [destroyed_of_idle hslot, World.drops, World.holder?_congr (idle hslot).2.outside.holders]
      rfl
  | some slot => exact (served hw hslot).drops_eq hcalm h

end After

end Visit

end Handover
