/-
**What every call of the entry point keeps.**

A call of the entry point is made of few steps.  It writes and logs; it lends the handle that it was
given and takes it back; it asks the object behind a handle and destroys it.  The last two it does
to its own object, and a script does them to objects that are lent.  A property of worlds that is
kept by each of these steps is kept by the whole call, whatever becomes of the script and however
the call ends.

Main definitions:

* `Handover.World.Stable` — each step of a call with the handle `h` keeps the property.

Main results:

* `Handover.World.Stable.perform` — a run of a script keeps the property;
* `Handover.World.Stable.serve` — **a call of the entry point keeps the property**;
* `Handover.Entry.run_main_eq_serve` — the entry point serves some conduct, whatever its object does;
* `Handover.Entry.spent_of_serve` — a call that returns has destroyed its object.
-/

import Handover.Proofs.HandingOver

set_option autoImplicit false

namespace Handover

/-! ### Actions that keep a property -/

namespace Act

variable {α β : Type}

theorem after_of_ok {x : Act α} {w w' : World} {a : α} (hx : x.run w = .ok a w') :
    x.after w = w' := by
  rw [after, hx]

theorem after_of_error {x : Act α} {w w' : World} {e : Fault} (hx : x.run w = .error e w') :
    x.after w = w' := by
  rw [after, hx]

theorem after_congr {x : Act α} {y : Act α} {w w' : World} (h : x.run w = y.run w') :
    x.after w = y.after w' := by
  rw [after, h, after]

theorem after_bind_ok {x : Act α} {w w' : World} {a : α} (hx : x.run w = .ok a w')
    (f : α → Act β) : (x >>= f).after w = (f a).after w' := by
  rw [after, run_bind_ok hx, after]

theorem after_bind_error {x : Act α} {w w' : World} {e : Fault} (hx : x.run w = .error e w')
    (f : α → Act β) : (x >>= f).after w = w' := by
  rw [after, run_bind_error hx]

/-- An action that ends well has ended well in each of its steps. -/
theorem run_bind_eq_ok {x : Act α} {f : α → Act β} {w w' : World} {b : β} :
    (x >>= f).run w = .ok b w' ↔ ∃ a w₁, x.run w = .ok a w₁ ∧ (f a).run w₁ = .ok b w' := by
  rw [EStateM.run_bind]
  cases x.run w with
  | error e w₁ => simp
  | ok a w₁ => simp

/-- The action keeps a property of worlds, however it ends. -/
def Keeps (P : World → Prop) (act : Act α) : Prop := ∀ w, P w → P (act.after w)

theorem Keeps.bind {P : World → Prop} {x : Act α} {f : α → Act β} (hx : x.Keeps P)
    (hf : ∀ a, (f a).Keeps P) : (x >>= f).Keeps P := by
  intro w hw
  have hafter := hx w hw
  rw [after_bind]
  cases x.result w with
  | error e => exact hafter
  | ok a => exact hf a _ hafter

end Act

namespace World

/-! ### Steps -/

/-- Each step of a call with the handle `h` keeps the property.  Objects are asked and destroyed
only if they are behind `h`, or lent. -/
structure Stable (h : Handle) (P : World → Prop) : Prop where
  kept : ∀ {w}, P w → w.WellKept
  written : ∀ {w w'}, P w → OnlyWritten w w' → P w'
  answered : ∀ {w k p}, P w → k = h ∨ w.isLent k → w.payload? k = some p → P (w.answered k p)
  destroyed : ∀ {w k p}, P w → k = h ∨ w.isLent k → w.payload? k = some p →
    P ((destroySlot k).after w)
  lent : ∀ {w}, P w → P (w.told (w.table.lend h))
  reclaimed : ∀ {w}, P w → P (w.told (w.table.reclaim h))

namespace Stable

variable {h : Handle} {P : World → Prop} (hP : Stable h P)
include hP

theorem numberSlot {w : World} (hw : P w) {k : Handle} (hk : k = h ∨ w.isLent k) :
    P ((numberSlot k).after w) := by
  cases hp : w.payload? k with
  | none =>
      rcases run_numberSlot_of_none hp with ⟨n, hrun⟩ | ⟨e, hrun⟩
      · rwa [Act.after_of_ok hrun]
      · rwa [Act.after_of_error hrun]
  | some p =>
      have hrun := run_numberSlot_of_some hp
      cases hreply : p.reply with
      | ok n =>
          rw [hreply] at hrun
          rw [Act.after_of_ok hrun]
          exact hP.answered hw hk hp
      | error e =>
          rw [hreply] at hrun
          rwa [Act.after_of_error hrun]

theorem destroySlot {w : World} (hw : P w) {k : Handle} (hk : k = h ∨ w.isLent k) :
    P ((destroySlot k).after w) := by
  cases hp : w.payload? k with
  | none =>
      obtain ⟨e, hrun⟩ := run_destroySlot_of_none hp
      rwa [Act.after_of_error hrun]
  | some p => exact hP.destroyed hw hk hp

theorem printLine (c : Channel) (text : String) : (Act.printLine c text).Keeps P :=
  fun w hw => hP.written hw (.noted w rfl)

theorem log (level : Log.Level) (source : Log.Source) (message : String)
    (fields : List (String × Log.Value)) : (Act.log level source message fields).Keeps P :=
  fun w hw => hP.written hw (.noted w rfl)

theorem reclaim : (reclaim h).Keeps P := by
  intro w hw
  have hrun := run_reclaim h w
  split at hrun
  · rw [Act.after_of_ok hrun]
    exact hP.reclaimed hw
  · rwa [Act.after_of_ok hrun]

/-- Destroying the object behind the handle of the call. -/
theorem dropHandle : (dropHandle h).Keeps P := by
  intro w hw
  by_cases hh : h = 0
  · have hrun : (Proxy.ofHandle h).run w = .error (.failure (.invalidHandle .dispatch 0)) w := by
      rw [Proxy.ofHandle, if_pos hh]
      rfl
    rwa [Handover.dropHandle, Act.after_bind_error hrun]
  · rw [Handover.dropHandle, Act.after_bind_ok (Proxy.run_ofHandle hh w)]
    cases hq : (w.proxy h).descriptor with
    | none => rwa [Act.after_of_error (Proxy.run_drop_of_none hq w)]
    | some d =>
        rw [Act.after, Proxy.run_drop_of_some (by simp [hq])]
        exact hP.destroySlot hw (Or.inl rfl)

/-! ### Runs of a script -/

/-- A script reaches only what is lent. -/
theorem callSlot (slot : ImportedFunction) (k : Handle) : (Host.callSlot slot k).Keeps P := by
  intro w hw
  have hkept := hP.kept hw
  cases hr : w.refusalLent? k with
  | some f =>
      have hlookup := Proxy.run_lookupLent hkept k
      rw [hr] at hlookup
      rw [Host.callSlot, Act.after_bind_ok hlookup]
      exact hP.written hw (.noted w rfl)
  | none =>
      obtain ⟨-, -, hlent⟩ := (w.refusalLent?_eq_none k).1 hr
      obtain ⟨w₁, hwritten, hrun⟩ := Host.run_callSlot hkept slot hr
      have hw₁ := hP.written hw hwritten
      have hlent₁ : w₁.isLent k := by
        obtain ⟨marks, -, rfl⟩ := hwritten
        exact hlent
      split at hrun
      · have hslot := hP.destroySlot hw₁ (Or.inr hlent₁)
        rw [Act.after_congr hrun, Act.after_bind]
        cases (Handover.destroySlot k).result w₁ <;> exact hslot
      · have hslot := hP.numberSlot hw₁ (Or.inr hlent₁)
        rw [Act.after_congr hrun, Act.after_bind]
        cases (Handover.numberSlot k).result w₁ <;> exact hslot

theorem answer (host : Host) (module name : String) (args : List UInt64) :
    (host.answer module name args).Keeps P := by
  simp only [Host.answer]
  split
  · exact (hP.printLine _ _).bind fun _ w hw => hw
  · split
    · exact fun w hw => hw
    · exact hP.callSlot _ _

/-- The induction is on the tree of calls: each call keeps the property, and so does what follows
its answer. -/
theorem perform (host : Host) (r : Run) : (r.perform host.answer).Keeps P := by
  induction r with
  | done words => exact fun w hw => hw
  | trap t => exact fun w hw => hw
  | call module name args next ih => exact (hP.answer host module name args).bind ih

theorem conduct (c : Conduct) : c.perform.Keeps P := by
  cases c with
  | missing f => exact fun w hw => hw
  | unfit s f => exact fun w hw => hw
  | runs host s type r =>
      intro w hw
      obtain ⟨outcome, hrun⟩ := Conduct.run_perform host s type r w
      rw [Act.after_of_ok hrun]
      exact hP.perform host r w hw

/-! ### Calls of the entry point -/

theorem announce (c : Conduct) : (c.announce h).Keeps P :=
  fun w hw => hP.written hw (c.run_announce h w).2

theorem conclude (e : Entry) (r : Except Failure Result) : (e.conclude h r).Keeps P := by
  intro w hw
  obtain ⟨outcome, w', hrun, hwritten⟩ := e.run_conclude h r w
  rw [Act.after_of_ok hrun]
  exact hP.written hw hwritten

theorem giveUp : (Entry.giveUp h).Keeps P := by
  refine hP.reclaim.bind ?_
  intro isLive
  split
  · exact hP.dropHandle.bind fun _ => hP.log _ _ _ _
  · exact hP.log _ _ _ _

/-- Taking over the object: its number is asked, and it is lent. -/
theorem receive (e : Entry) : (e.receive ⟨h⟩).Keeps P := by
  intro w hw
  have htake := Deed.run_take ⟨h⟩ w
  split at htake
  swap
  · rwa [Entry.receive, Act.after_bind_error htake]
  rename_i hvalid
  have hh : h ≠ 0 := by simpa [Deed.isValid] using hvalid
  rw [Entry.receive, Act.after_bind_ok htake, Act.after_bind_ok (Proxy.run_ofHandle hh w)]
  have hnumber : P ((w.proxy h).number.after w) := by
    cases hq : (w.proxy h).descriptor with
    | none => rwa [Act.after_of_error (Proxy.run_number_of_none hq w)]
    | some d =>
        rw [Act.after, Proxy.run_number_of_some (by simp [hq])]
        exact hP.numberSlot hw (Or.inl rfl)
  -- what follows writes two lines and lends the handle
  rw [Act.after_bind]
  cases (w.proxy h).number.result w with
  | error e => exact hnumber
  | ok n =>
      refine ((hP.printLine _ _).bind fun _ => ?_) _ hnumber
      refine .bind (fun _ hw₁ => hw₁) fun _ => (hP.printLine _ _).bind fun _ => ?_
      intro w₁ hw₁
      rw [Act.after_of_ok (Proxy.run_intoHandle ..)]
      exact hP.lent hw₁

end Stable

end World

namespace Entry

/-- The handle that is taken over is that of the deed. -/
theorem eq_of_receive {e : Entry} {d : Deed} {w w' : World} {k : Handle}
    (hrun : (e.receive d).run w = .ok k w') : k = d.handle := by
  obtain ⟨h, w₁, htake, hrun⟩ := Act.run_bind_eq_ok.1 hrun
  obtain ⟨q, w₂, hproxy, hrun⟩ := Act.run_bind_eq_ok.1 hrun
  obtain ⟨n, w₃, -, hrun⟩ := Act.run_bind_eq_ok.1 hrun
  obtain ⟨_, w₄, -, hrun⟩ := Act.run_bind_eq_ok.1 hrun
  obtain ⟨world, w₅, -, hrun⟩ := Act.run_bind_eq_ok.1 hrun
  obtain ⟨_, w₆, -, hlend⟩ := Act.run_bind_eq_ok.1 hrun
  have hvalid : d.isValid := by
    by_contra hinvalid
    rw [Deed.run_take, if_neg hinvalid] at htake
    cases htake
  rw [Deed.run_take, if_pos hvalid] at htake
  cases htake
  rw [Proxy.run_ofHandle (by simpa [Deed.isValid] using hvalid)] at hproxy
  cases hproxy
  rw [Proxy.run_intoHandle] at hlend
  cases hlend
  rfl

/-- The entry point serves some conduct: that of the script that it finds. -/
theorem run_main_eq_serve (e : Entry) (d : Deed) (w : World) : ∃ c : Conduct,
    (e.main d).run w = (e.serve c d).run w := by
  refine ⟨e.conduct ((e.receive d).after w).files d.handle, ?_⟩
  rw [main_eq_receive, serve]
  cases hreceive : (e.receive d).run w with
  | error f w₁ => rw [Act.run_bind_error hreceive, Act.run_bind_error hreceive]
  | ok k w₁ =>
      obtain rfl := eq_of_receive hreceive
      rw [Act.run_bind_ok hreceive, Act.run_bind_ok hreceive, EStateM.run_bind, e.run_run,
        Act.after_of_ok hreceive, ← EStateM.run_bind, bind_assoc]

end Entry

/-- **A call of the entry point keeps the property**, whatever becomes of the script and however the
call ends. -/
theorem World.Stable.serve {h : Handle} {P : World → Prop} (hP : Stable h P) (e : Entry)
    (c : Conduct) : (e.serve c ⟨h⟩).Keeps P := by
  intro w hw
  have hreceive := hP.receive e w hw
  rw [Entry.serve]
  cases hrun : (e.receive ⟨h⟩).run w with
  | error f w₁ =>
      rw [Act.after_bind_error hrun]
      rwa [Act.after_of_error hrun] at hreceive
  | ok k w₁ =>
      rw [Act.after_of_ok hrun] at hreceive
      obtain rfl : k = h := Entry.eq_of_receive hrun
      rw [Act.after_bind_ok hrun]
      refine ((hP.announce c).bind fun _ => (hP.conduct c).bind fun r => ?_) w₁ hreceive
      exact (hP.conclude e r).bind fun outcome => hP.giveUp.bind fun _ w hw => hw

/-! ### Calls that return -/

namespace World

/-- However the destruction of a holder ends, its payload is out. -/
theorem emptied_destroySlot {w : World} {k : Handle} {p : Payload} (hp : w.payload? k = some p) :
    Emptied k p w ((destroySlot k).after w) := by
  rcases destroySlot_cases hp with ⟨w', hrun, hd⟩ | ⟨e, w', hrun, hb⟩
  · rw [Act.after_of_ok hrun]
    exact hd.toEmptied
  · rw [Act.after_of_error hrun]
    exact hb.toEmptied

theorem WellKept.destroySlot {w : World} (hw : w.WellKept) {k : Handle} {p : Payload}
    (hp : w.payload? k = some p) : ((destroySlot k).after w).WellKept := by
  rcases destroySlot_cases hp with ⟨w', hrun, hd⟩ | ⟨e, w', hrun, hb⟩
  · rw [Act.after_of_ok hrun]
    exact hw.destroyed hp hd
  · rw [Act.after_of_error hrun]
    exact hw.broken hp hb

/-- The records go together, and the holders are those of the handles `hs`. -/
structure KeptFor (hs : List Handle) (w : World) : Prop where
  kept : w.WellKept
  handles : w.holders.map Prod.fst = hs

/-- Calls make no new holder. -/
theorem stable_keptFor (h : Handle) (hs : List Handle) : Stable h (KeptFor hs) where
  kept hw := hw.kept
  written {w w'} hw hwritten := by
    refine ⟨hwritten.wellKept hw.kept, ?_⟩
    obtain ⟨marks, -, rfl⟩ := hwritten
    exact hw.handles
  answered hw _ hp := ⟨hw.kept.answered hp, (handles_alter ..).trans hw.handles⟩
  destroyed hw _ hp :=
    ⟨hw.kept.destroySlot hp, (emptied_destroySlot hp).handles_eq.trans hw.handles⟩
  lent hw := ⟨hw.kept.lent h, hw.handles⟩
  reclaimed hw := ⟨hw.kept.reclaimed h, hw.handles⟩

/-- The object behind `h` was destroyed: its payload was dropped once, and the handle is not
live. -/
structure Spent (h : Handle) (w : World) : Prop where
  dead : w.isLive h = false
  drops : w.drops h = 1

/-- What is not live has no payload. -/
theorem WellKept.payload?_of_dead {w : World} (hw : w.WellKept) {h : Handle}
    (hdead : w.isLive h = false) : w.payload? h = none := by
  by_contra hp
  have hlive := hw.live h (Option.isSome_iff_ne_none.2 hp)
  simp [hdead] at hlive

/-- What is not live was dropped once. -/
theorem WellKept.spent {w : World} (hw : w.WellKept) {h : Handle} (hh : (w.holder? h).isSome)
    (hdead : w.isLive h = false) : Spent h w := by
  refine ⟨hdead, ?_⟩
  rw [hw.drops h hh, hw.payload?_of_dead hdead]
  rfl

theorem OnlyWritten.spent {h : Handle} {w w' : World} (hwritten : OnlyWritten w w')
    (hspent : Spent h w) : Spent h w' := by
  obtain ⟨marks, -, rfl⟩ := hwritten
  exact ⟨hspent.dead, hspent.drops⟩

/-- Destroying an object that returns has destroyed it. -/
theorem spent_of_dropHandle {w w' : World} (hw : w.WellKept) {h : Handle}
    (hrun : (dropHandle h).run w = .ok () w') : Spent h w' := by
  by_cases hh : h = 0
  · rw [dropHandle, Proxy.ofHandle, if_pos hh] at hrun
    cases hrun
  rw [dropHandle, Act.run_bind_ok (Proxy.run_ofHandle hh w)] at hrun
  cases hp : w.payload? h with
  | none =>
      have hq : (w.proxy h).descriptor = none := by
        simpa [hp] using w.descriptor_proxy h
      rw [Proxy.run_drop_of_none hq] at hrun
      cases hrun
  | some p =>
      rw [Proxy.run_drop_of_some (isSome_descriptor_proxy hp)] at hrun
      rcases destroySlot_cases hp with ⟨w₁, hslot, hd⟩ | ⟨e, w₁, hslot, -⟩
      · rw [show (w.proxy h).handle = h from rfl, hslot] at hrun
        cases hrun
        exact ⟨by simp [hd.isLive_eq], by rw [hd.drops_eq hp, hw.drops_of_payload hp, if_pos rfl]⟩
      · rw [show (w.proxy h).handle = h from rfl, hslot] at hrun
        cases hrun

/-- Giving up an object destroys it if nobody has done so before. -/
theorem spent_of_giveUp {w w' : World} (hw : w.WellKept) {h : Handle} (hh : (w.holder? h).isSome)
    (hrun : (Entry.giveUp h).run w = .ok () w') : Spent h w' := by
  have hreclaim := run_reclaim h w
  split at hreclaim
  · rw [Entry.giveUp, Act.run_bind_ok hreclaim, if_pos rfl] at hrun
    obtain ⟨_, w₁, hdrop, hlog⟩ := Act.run_bind_eq_ok.1 hrun
    cases hlog
    exact (OnlyWritten.noted w₁ rfl).spent (spent_of_dropHandle (hw.reclaimed h) hdrop)
  · rename_i hdead
    rw [Entry.giveUp, Act.run_bind_ok hreclaim, if_neg Bool.false_ne_true] at hrun
    cases hrun
    exact (OnlyWritten.noted w rfl).spent (hw.spent hh (by simpa using hdead))

end World

/-- A call that returns has destroyed its object, also if the object does not answer or its drop
raises a fault; and it has made no holder. -/
theorem Entry.spent_of_serve {e : Entry} {c : Conduct} {h : Handle} {w w' : World}
    (hw : w.WellKept) (hh : (w.holder? h).isSome) {outcome : Except Failure Unit}
    (hrun : (e.serve c ⟨h⟩).run w = .ok outcome w') :
    w'.holders.map Prod.fst = w.holders.map Prod.fst ∧ World.Spent h w' := by
  have hstable := World.stable_keptFor h (w.holders.map Prod.fst)
  have hkept : World.KeptFor (w.holders.map Prod.fst) w := ⟨hw, rfl⟩
  have hafter := hstable.serve e c w hkept
  rw [Act.after_of_ok hrun] at hafter
  refine ⟨hafter.handles, ?_⟩
  -- the last step of the call gives the object up
  obtain ⟨k, w₁, hreceive, hrest⟩ := Act.run_bind_eq_ok.1 hrun
  obtain rfl : k = h := eq_of_receive hreceive
  obtain ⟨_, w₂, hannounce, hrest⟩ := Act.run_bind_eq_ok.1 hrest
  obtain ⟨r, w₃, hperform, hrest⟩ := Act.run_bind_eq_ok.1 hrest
  obtain ⟨ended, w₄, hconclude, hrest⟩ := Act.run_bind_eq_ok.1 hrest
  obtain ⟨_, w₅, hgiveUp, hreturn⟩ := Act.run_bind_eq_ok.1 hrest
  cases hreturn
  have hkept₁ := Act.after_of_ok hreceive ▸ hstable.receive e w hkept
  have hkept₂ := Act.after_of_ok hannounce ▸ hstable.announce c w₁ hkept₁
  have hkept₃ := Act.after_of_ok hperform ▸ hstable.conduct c w₂ hkept₂
  have hkept₄ := Act.after_of_ok hconclude ▸ hstable.conclude e r w₃ hkept₃
  refine World.spent_of_giveUp hkept₄.kept ?_ hgiveUp
  rwa [World.isSome_holder?_congr hkept₄.handles]

end Handover
