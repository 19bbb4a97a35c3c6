/-
**The bookkeeping of objects.**

Whether an object is there is recorded twice: the live table has an entry for its handle, and its
holder has a payload.  The two records are written at different moments, so that a fault in between
can make them differ, but only in one direction: a payload is never behind a handle that is not
live.  This module states the invariant, shows that every action keeps it, and derives what a
handle may be used for.

Main definitions:

* `Handover.World.WellKept` — the invariant;
* `Handover.World.wrapped` — the world after wrapping a payload;
* `Handover.World.Orderly` — nothing that a drop uses up is behind two handles.

Main results:

* `Handover.World.WellKept.answered`, `Handover.World.WellKept.destroyed` and their companions —
  **each action keeps the invariant**;
* `Handover.World.run_wrap` — wrapping succeeds and gives the next handle;
* `Handover.World.Orderly.calm` — in an orderly world drops raise no fault, whatever is lent;
* `Handover.World.refusalLent?_eq_none` — which handles foreign code may use.
-/

import Handover.Proofs.Holders

set_option autoImplicit false

namespace Handover

namespace World

/-! ### Handles -/

theorem handleAt_injective {m n : Nat} (h : handleAt m = handleAt n) : m = n := by
  have h' : 0xc0de5a7e0000 + 16 * m = 0xc0de5a7e0000 + 16 * n := h
  omega

theorem handleAt_ne_zero (n : Nat) : handleAt n ≠ 0 := by
  have h : 0xc0de5a7e0000 + 16 * n ≠ 0 := by omega
  exact h

/-! ### Marks -/

/-- Lending changes no handle's being live. -/
@[simp] theorem isLive_lent (w : World) (h k : Handle) :
    (w.told (w.table.lend h)).isLive k = w.isLive k := by
  rw [isLive_eq, isLive_eq, table_told, Live.Table.get?_lend]
  split <;> simp

/-- Taking back changes no handle's being live. -/
@[simp] theorem isLive_reclaimed (w : World) (h k : Handle) :
    (w.told (w.table.reclaim h)).isLive k = w.isLive k := by
  rw [isLive_eq, isLive_eq, table_told, Live.Table.get?_reclaim]
  split <;> simp

/-! ### The invariant -/

/-- How the live table and the holders go together. -/
structure WellKept (w : World) : Prop where
  /-- The holders have consecutive handles. -/
  handles : w.holders.map Prod.fst = (List.range w.holders.length).map handleAt
  ordered : w.table.backend.Ordered
  /-- A live handle was made by wrapping. -/
  held : ∀ h, w.isLive h → (w.holder? h).isSome
  /-- What has a payload is live. -/
  live : ∀ h, (w.payload? h).isSome → w.isLive h
  /-- A payload that is out was dropped once, one that is in was not. -/
  drops : ∀ h, (w.holder? h).isSome → w.drops h = if (w.payload? h).isSome then 0 else 1

namespace WellKept

variable {w w' : World} (hw : w.WellKept)
include hw

theorem mem_handles_iff (h : Handle) :
    (w.holder? h).isSome ↔ ∃ n < w.holders.length, h = handleAt n := by
  rw [holder?, lookup_isSome_iff_mem, hw.handles]
  simp [eq_comm]

theorem ne_zero_of_holder {h : Handle} (hh : (w.holder? h).isSome) : h ≠ 0 := by
  obtain ⟨n, -, rfl⟩ := (hw.mem_handles_iff h).1 hh
  exact handleAt_ne_zero n

theorem ne_zero_of_live {h : Handle} (hlive : w.isLive h) : h ≠ 0 :=
  hw.ne_zero_of_holder (hw.held h hlive)

theorem ne_zero_of_payload {h : Handle} {p : Payload} (hp : w.payload? h = some p) : h ≠ 0 :=
  hw.ne_zero_of_live (hw.live h (by simp [hp]))

/-- The next handle is new. -/
theorem holder?_next : w.holder? (handleAt w.holders.length) = none := by
  by_contra hsome
  obtain ⟨n, hn, heq⟩ := (hw.mem_handles_iff _).1 (Option.isSome_iff_ne_none.2 hsome)
  have := handleAt_injective heq
  omega

theorem get?_next : w.table.get? (handleAt w.holders.length) = none := by
  by_contra hsome
  have hheld := hw.held _ (Option.isSome_iff_ne_none.2 hsome)
  simp [hw.holder?_next] at hheld

theorem drops_of_payload {h : Handle} {p : Payload} (hp : w.payload? h = some p) :
    w.drops h = 0 := by
  obtain ⟨x, hx, -⟩ := payload?_eq_some hp
  simpa [hp] using hw.drops h (by simp [hx])

/-! ### What keeps the invariant -/

/-- The invariant is kept by every change that makes no new handle, makes nothing live, and keeps
payloads, drops and live handles in step. -/
theorem of_views (hhandles : w'.holders.map Prod.fst = w.holders.map Prod.fst)
    (hordered : w'.table.backend.Ordered) (hheld : ∀ k, w'.isLive k → w.isLive k)
    (hlive : ∀ k, (w'.payload? k).isSome → w'.isLive k)
    (hdrops : ∀ k, (w.holder? k).isSome → w'.drops k = if (w'.payload? k).isSome then 0 else 1) :
    w'.WellKept := by
  refine ⟨?_, hordered, ?_, hlive, ?_⟩
  · have hlength := congrArg List.length hhandles
    simp only [List.length_map] at hlength
    rw [hhandles, hlength]
    exact hw.handles
  · intro k hk
    rw [isSome_holder?_congr hhandles]
    exact hw.held k (hheld k hk)
  · intro k hk
    rw [isSome_holder?_congr hhandles] at hk
    exact hdrops k hk

/-- If the same handles are live and the holders are the same, the invariant is kept. -/
theorem of_isLive (hordered : w'.table.backend.Ordered) (hlive : ∀ k, w'.isLive k = w.isLive k)
    (hholders : w'.holders = w.holders) : w'.WellKept := by
  refine hw.of_views (by rw [hholders]) hordered ?_ ?_ ?_
  · intro k
    rw [hlive]
    exact id
  · intro k
    rw [hlive, payload?_congr hholders]
    exact hw.live k
  · intro k
    rw [World.drops, holder?_congr hholders, payload?_congr hholders]
    exact hw.drops k

/-- The invariant is about live handles and holders only. -/
theorem congr (hbackend : w'.table.backend = w.table.backend) (hholders : w'.holders = w.holders) :
    w'.WellKept := by
  refine hw.of_isLive (hbackend ▸ hw.ordered) ?_ hholders
  intro k
  rw [isLive, isLive, Live.Table.isLive, Live.Table.isLive, hbackend]

theorem lent (h : Handle) : (w.told (w.table.lend h)).WellKept :=
  hw.of_isLive (Live.Table.ordered_marking _ _ _ _ hw.ordered) (isLive_lent w h) rfl

theorem reclaimed (h : Handle) : (w.told (w.table.reclaim h)).WellKept :=
  hw.of_isLive (Live.Table.ordered_marking _ _ _ _ hw.ordered) (isLive_reclaimed w h) rfl

theorem answered {h : Handle} {p : Payload} (hp : w.payload? h = some p) :
    (w.answered h p).WellKept := by
  refine hw.of_views (handles_alter ..) hw.ordered (fun k hk => hk) ?_ ?_
  · intro k
    rw [isSome_payload?_answered hp]
    exact hw.live k
  · intro k
    rw [isSome_payload?_answered hp, drops_answered]
    exact hw.drops k

/-- After an attempt to destroy, the holder is empty and its one drop is counted. -/
theorem drops_emptied {h : Handle} {p : Payload} (hp : w.payload? h = some p)
    (he : Emptied h p w w') (k : Handle) (hk : (w.holder? k).isSome) :
    w'.drops k = if (w'.payload? k).isSome then 0 else 1 := by
  rw [he.drops_eq hp, he.payload?_eq]
  by_cases hkh : k = h
  · subst hkh
    simp [hw.drops_of_payload hp]
  · simpa [hkh] using hw.drops k hk

theorem destroyed {h : Handle} {p : Payload} (hp : w.payload? h = some p)
    (hd : Destroyed h p w w') : w'.WellKept := by
  refine hw.of_views hd.handles_eq ?_ ?_ ?_ (hw.drops_emptied hp hd.toEmptied)
  · rw [hd.table]
    exact Live.Table.ordered_remove hw.ordered h
  · intro k hk
    rw [hd.isLive_eq] at hk
    exact (Bool.and_eq_true_iff.1 hk).2
  · intro k hk
    rw [hd.payload?_eq] at hk
    by_cases hkh : k = h
    · simp [hkh] at hk
    · rw [if_neg hkh] at hk
      simpa [hd.isLive_eq, hkh] using hw.live k hk

theorem broken {h : Handle} {p : Payload} (hp : w.payload? h = some p) (hb : Broken h p w w') :
    w'.WellKept := by
  have hlive : ∀ k, w'.isLive k = w.isLive k := by
    intro k
    rw [isLive_eq, hb.table, isLive_eq]
  refine hw.of_views hb.handles_eq (hb.table ▸ hw.ordered) ?_ ?_ (hw.drops_emptied hp hb.toEmptied)
  · intro k
    rw [hlive]
    exact id
  · intro k hk
    rw [hb.payload?_eq] at hk
    rw [hlive]
    split at hk
    · simp at hk
    · exact hw.live k hk

end WellKept

/-! ### Wrapping -/

/-- The world with a new holder for the payload `p`. -/
def wrapped (w : World) (d : Descriptor) (p : Payload) : World :=
  let h := handleAt w.holders.length
  let held : World := {
    w with holders := w.holders ++ [(h, { descriptor := d, payload := some p })] }
  (held.told (w.table.insert h d.typeName ())).noted (.logged {
    level := .debug, source := .bridge, message := "wrapped"
    fields := [("handle", .number h), ("type", .text d.typeName)] })

/-- The world has made no object yet. -/
structure IsEmpty (w : World) : Prop where
  holders : w.holders = []
  entries : w.table.backend.entries = []

theorem IsEmpty.wellKept {w : World} (hw : w.IsEmpty) : w.WellKept := by
  have hdead : ∀ h, w.isLive h = false := by
    intro h
    simp [isLive, Live.Table.isLive, Live.Backend.isLive, Live.Backend.get?, hw.entries]
  have hnone : ∀ h, w.holder? h = none := by
    intro h
    simp [holder?, hw.holders]
  constructor
  · simp [hw.holders]
  · simp [Live.Backend.Ordered, Live.Backend.handles, hw.entries]
  · simp [hdead]
  · simp [payload?, hnone]
  · simp [hnone]

section Wrapped

variable {w : World} (hw : w.WellKept) (d : Descriptor) (p : Payload)
include hw

theorem holder?_wrapped (k : Handle) : (w.wrapped d p).holder? k =
    if k = handleAt w.holders.length then some { descriptor := d, payload := some p }
    else w.holder? k := by
  have hnext := hw.holder?_next
  show (w.holders ++ [(handleAt w.holders.length, _)]).lookup k = _
  rw [List.lookup_append, lookup_cons_ite]
  split
  · rename_i hk
    rw [hk, show w.holders.lookup (handleAt w.holders.length) = none from hnext]
    rfl
  · simp [holder?]

theorem payload?_wrapped (k : Handle) : (w.wrapped d p).payload? k =
    if k = handleAt w.holders.length then some p else w.payload? k := by
  rw [payload?, holder?_wrapped hw]
  split <;> rfl

/-- What is held after wrapping was held before, or is the new payload's. -/
theorem holds_wrapped {d : Descriptor} {p : Payload} {k : Handle} {t : Nat}
    (hk : (w.wrapped d p).Holds k t) :
    (k = handleAt w.holders.length ∧ t ∈ p.things) ∨ w.Holds k t := by
  obtain ⟨q, hq, ht⟩ := hk
  rw [payload?_wrapped hw] at hq
  split at hq
  · rename_i hnext
    obtain rfl := Option.some.inj hq
    exact Or.inl ⟨hnext, ht⟩
  · exact Or.inr ⟨q, hq, ht⟩

theorem get?_wrapped (k : Handle) : (w.wrapped d p).table.get? k =
    if k = handleAt w.holders.length then some { typeName := d.typeName, value := () }
    else w.table.get? k :=
  Live.Table.get?_insert (handleAt_ne_zero _) hw.get?_next d.typeName () k

theorem isLive_wrapped (k : Handle) : (w.wrapped d p).isLive k =
    (decide (k = handleAt w.holders.length) || w.isLive k) := by
  rw [isLive_eq, get?_wrapped hw, isLive_eq]
  by_cases hk : k = handleAt w.holders.length <;> simp [hk]

theorem liveCount_wrapped : (w.wrapped d p).liveCount = w.liveCount + 1 :=
  Live.Table.size_insert (handleAt_ne_zero _) hw.get?_next d.typeName ()

theorem WellKept.wrapped : (w.wrapped d p).WellKept where
  handles := by
    show (w.holders ++ [_]).map Prod.fst = (List.range (w.holders ++ [_]).length).map handleAt
    rw [List.map_append, hw.handles, List.length_append, List.length_singleton, List.range_succ,
      List.map_append]
    rfl
  ordered := Live.Table.ordered_insert (handleAt_ne_zero _) hw.get?_next d.typeName () hw.ordered
  held k hk := by
    rw [isLive_wrapped hw] at hk
    rw [holder?_wrapped hw]
    split
    · rfl
    · rename_i hne
      exact hw.held k (by simpa [hne] using hk)
  live k hk := by
    rw [payload?_wrapped hw] at hk
    rw [isLive_wrapped hw]
    split at hk
    · rename_i heq
      simp [heq]
    · simp [hw.live k hk]
  drops k hk := by
    rw [holder?_wrapped hw] at hk
    rw [World.drops, holder?_wrapped hw, payload?_wrapped hw]
    split at hk
    · rename_i heq
      simp [heq]
    · rename_i hne
      simpa [hne, World.drops] using hw.drops k hk

/-- Wrapping succeeds and gives the next handle. -/
theorem run_wrap : (wrap d p).run w = .ok (handleAt w.holders.length) (w.wrapped d p) := by
  have hresult : (w.table.insert (handleAt w.holders.length) d.typeName ()).result = .ok () := by
    rw [Live.Table.insert_eq (handleAt_ne_zero _) hw.get?_next]
  simp only [wrap, EStateM.run_bind, EStateM.run_get, EStateM.run_modify, Act.run_onTable, hresult]
  rfl

end Wrapped

/-! ### Orderly worlds -/

/-- A payload that may be wrapped: its drop raises nothing of its own, and the things that it uses
up are neither used up nor behind another handle.  So nothing is wrapped twice. -/
structure Admits (w : World) (p : Payload) : Prop extends p.Quiet where
  unused : ∀ t ∈ p.things, w.isExpired t = false
  unheld : ∀ t ∈ p.things, ∀ k, ¬ w.Holds k t

/-- The drops of what is held raise nothing of their own, and what they use up is not used up yet
and is behind one handle only.  This is more than a calm world needs, and it does not depend on what
is lent. -/
structure Orderly (w : World) : Prop where
  quiet : ∀ h p, w.payload? h = some p → p.Quiet
  unused : ∀ h t, w.Holds h t → w.isExpired t = false
  unshared : ∀ h k t, w.Holds h t → w.Holds k t → k = h

namespace Orderly

variable {w w' : World} (hw : w.Orderly)
include hw

theorem calm : w.Calm := by
  intro h p hp
  refine ⟨hw.quiet h p hp, ?_, ?_⟩
  · intro t ht
    exact hw.unused h t ⟨p, hp, ht⟩
  · intro t ht k _ hk
    exact hw.unshared h k t ⟨p, hp, ht⟩ hk

/-- What is held later was held before, and nothing of it was used up since. -/
theorem mono (hquiet : ∀ h p, w'.payload? h = some p → p.Quiet)
    (hholds : ∀ h t, w'.Holds h t → w.Holds h t ∧ (w'.isExpired t → w.isExpired t)) :
    w'.Orderly where
  quiet := hquiet
  unused h t ht := by
    obtain ⟨hold, hexp⟩ := hholds h t ht
    by_contra hused
    have hbefore := hexp (by simpa using hused)
    simp [hw.unused h t hold] at hbefore
  unshared h k t ht hk := hw.unshared h k t (hholds h t ht).1 (hholds k t hk).1

theorem congr (hholders : w'.holders = w.holders) (hexpired : w'.expired = w.expired) :
    w'.Orderly := by
  have hpayload := payload?_congr hholders
  refine hw.mono ?_ ?_
  · intro h p hp
    exact hw.quiet h p (hpayload h ▸ hp)
  · rintro h t ⟨p, hp, ht⟩
    refine ⟨⟨p, hpayload h ▸ hp, ht⟩, ?_⟩
    rw [isExpired, isExpired, hexpired]
    exact id

theorem answered {h : Handle} {p : Payload} (hp : w.payload? h = some p) :
    (w.answered h p).Orderly := by
  refine hw.mono ?_ fun k t hk => ⟨holds_answered hp hk, id⟩
  intro k q hq
  rw [payload?_answered hp] at hq
  split at hq
  · -- how often a payload was asked does not matter for its drop
    obtain rfl := Option.some.inj hq
    exact ⟨(hw.quiet h p hp).raises, (hw.quiet h p hp).nodup⟩
  · exact hw.quiet k q hq

theorem emptied {h : Handle} {p : Payload} (hp : w.payload? h = some p) (he : Emptied h p w w') :
    w'.Orderly := by
  refine hw.mono ?_ ?_
  · intro k q hq
    exact hw.quiet k q (he.of_payload hq).2
  · rintro k t ⟨q, hq, ht⟩
    obtain ⟨hkh, hq⟩ := he.of_payload hq
    refine ⟨⟨q, hq, ht⟩, ?_⟩
    intro hexp
    -- what was used up now is the other payload's
    rcases he.expired_of t hexp with hold | hnew
    · exact hold
    · exact absurd (hw.unshared h k t ⟨p, hp, hnew⟩ ⟨q, hq, ht⟩) hkh

theorem wrapped (hkept : w.WellKept) (d : Descriptor) {p : Payload} (hp : w.Admits p) :
    (w.wrapped d p).Orderly where
  quiet h q hq := by
    rw [payload?_wrapped hkept] at hq
    split at hq
    · obtain rfl := Option.some.inj hq
      exact hp.toQuiet
    · exact hw.quiet h q hq
  unused h t ht := by
    rcases holds_wrapped hkept ht with ⟨-, hnew⟩ | hold
    · exact hp.unused t hnew
    · exact hw.unused h t hold
  unshared h k t ht hk := by
    -- the new payload shares nothing with the old ones
    rcases holds_wrapped hkept ht with ⟨hh, hnew⟩ | hold
    · rcases holds_wrapped hkept hk with ⟨hk, -⟩ | hk
      · exact hk.trans hh.symm
      · exact absurd hk (hp.unheld t hnew k)
    · rcases holds_wrapped hkept hk with ⟨-, hnew⟩ | hk
      · exact absurd hold (hp.unheld t hnew h)
      · exact hw.unshared h k t hold hk

end Orderly

/-! ### What a handle may be used for -/

theorem refusal?_eq_none (w : World) (h : Handle) :
    w.refusal? h = none ↔ w.isLive h ∧ (w.payload? h).isSome := by
  unfold refusal?
  cases w.isLive h <;> cases w.payload? h <;> simp

theorem refusalLent?_eq_none (w : World) (h : Handle) :
    w.refusalLent? h = none ↔ w.isLive h ∧ (w.payload? h).isSome ∧ w.isLent h := by
  unfold refusalLent?
  cases hr : w.refusal? h with
  | none =>
      obtain ⟨hlive, hp⟩ := (w.refusal?_eq_none h).1 hr
      cases w.isLent h <;> simp [hlive, hp]
  | some f =>
      have hno : ¬ (w.isLive h ∧ (w.payload? h).isSome) := by
        rw [← refusal?_eq_none, hr]
        simp
      simp only [reduceCtorEq, false_iff, not_and]
      intro hlive hp
      exact absurd ⟨hlive, hp⟩ hno

/-- A handle is refused because it is not live, or else because the protocol forbids its use. -/
theorem kind_refusalLent? {w : World} {h : Handle} {f : Failure} (hf : w.refusalLent? h = some f) :
    f.head?.map (·.kind) = some (if w.isLive h then .protocol else .invalidHandle) := by
  unfold refusalLent? refusal? at hf
  cases hlive : w.isLive h with
  | false =>
      obtain rfl : Failure.invalidHandle .dispatch h = f := by simpa [hlive] using hf
      rfl
  | true =>
      obtain ⟨detail, rfl⟩ : ∃ detail, Failure.protocol .dispatch h detail = f := by
        cases hp : w.payload? h with
        | none => exact ⟨_, by simpa [hlive, hp] using hf⟩
        | some p =>
            cases hlent : w.isLent h with
            | false => exact ⟨_, by simpa [hlive, hp, hlent] using hf⟩
            | true => simp [hlive, hp, hlent] at hf
      rfl

/-- The proxy that a handle has now. -/
def proxy (w : World) (h : Handle) : Proxy where
  descriptor := ((w.holder? h).filter (·.payload.isSome)).map (·.descriptor)
  handle := h

/-- The proxy of a handle, unless its use is refused. -/
def proxyUnless (w : World) (h : Handle) : Option Failure → Except Failure Proxy
  | some f => .error f
  | none => .ok (w.proxy h)

theorem descriptor_proxy (w : World) (h : Handle) :
    (w.proxy h).descriptor.isSome = (w.payload? h).isSome := by
  rw [proxy, payload?]
  cases w.holder? h with
  | none => rfl
  | some x => cases hp : x.payload <;> simp [hp, Option.filter]

theorem isSome_descriptor_proxy {w : World} {h : Handle} {p : Payload}
    (hp : w.payload? h = some p) : (w.proxy h).descriptor.isSome := by
  rw [descriptor_proxy, hp]
  rfl

end World

namespace Proxy

theorem run_ofHandle {h : Handle} (hh : h ≠ 0) (w : World) :
    (ofHandle h).run w = .ok (w.proxy h) w := by
  rw [ofHandle, if_neg hh]
  rfl

theorem run_lookup {w : World} (hw : w.WellKept) (h : Handle) :
    (lookup h).run w = .ok (w.proxyUnless h (w.refusal? h)) w := by
  simp only [lookup, EStateM.run_bind, EStateM.run_get]
  cases hr : w.refusal? h with
  | some f => rfl
  | none =>
      have hlive := ((w.refusal?_eq_none h).1 hr).1
      rw [EStateM.run_bind, run_ofHandle (hw.ne_zero_of_live hlive)]
      rfl

theorem run_lookupLent {w : World} (hw : w.WellKept) (h : Handle) :
    (lookupLent h).run w = .ok (w.proxyUnless h (w.refusalLent? h)) w := by
  simp only [lookupLent, EStateM.run_bind, EStateM.run_get]
  cases hr : w.refusalLent? h with
  | some f => rfl
  | none =>
      have hlive := ((w.refusalLent?_eq_none h).1 hr).1
      rw [EStateM.run_bind, run_ofHandle (hw.ne_zero_of_live hlive)]
      rfl

theorem run_number_of_some {q : Proxy} (hq : q.descriptor.isSome) (w : World) :
    q.number.run w = (numberSlot q.handle).run w := by
  rw [number, if_neg (by simpa [Option.isSome_iff_ne_none] using hq)]

theorem run_number_of_none {q : Proxy} (hq : q.descriptor = none) (w : World) :
    q.number.run w = .error .emptySlot w := by
  simp [number, hq]

theorem run_drop_of_some {q : Proxy} (hq : q.descriptor.isSome) (w : World) :
    q.drop.run w = (destroySlot q.handle).run w := by
  rw [drop, if_neg (by simpa [Option.isSome_iff_ne_none] using hq)]

theorem run_drop_of_none {q : Proxy} (hq : q.descriptor = none) (w : World) :
    q.drop.run w = .error .emptySlot w := by
  simp [drop, hq]

theorem run_intoHandle (q : Proxy) (w : World) :
    q.intoHandle.run w = .ok q.handle (w.told (w.table.lend q.handle)) := by
  rw [intoHandle, lend, EStateM.run_bind, Act.run_onTable]
  rfl

end Proxy

/-- Destroying the object behind a handle whose drop raises no fault. -/
theorem dropHandle_ok {w : World} {h : Handle} {p : Payload} (hw : w.WellKept)
    (hp : w.payload? h = some p) (hfree : w.DropsFreely h p) :
    ∃ w', (dropHandle h).run w = .ok () w' ∧ World.Destroyed h p w w' := by
  obtain ⟨w', hslot, hd⟩ := destroySlot_ok hp hfree
  refine ⟨w', ?_, hd⟩
  rw [dropHandle, Act.run_bind_ok (Proxy.run_ofHandle (hw.ne_zero_of_payload hp) w),
    Proxy.run_drop_of_some (World.isSome_descriptor_proxy hp)]
  exact hslot

theorem run_reclaim (h : Handle) (w : World) : (reclaim h).run w =
    if w.isLive h then .ok true (w.told (w.table.reclaim h)) else .ok false w := by
  rw [reclaim, EStateM.run_bind, EStateM.run_get]
  cases hlive : w.isLive h with
  | false => simp [hlive]
  | true =>
      simp only [hlive, Bool.not_true, Bool.false_eq_true, if_false, if_true]
      rw [EStateM.run_bind, Act.run_onTable]
      rfl

theorem Deed.run_take (d : Deed) (w : World) : d.take.run w =
    if d.isValid then .ok d.handle w
    else .error (.failure (.protocol .boundary 0 "handle already taken")) w := by
  rw [take]
  split <;> rfl

end Handover
