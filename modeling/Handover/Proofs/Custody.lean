/-
**One object in hand.**

An owner makes reference things one after another and has at most one of them in hand.  The one in
hand may be asked, destroyed, or given to a call of the entry point, which may do with other objects
what it likes.  This module says what is known of everything that the owner has made: the thing in
hand is there and not lent, and each of the others was destroyed exactly once.

Main definitions:

* `Handover.World.Owned`, `Handover.World.Ended` — a thing in hand, and one that is destroyed, with
  all that was told of it;
* `Handover.World.Custody` — everything that was made since `w₀`, and the thing that is in hand;
* `Handover.World.Leads` — a world that the steps of a call lead to.

Main results:

* `Handover.World.Custody.of_leads` — **what a call does with the thing in hand disturbs none that
  is destroyed**;
* `Handover.World.Custody.wrapReference`, `Handover.World.Custody.dropHandle`,
  `Handover.World.Custody.serve` — making a thing, destroying it and giving it to the entry point.
-/

import Handover.Proofs.Stability

set_option autoImplicit false

namespace Handover

namespace World

/-! ### Objects that are destroyed -/

/-- A mark is told of the handle that is marked. -/
theorem eventsOf_marking_of_ne (w : World) {h k : Handle} (hkh : k ≠ h) (kind : Live.EventKind)
    (isLent cond : Bool) :
    (w.told (w.table.marking h kind isLent cond)).eventsOf k = w.eventsOf k := by
  have htold := events_told w (w.table.marking h kind isLent cond)
  rw [Live.Table.event_marking] at htold
  cases cond with
  | true => simp [eventsOf_of_events htold, hkh.symm]
  | false => simp [eventsOf, htold]

/-- The records go together, and nothing has happened to what is behind `k` since `w₁`. -/
structure Undisturbed (k : Handle) (w₁ w : World) : Prop extends Apart k w₁ w where
  kept : w.WellKept

/-- A call reaches its own object and objects that are lent; one that is destroyed is neither. -/
theorem stable_undisturbed {h k : Handle} (hkh : k ≠ h) {w₁ : World} (hdead : w₁.isLive k = false) :
    Stable h (Undisturbed k w₁) := by
  have hother : ∀ {w j}, Undisturbed k w₁ w → j = h ∨ w.isLent j → k ≠ j := by
    rintro w j hw hj rfl
    rcases hj with rfl | hlent
    · exact hkh rfl
    · have hlive := isLive_of_isLent hlent
      rw [isLive_eq, hw.table, ← isLive_eq, hdead] at hlive
      cases hlive
  refine ⟨fun hw => hw.kept, ?_, ?_, ?_, ?_, ?_⟩
  · intro w w' hw hwritten
    exact ⟨hw.toApart.trans (hwritten.apart k), hwritten.wellKept hw.kept⟩
  · intro w j p hw hj hp
    have ha : Answered j p w (w.answered j p) := (OnlyWritten.refl _).answered
    exact ⟨hw.toApart.trans (ha.apart (hother hw hj)), hw.kept.answered hp⟩
  · intro w j p hw hj hp
    refine ⟨hw.toApart.trans ?_, hw.kept.destroySlot hp⟩
    rcases destroySlot_cases hp with ⟨w', hrun, hd⟩ | ⟨e, w', hrun, hb⟩
    · rw [Act.after_of_ok hrun]
      exact hd.apart (hother hw hj)
    · rw [Act.after_of_error hrun]
      exact hb.apart (hother hw hj)
  · intro w hw
    refine ⟨hw.toApart.trans ⟨?_, rfl, eventsOf_marking_of_ne w hkh _ _ _, rfl, fun t ht => ht⟩,
      hw.kept.lent h⟩
    rw [table_told, Live.Table.get?_lend, if_neg hkh]
  · intro w hw
    refine ⟨hw.toApart.trans ⟨?_, rfl, eventsOf_marking_of_ne w hkh _ _ _, rfl, fun t ht => ht⟩,
      hw.kept.reclaimed h⟩
    rw [table_told, Live.Table.get?_reclaim, if_neg hkh]

/-! ### Things that were made -/

/-- What is held are things that were made. -/
def ThingsMade (w : World) : Prop := ∀ k t, w.Holds k t → t < w.expired.length

theorem ThingsMade.mono {w w' : World} (hw : w.ThingsMade)
    (hholds : ∀ k t, w'.Holds k t → w.Holds k t)
    (hlength : w.expired.length ≤ w'.expired.length) : w'.ThingsMade :=
  fun k t ht => Nat.lt_of_lt_of_le (hw k t (hholds k t ht)) hlength

/-- The records go together, the holders are those of the handles `hs`, and they hold things that
were made. -/
structure Stocked (hs : List Handle) (w : World) : Prop extends KeptFor hs w where
  things : w.ThingsMade

/-- Calls make no thing and no holder. -/
theorem stable_stocked (h : Handle) (hs : List Handle) : Stable h (Stocked hs) where
  kept hw := hw.kept
  written {w w'} hw hwritten := by
    refine ⟨(stable_keptFor h hs).written hw.toKeptFor hwritten, ?_⟩
    obtain ⟨marks, -, rfl⟩ := hwritten
    exact hw.things
  answered hw hk hp :=
    ⟨(stable_keptFor h hs).answered hw.toKeptFor hk hp,
      hw.things.mono (fun _ _ ht => holds_answered hp ht) (Nat.le_refl _)⟩
  destroyed {w k p} hw hk hp := by
    have he := emptied_destroySlot hp
    refine ⟨(stable_keptFor h hs).destroyed hw.toKeptFor hk hp, hw.things.mono ?_ ?_⟩
    · rintro j t ⟨q, hq, ht⟩
      exact ⟨q, (he.of_payload hq).2, ht⟩
    · exact Nat.le_of_eq he.expired_length.symm
  lent hw := ⟨(stable_keptFor h hs).lent hw.toKeptFor, hw.things⟩
  reclaimed hw := ⟨(stable_keptFor h hs).reclaimed hw.toKeptFor, hw.things⟩

/-! ### Custody -/

/-- What observers can be told of a thing that is destroyed: it was destroyed by its owner; or it was
lent, and then destroyed, by the script or after it was taken back. -/
def lives : List (List Live.EventKind) :=
  [[.created, .dropped], [.created, .lent, .dropped], [.created, .lent, .reclaimed, .dropped]]

/-- The thing behind `h` was made since `w₀`.  It is there, it is not lent, it answers, and its drop
will raise no fault. -/
structure Owned (w₀ : World) (h : Handle) (w : World) : Prop where
  made : w₀.holder? h = none
  unlent : w.isLent h = false
  payload : ∃ p n, w.payload? h = some p ∧ p.reply = .ok n ∧ w.DropsFreely h p
  told : w.eventsOf h = w₀.eventsOf h ++ [.created]

/-- The thing behind `h` was destroyed exactly once, and so the observers were told. -/
structure Ended (w₀ : World) (h : Handle) (w : World) : Prop extends Spent h w where
  told : ∃ life ∈ lives, w.eventsOf h = w₀.eventsOf h ++ life

/-- What is known of all that was made since `w₀`, of which one thing may be in hand: each of the
others was destroyed. -/
structure Custody (w₀ : World) (hand : Option Handle) (w : World) : Prop where
  kept : w.WellKept
  things : w.ThingsMade
  older : ∀ k, (w₀.holder? k).isSome → (w.holder? k).isSome
  unmade : ∀ k, w.holder? k = none → w.eventsOf k = w₀.eventsOf k
  owned : ∀ h, hand = some h → Owned w₀ h w
  ended : ∀ k, w₀.holder? k = none → (w.holder? k).isSome → hand ≠ some k → Ended w₀ k w

variable {w₀ w w' : World} {h k : Handle}

theorem Ended.congr (hended : Ended w₀ k w) (htable : w'.table.get? k = w.table.get? k)
    (hholder : w'.holder? k = w.holder? k) (hevents : w'.eventsOf k = w.eventsOf k) :
    Ended w₀ k w' where
  dead := by
    rw [isLive_eq, htable]
    exact hended.dead
  drops := by
    rw [World.drops, hholder]
    exact hended.drops
  told := by
    rw [hevents]
    exact hended.told

theorem Apart.ended (ha : Apart k w w') (hended : Ended w₀ k w) : Ended w₀ k w' :=
  hended.congr ha.table ha.holder ha.events

theorem Gone.ended {told : List Live.EventKind} {p : Payload} (hgone : Gone told h p w w')
    (howned : Owned w₀ h w) (htold : .created :: told ∈ lives) : Ended w₀ h w' where
  dead := hgone.dead
  drops := hgone.drops
  told := by
    refine ⟨_, htold, ?_⟩
    rw [hgone.events, howned.told, List.append_assoc]
    rfl

namespace Owned

theorem payload_isSome (howned : Owned w₀ h w) : (w.payload? h).isSome := by
  obtain ⟨p, -, hp, -⟩ := howned.payload
  simp [hp]

theorem live (howned : Owned w₀ h w) (hw : w.WellKept) : w.isLive h :=
  hw.live h howned.payload_isSome

theorem drops (howned : Owned w₀ h w) (hw : w.WellKept) : w.drops h = 0 := by
  obtain ⟨p, -, hp, -⟩ := howned.payload
  exact hw.drops_of_payload hp

theorem apart (howned : Owned w₀ h w) (ha : Apart h w w')
    (hfree : ∀ p, w.DropsFreely h p → w'.DropsFreely h p) : Owned w₀ h w' := by
  obtain ⟨p, n, hp, hreply, hdrops⟩ := howned.payload
  refine ⟨howned.made, ?_, ⟨p, n, ?_, hreply, hfree p hdrops⟩, ?_⟩
  · rw [isLent_eq, ha.table]
    exact howned.unlent
  · rwa [payload?, ha.holder]
  · rw [ha.events, howned.told]

/-- A thing that has answered is asked again. -/
theorem answered (howned : Owned w₀ h w) {p : Payload} (hp : w.payload? h = some p)
    (ha : Answered h p w w') : Owned w₀ h w' := by
  obtain ⟨q, n, hq, hreply, hfree⟩ := howned.payload
  obtain rfl : p = q := Option.some.inj (hp.symm.trans hq)
  have hp' : w'.payload? h = some { p with calls := p.calls + 1 } := by
    rw [ha.payload?_eq, payload?_answered hp, if_pos rfl]
  obtain ⟨n', hreply'⟩ := Payload.exists_reply hreply (p.calls + 1)
  refine ⟨howned.made, ?_, ⟨_, n', hp', hreply', (ha.dropsFreely hp hfree).asked _⟩, ?_⟩
  · rw [isLent_eq, ha.table]
    exact howned.unlent
  · rw [eventsOf, ha.events]
    exact howned.told

end Owned

/-- A handle that was never made is not live. -/
theorem WellKept.dead_of_holder (hw : w.WellKept) (hk : w.holder? k = none) :
    w.isLive k = false := by
  by_contra hlive
  have hsome := hw.held k (by simpa using hlive)
  simp [hk] at hsome

/-- The steps of a call with the handle `h` lead from the one world to the other. -/
def Leads (h : Handle) (w w' : World) : Prop := ∀ P : World → Prop, Stable h P → P w → P w'

theorem leads_of_keeps {α : Type} {act : Act α} {a : α}
    (hkeeps : ∀ P : World → Prop, Stable h P → act.Keeps P) (hrun : act.run w = .ok a w') :
    Leads h w w' := by
  intro P hP hw
  rw [← Act.after_of_ok hrun]
  exact hkeeps P hP w hw

namespace Custody

/-- Before anything is made. -/
theorem start (hkept : w₀.WellKept) (hthings : w₀.ThingsMade) : Custody w₀ none w₀ where
  kept := hkept
  things := hthings
  older _ hk := hk
  unmade _ _ := rfl
  owned _ hh := by cases hh
  ended k hmade hk _ := by simp [hmade] at hk

/-- **What a call does with the thing in hand disturbs none that is destroyed.**  Afterwards the thing
is still in hand, or it is destroyed too. -/
theorem of_leads (hc : Custody w₀ (some h) w) (hleads : Leads h w w') {hand : Option Handle}
    (hhand : hand = some h ∧ Owned w₀ h w' ∨ hand = none ∧ Ended w₀ h w') :
    Custody w₀ hand w' := by
  have hstocked : Stocked (w.holders.map Prod.fst) w' :=
    hleads _ (stable_stocked h _) ⟨⟨hc.kept, rfl⟩, hc.things⟩
  have hholders := isSome_holder?_congr hstocked.handles
  -- what is not live cannot be reached by the call
  have hapart : ∀ k, k ≠ h → w.isLive k = false → Apart k w w' := by
    intro k hkh hdead
    have hrefl : Undisturbed k w w := ⟨⟨rfl, rfl, rfl, rfl, fun t ht => ht⟩, hc.kept⟩
    exact (hleads _ (stable_undisturbed hkh hdead) hrefl).toApart
  refine ⟨hstocked.kept, hstocked.things, ?_, ?_, ?_, ?_⟩
  · intro k hk
    rw [hholders]
    exact hc.older k hk
  · intro k hk
    have hnone : w.holder? k = none := by
      rw [← Option.isNone_iff_eq_none, ← Option.not_isSome, ← hholders, hk]
      rfl
    have hkh : k ≠ h := by
      rintro rfl
      have hsome := isSome_holder?_of_payload (hc.owned k rfl).payload_isSome
      simp [hnone] at hsome
    rw [(hapart k hkh (hc.kept.dead_of_holder hnone)).events]
    exact hc.unmade k hnone
  · rintro k rfl
    rcases hhand with ⟨heq, howned⟩ | ⟨heq, -⟩
    · obtain rfl := Option.some.inj heq
      exact howned
    · cases heq
  · intro k hmade hk hne
    by_cases hkh : k = h
    · subst hkh
      rcases hhand with ⟨heq, -⟩ | ⟨-, hended⟩
      · exact absurd heq hne
      · exact hended
    · rw [hholders] at hk
      have hended := hc.ended k hmade hk (fun heq => hkh (Option.some.inj heq).symm)
      exact (hapart k hkh hended.dead).ended hended

/-- Nothing has happened to any object. -/
theorem of_apart {hand : Option Handle} (hc : Custody w₀ hand w) (hkept : w'.WellKept)
    (ha : ∀ k, Apart k w w') (hexpired : w'.expired = w.expired) : Custody w₀ hand w' := by
  have hholder : ∀ k, w'.holder? k = w.holder? k := fun k => (ha k).holder
  have hholds : ∀ k t, w'.Holds k t → w.Holds k t := by
    rintro k t ⟨p, hp, ht⟩
    rw [payload?, hholder] at hp
    exact ⟨p, hp, ht⟩
  have hthings : w'.ThingsMade := hc.things.mono hholds (Nat.le_of_eq (by rw [hexpired]))
  refine ⟨hkept, hthings, ?_, ?_, ?_, ?_⟩
  · intro k hk
    rw [hholder]
    exact hc.older k hk
  · intro k hk
    rw [hholder] at hk
    rw [(ha k).events]
    exact hc.unmade k hk
  · intro k hk
    refine (hc.owned k hk).apart (ha k) fun p hfree => hfree.mono ?_ ?_
    · intro t _ ht
      rwa [isExpired, hexpired] at ht
    · intro j t _ hlent hj
      rw [isLent_eq, (ha j).table] at hlent
      exact ⟨hlent, hholds j t hj⟩
  · intro k hmade hk hne
    rw [hholder] at hk
    exact (ha k).ended (hc.ended k hmade hk hne)

/-- What is written does not matter. -/
theorem written {hand : Option Handle} (hc : Custody w₀ hand w) (hwritten : OnlyWritten w w') :
    Custody w₀ hand w' := by
  refine hc.of_apart (hwritten.wellKept hc.kept) hwritten.apart ?_
  obtain ⟨marks, -, rfl⟩ := hwritten
  rfl

/-- Nor does it matter who is told. -/
theorem observed {hand : Option Handle} (hc : Custody w₀ hand w) {t : Live.Table Unit Observer}
    (ht : t.backend = w.table.backend) : Custody w₀ hand { w with table := t } := by
  refine hc.of_apart (hc.kept.congr ht rfl) ?_ rfl
  intro k
  refine ⟨?_, rfl, rfl, rfl, fun _ hexp => hexp⟩
  rw [Live.Table.get?, Live.Table.get?, ht]

/-- The thing in hand answers, and stays in hand. -/
theorem number (hc : Custody w₀ (some h) w) :
    ∃ n w', (Proxy.ofHandle h >>= Proxy.number).run w = .ok n w' ∧ Custody w₀ (some h) w' := by
  have howned := hc.owned h rfl
  obtain ⟨p, n, hp, hreply, -⟩ := howned.payload
  refine ⟨n, w.answered h p, ?_, ?_⟩
  · rw [Act.run_bind_ok (Proxy.run_ofHandle (hc.kept.ne_zero_of_payload hp) w),
      Proxy.run_number_of_some (isSome_descriptor_proxy hp)]
    exact (run_numberSlot_of_some hp).trans (by rw [hreply])
  · have hleads : Leads h w (w.answered h p) := fun P hP hw => hP.answered hw (Or.inl rfl) hp
    exact hc.of_leads hleads (Or.inl ⟨rfl, howned.answered hp (OnlyWritten.refl _).answered⟩)

/-- Destroying the thing in hand. -/
theorem dropHandle (hc : Custody w₀ (some h) w) :
    ∃ w', (dropHandle h).run w = .ok () w' ∧ Custody w₀ none w' := by
  have howned := hc.owned h rfl
  obtain ⟨p, -, hp, -, hfree⟩ := howned.payload
  obtain ⟨w', hrun, hd⟩ := dropHandle_ok hc.kept hp hfree
  have hgone : Gone ([] ++ [.dropped]) h p w w' :=
    hd.gone (n := p.calls) hc.kept hp rfl (List.append_nil _).symm
  refine ⟨w', hrun, hc.of_leads (leads_of_keeps (fun P hP => hP.dropHandle) hrun) (Or.inr ⟨rfl, ?_⟩)⟩
  exact hgone.ended howned (by decide)

/-- Giving the thing in hand to the entry point, whatever becomes of the script. -/
theorem serve (hc : Custody w₀ (some h) w) (e : Entry) (c : Conduct) :
    ∃ outcome w', (e.serve c ⟨h⟩).run w = .ok outcome w' ∧ Custody w₀ none w' := by
  have howned := hc.owned h rfl
  obtain ⟨p, n, hp, hreply, hfree⟩ := howned.payload
  have hlent : ¬ w.isLent h := by simp [howned.unlent]
  obtain ⟨outcome, w', hrun, hgone⟩ := e.serve_gone c hc.kept hlent hp hreply hfree
  refine ⟨outcome, w', hrun,
    hc.of_leads (leads_of_keeps (fun P hP => hP.serve e c) hrun) (Or.inr ⟨rfl, ?_⟩)⟩
  refine hgone.ended howned ?_
  split <;> decide

end Custody

/-! ### Making a thing -/

/-- Wrapping is told of the new handle. -/
theorem eventsOf_wrapped (hw : w.WellKept) (d : Descriptor) (p : Payload) (k : Handle) :
    (w.wrapped d p).eventsOf k =
      w.eventsOf k ++ if handleAt w.holders.length = k then [.created] else [] := by
  have hevents : (w.wrapped d p).events = w.events ++
      ((some { typeName := d.typeName, value := () } : Option (Live.Entry Unit)).map
        (Live.Table.eventOf .created (handleAt w.holders.length))).toList := by
    rw [wrapped, events_noted, events_told, Live.Table.insert_eq (handleAt_ne_zero _) hw.get?_next]
    simp [Mark.event?]
    rfl
  simp [eventsOf_of_events hevents]

/-- A reference thing without hooks uses up itself and raises nothing. -/
theorem things_reference {r : Reference} (hhooks : r.hooks = []) (t : Nat) :
    (Payload.reference r t).things = [t] := by
  cases hd : r.diagnostics <;>
    simp [Payload.things, Payload.reference, DropStep.things, DropStep.thing?, hhooks, hd]

/-- The world with one more thing. -/
def supplied (w : World) : World := { w with expired := w.expired ++ [false] }

theorem run_wrapReference (hw : w.WellKept) (r : Reference) : (wrapReference r).run w =
    .ok (handleAt w.holders.length)
      (w.supplied.wrapped .reference (.reference r w.expired.length)) := by
  have hnew : newThing.run w = .ok w.expired.length w.supplied := rfl
  have hkept : w.supplied.WellKept := hw.congr rfl rfl
  rw [wrapReference, Act.run_bind_ok hnew, run_wrap hkept]
  rfl

/-- A new thing is behind no other handle and was not used up. -/
theorem ThingsMade.dropsFreely (hthings : w.ThingsMade) (hw : w.WellKept) {r : Reference}
    (hhooks : r.hooks = []) :
    (w.supplied.wrapped .reference (.reference r w.expired.length)).DropsFreely
      (handleAt w.holders.length) (.reference r w.expired.length) := by
  have hkept : w.supplied.WellKept := hw.congr rfl rfl
  have hown := things_reference hhooks w.expired.length
  refine ⟨⟨?_, by simp [hown]⟩, ?_, ?_⟩
  · intro text
    cases hd : r.diagnostics <;> simp [Payload.reference, hhooks, hd]
  · intro t ht
    obtain rfl : t = w.expired.length := by simpa [hown] using ht
    show ((w.expired ++ [false])[w.expired.length]?).getD false = false
    simp
  · intro t ht k _ hk
    obtain rfl : t = w.expired.length := by simpa [hown] using ht
    rcases holds_wrapped hkept hk with ⟨hnext, -⟩ | hold
    · exact hnext
    · exact absurd (hthings k _ hold) (Nat.lt_irrefl _)

theorem ThingsMade.wrapped (hthings : w.ThingsMade) (hw : w.WellKept) {r : Reference}
    (hhooks : r.hooks = []) :
    (w.supplied.wrapped .reference (.reference r w.expired.length)).ThingsMade := by
  have hkept : w.supplied.WellKept := hw.congr rfl rfl
  intro k t hk
  show t < (w.expired ++ [false]).length
  rw [List.length_append, List.length_singleton]
  rcases holds_wrapped hkept hk with ⟨-, ht⟩ | hold
  · rw [things_reference hhooks, List.mem_singleton] at ht
    omega
  · have hlt := hthings k t hold
    omega

/-- Making a thing: it is in hand. -/
theorem Custody.wrapReference (hc : Custody w₀ none w) {r : Reference} (hhooks : r.hooks = []) :
    ∃ h w', (wrapReference r).run w = .ok h w' ∧ Custody w₀ (some h) w' := by
  obtain ⟨h, hnext⟩ : ∃ h, h = handleAt w.holders.length := ⟨_, rfl⟩
  obtain ⟨w', hw'⟩ : ∃ w', w' = w.supplied.wrapped .reference (.reference r w.expired.length) :=
    ⟨_, rfl⟩
  have hkept : w.supplied.WellKept := hc.kept.congr rfl rfl
  -- the new world, seen through its views
  have hholder (k : Handle) : w'.holder? k = if k = h then some {
      descriptor := .reference, payload := some (.reference r w.expired.length) }
      else w.holder? k := by
    rw [hw', hnext]
    exact holder?_wrapped hkept _ _ k
  have htable (k : Handle) : w'.table.get? k = if k = h then some {
      typeName := Descriptor.reference.typeName, value := () } else w.table.get? k := by
    rw [hw', hnext]
    exact get?_wrapped hkept _ _ k
  have hevents (k : Handle) :
      w'.eventsOf k = w.eventsOf k ++ if h = k then [.created] else [] := by
    rw [hw', hnext]
    exact eventsOf_wrapped hkept _ _ k
  have hfresh : w.holder? h = none := hnext ▸ hc.kept.holder?_next
  refine ⟨h, w', ?_, ?_, ?_, ?_, ?_, ?_, ?_⟩
  · rw [hw', hnext]
    exact run_wrapReference hc.kept r
  · rw [hw']
    exact hkept.wrapped _ _
  · rw [hw']
    exact hc.things.wrapped hc.kept hhooks
  · intro k hk
    rw [hholder]
    split
    · rfl
    · exact hc.older k hk
  · intro k hk
    rw [hholder] at hk
    split at hk
    · cases hk
    · rename_i hkh
      rw [hevents, if_neg (Ne.symm hkh), List.append_nil]
      exact hc.unmade k hk
  · intro k hhand
    obtain rfl := Option.some.inj hhand
    refine ⟨?_, ?_, ⟨.reference r w.expired.length, r.number, ?_, rfl, ?_⟩, ?_⟩
    · by_contra hsome
      have hold := hc.older h (Option.isSome_iff_ne_none.2 hsome)
      simp [hfresh] at hold
    · rw [isLent_eq, htable, if_pos rfl]
      rfl
    · rw [payload?, hholder, if_pos rfl]
      rfl
    · rw [hw', hnext]
      exact hc.things.dropsFreely hc.kept hhooks
    · rw [hevents, if_pos rfl, hc.unmade h hfresh]
  · intro k hmade hk hne
    have hkh : k ≠ h := fun heq => hne (congrArg some heq.symm)
    rw [hholder, if_neg hkh] at hk
    refine (hc.ended k hmade hk (by simp)).congr ?_ ?_ ?_
    · rw [htable, if_neg hkh]
    · rw [hholder, if_neg hkh]
    · rw [hevents, if_neg hkh.symm, List.append_nil]

end World

end Handover
