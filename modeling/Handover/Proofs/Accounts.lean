/-
**The accounts agree.**

As long as no payload is wrapped twice and no drop raises a fault, the two records of an object
never drift apart: a handle is live exactly when there is a payload behind it, and both agree with
the ledger of the bench.  The proof is one invariant, `Handover.Bench.Sound`, which every fair
operation keeps.

Main definitions:

* `Handover.Op.Fair` — the operations that wrap no payload twice and trust no forged handle;
* `Handover.Bench.Sound` — the invariant;
* `Handover.Bench.Accounted` — what the ledger, the live table and the holders have to say about
  each other.

Main results:

* `Handover.Bench.Sound.step` — every fair operation keeps the invariant;
* `Handover.Bench.Sound.unchanged` — a fair operation that raises a fault changes nothing;
* `Handover.Bench.accounted_run` — **after any fair operations the accounts agree**.
-/

import Handover.Proofs.Bench
import Mathlib.Data.List.Nodup

set_option autoImplicit false

namespace Handover

/-- An operation that wraps no payload twice and trusts a handle only if wrapping returned it. -/
def Op.Fair (b : Bench) : Op → Prop
  | .wrap _ p | .grant _ p => b.world.Admits p
  | .ofHandle h => h ∈ b.wrapped.map Prod.fst
  | _ => True

/-- A proxy that was used up, or one of a handle that was made: it has slots unless it was made when
the holder was already empty. -/
def World.Knows (w : World) (q : Proxy) : Prop :=
  q = .poisoned ∨ ((w.holder? q.handle).isSome ∧
    (q.descriptor.isSome ∨ w.payload? q.handle = none))

/-- A proxy stays known while holders stay and empty ones stay empty. -/
theorem World.Knows.mono {w w' : World} {q : Proxy} (hq : w.Knows q)
    (hholder : ∀ k, (w.holder? k).isSome → (w'.holder? k).isSome)
    (hempty : ∀ k, (w.holder? k).isSome → w.payload? k = none → w'.payload? k = none) :
    w'.Knows q := by
  rcases hq with rfl | ⟨hsome, hslots | hnone⟩
  · exact Or.inl rfl
  · exact Or.inr ⟨hholder _ hsome, Or.inl hslots⟩
  · exact Or.inr ⟨hholder _ hsome, Or.inr (hempty _ hsome hnone)⟩

namespace Bench

/-! ### The invariant -/

/-- The ledger, the live table and the holders go together. -/
structure Sound (b : Bench) : Prop where
  kept : b.world.WellKept
  orderly : b.world.Orderly
  intact : ∀ h, b.world.isLive h → (b.world.payload? h).isSome
  handles : b.wrapped.map Prod.fst = b.world.holders.map Prod.fst
  emptied : ∀ h, h ∈ b.destroyed ↔ (b.world.holder? h).isSome ∧ b.world.payload? h = none
  count : b.world.liveCount + b.destroyed.length = b.wrapped.length
  /-- The payload behind a live handle is the one that went in, up to the number of its answers. -/
  payloads : ∀ h p, (h, p) ∈ b.wrapped → b.world.isLive h →
    b.world.payload? h = some { p with calls := p.calls + b.asked.count h }
  asked : ∀ h ∈ b.asked, (b.world.holder? h).isSome
  known : ∀ q ∈ b.proxies, b.world.Knows q

namespace Sound

variable {b : Bench}

theorem of_isEmpty {w : World} (hw : w.IsEmpty) : Sound { world := w } where
  kept := hw.wellKept
  orderly := by
    have hnone : ∀ h, w.payload? h = none := by simp [World.payload?, World.holder?, hw.holders]
    exact ⟨by simp [hnone], by simp [World.Holds, hnone], by simp [World.Holds, hnone]⟩
  intact h hlive := by
    have := hw.wellKept.held h hlive
    simp [World.holder?, hw.holders] at this
  handles := by simp [hw.holders]
  emptied h := by simp [World.holder?, hw.holders]
  count := by simp [World.liveCount, Live.Table.size, Live.Backend.size, hw.entries]
  payloads h p hp := by simp at hp
  asked h hh := by simp at hh
  known q hq := by simp at hq

/-- What is handed out may change as long as every proxy is known. -/
theorem handedOut (hb : b.Sound) {qs : List Proxy} (hqs : ∀ q ∈ qs, b.world.Knows q)
    (ds : List Deed) : Sound { b with proxies := qs, deeds := ds } :=
  { hb with known := hqs }

theorem mem_wrapped_iff (hb : b.Sound) (h : Handle) :
    h ∈ b.wrapped.map Prod.fst ↔ (b.world.holder? h).isSome := by
  rw [World.holder?, lookup_isSome_iff_mem, hb.handles]

theorem known_proxy (hb : b.Sound) (n : Nat) : b.world.Knows (b.proxy n) := by
  unfold proxy
  cases hget : b.proxies[n]? with
  | none => exact Or.inl rfl
  | some q => exact hb.known q (List.mem_of_getElem? hget)

/-- A proxy with slots is of a handle that was made. -/
theorem holder_of_descriptor (hb : b.Sound) {n : Nat} (hq : (b.proxy n).descriptor.isSome) :
    (b.world.holder? (b.proxy n).handle).isSome := by
  rcases hb.known_proxy n with hused | hknown
  · simp [hused, Proxy.poisoned] at hq
  · exact hknown.1

/-! ### What each change keeps -/

/-- Setting or clearing a mark. -/
theorem marked (hb : b.Sound) {w : World} (hw : w.WellKept) (hholders : w.holders = b.world.holders)
    (hexpired : w.expired = b.world.expired) (hlive : ∀ h, w.isLive h = b.world.isLive h)
    (hcount : w.liveCount = b.world.liveCount) : Sound { b with world := w } := by
  have hholder := World.holder?_congr hholders
  have hpayload := World.payload?_congr hholders
  constructor
  · exact hw
  · exact hb.orderly.congr hholders hexpired
  · intro h
    rw [hlive, hpayload]
    exact hb.intact h
  · exact hb.handles.trans (by rw [hholders])
  · intro h
    rw [hholder, hpayload]
    exact hb.emptied h
  · rw [hcount]
    exact hb.count
  · intro h p hp
    rw [hlive, hpayload]
    exact hb.payloads h p hp
  · intro h
    rw [hholder]
    exact hb.asked h
  · intro q hq
    have hknown := hb.known q hq
    rwa [World.Knows, ← hholder, ← hpayload] at hknown

/-- A question that the payload behind a handle answers. -/
theorem answered (hb : b.Sound) {h : Handle} {q : Payload} (hq : b.world.payload? h = some q) :
    Sound { b with world := b.world.answered h q, asked := b.asked ++ [h] } := by
  have hsome : ∀ k, ((b.world.answered h q).holder? k).isSome = (b.world.holder? k).isSome :=
    World.isSome_holder?_congr (World.handles_alter ..)
  have hnone : ∀ k, (b.world.answered h q).payload? k = none ↔ b.world.payload? k = none := by
    intro k
    rw [← Option.not_isSome_iff_eq_none, World.isSome_payload?_answered hq,
      Option.not_isSome_iff_eq_none]
  constructor
  · exact hb.kept.answered hq
  · exact hb.orderly.answered hq
  · intro k hk
    rw [World.isSome_payload?_answered hq]
    exact hb.intact k hk
  · exact hb.handles.trans (World.handles_alter ..).symm
  · intro k
    rw [hsome, hnone]
    exact hb.emptied k
  · exact hb.count
  · intro k p hp hk
    rw [World.payload?_answered hq]
    split
    · rename_i hkh
      subst hkh
      have hbefore := hb.payloads k p hp hk
      rw [hq] at hbefore
      simp [Option.some.inj hbefore, Nat.add_assoc]
    · rename_i hkh
      rw [List.count_append, List.count_singleton, if_neg (by simpa using Ne.symm hkh)]
      exact hb.payloads k p hp hk
  · intro k hk
    rw [hsome]
    rcases List.mem_append.1 hk with hk | hk
    · exact hb.asked k hk
    · obtain ⟨x, hx, -⟩ := World.payload?_eq_some hq
      simp [List.mem_singleton.1 hk, hx]
  · intro r hr
    exact (hb.known r hr).mono (fun k hk => by rwa [hsome]) fun k _ hk => (hnone k).2 hk

/-- A question that is answered although the holder is empty. -/
theorem askedEmpty (hb : b.Sound) {h : Handle} (hholder : (b.world.holder? h).isSome)
    (hnone : b.world.payload? h = none) : Sound { b with asked := b.asked ++ [h] } := by
  refine { hb with payloads := ?_, asked := ?_ }
  · intro k p hp hk
    have hkh : k ≠ h := by
      rintro rfl
      have hsome := hb.intact k hk
      simp [hnone] at hsome
    rw [List.count_append, List.count_singleton, if_neg (by simpa using hkh.symm)]
    exact hb.payloads k p hp hk
  · intro k hk
    rcases List.mem_append.1 hk with hk | hk
    · exact hb.asked k hk
    · rwa [List.mem_singleton.1 hk]

/-- A holder that was destroyed. -/
theorem destroyed (hb : b.Sound) {h : Handle} {q : Payload} {w : World}
    (hq : b.world.payload? h = some q) (hd : World.Destroyed h q b.world w) :
    Sound { b with world := w, destroyed := b.destroyed ++ [h] } := by
  have hsome : ∀ k, (w.holder? k).isSome = (b.world.holder? k).isSome :=
    World.isSome_holder?_congr hd.handles_eq
  have hlive : ∀ k, w.isLive k → k ≠ h ∧ b.world.isLive k := by
    intro k hk
    simpa [hd.isLive_eq] using hk
  constructor
  · exact hb.kept.destroyed hq hd
  · exact hb.orderly.emptied hq hd.toEmptied
  · intro k hk
    rw [hd.payload?_eq, if_neg (hlive k hk).1]
    exact hb.intact k (hlive k hk).2
  · exact hb.handles.trans hd.handles_eq.symm
  · intro k
    rw [List.mem_append, hb.emptied, List.mem_singleton, hsome, hd.payload?_eq]
    by_cases hkh : k = h
    · obtain ⟨x, hx, -⟩ := World.payload?_eq_some hq
      simp [hkh, hx]
    · simp [hkh]
  · have hsize := Live.Table.size_remove hb.kept.ordered (hb.kept.live h (by simp [hq]))
    have hcount := hb.count
    have hw : w.liveCount + 1 = b.world.liveCount := by
      rw [World.liveCount, hd.table]
      exact hsize
    simp only [List.length_append, List.length_singleton]
    omega
  · intro k p hp hk
    rw [hd.payload?_eq, if_neg (hlive k hk).1]
    exact hb.payloads k p hp (hlive k hk).2
  · intro k hk
    rw [hsome]
    exact hb.asked k hk
  · intro r hr
    refine (hb.known r hr).mono (fun k hk => by rwa [hsome]) ?_
    intro k _ hk
    rw [hd.payload?_eq, hk, ite_self]

/-- A payload that was wrapped. -/
theorem wrapped (hb : b.Sound) (d : Descriptor) {p : Payload} (hp : b.world.Admits p) :
    Sound { b with
      world := b.world.wrapped d p
      wrapped := b.wrapped ++ [(World.handleAt b.world.holders.length, p)] } := by
  have hnext := hb.kept.holder?_next
  have hholder : ∀ k, (b.world.holder? k).isSome →
      (b.world.wrapped d p).holder? k = b.world.holder? k := by
    intro k hk
    rw [World.holder?_wrapped hb.kept, if_neg]
    rintro rfl
    simp [hnext] at hk
  have hpayload : ∀ k, (b.world.holder? k).isSome →
      (b.world.wrapped d p).payload? k = b.world.payload? k := by
    intro k hk
    rw [World.payload?, World.payload?, hholder k hk]
  constructor
  · exact hb.kept.wrapped d p
  · exact hb.orderly.wrapped hb.kept d hp
  · intro k hk
    rw [World.isLive_wrapped hb.kept] at hk
    rw [World.payload?_wrapped hb.kept]
    split
    · rfl
    · rename_i hne
      exact hb.intact k (by simpa [hne] using hk)
  · show _ = (b.world.holders ++ [_]).map Prod.fst
    rw [List.map_append, List.map_append, hb.handles]
    rfl
  · intro k
    rw [hb.emptied, World.holder?_wrapped hb.kept, World.payload?_wrapped hb.kept]
    by_cases hk : k = World.handleAt b.world.holders.length
    · simp [hk, hnext]
    · simp [hk]
  · rw [World.liveCount_wrapped hb.kept, List.length_append, List.length_singleton]
    have hcount := hb.count
    show _ + 1 + b.destroyed.length = _
    omega
  · intro k r hr hk
    rcases List.mem_append.1 hr with hr | hr
    · have hmade : (b.world.holder? k).isSome :=
        (hb.mem_wrapped_iff k).1 (List.mem_map.2 ⟨_, hr, rfl⟩)
      have hne : k ≠ World.handleAt b.world.holders.length := by
        rintro rfl
        simp [hnext] at hmade
      rw [World.isLive_wrapped hb.kept] at hk
      rw [hpayload k hmade]
      exact hb.payloads k r hr (by simpa [hne] using hk)
    · -- the new handle was never asked before
      obtain ⟨rfl, rfl⟩ : k = World.handleAt b.world.holders.length ∧ r = p := by simpa using hr
      have hcount : b.asked.count (World.handleAt b.world.holders.length) = 0 := by
        refine List.count_eq_zero.2 fun hmem => ?_
        have hasked := hb.asked _ hmem
        simp [hnext] at hasked
      simp [World.payload?_wrapped hb.kept, hcount]
  · intro k hk
    rw [hholder k (hb.asked k hk)]
    exact hb.asked k hk
  · intro q hq
    exact (hb.known q hq).mono (fun k hk => by rwa [hholder k hk])
      fun k hk hnone => (hpayload k hk).trans hnone

/-! ### Steps -/

/-- A proxy is known after a drop, whether or not the drop came as far as using it up. -/
theorem known_afterDrop (hb : b.Sound) (n : Nat) :
    ∀ q ∈ b.proxies.set n (b.proxy n).afterDrop, b.world.Knows q := by
  intro q hq
  rcases List.mem_or_eq_of_mem_set hq with hq | rfl
  · exact hb.known q hq
  · unfold Proxy.afterDrop
    split
    · exact hb.known_proxy n
    · exact Or.inl rfl

/-- Handing out the proxy that a handle has now. -/
theorem handedOut_proxy (hb : b.Sound) {h : Handle} (hh : (b.world.holder? h).isSome) :
    Sound { b with proxies := b.proxies ++ [b.world.proxy h] } := by
  refine hb.handedOut ?_ b.deeds
  intro q hq
  rcases List.mem_append.1 hq with hq | hq
  · exact hb.known q hq
  · obtain rfl := List.mem_singleton.1 hq
    refine Or.inr ⟨hh, ?_⟩
    rw [World.descriptor_proxy]
    cases hp : b.world.payload? h with
    | none => exact Or.inr hp
    | some p => exact Or.inl rfl

/-- **Every fair operation keeps the invariant.** -/
theorem step (hb : b.Sound) {op : Op} (hop : op.Fair b) : (b.step op).2.Sound := by
  cases op with
  | wrap d p =>
      rw [step_wrap hb.kept]
      exact hb.wrapped d hop
  | grant d p =>
      rw [step_grant hb.kept]
      exact (hb.wrapped d hop).handedOut (hb.wrapped d hop).known _
  | take n =>
      rcases b.step_take n with ⟨e, hs⟩ | ⟨h, hs⟩
      · exact hs ▸ hb
      · rw [hs]
        exact hb.handedOut hb.known _
  | ofHandle h =>
      have hh := (hb.mem_wrapped_iff h).1 hop
      rw [step_ofHandle (hb.kept.ne_zero_of_holder hh)]
      exact hb.handedOut_proxy hh
  | lookup h =>
      rcases step_lookup hb.kept h with ⟨f, hs⟩ | ⟨hp, hs⟩
      · exact hs ▸ hb
      · rw [hs]
        exact hb.handedOut_proxy (World.isSome_holder?_of_payload hp)
  | lookupLent h =>
      rcases step_lookupLent hb.kept h with ⟨f, hs⟩ | ⟨hp, hs⟩
      · exact hs ▸ hb
      · rw [hs]
        exact hb.handedOut_proxy (World.isSome_holder?_of_payload hp)
  | number n =>
      rcases b.step_number n with ⟨e, hs⟩ | ⟨hq, i, ⟨hnone, hs⟩ | ⟨p, hp, hs⟩⟩
      · exact hs ▸ hb
      · rw [hs]
        exact hb.askedEmpty (hb.holder_of_descriptor hq) hnone
      · rw [hs]
        exact hb.answered hp
  | drop n =>
      rcases b.step_drop n with ⟨e, hs⟩ | ⟨p, w, hq, hp, ⟨hd, hs⟩ | ⟨hnot, -⟩⟩
      · rw [hs]
        exact hb.handedOut (hb.known_afterDrop n) _
      · rw [hs]
        have hb' := hb.destroyed hp hd
        refine hb'.handedOut ?_ b.deeds
        intro r hr
        rcases List.mem_or_eq_of_mem_set hr with hr | rfl
        · exact hb'.known r hr
        · rw [Proxy.afterDrop, if_neg (by simpa [Option.isSome_iff_ne_none] using hq)]
          exact Or.inl rfl
      · exact absurd (hb.orderly.calm _ p hp) hnot
  | intoHandle n =>
      rw [step_intoHandle]
      have hb' := hb.marked (hb.kept.lent (b.proxy n).handle) rfl rfl (World.isLive_lent _ _)
        (Live.Table.size_marking ..)
      refine hb'.handedOut ?_ b.deeds
      intro r hr
      rcases List.mem_or_eq_of_mem_set hr with hr | rfl
      · exact hb'.known r hr
      · exact Or.inl rfl
  | reclaim h =>
      rcases b.step_reclaim h with hs | hs
      · exact hs ▸ hb
      · rw [hs]
        exact hb.marked (hb.kept.reclaimed h) rfl rfl (World.isLive_reclaimed _ _)
          (Live.Table.size_marking ..)

/-- So does every run of fair operations. -/
theorem run {w : World} (hw : w.IsEmpty) {ops : List Op}
    (hops : Follows (fun b op => op.Fair b) { world := w } ops) :
    (Bench.run { world := w } ops).Sound :=
  run_keeps (fun _ _ hb hop => hb.step hop) (of_isEmpty hw) hops

/-- A fair operation that raises a fault changes nothing. -/
theorem unchanged (hb : b.Sound) {op : Op} (hop : op.Fair b) {e : Fault}
    (herror : (b.step op).1 = .error e) : (b.step op).2.world = b.world := by
  cases op with
  | wrap d p => simp [step_wrap hb.kept] at herror
  | grant d p => simp [step_grant hb.kept] at herror
  | take n => rcases b.step_take n with ⟨e, hs⟩ | ⟨h, hs⟩ <;> rw [hs]
  | ofHandle h => rw [step_ofHandle (hb.kept.ne_zero_of_holder ((hb.mem_wrapped_iff h).1 hop))]
  | lookup h => rcases step_lookup hb.kept h with ⟨f, hs⟩ | ⟨-, hs⟩ <;> rw [hs]
  | lookupLent h => rcases step_lookupLent hb.kept h with ⟨f, hs⟩ | ⟨-, hs⟩ <;> rw [hs]
  | number n =>
      rcases b.step_number n with ⟨e, hs⟩ | ⟨-, i, ⟨-, hs⟩ | ⟨p, -, hs⟩⟩
      · rw [hs]
      · rw [hs]
      · simp [hs] at herror
  | drop n =>
      rcases b.step_drop n with ⟨e, hs⟩ | ⟨p, w, -, hp, ⟨-, hs⟩ | ⟨hnot, -⟩⟩
      · rw [hs]
      · simp [hs] at herror
      · exact absurd (hb.orderly.calm _ p hp) hnot
  | intoHandle n => simp [step_intoHandle] at herror
  | reclaim h => rcases b.step_reclaim h with hs | hs <;> simp [hs] at herror

end Sound

/-! ### The accounts -/

/-- What the ledger, the live table and the holders have to say about each other. -/
structure Accounted (b : Bench) : Prop where
  /-- No two payloads were wrapped under one handle. -/
  distinct : (b.wrapped.map Prod.fst).Nodup
  /-- A handle is live exactly when it was wrapped and not destroyed. -/
  live_iff : ∀ h, b.world.isLive h ↔ h ∈ b.wrapped.map Prod.fst ∧ h ∉ b.destroyed
  /-- A handle is live exactly when its holder has a payload. -/
  live_iff_payload : ∀ h, b.world.isLive h ↔ (b.world.payload? h).isSome
  /-- So no live handle is refused because its holder is empty. -/
  never_empty : ∀ h,
    b.world.refusal? h ≠ some (.protocol .dispatch h "holder already destroyed")
  drops_le : ∀ h, b.world.drops h ≤ 1
  /-- What was wrapped was dropped exactly when its handle is no longer live. -/
  dropped_iff : ∀ h ∈ b.wrapped.map Prod.fst, b.world.drops h = 1 ↔ ¬ b.world.isLive h
  lent_live : ∀ h, b.world.isLent h → b.world.isLive h
  count : b.world.liveCount + b.destroyed.length = b.wrapped.length
  /-- A proxy of a live handle that was not used up gives the number of the payload that was
  wrapped, after as many answers as it has given. -/
  number : ∀ q ∈ b.proxies, q ≠ .poisoned → b.world.isLive q.handle →
    ∃ p, (q.handle, p) ∈ b.wrapped ∧ q.number.result b.world =
      Payload.reply { p with calls := p.calls + b.asked.count q.handle }

namespace Sound

variable {b : Bench}

theorem live_iff_payload (hb : b.Sound) (h : Handle) :
    b.world.isLive h ↔ (b.world.payload? h).isSome :=
  ⟨hb.intact h, hb.kept.live h⟩

theorem live_iff (hb : b.Sound) (h : Handle) :
    b.world.isLive h ↔ h ∈ b.wrapped.map Prod.fst ∧ h ∉ b.destroyed := by
  rw [hb.live_iff_payload, hb.mem_wrapped_iff, hb.emptied]
  constructor
  · intro hp
    refine ⟨World.isSome_holder?_of_payload hp, fun hempty => ?_⟩
    simp [hempty.2] at hp
  · rintro ⟨hmade, hnot⟩
    rw [Option.isSome_iff_ne_none]
    exact fun hnone => hnot ⟨hmade, hnone⟩

theorem accounted (hb : b.Sound) : b.Accounted where
  distinct := by
    rw [hb.handles, hb.kept.handles]
    exact List.Nodup.map (fun _ _ => World.handleAt_injective) List.nodup_range
  live_iff := hb.live_iff
  live_iff_payload := hb.live_iff_payload
  never_empty h := by
    unfold World.refusal?
    cases hlive : b.world.isLive h with
    | false => simp [Failure.invalidHandle, Failure.protocol, Kind.invalidHandle, Kind.protocol]
    | true =>
        obtain ⟨p, hp⟩ := Option.isSome_iff_exists.1 (hb.intact h hlive)
        simp [hp]
  drops_le h := by
    cases hmade : b.world.holder? h with
    | none => simp [World.drops, hmade]
    | some x =>
        rw [hb.kept.drops h (by simp [hmade])]
        split <;> omega
  dropped_iff h hh := by
    rw [hb.kept.drops h ((hb.mem_wrapped_iff h).1 hh), hb.live_iff_payload]
    cases b.world.payload? h <;> simp
  lent_live h := World.isLive_of_isLent
  count := hb.count
  number q hq hused hlive := by
    obtain ⟨hmade, -⟩ := (hb.live_iff q.handle).1 hlive
    obtain ⟨⟨h, p⟩, hp, rfl⟩ := List.mem_map.1 hmade
    have hpayload := hb.payloads _ p hp hlive
    refine ⟨p, hp, ?_⟩
    have hslots : q.descriptor.isSome := by
      rcases hb.known q hq with rfl | ⟨-, hslots | hnone⟩
      · exact absurd rfl hused
      · exact hslots
      · simp [hpayload] at hnone
    rw [Act.result, Proxy.run_number_of_some hslots, run_numberSlot_of_some hpayload]
    cases Payload.reply _ <;> rfl

end Sound

/-- **After any fair operations the accounts agree**, and whatever fair operation comes next, it
changes nothing if it raises a fault. -/
theorem accounted_run {w : World} (hw : w.IsEmpty) {ops : List Op}
    (hops : Follows (fun b op => op.Fair b) { world := w } ops) :
    (run { world := w } ops).Accounted ∧
      ∀ op e, op.Fair (run { world := w } ops) →
        ((run { world := w } ops).step op).1 = .error e →
        ((run { world := w } ops).step op).2.world = (run { world := w } ops).world := by
  have hsound := Sound.run hw hops
  exact ⟨hsound.accounted, fun op e hop herror => hsound.unchanged hop herror⟩

/-- Two proxies of one object: the first is asked, and the second destroys the object. -/
def aliases : List Op := [
  .grant .reference (.reference {} 0), .take 0, .ofHandle (World.handleAt 0),
  .ofHandle (World.handleAt 0), .number 0, .drop 1]

/-- The accounts agree after the object was destroyed, and the proxy that is left over cannot
destroy it again. -/
theorem accounted_run_aliases :
    let b := run { world := { expired := [false] } } aliases
    b.Accounted ∧ b.destroyed = [World.handleAt 0] ∧ (b.step (.drop 0)).2.world = b.world := by
  have hops : Follows (fun b op => op.Fair b) { world := { expired := [false] } } aliases := by
    refine ⟨⟨⟨?_, ?_⟩, ?_, ?_⟩, trivial, ?_, ?_, trivial, trivial, trivial⟩
    · simp [Payload.reference]
    · decide
    · decide
    · rintro t - k ⟨q, hq, -⟩
      cases hq
    · show _ ∈ [World.handleAt 0]
      simp
    · show _ ∈ [World.handleAt 0]
      simp
  obtain ⟨haccounts, hunchanged⟩ := accounted_run ⟨rfl, rfl⟩ hops
  exact ⟨haccounts, rfl, hunchanged (.drop 0) _ trivial rfl⟩

end Bench

end Handover
