/-
**Sequences of operations.**

A bench is a world together with the proxies and the deeds that were handed out.  Operations may be
performed on it in any order, on proxies that are stale, used up or aliases of each other, and on
handles that name nothing.  The bench also keeps a ledger of what its operations returned: which
payloads were wrapped under which handles, which handles were destroyed, and which were asked for
their number.  The ledger is written from results alone, so that it can be held against the live
table and the holders.

Main definitions:

* `Handover.Bench`, `Handover.Op`, `Handover.Bench.step`, `Handover.Bench.run` — benches, and
  operations on them;
* `Handover.World.Moves` — what one operation can do to the world;
* `Handover.World.Reachable` — what live handles and holders can look like after some operations.

Main results:

* `Handover.Bench.step_number`, `Handover.Bench.step_drop` and their companions — what each
  operation can do to a bench;
* `Handover.Bench.moves_step` — each operation is one of these moves;
* `Handover.Bench.run_keeps` — what one operation keeps under a rule, a whole run keeps;
* `Handover.World.Reachable.wellKept` — the invariant holds in every reachable world, also if drops
  raise faults.
-/

import Handover.Proofs.Keeping

set_option autoImplicit false

namespace Handover

/-! ### Benches -/

/-- An operation.  Proxies and deeds are named by the order in which they were handed out; one that
was never handed out counts as used up. -/
inductive Op where
  | wrap (d : Descriptor) (p : Payload)
  /-- Wraps a payload and hands out a deed to it. -/
  | grant (d : Descriptor) (p : Payload)
  | take (deed : Nat)
  | ofHandle (h : Handle)
  | lookup (h : Handle)
  | lookupLent (h : Handle)
  | number (proxy : Nat)
  | drop (proxy : Nat)
  | intoHandle (proxy : Nat)
  | reclaim (h : Handle)

/-- What an operation returns. -/
inductive Reply where
  | done
  | handle (h : Handle)
  | number (n : Int32)
  | flag (b : Bool)
  | refused (f : Failure)

/-- A world with what was handed out of it, and a ledger of what its operations returned. -/
structure Bench where
  world : World
  proxies : List Proxy := []
  deeds : List Deed := []
  /-- The handles that wrapping returned, with the payloads that went in. -/
  wrapped : List (Handle × Payload) := []
  /-- The handles of the drops that returned. -/
  destroyed : List Handle := []
  /-- The handles of the questions that were answered. -/
  asked : List Handle := []

namespace Bench

/-- The proxy of a number. -/
def proxy (b : Bench) (n : Nat) : Proxy := b.proxies[n]?.getD .poisoned

/-- The deed of a number. -/
def deed (b : Bench) (n : Nat) : Deed := b.deeds[n]?.getD .taken

/-- Hands out the proxy that was found, if one was. -/
def found (b : Bench) :
    EStateM.Result Fault World (Except Failure Proxy) → Except Fault Reply × Bench
  | .ok (.ok q) w => (.ok (.handle q.handle), { b with world := w, proxies := b.proxies ++ [q] })
  | .ok (.error f) w => (.ok (.refused f), { b with world := w })
  | .error e w => (.error e, { b with world := w })

/-- Performs an operation. -/
def step (b : Bench) : Op → Except Fault Reply × Bench
  | .wrap d p =>
    match (Handover.wrap d p).run b.world with
    | .ok h w => (.ok (.handle h), { b with world := w, wrapped := b.wrapped ++ [(h, p)] })
    | .error e w => (.error e, { b with world := w })
  | .grant d p =>
    match (Handover.wrap d p).run b.world with
    | .ok h w => (.ok .done, {
        b with world := w, wrapped := b.wrapped ++ [(h, p)], deeds := b.deeds ++ [⟨h⟩] })
    | .error e w => (.error e, { b with world := w })
  | .take n =>
    match (b.deed n).take.run b.world with
    | .ok h w => (.ok (.handle h), { b with world := w, deeds := b.deeds.set n .taken })
    | .error e w => (.error e, { b with world := w })
  | .ofHandle h =>
    match (Proxy.ofHandle h).run b.world with
    | .ok q w => (.ok .done, { b with world := w, proxies := b.proxies ++ [q] })
    | .error e w => (.error e, { b with world := w })
  | .lookup h => b.found ((Proxy.lookup h).run b.world)
  | .lookupLent h => b.found ((Proxy.lookupLent h).run b.world)
  | .number n =>
    match (b.proxy n).number.run b.world with
    | .ok i w => (.ok (.number i), { b with world := w, asked := b.asked ++ [(b.proxy n).handle] })
    | .error e w => (.error e, { b with world := w })
  | .drop n =>
    let rest := b.proxies.set n (b.proxy n).afterDrop
    match (b.proxy n).drop.run b.world with
    | .ok _ w => (.ok .done, {
        b with world := w, proxies := rest, destroyed := b.destroyed ++ [(b.proxy n).handle] })
    | .error e w => (.error e, { b with world := w, proxies := rest })
  | .intoHandle n =>
    let rest := b.proxies.set n .poisoned
    match (b.proxy n).intoHandle.run b.world with
    | .ok h w => (.ok (.handle h), { b with world := w, proxies := rest })
    | .error e w => (.error e, { b with world := w, proxies := rest })
  | .reclaim h =>
    match (Handover.reclaim h).run b.world with
    | .ok r w => (.ok (.flag r), { b with world := w })
    | .error e w => (.error e, { b with world := w })

/-- Performs operations in order, whatever comes of them. -/
def run (b : Bench) : List Op → Bench
  | [] => b
  | op :: ops => (b.step op).2.run ops

/-- Operations that keep a rule at the time when they are performed. -/
def Follows (rule : Bench → Op → Prop) : Bench → List Op → Prop
  | _, [] => True
  | b, op :: ops => rule b op ∧ Follows rule (b.step op).2 ops

/-- What one step keeps under a rule, a whole run keeps. -/
theorem run_keeps {rule : Bench → Op → Prop} {inv : Bench → Prop}
    (hstep : ∀ b op, inv b → rule b op → inv (b.step op).2) {b : Bench} (hb : inv b)
    {ops : List Op} (hops : Follows rule b ops) : inv (b.run ops) := by
  induction ops generalizing b with
  | nil => exact hb
  | cons op ops ih => exact ih (hstep b op hb hops.1) hops.2

/-! ### What each operation can do -/

section Cases

variable {b : Bench}

-- all lemmas of the section open `step`, whose equations are made here once
attribute [local simp] step

theorem step_wrap (hb : b.world.WellKept) (d : Descriptor) (p : Payload) :
    b.step (.wrap d p) = (.ok (.handle (World.handleAt b.world.holders.length)), {
      b with
      world := b.world.wrapped d p
      wrapped := b.wrapped ++ [(World.handleAt b.world.holders.length, p)] }) := by
  simp only [step, World.run_wrap hb]

theorem step_grant (hb : b.world.WellKept) (d : Descriptor) (p : Payload) :
    b.step (.grant d p) = (.ok .done, {
      b with
      world := b.world.wrapped d p
      wrapped := b.wrapped ++ [(World.handleAt b.world.holders.length, p)]
      deeds := b.deeds ++ [⟨World.handleAt b.world.holders.length⟩] }) := by
  simp only [step, World.run_wrap hb]

/-- Taking a deed concerns the deeds only. -/
theorem step_take (n : Nat) :
    (∃ e, b.step (.take n) = (.error e, b)) ∨
      ∃ h, b.step (.take n) = (.ok (.handle h), { b with deeds := b.deeds.set n .taken }) := by
  simp only [step, Deed.run_take]
  cases (b.deed n).isValid with
  | true => exact Or.inr ⟨_, rfl⟩
  | false => exact Or.inl ⟨_, rfl⟩

/-- A trusted handle always gives a proxy. -/
theorem step_ofHandle {h : Handle} (hh : h ≠ 0) : b.step (.ofHandle h) =
    (.ok .done, { b with proxies := b.proxies ++ [b.world.proxy h] }) := by
  simp only [step, Proxy.run_ofHandle hh]

/-- An untrusted handle gives a proxy if there is a payload behind it. -/
theorem found_cases (b : Bench) (h : Handle) {refusal : Option Failure}
    (hrefusal : refusal = none → (b.world.payload? h).isSome) :
    let r := b.found (.ok (b.world.proxyUnless h refusal) b.world)
    (∃ f, r = (.ok (.refused f), b)) ∨ ((b.world.payload? h).isSome ∧
      r = (.ok (.handle h), { b with proxies := b.proxies ++ [b.world.proxy h] })) := by
  cases refusal with
  | some f => exact Or.inl ⟨f, rfl⟩
  | none => exact Or.inr ⟨hrefusal rfl, rfl⟩

theorem step_lookup (hb : b.world.WellKept) (h : Handle) :
    (∃ f, b.step (.lookup h) = (.ok (.refused f), b)) ∨ ((b.world.payload? h).isSome ∧
      b.step (.lookup h) =
        (.ok (.handle h), { b with proxies := b.proxies ++ [b.world.proxy h] })) := by
  simp only [step, Proxy.run_lookup hb]
  exact b.found_cases h fun hr => ((b.world.refusal?_eq_none h).1 hr).2

theorem step_lookupLent (hb : b.world.WellKept) (h : Handle) :
    (∃ f, b.step (.lookupLent h) = (.ok (.refused f), b)) ∨ ((b.world.payload? h).isSome ∧
      b.step (.lookupLent h) =
        (.ok (.handle h), { b with proxies := b.proxies ++ [b.world.proxy h] })) := by
  simp only [step, Proxy.run_lookupLent hb]
  exact b.found_cases h fun hr => ((b.world.refusalLent?_eq_none h).1 hr).2.1

/-- Asking fails and changes nothing, or it is answered from an empty holder, or by a payload. -/
theorem step_number (n : Nat) :
    (∃ e, b.step (.number n) = (.error e, b)) ∨
      ((b.proxy n).descriptor.isSome ∧ ∃ i,
        (b.world.payload? (b.proxy n).handle = none ∧ b.step (.number n) =
          (.ok (.number i), { b with asked := b.asked ++ [(b.proxy n).handle] })) ∨
        ∃ p, b.world.payload? (b.proxy n).handle = some p ∧ b.step (.number n) =
          (.ok (.number i), {
            b with
            world := b.world.answered (b.proxy n).handle p
            asked := b.asked ++ [(b.proxy n).handle] })) := by
  cases hq : (b.proxy n).descriptor with
  | none =>
      simp only [step, Proxy.run_number_of_none hq]
      exact Or.inl ⟨_, rfl⟩
  | some d =>
      have hsome : (b.proxy n).descriptor.isSome := by simp [hq]
      simp only [step, Proxy.run_number_of_some hsome]
      cases hp : b.world.payload? (b.proxy n).handle with
      | none =>
          rcases run_numberSlot_of_none hp with ⟨i, hslot⟩ | ⟨e, hslot⟩
          · rw [hslot]
            exact Or.inr ⟨rfl, i, Or.inl ⟨rfl, rfl⟩⟩
          · rw [hslot]
            exact Or.inl ⟨e, rfl⟩
      | some p =>
          rw [run_numberSlot_of_some hp]
          cases p.reply with
          | ok i => exact Or.inr ⟨rfl, i, Or.inr ⟨p, rfl, rfl⟩⟩
          | error e => exact Or.inl ⟨e, rfl⟩

/-- A drop fails and changes nothing but the proxy, or it destroys the holder, or the payload stops
it. -/
theorem step_drop (n : Nat) :
    (∃ e, b.step (.drop n) =
      (.error e, { b with proxies := b.proxies.set n (b.proxy n).afterDrop })) ∨
    ∃ p w, (b.proxy n).descriptor.isSome ∧ b.world.payload? (b.proxy n).handle = some p ∧
      ((World.Destroyed (b.proxy n).handle p b.world w ∧ b.step (.drop n) = (.ok .done, {
          b with
          world := w
          proxies := b.proxies.set n (b.proxy n).afterDrop
          destroyed := b.destroyed ++ [(b.proxy n).handle] })) ∨
        (¬ b.world.DropsFreely (b.proxy n).handle p ∧
          World.Broken (b.proxy n).handle p b.world w ∧ ∃ e, b.step (.drop n) = (.error e, {
            b with world := w, proxies := b.proxies.set n (b.proxy n).afterDrop }))) := by
  cases hq : (b.proxy n).descriptor with
  | none =>
      simp only [step, Proxy.run_drop_of_none hq]
      exact Or.inl ⟨_, rfl⟩
  | some d =>
      have hsome : (b.proxy n).descriptor.isSome := by simp [hq]
      simp only [step, Proxy.run_drop_of_some hsome]
      cases hp : b.world.payload? (b.proxy n).handle with
      | none =>
          obtain ⟨e, hslot⟩ := run_destroySlot_of_none hp
          rw [hslot]
          exact Or.inl ⟨e, rfl⟩
      | some p =>
          rcases destroySlot_cases hp with ⟨w, hslot, hd⟩ | ⟨e, w, hslot, hbr⟩
          · rw [hslot]
            exact Or.inr ⟨p, w, rfl, rfl, Or.inl ⟨hd, rfl⟩⟩
          · refine Or.inr ⟨p, w, rfl, rfl, Or.inr ⟨?_, hbr, e, by rw [hslot]⟩⟩
            intro hfree
            obtain ⟨w', hok, -⟩ := destroySlot_ok hp hfree
            rw [hslot] at hok
            cases hok

theorem step_intoHandle (n : Nat) : b.step (.intoHandle n) = (.ok (.handle (b.proxy n).handle), {
    b with
    world := b.world.told (b.world.table.lend (b.proxy n).handle)
    proxies := b.proxies.set n .poisoned }) := by
  simp only [step, Proxy.run_intoHandle]

theorem step_reclaim (h : Handle) :
    b.step (.reclaim h) = (.ok (.flag false), b) ∨ b.step (.reclaim h) =
      (.ok (.flag true), { b with world := b.world.told (b.world.table.reclaim h) }) := by
  simp only [step, run_reclaim]
  cases b.world.isLive h with
  | true => exact Or.inr rfl
  | false => exact Or.inl rfl

end Cases

end Bench

/-! ### What operations do to the world -/

/-- What one operation can do to the world, whatever it does to what was handed out. -/
inductive World.Moves (w : World) : World → Prop
  | stays : Moves w w
  | wrapped (d : Descriptor) (p : Payload) : Moves w (w.wrapped d p)
  | answered {h : Handle} {p : Payload} (hp : w.payload? h = some p) : Moves w (w.answered h p)
  | destroyed {h : Handle} {p : Payload} {w' : World} (hp : w.payload? h = some p)
      (hd : Destroyed h p w w') : Moves w w'
  | broken {h : Handle} {p : Payload} {w' : World} (hp : w.payload? h = some p)
      (hb : Broken h p w w') : Moves w w'
  | lent (h : Handle) : Moves w (w.told (w.table.lend h))
  | reclaimed (h : Handle) : Moves w (w.told (w.table.reclaim h))

theorem World.Moves.wellKept {w w' : World} (hmoves : w.Moves w') (hw : w.WellKept) :
    w'.WellKept := by
  cases hmoves with
  | stays => exact hw
  | wrapped d p => exact hw.wrapped d p
  | answered hp => exact hw.answered hp
  | destroyed hp hd => exact hw.destroyed hp hd
  | broken hp hb => exact hw.broken hp hb
  | lent h => exact hw.lent h
  | reclaimed h => exact hw.reclaimed h

namespace Bench

theorem moves_step {b : Bench} (hb : b.world.WellKept) (op : Op) :
    b.world.Moves (b.step op).2.world := by
  cases op with
  | wrap d p =>
      rw [step_wrap hb]
      exact .wrapped d p
  | grant d p =>
      rw [step_grant hb]
      exact .wrapped d p
  | take n => rcases b.step_take n with ⟨e, hs⟩ | ⟨h, hs⟩ <;> exact hs ▸ .stays
  | ofHandle h =>
      by_cases hh : h = 0
      · exact hh ▸ .stays
      · rw [step_ofHandle hh]
        exact .stays
  | lookup h => rcases step_lookup hb h with ⟨f, hs⟩ | ⟨-, hs⟩ <;> exact hs ▸ .stays
  | lookupLent h => rcases step_lookupLent hb h with ⟨f, hs⟩ | ⟨-, hs⟩ <;> exact hs ▸ .stays
  | number n =>
      rcases b.step_number n with ⟨e, hs⟩ | ⟨-, i, ⟨-, hs⟩ | ⟨p, hp, hs⟩⟩
      · exact hs ▸ .stays
      · exact hs ▸ .stays
      · rw [hs]
        exact .answered hp
  | drop n =>
      rcases b.step_drop n with ⟨e, hs⟩ | ⟨p, w, -, hp, ⟨hd, hs⟩ | ⟨-, hbr, e, hs⟩⟩
      · exact hs ▸ .stays
      · rw [hs]
        exact .destroyed hp hd
      · rw [hs]
        exact .broken hp hbr
  | intoHandle n =>
      rw [step_intoHandle]
      exact .lent _
  | reclaim h =>
      rcases b.step_reclaim h with hs | hs
      · exact hs ▸ .stays
      · rw [hs]
        exact .reclaimed h

/-! ### Reachable worlds -/

/-- Every operation keeps the invariant of the world, whatever it is performed on. -/
theorem wellKept_step {b : Bench} (hb : b.world.WellKept) (op : Op) :
    (b.step op).2.world.WellKept :=
  (moves_step hb op).wellKept hb

theorem wellKept_run {b : Bench} (hb : b.world.WellKept) (ops : List Op) :
    (b.run ops).world.WellKept := by
  induction ops generalizing b with
  | nil => exact hb
  | cons op ops ih => exact ih (wellKept_step hb op)

end Bench

/-- The live handles and the holders are as after some operations on an empty world.  What stands
outside of them may be anything. -/
def World.Reachable (w : World) : Prop :=
  ∃ (w₀ : World) (ops : List Op), w₀.IsEmpty ∧
    w.table.backend = (Bench.run { world := w₀ } ops).world.table.backend ∧
    w.holders = (Bench.run { world := w₀ } ops).world.holders

/-- The invariant holds in every reachable world. -/
theorem World.Reachable.wellKept {w : World} (hw : w.Reachable) : w.WellKept := by
  obtain ⟨w₀, ops, hempty, hbackend, hholders⟩ := hw
  exact (Bench.wellKept_run (b := { world := w₀ }) hempty.wellKept ops).congr hbackend hholders

end Handover
