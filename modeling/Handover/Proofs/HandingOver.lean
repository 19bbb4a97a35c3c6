/-
**Handing an object over.**

The entry point takes over an object, lends it to a script and gives it up at the end.  The object
can be destroyed by the script, which may call the slots with any words before and after that, or
else by the entry point; and there are many ways for a script not to be run at all.  In every case
the object is destroyed exactly once.

The behaviour of a script is taken to be any tree of calls, of which the runs of the programs here
are special cases.

Main definitions:

* `Handover.Conduct` — what becomes of the script: it is not found, it cannot be run, or it runs;
* `Handover.Entry.serve` — the entry point for a given conduct;
* `Handover.World.Held`, `Handover.World.Gone` — the object is there and lent, or destroyed.

Main results:

* `Handover.Entry.run_main` — the entry point serves the conduct that it finds;
* `Handover.World.Held.perform` — after a script the object is still there, or one of its calls has
  destroyed it;
* `Handover.Entry.destroyed_once` — **the entry point destroys its object exactly once**.
-/

import Handover.Entry
import Handover.Proofs.Bench
import Handover.Proofs.Guest

set_option autoImplicit false

namespace Handover

/-! ### What others do to an object -/

namespace World

/-- Nothing happened to what is behind `h`. -/
structure Apart (h : Handle) (w w' : World) : Prop where
  table : w'.table.get? h = w.table.get? h
  holder : w'.holder? h = w.holder? h
  events : w'.eventsOf h = w.eventsOf h
  expired_length : w'.expired.length = w.expired.length
  expired_mono : ∀ t, w.isExpired t → w'.isExpired t

theorem OnlyWritten.apart {w w' : World} (hw : OnlyWritten w w') (h : Handle) : Apart h w w' := by
  have hevents := hw.events
  obtain ⟨marks, -, rfl⟩ := hw
  exact ⟨rfl, rfl, by rw [eventsOf, hevents, eventsOf], rfl, fun t ht => ht⟩

theorem Apart.trans {h : Handle} {w w' w'' : World} (ha : Apart h w w') (ha' : Apart h w' w'') :
    Apart h w w'' where
  table := ha'.table.trans ha.table
  holder := ha'.holder.trans ha.holder
  events := ha'.events.trans ha.events
  expired_length := ha'.expired_length.trans ha.expired_length
  expired_mono t ht := ha'.expired_mono t (ha.expired_mono t ht)

section Others

variable {h k : Handle} {p : Payload} {w w' : World} (hhk : h ≠ k)
include hhk

/-- Asking another object. -/
theorem Answered.apart (ha : Answered k p w w') : Apart h w w' := by
  refine ⟨by rw [ha.table], ha.holder?_of_ne hhk, ?_, by rw [ha.expired], ?_⟩
  · rw [eventsOf, ha.events, eventsOf]
  · intro t ht
    rwa [isExpired, ha.expired]

/-- Destroying another object. -/
theorem Destroyed.apart (hd : Destroyed k p w w') : Apart h w w' := by
  refine ⟨?_, hd.holder?_of_ne hhk, ?_, hd.expired_length, hd.expired_mono⟩
  · rw [hd.table, Live.Table.get?_remove, if_neg hhk]
  · have hevents := hd.events
    rw [Live.Table.event_remove] at hevents
    simp [eventsOf_of_events hevents, hhk.symm]

theorem Broken.apart (hb : Broken k p w w') : Apart h w w' := by
  refine ⟨by rw [hb.table], hb.holder?_of_ne hhk, ?_, hb.expired_length, hb.expired_mono⟩
  rw [eventsOf, hb.events, eventsOf]

end Others

namespace Served

variable {w w' : World} {k : Handle} {destroys : Bool} {r : Except Fault (List UInt64)}
  (hs : Served w k destroys r w') {h : Handle} (hkh : k ≠ h)
include hs hkh

/-- A call with another handle does nothing to the object behind `h`. -/
theorem apart : Apart h w w' := by
  cases hs with
  | refused _ hwritten => exact hwritten.apart h
  | unanswered _ _ _ hwritten => exact hwritten.apart h
  | answered _ _ ha => exact ha.apart hkh.symm
  | destroyed _ _ hd => exact hd.apart hkh.symm
  | broken _ _ _ hb => exact hb.apart hkh.symm

end Served

/-! ### The object during a call -/

/-- The object behind `h` is there and lent, and its drop will raise no fault.  Since `w₀`, the
observers were told that it was lent and nothing else. -/
structure Held (h : Handle) (p : Payload) (w₀ w : World) : Prop where
  kept : w.WellKept
  lent : w.isLent h
  payload : ∃ n, w.payload? h = some { p with calls := n }
  free : w.DropsFreely h p
  expired_length : w.expired.length = w₀.expired.length
  events : w.eventsOf h = w₀.eventsOf h ++ [.lent]

/-- The object behind `h` was destroyed, and its payload dropped once.  Since `w₀`, the observers
were told the events in `told`. -/
structure Gone (told : List Live.EventKind) (h : Handle) (p : Payload) (w₀ w : World) : Prop where
  kept : w.WellKept
  dead : w.isLive h = false
  drops : w.drops h = 1
  used : ∀ t ∈ p.things, t < w₀.expired.length → w.isExpired t
  events : w.eventsOf h = w₀.eventsOf h ++ told

variable {h : Handle} {p : Payload} {w₀ w w' : World}

theorem Apart.held (ha : Apart h w w') (hheld : Held h p w₀ w) (hkept : w'.WellKept)
    (hfree : w'.DropsFreely h p) : Held h p w₀ w' where
  kept := hkept
  lent := by
    rw [isLent_eq, ha.table]
    exact hheld.lent
  payload := by
    rw [payload?, ha.holder]
    exact hheld.payload
  free := hfree
  expired_length := ha.expired_length.trans hheld.expired_length
  events := ha.events.trans hheld.events

theorem Apart.gone {told : List Live.EventKind} (ha : Apart h w w') (hgone : Gone told h p w₀ w)
    (hkept : w'.WellKept) : Gone told h p w₀ w' where
  kept := hkept
  dead := by
    rw [isLive_eq, ha.table]
    exact hgone.dead
  drops := by
    rw [World.drops, ha.holder]
    exact hgone.drops
  used t ht hlt := ha.expired_mono t (hgone.used t ht hlt)
  events := ha.events.trans hgone.events

theorem OnlyWritten.held (hwritten : OnlyWritten w w') (hheld : Held h p w₀ w) :
    Held h p w₀ w' :=
  (hwritten.apart h).held hheld (hwritten.wellKept hheld.kept) (hheld.free.of_written hwritten)

theorem OnlyWritten.gone {told : List Live.EventKind} (hwritten : OnlyWritten w w')
    (hgone : Gone told h p w₀ w) : Gone told h p w₀ w' :=
  (hwritten.apart h).gone hgone (hwritten.wellKept hgone.kept)

/-- Destroying the object is told of, after whatever else was told. -/
theorem Destroyed.gone {told : List Live.EventKind} {n : Nat} (hkept : w.WellKept)
    (hp : w.payload? h = some { p with calls := n })
    (hd : Destroyed h { p with calls := n } w w')
    (hlength : w.expired.length = w₀.expired.length)
    (hevents : w.eventsOf h = w₀.eventsOf h ++ told) : Gone (told ++ [.dropped]) h p w₀ w' where
  kept := hkept.destroyed hp hd
  dead := by simp [hd.isLive_eq]
  drops := by
    rw [hd.drops_eq hp, hkept.drops_of_payload hp, if_pos rfl]
  used t ht hlt := hd.used t ht (hlength ▸ hlt)
  events := by
    have hlive : (w.table.get? h).isSome := hkept.live h (by simp [hp])
    have htold := hd.events
    rw [Live.Table.event_remove] at htold
    rw [eventsOf_of_events htold, if_pos ⟨rfl, hlive⟩, hevents, List.append_assoc]

/-! ### Calls of a script -/

variable (host : Host) (c : GuestCall)

/-- Once the object is gone, no call brings it back. -/
theorem Gone.visit {told : List Live.EventKind} (hgone : Gone told h p w₀ w) :
    Gone told h p w₀ (Visit.of host w c).after := by
  cases hslot : c.slot? host with
  | none => exact (Visit.idle hslot).2.gone hgone
  | some slot =>
      have hs := Visit.served hgone.kept hslot
      by_cases hc : c.handle = h
      · -- the handle is not lent any more, so that the call is refused
        have hlent : ¬ w.isLent c.handle := by
          intro hlent
          have hlive := isLive_of_isLent hlent
          simp [hc, hgone.dead] at hlive
        obtain ⟨f, -, -, hwritten⟩ := hs.refused_of_not_lent hlent
        exact hwritten.gone hgone
      · exact (hs.apart hc).gone hgone (hs.wellKept hgone.kept)

/-- A call with the handle of the object destroys the object, or the object stays. -/
theorem Held.served {destroys : Bool} {r : Except Fault (List UInt64)} (hheld : Held h p w₀ w)
    (hs : Served w h destroys r w') :
    if destroys && r.isOk then Gone [.lent, .dropped] h p w₀ w' else Held h p w₀ w' := by
  obtain ⟨n, hp⟩ := hheld.payload
  cases hs with
  | refused _ hwritten =>
      rw [Act.isOk_error, Bool.and_false]
      exact hwritten.held hheld
  | unanswered _ _ _ hwritten => exact hwritten.held hheld
  | answered _ hq ha =>
      refine ⟨ha.wellKept hq hheld.kept, ?_, ⟨n + 1, ?_⟩, ha.dropsFreely hq hheld.free, ?_, ?_⟩
      · rw [isLent_eq, ha.table]
        exact hheld.lent
      · obtain rfl := Option.some.inj (hp.symm.trans hq)
        rw [ha.payload?_eq, payload?_answered hq, if_pos rfl]
      · rw [ha.expired]
        exact hheld.expired_length
      · rw [eventsOf, ha.events]
        exact hheld.events
  | destroyed _ hq hd =>
      obtain rfl := Option.some.inj (hp.symm.trans hq)
      exact hd.gone hheld.kept hp hheld.expired_length hheld.events
  | broken _ hq hfree _ =>
      obtain rfl := Option.some.inj (hp.symm.trans hq)
      exact absurd (hheld.free.asked n) hfree

/-- A call destroys the object, or the object stays. -/
theorem Held.visit (hheld : Held h p w₀ w) :
    if (Visit.of host w c).destroyed host h then
      Gone [.lent, .dropped] h p w₀ (Visit.of host w c).after
    else Held h p w₀ (Visit.of host w c).after := by
  cases hslot : c.slot? host with
  | none =>
      rw [Visit.destroyed_of_idle hslot]
      exact (Visit.idle hslot).2.held hheld
  | some slot =>
      have hs := Visit.served hheld.kept hslot
      by_cases hc : c.handle = h
      · subst hc
        have hown := hheld.served hs
        simpa [Visit.destroyed, Visit.of] using hown
      · have hnot : (Visit.of host w c).destroyed host h = false := by
          simp [Visit.destroyed, Visit.of, Ne.symm hc]
        rw [hnot]
        exact (hs.apart hc).held hheld (hs.wellKept hheld.kept) (hs.dropsFreely hc hheld.free)

end World

/-! ### Runs of a script -/

namespace Run

/-- The calls that a run makes, up to the one that raises a fault. -/
def visits (host : Host) : Run → World → List Visit
  | done _, _ => []
  | trap _, _ => []
  | call module name args next, w =>
    let v := Visit.of host w { module, name, args }
    v :: match v.result with
      | .ok words => (next words).visits host v.after
      | .error _ => []

/-- Whether one of the calls of a run has destroyed the object behind `h`. -/
def destroys (host : Host) (r : Run) (h : Handle) (w : World) : Bool :=
  (r.visits host w).any (·.destroyed host h)

theorem destroys_call (host : Host) (module name : String) (args : List UInt64)
    (next : List UInt64 → Run) (h : Handle) (w : World) :
    (call module name args next).destroys host h w =
      ((Visit.of host w { module, name, args }).destroyed host h ||
        match (host.answer module name args).result w with
        | .ok words =>
            (next words).destroys host h (Visit.of host w { module, name, args }).after
        | .error _ => false) := by
  rw [destroys, visits, List.any_cons]
  simp only [Visit.of]
  cases (host.answer module name args).result w <;> rfl

end Run

namespace World

variable {h : Handle} {p : Payload} {w₀ w : World}

theorem Gone.perform {told : List Live.EventKind} (hgone : Gone told h p w₀ w) (host : Host)
    (r : Run) : Gone told h p w₀ ((r.perform host.answer).after w) := by
  induction r generalizing w with
  | done words => exact hgone
  | trap t => exact hgone
  | call module name args next ih =>
      have hstep : Gone told h p w₀ (Visit.of host w { module, name, args }).after :=
        hgone.visit host _
      rw [Run.perform, Act.after_bind]
      cases hresult : (host.answer module name args).result w with
      | error e => exact hstep
      | ok words => exact ih words hstep

/-- After a script the object is still there, or one of its calls has destroyed it. -/
theorem Held.perform (hheld : Held h p w₀ w) (host : Host) (r : Run) :
    if r.destroys host h w then Gone [.lent, .dropped] h p w₀ ((r.perform host.answer).after w)
    else Held h p w₀ ((r.perform host.answer).after w) := by
  induction r generalizing w with
  | done words => exact hheld
  | trap t => exact hheld
  | call module name args next ih =>
      have hstep := hheld.visit host { module, name, args }
      rw [Run.perform, Act.after_bind, Run.destroys_call]
      cases hd : (Visit.of host w { module, name, args }).destroyed host h with
      | true =>
          rw [hd] at hstep
          cases (host.answer module name args).result w with
          | error e => exact hstep
          | ok words => exact hstep.perform host (next words)
      | false =>
          rw [hd] at hstep
          cases (host.answer module name args).result w with
          | error e => exact hstep
          | ok words => exact ih words hstep

end World

/-! ### What becomes of the script -/

/-- What becomes of the script of a call. -/
inductive Conduct where
  /-- There is no host for it, or it is not found or not valid. -/
  | missing (f : Failure)
  /-- It cannot be run. -/
  | unfit (s : Script) (f : Failure)
  /-- It runs, in whatever way. -/
  | runs (host : Host) (s : Script) (type : FuncType) (r : Run)

namespace Conduct

/-- What is logged before the script runs. -/
def announce (h : Handle) : Conduct → Act Unit
  | missing _ => return
  | unfit s _ =>
    Act.log .debug .entry "running script" (Entry.logFields h ++ [("script", .text s.name)])
  | runs _ s _ _ => do
    Act.log .debug .entry "running script" (Entry.logFields h ++ [("script", .text s.name)])
    Act.log .debug .runtime "calling script" [("script", .text s.name), ("handle", .number h)]

/-- Runs the script, if it can be run. -/
def perform : Conduct → Act (Except Failure Result)
  | missing f => return .error f
  | unfit _ f => return .error f
  | runs host s type r => do
    match ← Act.attempt (r.perform host.answer) with
    | .error e => return .error (Host.stopped s (e.text ++ " (recovered by wazero)"))
    | .ok (.error t) => return .error (Host.stopped s t.message)
    | .ok (.ok words) => return .ok (.ofWords type.results words)

/-- Whether the script destroys the object behind `h` when it is run. -/
def destroys (c : Conduct) (h : Handle) (w : World) : Bool :=
  match c with
  | runs host _ _ r => r.destroys host h w
  | _ => false

theorem run_announce (c : Conduct) (h : Handle) (w : World) :
    (c.announce h).run w = .ok () ((c.announce h).after w) ∧
      World.OnlyWritten w ((c.announce h).after w) := by
  cases c with
  | missing f => exact ⟨rfl, .refl w⟩
  | unfit s f => exact ⟨rfl, .noted w rfl⟩
  | runs host s type r => exact ⟨rfl, (World.OnlyWritten.noted w rfl).trans (.noted _ rfl)⟩

/-- However a script ends, the call goes on. -/
theorem run_perform (host : Host) (s : Script) (type : FuncType) (r : Run) (w : World) :
    ∃ outcome, (runs host s type r).perform.run w =
      .ok outcome ((r.perform host.answer).after w) := by
  rw [perform, Act.run_bind_ok (Act.run_attempt _ w)]
  cases (r.perform host.answer).result w with
  | error e => exact ⟨_, rfl⟩
  | ok ended => cases ended <;> exact ⟨_, rfl⟩

end Conduct

/-- Whatever becomes of the script, the object is still there or the script has destroyed it. -/
theorem World.Held.conduct {h : Handle} {p : Payload} {w₀ w : World} (hheld : Held h p w₀ w)
    (c : Conduct) : ∃ outcome w', c.perform.run w = .ok outcome w' ∧
      if c.destroys h w then Gone [.lent, .dropped] h p w₀ w' else Held h p w₀ w' := by
  cases c with
  | missing f => exact ⟨_, w, rfl, hheld⟩
  | unfit s f => exact ⟨_, w, rfl, hheld⟩
  | runs host s type r =>
      obtain ⟨outcome, hrun⟩ := Conduct.run_perform host s type r w
      exact ⟨outcome, _, hrun, hheld.perform host r⟩

/-- What becomes of a script that was found valid. -/
def Host.conduct (host : Host) (s : Script) (h : Handle) : Conduct :=
  match mainOf s.program with
  | .error f => .unfit s f
  | .ok (idx, type) =>
    if host.isClosed || s.isClosed || !host.links s.program then
      .unfit s (.instantiation (some (.plain "the imports cannot be resolved")))
    else .runs host s type (s.program.run idx [h.toUInt64])

theorem Host.run_main (host : Host) (s : Script) (h : Handle) (w : World) :
    (Act.log .debug .entry "running script" (Entry.logFields h ++ [("script", .text s.name)]) >>=
      fun _ => host.main s h).run w =
    ((host.conduct s h).announce h >>= fun _ => (host.conduct s h).perform).run w := by
  unfold main conduct
  cases mainOf s.program with
  | error f => rfl
  | ok found =>
      simp only
      split <;> rfl

namespace Entry

/-- The script of a call, if it is there. -/
def load (e : Entry) (host : Host) (files : File.Tree) : Except Failure Script :=
  match e.bytes with
  | some bytes => host.load inlineName bytes
  | none => host.loadFile files e.script

/-- What becomes of the script of a call that finds these files. -/
def conduct (e : Entry) (files : File.Tree) (h : Handle) : Conduct :=
  match Host.start e.boundary (e.allowance.output.getD e.output) e.allowance.pages with
  | .error f => .missing f
  | .ok host =>
    match e.load host files with
    | .error f => .missing f
    | .ok s => host.conduct s h

theorem run_run (e : Entry) (h : Handle) (w : World) : (e.run h).run w =
    ((e.conduct w.files h).announce h >>= fun _ => (e.conduct w.files h).perform).run w := by
  unfold run conduct
  cases Host.start e.boundary (e.allowance.output.getD e.output) e.allowance.pages with
  | error f => rfl
  | ok host =>
      dsimp only
      rw [EStateM.run_bind, EStateM.run_get]
      show (match e.load host w.files with
        | .error f => pure (.error f)
        | .ok s => do
          Act.log .debug .entry "running script" (logFields h ++ [("script", .text s.name)])
          host.main s h : Act _).run w = _
      cases e.load host w.files with
      | error f => rfl
      | ok s => exact host.run_main s h w

/-- Takes over the object and hands it to the script: the entry point up to the script. -/
def receive (e : Entry) (d : Deed) : Act Handle := do
  let h ← d.take
  let p ← Proxy.ofHandle h
  let n ← p.number
  Act.printLine e.output ("Got into rust " ++ toString n.toInt)
  let address := (p.descriptor.map (← get).slotsAddress).getD 0
  Act.printLine e.output ("Vtable " ++ Text.address address)
  p.intoHandle

/-- The entry point for a script of which it is known what becomes. -/
def serve (e : Entry) (c : Conduct) (d : Deed) : Act (Except Failure Unit) := do
  let h ← e.receive d
  c.announce h
  let outcome ← e.conclude h (← c.perform)
  giveUp h
  return outcome

/-- Whether the script destroys the object of the deed when the call is made in `w`. -/
def scriptDestroys (e : Entry) (c : Conduct) (d : Deed) (w : World) : Bool :=
  c.destroys d.handle ((c.announce d.handle).after ((e.receive d).after w))

theorem main_eq_receive (e : Entry) (d : Deed) : e.main d = (do
    let h ← e.receive d
    let outcome ← e.conclude h (← e.run h)
    giveUp h
    return outcome) := by
  simp only [main, receive, bind_assoc]

end Entry

/-! ### Taking over and giving up -/

namespace World

variable {h : Handle} {p : Payload} {w₀ w : World}

/-- Lending an object that was not lent. -/
theorem held_of_lend {n : Nat} (hkept : w.WellKept)
    (hp : w.payload? h = some { p with calls := n }) (hlent : ¬ w.isLent h)
    (hfree : w.DropsFreely h p) (hlength : w.expired.length = w₀.expired.length)
    (hevents : w.eventsOf h = w₀.eventsOf h) : Held h p w₀ (w.told (w.table.lend h)) := by
  have hlive : w.isLive h := hkept.live h (by simp [hp])
  obtain ⟨entry, hentry⟩ := Option.isSome_iff_exists.1 hlive
  refine ⟨hkept.lent h, ?_, ⟨n, hp⟩, ?_, hlength, ?_⟩
  · rw [isLent_eq, table_told, Live.Table.get?_lend, if_pos rfl,
      show w.table.get? h = some entry from hentry]
    rfl
  · refine hfree.mono (fun _ _ ht => ht) ?_
    intro k t hkh hlent hk
    rw [isLent_eq, table_told, Live.Table.get?_lend, if_neg hkh] at hlent
    exact ⟨hlent, hk⟩
  · have htold := events_told w (w.table.lend h)
    have hcond : w.table.isLive h && !w.table.isLent h := by
      simpa [isLive, isLent] using And.intro hlive hlent
    rw [Live.Table.event_lend, if_pos hcond] at htold
    rw [eventsOf_of_events htold, if_pos ⟨rfl, hlive⟩, hevents]

/-- An object that is still there is taken back and destroyed. -/
theorem Held.giveUp (hheld : Held h p w₀ w) :
    ∃ w', (Entry.giveUp h).run w = .ok () w' ∧
      Gone [.lent, .reclaimed, .dropped] h p w₀ w' := by
  obtain ⟨n, hp⟩ := hheld.payload
  have hlive : w.isLive h := isLive_of_isLent hheld.lent
  obtain ⟨w₁, hreclaimed⟩ : ∃ w₁, w₁ = w.told (w.table.reclaim h) := ⟨_, rfl⟩
  have hreclaim : (reclaim h).run w = .ok true w₁ := by
    rw [run_reclaim, if_pos hlive, hreclaimed]
  have hevents : w₁.eventsOf h = w₀.eventsOf h ++ [.lent, .reclaimed] := by
    have htold := events_told w (w.table.reclaim h)
    rw [Live.Table.event_reclaim, if_pos (show w.table.isLent h = true from hheld.lent),
      ← hreclaimed] at htold
    rw [eventsOf_of_events htold, if_pos ⟨rfl, hlive⟩, hheld.events, List.append_assoc]
    rfl
  -- only the mark of the handle differs, so that the payload is dropped as before
  have hp₁ : w₁.payload? h = some { p with calls := n } := by rwa [hreclaimed]
  have hkept : w₁.WellKept := hreclaimed ▸ hheld.kept.reclaimed h
  have hfree : w₁.DropsFreely h { p with calls := n } := by
    rw [hreclaimed]
    refine (hheld.free.asked n).mono (fun _ _ ht => ht) ?_
    intro k t hkh hlent hk
    rw [isLent_eq, table_told, Live.Table.get?_reclaim, if_neg hkh] at hlent
    exact ⟨hlent, hk⟩
  have hlength : w₁.expired.length = w₀.expired.length := hreclaimed ▸ hheld.expired_length
  obtain ⟨w₂, hdrop, hd⟩ := dropHandle_ok hkept hp₁ hfree
  have hgone := hd.gone hkept hp₁ hlength hevents
  obtain ⟨w₃, hlog, hwritten⟩ :=
    OnlyWritten.log .debug .entry "destroyed on return" (Entry.logFields h) w₂
  refine ⟨w₃, ?_, hwritten.gone hgone⟩
  rw [Entry.giveUp, Act.run_bind_ok hreclaim, if_pos rfl, Act.run_bind_ok hdrop, hlog]

/-- One that is gone is left alone. -/
theorem Gone.giveUp {told : List Live.EventKind} (hgone : Gone told h p w₀ w) :
    ∃ w', (Entry.giveUp h).run w = .ok () w' ∧ Gone told h p w₀ w' := by
  have hreclaim : (reclaim h).run w = .ok false w := by
    rw [run_reclaim, hgone.dead]
    rfl
  obtain ⟨w₁, hlog, hwritten⟩ :=
    OnlyWritten.log .debug .entry "destroyed by script" (Entry.logFields h) w
  refine ⟨w₁, ?_, hwritten.gone hgone⟩
  rw [Entry.giveUp, Act.run_bind_ok hreclaim, if_neg Bool.false_ne_true, hlog]

end World

namespace Entry

variable {h : Handle} {p : Payload} {n : Int32} {w : World}

/-- Taking over an object that answers. -/
theorem run_receive (e : Entry) (hw : w.WellKept) (hlent : ¬ w.isLent h)
    (hp : w.payload? h = some p) (hreply : p.reply = .ok n) (hfree : w.DropsFreely h p) :
    ∃ w₁, (e.receive ⟨h⟩).run w = .ok h w₁ ∧ World.Held h p w w₁ ∧ w₁.files = w.files := by
  have hne : h ≠ 0 := hw.ne_zero_of_payload hp
  have htake : (Deed.take ⟨h⟩).run w = .ok h w := by
    rw [Deed.run_take, if_pos (by simpa [Deed.isValid] using hne)]
  have hnumber : (w.proxy h).number.run w = .ok n (w.answered h p) := by
    rw [Proxy.run_number_of_some (World.isSome_descriptor_proxy hp)]
    exact (run_numberSlot_of_some hp).trans (by rw [hreply])
  obtain ⟨w₁, hgot, hwritten⟩ := World.OnlyWritten.printLine e.output
    ("Got into rust " ++ toString n.toInt) (w.answered h p)
  obtain ⟨w₂, htable, hwritten'⟩ := World.OnlyWritten.printLine e.output
    ("Vtable " ++ Text.address (((w.proxy h).descriptor.map w₁.slotsAddress).getD 0)) w₁
  refine ⟨w₂.told (w₂.table.lend h), ?_, ?_⟩
  · rw [receive, Act.run_bind_ok htake, Act.run_bind_ok (Proxy.run_ofHandle hne w),
      Act.run_bind_ok hnumber, Act.run_bind_ok hgot, EStateM.run_bind, EStateM.run_get]
    dsimp only
    rw [Act.run_bind_ok htable]
    exact Proxy.run_intoHandle ..
  · have hfiles : w₂.files = w.files := by
      obtain ⟨marks, -, rfl⟩ := hwritten.trans hwritten'
      rfl
    have ha := (hwritten.trans hwritten').answered
    have hp₂ : w₂.payload? h = some { p with calls := p.calls + 1 } := by
      rw [ha.payload?_eq, World.payload?_answered hp, if_pos rfl]
    have hlent₂ : ¬ w₂.isLent h := by rwa [World.isLent_eq, ha.table]
    refine ⟨?_, hfiles⟩
    refine World.held_of_lend (ha.wellKept hp hw) hp₂ hlent₂ (ha.dropsFreely hp hfree) ?_ ?_
    · rw [ha.expired]
    · rw [World.eventsOf, ha.events, World.eventsOf]

theorem run_conclude (e : Entry) (h : Handle) (r : Except Failure Result) (w : World) :
    ∃ outcome w', (e.conclude h r).run w = .ok outcome w' ∧ World.OnlyWritten w w' := by
  cases r with
  | error f =>
      exact ⟨_, _, rfl, (World.OnlyWritten.noted w rfl).trans (.noted _ rfl)⟩
  | ok result =>
      exact ⟨_, _, rfl, (World.OnlyWritten.noted w rfl).trans (.noted _ rfl)⟩

/-- Whatever becomes of the script, the call ends with the object gone. -/
theorem serve_gone (e : Entry) (c : Conduct) (hw : w.WellKept) (hlent : ¬ w.isLent h)
    (hp : w.payload? h = some p) (hreply : p.reply = .ok n) (hfree : w.DropsFreely h p) :
    ∃ outcome w', (e.serve c ⟨h⟩).run w = .ok outcome w' ∧
      World.Gone (if e.scriptDestroys c ⟨h⟩ w then [.lent, .dropped]
        else [.lent, .reclaimed, .dropped]) h p w w' := by
  obtain ⟨w₁, hreceive, hheld, -⟩ := e.run_receive hw hlent hp hreply hfree
  have hafter : (e.receive ⟨h⟩).after w = w₁ := by rw [Act.after, hreceive]
  obtain ⟨hannounce, hwritten⟩ := c.run_announce h w₁
  rw [serve, Act.run_bind_ok hreceive, Act.run_bind_ok hannounce, scriptDestroys, hafter]
  obtain ⟨r, w₃, hperform, hstate⟩ := (hwritten.held hheld).conduct c
  obtain ⟨outcome, w₄, hconclude, hwritten'⟩ := e.run_conclude h r w₃
  rw [Act.run_bind_ok hperform, Act.run_bind_ok hconclude]
  -- the object is given up by the entry point only if the script has not destroyed it
  split at hstate
  · rename_i hdestroys
    obtain ⟨w₅, hgiveUp, hgone⟩ := (hwritten'.gone hstate).giveUp
    rw [Act.run_bind_ok hgiveUp, if_pos hdestroys]
    exact ⟨outcome, w₅, rfl, hgone⟩
  · rename_i hdestroys
    obtain ⟨w₅, hgiveUp, hgone⟩ := (hwritten'.held hstate).giveUp
    rw [Act.run_bind_ok hgiveUp, if_neg hdestroys]
    exact ⟨outcome, w₅, rfl, hgone⟩

/-- The entry point serves the conduct of the script that it finds. -/
theorem run_main (e : Entry) (hw : w.WellKept) (hlent : ¬ w.isLent h)
    (hp : w.payload? h = some p) (hreply : p.reply = .ok n) (hfree : w.DropsFreely h p) :
    (e.main ⟨h⟩).run w = (e.serve (e.conduct w.files h) ⟨h⟩).run w := by
  obtain ⟨w₁, hreceive, -, hfiles⟩ := e.run_receive hw hlent hp hreply hfree
  rw [main_eq_receive, serve, Act.run_bind_ok hreceive, Act.run_bind_ok hreceive, EStateM.run_bind,
    e.run_run, hfiles, ← EStateM.run_bind, bind_assoc]

/-- **The entry point destroys its object exactly once**, whatever becomes of the script and
whatever the script does: the payload is dropped, the handle is not live any more, and the observers
are told that the object was lent, taken back unless the script destroyed it, and dropped. -/
theorem destroyed_once (e : Entry) (hreach : w.Reachable) (hlent : ¬ w.isLent h)
    (hp : w.payload? h = some p) (hreply : p.reply = .ok n) (hfree : w.DropsFreely h p) :
    (∀ c : Conduct, ∃ outcome w', (e.serve c ⟨h⟩).run w = .ok outcome w' ∧
      w.drops h = 0 ∧ w'.drops h = 1 ∧ w'.isLive h = false ∧
      (∀ t ∈ p.things, t < w.expired.length → w'.isExpired t) ∧
      w'.eventsOf h = w.eventsOf h ++
        if e.scriptDestroys c ⟨h⟩ w then [.lent, .dropped] else [.lent, .reclaimed, .dropped]) ∧
    (e.main ⟨h⟩).run w = (e.serve (e.conduct w.files h) ⟨h⟩).run w := by
  have hw := hreach.wellKept
  refine ⟨?_, e.run_main hw hlent hp hreply hfree⟩
  intro c
  obtain ⟨outcome, w', hserve, hgone⟩ := e.serve_gone c hw hlent hp hreply hfree
  exact ⟨outcome, w', hserve, hw.drops_of_payload hp, hgone.drops, hgone.dead, hgone.used,
    hgone.events⟩

/-- A script that destroys the first object, and tries that again. -/
def destroyingTwice : Conduct :=
  let args := [(World.handleAt 0).toUInt64]
  .runs slotsOnly { name := "twice", program := ⟨[], [], []⟩ } { params := [.i64] }
    (.call thingModule "destroy" args fun _ => .call thingModule "destroy" args .done)

/-- The second attempt stops the script, and the object was destroyed once. -/
theorem destroyed_once_destroyingTwice :
    let w := (Bench.run { world := { expired := [false] } }
      [.grant .reference (.reference {} 0)]).world
    ∃ outcome w', (serve {} destroyingTwice ⟨World.handleAt 0⟩).run w = .ok outcome w' ∧
      w'.drops (World.handleAt 0) = 1 ∧
      w'.eventsOf (World.handleAt 0) = [.created, .lent, .dropped] := by
  intro w
  have hreach : w.Reachable := ⟨_, _, ⟨rfl, rfl⟩, rfl, rfl⟩
  have hfree : w.DropsFreely (World.handleAt 0) (.reference {} 0) := by
    refine ⟨⟨by simp [Payload.reference], by decide⟩, by decide, ?_⟩
    rintro t - k - ⟨q, hq, -⟩
    obtain ⟨i, hi, rfl⟩ := (hreach.wellKept.mem_handles_iff k).1
      (World.isSome_holder?_of_payload (Option.isSome_iff_exists.2 ⟨q, hq⟩))
    rw [Nat.lt_one_iff.1 hi]
  obtain ⟨hserves, -⟩ := destroyed_once {} hreach (by decide +kernel) rfl rfl hfree
  obtain ⟨outcome, w', hserve, -, hdrops, -, -, hevents⟩ := hserves destroyingTwice
  have hdestroys : scriptDestroys {} destroyingTwice ⟨World.handleAt 0⟩ w = true := by
    decide +kernel
  rw [hdestroys] at hevents
  exact ⟨outcome, w', hserve, hdrops, hevents⟩

end Entry

end Handover
