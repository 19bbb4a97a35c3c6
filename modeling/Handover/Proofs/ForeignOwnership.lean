/-
**Ownership across the C boundary.**

An object that comes from C is of one of two kinds.  A shell is unwrapped to the handle that went
into it, and the call goes on with that handle.  An object that C built is put behind a new handle,
whose payload releases the object when it is dropped; here the holder and the object each count how
often they were destroyed, and the two counts have to go together through whatever the script does.

The entry point may be reached in three ways, and in each of them the object is destroyed once.

Main definitions:

* `Handover.Entry.Calling` — a call of the entry point, as it is or for any conduct of the script;
* `Handover.TakesOver` — an action that takes over the object behind a handle;
* `Handover.runShellBy`, `Handover.runForeignBy`, `Handover.foreignMainBy` — the three ways, for a
  given call of the entry point;
* `Handover.World.Account` — the holder behind `h` is the only one that releases the object `n`, and
  the object was destroyed once if the holder has been;
* `Handover.World.Unclaimed`, `Handover.World.ObjectsKnown` — who may release an object beforehand.

Main results:

* `Handover.World.stable_account` — calls of the entry point keep the account;
* `Handover.TakesOver.released` — whoever takes over an object of C destroys it once;
* `Handover.run_shell_adopt` — a shell is unwrapped to the handle that went in;
* `Handover.destroyed_once_across_boundary` — **each object that crosses is destroyed exactly once**.
-/

import Handover.Foreign
import Handover.Proofs.Stability

set_option autoImplicit false

namespace Handover

/-! ### How often an object was destroyed -/

open World (timesDestroyed)

/-- A step counts the object that it releases, and no other. -/
theorem DropStep.timesDestroyed_run (h : Handle) (calls : Nat) (step : DropStep) (w : World)
    {n : Nat} (hn : n < w.objects.length) :
    n < ((step.run h calls).after w).objects.length ∧
      ((step.run h calls).after w).timesDestroyed n =
        w.timesDestroyed n + if step = .release n then 1 else 0 := by
  cases step with
  | say c text => exact ⟨hn, rfl⟩
  | tally c label => exact ⟨hn, rfl⟩
  | fail text => exact ⟨hn, rfl⟩
  | probe c q => exact ⟨hn, rfl⟩
  | expire t =>
      rcases DropStep.run_cases h calls (.expire t) w with ⟨w', hrun, -⟩ | ⟨e, hrun, -⟩
      · have hw' : w'.objects = w.objects := by
          simp only [DropStep.run, EStateM.run_bind, EStateM.run_get] at hrun
          split at hrun
          · cases hrun
          · cases hrun
            rfl
        rw [Act.after_of_ok hrun, timesDestroyed, hw']
        exact ⟨hn, rfl⟩
      · rw [Act.after_of_error hrun]
        exact ⟨hn, rfl⟩
  | release m =>
      have hafter : (((DropStep.release m).run h calls).after w).objects =
          w.objects.modify m fun o => { o with destroyed := o.destroyed + 1 } := rfl
      rw [timesDestroyed, hafter, timesDestroyed]
      refine ⟨by rwa [List.length_modify], ?_⟩
      rw [List.getElem?_modify, List.getElem?_eq_getElem hn]
      by_cases hmn : m = n <;> simp [hmn]

/-- A drop that does not release an object does not count it, however it ends. -/
theorem timesDestroyed_dropAll (h : Handle) (calls : Nat) {steps : List DropStep} {w : World}
    {n : Nat} (hn : n < w.objects.length) (hsteps : .release n ∉ steps) :
    n < ((dropAll h calls steps).after w).objects.length ∧
      ((dropAll h calls steps).after w).timesDestroyed n = w.timesDestroyed n := by
  induction steps generalizing w with
  | nil => exact ⟨hn, rfl⟩
  | cons step steps ih =>
      obtain ⟨hhead, htail⟩ := not_or.1 (mt List.mem_cons.2 hsteps)
      obtain ⟨hlength, hcount⟩ := DropStep.timesDestroyed_run h calls step w hn
      rw [if_neg (Ne.symm hhead), Nat.add_zero] at hcount
      rw [dropAll, Act.after_bind]
      cases (step.run h calls).result w with
      | error e => exact ⟨hlength, hcount⟩
      | ok _ =>
          obtain ⟨hlength', hcount'⟩ := ih hlength htail
          exact ⟨hlength', hcount'.trans hcount⟩

/-- Releasing the handle after the drop does nothing to the objects. -/
theorem objects_destroySlot {w : World} {k : Handle} {p : Payload} (hp : w.payload? k = some p) :
    ((destroySlot k).after w).objects =
      ((dropAll k p.calls p.onDrop).after (w.emptied k)).objects := by
  have hrun := run_destroySlot_of_some hp
  cases hdrop : (dropAll k p.calls p.onDrop).run (w.emptied k) with
  | ok _ w' =>
      rw [hdrop] at hrun
      rw [Act.after_of_ok hrun, Act.after_of_ok hdrop]
      rfl
  | error e w' =>
      rw [hdrop] at hrun
      rw [Act.after_of_error hrun, Act.after_of_error hdrop]

namespace World

theorem timesDestroyed_congr {w w' : World} (hobjects : w'.objects = w.objects) (n : Nat) :
    w'.timesDestroyed n = w.timesDestroyed n := by
  rw [timesDestroyed, timesDestroyed, hobjects]

/-! ### Accounts -/

/-- The holder behind `h` is the only one that releases the object `n` and does nothing else, and
the object was destroyed once more than `base` if the payload of the holder is out. -/
structure Account (n : Nat) (h : Handle) (base : Nat) (w : World) : Prop where
  kept : w.WellKept
  known : n < w.objects.length
  alone : ∀ k p, w.payload? k = some p → .release n ∈ p.onDrop → k = h
  owned : ∀ p, w.payload? h = some p → p.onDrop = [.release n]
  count : w.timesDestroyed n = base + if (w.payload? h).isSome then 0 else 1

namespace Account

variable {n : Nat} {h : Handle} {base : Nat} {w w' : World}

/-- The account is about holders and objects only. -/
theorem congr (ha : Account n h base w) (hkept : w'.WellKept) (hholders : w'.holders = w.holders)
    (hobjects : w'.objects = w.objects) : Account n h base w' where
  kept := hkept
  known := hobjects ▸ ha.known
  alone k p hp := ha.alone k p (payload?_congr hholders k ▸ hp)
  owned p hp := ha.owned p (payload?_congr hholders h ▸ hp)
  count := by
    rw [timesDestroyed_congr hobjects, payload?_congr hholders]
    exact ha.count

theorem answered (ha : Account n h base w) {k : Handle} {p : Payload}
    (hp : w.payload? k = some p) : Account n h base (w.answered k p) := by
  -- an answer changes only the number of answers that a payload has given
  have hold : ∀ j q, (w.answered k p).payload? j = some q →
      ∃ r, w.payload? j = some r ∧ q.onDrop = r.onDrop := by
    intro j q hq
    rw [payload?_answered hp] at hq
    split at hq
    · rename_i hjk
      cases hq
      exact ⟨p, hjk ▸ hp, rfl⟩
    · exact ⟨q, hq, rfl⟩
  refine ⟨ha.kept.answered hp, ha.known, ?_, ?_, ?_⟩
  · intro j q hq hmem
    obtain ⟨r, hr, hsame⟩ := hold j q hq
    exact ha.alone j r hr (hsame ▸ hmem)
  · intro q hq
    obtain ⟨r, hr, hsame⟩ := hold h q hq
    exact hsame.trans (ha.owned r hr)
  · rw [isSome_payload?_answered hp]
    exact ha.count

/-- Destroying the holder counts the object; destroying another one does not. -/
theorem destroyed (ha : Account n h base w) {k : Handle} {p : Payload}
    (hp : w.payload? k = some p) : Account n h base ((destroySlot k).after w) := by
  have he := emptied_destroySlot hp
  have hobjects := objects_destroySlot hp
  have hcounts : n < ((destroySlot k).after w).objects.length ∧
      ((destroySlot k).after w).timesDestroyed n = w.timesDestroyed n + if k = h then 1 else 0 := by
    rw [timesDestroyed_congr hobjects, hobjects]
    by_cases hkh : k = h
    · subst hkh
      have hstep := DropStep.timesDestroyed_run k p.calls (.release n) (w.emptied k) ha.known
      rw [if_pos rfl] at hstep
      rw [ha.owned p hp, if_pos rfl]
      exact hstep
    · rw [if_neg hkh]
      exact timesDestroyed_dropAll k p.calls (w := w.emptied k) ha.known
        fun hmem => hkh (ha.alone k p hp hmem)
  refine ⟨ha.kept.destroySlot hp, hcounts.1, ?_, ?_, ?_⟩
  · intro j q hq hmem
    exact ha.alone j q (he.of_payload hq).2 hmem
  · intro q hq
    exact ha.owned q (he.of_payload hq).2
  · rw [hcounts.2, ha.count, he.payload?_eq]
    by_cases hkh : k = h
    · subst hkh
      simp [hp]
    · simp [hkh, Ne.symm hkh]

end Account

/-- **Calls of the entry point keep the account**, with whatever handle they are made. -/
theorem stable_account (n : Nat) (h : Handle) (base : Nat) (k : Handle) :
    Stable k (Account n h base) where
  kept ha := ha.kept
  written {w w'} ha hwritten := by
    have hkept := hwritten.wellKept ha.kept
    obtain ⟨marks, -, rfl⟩ := hwritten
    exact ha.congr hkept rfl rfl
  answered ha _ hp := ha.answered hp
  destroyed ha _ hp := ha.destroyed hp
  lent ha := ha.congr (ha.kept.lent k) rfl rfl
  reclaimed ha := ha.congr (ha.kept.reclaimed k) rfl rfl

/-- Nothing that is held would release the object `n`, which exists. -/
structure Unclaimed (n : Nat) (w : World) : Prop where
  known : n < w.objects.length
  unclaimed : ∀ k p, w.payload? k = some p → .release n ∉ p.onDrop

/-- What is held releases only objects that exist. -/
def ObjectsKnown (w : World) : Prop :=
  ∀ k p n, w.payload? k = some p → .release n ∈ p.onDrop → n < w.objects.length

end World

/-! ### Taking over an object -/

/-- The action takes over the object behind `h`.  It does no more than a call of the entry point may
do; if it returns the object is destroyed, and it does return if the object raises no fault. -/
structure TakesOver {α : Type} (h : Handle) (act : Act α) : Prop where
  keeps : ∀ {P}, World.Stable h P → act.Keeps P
  spent : ∀ {w a w'}, w.WellKept → (w.holder? h).isSome → act.run w = .ok a w' → World.Spent h w'
  returns : ∀ {w p n}, w.WellKept → ¬ w.isLent h → w.payload? h = some p → p.reply = .ok n →
    w.DropsFreely h p → ∃ a w', act.run w = .ok a w'

/-- It is enough that in each world the action does what some action does that takes over the
object. -/
theorem TakesOver.of_run {α : Type} {h : Handle} {act : Act α}
    (hact : ∀ w, ∃ act', TakesOver h act' ∧ act.run w = act'.run w) : TakesOver h act where
  keeps {P} hP w hw := by
    obtain ⟨act', htakes, hsame⟩ := hact w
    rw [Act.after_congr hsame]
    exact htakes.keeps hP w hw
  spent {w a w'} hw hh hrun := by
    obtain ⟨act', htakes, hsame⟩ := hact w
    exact htakes.spent hw hh (hsame ▸ hrun)
  returns {w p n} hw hlent hp hreply hfree := by
    obtain ⟨act', htakes, hsame⟩ := hact w
    rw [hsame]
    exact htakes.returns hw hlent hp hreply hfree

theorem Entry.takesOver_serve (e : Entry) (c : Conduct) (h : Handle) :
    TakesOver h (e.serve c ⟨h⟩) where
  keeps hP := hP.serve e c
  spent hw hh hrun := (Entry.spent_of_serve hw hh hrun).2
  returns hw hlent hp hreply hfree := by
    obtain ⟨outcome, w', hrun, -⟩ := e.serve_gone c hw hlent hp hreply hfree
    exact ⟨outcome, w', hrun⟩

/-- A call of the entry point: as it is, or for a script of which it is known what becomes. -/
inductive Entry.Calling (e : Entry) : (Deed → Act (Except Failure Unit)) → Prop
  | main : Calling e e.main
  | serve (c : Conduct) : Calling e (e.serve c)

theorem Entry.Calling.takesOver {e : Entry} {call : Deed → Act (Except Failure Unit)}
    (hcall : e.Calling call) (h : Handle) : TakesOver h (call ⟨h⟩) := by
  cases hcall with
  | main =>
      refine .of_run fun w => ?_
      obtain ⟨c, hrun⟩ := e.run_main_eq_serve ⟨h⟩ w
      exact ⟨_, e.takesOver_serve c h, hrun⟩
  | serve c => exact e.takesOver_serve c h

/-! ### Shells -/

theorem run_shell {h : Handle} (hh : h ≠ 0) (w : World) :
    (shell ⟨h⟩).run w = .ok (.shell h) w := by
  have htake : (Deed.take ⟨h⟩).run w = .ok h w := by
    rw [Deed.run_take, if_pos (by simpa [Deed.isValid] using hh)]
  rw [shell, Act.run_bind_ok htake]
  rfl

/-- A shell is unwrapped to the handle that went in, and nothing else happens. -/
theorem run_shell_adopt {h : Handle} (hh : h ≠ 0) (w : World) :
    (shell ⟨h⟩ >>= adopt).run w = .ok ⟨h⟩ w := by
  rw [Act.run_bind_ok (run_shell hh w)]
  rfl

/-- C finds the object through the shell, if it is live. -/
theorem run_checked_of_some {w : World} (hw : w.WellKept) {h : Handle} {p : Payload}
    (hp : w.payload? h = some p) (slot : String) :
    (checked h slot).run w = .ok (w.proxy h) w := by
  have hlookup : (Proxy.lookup h).run w = .ok (.ok (w.proxy h)) w := by
    rw [Proxy.run_lookup hw, (w.refusal?_eq_none h).2 ⟨hw.live h (by simp [hp]), by simp [hp]⟩]
    rfl
  rw [checked, Act.run_bind_ok hlookup]
  rfl

/-- Otherwise C's call is refused, and nothing but the log changes. -/
theorem run_checked_of_none {w : World} (hw : w.WellKept) {h : Handle}
    (hp : w.payload? h = none) (slot : String) :
    ∃ f w', (checked h slot).run w = .error f w' ∧ World.OnlyWritten w w' := by
  have hlookup := Proxy.run_lookup hw h
  cases hr : w.refusal? h with
  | none =>
      have hsome := ((w.refusal?_eq_none h).1 hr).2
      simp [hp] at hsome
  | some f =>
      rw [hr] at hlookup
      rw [checked, Act.run_bind_ok hlookup]
      exact ⟨.failure f, _, rfl, .noted w rfl⟩

/-- Asking through a shell is asking the object. -/
theorem run_shellNumber {w : World} (hw : w.WellKept) {h : Handle} {p : Payload}
    (hp : w.payload? h = some p) : (shellNumber h).run w = (numberSlot h).run w := by
  rw [shellNumber, Act.run_bind_ok (run_checked_of_some hw hp "number"),
    Proxy.run_number_of_some (World.isSome_descriptor_proxy hp)]
  rfl

/-- C says the number of an object that answers. -/
theorem run_announce_shell {w : World} (hw : w.WellKept) {h : Handle} {p : Payload}
    (hp : w.payload? h = some p) {n : Int32} (hreply : p.reply = .ok n) (e : Entry) :
    ∃ w', (announce e (.shell h)).run w = .ok () w' ∧ World.Answered h p w w' := by
  have hnumber : (shellNumber h).run w = .ok n (w.answered h p) := by
    rw [run_shellNumber hw hp, run_numberSlot_of_some hp, hreply]
  obtain ⟨w', hprint, hwritten⟩ := World.OnlyWritten.printLine e.output
    ("C side " ++ toString n.toInt) (w.answered h p)
  refine ⟨w', ?_, hwritten.answered⟩
  rw [announce, Pointer.number, Act.run_bind_ok hnumber, hprint]

theorem World.Stable.announce_shell {h : Handle} {P : World → Prop} (hP : Stable h P) (e : Entry) :
    (Handover.announce e (.shell h)).Keeps P := by
  refine .bind ?_ fun n => hP.printLine _ _
  intro w hw
  have hkept := hP.kept hw
  cases hp : w.payload? h with
  | none =>
      obtain ⟨f, w', hchecked, hwritten⟩ := run_checked_of_none hkept hp "number"
      have hnumber : (shellNumber h).run w = .error f w' := by
        rw [shellNumber, Act.run_bind_error hchecked]
      rw [Pointer.number, Act.after_of_error hnumber]
      exact hP.written hw hwritten
  | some p =>
      rw [Pointer.number, Act.after_congr (run_shellNumber hkept hp)]
      exact hP.numberSlot hw (Or.inl rfl)

/-- Saying the number on C's side first makes no difference to taking an object over. -/
theorem TakesOver.announced {α : Type} {h : Handle} {act : Act α} (hact : TakesOver h act)
    (e : Entry) : TakesOver h (announce e (.shell h) >>= fun _ => act) where
  keeps hP := (hP.announce_shell e).bind fun _ => hact.keeps hP
  spent {w a w'} hw hh hrun := by
    obtain ⟨_, w₁, hannounce, hrest⟩ := Act.run_bind_eq_ok.1 hrun
    have hkept := (World.stable_keptFor h (w.holders.map Prod.fst)).announce_shell e w ⟨hw, rfl⟩
    rw [Act.after_of_ok hannounce] at hkept
    refine hact.spent hkept.kept ?_ hrest
    rwa [World.isSome_holder?_congr hkept.handles]
  returns {w p n} hw hlent hp hreply hfree := by
    obtain ⟨w₁, hannounce, ha⟩ := run_announce_shell hw hp hreply e
    have hp₁ : w₁.payload? h = some { p with calls := p.calls + 1 } := by
      rw [ha.payload?_eq, World.payload?_answered hp, if_pos rfl]
    obtain ⟨m, hreply₁⟩ := Payload.exists_reply hreply (p.calls + 1)
    obtain ⟨a, w', hrun⟩ := hact.returns (ha.wellKept hp hw) (by rwa [World.isLent_eq, ha.table]) hp₁
      hreply₁ (ha.dropsFreely hp (hfree.asked _))
    exact ⟨a, w', by rw [Act.run_bind_ok hannounce, hrun]⟩

/-! ### Objects that C built -/

/-- The payload for an object of C. -/
def Payload.foreign (number : Int32) (n : Nat) : Payload where
  answer := .fixed number
  onDrop := [.release n]

/-- The drop of such a payload raises no fault. -/
theorem World.dropsFreely_foreign (w : World) (h : Handle) (number : Int32) (n : Nat) :
    w.DropsFreely h (.foreign number n) :=
  ⟨⟨by simp [Payload.foreign], List.nodup_nil⟩, fun _ ht => absurd ht List.not_mem_nil,
    fun _ ht => absurd ht List.not_mem_nil⟩

/-- The object `n` was destroyed once between the two worlds.  One holder was made for it, and it is
not live any more. -/
structure World.Released (n : Nat) (w w' : World) : Prop where
  count : w'.timesDestroyed n = w.timesDestroyed n + 1
  holders : w'.holders.length = w.holders.length + 1
  dead : ∀ k, w.holder? k = none → w'.isLive k = false

section Objects

variable {w : World} (hw : w.WellKept) {n : Nat} (hn : w.Unclaimed n)
include hw hn

/-- An object of C is put behind the next handle, which is accountable for it. -/
theorem run_adopt_object : ∃ number,
    let h := World.handleAt w.holders.length
    let w₁ := w.wrapped .foreign (.foreign number n)
    (adopt (.object n)).run w = .ok ⟨h⟩ w₁ ∧ w₁.payload? h = some (.foreign number n) ∧
      w₁.isLent h = false ∧ World.Account n h (w.timesDestroyed n) w₁ := by
  refine ⟨(w.objects[n]?.map (·.number)).getD 0, ?_⟩
  intro h w₁
  have hpayload := World.payload?_wrapped hw .foreign
    (.foreign ((w.objects[n]?.map (·.number)).getD 0) n)
  have hown : w₁.payload? h = some (.foreign ((w.objects[n]?.map (·.number)).getD 0) n) := by
    rw [hpayload, if_pos rfl]
  refine ⟨?_, hown, ?_, hw.wrapped .foreign _, hn.known, ?_, ?_, ?_⟩
  · have hnumber : (Pointer.object n).number.run w =
        .ok ((w.objects[n]?.map (·.number)).getD 0) w := rfl
    rw [adopt, Act.run_bind_ok hnumber, Act.run_bind_ok (World.run_wrap hw _ _)]
    rfl
  · rw [World.isLent_eq, World.get?_wrapped hw, if_pos rfl]
    rfl
  · intro k q hq hmem
    rw [hpayload] at hq
    split at hq
    · rename_i hk
      exact hk
    · exact absurd hmem (hn.unclaimed k q hq)
  · intro q hq
    rw [hown] at hq
    cases hq
    rfl
  · rw [hown]
    rfl

/-- **Whoever takes over an object of C destroys it once**, and the holder that was made for it is
gone. -/
theorem TakesOver.released {α : Type} {act : Deed → Act α}
    (hact : ∀ h, h ≠ 0 → TakesOver h (act ⟨h⟩)) :
    ∃ a w', (adopt (.object n) >>= act).run w = .ok a w' ∧ World.Released n w w' := by
  obtain ⟨number, hadopt, hp, hlent, haccount⟩ := run_adopt_object hw hn
  have hw₁ := haccount.kept
  have htakes := hact (World.handleAt w.holders.length) (World.handleAt_ne_zero _)
  obtain ⟨a, w', hrun⟩ := htakes.returns hw₁ (by simp [hlent]) hp rfl
    (World.dropsFreely_foreign _ _ _ _)
  have hkept := htakes.keeps (World.stable_keptFor _ _) _ ⟨hw₁, rfl⟩
  have haccount' := htakes.keeps (World.stable_account n _ _ _) _ haccount
  rw [Act.after_of_ok hrun] at hkept haccount'
  have hdead := (htakes.spent hw₁ (World.isSome_holder?_of_payload (by simp [hp])) hrun).dead
  refine ⟨a, w', by rw [Act.run_bind_ok hadopt, hrun], ?_, ?_, ?_⟩
  · -- what is not live has no payload, so that the account is closed
    simpa [hkept.kept.payload?_of_dead hdead] using haccount'.count
  · have hlength := congrArg List.length hkept.handles
    simpa [World.wrapped, World.told, World.noted] using hlength
  · intro k hk
    by_contra hlive
    have hholder := hkept.kept.held k (by simpa using hlive)
    rw [World.isSome_holder?_congr hkept.handles, World.holder?_wrapped hw] at hholder
    split at hholder
    · rename_i hkh
      exact hlive (hkh ▸ hdead)
    · simp [hk] at hholder

end Objects

/-! ### The three ways -/

/-- Passes an owned object through C to a call of the entry point. -/
def runShellBy (call : Deed → Act (Except Failure Unit)) (e : Entry) (d : Deed) :
    Act (Except Failure Unit) := do
  let p ← shell d
  announce e p
  call (← adopt p)

/-- Passes an object of C to a call of the entry point. -/
def runForeignBy (call : Deed → Act (Except Failure Unit)) (e : Entry) (number : Int32) :
    Act (Nat × Except Failure Unit) := do
  let n ← newObject number
  announce e (.object n)
  let outcome ← call (← adopt (.object n))
  return ((← get).timesDestroyed n, outcome)

/-- The entry that C calls if the settings are accepted. -/
def Settings.foreignEntry (s : Settings) (boundary : Boundary) : Entry where
  boundary := boundary
  script := s.script
  output := .console
  errors := .console
  allowance := { pages := s.memoryLimitPages.toNat }

/-- What is done with an object that C passes: the settings decide whether the entry point is
called. -/
def settleBy (call : Entry → Deed → Act (Except Failure Unit)) (boundary : Boundary) (file : String)
    (d : Deed) : Act Unit := do
  match Settings.ofVariable (← get).files file with
  | .error f =>
    Act.printLine .console ("error " ++ f.message)
    dropHandle (← d.take)
  | .ok s =>
    let _ ← call (s.foreignEntry boundary) d

/-- The entry point as C calls it, for a given call of it. -/
def foreignMainBy (call : Entry → Deed → Act (Except Failure Unit)) (boundary : Boundary)
    (file : String) (p : Pointer) : Act Unit := do
  settleBy call boundary file (← adopt p)

theorem runShell_eq (e : Entry) : runShell e = runShellBy e.main e := rfl

theorem runForeign_eq (e : Entry) : runForeign e = runForeignBy e.main e := rfl

theorem foreignMain_eq : foreignMain = foreignMainBy Entry.main := rfl

/-- An owned object that goes through C is said there, and then taken over by its handle. -/
theorem run_runShellBy {h : Handle} (hh : h ≠ 0) (call : Deed → Act (Except Failure Unit))
    (e : Entry) (w : World) : (runShellBy call e ⟨h⟩).run w =
      (announce e (.shell h) >>= fun _ => call ⟨h⟩).run w := by
  rw [runShellBy, Act.run_bind_ok (run_shell hh w)]
  rfl

/-- Destroying an object after a line was written takes it over. -/
theorem takesOver_dropHandle (c : Channel) (text : String) (h : Handle) :
    TakesOver h (Act.printLine c text >>= fun _ => dropHandle h) where
  keeps hP := (hP.printLine c text).bind fun _ => hP.dropHandle
  spent {w a w'} hw hh hrun := by
    obtain ⟨w₁, hprint, hwritten⟩ := World.OnlyWritten.printLine c text w
    rw [Act.run_bind_ok hprint] at hrun
    exact World.spent_of_dropHandle (hwritten.wellKept hw) hrun
  returns {w p n} hw hlent hp hreply hfree := by
    obtain ⟨w₁, hprint, hwritten⟩ := World.OnlyWritten.printLine c text w
    have hp₁ : w₁.payload? h = some p := by
      obtain ⟨marks, -, rfl⟩ := hwritten
      exact hp
    obtain ⟨w', hdrop, -⟩ :=
      dropHandle_ok (hwritten.wellKept hw) hp₁ (hfree.of_written hwritten)
    exact ⟨(), w', by rw [Act.run_bind_ok hprint, hdrop]⟩

/-- What an action returns makes no difference. -/
theorem TakesOver.forget {α : Type} {h : Handle} {act : Act α} (hact : TakesOver h act) :
    TakesOver h (act >>= fun _ => (pure () : Act Unit)) where
  keeps hP := (hact.keeps hP).bind fun _ w hw => hw
  spent hw hh hrun := by
    obtain ⟨a, w₁, hact', hreturn⟩ := Act.run_bind_eq_ok.1 hrun
    cases hreturn
    exact hact.spent hw hh hact'
  returns hw hlent hp hreply hfree := by
    obtain ⟨a, w', hrun⟩ := hact.returns hw hlent hp hreply hfree
    exact ⟨(), w', by rw [Act.run_bind_ok hrun]; rfl⟩

/-- Whether or not the settings are accepted, the object is taken over. -/
theorem takesOver_settleBy {call : Entry → Deed → Act (Except Failure Unit)}
    (hcall : ∀ e : Entry, e.Calling (call e)) (boundary : Boundary) (file : String) {h : Handle}
    (hh : h ≠ 0) : TakesOver h (settleBy call boundary file ⟨h⟩) := by
  refine .of_run fun w => ?_
  rw [settleBy, EStateM.run_bind, EStateM.run_get]
  dsimp only
  cases Settings.ofVariable w.files file with
  | error f =>
      refine ⟨_, takesOver_dropHandle .console ("error " ++ f.message) h, ?_⟩
      dsimp only
      rw [Act.run_bind_ok (Act.run_printLine ..), Act.run_bind_ok (Act.run_printLine ..)]
      exact Act.run_bind_ok (by rw [Deed.run_take, if_pos (by simpa [Deed.isValid] using hh)]) _
  | ok s => exact ⟨_, ((hcall (s.foreignEntry boundary)).takesOver h).forget, rfl⟩

/-! ### Once -/

/-- In the world `w` the action drops the payload behind `h` exactly once by the time it returns,
and makes no holder.  It returns if the handle is not lent and the object raises no fault. -/
structure World.DropsOnce {α : Type} (w : World) (h : Handle) (act : Act α) : Prop where
  before : w.drops h = 0
  once : ∀ a w', act.run w = .ok a w' → w'.drops h = 1 ∧ w'.isLive h = false ∧
    w'.holders.map Prod.fst = w.holders.map Prod.fst
  returns : ∀ p n, ¬ w.isLent h → w.payload? h = some p → p.reply = .ok n → w.DropsFreely h p →
    ∃ a w', act.run w = .ok a w'

theorem TakesOver.dropsOnce {α : Type} {h : Handle} {act : Act α} (hact : TakesOver h act)
    {w : World} (hw : w.WellKept) (hp : (w.payload? h).isSome) : w.DropsOnce h act where
  before := by
    obtain ⟨p, hp⟩ := Option.isSome_iff_exists.1 hp
    exact hw.drops_of_payload hp
  once a w' hrun := by
    have hspent := hact.spent hw (World.isSome_holder?_of_payload hp) hrun
    have hkept := hact.keeps (World.stable_keptFor h _) w ⟨hw, rfl⟩
    rw [Act.after_of_ok hrun] at hkept
    exact ⟨hspent.drops, hspent.dead, hkept.handles⟩
  returns p n hlent hp hreply hfree := hact.returns hw hlent hp hreply hfree

theorem takesOver_runShellBy {e : Entry} {call : Deed → Act (Except Failure Unit)}
    (hcall : e.Calling call) {h : Handle} (hh : h ≠ 0) : TakesOver h (runShellBy call e ⟨h⟩) :=
  .of_run fun w => ⟨_, (hcall.takesOver h).announced e, run_runShellBy hh call e w⟩

/-- The world with one more object, which C has just built. -/
def World.built (w : World) (number : Int32) : World :=
  { w with objects := w.objects ++ [{ number }] }

/-- C builds an object and says its number; the object belongs to nobody yet. -/
theorem run_announce_newObject {w : World} (hw : w.WellKept) (hknown : w.ObjectsKnown) (e : Entry)
    (number : Int32) : ∃ w₁, (newObject number).run w = .ok w.objects.length (w.built number) ∧
      (announce e (.object w.objects.length)).run (w.built number) = .ok () w₁ ∧ w₁.WellKept ∧
      w₁.holders = w.holders ∧ w₁.Unclaimed w.objects.length ∧
      w₁.timesDestroyed w.objects.length = 0 := by
  have hnumber : (Pointer.object w.objects.length).number.run (w.built number) =
      .ok number (w.built number) := by
    have hobject : ((w.built number).objects[w.objects.length]?.map (·.number)).getD 0 = number := by
      simp [World.built]
    rw [Pointer.number, EStateM.run_bind, EStateM.run_get]
    exact congrArg (EStateM.Result.ok · _) hobject
  obtain ⟨w₁, hprint, marks, -, hw₁⟩ := World.OnlyWritten.printLine e.output
    ("C side " ++ toString number.toInt) (w.built number)
  refine ⟨w₁, rfl, by rw [announce, Act.run_bind_ok hnumber, hprint], ?_, ?_, ⟨?_, ?_⟩, ?_⟩
  · exact hw.congr (by rw [hw₁]; rfl) (by rw [hw₁]; rfl)
  · rw [hw₁]
    rfl
  · simp [hw₁, World.built]
  · intro k p hp hmem
    rw [hw₁] at hp
    exact Nat.lt_irrefl _ (hknown k p _ hp hmem)
  · simp [hw₁, World.built, timesDestroyed]

/-- An object that C builds and passes on was destroyed once when the call returns. -/
theorem run_runForeignBy {e : Entry} {call : Deed → Act (Except Failure Unit)}
    (hcall : e.Calling call) {w : World} (hw : w.WellKept) (hknown : w.ObjectsKnown)
    (number : Int32) : ∃ outcome w', (runForeignBy call e number).run w = .ok (1, outcome) w' ∧
      w'.holders.length = w.holders.length + 1 ∧ ∀ k, w.holder? k = none → w'.isLive k = false := by
  obtain ⟨w₁, hnew, hannounce, hkept, hholders, hunclaimed, hcount⟩ :=
    run_announce_newObject hw hknown e number
  obtain ⟨outcome, w', hrun, hreleased⟩ :=
    TakesOver.released hkept hunclaimed fun h _ => hcall.takesOver h
  obtain ⟨d, w₂, hadopt, hcalled⟩ := Act.run_bind_eq_ok.1 hrun
  refine ⟨outcome, w', ?_, ?_, ?_⟩
  · rw [runForeignBy, Act.run_bind_ok hnew, Act.run_bind_ok hannounce, Act.run_bind_ok hadopt,
      Act.run_bind_ok hcalled, EStateM.run_bind, EStateM.run_get]
    dsimp only
    rw [hreleased.count, hcount]
    rfl
  · rw [hreleased.holders, hholders]
  · intro k hk
    exact hreleased.dead k ((World.holder?_congr hholders k).trans hk)

/-- **Each object that crosses the boundary is destroyed exactly once**, whatever the entry, the
settings and the script, and whatever the script does.  An object that C builds reports one
destruction, and the holder that was made for it is gone.  An owned object that goes through C comes
back as the handle that went in, without any change, and its payload is dropped once.  The same
holds of an object of either kind that C passes to the entry point, whether or not the settings are
accepted. -/
theorem destroyed_once_across_boundary {w : World} (hreach : w.Reachable)
    (hknown : w.ObjectsKnown) :
    (∀ (e : Entry) (call : Deed → Act (Except Failure Unit)), e.Calling call →
      (∀ number : Int32, ∃ outcome w', (runForeignBy call e number).run w = .ok (1, outcome) w' ∧
        w'.holders.length = w.holders.length + 1 ∧
        ∀ k, w.holder? k = none → w'.isLive k = false) ∧
      ∀ h, (w.payload? h).isSome → (shell ⟨h⟩ >>= adopt).run w = .ok ⟨h⟩ w ∧
        w.DropsOnce h (runShellBy call e ⟨h⟩)) ∧
    (∀ call : Entry → Deed → Act (Except Failure Unit), (∀ e : Entry, e.Calling (call e)) →
      ∀ (boundary : Boundary) (file : String),
        (∀ h, (w.payload? h).isSome →
          w.DropsOnce h (foreignMainBy call boundary file (.shell h))) ∧
        ∀ n, w.Unclaimed n → ∃ w', (foreignMainBy call boundary file (.object n)).run w = .ok () w' ∧
          w.Released n w') ∧
    (∀ e : Entry, runForeign e = runForeignBy e.main e ∧ runShell e = runShellBy e.main e) ∧
    foreignMain = foreignMainBy Entry.main := by
  have hw := hreach.wellKept
  have hne : ∀ h, (w.payload? h).isSome → h ≠ 0 :=
    fun h hp => hw.ne_zero_of_holder (World.isSome_holder?_of_payload hp)
  refine ⟨?_, ?_, fun e => ⟨runForeign_eq e, runShell_eq e⟩, foreignMain_eq⟩
  · intro e call hcall
    refine ⟨run_runForeignBy hcall hw hknown, ?_⟩
    intro h hp
    exact ⟨run_shell_adopt (hne h hp) w, (takesOver_runShellBy hcall (hne h hp)).dropsOnce hw hp⟩
  · intro call hcall boundary file
    refine ⟨?_, ?_⟩
    · intro h hp
      exact (takesOver_settleBy hcall boundary file (hne h hp)).dropsOnce hw hp
    · intro n hn
      obtain ⟨_, w', hrun, hreleased⟩ :=
        TakesOver.released hw hn fun h hh => takesOver_settleBy hcall boundary file hh
      exact ⟨w', hrun, hreleased⟩

/-- A reference thing behind a handle, and an object of C. -/
def borderWorld : World :=
  { (Bench.run { world := { expired := [false] } }
      [.grant .reference (.reference {} 0)]).world with objects := [{ number := 7 }] }

theorem borderWorld_reachable : borderWorld.Reachable := ⟨_, _, ⟨rfl, rfl⟩, rfl, rfl⟩

/-- The only payload is that of the reference thing. -/
theorem payload?_borderWorld {k : Handle} {p : Payload} (hp : borderWorld.payload? k = some p) :
    k = World.handleAt 0 ∧ p = .reference {} 0 := by
  obtain ⟨i, hi, rfl⟩ := (borderWorld_reachable.wellKept.mem_handles_iff k).1
    (World.isSome_holder?_of_payload (Option.isSome_iff_exists.2 ⟨p, hp⟩))
  obtain rfl : i = 0 := Nat.lt_one_iff.1 hi
  exact ⟨rfl, (Option.some.inj hp).symm⟩

/-- No file has such a path, so that the settings are refused. -/
theorem isOk_settings_borderWorld :
    (Settings.ofVariable borderWorld.files "\x00").isOk = false := by
  have hflaw : File.flaw? "\x00" = some .invalid := by decide +kernel
  have hread : borderWorld.files.read "\x00" = .error ⟨"open", "\x00", .invalid⟩ := by
    rw [File.Tree.read, File.Tree.look, File.Tree.find, hflaw]
    rfl
  rw [Settings.ofVariable, if_neg (by decide), Settings.load, hread]
  rfl

/-- An object of C with a negative number, a shell whose script destroys twice, an object of C with
settings that are refused, and a shell with settings that are accepted. -/
theorem destroyed_once_across_boundary_borderWorld :
    (∃ outcome w', (runForeign {} (-7)).run borderWorld = .ok (1, outcome) w') ∧
    (∃ outcome w', (runShellBy (Entry.serve {} Entry.destroyingTwice) {} ⟨World.handleAt 0⟩).run
      borderWorld = .ok outcome w' ∧ w'.drops (World.handleAt 0) = 1) ∧
    (Settings.ofVariable borderWorld.files "\x00").isOk = false ∧
    (∃ w', (foreignMain {} "\x00" (.object 0)).run borderWorld = .ok () w' ∧
      w'.timesDestroyed 0 = 1) ∧
    (Settings.ofVariable borderWorld.files "").isOk = true ∧
    ∃ w', (foreignMain {} "" (.shell (World.handleAt 0))).run borderWorld = .ok () w' ∧
      w'.drops (World.handleAt 0) = 1 := by
  have hfree : borderWorld.DropsFreely (World.handleAt 0) (.reference {} 0) := by
    refine ⟨⟨by simp [Payload.reference], by decide⟩, by decide, ?_⟩
    rintro t - k - ⟨q, hq, -⟩
    exact (payload?_borderWorld hq).1
  have hlent : ¬ borderWorld.isLent (World.handleAt 0) := by decide +kernel
  obtain ⟨hcalls, hmains, -, -⟩ := destroyed_once_across_boundary borderWorld_reachable (by
    intro k p n hp hmem
    simp [(payload?_borderWorld hp).2, Payload.reference] at hmem)
  refine ⟨?_, ?_, isOk_settings_borderWorld, ?_, rfl, ?_⟩
  · obtain ⟨outcome, w', hrun, -⟩ := (hcalls {} _ .main).1 (-7)
    exact ⟨outcome, w', hrun⟩
  · obtain ⟨-, honce⟩ := (hcalls {} _ (.serve Entry.destroyingTwice)).2 (World.handleAt 0) rfl
    obtain ⟨outcome, w', hrun⟩ := honce.returns _ _ hlent rfl rfl hfree
    exact ⟨outcome, w', hrun, (honce.once outcome w' hrun).1⟩
  · have hunclaimed : borderWorld.Unclaimed 0 := by
      refine ⟨by decide, ?_⟩
      intro k p hp
      simp [(payload?_borderWorld hp).2, Payload.reference]
    obtain ⟨w', hrun, hreleased⟩ := (hmains _ (fun _ => .main) {} "\x00").2 0 hunclaimed
    exact ⟨w', hrun, hreleased.count⟩
  · have honce := (hmains _ (fun _ => .main) {} "").1 (World.handleAt 0) rfl
    obtain ⟨_, w', hrun⟩ := honce.returns _ _ hlent rfl rfl hfree
    exact ⟨w', hrun, (honce.once _ w' hrun).1⟩

end Handover
