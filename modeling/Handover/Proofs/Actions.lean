/-
**What actions do to the world.**

An action is run by `EStateM.run`; its result carries the world that it leaves behind, whether or
not a fault stopped it.  This module gives one equation for each basic action, and says of the
steps of a drop what they can reach: they write, use things up and count destructions of foreign
objects, but they change neither the live table nor a holder.

Main definitions:

* `Handover.World.noted`, `Handover.World.told`, `Handover.World.alter` — the worlds that the basic
  actions leave behind;
* `Handover.Act.result`, `Handover.Act.after` — how an action ends, and the world after it;
* `Handover.World.eventsOf` — what the observers of the live table were told about a handle;
* `Handover.World.OnlyWritten` — two worlds that differ in what was written and logged;
* `Handover.World.OutsideChange`, `Handover.World.Consumed` — two worlds with the same live table
  and the same holders, between which things may have been used up, or were;
* `Handover.Payload.things` — the things that a payload uses up when it is dropped;
* `Handover.World.Droppable` — steps of a drop that end without a fault.

Main results:

* `Handover.dropAll_cases` — **a drop stays outside**: however it ends, live table and holders are
  as before;
* `Handover.exists_run_dropAll_iff` — which drops end well;
* `Handover.dropAll_ok` — a drop that raises nothing and finds its things unused ends without a
  fault.
-/

import Handover.Object.Proxy
import Handover.Proofs.LiveTable

set_option autoImplicit false

namespace Handover

/-! ### Marks and events -/

/-- The change of the live table that an entry of the journal is about. -/
def Mark.event? : Mark → Option (Live.Event Unit)
  | .changed e _ => some e
  | _ => none

namespace World

theorem events_eq (w : World) : w.events = w.journal.filterMap Mark.event? := by
  unfold events Mark.event?
  congr 1

/-- What the observers of the live table were told about a handle, in order. -/
def eventsOf (w : World) (h : Handle) : List Live.EventKind :=
  (w.events.filter (·.handle = h)).map (·.kind)

/-- The world with one more entry in its journal. -/
def noted (w : World) (m : Mark) : World := { w with journal := w.journal ++ [m] }

/-- The world after an operation of the live table. -/
def told {ρ : Type} (w : World) (o : Live.Outcome Unit Observer ρ) : World :=
  { w with
    table := o.table
    journal := w.journal ++ (o.event.map fun e => Mark.changed e o.table.observers).toList }

/-- The world with another holder behind a handle. -/
def alter (w : World) (h : Handle) (f : Holder → Holder) : World :=
  { w with holders := w.holders.map fun (k, x) => (k, if k = h then f x else x) }

@[simp] theorem table_noted (w : World) (m : Mark) : (w.noted m).table = w.table := rfl

@[simp] theorem events_noted (w : World) (m : Mark) :
    (w.noted m).events = w.events ++ m.event?.toList := by
  simp only [events_eq, noted, List.filterMap_append, List.append_cancel_left_eq]
  cases hm : m.event? <;> simp [hm]

section Told

variable {ρ : Type} (w : World) (o : Live.Outcome Unit Observer ρ)

@[simp] theorem table_told : (w.told o).table = o.table := rfl

@[simp] theorem events_told : (w.told o).events = w.events ++ o.event.toList := by
  simp only [events_eq, told, List.filterMap_append, List.append_cancel_left_eq]
  cases o.event <;> rfl

end Told

section Alter

variable (w : World) (h : Handle) (f : Holder → Holder)

@[simp] theorem table_alter : (w.alter h f).table = w.table := rfl
@[simp] theorem events_alter : (w.alter h f).events = w.events := rfl

@[simp] theorem handles_alter :
    (w.alter h f).holders.map Prod.fst = w.holders.map Prod.fst := by
  simp [alter, Function.comp_def]

theorem alter_alter (g : Holder → Holder) :
    (w.alter h f).alter h g = w.alter h fun x => g (f x) := by
  simp only [alter, List.map_map, Function.comp_def]
  congr 1
  refine List.map_congr_left ?_
  rintro ⟨k, x⟩ -
  by_cases hk : k = h <;> simp [hk]

theorem holder?_alter (k : Handle) : (w.alter h f).holder? k =
    if k = h then (w.holder? k).map f else w.holder? k :=
  lookup_alter w.holders h k f

end Alter

/-- Events are told about one handle each. -/
theorem eventsOf_of_events {w w' : World} {kind : Live.EventKind} {k : Handle}
    {entry : Option (Live.Entry Unit)}
    (hevents : w'.events = w.events ++ (entry.map (Live.Table.eventOf kind k)).toList)
    (h : Handle) :
    w'.eventsOf h = w.eventsOf h ++ if k = h ∧ entry.isSome then [kind] else [] := by
  rw [eventsOf, hevents, List.filter_append, List.map_append, ← eventsOf]
  by_cases hkh : k = h <;> cases entry <;> simp [Live.Table.eventOf, hkh]

end World

/-! ### The basic actions -/

namespace Act

variable {α β : Type}

/-- Going on after an action that ended well. -/
theorem run_bind_ok {x : Act α} {w w' : World} {a : α} (hx : x.run w = .ok a w') (f : α → Act β) :
    (x >>= f).run w = (f a).run w' := by
  rw [EStateM.run_bind, hx]

/-- Nothing goes on after a fault. -/
theorem run_bind_error {x : Act α} {w w' : World} {e : Fault} (hx : x.run w = .error e w')
    (f : α → Act β) : (x >>= f).run w = .error e w' := by
  rw [EStateM.run_bind, hx]

/-- What an action returns or raises. -/
def result (act : Act α) (w : World) : Except Fault α :=
  match act.run w with
  | .ok a _ => .ok a
  | .error e _ => .error e

/-- The world that an action leaves behind, however it ends. -/
def after (act : Act α) (w : World) : World :=
  match act.run w with
  | .ok _ w' => w'
  | .error _ w' => w'

/-- What is left behind by two actions, of which the second depends on the result of the first. -/
theorem after_bind (x : Act α) (f : α → Act β) (w : World) :
    (x >>= f).after w = match x.result w with
      | .ok a => (f a).after (x.after w)
      | .error _ => x.after w := by
  unfold after result
  rw [EStateM.run_bind]
  cases x.run w <;> rfl

@[simp] theorem isOk_ok (a : α) : (.ok a : Except Fault α).isOk = true := rfl

@[simp] theorem isOk_error (e : Fault) : (.error e : Except Fault α).isOk = false := rfl

@[simp] theorem run_throw (e : Fault) (w : World) : (throw e : Act α).run w = .error e w := rfl

@[simp] theorem run_printLine (c : Channel) (text : String) (w : World) :
    (printLine c text).run w = .ok () (w.noted (.wrote c (text ++ "\n"))) := rfl

@[simp] theorem run_log (level : Log.Level) (source : Log.Source) (message : String)
    (fields : List (String × Log.Value)) (w : World) :
    (log level source message fields).run w =
      .ok () (w.noted (.logged { level, source, message, fields })) := rfl

/-- An operation of the live table always ends well. -/
@[simp] theorem run_onTable {ρ : Type}
    (op : Live.Table Unit Observer → Live.Outcome Unit Observer ρ) (w : World) :
    (onTable op).run w = .ok (op w.table).result (w.told (op w.table)) := by
  simp only [onTable, EStateM.run_bind, EStateM.run_get, EStateM.run_modify]
  cases hev : (op w.table).event with
  | none => simp [World.told, hev]
  | some e =>
      rw [World.told, hev]
      rfl

end Act

@[simp] theorem run_modifyHolder (h : Handle) (f : Holder → Holder) (w : World) :
    (modifyHolder h f).run w = .ok () (w.alter h f) := rfl

/-! ### Worlds that differ little -/

namespace World

/-- Whether a thing was used up. -/
def isExpired (w : World) (t : Nat) : Bool := w.expired[t]?.getD false

/-- The second world is the first with more written and logged, and nothing told. -/
def OnlyWritten (w w' : World) : Prop :=
  ∃ marks : List Mark, (∀ m ∈ marks, m.event? = none) ∧
    w' = { w with journal := w.journal ++ marks }

/-- The second world has the live table and the holders of the first; nothing was told in between,
and at most the things in `us` were used up. -/
structure OutsideChange (us : List Nat) (w w' : World) : Prop where
  table : w'.table = w.table
  holders : w'.holders = w.holders
  events : w'.events = w.events
  expired_length : w'.expired.length = w.expired.length
  expired_of : ∀ t, w'.isExpired t → w.isExpired t ∨ t ∈ us
  expired_mono : ∀ t, w.isExpired t → w'.isExpired t

theorem OnlyWritten.noted (w : World) {m : Mark} (hm : m.event? = none) :
    OnlyWritten w (w.noted m) :=
  ⟨[m], by simpa using hm, rfl⟩

theorem OnlyWritten.refl (w : World) : OnlyWritten w w := ⟨[], by simp, by simp⟩

theorem OnlyWritten.trans {w w' w'' : World} (h : OnlyWritten w w') (h' : OnlyWritten w' w'') :
    OnlyWritten w w'' := by
  obtain ⟨marks, hmarks, rfl⟩ := h
  obtain ⟨marks', hmarks', rfl⟩ := h'
  refine ⟨marks ++ marks', ?_, by simp⟩
  intro m hm
  exact (List.mem_append.1 hm).elim (hmarks m) (hmarks' m)

theorem OnlyWritten.events {w w' : World} (h : OnlyWritten w w') : w'.events = w.events := by
  obtain ⟨marks, hmarks, rfl⟩ := h
  have hnone : marks.filterMap Mark.event? = [] := by simpa [List.filterMap_eq_nil_iff] using hmarks
  simp [events_eq, hnone]

theorem OnlyWritten.outside {w w' : World} (h : OnlyWritten w w') : OutsideChange [] w w' := by
  have hev := h.events
  obtain ⟨marks, -, rfl⟩ := h
  exact ⟨rfl, rfl, hev, rfl, fun t ht => Or.inl ht, fun t ht => ht⟩

/-- Logging ends well and does nothing else. -/
theorem OnlyWritten.log (level : Log.Level) (source : Log.Source) (message : String)
    (fields : List (String × Log.Value)) (w : World) :
    ∃ w', (Act.log level source message fields).run w = .ok () w' ∧ OnlyWritten w w' :=
  ⟨_, rfl, .noted w rfl⟩

/-- So does writing a line. -/
theorem OnlyWritten.printLine (c : Channel) (text : String) (w : World) :
    ∃ w', (Act.printLine c text).run w = .ok () w' ∧ OnlyWritten w w' :=
  ⟨_, rfl, .noted w rfl⟩

namespace OutsideChange

theorem refl (w : World) : OutsideChange [] w w :=
  ⟨rfl, rfl, rfl, rfl, fun _ ht => Or.inl ht, fun _ ht => ht⟩

theorem trans {us vs : List Nat} {w w' w'' : World} (h : OutsideChange us w w')
    (h' : OutsideChange vs w' w'') : OutsideChange (us ++ vs) w w'' where
  table := h'.table.trans h.table
  holders := h'.holders.trans h.holders
  events := h'.events.trans h.events
  expired_length := h'.expired_length.trans h.expired_length
  expired_of t ht := by
    rcases h'.expired_of t ht with ht | ht
    · rcases h.expired_of t ht with ht | ht
      · exact Or.inl ht
      · exact Or.inr (List.mem_append_left _ ht)
    · exact Or.inr (List.mem_append_right _ ht)
  expired_mono t ht := h'.expired_mono t (h.expired_mono t ht)

theorem mono {us vs : List Nat} {w w' : World} (h : OutsideChange us w w')
    (hsub : ∀ t ∈ us, t ∈ vs) : OutsideChange vs w w' :=
  { h with expired_of := fun t ht => (h.expired_of t ht).imp_right (hsub t) }

end OutsideChange

/-- Nothing but an outside change, in which the things in `us` were used up. -/
structure Consumed (us : List Nat) (w w' : World) : Prop extends OutsideChange us w w' where
  used : ∀ t ∈ us, t < w.expired.length → w'.isExpired t

theorem Consumed.trans {us vs : List Nat} {w w' w'' : World} (h : Consumed us w w')
    (h' : Consumed vs w' w'') : Consumed (us ++ vs) w w'' where
  toOutsideChange := h.toOutsideChange.trans h'.toOutsideChange
  used t ht hlt := by
    rcases List.mem_append.1 ht with ht | ht
    · exact h'.expired_mono t (h.used t ht hlt)
    · exact h'.used t ht (h.expired_length ▸ hlt)

end World

/-! ### Drops -/

/-- The thing that a step uses up. -/
def DropStep.thing? : DropStep → Option Nat
  | .expire t => some t
  | _ => none

/-- The things that some steps use up. -/
def DropStep.things (steps : List DropStep) : List Nat := steps.filterMap thing?

/-- The things that a payload uses up when it is dropped. -/
def Payload.things (p : Payload) : List Nat := DropStep.things p.onDrop

theorem DropStep.things_cons (step : DropStep) (steps : List DropStep) :
    DropStep.things (step :: steps) = step.thing?.toList ++ DropStep.things steps := by
  cases hs : step.thing? <;> simp [DropStep.things, hs]

open World in
/-- What one step can do: it ends well, stays outside and has used up its thing; or it raises a
fault and does nothing, because it is there to do so or because its thing was used up before. -/
theorem DropStep.run_cases (h : Handle) (calls : Nat) (step : DropStep) (w : World) :
    (∃ w', (step.run h calls).run w = .ok () w' ∧ Consumed step.thing?.toList w w') ∨
      ∃ e, (step.run h calls).run w = .error e w ∧
        ((∃ text, step = .fail text) ∨ ∃ t ∈ step.thing?.toList, w.isExpired t) := by
  cases step with
  | say c text => exact Or.inl ⟨_, rfl, (OnlyWritten.noted w rfl).outside, by simp [thing?]⟩
  | tally c label => exact Or.inl ⟨_, rfl, (OnlyWritten.noted w rfl).outside, by simp [thing?]⟩
  | probe c q => exact Or.inl ⟨_, rfl, (OnlyWritten.noted w rfl).outside, by simp [thing?]⟩
  | release n =>
      exact Or.inl ⟨_, rfl, ⟨rfl, rfl, rfl, rfl, fun t ht => Or.inl ht, fun t ht => ht⟩,
        by simp [thing?]⟩
  | fail text => exact Or.inr ⟨_, rfl, Or.inl ⟨text, rfl⟩⟩
  | expire t =>
      cases ht : w.isExpired t with
      | true =>
          refine Or.inr ⟨.message "reference: Thing dropped twice", ?_, Or.inr ⟨t, ?_⟩⟩
          · simp [DropStep.run, show w.expired[t]?.getD false = true from ht]
          · simp [thing?, ht]
      | false =>
          -- only the flag of `t` differs afterwards
          have hother : ∀ u, u ≠ t → World.isExpired { w with expired := w.expired.set t true } u =
              w.isExpired u := by
            intro u hu
            simp [isExpired, List.getElem?_set_ne hu.symm]
          refine Or.inl ⟨{ w with expired := w.expired.set t true }, ?_,
            ⟨rfl, rfl, rfl, by simp, ?_, ?_⟩, ?_⟩
          · simp [DropStep.run, show w.expired[t]?.getD false = false from ht]
          · intro u hu
            by_cases hut : u = t
            · exact Or.inr (by simp [thing?, hut])
            · exact Or.inl (hother u hut ▸ hu)
          · intro u hu
            by_cases hut : u = t
            · simp [hut, ht] at hu
            · rw [hother u hut]
              exact hu
          · intro u hu hlt
            obtain rfl : u = t := by simpa [thing?] using hu
            simp [isExpired, hlt]

open World in
/-- **A drop stays outside**: it ends well or is stopped by a fault, and either way live table and
holders are as before.  If it ends well, its things are used up. -/
theorem dropAll_cases (h : Handle) (calls : Nat) (steps : List DropStep) (w : World) :
    (∃ w', (dropAll h calls steps).run w = .ok () w' ∧ Consumed (DropStep.things steps) w w') ∨
      ∃ e w', (dropAll h calls steps).run w = .error e w' ∧
        OutsideChange (DropStep.things steps) w w' := by
  induction steps generalizing w with
  | nil => exact Or.inl ⟨w, rfl, OutsideChange.refl w, by simp [DropStep.things]⟩
  | cons step steps ih =>
      rw [DropStep.things_cons]
      rcases DropStep.run_cases h calls step w with ⟨w₁, hrun, hout⟩ | ⟨e, hrun, -⟩
      · rcases ih w₁ with ⟨w₂, hrest, hout'⟩ | ⟨e, w₂, hrest, hout'⟩
        · refine Or.inl ⟨w₂, ?_, hout.trans hout'⟩
          rw [dropAll, Act.run_bind_ok hrun, hrest]
        · refine Or.inr ⟨e, w₂, ?_, hout.toOutsideChange.trans hout'⟩
          rw [dropAll, Act.run_bind_ok hrun, hrest]
      · refine Or.inr ⟨e, w, ?_, (OutsideChange.refl w).mono (by simp)⟩
        rw [dropAll, Act.run_bind_error hrun]

/-! ### Drops that end well -/

namespace World

/-- Steps that end without a fault: none is there to raise one, and the things that they use up are
not used up, neither before nor by an earlier step. -/
structure Droppable (w : World) (steps : List DropStep) : Prop where
  raises : ∀ text, DropStep.fail text ∉ steps
  unused : ∀ t ∈ DropStep.things steps, w.isExpired t = false
  once : ∀ t < w.expired.length, (DropStep.things steps).count t ≤ 1

theorem lt_length_of_isExpired {w : World} {t : Nat} (ht : w.isExpired t) :
    t < w.expired.length := by
  by_contra hlt
  rw [isExpired, List.getElem?_eq_none (Nat.le_of_not_lt hlt)] at ht
  cases ht

end World

/-- A step ends well if it does not raise a fault and finds its thing unused. -/
theorem DropStep.exists_run_iff (h : Handle) (calls : Nat) (step : DropStep) (w : World) :
    (∃ w', (step.run h calls).run w = .ok () w') ↔
      (∀ text, step ≠ .fail text) ∧ ∀ t ∈ step.thing?.toList, w.isExpired t = false := by
  constructor
  · rintro ⟨w', hrun⟩
    refine ⟨?_, fun t ht => ?_⟩
    · rintro text rfl
      cases hrun
    · cases step with
      | expire u =>
          obtain rfl : t = u := by simpa [thing?] using ht
          cases hexpired : w.isExpired t with
          | false => rfl
          | true => simp [DropStep.run, show w.expired[t]?.getD false = true from hexpired] at hrun
      | _ => cases ht
  · rintro ⟨hraises, hunused⟩
    rcases run_cases h calls step w with ⟨w', hrun, -⟩ | ⟨e, -, ⟨text, rfl⟩ | ⟨t, ht, hexpired⟩⟩
    · exact ⟨w', hrun⟩
    · exact absurd rfl (hraises text)
    · rw [hunused t ht] at hexpired
      cases hexpired

namespace World

/-- After a step that ended well, the others end well exactly if all of them do together. -/
theorem droppable_cons_iff {w w' : World} {step : DropStep} {steps : List DropStep}
    (hconsumed : Consumed step.thing?.toList w w') :
    w.Droppable (step :: steps) ↔
      ((∀ text, step ≠ .fail text) ∧ ∀ t ∈ step.thing?.toList, w.isExpired t = false) ∧
        w'.Droppable steps := by
  have hcount : ∀ t, (DropStep.things (step :: steps)).count t =
      step.thing?.toList.count t + (DropStep.things steps).count t := by
    intro t
    rw [DropStep.things_cons, List.count_append]
  constructor
  · rintro ⟨hraises, hunused, honce⟩
    rw [DropStep.things_cons] at hunused
    refine ⟨⟨?_, fun t ht => hunused t (List.mem_append_left _ ht)⟩, ?_, ?_, ?_⟩
    · rintro text rfl
      exact hraises text List.mem_cons_self
    · exact fun text hmem => hraises text (List.mem_cons_of_mem _ hmem)
    · intro t ht
      by_contra hexpired
      have hexpired : w'.isExpired t := by simpa using hexpired
      rcases hconsumed.expired_of t hexpired with hold | hnew
      · rw [hunused t (List.mem_append_right _ ht)] at hold
        cases hold
      · -- the step itself has used up `t`, so it would be used up twice
        have hlt := lt_length_of_isExpired hexpired
        rw [hconsumed.expired_length] at hlt
        have htwice := honce t hlt
        have hfirst := List.count_pos_iff.2 hnew
        have hagain := List.count_pos_iff.2 ht
        rw [hcount] at htwice
        omega
    · intro t ht
      rw [hconsumed.expired_length] at ht
      have := honce t ht
      rw [hcount] at this
      omega
  · rintro ⟨⟨hstep, hthing⟩, hraises, hunused, honce⟩
    refine ⟨?_, ?_, ?_⟩
    · intro text hmem
      rcases List.mem_cons.1 hmem with heq | hmem
      · exact hstep text heq.symm
      · exact hraises text hmem
    · intro t ht
      rw [DropStep.things_cons] at ht
      rcases List.mem_append.1 ht with ht | ht
      · exact hthing t ht
      · by_contra hexpired
        have hlater := hconsumed.expired_mono t (by simpa using hexpired)
        rw [hunused t ht] at hlater
        cases hlater
    · intro t ht
      have hrest := honce t (by rwa [hconsumed.expired_length])
      rw [hcount]
      by_cases hnew : t ∈ step.thing?.toList
      · have hused := hconsumed.used t hnew ht
        have hnot : t ∉ DropStep.things steps := by
          intro hmem
          rw [hunused t hmem] at hused
          cases hused
        have hone : step.thing?.toList.count t ≤ 1 := by
          refine Nat.le_trans List.count_le_length ?_
          cases step.thing? <;> simp
        rw [List.count_eq_zero_of_not_mem hnot]
        omega
      · rw [List.count_eq_zero_of_not_mem hnew]
        omega

end World

/-- **Which drops end well.** -/
theorem exists_run_dropAll_iff (h : Handle) (calls : Nat) (steps : List DropStep) (w : World) :
    (∃ w', (dropAll h calls steps).run w = .ok () w') ↔ w.Droppable steps := by
  induction steps generalizing w with
  | nil => exact ⟨fun _ => ⟨by simp, by simp [DropStep.things], by simp [DropStep.things]⟩,
      fun _ => ⟨w, rfl⟩⟩
  | cons step steps ih =>
      have hstep := DropStep.exists_run_iff h calls step w
      rcases DropStep.run_cases h calls step w with ⟨w₁, hrun, hconsumed⟩ | ⟨e, hrun, hwhy⟩
      · rw [World.droppable_cons_iff hconsumed, ← hstep, ← ih w₁, dropAll,
          Act.run_bind_ok hrun]
        exact ⟨fun hrest => ⟨⟨w₁, hrun⟩, hrest⟩, fun hboth => hboth.2⟩
      · rw [dropAll, Act.run_bind_error hrun]
        constructor
        · rintro ⟨w', hw'⟩
          cases hw'
        · rintro ⟨hraises, hunused, -⟩
          rcases hwhy with ⟨text, rfl⟩ | ⟨t, ht, hexpired⟩
          · exact absurd List.mem_cons_self (hraises text)
          · rw [DropStep.things_cons] at hunused
            rw [hunused t (List.mem_append_left _ ht)] at hexpired
            cases hexpired

/-- A drop that raises nothing and finds its things unused, each named once, ends without a
fault. -/
theorem dropAll_ok (h : Handle) (calls : Nat) {steps : List DropStep} {w : World}
    (hraise : ∀ text, DropStep.fail text ∉ steps) (hnodup : (DropStep.things steps).Nodup)
    (hunused : ∀ t ∈ DropStep.things steps, w.isExpired t = false) :
    ∃ w', (dropAll h calls steps).run w = .ok () w' := by
  rw [exists_run_dropAll_iff]
  exact ⟨hraise, hunused, fun t _ => List.nodup_iff_count.1 hnodup t⟩

end Handover
