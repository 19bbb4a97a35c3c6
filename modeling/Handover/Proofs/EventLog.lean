/-
**The events of the live table are its log.**

Six operations act on a live table: four on the backend, and two on the observers.  One step lemma
says what an operation can do.  Either it leaves the backend alone and nobody is told, or it makes
one of four changes and emits the event of that change.  Everything else is a statement about these
changes, carried along a run by one induction.

The log is complete.  Replaying it gives the bindings of the backend.  For one handle it is a row of
lives: a handle is created, lent and reclaimed any number of times, and dropped, and all the while
its events carry the type and the value with which it was created.

Main definitions:

* `Handover.Live.Operation`, `Handover.Live.Table.perform` — the operations and what they do;
* `Handover.Live.Table.outcomes`, `Handover.Live.Table.after`, `Handover.Live.Table.log` — a run,
  the table after it and the events of it;
* `Handover.Live.Change`, `Handover.Live.Table.Step` — the four changes of a backend, with their
  events, and what an operation can do;
* `Handover.Live.replay` — the bindings that a list of events leads to;
* `Handover.Live.Life` — what happens to a handle from its creation to its end;
* `Handover.Live.registrations` — how often an observer is registered after some operations.

Main results:

* `Handover.Live.Table.step_perform` — every operation is such a step;
* `Handover.Live.Table.run_induction` — what every change keeps is kept by a run;
* `Handover.Live.Table.received_perform` — how often an observer is told of an event;
* `Handover.Live.Table.log_complete` — **the events are a complete log**.
-/

import Handover.Proofs.LiveTable
import Mathlib.Logic.Function.Basic

set_option autoImplicit false

namespace Handover.Live

variable {α ω : Type}

/-! ### Operations -/

/-- What can be done with a live table. -/
inductive Operation (α ω : Type) where
  | insert (h : Handle) (typeName : String) (value : α)
  | remove (h : Handle)
  | lend (h : Handle)
  | reclaim (h : Handle)
  | subscribe (o : ω)
  | unsubscribe (o : ω)
deriving DecidableEq

/-- The outcome with another result. -/
def Outcome.mapResult {ρ σ : Type} (f : ρ → σ) (r : Outcome α ω ρ) : Outcome α ω σ :=
  { result := f r.result, table := r.table, event := r.event }

/-- There is an event exactly if the backend is another one than `b`, and none if the operation
failed. -/
def Outcome.Reports (r : Outcome α ω Bool) (b : Backend α) : Prop :=
  (r.event.isSome ↔ r.table.backend ≠ b) ∧ (r.result = false → r.event = none)

/-- The events that an observer is told of. -/
def Outcome.received [DecidableEq ω] {ρ : Type} (o : ω) (r : Outcome α ω ρ) : List (Event α) :=
  (r.notices.filter (·.1 = o)).map Prod.snd

/-- How often an observer is registered, if it was so `n` times before: a subscription adds one
registration, and the end of one takes one away if there is one. -/
def Operation.registered [DecidableEq ω] (o : ω) (n : Nat) : Operation α ω → Nat
  | subscribe p => if p = o then n + 1 else n
  | unsubscribe p => if p = o then n - 1 else n
  | _ => n

/-- How often an observer is registered after some operations. -/
def registrations [DecidableEq ω] (o : ω) (ops : List (Operation α ω)) : Nat :=
  ops.foldl (Operation.registered o) 0

namespace Table

variable [DecidableEq ω]

/-- No handle is live, and nobody is told. -/
abbrev fresh (α ω : Type) : Table α ω := {}

/-- Does an operation, and says whether it succeeded. -/
def perform (t : Table α ω) : Operation α ω → Outcome α ω Bool
  | .insert h typeName value => (t.insert h typeName value).mapResult Except.isOk
  | .remove h => (t.remove h).mapResult Option.isSome
  | .lend h => t.lend h
  | .reclaim h => t.reclaim h
  | .subscribe o => { result := true, table := t.subscribe o }
  | .unsubscribe o => { result := true, table := t.unsubscribe o }

/-- The outcomes of operations, one after the other. -/
def outcomes (t : Table α ω) : List (Operation α ω) → List (Outcome α ω Bool)
  | [] => []
  | op :: ops => t.perform op :: (t.perform op).table.outcomes ops

/-- The table after some operations. -/
def after (t : Table α ω) : List (Operation α ω) → Table α ω
  | [] => t
  | op :: ops => (t.perform op).table.after ops

/-- The events that are emitted on the way. -/
def log (t : Table α ω) (ops : List (Operation α ω)) : List (Event α) :=
  (t.outcomes ops).filterMap Outcome.event

/-- The events that an observer is told of on the way. -/
def seen (t : Table α ω) (o : ω) (ops : List (Operation α ω)) : List (Event α) :=
  (t.outcomes ops).flatMap (Outcome.received o)

end Table

/-! ### Changes -/

/-- The four changes of a backend, with the event of each. -/
inductive Change (b : Backend α) : Event α → Backend α → Prop
  | created (h : Handle) (typeName : String) (value : α) (hdead : b.get? h = none) :
      Change b (Table.eventOf .created h { typeName, value })
        ⟨Backend.insertSorted h { typeName, value } b.entries⟩
  | dropped (h : Handle) (x : Entry α) (hlive : b.get? h = some x) :
      Change b (Table.eventOf .dropped h x) ⟨b.entries.filter (·.1 ≠ h)⟩
  | lent (h : Handle) (x : Entry α) (hlive : b.get? h = some x) (hkept : x.isLent = false) :
      Change b (Table.eventOf .lent h x) (b.modify h (Entry.mark true))
  | reclaimed (h : Handle) (x : Entry α) (hlive : b.get? h = some x) (hlent : x.isLent = true) :
      Change b (Table.eventOf .reclaimed h x) (b.modify h (Entry.mark false))

/-- The event, done to a map from handles to entries. -/
def Event.apply (e : Event α) (m : Handle → Option (Entry α)) : Handle → Option (Entry α) :=
  Function.update m e.handle <| match e.kind with
    | .created => some { typeName := e.typeName, value := e.value }
    | .lent => (m e.handle).map (Entry.mark true)
    | .reclaimed => (m e.handle).map (Entry.mark false)
    | .dropped => none

/-- The entries to which a list of events leads. -/
def replay (es : List (Event α)) : Handle → Option (Entry α) :=
  es.foldl (fun m e => e.apply m) fun _ => none

/-- Changing the entry of a handle, seen as a map. -/
theorem Backend.get?_modify_eq_update (b : Backend α) (h : Handle) (f : Entry α → Entry α) :
    (b.modify h f).get? = Function.update b.get? h ((b.get? h).map f) := by
  funext k
  rw [Backend.get?_modify, Function.update_apply]
  by_cases hkh : k = h
  · rw [if_pos hkh, if_pos hkh, hkh]
  · rw [if_neg hkh, if_neg hkh]

namespace Change

variable {b b' : Backend α} {e : Event α}

/-- A change is seen as its event tells it. -/
theorem get?_eq (hc : Change b e b') : b'.get? = e.apply b.get? := by
  cases hc with
  | created h typeName value hdead =>
      funext k
      rw [Event.apply, Function.update_apply]
      exact Backend.lookup_insertSorted hdead k
  | dropped h x hlive =>
      funext k
      rw [Event.apply, Function.update_apply]
      exact lookup_without b.entries h k
  | lent h x hlive hkept => exact b.get?_modify_eq_update h _
  | reclaimed h x hlive hlent => exact b.get?_modify_eq_update h _

/-- A change is seen at the handle that its event is about. -/
theorem get?_ne (hc : Change b e b') : b'.get? e.handle ≠ b.get? e.handle := by
  rw [hc.get?_eq, Event.apply, Function.update_self]
  cases hc with
  | created h typeName value hdead => simp [Table.eventOf, hdead]
  | dropped h x hlive => simp [Table.eventOf, hlive]
  | lent h x hlive hkept =>
      intro heq
      have hx : x.mark true = x := by simpa [Table.eventOf, hlive] using heq
      rw [← hx] at hkept
      cases hkept
  | reclaimed h x hlive hlent =>
      intro heq
      have hx : x.mark false = x := by simpa [Table.eventOf, hlive] using heq
      rw [← hx] at hlent
      cases hlent

theorem ne (hc : Change b e b') : b' ≠ b := by
  rintro rfl
  exact hc.get?_ne rfl

theorem ordered (hc : Change b e b') (hb : b.Ordered) : b'.Ordered := by
  cases hc with
  | created h typeName value hdead => exact Backend.pairwise_insertSorted hb hdead
  | dropped h x hlive => exact hb.sublist (List.filter_sublist.map Prod.fst)
  | lent h x hlive hkept => simpa [Backend.Ordered] using hb
  | reclaimed h x hlive hlent => simpa [Backend.Ordered] using hb

end Change

namespace Table

variable (t : Table α ω)

theorem observers_insert (h : Handle) (typeName : String) (value : α) :
    (t.insert h typeName value).table.observers = t.observers := by
  unfold insert
  split <;> rfl

theorem observers_remove (h : Handle) : (t.remove h).table.observers = t.observers := by
  unfold remove
  split <;> rfl

theorem observers_marking (h : Handle) (kind : EventKind) (isLent cond : Bool) :
    (t.marking h kind isLent cond).table.observers = t.observers := by
  cases cond <;> rfl

/-- What an operation can do: it leaves the backend alone and emits nothing, or it succeeds with a
change and emits its event, and leaves the observers alone. -/
inductive Step (r : Outcome α ω Bool) : Prop
  | idle (hevent : r.event = none) (hsame : r.table.backend = t.backend)
  | change (e : Event α) (hevent : r.event = some e) (hresult : r.result = true)
      (hobservers : r.table.observers = t.observers)
      (hchange : Change t.backend e r.table.backend)

theorem step_insert (h : Handle) (typeName : String) (value : α) :
    t.Step ((t.insert h typeName value).mapResult Except.isOk) := by
  simp only [insert, Backend.create]
  by_cases hzero : h = 0
  · rw [if_pos hzero]
    exact .idle rfl rfl
  · rw [if_neg hzero]
    by_cases hlive : t.backend.isLive h = true
    · rw [if_pos hlive]
      exact .idle rfl rfl
    · rw [if_neg hlive]
      have hdead : t.backend.get? h = none := by simpa [Backend.isLive] using hlive
      exact .change _ rfl rfl rfl (.created h typeName value hdead)

theorem step_remove (h : Handle) : t.Step ((t.remove h).mapResult Option.isSome) := by
  simp only [remove, Backend.drop]
  cases hget : t.backend.get? h with
  | none => exact .idle rfl rfl
  | some x => exact .change _ rfl rfl rfl (.dropped h x hget)

/-- A mark that is set or cleared under a condition, where the condition makes it a change. -/
theorem step_marking (h : Handle) (kind : EventKind) (isLent cond : Bool)
    (hcond : cond = true → ∃ x, t.get? h = some x ∧
      Change t.backend (eventOf kind h x) (t.backend.modify h (Entry.mark isLent))) :
    t.Step (t.marking h kind isLent cond) := by
  cases cond with
  | false => exact .idle rfl rfl
  | true =>
      obtain ⟨x, hget, hchange⟩ := hcond rfl
      refine .change (eventOf kind h x) ?_ rfl rfl hchange
      rw [event_marking, if_pos rfl, hget, Option.map_some]

theorem step_lend (h : Handle) : t.Step (t.lend h) := by
  rw [lend_eq, isLive_eq, isLent_eq]
  refine t.step_marking h .lent true _ ?_
  intro hcond
  cases hget : t.get? h with
  | none => simp [hget] at hcond
  | some x => exact ⟨x, rfl, .lent h x hget (by simpa [hget] using hcond)⟩

theorem step_reclaim (h : Handle) : t.Step (t.reclaim h) := by
  rw [reclaim_eq, isLent_eq]
  refine t.step_marking h .reclaimed false _ ?_
  intro hcond
  cases hget : t.get? h with
  | none => simp [hget] at hcond
  | some x => exact ⟨x, rfl, .reclaimed h x hget (by simpa [hget] using hcond)⟩

variable [DecidableEq ω]

theorem step_perform (op : Operation α ω) : t.Step (t.perform op) := by
  cases op with
  | insert h typeName value => exact t.step_insert h typeName value
  | remove h => exact t.step_remove h
  | lend h => exact t.step_lend h
  | reclaim h => exact t.step_reclaim h
  | subscribe o => exact .idle rfl rfl
  | unsubscribe o => exact .idle rfl rfl

/-! ### Runs -/

theorem log_cons (op : Operation α ω) (ops : List (Operation α ω)) :
    t.log (op :: ops) = (t.perform op).event.toList ++ (t.perform op).table.log ops := by
  rw [log, outcomes, List.filterMap_cons]
  cases (t.perform op).event <;> rfl

/-- What every change keeps is kept by a run, together with the events so far. -/
theorem run_induction {P : Backend α → List (Event α) → Prop}
    (hstep : ∀ b e b' es, Change b e b' → P b es → P b' (es ++ [e]))
    (ops : List (Operation α ω)) (es : List (Event α)) (ht : P t.backend es) :
    P (t.after ops).backend (es ++ t.log ops) := by
  induction ops generalizing t es with
  | nil => simpa [after, log, outcomes] using ht
  | cons op ops ih =>
      rw [after, log_cons, ← List.append_assoc]
      refine ih _ _ ?_
      obtain ⟨hevent, hsame⟩ | ⟨e, hevent, -, -, hchange⟩ := t.step_perform op
      · rw [hevent, hsame, Option.toList_none, List.append_nil]
        exact ht
      · rw [hevent, Option.toList_some]
        exact hstep _ e _ es hchange ht

/-! ### The log leads to the backend -/

/-- The bindings after a run stand in order. -/
theorem ordered_after (ops : List (Operation α ω)) (ht : t.backend.Ordered) :
    (t.after ops).backend.Ordered := by
  have hstep : ∀ (b : Backend α) (e : Event α) (b' : Backend α) (_ : List (Event α)),
      Change b e b' → b.Ordered → b'.Ordered := fun _ _ _ _ hchange => hchange.ordered
  exact t.run_induction hstep ops [] ht

/-- The entries after a run are those to which its events lead. -/
theorem get?_after (ops : List (Operation α ω)) (es : List (Event α))
    (ht : t.backend.get? = replay es) :
    (t.after ops).backend.get? = replay (es ++ t.log ops) := by
  refine t.run_induction (P := fun b es => b.get? = replay es) ?_ ops es ht
  intro b e b' es hchange hb
  rw [hchange.get?_eq, hb, replay, replay, List.foldl_append, List.foldl_cons, List.foldl_nil]

end Table

/-- Under distinct keys, the bindings in a list are those that are found. -/
theorem mem_iff_lookup {β : Type} {l : List (Handle × β)} (hl : (l.map Prod.fst).Nodup)
    (k : Handle) (x : β) : (k, x) ∈ l ↔ l.lookup k = some x := by
  induction l with
  | nil => simp
  | cons y l ih =>
      obtain ⟨j, z⟩ := y
      rw [List.map_cons, List.nodup_cons] at hl
      rw [List.mem_cons, lookup_cons_ite, ih hl.2]
      by_cases hkj : k = j
      · have hnone : l.lookup k = none := by
          rw [← Option.not_isSome_iff_eq_none, lookup_isSome_iff_mem, hkj]
          exact hl.1
        simp [hkj, hkj ▸ hnone, eq_comm]
      · simp [hkj]

/-- The backend has the bindings of a map, each of them once. -/
def Backend.Holds (b : Backend α) (m : Handle → Option (Entry α)) : Prop :=
  b.handles.Nodup ∧ ∀ h x, (h, x) ∈ b.entries ↔ m h = some x

theorem Backend.Ordered.holds {b : Backend α} (hb : b.Ordered) : b.Holds b.get? := by
  have hnodup : b.handles.Nodup := hb.imp Nat.ne_of_lt
  exact ⟨hnodup, mem_iff_lookup hnodup⟩

/-! ### Lives -/

/-- What is told of a handle while it has this entry, after some rounds of lending and taking
back. -/
def Entry.history (h : Handle) (rounds : Nat) (x : Entry α) : List (Event α) :=
  Table.eventOf .created h x ::
    ((List.replicate rounds [Table.eventOf .lent h x, Table.eventOf .reclaimed h x]).flatten
      ++ if x.isLent then [Table.eventOf .lent h x] else [])

/-- A handle from its creation to its end: the entry that it had in the end, and how often it was
lent and taken back. -/
structure Life (α : Type) where
  entry : Entry α
  rounds : Nat

/-- `created (lent reclaimed)* lent? dropped`, all with one type and one value -/
def Life.events (h : Handle) (l : Life α) : List (Event α) :=
  l.entry.history h l.rounds ++ [Table.eventOf .dropped h l.entry]

/-- What was told of a handle so far, given its entry: some whole lives, and the beginning of one
more if the handle is live. -/
inductive Lived (h : Handle) : Option (Entry α) → List (Event α) → Prop
  | dead (past : List (Life α)) : Lived h none (past.flatMap (Life.events h))
  | live (past : List (Life α)) (rounds : Nat) (x : Entry α) :
      Lived h (some x) (past.flatMap (Life.events h) ++ x.history h rounds)

namespace Lived

variable {h : Handle} {es : List (Event α)} {x : Entry α}

theorem created (hlived : Lived h none es) (typeName : String) (value : α) :
    Lived h (some { typeName, value }) (es ++ [Table.eventOf .created h { typeName, value }]) := by
  cases hlived with
  | dead past => exact .live past 0 { typeName, value }

theorem lent (hlived : Lived h (some x) es) (hkept : x.isLent = false) :
    Lived h (some (x.mark true)) (es ++ [Table.eventOf .lent h x]) := by
  cases hlived with
  | live past rounds =>
      have hhistory : (x.mark true).history h rounds
          = x.history h rounds ++ [Table.eventOf .lent h x] := by
        simp [Entry.history, Entry.mark, hkept, Table.eventOf]
      rw [List.append_assoc, ← hhistory]
      exact .live past rounds (x.mark true)

theorem reclaimed (hlived : Lived h (some x) es) (hlent : x.isLent = true) :
    Lived h (some (x.mark false)) (es ++ [Table.eventOf .reclaimed h x]) := by
  cases hlived with
  | live past rounds =>
      have hhistory : (x.mark false).history h (rounds + 1)
          = x.history h rounds ++ [Table.eventOf .reclaimed h x] := by
        simp [Entry.history, Entry.mark, hlent, Table.eventOf, List.replicate_succ']
      rw [List.append_assoc, ← hhistory]
      exact .live past (rounds + 1) (x.mark false)

theorem dropped (hlived : Lived h (some x) es) :
    Lived h none (es ++ [Table.eventOf .dropped h x]) := by
  cases hlived with
  | live past rounds =>
      have hpast : (past ++ [Life.mk x rounds]).flatMap (Life.events h)
          = past.flatMap (Life.events h) ++ x.history h rounds ++ [Table.eventOf .dropped h x] := by
        simp [Life.events]
      rw [← hpast]
      exact .dead (past ++ [⟨x, rounds⟩])

/-- What was told so far can be completed to whole lives. -/
theorem exists_lives {y : Option (Entry α)} (hlived : Lived h y es) :
    ∃ lives : List (Life α), es <+: lives.flatMap (Life.events h) := by
  cases hlived with
  | dead past => exact ⟨past, List.prefix_rfl⟩
  | live past rounds x =>
      refine ⟨past ++ [⟨x, rounds⟩], [Table.eventOf .dropped h x], ?_⟩
      simp [Life.events]

end Lived

/-- A change goes on with the lives of its handle. -/
theorem Change.lived {b b' : Backend α} {e : Event α} {es : List (Event α)}
    (hc : Change b e b') (hlived : Lived e.handle (b.get? e.handle) es) :
    Lived e.handle (b'.get? e.handle) (es ++ [e]) := by
  rw [hc.get?_eq, Event.apply, Function.update_self]
  cases hc with
  | created h typeName value hdead =>
      replace hlived : Lived h none es := hdead ▸ hlived
      exact hlived.created typeName value
  | dropped h x hlive =>
      replace hlived : Lived h (some x) es := hlive ▸ hlived
      exact hlived.dropped
  | lent h x hlive hkept =>
      replace hlived : Lived h (some x) es := hlive ▸ hlived
      have hmarked : (b.get? h).map (Entry.mark true) = some (x.mark true) := by
        rw [hlive, Option.map_some]
      exact hmarked ▸ hlived.lent hkept
  | reclaimed h x hlive hlent =>
      replace hlived : Lived h (some x) es := hlive ▸ hlived
      have hmarked : (b.get? h).map (Entry.mark false) = some (x.mark false) := by
        rw [hlive, Option.map_some]
      exact hmarked ▸ hlived.reclaimed hlent

namespace Table

variable [DecidableEq ω] (t : Table α ω)

theorem lived_after (h : Handle) (ops : List (Operation α ω)) (es : List (Event α))
    (ht : Lived h (t.backend.get? h) (es.filter (·.handle = h))) :
    Lived h ((t.after ops).backend.get? h) ((es ++ t.log ops).filter (·.handle = h)) := by
  refine t.run_induction (P := fun b es => Lived h (b.get? h) (es.filter (·.handle = h))) ?_ ops es
    ht
  intro b e b' es hchange hlived
  rw [List.filter_append]
  by_cases he : e.handle = h
  · subst he
    rw [List.filter_cons_of_pos (by simp), List.filter_nil]
    exact hchange.lived hlived
  · -- an event about another handle is not among those of `h`, and leaves its entry alone
    rw [List.filter_cons_of_neg (by simpa using he), List.filter_nil, List.append_nil,
      hchange.get?_eq, Event.apply, Function.update_of_ne (Ne.symm he)]
    exact hlived

/-! ### Observers -/

/-- An operation changes the registrations of an observer as it says. -/
theorem count_observers_perform (o : ω) (op : Operation α ω) :
    (t.perform op).table.observers.count o = op.registered o (t.observers.count o) := by
  cases op with
  | insert h typeName value => exact congrArg (List.count o) (t.observers_insert h typeName value)
  | remove h => exact congrArg (List.count o) (t.observers_remove h)
  | lend h => exact congrArg (List.count o) (t.observers_marking h ..)
  | reclaim h => exact congrArg (List.count o) (t.observers_marking h ..)
  | subscribe p =>
      rw [Operation.registered, perform, subscribe, List.count_append, List.count_singleton]
      by_cases hp : p = o <;> simp [hp]
  | unsubscribe p =>
      rw [Operation.registered, perform, unsubscribe, List.count_erase]
      by_cases hp : p = o <;> simp [hp]

theorem count_observers_after (o : ω) (ops : List (Operation α ω)) :
    (t.after ops).observers.count o = ops.foldl (Operation.registered o) (t.observers.count o) := by
  induction ops generalizing t with
  | nil => rfl
  | cons op ops ih => rw [after, ih, count_observers_perform, List.foldl_cons]

/-- An observer is told of an event once for every registration. -/
theorem received_perform (o : ω) (op : Operation α ω) :
    (t.perform op).received o =
      (t.perform op).event.toList.flatMap (List.replicate (t.observers.count o)) := by
  rw [Outcome.received, Outcome.notices]
  obtain ⟨hevent, -⟩ | ⟨e, hevent, -, hobservers, -⟩ := t.step_perform op
  · rw [hevent]
    rfl
  · rw [hevent, hobservers, Option.toList_some, List.flatMap_singleton, List.flatMap_singleton,
      List.filter_map, List.map_map, List.count_eq_length_filter]
    exact List.map_const' ..

/-- An observer with one registration that is left alone sees the whole log. -/
theorem seen_eq_log (o : ω) (ops : List (Operation α ω)) (ht : t.observers.count o = 1)
    (hops : ∀ op ∈ ops, op ≠ .subscribe o ∧ op ≠ .unsubscribe o) : t.seen o ops = t.log ops := by
  induction ops generalizing t with
  | nil => rfl
  | cons op ops ih =>
      obtain ⟨hop, hops⟩ := List.forall_mem_cons.1 hops
      have hcount : (t.perform op).table.observers.count o = 1 := by
        rw [count_observers_perform, ht]
        cases op with
        | subscribe p => exact if_neg fun hp => hop.1 (congrArg _ hp)
        | unsubscribe p => exact if_neg fun hp => hop.2 (congrArg _ hp)
        | _ => rfl
      have hmore := ih _ hcount hops
      rw [seen] at hmore
      rw [seen, outcomes, List.flatMap_cons, hmore, received_perform, ht, log_cons]
      cases (t.perform op).event <;> rfl

/-! ### The whole story -/

/-- A table tells of each change, and of nothing else. -/
theorem reports_perform (op : Operation α ω) : (t.perform op).Reports t.backend := by
  obtain ⟨hevent, hsame⟩ | ⟨e, hevent, hresult, -, hchange⟩ := t.step_perform op
  · simp [Outcome.Reports, hevent, hsame]
  · simp [Outcome.Reports, hevent, hresult, hchange.ne]

/-- An observer that is registered once, from the start, knows the backend. -/
theorem holds_replay_seen (o : ω) (ops : List (Operation α ω))
    (hops : ∀ op ∈ ops, op ≠ .subscribe o ∧ op ≠ .unsubscribe o) :
    ((fresh α ω).after (.subscribe o :: ops)).backend.Holds
      (replay ((fresh α ω).seen o (.subscribe o :: ops))) := by
  have hcount : ((fresh α ω).subscribe o).observers.count o = 1 := List.count_singleton_self
  have hseen : (fresh α ω).seen o (.subscribe o :: ops) = ((fresh α ω).subscribe o).log ops :=
    seen_eq_log _ o ops hcount hops
  have hget := ((fresh α ω).subscribe o).get?_after ops [] rfl
  have hordered := ((fresh α ω).subscribe o).ordered_after ops .nil
  rw [hseen]
  rw [List.nil_append] at hget
  rw [← hget]
  exact hordered.holds

/-- **The events are a complete log.**  After any operations, the next one tells of a change exactly
if it makes one, and of nothing if it fails.  Replaying what an observer has seen gives the bindings
of the backend.  The events of a handle are a row of lives, of which the last may go on.  And every
observer is told of an event once for every registration that it has. -/
theorem log_complete (ops : List (Operation α ω)) :
    (∀ op, (((fresh α ω).after ops).perform op).Reports ((fresh α ω).after ops).backend) ∧
    (∀ o, (∀ op ∈ ops, op ≠ .subscribe o ∧ op ≠ .unsubscribe o) →
      ((fresh α ω).after (.subscribe o :: ops)).backend.Holds
        (replay ((fresh α ω).seen o (.subscribe o :: ops)))) ∧
    (∀ h, ∃ lives : List (Life α),
      ((fresh α ω).log ops).filter (·.handle = h) <+: lives.flatMap (Life.events h)) ∧
    ∀ op o, (((fresh α ω).after ops).perform op).received o =
      (((fresh α ω).after ops).perform op).event.toList.flatMap
        (List.replicate (registrations o ops)) := by
  refine ⟨fun op => reports_perform _ op, fun o hops => holds_replay_seen o ops hops, ?_, ?_⟩
  · intro h
    exact ((fresh α ω).lived_after h ops [] (.dead [])).exists_lives
  · intro op o
    rw [received_perform, count_observers_after]
    rfl

/-- A handle lives twice, and another observer comes and goes. -/
def reuse : List (Operation Nat Nat) := [
  .insert 3 "a" 10, .lend 3, .reclaim 3, .subscribe 1, .subscribe 1, .remove 3, .unsubscribe 1,
  .insert 3 "b" 20, .insert 3 "c" 30, .insert 0 "d" 40, .lend 3, .lend 3]

theorem log_complete_reuse :
    (∀ op ∈ reuse, op ≠ .subscribe 0 ∧ op ≠ .unsubscribe 0) ∧
      ((fresh Nat Nat).after (.subscribe 0 :: reuse)).backend.Holds
        (replay ((fresh Nat Nat).seen 0 (.subscribe 0 :: reuse))) := by
  have hreuse : ∀ op ∈ reuse, op ≠ .subscribe 0 ∧ op ≠ .unsubscribe 0 := by decide
  exact ⟨hreuse, (log_complete reuse).2.1 0 hreuse⟩

end Table

end Handover.Live
