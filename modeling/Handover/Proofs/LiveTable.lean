/-
**The laws of the live table.**

The backend keeps its bindings in a list, but every statement about it goes through two views: the
entry of a handle and the number of live handles.  This module says once what each operation does
to these views, and what the table tells its observers about it.

Main definitions:

* `Handover.Live.Backend.handles`, `Handover.Live.Backend.Ordered` — the live handles, and that
  they stand in strictly increasing order, so that no handle is bound twice;
* `Handover.Live.Entry.mark` — an entry with its mark set or cleared.

Main results:

* `Handover.Live.Table.get?_insert`, `Handover.Live.Table.get?_remove`,
  `Handover.Live.Table.get?_lend`, `Handover.Live.Table.get?_reclaim` — the entries after each
  operation;
* `Handover.Live.Table.size_insert`, `Handover.Live.Table.size_remove` — the number of live handles
  goes up and down by one;
* `Handover.Live.Table.event_lend` and its companions — the event that each operation emits.
-/

import Handover.Live.Table
import Mathlib.Data.List.Basic

set_option autoImplicit false

namespace Handover

/-! ### Association lists -/

section Association

variable {κ β : Type} [DecidableEq κ]

/-- The value of a key, with the test on keys as a condition. -/
theorem lookup_cons_ite (j k : κ) (x : β) (l : List (κ × β)) :
    ((j, x) :: l).lookup k = if k = j then some x else l.lookup k := by
  by_cases hkj : k = j
  · subst hkj
    simp
  · simp [List.lookup_cons, beq_false_of_ne hkj, hkj]

/-- Changing the value of one key is seen at that key only. -/
theorem lookup_alter (l : List (κ × β)) (h k : κ) (f : β → β) :
    (l.map fun (j, x) => (j, if j = h then f x else x)).lookup k =
      if k = h then (l.lookup k).map f else l.lookup k := by
  induction l with
  | nil => simp
  | cons b l ih =>
      obtain ⟨j, x⟩ := b
      simp only [List.map_cons, lookup_cons_ite, ih]
      by_cases hkj : k = j
      · subst hkj
        by_cases hkh : k = h <;> simp [hkh]
      · simp [hkj]

/-- Taking the bindings of one key away is seen at that key only. -/
theorem lookup_without (l : List (κ × β)) (h k : κ) :
    (l.filter (·.1 ≠ h)).lookup k = if k = h then none else l.lookup k := by
  induction l with
  | nil => simp
  | cons b l ih =>
      obtain ⟨j, x⟩ := b
      by_cases hjh : j = h
      · subst hjh
        rw [List.filter_cons_of_neg (by simp), ih, lookup_cons_ite]
        by_cases hkj : k = j <;> simp [hkj]
      · rw [List.filter_cons_of_pos (by simpa using hjh), lookup_cons_ite, lookup_cons_ite, ih]
        by_cases hkj : k = j
        · subst hkj
          simp [hjh]
        · simp [hkj]

/-- A key has a value exactly when it stands among the keys. -/
theorem lookup_isSome_iff_mem (l : List (κ × β)) (k : κ) :
    (l.lookup k).isSome ↔ k ∈ l.map Prod.fst := by
  rw [List.lookup_isSome_iff]
  constructor
  · rintro ⟨b, hb, hk⟩
    exact List.mem_map.2 ⟨b, hb, (beq_iff_eq.1 hk).symm⟩
  · intro hk
    obtain ⟨b, hb, rfl⟩ := List.mem_map.1 hk
    exact ⟨b, hb, beq_self_eq_true _⟩

end Association

namespace Live

variable {α ω : Type}

/-! ### The backend -/

/-- An entry with its mark set or cleared. -/
def Entry.mark (isLent : Bool) (e : Entry α) : Entry α := { e with isLent }

namespace Backend

/-- The live handles, in the order of the bindings. -/
def handles (b : Backend α) : List Handle := b.entries.map Prod.fst

/-- The bindings stand in strictly increasing order of their handles. -/
def Ordered (b : Backend α) : Prop := b.handles.Pairwise (· < ·)

theorem isLive_iff_mem (b : Backend α) (h : Handle) : b.isLive h ↔ h ∈ b.handles :=
  lookup_isSome_iff_mem b.entries h

theorem mem_insertSorted (h : Handle) (e : Entry α) (l : List (Handle × Entry α))
    (x : Handle × Entry α) : x ∈ insertSorted h e l ↔ x = (h, e) ∨ x ∈ l := by
  induction l with
  | nil => simp [insertSorted]
  | cons b l ih =>
      rw [insertSorted]
      split
      · simp
      · simp only [List.mem_cons, ih]
        tauto

@[simp] theorem length_insertSorted (h : Handle) (e : Entry α) (l : List (Handle × Entry α)) :
    (insertSorted h e l).length = l.length + 1 := by
  induction l with
  | nil => rfl
  | cons b l ih =>
      rw [insertSorted]
      split
      · rfl
      · simp [ih]

/-- A new binding is seen at its handle only, provided that the handle was not bound. -/
theorem lookup_insertSorted {h : Handle} {e : Entry α} {l : List (Handle × Entry α)}
    (habs : l.lookup h = none) (k : Handle) :
    (insertSorted h e l).lookup k = if k = h then some e else l.lookup k := by
  induction l with
  | nil => by_cases hkh : k = h <;> simp [insertSorted, lookup_cons_ite, hkh]
  | cons b l ih =>
      obtain ⟨j, x⟩ := b
      have hjh : h ≠ j := by
        rintro rfl
        simp at habs
      have hl : l.lookup h = none := by simpa only [lookup_cons_ite, if_neg hjh] using habs
      rw [insertSorted]
      split
      · by_cases hkh : k = h <;> simp [lookup_cons_ite, hkh]
      · rw [lookup_cons_ite, ih hl, lookup_cons_ite]
        by_cases hkj : k = j
        · subst hkj
          simp [Ne.symm hjh]
        · simp [hkj]

/-- A new binding is put where it keeps the order. -/
theorem pairwise_insertSorted {h : Handle} {e : Entry α} {l : List (Handle × Entry α)}
    (hl : (l.map Prod.fst).Pairwise (· < ·)) (habs : l.lookup h = none) :
    ((insertSorted h e l).map Prod.fst).Pairwise (· < ·) := by
  induction l with
  | nil => simp [insertSorted]
  | cons b l ih =>
      obtain ⟨j, x⟩ := b
      have hjh : h ≠ j := by
        rintro rfl
        simp at habs
      rw [List.map_cons, List.pairwise_cons] at hl
      rw [insertSorted]
      split
      · rename_i hlt
        simp only [List.map_cons, List.pairwise_cons]
        refine ⟨?_, hl⟩
        intro k hk
        rcases List.mem_cons.1 hk with rfl | hk
        · exact hlt
        · exact Nat.lt_trans hlt (hl.1 k hk)
      · rename_i hle
        rw [List.map_cons, List.pairwise_cons]
        refine ⟨?_, ih hl.2 (by simpa only [lookup_cons_ite, if_neg hjh] using habs)⟩
        intro k hk
        obtain ⟨y, hy, rfl⟩ := List.mem_map.1 hk
        rcases (mem_insertSorted h e l y).1 hy with rfl | hy
        · exact Nat.lt_of_le_of_ne (Nat.le_of_not_lt hle) hjh.symm
        · exact hl.1 y.1 (List.mem_map_of_mem hy)

@[simp] theorem get?_modify (b : Backend α) (h k : Handle) (f : Entry α → Entry α) :
    (b.modify h f).get? k = if k = h then (b.get? k).map f else b.get? k :=
  lookup_alter b.entries h k f

@[simp] theorem handles_modify (b : Backend α) (h : Handle) (f : Entry α → Entry α) :
    (b.modify h f).handles = b.handles := by
  simp [handles, modify, Function.comp_def]

@[simp] theorem size_modify (b : Backend α) (h : Handle) (f : Entry α → Entry α) :
    (b.modify h f).size = b.size := by
  simp [size, modify]

/-- A handle that is bound once is gone when its bindings are taken away, and nothing else is. -/
theorem length_without {b : Backend α} (hb : b.Ordered) {h : Handle} (hlive : h ∈ b.handles) :
    (b.entries.filter (·.1 ≠ h)).length + 1 = b.size := by
  obtain ⟨l⟩ := b
  simp only [Ordered, handles, size] at hb hlive ⊢
  induction l with
  | nil => simp at hlive
  | cons x l ih =>
      rw [List.map_cons, List.pairwise_cons] at hb
      by_cases hxh : x.1 = h
      · -- the head is the binding of `h`, and no later one is
        have hrest : ∀ y ∈ l, y.1 ≠ h := by
          intro y hy hyh
          exact Nat.ne_of_lt (hb.1 y.1 (List.mem_map_of_mem hy)) (hxh.trans hyh.symm)
        rw [List.filter_cons_of_neg (by simpa using hxh),
          List.filter_eq_self.2 (by simpa using hrest), List.length_cons]
      · have hmem : h ∈ l.map Prod.fst := by
          rcases List.mem_cons.1 hlive with rfl | hmem
          · exact absurd rfl hxh
          · exact hmem
        rw [List.filter_cons_of_pos (by simpa using hxh), List.length_cons, List.length_cons,
          ih hb.2 hmem]

end Backend

/-! ### The table -/

namespace Table

variable (t : Table α ω) (h k : Handle)

theorem isLive_eq : t.isLive h = (t.get? h).isSome := rfl

theorem isLent_eq : t.isLent h = (t.get? h).any Entry.isLent := rfl

/-- A lent handle is live. -/
theorem isLive_of_isLent {t : Table α ω} {h : Handle} (hlent : t.isLent h) : t.isLive h := by
  rw [isLent_eq] at hlent
  rw [isLive_eq]
  cases hget : t.get? h with
  | none => simp [hget] at hlent
  | some e => rfl

/-! #### Registering -/

section Insert

variable {t h} (hpos : h ≠ 0) (habs : t.get? h = none) (typeName : String) (value : α)
include hpos habs

/-- Registering a new handle succeeds. -/
theorem insert_eq : t.insert h typeName value = {
    result := .ok ()
    table := {
      t with backend := ⟨Backend.insertSorted h { typeName, value } t.backend.entries⟩ }
    event := some (eventOf .created h { typeName, value }) } := by
  have hdead : t.backend.isLive h = false := by
    rw [Backend.isLive, show t.backend.get? h = none from habs]
    rfl
  simp [insert, Backend.create, hpos, hdead]

theorem get?_insert (k : Handle) : (t.insert h typeName value).table.get? k =
    if k = h then some { typeName, value } else t.get? k := by
  rw [insert_eq hpos habs]
  exact Backend.lookup_insertSorted habs k

theorem size_insert : (t.insert h typeName value).table.size = t.size + 1 := by
  rw [insert_eq hpos habs]
  exact Backend.length_insertSorted ..

theorem ordered_insert (ht : t.backend.Ordered) :
    (t.insert h typeName value).table.backend.Ordered := by
  rw [insert_eq hpos habs]
  exact Backend.pairwise_insertSorted ht habs

end Insert

/-! #### Forgetting -/

theorem get?_remove : (t.remove h).table.get? k = if k = h then none else t.get? k := by
  unfold remove Backend.drop
  cases hget : t.backend.get? h with
  | none =>
      show t.backend.get? k = _
      by_cases hkh : k = h
      · subst hkh
        simpa using hget
      · rw [if_neg hkh]
        rfl
  | some e => exact lookup_without t.backend.entries h k

@[simp] theorem event_remove : (t.remove h).event = (t.get? h).map (eventOf .dropped h) := by
  unfold remove Backend.drop get?
  cases hget : t.backend.get? h <;> rfl

theorem size_remove {t : Table α ω} (ht : t.backend.Ordered) {h : Handle} (hlive : t.isLive h) :
    (t.remove h).table.size + 1 = t.size := by
  unfold remove Backend.drop
  cases hget : t.backend.get? h with
  | none =>
      rw [isLive_eq, get?, hget] at hlive
      simp at hlive
  | some e => exact Backend.length_without ht ((Backend.isLive_iff_mem ..).1 hlive)

theorem ordered_remove {t : Table α ω} (ht : t.backend.Ordered) (h : Handle) :
    (t.remove h).table.backend.Ordered := by
  unfold remove Backend.drop
  cases hget : t.backend.get? h with
  | none => exact ht
  | some e => exact ht.sublist (List.filter_sublist.map Prod.fst)

/-! #### Lending and taking back -/

/-- The outcome of setting or clearing the mark of a handle under a condition.  Lending and taking
back are the two cases. -/
def marking (kind : EventKind) (isLent cond : Bool) : Outcome α ω Bool :=
  t.marked kind h
    (if cond then (true, t.backend.modify h (Entry.mark isLent)) else (false, t.backend))

theorem lend_eq : t.lend h = t.marking h .lent true (t.isLive h && !t.isLent h) := rfl

theorem reclaim_eq : t.reclaim h = t.marking h .reclaimed false (t.isLent h) := rfl

section Marking

variable (kind : EventKind) (isLent cond : Bool)

/-- If the mark is left alone only where it already is as it should be, then it is as it should be
afterwards. -/
theorem get?_marking (hcond : cond = false → ∀ e, t.get? h = some e → e.isLent = isLent) :
    (t.marking h kind isLent cond).table.get? k =
      if k = h then (t.get? k).map (Entry.mark isLent) else t.get? k := by
  cases cond with
  | true => exact Backend.get?_modify t.backend h k _
  | false =>
      show t.get? k = _
      by_cases hkh : k = h
      · subst hkh
        rw [if_pos rfl]
        cases hget : t.get? k with
        | none => rfl
        | some e => rw [← hcond rfl e hget]; rfl
      · rw [if_neg hkh]

theorem event_marking : (t.marking h kind isLent cond).event =
    if cond then (t.get? h).map (eventOf kind h) else none := by
  cases cond with
  | true =>
      show ((t.backend.modify h (Entry.mark isLent)).get? h).map (eventOf kind h) = _
      rw [Backend.get?_modify, if_pos rfl, Option.map_map]
      rfl
  | false => rfl

theorem size_marking : (t.marking h kind isLent cond).table.size = t.size := by
  cases cond with
  | true => exact Backend.size_modify ..
  | false => rfl

theorem ordered_marking {t : Table α ω} (ht : t.backend.Ordered) :
    (t.marking h kind isLent cond).table.backend.Ordered := by
  cases cond with
  | true => simpa [marking, marked, Backend.Ordered] using ht
  | false => exact ht

end Marking

/-- After lending, the mark is set whether or not it was set before. -/
theorem get?_lend :
    (t.lend h).table.get? k = if k = h then (t.get? k).map (Entry.mark true) else t.get? k := by
  rw [lend_eq]
  refine get?_marking t h k .lent true (t.isLive h && !t.isLent h) ?_
  intro hcond e hget
  simpa [isLive_eq, isLent_eq, hget] using hcond

/-- After taking back, the mark is cleared whether or not it was set before. -/
theorem get?_reclaim : (t.reclaim h).table.get? k =
    if k = h then (t.get? k).map (Entry.mark false) else t.get? k := by
  rw [reclaim_eq]
  refine get?_marking t h k .reclaimed false (t.isLent h) ?_
  intro hcond e hget
  simpa [isLent_eq, hget] using hcond

/-- Lending is told of when a live handle was not lent yet. -/
theorem event_lend : (t.lend h).event =
    if t.isLive h && !t.isLent h then (t.get? h).map (eventOf .lent h) else none :=
  event_marking ..

/-- Taking back is told of when the handle was lent. -/
theorem event_reclaim : (t.reclaim h).event =
    if t.isLent h then (t.get? h).map (eventOf .reclaimed h) else none :=
  event_marking ..

end Table

end Live

end Handover
