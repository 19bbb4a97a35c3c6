/-
**Handles are independent.**

Every request to a backend is about one handle.  What it is answered depends on the entry of that
handle alone, and it changes no other entry.  So the requests about one handle do not notice those
about others: in a run they are answered as if they were the only ones, and how the requests about
different handles are interleaved makes no difference.

The last statement needs more than the views, because two backends could show the same entries and
be stored differently.  The bindings stand in order, so that the entries determine the backend.

Main definitions:

* `Handover.Live.Request`, `Handover.Live.Response` — what a backend can be asked, and answers;
* `Handover.Live.Request.effect` — what a request is answered and does, seen from the entry of its
  handle;
* `Handover.Live.Backend.serve`, `Handover.Live.Backend.transcript`, `Handover.Live.Backend.after` —
  one request, the answers to a row of requests, and the backend after it;
* `Handover.Live.about` — the requests about one handle.

Main results:

* `Handover.Live.Backend.serve_fst`, `Handover.Live.Backend.get?_serve` — **a request sees and
  changes the entry of its handle only**;
* `Handover.Live.Backend.transcript_about`, `Handover.Live.Backend.get?_after_about` — the same of a
  row of requests;
* `Handover.Live.Backend.eq_of_get?` — the entries determine the backend;
* `Handover.Live.Backend.handles_independent` — **handles are independent**.
-/

import Handover.Proofs.EventLog
import Mathlib.Data.List.Dedup

set_option autoImplicit false

namespace Handover.Live

variable {α : Type}

/-! ### Requests -/

/-- What a backend can be asked, always about one handle. -/
inductive Request (α : Type) where
  | create (h : Handle) (typeName : String) (value : α)
  | get (h : Handle)
  | typeName (h : Handle)
  | drop (h : Handle)
  | lend (h : Handle)
  | reclaim (h : Handle)
  | lent (h : Handle)
deriving DecidableEq

/-- What a backend answers. -/
inductive Response (α : Type) where
  | created (result : Except Refusal Unit)
  | value (found : Option α)
  | typeName (found : Option String)
  | flag (isSo : Bool)

/-- The handle that a request is about. -/
def Request.handle : Request α → Handle
  | create h _ _ | get h | typeName h | drop h | lend h | reclaim h | lent h => h

/-- Whether an answer reports a failure. -/
def Response.isFailure : Response α → Bool
  | created result => !result.isOk
  | value found => found.isNone
  | typeName found => found.isNone
  | flag isSo => !isSo

/-- The requests about a handle, in their order. -/
def about (h : Handle) (qs : List (Request α)) : List (Request α) := qs.filter (·.handle = h)

/-- What a request is answered, and which entry its handle has afterwards, if it had this one. -/
def Request.effect : Request α → Option (Entry α) → Response α × Option (Entry α)
  | create h name value, x =>
    if h = 0 then (.created (.error .reserved), x)
    else match x with
      | some x => (.created (.error .registered), some x)
      | none => (.created (.ok ()), some { typeName := name, value })
  | get _, x => (.value (x.map Entry.value), x)
  | typeName _, x => (.typeName (x.map Entry.typeName), x)
  | drop _, x => (.value (x.map Entry.value), none)
  | lend _, x => (.flag (x.any (!·.isLent)), x.map (Entry.mark true))
  | reclaim _, x => (.flag (x.any (·.isLent)), x.map (Entry.mark false))
  | lent _, x => (.flag (x.any (·.isLent)), x)

namespace Backend

/-- No handle is live. -/
abbrev fresh (α : Type) : Backend α := {}

/-- Answers a request. -/
def serve (b : Backend α) : Request α → Response α × Backend α
  | .create h typeName value =>
    (.created (b.create h typeName value).1, (b.create h typeName value).2)
  | .get h => (.value ((b.get? h).map Entry.value), b)
  | .typeName h => (.typeName ((b.get? h).map Entry.typeName), b)
  | .drop h => (.value ((b.drop h).1.map Entry.value), (b.drop h).2)
  | .lend h => (.flag (b.lend h).1, (b.lend h).2)
  | .reclaim h => (.flag (b.reclaim h).1, (b.reclaim h).2)
  | .lent h => (.flag (b.isLent h), b)

/-- The requests, each with its answer. -/
def transcript (b : Backend α) : List (Request α) → List (Request α × Response α)
  | [] => []
  | q :: qs => (q, (b.serve q).1) :: (b.serve q).2.transcript qs

/-- The backend after some requests. -/
def after (b : Backend α) : List (Request α) → Backend α
  | [] => b
  | q :: qs => (b.serve q).2.after qs

/-! ### One request -/

section Serve

variable (b : Backend α) (q : Request α) (h k : Handle)

theorem get?_drop : (b.drop h).2.get? k = if k = h then none else b.get? k := by
  rw [drop]
  cases hget : b.get? h with
  | some x => exact lookup_without b.entries h k
  | none =>
      by_cases hkh : k = h
      · rw [if_pos hkh, hkh, hget]
      · rw [if_neg hkh]

theorem get?_lend :
    (b.lend h).2.get? k = if k = h then (b.get? k).map (Entry.mark true) else b.get? k := by
  have hbackend : (Table.lend ({ backend := b } : Table α Unit) h).table.backend = (b.lend h).2 := by
    unfold Table.lend lend
    split <;> rfl
  rw [← hbackend]
  exact Table.get?_lend ..

theorem get?_reclaim :
    (b.reclaim h).2.get? k = if k = h then (b.get? k).map (Entry.mark false) else b.get? k := by
  have hbackend :
      (Table.reclaim ({ backend := b } : Table α Unit) h).table.backend = (b.reclaim h).2 := by
    unfold Table.reclaim reclaim
    split <;> rfl
  rw [← hbackend]
  exact Table.get?_reclaim ..

/-- A request is answered by the entry of its handle. -/
theorem serve_fst : (b.serve q).1 = (q.effect (b.get? q.handle)).1 := by
  cases q with
  | create h typeName value =>
      simp only [serve, create, isLive, Request.effect, Request.handle]
      by_cases hzero : h = 0
      · rw [if_pos hzero, if_pos hzero]
      · obtain hget | ⟨x, hget⟩ := (b.get? h).eq_none_or_eq_some <;> simp [hzero, hget]
  | get h => rfl
  | typeName h => rfl
  | lent h => rfl
  | drop h =>
      obtain hget | ⟨x, hget⟩ := (b.get? h).eq_none_or_eq_some <;>
        simp [serve, drop, Request.effect, Request.handle, hget]
  | lend h =>
      simp only [serve, lend, isLive, isLent, Request.effect, Request.handle]
      obtain hget | ⟨x, hget⟩ := (b.get? h).eq_none_or_eq_some
      · simp [hget]
      · cases hlent : x.isLent <;> simp [hget, hlent]
  | reclaim h =>
      simp only [serve, reclaim, isLent, Request.effect, Request.handle]
      obtain hget | ⟨x, hget⟩ := (b.get? h).eq_none_or_eq_some
      · simp [hget]
      · cases hlent : x.isLent <;> simp [hget, hlent]

/-- A request changes the entry of its handle, as its effect says, and no other. -/
theorem get?_serve : (b.serve q).2.get? k =
    if k = q.handle then (q.effect (b.get? k)).2 else b.get? k := by
  cases q with
  | create h typeName value =>
      simp only [serve, create, isLive, Request.effect, Request.handle]
      by_cases hzero : h = 0
      · simp [hzero]
      · obtain hget | ⟨x, hget⟩ := (b.get? h).eq_none_or_eq_some
        · simp only [hzero, hget, if_false, Option.isSome_none, Bool.false_eq_true]
          refine (lookup_insertSorted hget k).trans ?_
          by_cases hkh : k = h
          · simp [hkh, hget]
          · simp [hkh, get?]
        · by_cases hkh : k = h <;> simp [hzero, hget, hkh]
  | get h => simp [serve, Request.effect]
  | typeName h => simp [serve, Request.effect]
  | lent h => simp [serve, Request.effect]
  | drop h => exact b.get?_drop h k
  | lend h => exact b.get?_lend h k
  | reclaim h => exact b.get?_reclaim h k

/-- A request that fails changes nothing. -/
theorem serve_snd_of_isFailure (hfail : (b.serve q).1.isFailure) : (b.serve q).2 = b := by
  cases q with
  | create h typeName value =>
      simp only [serve, create] at hfail ⊢
      split
      · rfl
      · split
        · rfl
        · simp_all [Response.isFailure, Except.isOk, Except.toBool]
  | get h => rfl
  | typeName h => rfl
  | lent h => rfl
  | drop h =>
      simp only [serve, drop] at hfail ⊢
      cases hget : b.get? h with
      | none => rfl
      | some x => simp [hget, Response.isFailure] at hfail
  | lend h =>
      simp only [serve, lend] at hfail ⊢
      split
      · simp_all [Response.isFailure]
      · rfl
  | reclaim h =>
      simp only [serve, reclaim] at hfail ⊢
      split
      · simp_all [Response.isFailure]
      · rfl

/-- A request keeps the bindings in order. -/
theorem ordered_serve (hb : b.Ordered) : (b.serve q).2.Ordered := by
  cases q with
  | create h typeName value =>
      simp only [serve, create]
      split
      · exact hb
      · split
        · exact hb
        · rename_i hdead
          have hget : b.get? h = none := by simpa [isLive] using hdead
          exact pairwise_insertSorted hb hget
  | get h => exact hb
  | typeName h => exact hb
  | lent h => exact hb
  | drop h =>
      simp only [serve, drop]
      split
      · exact hb
      · exact hb.sublist (List.filter_sublist.map Prod.fst)
  | lend h =>
      simp only [serve, lend]
      split
      · simpa [Ordered] using hb
      · exact hb
  | reclaim h =>
      simp only [serve, reclaim]
      split
      · simpa [Ordered] using hb
      · exact hb

end Serve

/-! ### Rows of requests -/

theorem ordered_after (b : Backend α) (qs : List (Request α)) (hb : b.Ordered) :
    (b.after qs).Ordered := by
  induction qs generalizing b with
  | nil => exact hb
  | cons q qs ih => exact ih _ (b.ordered_serve q hb)

/-- Two backends that agree on a handle answer the requests about it alike, whatever else the first
of them is asked in between. -/
theorem transcript_about {b b' : Backend α} {h : Handle} (hsame : b.get? h = b'.get? h)
    (qs : List (Request α)) :
    (b.transcript qs).filter (·.1.handle = h) = b'.transcript (about h qs) := by
  induction qs generalizing b b' with
  | nil => rfl
  | cons q qs ih =>
      by_cases hq : q.handle = h
      · -- both are asked, answer alike, and agree afterwards
        have hanswer : (b.serve q).1 = (b'.serve q).1 := by
          rw [serve_fst, serve_fst, hq, hsame]
        have hnext : (b.serve q).2.get? h = (b'.serve q).2.get? h := by
          rw [get?_serve, get?_serve, hsame]
        rw [about, List.filter_cons_of_pos (by simpa using hq), ← about, transcript, transcript,
          List.filter_cons_of_pos (by simpa using hq), ih hnext, hanswer]
      · -- only the first is asked, and its entry of `h` stays
        have hnext : (b.serve q).2.get? h = b'.get? h := by
          rw [get?_serve, if_neg (Ne.symm hq), hsame]
        rw [about, List.filter_cons_of_neg (by simpa using hq), ← about, transcript,
          List.filter_cons_of_neg (by simpa using hq), ih hnext]

/-- They also have the same entry of it afterwards. -/
theorem get?_after_about {b b' : Backend α} {h : Handle} (hsame : b.get? h = b'.get? h)
    (qs : List (Request α)) : (b.after qs).get? h = (b'.after (about h qs)).get? h := by
  induction qs generalizing b b' with
  | nil => exact hsame
  | cons q qs ih =>
      by_cases hq : q.handle = h
      · rw [about, List.filter_cons_of_pos (by simpa using hq), ← about, after, after]
        refine ih ?_
        rw [get?_serve, get?_serve, hsame]
      · rw [about, List.filter_cons_of_neg (by simpa using hq), ← about, after]
        refine ih ?_
        rw [get?_serve, if_neg (Ne.symm hq), hsame]

/-- Handle zero does not become live. -/
theorem get?_zero_after {b : Backend α} (hzero : b.get? 0 = none) (qs : List (Request α)) :
    (b.after qs).get? 0 = none := by
  induction qs generalizing b with
  | nil => exact hzero
  | cons q qs ih =>
      refine ih ?_
      rw [get?_serve, hzero]
      split
      · rename_i hq
        cases q with
        | create h typeName value =>
            obtain rfl : 0 = h := hq
            rfl
        | _ => rfl
      · rfl

/-- A handle that no request is about stays as it is. -/
theorem get?_after_of_notMem {b : Backend α} {h : Handle} {qs : List (Request α)}
    (hh : h ∉ qs.map Request.handle) : (b.after qs).get? h = b.get? h := by
  have hnone : about h qs = [] := by
    refine List.filter_eq_nil_iff.2 ?_
    intro q hq heq
    exact hh (List.mem_map.2 ⟨q, hq, by simpa using heq⟩)
  rw [get?_after_about rfl, hnone, after]

/-! ### What the entries determine -/

/-- Two backends in order with the same entries are the same. -/
theorem eq_of_get? {b b' : Backend α} (hb : b.Ordered) (hb' : b'.Ordered)
    (hget : b.get? = b'.get?) : b = b' := by
  obtain ⟨hnodup, hmem⟩ := hb.holds
  obtain ⟨hnodup', hmem'⟩ := hb'.holds
  have hperm : b.entries.Perm b'.entries := by
    rw [List.perm_ext_iff_of_nodup hnodup.of_map hnodup'.of_map]
    rintro ⟨h, x⟩
    rw [hmem, hmem', hget]
  have hentries : b.entries = b'.entries := by
    refine hperm.eq_of_pairwise ?_ (List.pairwise_map.1 hb) (List.pairwise_map.1 hb')
    intro x y _ _ hxy hyx
    exact absurd hyx (Nat.lt_asymm hxy)
  cases b
  exact congrArg Backend.mk hentries

/-- The size counts the handles that were asked about and are live. -/
theorem size_after (qs : List (Request α)) : ((fresh α).after qs).size =
    ((qs.map Request.handle).dedup.filter fun h =>
      ((fresh α).after (about h qs)).isLive h).length := by
  have hordered : ((fresh α).after qs).Ordered := ordered_after _ qs .nil
  have hperm : ((fresh α).after qs).handles.Perm ((qs.map Request.handle).dedup.filter fun h =>
      ((fresh α).after (about h qs)).isLive h) := by
    rw [List.perm_ext_iff_of_nodup hordered.holds.1 ((List.nodup_dedup _).filter _)]
    intro h
    rw [← isLive_iff_mem, List.mem_filter, List.mem_dedup, isLive, isLive, ← get?_after_about rfl qs]
    refine ⟨fun hlive => ⟨?_, hlive⟩, And.right⟩
    by_contra hh
    rw [get?_after_of_notMem hh] at hlive
    cases hlive
  rw [← hperm.length_eq, handles, List.length_map, size]

/-- **Handles are independent.**  The requests about a handle are answered, and leave its entry
behind, as if they were the only ones.  The size is the number of handles that are live by their own
requests, handle zero is not live, and a request that fails changes nothing.  So two rows of
requests that agree about every single handle are answered alike and lead to the same backend. -/
theorem handles_independent (qs : List (Request α)) :
    (∀ h, ((fresh α).transcript qs).filter (·.1.handle = h) = (fresh α).transcript (about h qs) ∧
      ((fresh α).after qs).get? h = ((fresh α).after (about h qs)).get? h) ∧
    ((fresh α).after qs).size = ((qs.map Request.handle).dedup.filter fun h =>
      ((fresh α).after (about h qs)).isLive h).length ∧
    ((fresh α).after qs).isLive 0 = false ∧
    (∀ (b : Backend α) (q : Request α), (b.serve q).1.isFailure → (b.serve q).2 = b) ∧
    ∀ qs' : List (Request α), (∀ h, about h qs' = about h qs) →
      (∀ h, ((fresh α).transcript qs').filter (·.1.handle = h) =
        ((fresh α).transcript qs).filter (·.1.handle = h)) ∧
      (fresh α).after qs' = (fresh α).after qs := by
  refine ⟨?_, size_after qs, ?_, serve_snd_of_isFailure, ?_⟩
  · intro h
    exact ⟨transcript_about rfl qs, get?_after_about rfl qs⟩
  · rw [isLive, get?_zero_after rfl]
    rfl
  · intro qs' hqs
    constructor
    · intro h
      rw [transcript_about rfl, transcript_about rfl, hqs]
    · refine eq_of_get? (ordered_after _ qs' .nil) (ordered_after _ qs .nil) ?_
      funext h
      rw [get?_after_about rfl qs', get?_after_about rfl qs, hqs]

/-- A handle is dropped while lent and used again, and another one comes in between. -/
def interleaved : List (Request Nat) := [
  .create 3 "a" 10, .create 5 "b" 20, .lend 3, .drop 3, .lent 5, .create 3 "c" 30, .lent 3, .drop 5]

/-- The same requests, those about one handle first. -/
def separated : List (Request Nat) := [
  .create 5 "b" 20, .lent 5, .drop 5, .create 3 "a" 10, .lend 3, .drop 3, .create 3 "c" 30, .lent 3]

/-- Whether they are interleaved or not, the requests lead to the same backend. -/
theorem handles_independent_interleaved :
    (∀ h, about h separated = about h interleaved) ∧
      (fresh Nat).after separated = (fresh Nat).after interleaved ∧
      ((fresh Nat).after interleaved).get? 3 = some { typeName := "c", value := 30 } := by
  have hsame : ∀ h, about h separated = about h interleaved := by
    intro h
    by_cases h3 : h = 3
    · subst h3
      decide
    · by_cases h5 : h = 5
      · subst h5
        decide
      · have hne : 3 ≠ h ∧ 5 ≠ h := ⟨Ne.symm h3, Ne.symm h5⟩
        simp [about, separated, interleaved, Request.handle, hne]
  exact ⟨hsame, ((handles_independent interleaved).2.2.2.2 separated hsame).2, by decide⟩

end Backend

end Handover.Live
