/-
**Reading methods.**

Each step of the reader of methods is described by what comes next: it takes some tokens and leaves
others exactly if the shapes in between are those of the grammar.  A repetition needs the shape that
ends it, since otherwise the reader would go on; so the modifiers are read together with the
parenthesis that shows the name, and the methods together with the closing brace.

Main results:

* `Handover.Token.takeWord_eq_ok` and its companions — the single tokens;
* `Handover.Token.takeMethod_eq_ok` — **a method is read exactly if it comes next**;
* `Handover.Token.ahead_of_takeMembers`, `Handover.Token.takeMembers_of_ahead` — the methods of an
  interface.
-/

import Handover.Proofs.Grammar
import Handover.Proofs.Success

set_option autoImplicit false

namespace Handover

namespace Token

open Grammar

variable {σ : List Shape} {ts rest : List Token} {eof : Nat}

/-! ### Single tokens -/

theorem takeWord_eq_ok {w : String} :
    takeWord eof ts = .ok (w, rest) ↔ ∃ line, ts = ⟨.word w, line⟩ :: rest := by
  unfold takeWord
  split <;> simp_all

theorem takeString_eq_ok {value : String} :
    takeString eof ts = .ok (value, rest) ↔ ∃ line, ts = ⟨.text value, line⟩ :: rest := by
  unfold takeString
  split <;> simp_all

theorem takeMark_eq_ok {c : Char} :
    takeMark eof c ts = .ok rest ↔ ∃ line, ts = ⟨.mark c, line⟩ :: rest := by
  unfold takeMark
  split
  · split <;> simp_all
  · simp_all

theorem startsWith_eq_true {c : Char} :
    startsWith c ts = true ↔ ∃ line, ts = ⟨.mark c, line⟩ :: ts.tail := by
  unfold startsWith
  split <;> simp_all

/-! ### Methods -/

/-- Some modifiers on top of others. -/
def Modifiers.adding (m : Modifiers) (ks : List Modifier) : Modifiers where
  isStatic := m.isStatic || ks.contains .static
  isAsync := m.isAsync || ks.contains .async

theorem modifiers_cons (k : Modifier) (ks : List Modifier) :
    modifiers (k :: ks) = .word k.keyword :: modifiers ks := rfl

/-- The words that are taken for modifiers are modifiers. -/
theorem ahead_takeModifiers (m : Modifiers) (ts : List Token) :
    ∃ ks, Ahead (modifiers ks) ts (takeModifiers m ts).2 ∧
      (takeModifiers m ts).1 = m.adding ks := by
  fun_induction takeModifiers m ts with
  | case1 | case4 | case5 => exact ⟨[], ahead_nil.2 rfl, by simp [Modifiers.adding]⟩
  | case2 m line rest hcall ih =>
      obtain ⟨ks, hks, hm⟩ := ih
      refine ⟨.static :: ks, ahead_cons.2 ⟨line, rest, rfl, hks⟩, ?_⟩
      simp [hm, Modifiers.adding]
  | case3 m line rest hcall _ ih =>
      obtain ⟨ks, hks, hm⟩ := ih
      refine ⟨.async :: ks, ahead_cons.2 ⟨line, rest, rfl, hks⟩, ?_⟩
      simp [hm, Modifiers.adding]

/-- In front of a word, modifiers are taken for nothing else, and a word in front of a parenthesis
is not taken for a modifier. -/
theorem takeModifiers_of_ahead {ks : List Modifier} {name : String} {line line' : Nat}
    (m : Modifiers)
    (hks : Ahead (modifiers ks) ts (⟨.word name, line⟩ :: ⟨.mark '(', line'⟩ :: rest)) :
    takeModifiers m ts = (m.adding ks, ⟨.word name, line⟩ :: ⟨.mark '(', line'⟩ :: rest) := by
  induction ks generalizing m ts with
  | nil =>
      obtain rfl := ahead_nil.1 hks
      simp [takeModifiers, startsWith, Modifiers.adding]
  | cons k ks ih =>
      rw [modifiers_cons, ahead_cons] at hks
      obtain ⟨line'', ts', rfl, hks'⟩ := hks
      -- what follows a modifier is a word, be it another modifier or the name
      have hcall : startsWith '(' ts' = false := by
        cases ks with
        | nil =>
            obtain rfl := ahead_nil.1 hks'
            rfl
        | cons k' ks =>
            rw [modifiers_cons, ahead_cons] at hks'
            obtain ⟨_, _, rfl, _⟩ := hks'
            rfl
      cases k with
      | static => simp [takeModifiers, Modifier.keyword, hcall, ih _ hks', Modifiers.adding]
      | async => simp [takeModifiers, Modifier.keyword, hcall, ih _ hks', Modifiers.adding]

/-- A list of parameters is its first parameter, a comma and the others. -/
theorem params_cons_cons (p q : Param) (ps : List Param) :
    params (p :: q :: ps) = param p ++ .mark ',' :: params (q :: ps) := by
  simp [params]

theorem ahead_param_append {p : Param} : Ahead (param p ++ σ) ts rest ↔
    ∃ l₁ l₂ l₃ ts', ts = ⟨.word p.name, l₁⟩ :: ⟨.mark ':', l₂⟩ :: ⟨.word p.type, l₃⟩ :: ts' ∧
      Ahead σ ts' rest := by
  simp [param]

theorem ahead_of_takeParams {ps : List Param} (h : takeParams eof ts = .ok (ps, rest)) :
    ps ≠ [] ∧ Ahead (params ps ++ [.mark ')']) ts rest := by
  fun_induction takeParams eof ts generalizing ps rest with
  | case1 | case2 | case3 | case5 => simp at h
  | case4 ts name ts₁ h₁ ts₂ h₂ type ts₃ h₃ hc =>
      obtain ⟨l₁, rfl⟩ := takeWord_eq_ok.1 h₁
      obtain ⟨l₂, rfl⟩ := takeMark_eq_ok.1 h₂
      obtain ⟨l₃, rfl⟩ := takeWord_eq_ok.1 h₃
      obtain ⟨l₄, hts⟩ := startsWith_eq_true.1 hc
      simp only [Except.ok.injEq, Prod.mk.injEq] at h
      obtain ⟨rfl, rfl⟩ := h
      refine ⟨List.cons_ne_nil _ _, ?_⟩
      simpa [params, param] using ⟨l₄, hts⟩
  | case6 ts name ts₁ h₁ ts₂ h₂ type ts₃ h₃ hc ts₄ h₄ _ _ _ _ ih =>
      obtain ⟨l₁, rfl⟩ := takeWord_eq_ok.1 h₁
      obtain ⟨l₂, rfl⟩ := takeMark_eq_ok.1 h₂
      obtain ⟨l₃, rfl⟩ := takeWord_eq_ok.1 h₃
      obtain ⟨l₄, rfl⟩ := takeMark_eq_ok.1 h₄
      obtain ⟨⟨ps', rest'⟩, hps, heq⟩ := map_eq_ok.1 h
      obtain ⟨rfl, rfl⟩ := Prod.mk.inj heq
      obtain ⟨hne, hahead⟩ := ih hps
      obtain ⟨q, qs, rfl⟩ := List.exists_cons_of_ne_nil hne
      refine ⟨List.cons_ne_nil _ _, ?_⟩
      rw [params_cons_cons]
      simpa [param] using hahead

theorem takeParams_of_ahead {p : Param} {ps : List Param}
    (h : Ahead (params (p :: ps) ++ [.mark ')']) ts rest) :
    takeParams eof ts = .ok (p :: ps, rest) := by
  induction ps generalizing p ts with
  | nil =>
      rw [params, List.flatMap_nil, List.append_nil, ahead_param_append] at h
      obtain ⟨l₁, l₂, l₃, ts', rfl, hclose⟩ := h
      obtain ⟨l₄, rfl⟩ := ahead_singleton.1 hclose
      rw [takeParams]
      simp [takeWord, takeMark, startsWith]
  | cons q ps ih =>
      rw [params_cons_cons, List.append_assoc, ahead_param_append, List.cons_append] at h
      obtain ⟨l₁, l₂, l₃, ts', rfl, hcomma⟩ := h
      obtain ⟨l₄, ts'', rfl, hmore⟩ := ahead_cons.1 hcomma
      rw [takeParams]
      simp [takeWord, takeMark, startsWith, ih hmore, Except.map]

theorem takeParamList_eq_ok {ps : List Param} :
    takeParamList eof ts = .ok (ps, rest) ↔ Ahead (params ps ++ [.mark ')']) ts rest := by
  unfold takeParamList
  constructor
  · intro h
    split at h
    · next hc =>
      obtain ⟨l, hts⟩ := startsWith_eq_true.1 hc
      obtain ⟨rfl, rfl⟩ := Prod.mk.inj (Except.ok.inj h)
      exact ahead_singleton.2 ⟨l, hts⟩
    · exact (ahead_of_takeParams h).2
  · intro h
    cases ps with
    | nil =>
        obtain ⟨l, rfl⟩ := ahead_singleton.1 h
        rfl
    | cons p ps =>
        have hword : startsWith ')' ts = false := by
          rw [params, List.append_assoc, ahead_param_append] at h
          obtain ⟨_, _, _, _, rfl, _⟩ := h
          rfl
        rw [hword]
        exact takeParams_of_ahead h

theorem ahead_of_takeReturn {type : String} (h : takeReturn eof ts = .ok (type, rest)) :
    ∃ ret, Returns type ret ∧ Ahead ret ts rest := by
  unfold takeReturn at h
  split at h
  · next hc =>
    obtain ⟨l, hts⟩ := startsWith_eq_true.1 hc
    obtain ⟨l', htail⟩ := takeWord_eq_ok.1 h
    rw [htail] at hts
    exact ⟨_, .given type, ahead_cons.2 ⟨l, _, hts, ahead_singleton.2 ⟨l', rfl⟩⟩⟩
  · obtain ⟨rfl, rfl⟩ := Prod.mk.inj (Except.ok.inj h)
    exact ⟨[], .missing, ahead_nil.2 rfl⟩

/-- A missing type is seen by the semicolon. -/
theorem takeReturn_of_ahead {type : String} {ret : List Shape} {line : Nat}
    (hret : Returns type ret) (h : Ahead ret ts (⟨.mark ';', line⟩ :: rest)) :
    takeReturn eof ts = .ok (type, ⟨.mark ';', line⟩ :: rest) := by
  cases hret with
  | missing =>
      obtain rfl := ahead_nil.1 h
      rfl
  | given =>
      obtain ⟨l, ts', rfl, hword⟩ := ahead_cons.1 h
      obtain ⟨l', rfl⟩ := ahead_singleton.1 hword
      rfl

/-- A method is taken exactly if it comes next. -/
theorem takeMethod_eq_ok {m : Method} :
    takeMethod eof ts = .ok (m, rest) ↔ ∃ σ, Member m σ ∧ Ahead σ ts rest := by
  constructor
  · intro h
    obtain ⟨ks, hks, hm⟩ := ahead_takeModifiers {} ts
    simp only [takeMethod, bind_eq_ok, Prod.exists] at h
    obtain ⟨name, ts₁, hname, ts₂, hopen, ps, ts₃, hps, type, ts₄, hret, ts₅, hend, h⟩ := h
    obtain ⟨rfl, rfl⟩ := Prod.mk.inj (Except.ok.inj h)
    obtain ⟨l₁, hname⟩ := takeWord_eq_ok.1 hname
    obtain ⟨l₂, rfl⟩ := takeMark_eq_ok.1 hopen
    obtain ⟨mid, hps, hclose⟩ := ahead_append.1 (takeParamList_eq_ok.1 hps)
    obtain ⟨ret, hret, hahead⟩ := ahead_of_takeReturn hret
    have hcall : Ahead [.word name, .mark '('] (takeModifiers {} ts).2 ts₂ :=
      ahead_cons.2 ⟨l₁, _, hname, ahead_singleton.2 ⟨l₂, rfl⟩⟩
    have hsemi := ahead_singleton.2 (takeMark_eq_ok.1 hend)
    refine ⟨_, ?_, ((((hks.append hcall).append hps).append hclose).append hahead).append hsemi⟩
    rw [hm]
    simpa [Modifiers.adding] using Member.intro ks name ps hret
  · rintro ⟨σ, ⟨ks, name, ps, hret⟩, h⟩
    simp only [ahead_append] at h
    obtain ⟨ts₅, ⟨ts₄, ⟨ts₃, ⟨ts₂, ⟨ts₁, hks, hcall⟩, hps⟩, hclose⟩, hahead⟩, hsemi⟩ := h
    obtain ⟨l₁, _, rfl, hopen⟩ := ahead_cons.1 hcall
    obtain ⟨l₂, rfl⟩ := ahead_singleton.1 hopen
    obtain ⟨l₅, rfl⟩ := ahead_singleton.1 hsemi
    have hlist : takeParamList eof ts₂ = .ok (ps, ts₄) :=
      takeParamList_eq_ok.2 (hps.append hclose)
    simp [takeMethod, takeModifiers_of_ahead {} hks, Modifiers.adding, takeWord, takeMark, hlist,
      takeReturn_of_ahead hret hahead, bind, Except.bind, pure, Except.pure]

/-! ### Bodies -/

/-- A method starts with a word. -/
theorem Ahead.word_of_member {m : Method} (hm : Member m σ) (h : Ahead σ ts rest) :
    ∃ w line ts', ts = ⟨.word w, line⟩ :: ts' := by
  obtain ⟨ks, name, ps, hret⟩ := hm
  simp only [ahead_append] at h
  obtain ⟨_, ⟨_, ⟨_, ⟨_, ⟨ts₁, hks, hcall⟩, _⟩, _⟩, _⟩, _⟩ := h
  cases ks with
  | nil =>
      obtain rfl := ahead_nil.1 hks
      obtain ⟨line, ts', rfl, _⟩ := ahead_cons.1 hcall
      exact ⟨name, line, ts', rfl⟩
  | cons k ks =>
      rw [modifiers_cons, ahead_cons] at hks
      obtain ⟨line, ts', rfl, _⟩ := hks
      exact ⟨k.keyword, line, ts', rfl⟩

theorem ahead_of_takeMembers {name : String} {seen : List String} {ms : List Method}
    (h : takeMembers eof name seen ts = .ok (ms, rest)) :
    (∃ body, Many Member ms body ∧ Ahead (body ++ [.mark '\x7d']) ts rest) ∧
      (ms.map Method.name).Nodup ∧ ∀ m ∈ ms, m.name ∉ seen := by
  fun_induction takeMembers eof name seen ts generalizing ms rest with
  | case1 | case3 | case4 => simp at h
  | case2 seen t rest' hclose =>
      obtain ⟨rfl, rfl⟩ := Prod.mk.inj (Except.ok.inj h)
      obtain ⟨shape, line⟩ := t
      obtain rfl : shape = .mark '\x7d' := hclose
      exact ⟨⟨[], .nil, ahead_singleton.2 ⟨line, rfl⟩⟩, by simp, by simp⟩
  | case5 seen t rest' _ m rest'' hm hseen _ ih =>
      obtain ⟨⟨ms', rest⟩, hms, heq⟩ := map_eq_ok.1 h
      obtain ⟨rfl, rfl⟩ := Prod.mk.inj heq
      obtain ⟨⟨body, hbody, hahead⟩, hnodup, hnew⟩ := ih hms
      obtain ⟨σ, hσ, hfirst⟩ := takeMethod_eq_ok.1 hm
      refine ⟨⟨σ ++ body, .cons hσ hbody, ?_⟩, ?_, ?_⟩
      · rw [List.append_assoc]
        exact hfirst.append hahead
      · rw [List.map_cons, List.nodup_cons]
        refine ⟨?_, hnodup⟩
        intro hmem
        obtain ⟨m', hm', hname⟩ := List.mem_map.1 hmem
        exact hnew m' hm' (hname ▸ List.mem_cons_self)
      · intro m' hm'
        rcases List.mem_cons.1 hm' with rfl | hm'
        · simpa using hseen
        · exact fun hold => hnew m' hm' (List.mem_cons_of_mem _ hold)

theorem takeMembers_of_ahead {name : String} {seen : List String} {ms : List Method}
    {body : List Shape} (hbody : Many Member ms body)
    (h : Ahead (body ++ [.mark '\x7d']) ts rest) (hnodup : (ms.map Method.name).Nodup)
    (hnew : ∀ m ∈ ms, m.name ∉ seen) :
    takeMembers eof name seen ts = .ok (ms, rest) := by
  induction hbody generalizing seen ts with
  | nil =>
      obtain ⟨line, rfl⟩ := ahead_singleton.1 h
      simp [takeMembers]
  | @cons m ms σ body hσ hbody ih =>
      rw [List.append_assoc, ahead_append] at h
      obtain ⟨mid, hfirst, hmore⟩ := h
      have hm : takeMethod eof ts = .ok (m, mid) := takeMethod_eq_ok.2 ⟨σ, hσ, hfirst⟩
      obtain ⟨w, line, ts', rfl⟩ := hfirst.word_of_member hσ
      rw [List.map_cons, List.nodup_cons] at hnodup
      have hms : takeMembers eof name (m.name :: seen) mid = .ok (ms, rest) := by
        refine ih hmore hnodup.2 ?_
        intro m' hm' hmem
        rcases List.mem_cons.1 hmem with heq | hold
        · exact hnodup.1 (heq ▸ List.mem_map_of_mem hm')
        · exact hnew m' (List.mem_cons_of_mem _ hm') hold
      have hfresh : m.name ∉ seen := hnew m List.mem_cons_self
      rw [takeMembers]
      split
      · next hclose => simp at hclose
      · split
        · next e herr => simp [hm] at herr
        · next m' mid' hm' =>
          obtain ⟨rfl, rfl⟩ := Prod.mk.inj (Except.ok.inj (hm.symm.trans hm'))
          simp [hfresh, hms, Except.map]

end Token

end Handover
