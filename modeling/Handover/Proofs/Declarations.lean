/-
**Reading declarations.**

Tokens are read as a description exactly if the grammar derives it from them and it declares nothing
twice.  One direction follows the steps of the reader, the other follows the derivation.  The
grammar is unambiguous, because every step of the reader can take its tokens in one way only; so the
description that is read is the only one that the tokens stand for.

Main results:

* `Handover.Token.declares_of_takeDecl`, `Handover.Token.takeDecl_of_declares` — one declaration;
* `Handover.Grammar.Derives.unique` — **the grammar is unambiguous**;
* `Handover.Description.ofTokens_eq_ok_iff` — **reading accepts exactly the grammar**.
-/

import Handover.Proofs.Methods

set_option autoImplicit false

namespace Handover

namespace Token

open Grammar

variable {σ τ : List Shape} {ts rest : List Token} {eof : Nat}

/-! ### Enumerations and interfaces -/

theorem values_cons (v : String) (vs : List String) :
    values (v :: vs) = .word v :: .mark ';' :: values vs := rfl

theorem ahead_of_takeValues {vs : List String} (h : takeValues eof ts = .ok (vs, rest)) :
    Ahead (values vs ++ [.mark '\x7d']) ts rest := by
  fun_induction takeValues eof ts generalizing vs rest with
  | case1 ts hc =>
      obtain ⟨line, hts⟩ := startsWith_eq_true.1 hc
      obtain ⟨rfl, rfl⟩ := Prod.mk.inj (Except.ok.inj h)
      exact ahead_singleton.2 ⟨line, hts⟩
  | case2 | case3 => simp at h
  | case4 ts _ v ts₁ h₁ ts₂ h₂ _ _ ih =>
      obtain ⟨⟨vs', rest'⟩, hvs, heq⟩ := map_eq_ok.1 h
      obtain ⟨rfl, rfl⟩ := Prod.mk.inj heq
      obtain ⟨l₁, rfl⟩ := takeWord_eq_ok.1 h₁
      obtain ⟨l₂, rfl⟩ := takeMark_eq_ok.1 h₂
      rw [values_cons, List.cons_append, List.cons_append]
      exact ahead_cons.2 ⟨l₁, _, rfl, ahead_cons.2 ⟨l₂, _, rfl, ih hvs⟩⟩

theorem takeValues_of_ahead {vs : List String}
    (h : Ahead (values vs ++ [.mark '\x7d']) ts rest) : takeValues eof ts = .ok (vs, rest) := by
  induction vs generalizing ts with
  | nil =>
      obtain ⟨line, rfl⟩ := ahead_singleton.1 h
      rw [takeValues]
      rfl
  | cons v vs ih =>
      rw [values_cons, List.cons_append, List.cons_append] at h
      obtain ⟨l₁, ts₁, rfl, hsemi⟩ := ahead_cons.1 h
      obtain ⟨l₂, ts₂, rfl, hmore⟩ := ahead_cons.1 hsemi
      rw [takeValues]
      simp [startsWith, takeWord, takeMark, ih hmore, Except.map]

theorem languages_cons (l : String) (ls : List String) :
    languages (l :: ls) = .mark '+' :: .word l :: languages ls := rfl

theorem ahead_of_takeLanguages {ls : List String} (h : takeLanguages eof ts = .ok (ls, rest)) :
    Ahead (languages ls) ts rest := by
  fun_induction takeLanguages eof ts generalizing ls rest with
  | case1 => simp at h
  | case2 ts hc l rest' hw _ _ ih =>
      obtain ⟨⟨ls', rest''⟩, hls, heq⟩ := map_eq_ok.1 h
      obtain ⟨rfl, rfl⟩ := Prod.mk.inj heq
      obtain ⟨l₁, hts⟩ := startsWith_eq_true.1 hc
      obtain ⟨l₂, htail⟩ := takeWord_eq_ok.1 hw
      rw [htail] at hts
      rw [languages_cons]
      exact ahead_cons.2 ⟨l₁, _, hts, ahead_cons.2 ⟨l₂, _, rfl, ih hls⟩⟩
  | case3 ts hc =>
      obtain ⟨rfl, rfl⟩ := Prod.mk.inj (Except.ok.inj h)
      exact ahead_nil.2 rfl

/-- Languages are all taken if no other follows. -/
theorem takeLanguages_of_ahead {ls : List String} (h : Ahead (languages ls) ts rest)
    (hend : startsWith '+' rest = false) : takeLanguages eof ts = .ok (ls, rest) := by
  induction ls generalizing ts with
  | nil =>
      obtain rfl := ahead_nil.1 h
      rw [takeLanguages]
      simp [hend]
  | cons l ls ih =>
      rw [languages_cons] at h
      obtain ⟨l₁, ts₁, rfl, hword⟩ := ahead_cons.1 h
      obtain ⟨l₂, ts₂, rfl, hmore⟩ := ahead_cons.1 hword
      rw [takeLanguages]
      simp [startsWith, takeWord, ih hmore, Except.map]

/-! ### Declarations -/

theorem ahead_of_takeBody {name : String} {line : Nat} {d : Decl}
    (h : takeBody eof name line ts = .ok (d, rest)) :
    (∃ body, Body name line d body ∧ Ahead body ts rest) ∧ d.MethodsDistinct := by
  unfold takeBody at h
  split at h
  · simp at h
  · next value l ts' =>
    obtain ⟨rfl, rfl⟩ := Prod.mk.inj (Except.ok.inj h)
    exact ⟨⟨_, .setting value, ahead_singleton.2 ⟨l, rfl⟩⟩,
      Decl.methodsDistinct_of_interface?_eq_none rfl⟩
  · next l ts' =>
    simp only [bind_eq_ok, Prod.exists] at h
    obtain ⟨ls, ts₁, hls, ts₂, hopen, ms, ts₃, hms, h⟩ := h
    obtain ⟨rfl, rfl⟩ := Prod.mk.inj (Except.ok.inj h)
    have hkey : Ahead [.word "interface"] (⟨.word "interface", l⟩ :: ts') ts' :=
      ahead_singleton.2 ⟨l, rfl⟩
    have hlanguages := ahead_of_takeLanguages hls
    have hbrace := ahead_singleton.2 (takeMark_eq_ok.1 hopen)
    obtain ⟨⟨body, hbody, hahead⟩, hnodup, -⟩ := ahead_of_takeMembers hms
    obtain ⟨mid, hmembers, hclose⟩ := ahead_append.1 hahead
    refine ⟨⟨_, .interface ls hbody, ?_⟩, ?_⟩
    · exact (((hkey.append hlanguages).append hbrace).append hmembers).append hclose
    · rintro i ⟨⟩
      exact hnodup
  · next l ts' =>
    simp only [bind_eq_ok, Prod.exists] at h
    obtain ⟨ts₁, hopen, vs, ts₂, hvs, h⟩ := h
    obtain ⟨rfl, rfl⟩ := Prod.mk.inj (Except.ok.inj h)
    have hkey : Ahead [.word "enum", .mark '\x7b'] (⟨.word "enum", l⟩ :: ts') ts₁ :=
      ahead_cons.2 ⟨l, ts', rfl, ahead_singleton.2 (takeMark_eq_ok.1 hopen)⟩
    obtain ⟨mid, hvalues, hclose⟩ := ahead_append.1 (ahead_of_takeValues hvs)
    exact ⟨⟨_, .enumeration vs, (hkey.append hvalues).append hclose⟩,
      Decl.methodsDistinct_of_interface?_eq_none rfl⟩
  · simp at h

theorem takeBody_of_ahead {name : String} {line : Nat} {d : Decl} {body : List Shape}
    (hbody : Body name line d body) (h : Ahead body ts rest) (hdistinct : d.MethodsDistinct) :
    takeBody eof name line ts = .ok (d, rest) := by
  cases hbody with
  | setting value =>
      obtain ⟨l, rfl⟩ := ahead_singleton.1 h
      rfl
  | enumeration vs =>
      rw [List.append_assoc, ahead_append] at h
      obtain ⟨ts₁, hkey, hvalues⟩ := h
      obtain ⟨l, ts', rfl, hopen⟩ := ahead_cons.1 hkey
      obtain ⟨l', rfl⟩ := ahead_singleton.1 hopen
      have hvs : takeValues eof ts₁ = .ok (vs, rest) := takeValues_of_ahead hvalues
      simp [takeBody, takeMark, hvs, bind, Except.bind, pure, Except.pure]
  | @interface ls ms body hms =>
      simp only [ahead_append] at h
      obtain ⟨ts₄, ⟨ts₃, ⟨ts₂, ⟨ts₁, hkey, hlanguages⟩, hopen⟩, hmembers⟩, hclose⟩ := h
      obtain ⟨l, rfl⟩ := ahead_singleton.1 hkey
      obtain ⟨l', rfl⟩ := ahead_singleton.1 hopen
      have hls : takeLanguages eof ts₁ = .ok (ls, ⟨.mark '\x7b', l'⟩ :: ts₃) :=
        takeLanguages_of_ahead hlanguages rfl
      have htaken : takeMembers eof name [] ts₃ = .ok (ms, rest) :=
        takeMembers_of_ahead hms (hmembers.append hclose) (hdistinct _ rfl) (by simp)
      simp [takeBody, hls, takeMark, htaken, bind, Except.bind, pure, Except.pure]

theorem declare_eq_ok {seen seen' : Declared} {name : String} {line : Nat} :
    declare seen name line = .ok seen' ↔
      name ∉ seen.map Prod.fst ∧ seen' = (name, line) :: seen := by
  unfold declare
  split
  · next before hold =>
    have hmem : name ∈ seen.map Prod.fst := by
      obtain ⟨l₁, l₂, rfl, _⟩ := List.lookup_eq_some_iff.1 hold
      simp
    simp [hmem]
  · next hnew =>
    have hmem : name ∉ seen.map Prod.fst := by
      intro hmem
      obtain ⟨b, hb, rfl⟩ := List.mem_map.1 hmem
      simpa using List.lookup_eq_none_iff.1 hnew b hb
    simp [hmem, eq_comm]

theorem takeName_eq_ok {seen seen' : Declared} {name : String} {line : Nat} :
    takeName eof seen ts = .ok (name, line, seen', rest) ↔
      (∃ l, ts = ⟨.word name, line⟩ :: ⟨.mark '=', l⟩ :: rest) ∧
        name ∉ seen.map Prod.fst ∧ seen' = (name, line) :: seen := by
  constructor
  · intro h
    simp only [takeName, bind_eq_ok, Prod.exists] at h
    obtain ⟨name', ts₁, hword, seen₁, hnew, ts₂, heq, h⟩ := h
    obtain ⟨l, rfl⟩ := takeWord_eq_ok.1 hword
    obtain ⟨l', rfl⟩ := takeMark_eq_ok.1 heq
    simp only [pure, Except.pure, lineOf, Except.ok.injEq, Prod.mk.injEq] at h
    obtain ⟨rfl, rfl, rfl, rfl⟩ := h
    exact ⟨⟨l', rfl⟩, declare_eq_ok.1 hnew⟩
  · rintro ⟨⟨l, rfl⟩, hnew⟩
    have hdeclare : declare seen name line = .ok seen' := declare_eq_ok.2 hnew
    simp [takeName, takeWord, lineOf, hdeclare, takeMark, bind, Except.bind, pure, Except.pure]

theorem declares_of_takeDecl {seen seen' : Declared} {d : Decl}
    (h : takeDecl eof seen ts = .ok (d, seen', rest)) :
    (∃ us, ts = us ++ rest ∧ Declares d us) ∧ d.MethodsDistinct ∧
      d.name ∉ seen.map Prod.fst ∧ seen' = (d.name, d.line) :: seen := by
  unfold takeDecl at h
  split at h
  · next hc =>
    obtain ⟨l₀, hts⟩ := startsWith_eq_true.1 hc
    simp only [bind_eq_ok, Prod.exists] at h
    obtain ⟨name, line, seen₁, ts₁, hname, value, ts₂, hvalue, ts₃, hclose, h⟩ := h
    simp only [pure, Except.pure, Except.ok.injEq, Prod.mk.injEq] at h
    obtain ⟨rfl, rfl, rfl⟩ := h
    obtain ⟨⟨l₁, htail⟩, hnew⟩ := takeName_eq_ok.1 hname
    obtain ⟨l₂, rfl⟩ := takeString_eq_ok.1 hvalue
    obtain ⟨l₃, rfl⟩ := takeMark_eq_ok.1 hclose
    rw [htail] at hts
    exact ⟨⟨[⟨.mark '#', l₀⟩, ⟨.word name, line⟩, ⟨.mark '=', l₁⟩, ⟨.text value, l₂⟩,
      ⟨.mark '#', l₃⟩], hts, .legacy name value line, rfl⟩,
      Decl.methodsDistinct_of_interface?_eq_none rfl, hnew⟩
  · simp only [bind_eq_ok, Prod.exists] at h
    obtain ⟨name, line, seen₁, ts₁, hname, d', ts₂, hd, h⟩ := h
    simp only [pure, Except.pure, Except.ok.injEq, Prod.mk.injEq] at h
    obtain ⟨rfl, rfl, rfl⟩ := h
    obtain ⟨⟨l₁, rfl⟩, hnew⟩ := takeName_eq_ok.1 hname
    obtain ⟨⟨body, hbody, us, rfl, rfl⟩, hdistinct⟩ := ahead_of_takeBody hd
    obtain ⟨rfl, rfl⟩ := hbody.name_line
    exact ⟨⟨⟨.word d'.name, d'.line⟩ :: ⟨.mark '=', l₁⟩ :: us, rfl, .named _ _ hbody, rfl⟩,
      hdistinct, hnew⟩

/-- Every declaration has a name. -/
theorem ne_nil_of_declares {d : Decl} {us : List Token} (hd : Declares d us) : us ≠ [] := by
  rintro rfl
  simpa [nameLine?] using hd.2

/-- The tokens of a declaration: a name with a body behind it, or a setting between hash marks. -/
theorem tokens_of_declares {d : Decl} {us : List Token} (hd : Declares d us) :
    (∃ name line l vs, us = ⟨.word name, line⟩ :: ⟨.mark '=', l⟩ :: vs ∧
      Body name line d (vs.map Token.shape)) ∨
    ∃ name value line l₀ l₂ l₃ l₄, d = .setting { name, value, isLegacy := true, line } ∧
      us = [⟨.mark '#', l₀⟩, ⟨.word name, line⟩, ⟨.mark '=', l₂⟩, ⟨.text value, l₃⟩,
        ⟨.mark '#', l₄⟩] := by
  obtain ⟨hdecl, hline⟩ := hd
  generalize hσ : us.map Token.shape = σ at hdecl
  cases hdecl with
  | named name line hbody =>
      obtain ⟨l₁, us₁, rfl, hσ₁⟩ := exists_line_of_shapes hσ
      obtain ⟨l₂, us₂, rfl, rfl⟩ := exists_line_of_shapes hσ₁
      obtain rfl : l₁ = line := (Option.some.inj hline).trans hbody.name_line.2
      exact .inl ⟨name, l₁, l₂, us₂, rfl, hbody⟩
  | legacy name value line =>
      obtain ⟨l₀, us₀, rfl, hσ₀⟩ := exists_line_of_shapes hσ
      obtain ⟨l₁, us₁, rfl, hσ₁⟩ := exists_line_of_shapes hσ₀
      obtain ⟨l₂, us₂, rfl, hσ₂⟩ := exists_line_of_shapes hσ₁
      obtain ⟨l₃, us₃, rfl, hσ₃⟩ := exists_line_of_shapes hσ₂
      obtain ⟨l₄, us₄, rfl, hσ₄⟩ := exists_line_of_shapes hσ₃
      obtain rfl := List.map_eq_nil_iff.1 hσ₄
      obtain rfl : l₁ = line := Option.some.inj hline
      exact .inr ⟨name, value, l₁, l₀, l₂, l₃, l₄, rfl, rfl⟩

theorem takeDecl_of_declares {seen : Declared} {d : Decl} {us : List Token}
    (hd : Declares d us) (hdistinct : d.MethodsDistinct) (hnew : d.name ∉ seen.map Prod.fst) :
    takeDecl eof seen (us ++ rest) = .ok (d, (d.name, d.line) :: seen, rest) := by
  rcases tokens_of_declares hd with
    ⟨name, line, l, vs, rfl, hbody⟩ | ⟨name, value, line, l₀, l₂, l₃, l₄, rfl, rfl⟩
  · obtain ⟨rfl, rfl⟩ := hbody.name_line
    have hname : takeName eof seen (⟨.word d.name, d.line⟩ :: ⟨.mark '=', l⟩ :: (vs ++ rest)) =
        .ok (d.name, d.line, (d.name, d.line) :: seen, vs ++ rest) :=
      takeName_eq_ok.2 ⟨⟨l, rfl⟩, hnew, rfl⟩
    have htaken : takeBody eof d.name d.line (vs ++ rest) = .ok (d, rest) :=
      takeBody_of_ahead hbody ⟨vs, rfl, rfl⟩ hdistinct
    simp [takeDecl, startsWith, hname, htaken, bind, Except.bind, pure, Except.pure]
  · have hname : takeName eof seen (⟨.word name, line⟩ :: ⟨.mark '=', l₂⟩ ::
        ⟨.text value, l₃⟩ :: ⟨.mark '#', l₄⟩ :: rest) =
          .ok (name, line, (name, line) :: seen, ⟨.text value, l₃⟩ :: ⟨.mark '#', l₄⟩ :: rest) :=
      takeName_eq_ok.2 ⟨⟨l₂, rfl⟩, hnew, rfl⟩
    simp [takeDecl, startsWith, hname, takeString, takeMark, Decl.name, Decl.line, bind,
      Except.bind, pure, Except.pure]

theorem decls_of_takeDecls {seen : Declared} {ds : List Decl}
    (h : takeDecls eof seen ts = .ok ds) :
    Many Declares ds ts ∧ (ds.map Decl.name).Nodup ∧
      ∀ d ∈ ds, d.MethodsDistinct ∧ d.name ∉ seen.map Prod.fst := by
  fun_induction takeDecls eof seen ts generalizing ds with
  | case1 seen ts hempty =>
      obtain rfl := Except.ok.inj h
      rw [List.isEmpty_iff.1 hempty]
      exact ⟨.nil, by simp, by simp⟩
  | case2 => simp at h
  | case3 seen ts _ d seen' rest hd _ ih =>
      obtain ⟨ds', hds, rfl⟩ := map_eq_ok.1 h
      obtain ⟨⟨us, rfl, hus⟩, hdistinct, hnew, rfl⟩ := declares_of_takeDecl hd
      obtain ⟨hmany, hnodup, hrest⟩ := ih hds
      refine ⟨.cons hus hmany, ?_, ?_⟩
      · rw [List.map_cons, List.nodup_cons]
        refine ⟨?_, hnodup⟩
        intro hmem
        obtain ⟨d', hd', hname⟩ := List.mem_map.1 hmem
        exact (hrest d' hd').2 (hname ▸ List.mem_cons_self)
      · intro d' hd'
        rcases List.mem_cons.1 hd' with rfl | hd'
        · exact ⟨hdistinct, hnew⟩
        · exact ⟨(hrest d' hd').1, fun hold => (hrest d' hd').2 (List.mem_cons_of_mem _ hold)⟩

theorem takeDecls_of_decls {seen : Declared} {ds : List Decl} (hmany : Many Declares ds ts)
    (hnodup : (ds.map Decl.name).Nodup)
    (hnew : ∀ d ∈ ds, d.MethodsDistinct ∧ d.name ∉ seen.map Prod.fst) :
    takeDecls eof seen ts = .ok ds := by
  induction hmany generalizing seen with
  | nil =>
      rw [takeDecls]
      rfl
  | @cons d ds us vs hd hds ih =>
      rw [List.map_cons, List.nodup_cons] at hnodup
      have hfirst := hnew d List.mem_cons_self
      have htaken : takeDecl eof seen (us ++ vs) = .ok (d, (d.name, d.line) :: seen, vs) :=
        takeDecl_of_declares hd hfirst.1 hfirst.2
      have hmore : takeDecls eof ((d.name, d.line) :: seen) vs = .ok ds := by
        refine ih hnodup.2 ?_
        intro d' hd'
        have hd'' := hnew d' (List.mem_cons_of_mem _ hd')
        refine ⟨hd''.1, ?_⟩
        rw [List.map_cons, List.mem_cons]
        rintro (heq | hold)
        · exact hnodup.1 (List.mem_map.2 ⟨d', hd', heq⟩)
        · exact hd''.2 hold
      have hne : us ≠ [] := ne_nil_of_declares hd
      rw [takeDecls]
      split
      · next hempty => simp [hne] at hempty
      · split
        · next e herr => simp [htaken] at herr
        · next d' seen' vs' hd' =>
          obtain ⟨rfl, rfl, rfl⟩ := by simpa using htaken.symm.trans hd'
          simp [hmore, Except.map]

/-! ### There is one way to read -/

/-- Two lists of shapes that come next start alike. -/
theorem Ahead.head_eq {s s' : Shape} {rest' : List Token} (h : Ahead (s :: σ) ts rest)
    (h' : Ahead (s' :: τ) ts rest') : s = s' := by
  obtain ⟨line, ts', rfl, _⟩ := ahead_cons.1 h
  obtain ⟨line', ts'', heq, _⟩ := ahead_cons.1 h'
  exact congrArg Token.shape (List.cons.inj heq).1

theorem Ahead.member_unique {m m' : Method} {rest' : List Token} (hm : Member m σ)
    (hm' : Member m' τ) (h : Ahead σ ts rest) (h' : Ahead τ ts rest') :
    m = m' ∧ rest = rest' := by
  have htaken : takeMethod 0 ts = .ok (m, rest) := takeMethod_eq_ok.2 ⟨σ, hm, h⟩
  have htaken' : takeMethod 0 ts = .ok (m', rest') := takeMethod_eq_ok.2 ⟨τ, hm', h'⟩
  exact Prod.mk.inj (Except.ok.inj (htaken.symm.trans htaken'))

/-- Methods with the closing brace behind them are read in one way, since no method starts with
the brace. -/
theorem Ahead.members_unique {ms ms' : List Method} {rest' : List Token} (hms : Many Member ms σ)
    (hms' : Many Member ms' τ) (h : Ahead (σ ++ [.mark '\x7d']) ts rest)
    (h' : Ahead (τ ++ [.mark '\x7d']) ts rest') : ms = ms' ∧ rest = rest' := by
  induction hms generalizing ms' τ ts with
  | nil =>
      obtain ⟨line, rfl⟩ := ahead_singleton.1 h
      cases hms' with
      | nil =>
          obtain ⟨line', heq⟩ := ahead_singleton.1 h'
          exact ⟨rfl, (List.cons.inj heq).2⟩
      | cons hm' _ =>
          rw [List.append_assoc, ahead_append] at h'
          obtain ⟨mid, hfirst, _⟩ := h'
          obtain ⟨w, line', ts', heq⟩ := hfirst.word_of_member hm'
          simp at heq
  | @cons m ms us vs hm hms ih =>
      rw [List.append_assoc, ahead_append] at h
      obtain ⟨mid, hfirst, hmore⟩ := h
      cases hms' with
      | nil =>
          obtain ⟨line, rfl⟩ := ahead_singleton.1 h'
          obtain ⟨w, line', ts', heq⟩ := hfirst.word_of_member hm
          simp at heq
      | cons hm' hms' =>
          rw [List.append_assoc, ahead_append] at h'
          obtain ⟨mid', hfirst', hmore'⟩ := h'
          obtain ⟨rfl, rfl⟩ := hfirst.member_unique hm hm' hfirst'
          obtain ⟨rfl, rfl⟩ := ih hms' hmore hmore'
          exact ⟨rfl, rfl⟩

/-- Languages with the opening brace behind them are read in one way. -/
theorem Ahead.languages_unique {ls ls' : List String} {rest' : List Token}
    (h : Ahead (languages ls ++ [.mark '\x7b']) ts rest)
    (h' : Ahead (languages ls' ++ [.mark '\x7b']) ts rest') : ls = ls' ∧ rest = rest' := by
  obtain ⟨mid, hls, hopen⟩ := ahead_append.1 h
  obtain ⟨mid', hls', hopen'⟩ := ahead_append.1 h'
  obtain ⟨line, rfl⟩ := ahead_singleton.1 hopen
  obtain ⟨line', rfl⟩ := ahead_singleton.1 hopen'
  have htaken : takeLanguages 0 ts = .ok (ls, ⟨.mark '\x7b', line⟩ :: rest) :=
    takeLanguages_of_ahead hls rfl
  have htaken' : takeLanguages 0 ts = .ok (ls', ⟨.mark '\x7b', line'⟩ :: rest') :=
    takeLanguages_of_ahead hls' rfl
  obtain ⟨rfl, heq⟩ := Prod.mk.inj (Except.ok.inj (htaken.symm.trans htaken'))
  exact ⟨rfl, (List.cons.inj heq).2⟩

/-- What the reader accepts behind a name is read in one way. -/
theorem Ahead.body_unique_of_distinct {name : String} {line : Nat} {d d' : Decl}
    {rest' : List Token} (hd : Body name line d σ) (hd' : Body name line d' τ)
    (hdistinct : d.MethodsDistinct) (hdistinct' : d'.MethodsDistinct) (h : Ahead σ ts rest)
    (h' : Ahead τ ts rest') : d = d' ∧ rest = rest' := by
  have htaken : takeBody 0 name line ts = .ok (d, rest) := takeBody_of_ahead hd h hdistinct
  have htaken' : takeBody 0 name line ts = .ok (d', rest') := takeBody_of_ahead hd' h' hdistinct'
  exact Prod.mk.inj (Except.ok.inj (htaken.symm.trans htaken'))

theorem Ahead.interface_unique {ls ls' : List String} {ms ms' : List Method}
    {body body' : List Shape} {rest' : List Token} (hms : Many Member ms body)
    (hms' : Many Member ms' body')
    (h : Ahead ([.word "interface"] ++ languages ls ++ [.mark '\x7b'] ++ body ++ [.mark '\x7d'])
      ts rest)
    (h' : Ahead ([.word "interface"] ++ languages ls' ++ [.mark '\x7b'] ++ body' ++ [.mark '\x7d'])
      ts rest') : ls = ls' ∧ ms = ms' ∧ rest = rest' := by
  simp only [ahead_append] at h h'
  obtain ⟨ts₄, ⟨ts₃, ⟨ts₂, ⟨ts₁, hkey, hlanguages⟩, hopen⟩, hmembers⟩, hclose⟩ := h
  obtain ⟨ts₄', ⟨ts₃', ⟨ts₂', ⟨ts₁', hkey', hlanguages'⟩, hopen'⟩, hmembers'⟩, hclose'⟩ := h'
  obtain ⟨l, rfl⟩ := ahead_singleton.1 hkey
  obtain ⟨l', heq⟩ := ahead_singleton.1 hkey'
  obtain rfl := (List.cons.inj heq).2
  obtain ⟨rfl, rfl⟩ := (hlanguages.append hopen).languages_unique (hlanguages'.append hopen')
  obtain ⟨rfl, rfl⟩ := (hmembers.append hclose).members_unique hms hms' (hmembers'.append hclose')
  exact ⟨rfl, rfl, rfl⟩

/-- What stands behind a name is read in one way, also where the reader refuses it because a method
is declared twice. -/
theorem Ahead.body_unique {name : String} {line : Nat} {d d' : Decl} {rest' : List Token}
    (hd : Body name line d σ) (hd' : Body name line d' τ) (h : Ahead σ ts rest)
    (h' : Ahead τ ts rest') : d = d' ∧ rest = rest' := by
  by_cases hi : d.interface? = none ∧ d'.interface? = none
  · have hdistinct := Decl.methodsDistinct_of_interface?_eq_none hi.1
    have hdistinct' := Decl.methodsDistinct_of_interface?_eq_none hi.2
    exact h.body_unique_of_distinct hd hd' hdistinct hdistinct' h'
  · cases hd with
    | setting | enumeration =>
        cases hd' with
        | setting | enumeration => exact absurd ⟨rfl, rfl⟩ hi
        | interface => exact absurd (h.head_eq h') (by simp)
    | interface ls hms =>
        cases hd' with
        | setting | enumeration => exact absurd (h.head_eq h') (by simp)
        | interface ls' hms' =>
            obtain ⟨rfl, rfl, rfl⟩ := h.interface_unique hms hms' h'
            exact ⟨rfl, rfl⟩

theorem declares_unique {d d' : Decl} {us us' rest' : List Token} (hd : Declares d us)
    (hd' : Declares d' us') (hts : us ++ rest = us' ++ rest') : d = d' ∧ rest = rest' := by
  rcases tokens_of_declares hd with
    ⟨name, line, l, vs, rfl, hbody⟩ | ⟨name, value, line, l₀, l₂, l₃, l₄, rfl, rfl⟩
  · rcases tokens_of_declares hd' with
      ⟨name', line', l', vs', rfl, hbody'⟩ | ⟨_, _, _, _, _, _, _, _, rfl⟩
    · simp only [List.cons_append, List.cons.injEq, Token.mk.injEq, Shape.word.injEq] at hts
      obtain ⟨⟨rfl, rfl⟩, -, hts⟩ := hts
      exact Ahead.body_unique hbody hbody' ⟨vs, rfl, rfl⟩ ⟨vs', hts, rfl⟩
    · simp at hts
  · rcases tokens_of_declares hd' with
      ⟨_, _, _, _, rfl, _⟩ | ⟨name', value', line', l₀', l₂', l₃', l₄', rfl, rfl⟩
    · simp at hts
    · simp_all

/-- Tokens are declarations in one way only. -/
theorem many_declares_unique {ds ds' : List Decl} (hds : Many Declares ds ts)
    (hds' : Many Declares ds' ts) : ds = ds' := by
  induction hds generalizing ds' with
  | nil =>
      generalize hts : ([] : List Token) = ts' at hds'
      cases hds' with
      | nil => rfl
      | cons hd' _ => exact absurd (List.append_eq_nil_iff.1 hts.symm).1 (ne_nil_of_declares hd')
  | @cons d ds us vs hd hds ih =>
      generalize hts : us ++ vs = ts' at hds'
      cases hds' with
      | nil => exact absurd (List.append_eq_nil_iff.1 hts).1 (ne_nil_of_declares hd)
      | cons hd' hds' =>
          obtain ⟨rfl, rfl⟩ := declares_unique hd hd' hts
          rw [ih hds']

end Token

/-- **The grammar is unambiguous**: tokens stand for at most one description. -/
theorem Grammar.Derives.unique {d d' : Description} {ts : List Token} (hd : Grammar.Derives d ts)
    (hd' : Grammar.Derives d' ts) : d = d' :=
  congrArg Description.mk (Token.many_declares_unique hd hd')

/-- Tokens that stand for a description are read as that description if it declares nothing
twice. -/
theorem Description.ofTokens_of_derives {d : Description} {ts : List Token}
    (hd : Grammar.Derives d ts) (hdistinct : d.Distinct) : Description.ofTokens ts = .ok d := by
  refine map_eq_ok.2 ⟨d.decls, ?_, rfl⟩
  exact Token.takeDecls_of_decls hd hdistinct.names
    fun x hx => ⟨hdistinct.methods x hx, List.not_mem_nil⟩

theorem Description.derives_of_ofTokens {d : Description} {ts : List Token}
    (h : Description.ofTokens ts = .ok d) : Grammar.Derives d ts ∧ d.Distinct := by
  obtain ⟨ds, hds, rfl⟩ := map_eq_ok.1 h
  obtain ⟨hmany, hnodup, hrest⟩ := Token.decls_of_takeDecls hds
  exact ⟨hmany, hnodup, fun x hx => (hrest x hx).1⟩

/-- **Reading accepts exactly the grammar**: tokens are read as a description exactly if they stand
for it and it declares nothing twice.  There is at most one description that they stand for. -/
theorem Description.ofTokens_eq_ok_iff (ts : List Token) :
    (∀ d, Description.ofTokens ts = .ok d ↔ Grammar.Derives d ts ∧ d.Distinct) ∧
      ∀ d d', Grammar.Derives d ts → Grammar.Derives d' ts → d = d' := by
  refine ⟨fun d => ⟨Description.derives_of_ofTokens, ?_⟩, fun d d' hd hd' => hd.unique hd'⟩
  rintro ⟨hd, hdistinct⟩
  exact Description.ofTokens_of_derives hd hdistinct

/-- An interface with a method that is called like a modifier and has the other one. -/
def modifiedTokens : List Token := [
  ⟨.word "T", 1⟩, ⟨.mark '=', 1⟩, ⟨.word "interface", 1⟩, ⟨.mark '\x7b', 1⟩, ⟨.word "async", 2⟩,
  ⟨.word "static", 2⟩, ⟨.mark '(', 2⟩, ⟨.mark ')', 2⟩, ⟨.mark ';', 2⟩, ⟨.mark '\x7d', 3⟩]

/-- The interface that the tokens stand for. -/
def modified : Interface where
  name := "T"
  languages := []
  methods := [{ name := "static", returns := "void", isAsync := true }]
  line := 1

theorem derives_modified : Grammar.Derives ⟨[.interface modified]⟩ modifiedTokens := by
  have hmethod := Grammar.Member.intro [.async] "static" [] .missing
  have hdeclares : Grammar.Declares (.interface modified) modifiedTokens :=
    ⟨.named "T" 1 (.interface [] (.cons hmethod .nil)), rfl⟩
  exact .cons hdeclares .nil

theorem Description.ofTokens_eq_ok_iff_modified :
    Description.ofTokens modifiedTokens = .ok ⟨[.interface modified]⟩ ∧
      ∀ d, Grammar.Derives d modifiedTokens → d = ⟨[.interface modified]⟩ := by
  obtain ⟨hread, hunique⟩ := Description.ofTokens_eq_ok_iff modifiedTokens
  refine ⟨(hread _).2 ⟨derives_modified, by decide, by decide⟩, ?_⟩
  exact fun d hd => hunique d _ hd derives_modified

end Handover
