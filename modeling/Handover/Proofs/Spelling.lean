/-
**Descriptions written out.**

A description can be written down, as soon as its names are names: each declaration has tokens by
the rules of the grammar, and the tokens have layouts.  There is always a choice.  Modifiers come in
any order, `void` may be left out, and the gaps are free.  Whatever is chosen, the source is read
back as the description it was written from, and only the lines are new.

So the tokens of a layout are followed from the rules to the reader.  All of them can be written, so
the scanner finds them again, on some lines.  Those lines are put into the description, which then
derives the tokens as they were scanned.

Main definitions:

* `Handover.Description.WellNamed` — all names are names;
* `Handover.Grammar.Spells` — the shapes of a description, by the rules of the grammar;
* `Handover.Description.shapes` — one way to write a description;
* `Handover.Description.unlined` — a description without its lines.

Main results:

* `Handover.Grammar.Spells.legible` — the tokens of a description can be written;
* `Handover.Grammar.Spells.exists_derives` — tokens of its shapes derive a description, up to lines;
* `Handover.Description.parse_source` — **what is written is read back**.
-/

import Handover.Proofs.Declarations
import Handover.Proofs.Layout

set_option autoImplicit false

namespace Handover

open Grammar

/-! ### Names -/

/-- The names and types in a method. -/
def Method.names (m : Method) : List String :=
  m.name :: m.returns :: m.params.flatMap fun p => [p.name, p.type]

/-- The names and types in a declaration. -/
def Decl.names : Decl → List String
  | interface i => i.name :: (i.languages ++ i.methods.flatMap Method.names)
  | enumeration e => e.name :: e.values
  | setting s => [s.name]

/-- All names are words of letters, digits and underscores. -/
def Description.WellNamed (d : Description) : Prop :=
  ∀ x ∈ d.decls, ∀ w ∈ x.names, isName w = true

instance (d : Description) : Decidable d.WellNamed :=
  inferInstanceAs (Decidable (∀ x ∈ d.decls, ∀ w ∈ x.names, isName w = true))

namespace Grammar

/-- The shapes of a description. -/
def Spells (d : Description) (σ : List Shape) : Prop := Many Declaration d.decls σ

/-! ### The tokens of a description can be written -/

/-- What holds of the symbols of each occurrence holds of all symbols. -/
theorem Many.forall_mem {α β : Type} {P : α → List β → Prop} {Q : β → Prop} {as : List α}
    {us : List β} (h : Many P as us) (hP : ∀ a ∈ as, ∀ vs, P a vs → ∀ b ∈ vs, Q b) :
    ∀ b ∈ us, Q b := by
  induction h with
  | nil => simp
  | @cons a as us vs ha _ ih =>
      intro b hb
      rcases List.mem_append.1 hb with hb | hb
      · exact hP a List.mem_cons_self us ha b hb
      · exact ih (fun a' ha' => hP a' (List.mem_cons_of_mem _ ha')) b hb

theorem legible_modifiers (ks : List Modifier) : ∀ s ∈ modifiers ks, s.Legible := by
  intro s hs
  obtain ⟨k, _, rfl⟩ := List.mem_map.1 hs
  cases k <;> (show isName _ = true) <;> decide

theorem legible_param {p : Param} (hp : ∀ w ∈ [p.name, p.type], isName w = true) :
    ∀ s ∈ param p, s.Legible := by
  simp only [param, List.forall_mem_cons] at *
  exact ⟨hp.1, rfl, hp.2.1, by simp⟩

theorem legible_params {ps : List Param}
    (hps : ∀ w ∈ ps.flatMap fun p => [p.name, p.type], isName w = true) :
    ∀ s ∈ params ps, s.Legible := by
  have hparam : ∀ p ∈ ps, ∀ s ∈ param p, s.Legible := by
    intro p hp
    exact legible_param fun w hw => hps w (List.mem_flatMap.2 ⟨p, hp, hw⟩)
  cases ps with
  | nil => simp [params]
  | cons p ps =>
      intro s hs
      rcases List.mem_append.1 hs with hs | hs
      · exact hparam p List.mem_cons_self s hs
      · obtain ⟨q, hq, hs⟩ := List.mem_flatMap.1 hs
        rcases List.mem_cons.1 hs with rfl | hs
        · rfl
        · exact hparam q (List.mem_cons_of_mem _ hq) s hs

theorem Returns.legible {type : String} {ret : List Shape} (hret : Returns type ret)
    (htype : isName type = true) : ∀ s ∈ ret, s.Legible := by
  cases hret with
  | missing => simp
  | given =>
      simp only [List.forall_mem_cons]
      exact ⟨rfl, htype, by simp⟩

theorem Member.legible {m : Method} {σ : List Shape} (hm : Member m σ)
    (hnames : ∀ w ∈ m.names, isName w = true) : ∀ s ∈ σ, s.Legible := by
  cases hm with
  | intro ks name ps hret =>
      simp only [Method.names, List.forall_mem_cons] at hnames
      obtain ⟨hname, htype, hps⟩ := hnames
      simp only [List.forall_mem_append, List.forall_mem_cons]
      exact ⟨⟨⟨⟨⟨legible_modifiers ks, hname, rfl, by simp⟩, legible_params hps⟩, rfl, by simp⟩,
        hret.legible htype⟩, rfl, by simp⟩

theorem legible_languages {ls : List String} (hls : ∀ l ∈ ls, isName l = true) :
    ∀ s ∈ languages ls, s.Legible := by
  intro s hs
  obtain ⟨l, hl, hs⟩ := List.mem_flatMap.1 hs
  rcases (by simpa using hs : s = .mark '+' ∨ s = .word l) with rfl | rfl
  · rfl
  · exact hls l hl

theorem legible_values {vs : List String} (hvs : ∀ v ∈ vs, isName v = true) :
    ∀ s ∈ values vs, s.Legible := by
  intro s hs
  obtain ⟨v, hv, hs⟩ := List.mem_flatMap.1 hs
  rcases (by simpa using hs : s = .word v ∨ s = .mark ';') with rfl | rfl
  · exact hvs v hv
  · rfl

theorem Body.legible {name : String} {line : Nat} {d : Decl} {σ : List Shape}
    (hd : Body name line d σ) (hnames : ∀ w ∈ d.names, isName w = true) :
    ∀ s ∈ σ, s.Legible := by
  cases hd with
  | interface ls hms =>
      simp only [Decl.names, List.forall_mem_cons, List.forall_mem_append] at hnames
      obtain ⟨_, hls, hmethods⟩ := hnames
      have hbody := hms.forall_mem fun m hm vs hvs =>
        hvs.legible fun w hw => hmethods w (List.mem_flatMap.2 ⟨m, hm, hw⟩)
      have hkeyword : isName "interface" = true := by decide
      simp only [List.forall_mem_append, List.forall_mem_cons]
      exact ⟨⟨⟨⟨⟨hkeyword, by simp⟩, legible_languages hls⟩, rfl, by simp⟩, hbody⟩, rfl, by simp⟩
  | enumeration vs =>
      simp only [Decl.names, List.forall_mem_cons] at hnames
      have hkeyword : isName "enum" = true := by decide
      simp only [List.forall_mem_append, List.forall_mem_cons]
      exact ⟨⟨⟨hkeyword, rfl, by simp⟩, legible_values hnames.2⟩, rfl, by simp⟩
  | setting value =>
      simp only [List.forall_mem_cons]
      exact ⟨trivial, by simp⟩

theorem Declaration.legible {d : Decl} {σ : List Shape} (hd : Declaration d σ)
    (hnames : ∀ w ∈ d.names, isName w = true) : ∀ s ∈ σ, s.Legible := by
  cases hd with
  | named name line hbody =>
      have hname : isName name = true := by
        refine hnames name ?_
        cases hbody <;> simp [Decl.names]
      simp only [List.forall_mem_append, List.forall_mem_cons]
      exact ⟨⟨hname, rfl, by simp⟩, hbody.legible hnames⟩
  | legacy name value line =>
      simp only [Decl.names, List.forall_mem_cons] at hnames
      simp only [List.forall_mem_cons]
      exact ⟨rfl, hnames.1, rfl, trivial, rfl, by simp⟩

/-- The tokens of a description can be written. -/
theorem Spells.legible {d : Description} {σ : List Shape} (hd : Spells d σ) (named : d.WellNamed) :
    ∀ s ∈ σ, s.Legible :=
  hd.forall_mem fun x hx _ hspelled => hspelled.legible (named x hx)

/-! ### Every description can be written -/

theorem Many.flatMap {α β : Type} {P : α → List β → Prop} {f : α → List β}
    (hf : ∀ a, P a (f a)) (as : List α) : Many P as (as.flatMap f) := by
  induction as with
  | nil => exact .nil
  | cons a as ih =>
      rw [List.flatMap_cons]
      exact .cons (hf a) ih

end Grammar

/-- One way to write a method: each modifier once, and the type given. -/
def Method.shapes (m : Method) : List Shape :=
  modifiers ((if m.isStatic then [.static] else []) ++ (if m.isAsync then [.async] else []))
    ++ [.word m.name, .mark '('] ++ Grammar.params m.params ++ [.mark ')']
    ++ [.mark ':', .word m.returns] ++ [.mark ';']

theorem Method.member_shapes (m : Method) : Member m m.shapes := by
  obtain ⟨name, type, ps, isStatic, isAsync⟩ := m
  have hm := fun ks => Member.intro ks name ps (.given type)
  cases isStatic <;> cases isAsync
  · exact hm []
  · exact hm [.async]
  · exact hm [.static]
  · exact hm [.static, .async]

/-- One way to write a declaration. -/
def Decl.shapes : Decl → List Shape
  | interface i =>
    [.word i.name, .mark '='] ++ ([.word "interface"] ++ languages i.languages ++ [.mark '\x7b']
      ++ i.methods.flatMap Method.shapes ++ [.mark '\x7d'])
  | enumeration e =>
    [.word e.name, .mark '='] ++ ([.word "enum", .mark '\x7b'] ++ values e.values ++ [.mark '\x7d'])
  | setting s =>
    if s.isLegacy then [.mark '#', .word s.name, .mark '=', .text s.value, .mark '#']
    else [.word s.name, .mark '='] ++ [.text s.value]

theorem Decl.declaration_shapes (d : Decl) : Declaration d d.shapes := by
  cases d with
  | interface i =>
      exact .named i.name i.line (.interface i.languages (Many.flatMap Method.member_shapes _))
  | enumeration e => exact .named e.name e.line (.enumeration e.values)
  | setting s =>
      obtain ⟨name, value, isLegacy, line⟩ := s
      cases isLegacy
      · exact .named name line (.setting value)
      · exact .legacy name value line

/-- One way to write a description. -/
def Description.shapes (d : Description) : List Shape := d.decls.flatMap Decl.shapes

theorem Description.spells_shapes (d : Description) : Spells d d.shapes :=
  Many.flatMap Decl.declaration_shapes d.decls

/-! ### Lines -/

/-- The declaration, moved to another line. -/
def Decl.atLine (line : Nat) : Decl → Decl
  | interface i => .interface { i with line }
  | enumeration e => .enumeration { e with line }
  | setting s => .setting { s with line }

@[simp] theorem Decl.line_atLine (line : Nat) (d : Decl) : (d.atLine line).line = line := by
  cases d <;> rfl

@[simp] theorem Decl.name_atLine (line : Nat) (d : Decl) : (d.atLine line).name = d.name := by
  cases d <;> rfl

@[simp] theorem Decl.atLine_atLine (line line' : Nat) (d : Decl) :
    (d.atLine line).atLine line' = d.atLine line' := by
  cases d <;> rfl

@[simp] theorem Decl.methodsDistinct_atLine (line : Nat) (d : Decl) :
    (d.atLine line).MethodsDistinct ↔ d.MethodsDistinct := by
  cases d <;> simp [Decl.MethodsDistinct, Decl.atLine, Decl.interface?]

/-- The description without its lines. -/
def Description.unlined (d : Description) : Description := ⟨d.decls.map (Decl.atLine 0)⟩

/-- Lines do not matter to what is declared twice. -/
theorem Description.distinct_unlined (d : Description) : d.unlined.Distinct ↔ d.Distinct := by
  have hnames : d.unlined.decls.map Decl.name = d.decls.map Decl.name := by
    simp [Description.unlined, Function.comp_def]
  constructor
  · rintro ⟨names, methods⟩
    refine ⟨hnames ▸ names, fun x hx => ?_⟩
    exact (Decl.methodsDistinct_atLine 0 x).1 (methods _ (List.mem_map_of_mem hx))
  · rintro ⟨names, methods⟩
    refine ⟨hnames ▸ names, fun x hx => ?_⟩
    obtain ⟨y, hy, rfl⟩ := List.mem_map.1 hx
    exact (Decl.methodsDistinct_atLine 0 y).2 (methods y hy)

namespace Grammar

theorem Declaration.atLine {d : Decl} {σ : List Shape} (hd : Declaration d σ) (line : Nat) :
    Declaration (d.atLine line) σ := by
  cases hd with
  | named name line₀ hbody =>
      cases hbody with
      | interface ls hms => exact .named name line (.interface ls hms)
      | enumeration vs => exact .named name line (.enumeration vs)
      | setting value => exact .named name line (.setting value)
  | legacy name value line₀ => exact .legacy name value line

/-- Tokens that spell a declaration have a word among them, so the declaration has a line. -/
theorem Declaration.exists_nameLine {d : Decl} {ts : List Token}
    (hd : Declaration d (ts.map Token.shape)) : ∃ line, nameLine? ts = some line := by
  have hword : ∃ t ∈ ts, t.shape.isWord = true := by
    have : ∃ s ∈ ts.map Token.shape, s.isWord = true := by
      generalize ts.map Token.shape = σ at hd
      cases hd with
      | named name line hbody => exact ⟨.word name, by simp, rfl⟩
      | legacy name value line => exact ⟨.word name, by simp, rfl⟩
    simpa using this
  obtain ⟨t, ht⟩ := Option.isSome_iff_exists.1 (List.find?_isSome.2 hword)
  exact ⟨t.line, by rw [nameLine?, ht, Option.map_some]⟩

/-- Tokens of the shapes of a description derive it, up to the lines. -/
theorem Spells.exists_derives {d : Description} {ts : List Token}
    (hd : Spells d (ts.map Token.shape)) : ∃ d', Derives d' ts ∧ d'.unlined = d.unlined := by
  obtain ⟨ds⟩ := d
  generalize hσ : ts.map Token.shape = σ at hd
  simp only [Spells] at hd
  induction hd generalizing ts with
  | nil =>
      obtain rfl := List.map_eq_nil_iff.1 hσ
      exact ⟨⟨[]⟩, .nil, rfl⟩
  | @cons x xs us vs hx _ ih =>
      -- the tokens of the first declaration have a line for it
      obtain ⟨ts₁, ts₂, rfl, rfl, hts₂⟩ := List.map_eq_append_iff.1 hσ
      obtain ⟨line, hline⟩ := hx.exists_nameLine
      obtain ⟨⟨ds'⟩, hds', hunlined⟩ := ih hts₂
      refine ⟨⟨x.atLine line :: ds'⟩, .cons ⟨hx.atLine line, ?_⟩ hds', ?_⟩
      · rw [hline, Decl.line_atLine]
      · simp only [Description.unlined, Description.mk.injEq] at hunlined ⊢
        rw [List.map_cons, List.map_cons, Decl.atLine_atLine, hunlined]

end Grammar

/-! ### Reading back -/

/-- **What is written is read back**: however a description of names is written, in which nothing is
declared twice, it is read back up to its lines. -/
theorem Description.parse_source {d : Description} (named : d.WellNamed) (distinct : d.Distinct)
    {l : Layout} (hl : Spells d l.shapes) :
    ∃ d', Description.parse l.source = .ok d' ∧ d'.unlined = d.unlined := by
  obtain ⟨ts, hscan, hshapes⟩ := l.scan_source (hl.legible named)
  rw [← hshapes] at hl
  obtain ⟨d', hd', hunlined⟩ := hl.exists_derives
  have hdistinct : d'.Distinct := by
    rw [← Description.distinct_unlined, hunlined, Description.distinct_unlined]
    exact distinct
  refine ⟨d', ?_, hunlined⟩
  rw [Description.parse, hscan]
  exact Description.ofTokens_of_derives hd' hdistinct

end Handover
