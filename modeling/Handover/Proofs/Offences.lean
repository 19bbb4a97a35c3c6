/-
**What keeps a description from having headers.**

Three things in a method cannot be expressed in C: it must not be asynchronous, it must not be a
second destructor, and its types must be known.  The offences of a description are listed here in
the order of the source, without looking at how headers are made.  Making headers fails exactly if
there is an offence, and the first one is blamed.  Nothing else can go wrong: no interface finds
another type in the place of its own, or nothing at all.

Each step of making a header checks its own part, and the parts of a sequence of steps are checked
in order.  So the proof has one rule for sequences, and goes along the steps.

Main definitions:

* `Handover.Offence`, `Handover.Description.offences` — what can be wrong, and all that is wrong;
* `Handover.Description.Expressible` — nothing is wrong;
* `Handover.Blames` — a computation fails with the first of some offences.

Main results:

* `Handover.Blames.bind` — **the rule for sequences**;
* `Handover.Description.blames_headers` — making headers blames the first offence;
* `Handover.Description.headers_iff_expressible` — **headers are made exactly if nothing is wrong**.
-/

import Handover.Proofs.Resolution

set_option autoImplicit false

namespace Handover

/-! ### Offences -/

/-- Something that cannot be expressed in C. -/
inductive Offence where
  | asynchronous (interface method : String)
  /-- The interface has a destructor of its own. -/
  | destructor (interface : String)
  | unknownType (name : String)
deriving DecidableEq, Repr

/-- The failure that tells of an offence. -/
def Offence.failure : Offence → Failure
  | asynchronous interface method =>
    .unsupported .generate ("async method " ++ interface ++ "." ++ method)
  | destructor interface => .invalidInput .generate (interface ++ ".destroy is implicit")
  | unknownType name => .notFound .generate "type" name

/-- The type name, if it is not known. -/
def Description.unknown (d : Description) (name : String) : List Offence :=
  if d.Knows name then [] else [.unknownType name]

/-- What is wrong with a method: its modifier, its name, what it returns, and its arguments. -/
def Method.offences (d : Description) (i : Interface) (m : Method) : List Offence :=
  (if m.isAsync then [.asynchronous i.name m.name] else []) ++
    ((if m.name = "destroy" ∧ m.isStatic = false then [.destructor i.name] else []) ++
      m.types.flatMap d.unknown)

/-- What is wrong with an interface, method by method. -/
def Interface.offences (d : Description) (i : Interface) : List Offence :=
  i.methods.flatMap (Method.offences d i)

/-- What is wrong with the interfaces that should have headers, in order. -/
def Description.offences (d : Description) : List Offence := d.headed.flatMap (Interface.offences d)

/-- A method that can be expressed in C. -/
structure Method.Expressible (d : Description) (m : Method) : Prop where
  synchronous : m.isAsync = false
  noDestructor : m.isStatic = false → m.name ≠ "destroy"
  known : ∀ name ∈ m.types, d.Knows name

/-- Nothing is wrong with the interfaces that should have headers. -/
def Description.Expressible (d : Description) : Prop :=
  ∀ i ∈ d.headed, ∀ m ∈ i.methods, m.Expressible d

theorem Method.offences_eq_nil_iff (d : Description) (i : Interface) (m : Method) :
    m.offences d i = [] ↔ m.Expressible d := by
  have htypes : m.types.flatMap d.unknown = [] ↔ ∀ name ∈ m.types, d.Knows name := by
    simp [List.flatMap_eq_nil_iff, Description.unknown]
  rw [offences, List.append_eq_nil_iff, List.append_eq_nil_iff, htypes]
  constructor
  · rintro ⟨hasync, hdestroy, hknown⟩
    exact ⟨by simpa using hasync, fun hstatic hname => by simp [hstatic, hname] at hdestroy, hknown⟩
  · rintro ⟨hasync, hdestroy, hknown⟩
    refine ⟨by simp [hasync], if_neg ?_, hknown⟩
    rintro ⟨hname, hstatic⟩
    exact hdestroy hstatic hname

theorem Description.offences_eq_nil_iff (d : Description) : d.offences = [] ↔ d.Expressible := by
  simp only [offences, Interface.offences, List.flatMap_eq_nil_iff, Method.offences_eq_nil_iff]
  rfl

/-! ### Blame -/

/-- Why a computation fails, if it does. -/
def failure? {α : Type} : Except Failure α → Option Failure
  | .ok _ => none
  | .error f => some f

/-- The computation fails with the first of the offences, and succeeds if there are none. -/
def Blames {α : Type} (os : List Offence) (x : Except Failure α) : Prop :=
  failure? x = os.head?.map Offence.failure

namespace Blames

variable {α β : Type} {os os' : List Offence} {x : Except Failure α}

theorem ok (a : α) : Blames [] (.ok a) := rfl

theorem error (o : Offence) (os : List Offence) : Blames (α := α) (o :: os) (.error o.failure) := rfl

theorem eq_nil_of_ok {a : α} (h : Blames os (.ok a)) : os = [] := by
  cases os with
  | nil => rfl
  | cons o os => cases h

/-- **The rule for sequences**: what the first step blames comes before what the second blames. -/
theorem bind (hx : Blames os x) {f : α → Except Failure β}
    (hf : ∀ a, x = .ok a → Blames os' (f a)) : Blames (os ++ os') (x >>= f) := by
  cases x with
  | ok a =>
      rw [hx.eq_nil_of_ok]
      exact hf a rfl
  | error e =>
      cases os with
      | nil => cases hx
      | cons o os => exact hx

theorem map (hx : Blames os x) (f : α → β) : Blames os (x.map f) := by
  cases x with
  | ok a => exact hx
  | error e => exact hx

/-- What the members of a list blame comes in the order of the members. -/
theorem mapM {l : List α} {f : α → Except Failure β} {blamed : α → List Offence}
    (h : ∀ a ∈ l, Blames (blamed a) (f a)) : Blames (l.flatMap blamed) (l.mapM f) := by
  induction l with
  | nil => exact .ok []
  | cons a l ih =>
      obtain ⟨ha, hl⟩ := List.forall_mem_cons.1 h
      rw [List.flatMap_cons, List.mapM_cons]
      refine ha.bind fun b _ => ?_
      have hrest := (ih hl).bind fun bs _ => Blames.ok (b :: bs)
      rwa [List.append_nil] at hrest

theorem exists_ok_iff (hx : Blames os x) : (∃ a, x = .ok a) ↔ os = [] := by
  constructor
  · rintro ⟨a, rfl⟩
    exact hx.eq_nil_of_ok
  · rintro rfl
    cases x with
    | ok a => exact ⟨a, rfl⟩
    | error e => cases hx

theorem exists_of_error {e : Failure} (hx : Blames os (.error e : Except Failure α)) :
    ∃ o, os.head? = some o ∧ e = o.failure := by
  obtain ⟨o, ho, he⟩ := Option.map_eq_some_iff.1 hx.symm
  exact ⟨o, ho, he.symm⟩

end Blames

/-! ### The steps of making a header -/

namespace Scope

variable {d : Description}

theorem blames_resolve (hd : d.Distinct) (name : String) :
    Blames (d.unknown name) ((ofDescription d).resolve name) := by
  by_cases hname : d.Knows name
  · obtain ⟨t, ht⟩ := Description.exists_means_iff.2 hname
    rw [Description.unknown, if_pos hname, resolve_of_means hd ht]
    exact .ok t
  · rw [Description.unknown, if_neg hname, resolve_of_not_knows hname]
    exact .error _ _

theorem blames_params (hd : d.Distinct) (ps : List Param) :
    Blames ((ps.map Param.type).flatMap d.unknown) ((ofDescription d).params ps) := by
  rw [List.flatMap_map]
  refine Blames.mapM fun p _ => ?_
  have hresolve := (blames_resolve hd p.type).bind fun t _ => Blames.ok (⟨p.name, t⟩ : CParam)
  rwa [List.append_nil] at hresolve

theorem blames_method (hd : d.Distinct) (i : Interface) (self : CParam) (m : Method) :
    Blames (m.offences d i) ((ofDescription d).method i self m) := by
  rw [method_eq, Method.offences]
  by_cases hasync : m.isAsync = true
  · rw [if_pos hasync, if_pos hasync]
    exact .error _ _
  rw [if_neg hasync, if_neg hasync, List.nil_append]
  by_cases hdestroy : m.name = "destroy" ∧ m.isStatic = false
  · rw [if_pos hdestroy, if_pos hdestroy]
    exact .error _ _
  rw [if_neg hdestroy, if_neg hdestroy, List.nil_append, Method.types, List.flatMap_cons]
  refine (blames_resolve hd m.returns).bind fun returns _ => ?_
  have hparams := (blames_params hd m.params).bind fun explicit _ =>
    Blames.ok (made i self m returns explicit)
  rwa [List.append_nil] at hparams

/-- The methods up to the first that is blamed. -/
theorem methods_failure (hd : d.Distinct) (i : Interface) (self : CParam) (ms : List Method) :
    ((ofDescription d).methods i self ms).2.2 =
      (ms.flatMap (Method.offences d i)).head?.map Offence.failure := by
  induction ms with
  | nil => rfl
  | cons m ms ih =>
      have hm := blames_method hd i self m
      rw [methods, List.flatMap_cons]
      cases hmethod : (ofDescription d).method i self m with
      | error e =>
          rw [hmethod] at hm
          obtain ⟨o, ho, rfl⟩ := hm.exists_of_error
          rw [List.head?_append, ho]
          rfl
      | ok x =>
          rw [hmethod] at hm
          rw [hm.eq_nil_of_ok]
          exact ih

/-- The class of an interface of the description. -/
theorem blames_specify (hd : d.Distinct) {i : Interface} (hi : i ∈ d.interfaces) :
    Blames (i.offences d) ((ofDescription d).specify i).1 := by
  have hms := methods_failure hd i (self { name := CType.declaredName i.name }) i.methods
  rw [specify, find?_interface hd hi, Blames, Interface.offences, ← hms]
  simp only
  split <;> rename_i h <;> rw [h] <;> rfl

end Scope

/-- Making headers blames the first offence. -/
theorem Description.blames_headers {d : Description} (hd : d.Distinct) :
    Blames d.offences d.headers := by
  rw [headers, Scope.headersFrom_eq_mapM]
  refine (Blames.mapM fun i hi => ?_).map _
  exact Scope.blames_specify hd (List.mem_filter.1 hi).1

/-! ### What is blamed -/

namespace Text

/-- The characters of words stand for themselves between quotes. -/
theorem escapeChar_of_isWordPart {c : Char} (hc : isWordPart c = true) :
    escapeChar .all '"' c = String.singleton c := by
  have hrange := toNat_of_isWordPart hc
  have hprintable : isPrintable c = true := by
    refine List.any_eq_true.2 ⟨(32, 126), List.mem_cons_self, ?_⟩
    simp only [Bool.and_eq_true, decide_eq_true_eq]
    omega
  have hquote : c ≠ '"' := by
    rintro rfl
    revert hrange
    decide
  have hbackslash : c ≠ '\\' := by
    rintro rfl
    revert hrange
    decide
  simp [escapeChar, Repertoire.shows, hprintable, hquote, hbackslash]

theorem quote_of_isName {name : String} (hname : isName name = true) :
    quote name = "\"" ++ name ++ "\"" := by
  obtain ⟨c, cs, hchars, hc, hcs⟩ := (isName_iff name).1 hname
  have hparts : ∀ x ∈ name.toList, escapeChar .all '"' x = String.singleton x := by
    rw [hchars]
    intro x hx
    rcases List.mem_cons.1 hx with rfl | hx
    · exact escapeChar_of_isWordPart (isWordPart_of_isWordStart hc)
    · exact escapeChar_of_isWordPart (hcs x hx)
  have hjoin : String.join (name.toList.map String.singleton) = name := by
    rw [← String.toList_inj, String.toList_join, List.flatMap_map]
    simp
  rw [quote, quoteIn, List.map_congr_left hparts, hjoin]

end Text

/-- A type that is blamed stands in a method, and is not known. -/
theorem Description.of_unknownType_mem {d : Description} {name : String}
    (h : .unknownType name ∈ d.offences) :
    ¬ d.Knows name ∧ ∃ i ∈ d.interfaces, ∃ m ∈ i.methods, name ∈ m.types := by
  obtain ⟨i, hi, h⟩ := List.mem_flatMap.1 h
  obtain ⟨m, hm, h⟩ := List.mem_flatMap.1 h
  have htypes : .unknownType name ∈ m.types.flatMap d.unknown := by
    rcases List.mem_append.1 h with hasync | h
    · split at hasync <;> simp at hasync
    rcases List.mem_append.1 h with hdestroy | h
    · split at hdestroy <;> simp at hdestroy
    · exact h
  obtain ⟨type, htype, h⟩ := List.mem_flatMap.1 htypes
  rw [Description.unknown] at h
  split at h
  · cases h
  · rename_i hunknown
    obtain rfl : name = type := by simpa using h
    exact ⟨hunknown, i, (List.mem_filter.1 hi).1, m, hm, htype⟩

/-- The type names of a method are among its names. -/
theorem Method.mem_names_of_mem_types {m : Method} {name : String} (h : name ∈ m.types) :
    name ∈ m.names := by
  rcases List.mem_cons.1 h with rfl | h
  · simp [Method.names]
  · obtain ⟨p, hp, rfl⟩ := List.mem_map.1 h
    simp only [Method.names, List.mem_cons, List.mem_flatMap]
    exact .inr (.inr ⟨p, hp, by simp⟩)

theorem Description.WellNamed.types {d : Description} (h : d.WellNamed) {i : Interface}
    (hi : i ∈ d.interfaces) {m : Method} (hm : m ∈ i.methods) {name : String}
    (hname : name ∈ m.types) : isName name = true := by
  refine h _ (Description.interface_mem_decls hi) name ?_
  simp only [Decl.names, List.mem_cons, List.mem_append, List.mem_flatMap]
  exact .inr (.inr ⟨m, hm, Method.mem_names_of_mem_types hname⟩)

/-- Different names are not found in different words. -/
theorem Failure.notFound_inj {phase : Phase} {what name name' : String} (hname : isName name = true)
    (hname' : isName name' = true)
    (h : Failure.notFound phase what name = .notFound phase what name') : name = name' := by
  have hdetail := congrArg Report.detail (Failure.report.inj h)
  simp only at hdetail
  rw [Text.quote_of_isName hname, Text.quote_of_isName hname', String.append_left_inj,
    String.append_right_inj, String.append_left_inj, String.append_right_inj] at hdetail
  exact hdetail

/-- The kind of failure that tells of an offence. -/
def Offence.kind : Offence → Kind
  | asynchronous _ _ => .unsupported
  | destructor _ => .invalidInput
  | unknownType _ => .notFound

theorem Offence.phase_failure (o : Offence) :
    o.failure.head?.map Report.phase = some .generate := by
  cases o <;> rfl

theorem Offence.kind_failure (o : Offence) : o.failure.head?.map Report.kind = some o.kind := by
  cases o <;> rfl

theorem Offence.kind_ne_typeMismatch (o : Offence) : o.kind ≠ .typeMismatch := by
  cases o <;> simp [kind, Kind.unsupported, Kind.invalidInput, Kind.notFound, Kind.typeMismatch]

/-- No interface fails to find itself. -/
theorem Description.failure_ne_notFound {d : Description} (hnamed : d.WellNamed) {o : Offence}
    (ho : o ∈ d.offences) {i : Interface} (hi : i ∈ d.interfaces) :
    o.failure ≠ .notFound .generate "type" i.name := by
  intro h
  have hkind : o.kind = .notFound := by
    have hfailure := o.kind_failure
    rw [h] at hfailure
    exact (Option.some.inj hfailure).symm
  cases o with
  | asynchronous interface method => simp [Offence.kind, Kind.unsupported, Kind.notFound] at hkind
  | destructor interface => simp [Offence.kind, Kind.invalidInput, Kind.notFound] at hkind
  | unknownType name =>
      obtain ⟨hunknown, j, hj, m, hm, hname⟩ := of_unknownType_mem ho
      have hwords := hnamed.types hj hm hname
      obtain rfl := Failure.notFound_inj hwords (hnamed.interface hi).1 h
      exact hunknown (.inl (name_mem_typeNames hi))

/-- The headers are those of the classes of the interfaces that target C, in order, and each class
has the names of its interface. -/
theorem Description.names_of_headers {source : String} {d : Description} {files : List HeaderFile}
    (hd : Description.parse source = .ok d) (hfiles : d.headers = .ok files) :
    ∃ classes : List CClass, files = classes.map CClass.file ∧
      List.Forall₂ (fun i c => i ∈ d.interfaces ∧ ((Scope.ofDescription d).specify i).1 = .ok c ∧
        ∃ table, c.Names i table) d.headed classes := by
  have hnamed := Description.wellNamed_of_parse hd
  obtain ⟨classes, rfl, hclasses⟩ := Scope.forall₂_of_headersFrom hfiles
  have hmem : ∀ i ∈ d.headed, i ∈ d.interfaces := fun i hi => (List.mem_filter.1 hi).1
  refine ⟨classes, rfl, ((List.forall₂_and_left _ _).2 ⟨hmem, hclasses⟩).imp ?_⟩
  rintro i c ⟨hi, hc⟩
  obtain ⟨hname, hmethods⟩ := hnamed.interface hi
  exact ⟨hi, hc, Scope.names_of_specify (Scope.spelled_ofDescription d) hname hmethods hc⟩

/-- **Headers are made exactly if nothing is wrong.**  For a description that was read from a source
there are headers exactly if in every interface that targets C no method is asynchronous, no member
is called like the destructor, and all types are known.  Then there is one header for each of these
interfaces, in order: its class has a function for the destructor and for each method, and a slot
for the destructor and for each member.  Otherwise the first offence is told; it is never that a
type is not a class, and never that an interface is not found. -/
theorem Description.headers_iff_expressible (source : String) (d : Description)
    (hd : Description.parse source = .ok d) :
    ((∃ files, d.headers = .ok files) ↔ d.Expressible) ∧
      (∀ files, d.headers = .ok files → ∃ classes : List CClass, files = classes.map CClass.file ∧
        List.Forall₂ (fun i c => ∃ table, c.Names i table) d.headed classes) ∧
      ∀ f, d.headers = .error f → ∃ o, d.offences.head? = some o ∧ f = o.failure ∧
        f.head?.map Report.phase = some .generate ∧
        f.head?.map Report.kind ≠ some .typeMismatch ∧
        ∀ i ∈ d.interfaces, f ≠ .notFound .generate "type" i.name := by
  have hblames := Description.blames_headers (Description.distinct_of_parse hd)
  refine ⟨?_, ?_, ?_⟩
  · rw [hblames.exists_ok_iff, Description.offences_eq_nil_iff]
  · intro files hfiles
    obtain ⟨classes, hclasses, hnames⟩ := Description.names_of_headers hd hfiles
    exact ⟨classes, hclasses, hnames.imp fun i c hc => hc.2.2⟩
  · intro f hf
    rw [hf] at hblames
    obtain ⟨o, ho, rfl⟩ := hblames.exists_of_error
    have hmem : o ∈ d.offences := List.mem_of_mem_head? ho
    refine ⟨o, ho, rfl, o.phase_failure, ?_, fun i hi =>
      Description.failure_ne_notFound (Description.wellNamed_of_parse hd) hmem hi⟩
    rw [o.kind_failure]
    exact fun h => o.kind_ne_typeMismatch (Option.some.inj h)

/-- An interface that refers to itself and ahead, one that has no header, and one with four
offences. -/
def tangledSource : String :=
  "A = interface +c \x7b static make(): B; join(a: A, k: E): A; \x7d " ++
    "Q = interface +py \x7b async f(q: Missing); \x7d " ++
    "B = interface +c \x7b keep(): u8; async go(x: Missing); destroy(): Lost; \x7d " ++
    "E = enum \x7b x; \x7d"

/-- The description in the source. -/
def tangled : Description where
  decls := [
    .interface {
      name := "A", languages := ["c"], line := 1
      methods := [
        { name := "make", returns := "B", isStatic := true },
        { name := "join", returns := "A", params := [⟨"a", "A"⟩, ⟨"k", "E"⟩] }] },
    .interface {
      name := "Q", languages := ["py"], line := 1
      methods := [
        { name := "f", returns := "void", params := [⟨"q", "Missing"⟩], isAsync := true }] },
    .interface {
      name := "B", languages := ["c"], line := 1
      methods := [
        { name := "keep", returns := "u8" },
        { name := "go", returns := "void", params := [⟨"x", "Missing"⟩], isAsync := true },
        { name := "destroy", returns := "Lost" }] },
    .enumeration { name := "E", values := ["x"], line := 1 }]

theorem Description.headers_iff_expressible_tangled :
    Description.parse tangledSource = .ok tangled ∧ ¬ tangled.Expressible ∧
      tangled.headers = .error (Offence.asynchronous "B" "go").failure := by
  have hd : Description.parse tangledSource = .ok tangled := by decide +kernel
  have hoffences : tangled.offences = [.asynchronous "B" "go", .unknownType "Missing",
      .destructor "B", .unknownType "Lost"] := by decide +kernel
  have hnot : ¬ tangled.Expressible := by
    rw [← Description.offences_eq_nil_iff, hoffences]
    exact List.cons_ne_nil _ _
  obtain ⟨hiff, -, herror⟩ := Description.headers_iff_expressible tangledSource tangled hd
  refine ⟨hd, hnot, ?_⟩
  cases hheaders : tangled.headers with
  | ok files => exact absurd (hiff.1 ⟨files, hheaders⟩) hnot
  | error f =>
      obtain ⟨o, ho, rfl, -⟩ := herror f hheaders
      rw [hoffences] at ho
      obtain rfl := Option.some.inj ho
      rfl

end Handover
