/-
**What the type names of a description stand for.**

The header looks a type name up in a scope.  The scope is filled one declaration after the other, a
later one hides an earlier one of the same name, and all of them hide the primitives.  A description
that was read from a source declares no name twice.  So in its scope a name stands for the
declaration that bears it, wherever that stands, or else for a primitive; and a name that is neither
is not found.

Main definitions:

* `Handover.Description.typeNames` — the names of the types that a description declares;
* `Handover.Description.Means` — the C type that a name stands for;
* `Handover.Description.Knows` — the names that stand for something.

Main results:

* `Handover.Description.distinct_of_parse` — a source declares no name twice;
* `Handover.Scope.resolve_eq_ok_iff` — **a scope resolves names to what they stand for**;
* `Handover.Scope.resolve_of_not_knows` — other names are not found;
* `Handover.Scope.forall₂_of_methods` — the types of the functions and of the slots of a class.
-/

import Handover.Proofs.HeaderNames

set_option autoImplicit false

namespace Handover

/-! ### Type names -/

/-- The name of the type that a declaration introduces, if it introduces one. -/
def Decl.typeName? : Decl → Option String
  | interface i => some i.name
  | enumeration e => some e.name
  | setting _ => none

/-- The type names in a method: of what it returns, then of its arguments. -/
def Method.types (m : Method) : List String := m.returns :: m.params.map Param.type

theorem isPrimitive_iff (name : String) : isPrimitive name ↔ ∃ p : Primitive, p.name = name := by
  rw [isPrimitive, Primitive.ofName?, List.find?_isSome]
  constructor
  · rintro ⟨p, -, hp⟩
    exact ⟨p, by simpa using hp⟩
  · rintro ⟨p, rfl⟩
    exact ⟨p, by cases p <;> decide, by simp⟩

namespace Description

/-- The names of the types that a description declares, in order. -/
def typeNames (d : Description) : List String := d.decls.filterMap Decl.typeName?

/-- The C type that a name stands for: that of the declaration which bears the name, or else that of
a primitive. -/
inductive Means (d : Description) : String → CType → Prop
  | object {i : Interface} (hi : .interface i ∈ d.decls) :
      Means d i.name (.object (CType.declaredName i.name))
  | enumeration {e : Enumeration} (he : .enumeration e ∈ d.decls) :
      Means d e.name (.enumeration (CType.declaredName e.name) e.values)
  | primitive {p : Primitive} (hp : p.name ∉ d.typeNames) : Means d p.name (.primitive p.name)

/-- A name that is declared as a type, or built in. -/
def Knows (d : Description) (name : String) : Prop :=
  name ∈ d.typeNames ∨ ∃ p : Primitive, p.name = name

instance (d : Description) (name : String) : Decidable (d.Knows name) :=
  decidable_of_iff (name ∈ d.typeNames ∨ isPrimitive name) (by rw [isPrimitive_iff]; rfl)

variable {d : Description} {name : String}

theorem mem_typeNames_iff : name ∈ d.typeNames ↔ ∃ x ∈ d.decls, x.typeName? = some name :=
  List.mem_filterMap

theorem interface_mem_decls {i : Interface} (hi : i ∈ d.interfaces) : .interface i ∈ d.decls := by
  obtain ⟨x, hx, hxi⟩ := List.mem_filterMap.1 hi
  cases x with
  | interface j =>
      obtain rfl : j = i := Option.some.inj hxi
      exact hx
  | enumeration e => cases hxi
  | setting s => cases hxi

theorem name_mem_typeNames {i : Interface} (hi : i ∈ d.interfaces) : i.name ∈ d.typeNames :=
  mem_typeNames_iff.2 ⟨_, interface_mem_decls hi, rfl⟩

/-- A declared type has the C name of its declaration. -/
theorem exists_means_of_mem (hname : name ∈ d.typeNames) : ∃ t, d.Means name t := by
  obtain ⟨x, hx, hxname⟩ := mem_typeNames_iff.1 hname
  cases x with
  | interface i =>
      obtain rfl := Option.some.inj hxname
      exact ⟨_, .object hx⟩
  | enumeration e =>
      obtain rfl := Option.some.inj hxname
      exact ⟨_, .enumeration hx⟩
  | setting s => cases hxname

theorem exists_means_iff : (∃ t, d.Means name t) ↔ d.Knows name := by
  constructor
  · rintro ⟨t, ht⟩
    cases ht with
    | object hi => exact .inl (mem_typeNames_iff.2 ⟨_, hi, rfl⟩)
    | enumeration he => exact .inl (mem_typeNames_iff.2 ⟨_, he, rfl⟩)
    | primitive hp => exact .inr ⟨_, rfl⟩
  · intro hknows
    by_cases hname : name ∈ d.typeNames
    · exact exists_means_of_mem hname
    · obtain ⟨p, rfl⟩ := hknows.resolve_left hname
      exact ⟨_, .primitive hname⟩

/-- A source declares no name twice. -/
theorem distinct_of_parse {source : String} (h : Description.parse source = .ok d) :
    d.Distinct := by
  obtain ⟨ts, -, hparse⟩ := bind_eq_ok.1 h
  exact (derives_of_ofTokens hparse).2

theorem Distinct.typeNames (hd : d.Distinct) : d.typeNames.Nodup := by
  refine hd.names.sublist ?_
  rw [Description.typeNames]
  induction d.decls with
  | nil => exact .slnil
  | cons x xs ih =>
      cases x with
      | interface i => exact ih.cons_cons _
      | enumeration e => exact ih.cons_cons _
      | setting s => exact ih.cons _

end Description

/-! ### The scope of a description -/

namespace Scope

theorem typeName?_ofDecl? (x : Decl) : (ofDecl? x).map Prod.fst = x.typeName? := by
  cases x <;> rfl

/-- The names that are bound are those of the types. -/
theorem map_fst_ofDecl? (d : Description) :
    (d.decls.filterMap ofDecl?).map Prod.fst = d.typeNames := by
  rw [List.map_filterMap, Description.typeNames]
  exact congrArg (d.decls.filterMap ·) (funext typeName?_ofDecl?)

/-- A name that is not bound keeps its meaning. -/
theorem find?_foldl_of_notMem {xs : List (String × Entry)} {name : String}
    (hname : name ∉ xs.map Prod.fst) (s : Scope) :
    (xs.foldl (fun s x => s.define x.1 x.2) s).find? name = s.find? name := by
  induction xs generalizing s with
  | nil => rfl
  | cons x xs ih =>
      obtain ⟨hx, hxs⟩ := not_or.1 (List.mem_cons.not.1 hname)
      rw [List.foldl_cons, ih hxs, find?_define, if_neg hx]

/-- A name that is bound once has that meaning. -/
theorem find?_foldl_of_mem {xs : List (String × Entry)} (hxs : (xs.map Prod.fst).Nodup)
    {x : String × Entry} (hx : x ∈ xs) (s : Scope) :
    (xs.foldl (fun s x => s.define x.1 x.2) s).find? x.1 = some x.2 := by
  induction xs generalizing s with
  | nil => cases hx
  | cons y xs ih =>
      obtain ⟨hy, hnodup⟩ := List.nodup_cons.1 hxs
      rw [List.foldl_cons]
      rcases List.mem_cons.1 hx with rfl | hx
      · rw [find?_foldl_of_notMem hy, find?_define, if_pos rfl]
      · exact ih hnodup hx _

variable {d : Description} {name : String}

theorem find?_of_mem (hd : d.Distinct) {x : Decl} (hx : x ∈ d.decls) {e : Entry}
    (he : ofDecl? x = some (name, e)) : (ofDescription d).find? name = some e := by
  have hnodup := hd.typeNames
  rw [← map_fst_ofDecl?] at hnodup
  exact find?_foldl_of_mem hnodup (List.mem_filterMap.2 ⟨x, hx, he⟩) {}

theorem find?_of_notMem (hname : name ∉ d.typeNames) :
    (ofDescription d).find? name =
      if isPrimitive name then some (.type (.primitive name)) else none := by
  rw [← map_fst_ofDecl?] at hname
  exact find?_foldl_of_notMem hname {}

/-- An interface finds its class under its name, not filled in yet. -/
theorem find?_interface (hd : d.Distinct) {i : Interface} (hi : i ∈ d.interfaces) :
    (ofDescription d).find? i.name = some (.object { name := CType.declaredName i.name }) :=
  find?_of_mem hd (Description.interface_mem_decls hi) rfl

theorem resolve_of_means (hd : d.Distinct) {t : CType} (ht : d.Means name t) :
    (ofDescription d).resolve name = .ok t := by
  rw [resolve]
  cases ht with
  | object hi => rw [find?_of_mem hd hi rfl]; rfl
  | enumeration he => rw [find?_of_mem hd he rfl]; rfl
  | @primitive p hp => rw [find?_of_notMem hp, if_pos ((isPrimitive_iff _).2 ⟨p, rfl⟩)]; rfl

/-- A name that is neither declared nor built in is not found. -/
theorem resolve_of_not_knows (hname : ¬ d.Knows name) :
    (ofDescription d).resolve name = .error (.notFound .generate "type" name) := by
  obtain ⟨hmem, hprimitive⟩ := not_or.1 hname
  rw [resolve, find?_of_notMem hmem, if_neg (by rwa [isPrimitive_iff])]

/-- **A scope resolves names to what they stand for.** -/
theorem resolve_eq_ok_iff (hd : d.Distinct) {t : CType} :
    (ofDescription d).resolve name = .ok t ↔ d.Means name t := by
  refine ⟨fun h => ?_, resolve_of_means hd⟩
  by_cases hknows : d.Knows name
  · obtain ⟨t', ht'⟩ := Description.exists_means_iff.2 hknows
    rw [resolve_of_means hd ht'] at h
    exact Except.ok.inj h ▸ ht'
  · rw [resolve_of_not_knows hknows] at h
    cases h

/-! ### The types of a class -/

/-- The arguments keep their names, and their types are what the type names stand for. -/
theorem forall₂_of_params (hd : d.Distinct) {ps : List Param} {cs : List CParam}
    (h : (ofDescription d).params ps = .ok cs) :
    List.Forall₂ (fun p c => d.Means p.type c.type) ps cs := by
  refine (forall₂_of_mapM_eq_ok h).imp fun p c hc => ?_
  obtain ⟨t, ht, hc⟩ := bind_eq_ok.1 hc
  obtain rfl := Except.ok.inj hc
  exact (resolve_eq_ok_iff hd).1 ht

/-- The types in a signature of a method: what it returns, and the arguments behind the receiver. -/
structure Typed (d : Description) (first : CParam) (m : Method) (t : CType) (cs : List CParam) :
    Prop where
  returns : d.Means m.returns t
  params : ∃ explicit, cs = (if m.isStatic then explicit else first :: explicit) ∧
    List.Forall₂ (fun p c => d.Means p.type c.type) m.params explicit

theorem typed_of_method (hd : d.Distinct) {i : Interface} {self : CParam} {m : Method}
    {f : CFunction} {slot? : Option CSlot}
    (h : (ofDescription d).method i self m = .ok (f, slot?)) :
    Typed d self m f.returns f.params ∧
      slot? = if m.isStatic then none
        else some ⟨f.returns, (Words.ofCamel m.name).snake, f.params⟩ := by
  obtain ⟨returns, explicit, hreturns, hexplicit, heq⟩ := exists_of_method h
  obtain ⟨rfl, rfl⟩ := Prod.mk.inj heq
  exact ⟨⟨(resolve_eq_ok_iff hd).1 hreturns, explicit, rfl, forall₂_of_params hd hexplicit⟩, rfl⟩

/-- The types of the functions of a class, and those of its slots. -/
theorem forall₂_of_methods (hd : d.Distinct) {i : Interface} {self : CParam} {ms : List Method}
    {fs : List CFunction} {slots : List CSlot}
    (h : (ofDescription d).methods i self ms = (fs, slots, none)) :
    List.Forall₂ (fun m f => Typed d self m f.returns f.params) ms fs ∧
      List.Forall₂ (fun m slot => Typed d self m slot.returns slot.params)
        (ms.filter (!·.isStatic)) slots := by
  induction ms generalizing fs slots with
  | nil =>
      obtain ⟨rfl, rfl⟩ : [] = fs ∧ [] = slots := by simpa [methods] using h
      exact ⟨.nil, .nil⟩
  | cons m ms ih =>
      rw [methods] at h
      cases hm : (ofDescription d).method i self m with
      | error e => simp [hm] at h
      | ok x =>
          obtain ⟨f, slot?⟩ := x
          rcases hms : (ofDescription d).methods i self ms with ⟨fs', slots', e⟩
          obtain ⟨rfl, rfl, rfl⟩ : f :: fs' = fs ∧ slot?.toList ++ slots' = slots ∧ e = none := by
            simpa [hm, hms] using h
          obtain ⟨hfunctions, hslots⟩ := ih hms
          obtain ⟨htyped, rfl⟩ := typed_of_method hd hm
          refine ⟨.cons htyped hfunctions, ?_⟩
          cases hstatic : m.isStatic with
          | true =>
              rw [List.filter_cons_of_neg (by simp [hstatic])]
              exact hslots
          | false =>
              rw [List.filter_cons_of_pos (by simp [hstatic])]
              exact .cons htyped hslots

end Scope

end Handover
