/-
**When the header and the host take a type name for the same type.**

The header looks a type name up among the declarations of the description first, and among the
primitives second.  The host knows the primitives only.  Nothing keeps a description from declaring
a type under the name of a primitive, and then the two part: the host still takes the name for the
primitive, and the header takes it for what was declared.  That goes for `void` too, which is also
what a method returns that names no type.

Nothing else can go wrong.  At each place of a method the header spells the primitive that the host
has taken the name for, exactly if no type is declared under that name.  The destructor is not
looked up, so for it the two always agree.

Main definitions:

* `Handover.Primitive.core?` — the core type that carries a primitive;
* `Handover.Method.Rendered` — what the two sides make of the type names of a method.

Main results:

* `Handover.Description.Means.param_eq_iff` — how the header spells the name of a primitive;
* `Handover.Boundary.types_agree_iff` — **when the header and the host agree on types**;
* `Handover.Boundary.types_part` — a description on which they part.
-/

import Handover.Proofs.Resolution

set_option autoImplicit false

namespace Handover

/-! ### Primitives -/

namespace Primitive

/-- The core type that carries a primitive; `void` has none. -/
def core? (p : Primitive) : Option ValType := p.wit?.bind WitType.flatten?

theorem name_of_ofName? {name : String} {p : Primitive} (h : ofName? name = some p) :
    p.name = name := by
  simpa using List.find?_some h

theorem isName_name (p : Primitive) : isName p.name = true := by
  cases p <;> decide

theorem core?_eq_none_iff (p : Primitive) : p.core? = none ↔ p = void := by
  cases p <;> decide

/-- No primitive is spelled like a declared type. -/
theorem hasSuffix_spelling (p : Primitive) :
    Text.hasSuffix "_t" (primitiveSpelling p.name) = false := by
  cases p <;> decide +kernel

theorem hasSuffix_star_spelling (p : Primitive) :
    Text.hasSuffix "*" (primitiveSpelling p.name) = false := by
  cases p <;> decide +kernel

theorem spelling_eq_void_iff (p : Primitive) : primitiveSpelling p.name = "void" ↔ p = void := by
  cases p <;> decide +kernel

end Primitive

/-! ### The header -/

namespace Description

variable {d : Description}

/-- A name stands for the declaration which bears it, or else for a primitive. -/
theorem Means.declared_or_primitive {name : String} {t : CType} (ht : d.Means name t) :
    (name ∈ d.typeNames ∧
      (t.param = CType.declaredName name ++ "*" ∨ t.param = CType.declaredName name)) ∨
    (name ∉ d.typeNames ∧ t = .primitive name) := by
  cases ht with
  | object hi => exact .inl ⟨mem_typeNames_iff.2 ⟨_, hi, rfl⟩, .inl rfl⟩
  | enumeration he => exact .inl ⟨mem_typeNames_iff.2 ⟨_, he, rfl⟩, .inr rfl⟩
  | primitive hp => exact .inr ⟨hp, rfl⟩

/-- What is declared under the name of a primitive is not spelled like any primitive. -/
theorem Means.param_ne {p q : Primitive} {t : CType} (ht : d.Means p.name t)
    (hp : p.name ∈ d.typeNames) : t.param ≠ primitiveSpelling q.name := by
  have hname := Scope.declaredName_of_isName p.isName_name
  rcases ht.declared_or_primitive with ⟨-, hparam | hparam⟩ | ⟨hnot, -⟩
  · intro h
    have hstar := q.hasSuffix_star_spelling
    rw [← h, hparam, Text.hasSuffix_append] at hstar
    cases hstar
  · intro h
    have hsuffix := q.hasSuffix_spelling
    rw [← h, hparam, hname, Text.hasSuffix_append] at hsuffix
    cases hsuffix
  · exact absurd hp hnot

/-- **How the header spells the name of a primitive**: as its C equivalent, exactly if no type is
declared under the name. -/
theorem Means.param_eq_iff {p : Primitive} {t : CType} (ht : d.Means p.name t) :
    t.param = primitiveSpelling p.name ↔ p.name ∉ d.typeNames := by
  constructor
  · exact fun h hp => ht.param_ne hp h
  · intro hp
    rcases ht.declared_or_primitive with ⟨hmem, -⟩ | ⟨-, rfl⟩
    · exact absurd hmem hp
    · rfl

theorem Means.param_eq_void_iff {p : Primitive} {t : CType} (ht : d.Means p.name t) :
    t.param = "void" ↔ p.core? = none ∧ p.name ∉ d.typeNames := by
  have hvoid : primitiveSpelling Primitive.void.name = "void" :=
    (Primitive.spelling_eq_void_iff .void).2 rfl
  rw [p.core?_eq_none_iff]
  constructor
  · intro h
    have hp : p.name ∉ d.typeNames := fun hmem => ht.param_ne (q := .void) hmem (h.trans hvoid.symm)
    rw [ht.param_eq_iff.2 hp, p.spelling_eq_void_iff] at h
    exact ⟨h, hp⟩
  · rintro ⟨rfl, hp⟩
    exact (ht.param_eq_iff.2 hp).trans hvoid

end Description

/-! ### The host -/

theorem WitType.exists_of_ofName? {name : String} {t : WitType}
    (h : WitType.ofName? name = some t) : ∃ p : Primitive, p.name = name ∧ p.wit? = some t := by
  obtain ⟨p, hp, ht⟩ := Option.bind_eq_some_iff.1 h
  exact ⟨p, Primitive.name_of_ofName? hp, ht⟩

namespace Method

/-- The host takes the arguments of a method for primitives. -/
theorem forall₂_core_params {m : Method} {ts : List WitType} {vs : List ValType}
    (hts : m.paramTypes? = some ts) (hvs : WitType.flattenAll? ts = some vs) :
    List.Forall₂ (fun q v => ∃ p : Primitive, p.name = q.type ∧ p.core? = some v) m.params vs := by
  have hparams := (forall₂_of_mapM_eq_some hts).flip
  refine Boundary.forall₂_of_common ?_ hparams (forall₂_of_mapM_eq_some hvs)
  intro t q v hq hv
  obtain ⟨p, hname, hwit⟩ := WitType.exists_of_ofName? hq
  exact ⟨p, hname, Option.bind_eq_some_iff.2 ⟨t, hwit, hv⟩⟩

/-- The host takes what a method returns for a primitive. -/
theorem exists_core_results {m : Method} {ts : List WitType} {vs : List ValType}
    (hts : m.resultTypes? = some ts) (hvs : WitType.flattenAll? ts = some vs) :
    ∃ p : Primitive, p.name = m.returns ∧ vs = p.core?.toList := by
  rw [resultTypes?] at hts
  split at hts
  · rename_i hvoid
    obtain rfl := Option.some.inj hts
    obtain rfl : [] = vs := Option.some.inj hvs
    exact ⟨.void, hvoid.symm, rfl⟩
  · obtain ⟨t, ht, rfl⟩ := Option.map_eq_some_iff.1 hts
    obtain ⟨p, hname, hwit⟩ := WitType.exists_of_ofName? ht
    cases forall₂_of_mapM_eq_some hvs with
    | cons hv hrest =>
        cases hrest
        refine ⟨p, hname, ?_⟩
        rw [Primitive.core?, hwit, Option.bind_some, hv]
        rfl

/-- What the two sides make of the type names of a method.  The host takes each for a primitive, and
the header spells that primitive exactly if no type is declared under its name. -/
structure Rendered (d : Description) (m : Method) (slot : CSlot) (f : ImportedFunction) : Prop where
  /-- Behind the receiver, the core types are those of the primitives. -/
  hostParams : List.Forall₂ (fun q v => ∃ p : Primitive, p.name = q.type ∧ p.core? = some v)
    m.params f.type.params.tail
  hostReturns : ∃ p : Primitive, p.name = m.returns ∧ f.type.results = p.core?.toList
  /-- Behind the receiver, the arguments stand in the same order. -/
  headerParams : List.Forall₂
    (fun q c => c.type.param = primitiveSpelling q.type ↔ q.type ∉ d.typeNames)
    m.params slot.params.tail
  headerReturns : slot.returns.param = primitiveSpelling m.returns ↔ m.returns ∉ d.typeNames
  void_iff : slot.returns.param = "void" ↔ f.type.results = [] ∧ m.returns ∉ d.typeNames

/-- The arguments of a member in the header, place by place. -/
theorem forall₂_param_eq_iff {d : Description} {m : Method} {explicit : List CParam}
    {vs : List ValType} (hheader : List.Forall₂ (fun q c => d.Means q.type c.type) m.params explicit)
    (hhost : List.Forall₂ (fun q v => ∃ p : Primitive, p.name = q.type ∧ p.core? = some v)
      m.params vs) :
    List.Forall₂ (fun q c => c.type.param = primitiveSpelling q.type ↔ q.type ∉ d.typeNames)
      m.params explicit := by
  -- the host has found a primitive behind each name, which is all that is used of it here
  have hprimitive : ∀ q ∈ m.params, ∃ p : Primitive, p.name = q.type := by
    intro q hq
    obtain ⟨v, -, p, hp, -⟩ := exists_of_mem_of_forall₂ hhost.flip hq
    exact ⟨p, hp⟩
  refine ((List.forall₂_and_left _ _).2 ⟨hprimitive, hheader⟩).imp ?_
  rintro q c ⟨⟨p, hp⟩, hc⟩
  rw [← hp] at hc ⊢
  exact hc.param_eq_iff

theorem rendered {d : Description} {self : CParam} {m : Method} (hmember : m.isStatic = false)
    {slot : CSlot} (hslot : Scope.Typed d self m slot.returns slot.params) {slots : List Slot}
    {f : ImportedFunction} (hf : Boundary.importOf slots m = .ok f) : m.Rendered d slot f := by
  obtain ⟨s, vs, rs, -, hparams, hresults, hvs, hrs, rfl⟩ := Boundary.exists_of_importOf hf
  obtain ⟨explicit, hexplicit, hheader⟩ := hslot.params
  obtain ⟨p, hp, rfl⟩ := exists_core_results hresults hrs
  have hhost := forall₂_core_params hparams hvs
  have hreturns : d.Means p.name slot.returns := hp ▸ hslot.returns
  refine ⟨hhost, ⟨p, hp, rfl⟩, ?_, ?_, ?_⟩
  · rw [hexplicit, hmember]
    exact forall₂_param_eq_iff hheader hhost
  · rw [← hp]
    exact hreturns.param_eq_iff
  · rw [hreturns.param_eq_void_iff, ← hp, Option.toList_eq_nil_iff]

end Method

/-! ### Both -/

namespace Boundary

/-- The host offers the destructor without arguments and results. -/
theorem type_of_importOf_destructor {slots : List Slot} {f : ImportedFunction}
    (h : importOf slots destructor = .ok f) : f.type = { params := [.i64], results := [] } := by
  obtain ⟨s, vs, rs, -, hparams, hresults, hvs, hrs, rfl⟩ := exists_of_importOf h
  obtain hnil : [] = s.params := Option.some.inj hparams
  obtain hnone : [] = s.results := Option.some.inj hresults
  rw [← hnil] at hvs
  rw [← hnone] at hrs
  obtain rfl : [] = vs := Option.some.inj hvs
  obtain rfl : [] = rs := Option.some.inj hrs
  rfl

/-- What a row has to do with each of two others, it has to do with both side by side. -/
theorem forall₂_zip {α β γ : Type} {R : α → β → Prop} {S : α → γ → Prop} {as : List α}
    {bs : List β} {cs : List γ} (hR : List.Forall₂ R as bs) (hS : List.Forall₂ S as cs) :
    List.Forall₂ (fun a x => R a x.1 ∧ S a x.2) as (bs.zip cs) := by
  induction hR generalizing cs with
  | nil => exact .nil
  | cons hab _ ih =>
      cases hS with
      | cons hac hS => exact .cons ⟨hab, hac⟩ (ih hS)

/-- **When the header and the host agree on types.**  Where both are derived from one description,
the destructor returns nothing on either side.  For every other slot and its import, the host takes
each type name for a primitive; the header spells the C equivalent of that primitive exactly if the
description declares no type under its name, and it returns `void` exactly if the import has no
result and the description declares no type under the name of what is returned. -/
theorem types_agree_iff (b : Boundary) (d : Description) (i : Interface) (files : List HeaderFile)
    (imports : List ImportedFunction) (hd : Description.parse b.source = .ok d)
    (hi : d.interface? interfaceName = some i) (htarget : i.targets headerLanguage = true)
    (hfiles : d.headers = .ok files) (himports : b.imports = .ok imports) :
    ∃ c slots f fs, ((Scope.ofDescription d).specify i).1 = .ok c ∧ c.file ∈ files ∧
      c.table = some (⟨.primitive "void", "destroy", [⟨Scope.receiver, .object c.name⟩]⟩ :: slots) ∧
      imports = f :: fs ∧ f.type = { params := [.i64], results := [] } ∧
      slots.length = fs.length ∧
      List.Forall₂ (fun m x => m.Rendered d x.1 x.2) i.members (slots.zip fs) := by
  obtain ⟨c, hc, hfile⟩ :=
    Scope.file_mem_of_headersFrom hfiles (List.mem_of_find?_eq_some hi) htarget
  obtain ⟨c₀, functions, slots, -, hmethods, rfl⟩ := Scope.exists_of_specify hc
  obtain ⟨-, hslots⟩ := Scope.forall₂_of_methods (Description.distinct_of_parse hd) hmethods
  rw [imports_eq_mapM hd hi] at himports
  cases forall₂_of_mapM_eq_ok himports with
  | @cons _ f _ fs hf hfs =>
      have hmembers : ∀ m ∈ i.members, m.isStatic = false := by
        intro m hm
        simpa using (List.mem_filter.1 hm).2
      have hboth := (List.forall₂_and_left _ _).2 ⟨hmembers, forall₂_zip hslots hfs⟩
      refine ⟨_, slots, f, fs, hc, hfile, rfl, rfl, type_of_importOf_destructor hf, ?_,
        hboth.imp ?_⟩
      · exact hslots.length_eq.symm.trans hfs.length_eq
      · rintro m x ⟨hmember, hslot, hx⟩
        exact Method.rendered hmember hslot hx

/-- An interface with two methods, in a description that declares types under the names of two
primitives. -/
def partedThing : Interface where
  name := "Thing"
  languages := ["c"]
  line := 1
  methods := [
    { name := "number", returns := "i32" },
    { name := "reset", returns := "void", params := [⟨"to", "u8"⟩] }]

/-- The description. -/
def partedDescription : Description where
  decls := [
    .enumeration { name := "i32", values := ["a"], line := 1 },
    .enumeration { name := "void", values := ["b"], line := 1 },
    .interface partedThing]

/-- The source of the description, and slots for its methods. -/
def parted : Boundary where
  source := "i32 = enum \x7b a; \x7d void = enum \x7b b; \x7d " ++
    "Thing = interface +c \x7b number(): i32; reset(to: u8); \x7d"
  slots := [
    { name := "destroy" }, { name := "number", results := [.s32] },
    { name := "reset", params := [.u8] }]

theorem parse_parted : Description.parse parted.source = .ok partedDescription := by
  decide +kernel

theorem interface_parted : partedDescription.interface? interfaceName = some partedThing := by
  decide +kernel

theorem types_agree_iff_parted :
    Description.parse parted.source = .ok partedDescription ∧
      partedDescription.interface? interfaceName = some partedThing ∧
      partedThing.targets headerLanguage = true ∧
      ∃ files imports, partedDescription.headers = .ok files ∧ parted.imports = .ok imports ∧
        ∃ (c : CClass) (slot : CSlot) (slots : List CSlot) (f : ImportedFunction)
          (fs : List ImportedFunction), c.file ∈ files ∧ c.table = some (slot :: slots) ∧
          imports = f :: fs ∧ List.Forall₂ (fun m x => m.Rendered partedDescription x.1 x.2)
            partedThing.members (slots.zip fs) := by
  have htarget : partedThing.targets headerLanguage = true := by decide
  have hheaders : partedDescription.headers.isOk = true := by decide +kernel
  have hhost : parted.imports.isOk = true := by
    rw [imports_eq_mapM parse_parted interface_parted]
    decide +kernel
  obtain ⟨files, hfiles⟩ := exists_of_isOk hheaders
  obtain ⟨imports, himports⟩ := exists_of_isOk hhost
  obtain ⟨c, slots, f, fs, -, hfile, htable, hcons, -, -, hrendered⟩ :=
    types_agree_iff parted partedDescription partedThing files imports parse_parted interface_parted
      htarget hfiles himports
  exact ⟨parse_parted, interface_parted, htarget, files, imports, hfiles, himports, c, _, slots, f,
    fs, hfile, htable, hcons, hrendered⟩

/-- How a class spells what its slots return. -/
def returnSpellings (c : CClass) : Option (List String) :=
  c.table.map (·.map fun slot => slot.returns.param)

/-- **The header and the host can part**: the host offers a function with a number for its result
and one without a result, and in the header both slots return an enumeration. -/
theorem types_part :
    Description.parse parted.source = .ok partedDescription ∧
      partedDescription.interface? interfaceName = some partedThing ∧
      partedThing.targets headerLanguage = true ∧ partedDescription.headers.isOk = true ∧
      (∃ c, ((Scope.ofDescription partedDescription).specify partedThing).1 = .ok c ∧
        returnSpellings c = some ["void", "i32_t", "void_t"]) ∧
      (∃ imports, parted.imports = .ok imports ∧
        imports.map (fun f => f.type.results) = [[], [.i32], []]) ∧
      primitiveSpelling "i32" = "int" ∧ primitiveSpelling "void" = "void" := by
  refine ⟨parse_parted, interface_parted, by decide, by decide +kernel, map_eq_ok.1 ?_,
    map_eq_ok.1 ?_, by decide +kernel, by decide +kernel⟩
  · decide +kernel
  · rw [imports_eq_mapM parse_parted interface_parted]
    decide +kernel

end Boundary

end Handover
