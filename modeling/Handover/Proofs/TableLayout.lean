/-
**The header and the host lay out the table alike.**

The table of an object is derived twice from one description: the header declares its slots to C,
and the host offers them to scripts.  The two have nothing in common but the description.  Each
leaves the static methods out, puts the destructor in front, and spells names and types in its own
way.  Still a slot has the same place, the same name and as many arguments on both sides.

A class is specified in a scope that the classes before it have changed.  But they only filled in
their own members, and nothing in a specification depends on those; so every class is the one that
the scope of the description gives.

Main definitions:

* `Handover.Scope.Alike` — scopes that differ in the members of their classes only;
* `Handover.CSlot.Serves` — a slot that can be called as an import.

Main results:

* `Handover.Scope.specify_of_alike`, `Handover.Scope.alike_specify` — specifying a class is not
  affected by other classes;
* `Handover.Scope.headersFrom_eq_mapM` — each header is made as if it were the only one;
* `Handover.Scope.method_eq_ok`, `Handover.Boundary.importOf_eq_ok` — what each side makes of a
  method;
* `Handover.Boundary.table_serves_imports` — **the slots of the header serve the imports of the
  host**.
-/

import Handover.Header.Scope
import Handover.Host.Boundary
import Handover.Proofs.LiveTable
import Handover.Proofs.Success

set_option autoImplicit false

namespace Handover

/-- The slot is that of a method, with the receiver in front of the arguments. -/
def CSlot.IsOf (m : Method) (slot : CSlot) : Prop :=
  slot.name = (Words.ofCamel m.name).snake ∧ slot.params.length = m.params.length + 1

/-- The function is that of a method of an interface. -/
def CFunction.IsOf (i : Interface) (m : Method) (f : CFunction) : Prop :=
  f.name = (Words.ofCamel i.name ++ Words.ofCamel m.name).snake

/-- The slot points to functions like `f`. -/
def CSlot.Fits (slot : CSlot) (f : CFunction) : Prop :=
  slot.returns = f.returns ∧ slot.params = f.params

/-- The names of the arguments of a method, with the receiver in front unless it is static. -/
def Method.argumentNames (self : String) (m : Method) : List String :=
  (if m.isStatic then [] else [self]) ++ m.params.map Param.name

/-- The slot can be called as an import: it has its name and as many arguments. -/
def CSlot.Serves (slot : CSlot) (p : ImportedFunction) : Prop :=
  slot.name = p.name ∧ slot.params.length = p.type.params.length

/-! ### Scopes -/

namespace Scope

/-- An entry without the members that were filled in. -/
def Entry.outline : Entry → Entry
  | object c => .object { name := c.name }
  | type t => .type t

/-- The scopes differ in the members of their classes only. -/
def Alike (s s' : Scope) : Prop :=
  ∀ name, (s.find? name).map Entry.outline = (s'.find? name).map Entry.outline

variable {s s' : Scope}

theorem ctype_outline (e : Entry) : e.outline.ctype = e.ctype := by
  cases e <;> rfl

theorem find?_define (s : Scope) (name : String) (e : Entry) (k : String) :
    (s.define name e).find? k = if k = name then some e else s.find? k := by
  rw [find?, define, lookup_cons_ite, lookup_without]
  by_cases hk : k = name
  · rw [if_pos hk, if_pos hk]
  · rw [if_neg hk, if_neg hk, if_neg hk]
    rfl

/-- Resolving a name needs no members. -/
theorem resolve_of_alike (h : Alike s s') : s.resolve = s'.resolve := by
  funext name
  have hname := h name
  rw [resolve, resolve]
  cases hs : s.find? name with
  | none =>
      rw [hs] at hname
      rw [Option.map_eq_none_iff.1 hname.symm]
  | some e =>
      rw [hs] at hname
      obtain ⟨e', hs', he⟩ := Option.map_eq_some_iff.1 hname.symm
      rw [hs']
      exact congrArg Except.ok (by rw [← ctype_outline e, ← ctype_outline e', he])

theorem method_of_alike (h : Alike s s') (i : Interface) (self : CParam) (m : Method) :
    s.method i self m = s'.method i self m := by
  rw [method, method, params, params, resolve_of_alike h]

theorem methods_of_alike (h : Alike s s') (i : Interface) (self : CParam) (ms : List Method) :
    s.methods i self ms = s'.methods i self ms := by
  induction ms with
  | nil => rfl
  | cons m ms ih => rw [methods, methods, method_of_alike h, ih]

/-- The class of an interface is the same in scopes that are alike. -/
theorem specify_of_alike (h : Alike s s') (i : Interface) :
    (s.specify i).1 = (s'.specify i).1 := by
  have hname := h i.name
  rw [specify, specify]
  cases hs : s.find? i.name with
  | none =>
      rw [hs] at hname
      rw [Option.map_eq_none_iff.1 hname.symm]
  | some e =>
      rw [hs] at hname
      obtain ⟨e', hs', he⟩ := Option.map_eq_some_iff.1 hname.symm
      rw [hs']
      cases e with
      | type t =>
          cases e' with
          | type t' => rw [Entry.type.inj he]
          | object c' => cases he
      | object c =>
          cases e' with
          | type t' => cases he
          | object c' =>
              obtain ⟨name, table, functions⟩ := c
              obtain ⟨name', table', functions'⟩ := c'
              obtain rfl : name' = name := by simpa [Entry.outline] using he
              simp only [methods_of_alike h, self, destructor, destructorSlot]
              split <;> rfl

/-- Giving a class other members keeps the scope alike. -/
theorem alike_define {name : String} {c c' : CClass} (hc : s.find? name = some (.object c))
    (hname : c'.name = c.name) : Alike (s.define name (.object c')) s := by
  intro k
  rw [find?_define]
  by_cases hk : k = name
  · rw [if_pos hk, hk, hc]
    simp [Entry.outline, hname]
  · rw [if_neg hk]

/-- Specifying a class fills in its members and nothing else. -/
theorem alike_specify (s : Scope) (i : Interface) : Alike (s.specify i).2 s := by
  rw [specify]
  cases hs : s.find? i.name with
  | none => exact fun _ => rfl
  | some e =>
      cases e with
      | type t => exact fun _ => rfl
      | object c =>
          simp only
          split
          · exact alike_define hs rfl
          · exact alike_define hs rfl

/-! ### The header -/

theorem map_name_params {ps : List Param} {params : List CParam} (h : s.params ps = .ok params) :
    params.map CParam.name = ps.map Param.name := by
  rw [← List.forall₂_eq_eq_eq, List.forall₂_map_left_iff, List.forall₂_map_right_iff]
  refine (forall₂_of_mapM_eq_ok h).flip.imp ?_
  intro q p hp
  obtain ⟨type, -, hq⟩ := bind_eq_ok.1 hp
  obtain rfl := Except.ok.inj hq
  rfl

/-- The function of a method whose types are known, and the slot of a member. -/
def made (i : Interface) (self : CParam) (m : Method) (returns : CType) (explicit : List CParam) :
    CFunction × Option CSlot :=
  let params := if m.isStatic then explicit else self :: explicit
  let words := Words.ofCamel m.name
  ({ returns, name := (Words.ofCamel i.name ++ words).snake, params, isStatic := m.isStatic },
    if m.isStatic then none else some { returns, name := words.snake, params })

/-- The checks that a method has to pass, in order. -/
theorem method_eq (s : Scope) (i : Interface) (self : CParam) (m : Method) :
    s.method i self m =
      if m.isAsync then
        .error (.unsupported .generate ("async method " ++ i.name ++ "." ++ m.name))
      else if m.name = "destroy" ∧ m.isStatic = false then
        .error (.invalidInput .generate (i.name ++ ".destroy is implicit"))
      else
        s.resolve m.returns >>= fun returns =>
          s.params m.params >>= fun explicit => .ok (made i self m returns explicit) := by
  simp only [method]
  by_cases hasync : m.isAsync = true
  · rw [if_pos hasync, if_pos hasync]
    rfl
  rw [if_neg hasync, if_neg hasync]
  by_cases hdestroy : m.name = "destroy" ∧ m.isStatic = false
  · rw [if_pos hdestroy, if_pos (by simpa using hdestroy)]
    rfl
  · rw [if_neg hdestroy, if_neg (by simpa using hdestroy)]
    rfl

/-- A method that passes the checks has known types. -/
theorem exists_of_method {i : Interface} {self : CParam} {m : Method} {f : CFunction}
    {slot? : Option CSlot} (h : s.method i self m = .ok (f, slot?)) :
    ∃ returns explicit, s.resolve m.returns = .ok returns ∧ s.params m.params = .ok explicit ∧
      (f, slot?) = made i self m returns explicit := by
  rw [method_eq] at h
  split at h
  · cases h
  split at h
  · cases h
  obtain ⟨returns, hreturns, h⟩ := bind_eq_ok.1 h
  obtain ⟨explicit, hexplicit, h⟩ := bind_eq_ok.1 h
  exact ⟨returns, explicit, hreturns, hexplicit, (Except.ok.inj h).symm⟩

/-- What the header makes of a method: a function, and for a member a slot with the same types. -/
theorem method_eq_ok {i : Interface} {self : CParam} {m : Method} {f : CFunction}
    {slot? : Option CSlot} (h : s.method i self m = .ok (f, slot?)) :
    f.isStatic = m.isStatic ∧ f.name = (Words.ofCamel i.name ++ Words.ofCamel m.name).snake ∧
      f.params.map CParam.name = m.argumentNames self.name ∧
      slot? = if m.isStatic then none
        else some ⟨f.returns, (Words.ofCamel m.name).snake, f.params⟩ := by
  obtain ⟨returns, explicit, -, hexplicit, heq⟩ := exists_of_method h
  obtain ⟨rfl, rfl⟩ := Prod.mk.inj heq
  refine ⟨rfl, rfl, ?_, rfl⟩
  rw [Method.argumentNames, ← map_name_params hexplicit]
  cases m.isStatic <;> rfl

/-- What the header makes of the methods of an interface: each has its function, the members have
slots, in the same order, and each slot fits its function.  The arguments keep their names. -/
theorem methods_eq {i : Interface} {self : CParam} {ms : List Method} {fs : List CFunction}
    {slots : List CSlot} (h : s.methods i self ms = (fs, slots, none)) :
    List.Forall₂ (fun m f => CFunction.IsOf i m f ∧
        f.params.map CParam.name = m.argumentNames self.name) ms fs ∧
      List.Forall₂ (fun m slot => CSlot.IsOf m slot ∧
        slot.params.map CParam.name = m.argumentNames self.name) (ms.filter (!·.isStatic)) slots ∧
      List.Forall₂ (CFunction.IsOf i) (ms.filter (!·.isStatic)) (fs.filter (!·.isStatic)) ∧
      List.Forall₂ CSlot.Fits slots (fs.filter (!·.isStatic)) := by
  induction ms generalizing fs slots with
  | nil =>
      obtain ⟨rfl, rfl⟩ : [] = fs ∧ [] = slots := by simpa [methods] using h
      exact ⟨.nil, .nil, .nil, .nil⟩
  | cons m ms ih =>
      rw [methods] at h
      cases hm : s.method i self m with
      | error e => simp [hm] at h
      | ok x =>
          obtain ⟨f, slot?⟩ := x
          rcases hms : s.methods i self ms with ⟨fs', slots', e⟩
          obtain ⟨rfl, rfl, rfl⟩ : f :: fs' = fs ∧ slot?.toList ++ slots' = slots ∧ e = none := by
            simpa [hm, hms] using h
          obtain ⟨hall, hslots, hfunctions, hfits⟩ := ih hms
          obtain ⟨hstatic, hname, hparams, hslot⟩ := method_eq_ok hm
          refine ⟨.cons ⟨hname, hparams⟩ hall, ?_⟩
          cases hcase : m.isStatic with
          | true =>
              rw [hcase] at hstatic hslot
              rw [hslot, List.filter_cons_of_neg (by simp [hcase]),
                List.filter_cons_of_neg (by simp [hstatic])]
              exact ⟨hslots, hfunctions, hfits⟩
          | false =>
              have hlength : f.params.length = m.params.length + 1 := by
                simpa [Method.argumentNames, hcase] using congrArg List.length hparams
              rw [hcase] at hstatic hslot
              rw [hslot, List.filter_cons_of_pos (by simp [hcase]),
                List.filter_cons_of_pos (by simp [hstatic])]
              exact ⟨.cons ⟨⟨rfl, hlength⟩, hparams⟩ hslots, .cons hname hfunctions,
                .cons ⟨rfl, rfl⟩ hfits⟩

theorem ofCamel_destructor : Words.ofCamel Boundary.destructor.name = ["destroy"] := by
  cbv

theorem snake_destructor : (Words.ofCamel Boundary.destructor.name).snake = "destroy" := by
  rw [ofCamel_destructor]
  rfl

/-- An interface that is specified has a class in the scope, and its methods can be expressed. -/
theorem exists_of_specify {i : Interface} {c : CClass} (h : (s.specify i).1 = .ok c) :
    ∃ c₀ fs slots, s.find? i.name = some (.object c₀) ∧
      s.methods i (self c₀) i.methods = (fs, slots, none) ∧
      c = { name := c₀.name
            table := some (destructorSlot c₀ :: slots)
            functions := destructor i c₀ :: fs } := by
  rw [specify] at h
  split at h
  · cases h
  · cases h
  · rename_i c₀ hfind
    simp only at h
    rcases hms : s.methods i (self c₀) i.methods with ⟨fs, slots, e⟩
    rw [hms] at h
    cases e with
    | some e => cases h
    | none => exact ⟨c₀, fs, slots, hfind, hms, (Except.ok.inj h).symm⟩

/-- What the header makes of an interface: the destructor and the members have slots and functions,
in the same order, and each slot fits its function. -/
theorem specify_eq_ok {i : Interface} {c : CClass} (h : (s.specify i).1 = .ok c) :
    ∃ table, c.table = some table ∧
      List.Forall₂ CSlot.IsOf (Boundary.destructor :: i.members) table ∧
      List.Forall₂ (CFunction.IsOf i) (Boundary.destructor :: i.members)
        (c.functions.filter (!·.isStatic)) ∧
      List.Forall₂ CSlot.Fits table (c.functions.filter (!·.isStatic)) := by
  obtain ⟨c₀, fs, slots, -, hms, rfl⟩ := exists_of_specify h
  obtain ⟨-, hslots, hfunctions, hfits⟩ := methods_eq hms
  refine ⟨_, rfl, .cons ⟨snake_destructor.symm, rfl⟩ (hslots.imp fun _ _ hslot => hslot.1),
    .cons ?_ hfunctions, .cons ⟨rfl, rfl⟩ hfits⟩
  rw [CFunction.IsOf, destructor, ofCamel_destructor]

/-- Each header is made as if it were the only one, although the scope changes on the way. -/
theorem headersFrom_eq_mapM (s : Scope) (is : List Interface) :
    Description.headersFrom s is = ((is.filter (·.targets headerLanguage)).mapM
      fun i => (s.specify i).1).map (List.map CClass.file) := by
  -- the scope moves on, and yet the classes are the same in every scope that is alike
  suffices hall : ∀ s', Alike s' s → Description.headersFrom s' is =
      ((is.filter (·.targets headerLanguage)).mapM fun i => (s.specify i).1).map
        (List.map CClass.file) from hall s fun _ => rfl
  induction is with
  | nil => exact fun _ _ => rfl
  | cons i is ih =>
      intro s' hs'
      rw [Description.headersFrom]
      by_cases htarget : i.targets headerLanguage = true
      · have halike := alike_specify s' i
        rw [if_pos htarget, List.filter_cons_of_pos (by simpa using htarget), List.mapM_cons,
          ← specify_of_alike hs' i]
        rcases hspecify : s'.specify i with ⟨r, s''⟩
        rw [hspecify] at halike
        cases r with
        | error e => rfl
        | ok c =>
            simp only [ih s'' fun name => (halike name).trans (hs' name)]
            cases (is.filter (·.targets headerLanguage)).mapM fun i => (s.specify i).1 with
            | error e => rfl
            | ok classes => rfl
      · rw [if_neg htarget, List.filter_cons_of_neg (by simpa using htarget)]
        exact ih s' hs'

/-- The headers are those of the classes of the interfaces that target C, in order. -/
theorem forall₂_of_headersFrom {is : List Interface} {files : List HeaderFile}
    (h : Description.headersFrom s is = .ok files) :
    ∃ classes : List CClass, files = classes.map CClass.file ∧
      List.Forall₂ (fun i c => (s.specify i).1 = .ok c)
        (is.filter (·.targets headerLanguage)) classes := by
  rw [headersFrom_eq_mapM] at h
  obtain ⟨classes, hclasses, rfl⟩ := map_eq_ok.1 h
  exact ⟨classes, rfl, forall₂_of_mapM_eq_ok hclasses⟩

/-- Every interface that targets C has its header. -/
theorem file_mem_of_headersFrom {is : List Interface} {files : List HeaderFile}
    (h : Description.headersFrom s is = .ok files) {i : Interface} (hi : i ∈ is)
    (htarget : i.targets headerLanguage = true) :
    ∃ c, (s.specify i).1 = .ok c ∧ c.file ∈ files := by
  obtain ⟨classes, rfl, hclasses⟩ := forall₂_of_headersFrom h
  obtain ⟨c, hc, hspecify⟩ :=
    exists_of_mem_of_forall₂ hclasses.flip (List.mem_filter.2 ⟨hi, htarget⟩)
  exact ⟨c, hspecify, List.mem_map_of_mem hc⟩

end Scope

/-! ### The host -/

namespace Boundary

/-- A method that the host can offer has a slot with its types, which are all scalars. -/
theorem exists_of_importOf {slots : List Slot} {m : Method} {p : ImportedFunction}
    (h : importOf slots m = .ok p) :
    ∃ slot coreParams coreResults, Slot.find? slots (Words.ofCamel m.name).snake = some slot ∧
      m.paramTypes? = some slot.params ∧ m.resultTypes? = some slot.results ∧
      WitType.flattenAll? slot.params = some coreParams ∧
      WitType.flattenAll? slot.results = some coreResults ∧
      p = { module := thingModule, name := (Words.ofCamel m.name).snake
            type := { params := .i64 :: coreParams, results := coreResults } } := by
  simp only [importOf] at h
  split at h
  swap
  · cases h
  rename_i slot hslot
  split at h
  swap
  · cases h
  split at h
  swap
  · cases h
  rename_i params hparams _ results hresults
  split at h
  · obtain ⟨_, hthrow, -⟩ := bind_eq_ok.1 h
    cases hthrow
  rename_i hsame
  split at h
  swap
  · cases h
  rename_i coreParams hcoreParams
  split at h
  swap
  · cases h
  rename_i coreResults hcoreResults
  obtain ⟨rfl, rfl⟩ : params = slot.params ∧ results = slot.results := by simpa using hsame
  exact ⟨slot, coreParams, coreResults, hslot, hparams, hresults, hcoreParams, hcoreResults,
    (Except.ok.inj h).symm⟩

/-- What the host makes of a method: an import with its name, and the receiver in front of the
arguments. -/
theorem importOf_eq_ok {slots : List Slot} {m : Method} {p : ImportedFunction}
    (h : importOf slots m = .ok p) :
    p.name = (Words.ofCamel m.name).snake ∧ p.type.params.length = m.params.length + 1 := by
  obtain ⟨slot, coreParams, coreResults, -, hparams, -, hcore, -, rfl⟩ := exists_of_importOf h
  refine ⟨rfl, ?_⟩
  rw [List.length_cons, length_of_mapM_eq_some hcore, length_of_mapM_eq_some hparams]

/-- The host goes through the destructor and the members. -/
theorem imports_eq_mapM {b : Boundary} {d : Description} {i : Interface}
    (hd : Description.parse b.source = .ok d) (hi : d.interface? interfaceName = some i) :
    b.imports = (destructor :: i.members).mapM (importOf b.slots) := by
  simp only [Boundary.imports, hd, Except.mapError, bind, Except.bind, hi]

/-! ### Both -/

/-- What two rows have to do with the members of a third, they have to do with each other. -/
theorem forall₂_of_common {α β γ : Type} {R : α → β → Prop} {S : α → γ → Prop} {T : β → γ → Prop}
    (hT : ∀ a b c, R a b → S a c → T b c) {as : List α} {bs : List β} {cs : List γ}
    (hR : List.Forall₂ R as bs) (hS : List.Forall₂ S as cs) : List.Forall₂ T bs cs := by
  induction hR generalizing cs with
  | nil =>
      cases hS
      exact .nil
  | cons hab _ ih =>
      cases hS with
      | cons hac hS => exact .cons (hT _ _ _ hab hac) (ih hS)

/-- A slot and an import of one method fit. -/
theorem serves_of_importOf {slots : List Slot} {m : Method} {slot : CSlot} {p : ImportedFunction}
    (hslot : CSlot.IsOf m slot) (hp : importOf slots m = .ok p) : slot.Serves p := by
  obtain ⟨hname, hlength⟩ := importOf_eq_ok hp
  exact ⟨hslot.1.trans hname.symm, hslot.2.trans hlength.symm⟩

/-- **The slots of the header serve the imports of the host.**  Where both are derived from one
description, the table has a slot for each import, at its place, with its name and as many
arguments, the receiver among them.  The destructor comes first.  And each member has its slot and
its function, with the same types. -/
theorem table_serves_imports (b : Boundary) (d : Description) (i : Interface)
    (files : List HeaderFile) (imports : List ImportedFunction)
    (hd : Description.parse b.source = .ok d) (hi : d.interface? interfaceName = some i)
    (htarget : i.targets headerLanguage = true) (hfiles : d.headers = .ok files)
    (himports : b.imports = .ok imports) :
    ∃ c table, ((Scope.ofDescription d).specify i).1 = .ok c ∧ c.file ∈ files ∧
      c.table = some table ∧
      List.Forall₂ CSlot.Serves table imports ∧
      table.head?.map CSlot.name = some "destroy" ∧
      imports.head?.map ImportedFunction.name = some "destroy" ∧
      List.Forall₂ CSlot.IsOf i.members table.tail ∧
      List.Forall₂ (CFunction.IsOf i) i.members (c.functions.filter (!·.isStatic)).tail ∧
      List.Forall₂ CSlot.Fits table (c.functions.filter (!·.isStatic)) := by
  have hmem : i ∈ d.interfaces := List.mem_of_find?_eq_some hi
  obtain ⟨c, hc, hfile⟩ := Scope.file_mem_of_headersFrom hfiles hmem htarget
  obtain ⟨table, htable, hslots, hfunctions, hfits⟩ := Scope.specify_eq_ok hc
  rw [imports_eq_mapM hd hi] at himports
  have hhost := forall₂_of_mapM_eq_ok himports
  have hserves : List.Forall₂ CSlot.Serves table imports := by
    refine forall₂_of_common ?_ hslots hhost
    intro m slot p hslot hp
    exact serves_of_importOf hslot hp
  have hfunctions' := List.forall₂_drop 1 hfunctions
  rw [List.drop_one, List.drop_one, List.tail_cons] at hfunctions'
  cases hslots with
  | cons hslot hslots =>
      cases hserves with
      | cons hfirst hserves =>
          have hname := hslot.1.trans Scope.snake_destructor
          exact ⟨c, _, hc, hfile, htable, .cons hfirst hserves, congrArg some hname,
            congrArg some (hfirst.1.symm.trans hname), hslots, hfunctions', hfits⟩

/-- A class that is specified after another one, with a static method and a name of two words. -/
def sharedThing : Interface where
  name := "Thing"
  languages := ["c"]
  line := 1
  methods := [
    { name := "make", returns := "Thing", isStatic := true },
    { name := "setNumber", returns := "void", params := [⟨"to", "i32"⟩] },
    { name := "number", returns := "i32" }]

def sharedDescription : Description where
  decls := [
    .interface
      { name := "Other", languages := ["c"], line := 1
        methods := [{ name := "peek", returns := "void", params := [⟨"at", "Thing"⟩] }] },
    .interface sharedThing]

def shared : Boundary where
  source := "Other = interface +c \x7b peek(at: Thing); \x7d " ++
    "Thing = interface +c \x7b static make(): Thing; setNumber(to: i32); number(): i32; \x7d"
  slots := [
    { name := "destroy" }, { name := "set_number", params := [.s32] },
    { name := "number", results := [.s32] }]

theorem table_serves_imports_shared :
    Description.parse shared.source = .ok sharedDescription ∧
      sharedDescription.interface? interfaceName = some sharedThing ∧
      sharedThing.targets headerLanguage = true ∧
      ∃ files imports, sharedDescription.headers = .ok files ∧ shared.imports = .ok imports ∧
        ∃ (c : CClass) (table : List CSlot), c.file ∈ files ∧ c.table = some table ∧
          List.Forall₂ CSlot.Serves table imports := by
  have hd : Description.parse shared.source = .ok sharedDescription := by decide +kernel
  have hi : sharedDescription.interface? interfaceName = some sharedThing := by decide +kernel
  have htarget : sharedThing.targets headerLanguage = true := by decide
  have hheaders : sharedDescription.headers.isOk = true := by decide +kernel
  have hhost : shared.imports.isOk = true := by
    rw [imports_eq_mapM hd hi]
    decide +kernel
  obtain ⟨files, hfiles⟩ := exists_of_isOk hheaders
  obtain ⟨imports, himports⟩ := exists_of_isOk hhost
  obtain ⟨c, table, -, hfile, htable, hserves, -⟩ :=
    table_serves_imports shared sharedDescription sharedThing files imports hd hi htarget hfiles
      himports
  exact ⟨hd, hi, htarget, files, imports, hfiles, himports, c, table, hfile, htable, hserves⟩

end Boundary

end Handover
