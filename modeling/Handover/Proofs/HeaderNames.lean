/-
**When the names of a header collide.**

A description keeps its names apart as they are written.  A header spells them in another way: all
letters are small, and an underscore stands where a capital letter was.  So names that differ in a
description can become the same in C, `Ab` and `ab`, or `aB` and `a_b`.  There are also names that
no description has: the destructor of a class and the receiver of a method.

Nothing else can go wrong.  Two files, functions or slots have the same name exactly if what they
are made for has the same C spelling, where the destructor counts as a method of every class.  The
arguments keep their names as they are written, so they collide if a method names two of them alike,
or one of them like the receiver.

Main definitions:

* `Handover.cSpelling` — the spelling of a name in C;
* `Handover.Method.ArgumentsDistinct` — a method whose arguments can be told apart;
* `Handover.CClass.Names` — what the names of a class come from.

Main results:

* `Handover.Words.snake_ofCamel` — the words of a name, joined, are its C spelling;
* `Handover.Description.wellNamed_of_parse` — the names of a source are words;
* `Handover.Description.headers_nodup_iff` — **when the names of headers are distinct**;
* `Handover.Description.headers_collide` — a source whose headers collide in every way.
-/

import Handover.Proofs.NameStyles
import Handover.Proofs.SourceLines
import Handover.Proofs.Spelling
import Handover.Proofs.TableLayout
import Mathlib.Data.List.Nodup

set_option autoImplicit false

namespace Handover

/-! ### The spelling of names in C -/

/-- A character that is not the first: a capital letter has an underscore in front. -/
def spellChar (c : Char) : List Char :=
  if Text.isUpper c then ['_', Text.toLower c] else [Text.toLower c]

/-- The characters of a name in C. -/
def spellChars : List Char → List Char
  | [] => []
  | c :: cs => Text.toLower c :: cs.flatMap spellChar

/-- The spelling of a name in C: small letters, and an underscore in front of each letter but the
first that was a capital. -/
def cSpelling (name : String) : String := String.ofList (spellChars name.toList)

namespace Words

theorem flatMap_spellChar {cs : List Char} (hcs : ∀ c ∈ cs, Text.isUpper c = false) :
    cs.flatMap spellChar = cs.map Text.toLower := by
  induction cs with
  | nil => rfl
  | cons c cs ih =>
      obtain ⟨hc, hcs⟩ := List.forall_mem_cons.1 hcs
      rw [List.flatMap_cons, ih hcs, spellChar, if_neg (by simp [hc])]
      rfl

/-- The words of a name, joined, are its characters in C. -/
theorem Segmented.toList_snake {cs : List Char} {ws : List (List Char)} (h : Segmented cs ws) :
    (snake (ws.map fun w => String.ofList (w.map Text.toLower))).toList = spellChars cs := by
  induction h with
  | nil => rfl
  | @cons c small rest ws hsmall hrest h ih =>
      rw [spellChars, List.flatMap_append, flatMap_spellChar hsmall]
      cases h with
      | nil => simp [snake]
      | @cons d ds rest vs _ _ _ =>
          -- the next word starts with a capital letter, which gives the underscore
          have hupper : Text.isUpper d = true := hrest d rfl
          rw [List.map_cons, snake, String.intercalate_cons_of_ne_nil (by simp),
            String.toList_append, String.toList_append, ← snake, ih, spellChars, List.flatMap_cons,
            spellChar, if_pos hupper]
          simp

/-- **The words of a name, joined, are its C spelling.** -/
theorem snake_ofCamel (name : String) : (ofCamel name).snake = cSpelling name := by
  rw [cSpelling, ← (segmented_cutCamel name.toList).toList_snake, String.ofList_toList]
  rfl

theorem ofCamel_ne_nil {name : String} (hname : isName name = true) : ofCamel name ≠ [] := by
  obtain ⟨c, cs, hchars, -⟩ := (isName_iff name).1 hname
  simp [ofCamel, hchars, cutCamel]

theorem snake_append {ws vs : Words} (hws : ws ≠ []) (hvs : vs ≠ []) :
    (ws ++ vs).snake = ws.snake ++ "_" ++ vs.snake :=
  String.intercalate_append_of_ne_nil hws hvs

end Words

/-! ### The names of a source -/

namespace Grammar

/-- The symbols of an occurrence are among all symbols. -/
theorem Many.exists_of_mem {α β : Type} {P : α → List β → Prop} {as : List α} {us : List β}
    (h : Many P as us) {a : α} (ha : a ∈ as) : ∃ vs, P a vs ∧ vs ⊆ us := by
  induction h with
  | nil => cases ha
  | @cons b as us vs hb _ ih =>
      rcases List.mem_cons.1 ha with rfl | ha
      · exact ⟨us, hb, List.subset_append_left us vs⟩
      · obtain ⟨ws, hws, hsubset⟩ := ih ha
        exact ⟨ws, hws, List.Subset.trans hsubset (List.subset_append_right us vs)⟩

theorem word_mem_params {ps : List Param} {p : Param} (hp : p ∈ ps) :
    Shape.word p.name ∈ params ps ∧ Shape.word p.type ∈ params ps := by
  have hsubset : param p ⊆ params ps := by
    cases ps with
    | nil => cases hp
    | cons q ps =>
        rcases List.mem_cons.1 hp with rfl | hp
        · exact List.subset_append_left _ _
        · intro s hs
          refine List.mem_append_right _ (List.mem_flatMap.2 ⟨p, hp, ?_⟩)
          exact List.mem_cons_of_mem _ hs
  exact ⟨hsubset (by simp [param]), hsubset (by simp [param])⟩

/-- The names in a method are words of it, but for a return type that is missing. -/
theorem Member.word_mem {m : Method} {σ : List Shape} (hm : Member m σ) :
    ∀ w ∈ m.names, Shape.word w ∈ σ ∨ w = "void" := by
  cases hm with
  | @intro ks name ps type ret hret =>
      intro w hw
      rcases List.mem_cons.1 hw with rfl | hw
      · exact .inl (by simp)
      rcases List.mem_cons.1 hw with rfl | hw
      · cases hret with
        | missing => exact .inr rfl
        | given => exact .inl (by simp)
      · obtain ⟨p, hp, hw⟩ := List.mem_flatMap.1 hw
        obtain ⟨hname, htype⟩ := word_mem_params hp
        rcases (by simpa using hw : w = p.name ∨ w = p.type) with rfl | rfl
        · exact .inl (by simp [hname])
        · exact .inl (by simp [htype])

theorem Declaration.word_mem {d : Decl} {σ : List Shape} (hd : Declaration d σ) :
    ∀ w ∈ d.names, Shape.word w ∈ σ ∨ w = "void" := by
  cases hd with
  | legacy name value line =>
      intro w hw
      obtain rfl : w = name := by simpa [Decl.names] using hw
      exact .inl (by simp)
  | named name line hbody =>
      intro w hw
      cases hbody with
      | interface ls hms =>
          simp only [Decl.names, List.mem_cons, List.mem_append, List.mem_flatMap] at hw
          rcases hw with rfl | hl | ⟨m, hm, hw⟩
          · exact .inl (by simp)
          · exact .inl (by simp [languages, hl])
          · obtain ⟨vs, hvs, hsubset⟩ := hms.exists_of_mem hm
            refine (hvs.word_mem w hw).imp (fun hmem => ?_) id
            simp [hsubset hmem]
      | enumeration vs =>
          rcases List.mem_cons.1 hw with rfl | hv
          · exact .inl (by simp)
          · exact .inl (by simp [values, hv])
      | setting value =>
          obtain rfl : w = name := by simpa [Decl.names] using hw
          exact .inl (by simp)

end Grammar

/-- **The names of a source are words**: what is read can be written. -/
theorem Description.wellNamed_of_parse {source : String} {d : Description}
    (h : Description.parse source = .ok d) : d.WellNamed := by
  obtain ⟨ts, hscan, hparse⟩ := bind_eq_ok.1 h
  obtain ⟨hderives, -⟩ := Description.derives_of_ofTokens hparse
  intro x hx w hw
  obtain ⟨us, ⟨hx, -⟩, hsubset⟩ := hderives.exists_of_mem hx
  rcases hx.word_mem w hw with hmem | rfl
  · obtain ⟨t, ht, hshape⟩ := List.mem_map.1 hmem
    have hlegible := Token.legible_of_scan hscan t (hsubset ht)
    rw [hshape] at hlegible
    exact hlegible
  · decide

theorem Description.WellNamed.interface {d : Description} (h : d.WellNamed) {i : Interface}
    (hi : i ∈ d.interfaces) :
    isName i.name = true ∧ ∀ m ∈ i.methods, isName m.name = true := by
  obtain ⟨x, hx, hxi⟩ := List.mem_filterMap.1 hi
  cases x with
  | interface j =>
      obtain rfl : j = i := Option.some.inj hxi
      have hnames := h _ hx
      refine ⟨hnames _ List.mem_cons_self, fun m hm => hnames _ ?_⟩
      refine List.mem_cons_of_mem _ (List.mem_append_right _ (List.mem_flatMap.2 ⟨m, hm, ?_⟩))
      exact List.mem_cons_self
  | enumeration e => cases hxi
  | setting s => cases hxi

/-! ### The names of classes -/

theorem Text.hasSuffix_append (suffix s : String) : hasSuffix suffix (s ++ suffix) = true := by
  simp [hasSuffix, String.toList_append]

theorem Text.dropSuffix_append (suffix s : String) : Text.dropSuffix suffix (s ++ suffix) = s := by
  rw [Text.dropSuffix, if_pos (hasSuffix_append suffix s), String.toList_append, String.length_append,
    Nat.add_sub_cancel, ← String.length_toList, List.take_left, String.ofList_toList]

namespace Scope

/-- The classes of a scope have the C names of the interfaces they stand for. -/
def Spelled (s : Scope) : Prop :=
  ∀ k c, s.find? k = some (.object c) → c.name = CType.declaredName k

theorem Spelled.define {s : Scope} (hs : s.Spelled) {name : String} {e : Entry}
    (he : ∀ c, e = .object c → c.name = CType.declaredName name) : (s.define name e).Spelled := by
  intro k c hc
  rw [find?_define] at hc
  split at hc
  · rename_i hk
    rw [hk]
    exact he c (Option.some.inj hc)
  · exact hs k c hc

theorem spelled_empty : ({} : Scope).Spelled := by
  intro k c hc
  simp only [find?, List.lookup_nil] at hc
  split at hc
  · cases hc
  · cases hc

/-- A declaration gives its name a class of its C name, or no class. -/
theorem Spelled.foldl {s : Scope} (hs : s.Spelled) (ds : List Decl) :
    ((ds.filterMap ofDecl?).foldl (fun s x => s.define x.1 x.2) s).Spelled := by
  induction ds generalizing s with
  | nil => exact hs
  | cons x ds ih =>
      cases x with
      | interface i =>
          refine ih (hs.define fun c hc => ?_)
          obtain rfl := Entry.object.inj hc
          rfl
      | enumeration e => exact ih (hs.define fun c hc => by cases hc)
      | setting t => exact ih hs

theorem spelled_ofDescription (d : Description) : (ofDescription d).Spelled :=
  spelled_empty.foldl d.decls

end Scope

/-- The arguments of a method can be told apart: they have different names, and none of a member's
is called like the receiver. -/
def Method.ArgumentsDistinct (m : Method) : Prop :=
  (m.params.map Param.name).Nodup ∧
    (m.isStatic = false → Scope.receiver ∉ m.params.map Param.name)

theorem Method.nodup_argumentNames (m : Method) :
    (m.argumentNames Scope.receiver).Nodup ↔ m.ArgumentsDistinct := by
  cases hstatic : m.isStatic with
  | true => simp [argumentNames, ArgumentsDistinct, hstatic]
  | false => simp [argumentNames, ArgumentsDistinct, hstatic, and_comm]

/-- What the names of a class come from: the interface, its methods and the destructor. -/
structure CClass.Names (i : Interface) (c : CClass) (table : List CSlot) : Prop where
  stem : c.stem = cSpelling i.name
  table_eq : c.table = some table
  functions : List.Forall₂ (fun m f => f.name = cSpelling i.name ++ "_" ++ cSpelling m.name ∧
    f.params.map CParam.name = m.argumentNames Scope.receiver)
      (Boundary.destructor :: i.methods) c.functions
  slots : List.Forall₂ (fun m slot => slot.name = cSpelling m.name ∧
    slot.params.map CParam.name = m.argumentNames Scope.receiver)
      (Boundary.destructor :: i.members) table

namespace Scope

theorem declaredName_of_isName {name : String} (hname : isName name = true) :
    CType.declaredName name = cSpelling name ++ "_t" := by
  rw [CType.declaredName, Words.snake_append (Words.ofCamel_ne_nil hname) (by simp),
    Words.snake_ofCamel, String.append_assoc]
  rfl

theorem stem_of_name {c : CClass} {name : String} (hname : isName name = true)
    (hc : c.name = CType.declaredName name) : c.stem = cSpelling name := by
  rw [CClass.stem, hc, declaredName_of_isName hname, Text.dropSuffix_append]

theorem name_of_isOf {i : Interface} {m : Method} {f : CFunction} (hi : isName i.name = true)
    (hm : isName m.name = true) (hf : CFunction.IsOf i m f) :
    f.name = cSpelling i.name ++ "_" ++ cSpelling m.name := by
  rw [hf, Words.snake_append (Words.ofCamel_ne_nil hi) (Words.ofCamel_ne_nil hm),
    Words.snake_ofCamel, Words.snake_ofCamel]

/-- The names of a class that is specified. -/
theorem names_of_specify {s : Scope} (hs : s.Spelled) {i : Interface} (hi : isName i.name = true)
    (hms : ∀ m ∈ i.methods, isName m.name = true) {c : CClass} (h : (s.specify i).1 = .ok c) :
    ∃ table, c.Names i table := by
  have hdestructor : isName Boundary.destructor.name = true := by decide
  obtain ⟨c₀, fs, slots, hfind, hmethods, rfl⟩ := exists_of_specify h
  obtain ⟨hfunctions, hslots, -⟩ := methods_eq hmethods
  refine ⟨_, stem_of_name hi (hs i.name c₀ hfind), rfl, .cons ⟨?_, rfl⟩ ?_, .cons ⟨?_, rfl⟩ ?_⟩
  · refine name_of_isOf hi hdestructor ?_
    rw [CFunction.IsOf, destructor, ofCamel_destructor]
  · refine ((List.forall₂_and_left _ _).2 ⟨hms, hfunctions⟩).imp ?_
    rintro m f ⟨hm, hf, hparams⟩
    exact ⟨name_of_isOf hi hm hf, hparams⟩
  · rw [destructorSlot, ← Words.snake_ofCamel, snake_destructor]
  · refine hslots.imp fun m slot hslot => ⟨?_, hslot.2⟩
    rw [hslot.1.1, Words.snake_ofCamel]

end Scope

/-! ### Collisions -/

/-- Names that are made in one way from other names are distinct exactly if those are. -/
theorem nodup_map_iff_of_forall₂ {α β : Type} {f : String → String} (hf : Function.Injective f)
    {g : α → String} {h : β → String} {as : List α} {bs : List β}
    (hR : List.Forall₂ (fun a b => h b = f (g a)) as bs) :
    (bs.map h).Nodup ↔ (as.map g).Nodup := by
  have hmap : bs.map h = (as.map g).map f := by
    rw [← List.forall₂_eq_eq_eq, List.map_map, List.forall₂_map_left_iff,
      List.forall₂_map_right_iff]
    exact hR.flip
  rw [hmap, List.nodup_map_iff hf]

namespace CClass.Names

variable {i : Interface} {c : CClass} {table : List CSlot}

theorem nodup_functions (h : c.Names i table) :
    (c.functions.map CFunction.name).Nodup ↔
      ((Boundary.destructor :: i.methods).map fun m => cSpelling m.name).Nodup := by
  -- all functions of a class have the same words in front
  refine nodup_map_iff_of_forall₂ ?_ (h.functions.imp fun m f hf => hf.1)
  exact fun x y hxy => (String.append_right_inj _).1 hxy

theorem nodup_slots (h : c.Names i table) :
    (table.map CSlot.name).Nodup ↔
      ((Boundary.destructor :: i.members).map fun m => cSpelling m.name).Nodup :=
  nodup_map_iff_of_forall₂ Function.injective_id (h.slots.imp fun _ _ hslot => hslot.1)

theorem nodup_functionArguments (h : c.Names i table) :
    List.Forall₂ (fun m f => (f.params.map CParam.name).Nodup ↔ m.ArgumentsDistinct)
      (Boundary.destructor :: i.methods) c.functions := by
  refine h.functions.imp fun m f hf => ?_
  rw [hf.2, m.nodup_argumentNames]

theorem nodup_slotArguments (h : c.Names i table) :
    List.Forall₂ (fun m slot => (slot.params.map CParam.name).Nodup ↔ m.ArgumentsDistinct)
      (Boundary.destructor :: i.members) table := by
  refine h.slots.imp fun m slot hslot => ?_
  rw [hslot.2, m.nodup_argumentNames]

end CClass.Names

/-- The interfaces that have a header. -/
def Description.headed (d : Description) : List Interface :=
  d.interfaces.filter (·.targets headerLanguage)

/-- **When the names of headers are distinct.**  There is one header for each interface that targets
C, and the headers have different names exactly if these interfaces have different C spellings.  In
each class the functions have different names exactly if the destructor and the methods have
different C spellings, and the slots exactly if the destructor and the members have.  The arguments
of a function or a slot have different names exactly if those of its method have, and none of a
member's is called like the receiver. -/
theorem Description.headers_nodup_iff (source : String) (d : Description) (files : List HeaderFile)
    (hd : Description.parse source = .ok d) (hfiles : d.headers = .ok files) :
    ∃ classes : List CClass, files = classes.map CClass.file ∧
      ((files.map HeaderFile.name).Nodup ↔ (d.headed.map fun i => cSpelling i.name).Nodup) ∧
      List.Forall₂ (fun i c => ((Scope.ofDescription d).specify i).1 = .ok c ∧
        ((c.functions.map CFunction.name).Nodup ↔
          ((Boundary.destructor :: i.methods).map fun m => cSpelling m.name).Nodup) ∧
        List.Forall₂ (fun m f => (f.params.map CParam.name).Nodup ↔ m.ArgumentsDistinct)
          (Boundary.destructor :: i.methods) c.functions ∧
        ∃ table, c.table = some table ∧
          ((table.map CSlot.name).Nodup ↔
            ((Boundary.destructor :: i.members).map fun m => cSpelling m.name).Nodup) ∧
          List.Forall₂ (fun m slot => (slot.params.map CParam.name).Nodup ↔ m.ArgumentsDistinct)
            (Boundary.destructor :: i.members) table) d.headed classes := by
  have hnamed := Description.wellNamed_of_parse hd
  have hspelled := Scope.spelled_ofDescription d
  obtain ⟨classes, rfl, hclasses⟩ := Scope.forall₂_of_headersFrom hfiles
  have hmem : ∀ i ∈ d.headed, i ∈ d.interfaces := fun i hi => (List.mem_filter.1 hi).1
  have hnames : List.Forall₂ (fun i c => ((Scope.ofDescription d).specify i).1 = .ok c ∧
      ∃ table, c.Names i table) d.headed classes := by
    refine ((List.forall₂_and_left _ _).2 ⟨hmem, hclasses⟩).imp ?_
    rintro i c ⟨hi, hc⟩
    obtain ⟨hname, hmethods⟩ := hnamed.interface hi
    exact ⟨hc, Scope.names_of_specify hspelled hname hmethods hc⟩
  refine ⟨classes, rfl, ?_, hnames.imp ?_⟩
  · rw [List.map_map]
    refine nodup_map_iff_of_forall₂ (f := (· ++ ".h")) ?_ (hnames.imp ?_)
    · exact fun x y hxy => (String.append_left_inj _).1 hxy
    · rintro i c ⟨-, table, hc⟩
      exact congrArg (· ++ ".h") hc.stem
  · rintro i c ⟨hspecify, table, hc⟩
    exact ⟨hspecify, hc.nodup_functions, hc.nodup_functionArguments, table, hc.table_eq,
      hc.nodup_slots, hc.nodup_slotArguments⟩

/-- Two interfaces that differ in a capital letter, a destructor with a capital letter, and a method
with the receiver and twice the same name among its arguments. -/
def collidingSource : String :=
  "T = interface +c \x7b Destroy(); put(_sides_self: i32, a: i32, a: i32); \x7d " ++
    "t = interface +c \x7b \x7d"

/-- The first of the interfaces. -/
def collidingThing : Interface where
  name := "T"
  languages := ["c"]
  line := 1
  methods := [
    { name := "Destroy", returns := "void" },
    { name := "put", returns := "void"
      params := [⟨"_sides_self", "i32"⟩, ⟨"a", "i32"⟩, ⟨"a", "i32"⟩] }]

/-- The description in the source. -/
def colliding : Description where
  decls := [.interface collidingThing,
    .interface { name := "t", languages := ["c"], methods := [], line := 1 }]

theorem Description.headers_nodup_iff_colliding :
    Description.parse collidingSource = .ok colliding ∧
      ∃ files, colliding.headers = .ok files ∧ ¬(files.map HeaderFile.name).Nodup := by
  have hd : Description.parse collidingSource = .ok colliding := by decide +kernel
  have hheaders : colliding.headers.isOk = true := by decide +kernel
  obtain ⟨files, hfiles⟩ := exists_of_isOk hheaders
  obtain ⟨-, -, hnodup, -⟩ :=
    Description.headers_nodup_iff collidingSource colliding files hd hfiles
  refine ⟨hd, files, hfiles, ?_⟩
  rw [hnodup]
  decide +kernel

/-- The names of a class: its functions, its slots and the arguments of its slots. -/
def CClass.nameLists (c : CClass) : List String × Option (List (String × List String)) :=
  (c.functions.map CFunction.name,
    c.table.map (·.map fun slot => (slot.name, slot.params.map CParam.name)))

/-- **The names of headers can collide**: both files have the same name, and so have two functions
and two slots of the first class, and the arguments of a third. -/
theorem Description.headers_collide :
    Description.parse collidingSource = .ok colliding ∧
      (∃ files, colliding.headers = .ok files ∧ files.map HeaderFile.name = ["t.h", "t.h"]) ∧
      ∃ c, ((Scope.ofDescription colliding).specify collidingThing).1 = .ok c ∧
        c.nameLists = (["t_destroy", "t_destroy", "t_put"],
          some [("destroy", ["_sides_self"]), ("destroy", ["_sides_self"]),
            ("put", ["_sides_self", "_sides_self", "a", "a"])]) := by
  refine ⟨by decide +kernel, map_eq_ok.1 ?_, map_eq_ok.1 ?_⟩
  · decide +kernel
  · decide +kernel

end Handover
