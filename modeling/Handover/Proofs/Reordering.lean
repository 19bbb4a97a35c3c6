/-
**What a header does not depend on.**

Headers are made one after the other in a scope that changes on the way.  A class that was specified
before leaves its functions and its table there, and one that failed leaves what it had got; the
scope itself was filled in the order of the declarations.  None of this shows in a header.  A class
is made from the names of its types only, and names stay what they are.  So each class is made as
if it were the only one, and another order of the declarations gives the same headers in another
order.

Main definitions: `Handover.Scope.after` — a scope in which some interfaces were specified.

Main results:

* `Handover.Scope.specify_after` — a class does not depend on what was specified before;
* `Handover.Scope.find?_of_perm` — names do not depend on the order of the declarations;
* `Handover.Description.exists_headers_of_perm` — another order gives the same headers;
* `Handover.Description.headers_of_any_order` — **a header depends on neither order nor history**.
-/

import Handover.Proofs.Offences
import Mathlib.Data.List.Perm.Basic

set_option autoImplicit false

namespace Handover

/-! ### History -/

namespace Scope

/-- The scope after some interfaces were specified in it, one after the other, whether or not each of
them could be expressed. -/
def after (s : Scope) (past : List Interface) : Scope := past.foldl (fun s i => (s.specify i).2) s

theorem after_cons (s : Scope) (i : Interface) (past : List Interface) :
    s.after (i :: past) = (s.specify i).2.after past := rfl

/-- What was specified before shows in the members of classes only. -/
theorem alike_after (s : Scope) (past : List Interface) : Alike (s.after past) s := by
  induction past generalizing s with
  | nil => exact fun _ => rfl
  | cons i past ih =>
      intro name
      rw [after_cons]
      exact (ih (s.specify i).2 name).trans (alike_specify s i name)

/-- A class does not depend on what was specified before. -/
theorem specify_after (s : Scope) (past : List Interface) (i : Interface) :
    ((s.after past).specify i).1 = (s.specify i).1 :=
  specify_of_alike (alike_after s past) i

end Scope

/-! ### Order -/

section Order

variable {d d' : Description}

theorem Description.Distinct.of_perm (hd : d.Distinct) (h : d'.decls.Perm d.decls) :
    d'.Distinct where
  names := (h.map Decl.name).nodup_iff.2 hd.names
  methods := fun x hx => hd.methods x (h.mem_iff.1 hx)

theorem Description.headed_perm (h : d'.decls.Perm d.decls) : d'.headed.Perm d.headed :=
  (h.filterMap Decl.interface?).filter _

/-- A name stands for the same in any order of the declarations. -/
theorem Scope.find?_of_perm (hd : d.Distinct) (h : d'.decls.Perm d.decls) (name : String) :
    (ofDescription d').find? name = (ofDescription d).find? name := by
  have hnames : name ∈ d'.typeNames ↔ name ∈ d.typeNames :=
    (h.filterMap Decl.typeName?).mem_iff
  by_cases hname : name ∈ d.typeNames
  · rw [← map_fst_ofDecl?] at hname
    obtain ⟨⟨name, e⟩, he, rfl⟩ := List.mem_map.1 hname
    obtain ⟨x, hx, hxe⟩ := List.mem_filterMap.1 he
    rw [find?_of_mem hd hx hxe, find?_of_mem (hd.of_perm h) (h.mem_iff.2 hx) hxe]
  · rw [find?_of_notMem hname, find?_of_notMem (mt hnames.1 hname)]

theorem Scope.alike_of_perm (hd : d.Distinct) (h : d'.decls.Perm d.decls) :
    Alike (ofDescription d') (ofDescription d) := by
  intro name
  rw [find?_of_perm hd h]

/-- Another order of the declarations gives the same headers, in another order. -/
theorem Description.exists_headers_of_perm (hd : d.Distinct) (h : d'.decls.Perm d.decls)
    {files : List HeaderFile} (hfiles : d.headers = .ok files) :
    ∃ files', d'.headers = .ok files' ∧ files'.Perm files := by
  have hspecify : (fun i => ((Scope.ofDescription d').specify i).1) =
      fun i => ((Scope.ofDescription d).specify i).1 :=
    funext (Scope.specify_of_alike (Scope.alike_of_perm hd h))
  rw [headers, Scope.headersFrom_eq_mapM] at hfiles
  obtain ⟨classes, hclasses, rfl⟩ := map_eq_ok.1 hfiles
  obtain ⟨classes', hclasses', hperm⟩ :=
    List.perm_comp_forall₂ (headed_perm h) (forall₂_of_mapM_eq_ok hclasses)
  refine ⟨classes'.map CClass.file, ?_, hperm.map CClass.file⟩
  rw [headers, Scope.headersFrom_eq_mapM, hspecify]
  exact map_eq_ok.2 ⟨classes', mapM_eq_ok_of_forall₂ hclasses', rfl⟩

end Order

/-- **A header depends on neither order nor history.**  If a description was read from a source, then
with its declarations in any other order there are headers exactly if there were, with the same
names and the same texts.  And whatever was specified before, with or without success and in
whatever order the scope was filled, an interface has the same class, or fails in the same way, as
in a new scope. -/
theorem Description.headers_of_any_order (source : String) (d d' : Description)
    (hd : Description.parse source = .ok d) (hperm : d'.decls.Perm d.decls) :
    ((∃ files, d'.headers = .ok files) ↔ ∃ files, d.headers = .ok files) ∧
      (∀ files files', d.headers = .ok files → d'.headers = .ok files' →
        (files'.map fun f => (f.name, f.code.render)).Perm
          (files.map fun f => (f.name, f.code.render))) ∧
      ∀ past i, (((Scope.ofDescription d').after past).specify i).1 =
        ((Scope.ofDescription d).specify i).1 := by
  have hdistinct := Description.distinct_of_parse hd
  refine ⟨⟨?_, ?_⟩, ?_, ?_⟩
  · rintro ⟨files', hfiles'⟩
    obtain ⟨files, hfiles, -⟩ :=
      Description.exists_headers_of_perm (hdistinct.of_perm hperm) hperm.symm hfiles'
    exact ⟨files, hfiles⟩
  · rintro ⟨files, hfiles⟩
    obtain ⟨files', hfiles', -⟩ := Description.exists_headers_of_perm hdistinct hperm hfiles
    exact ⟨files', hfiles'⟩
  · intro files files' hfiles hfiles'
    obtain ⟨files'', hfiles'', hsame⟩ := Description.exists_headers_of_perm hdistinct hperm hfiles
    obtain rfl : files' = files'' := Except.ok.inj (hfiles'.symm.trans hfiles'')
    exact hsame.map _
  · intro past i
    rw [Scope.specify_after, Scope.specify_of_alike (Scope.alike_of_perm hdistinct hperm)]

/-- An interface that refers ahead. -/
def aheadThing : Interface where
  name := "A"
  languages := ["c"]
  line := 1
  methods := [{ name := "f", returns := "E", params := [⟨"b", "B"⟩] }]

/-- An interface without a header, which fails at its second method. -/
def brokenThing : Interface where
  name := "Q"
  languages := ["py"]
  line := 1
  methods := [{ name := "g", returns := "A" }, { name := "h", returns := "void", isAsync := true }]

/-- An interface that refers back. -/
def backThing : Interface where
  name := "B"
  languages := ["c"]
  line := 1
  methods := [{ name := "join", returns := "B", params := [⟨"a", "A"⟩] }]

def crossingSource : String :=
  "A = interface +c \x7b f(b: B): E; \x7d Q = interface +py \x7b g(): A; async h(); \x7d " ++
    "B = interface +c \x7b join(a: A): B; \x7d E = enum \x7b x; \x7d"

/-- The description in the source. -/
def crossing : Description where
  decls := [.interface aheadThing, .interface brokenThing, .interface backThing,
    .enumeration { name := "E", values := ["x"], line := 1 }]

theorem Description.headers_of_any_order_crossing :
    Description.parse crossingSource = .ok crossing ∧
      ∃ d' : Description, d'.decls = crossing.decls.reverse ∧
        (∃ files files', crossing.headers = .ok files ∧ d'.headers = .ok files' ∧
          (files'.map fun f => (f.name, f.code.render)).Perm
            (files.map fun f => (f.name, f.code.render))) ∧
        ((Scope.ofDescription crossing).specify brokenThing).1.isOk = false ∧
        (((Scope.ofDescription d').after [brokenThing, backThing, brokenThing]).specify
          aheadThing).1 = ((Scope.ofDescription crossing).specify aheadThing).1 := by
  have hd : Description.parse crossingSource = .ok crossing := by decide +kernel
  have hfiles : crossing.headers.isOk = true := by decide +kernel
  obtain ⟨hiff, hsame, hpast⟩ := Description.headers_of_any_order crossingSource crossing
    ⟨crossing.decls.reverse⟩ hd (List.reverse_perm _)
  obtain ⟨files, hfiles⟩ := exists_of_isOk hfiles
  obtain ⟨files', hfiles'⟩ := hiff.2 ⟨files, hfiles⟩
  exact ⟨hd, _, rfl, ⟨files, files', hfiles, hfiles', hsame _ _ hfiles hfiles'⟩,
    by decide +kernel, hpast _ _⟩

end Handover
