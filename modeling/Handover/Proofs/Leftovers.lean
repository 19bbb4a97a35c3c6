/-
**What a failed class leaves behind.**

The class of an interface is filled in where it stands in the scope.  Its functions start over with
the destructor and grow method by method, and the table is put in place at the end.  If a method
cannot be expressed, the functions that were reached stay in the class, without a table.  So a
failure is seen in the class of that interface: it had a struct before and declares some of its
functions now.  It is seen in no other type, and only the first time.  Filling in a class twice is
the same as filling it in once, so that later failures find in the scope what they leave there.

Main definitions:

* `Handover.Scope.shown?` — what can be seen of a name: the type, its spelling and its text;
* `Handover.Scope.filled` — a class as far as it can be filled in.

Main results:

* `Handover.Scope.snd_specify` — specifying an interface fills in its class and nothing else;
* `Handover.Scope.filled_filled` — filling in twice is filling in once;
* `Handover.Scope.find?_after` — the scope after any history;
* `Handover.Scope.failure_changes_own_class` — **a failure changes its own class, the first time**;
* `Handover.Scope.failure_leaves_functions` — a failure that shows.
-/

import Handover.Proofs.Reordering
import Handover.Proofs.SelfContainment
import Handover.Proofs.Streaming

set_option autoImplicit false

namespace Handover

/-- The interfaces of a source are told apart by their names. -/
theorem Description.Distinct.eq_of_name_eq {d : Description} (hd : d.Distinct) {i j : Interface}
    (hi : i ∈ d.interfaces) (hj : j ∈ d.interfaces) (hname : i.name = j.name) : i = j := by
  have hdecl : Decl.interface i = .interface j :=
    List.inj_on_of_nodup_map hd.names (Description.interface_mem_decls hi)
      (Description.interface_mem_decls hj) hname
  exact Decl.interface.inj hdecl

namespace Scope

/-! ### What is seen of a scope -/

/-- The code of a type, if it has some. -/
def Entry.code? : Entry → Option Code
  | object c => some c.code
  | type (.enumeration name values) => some (.line (enumLine name values))
  | type _ => none

/-- What can be seen of a type: its name, how a signature spells it, and the text of its code. -/
def Entry.shown (e : Entry) : String × String × Option Bytes :=
  (e.ctype.name, e.ctype.param, e.code?.map Code.render)

/-- What can be seen of the type that a name stands for. -/
def shown? (s : Scope) (name : String) : Option (String × String × Option Bytes) :=
  (s.find? name).map Entry.shown

/-! ### Filling in a class -/

variable {s s' : Scope} {i : Interface} {c : CClass}

/-- The class of an interface as far as it can be filled in: the functions of the methods that were
reached, and the table as it was if a method cannot be expressed. -/
def filled (s : Scope) (i : Interface) (c : CClass) : CClass :=
  { name := c.name
    table := if (s.methods i (self c) i.methods).2.2.isSome then c.table
      else some (destructorSlot c :: (s.methods i (self c) i.methods).2.1)
    functions := destructor i c :: (s.methods i (self c) i.methods).1 }

/-- Specifying an interface fills in its class and nothing else. -/
theorem snd_specify (hc : s.find? i.name = some (.object c)) :
    (s.specify i).2 = s.define i.name (.object (s.filled i c)) := by
  rw [specify, hc, filled]
  rcases hms : s.methods i (self c) i.methods with ⟨fs, slots, e⟩
  cases e with
  | some e => simp only [hms]; rfl
  | none => simp only [hms]; rfl

theorem snd_specify_of_ne_object (hc : ∀ c, s.find? i.name ≠ some (.object c)) :
    (s.specify i).2 = s := by
  rw [specify]
  split
  · rfl
  · rfl
  · rename_i c hfind
    exact absurd hfind (hc c)

/-- Specifying an interface leaves all other names alone. -/
theorem find?_specify_of_ne {name : String} (hname : name ≠ i.name) :
    (s.specify i).2.find? name = s.find? name := by
  by_cases hc : ∃ c, s.find? i.name = some (.object c)
  · obtain ⟨c, hc⟩ := hc
    rw [snd_specify hc, find?_define, if_neg hname]
  · rw [snd_specify_of_ne_object fun c h => hc ⟨c, h⟩]

theorem find?_specify (hc : s.find? i.name = some (.object c)) :
    (s.specify i).2.find? i.name = some (.object (s.filled i c)) := by
  rw [snd_specify hc, find?_define, if_pos rfl]

theorem filled_of_alike (h : Alike s s') (i : Interface) (c : CClass) :
    s.filled i c = s'.filled i c := by
  rw [filled, filled, methods_of_alike h]

/-- Filling in a class twice is filling it in once: the functions start over, and the table is
either replaced or left alone both times. -/
theorem filled_filled (s : Scope) (i : Interface) (c : CClass) :
    s.filled i (s.filled i c) = s.filled i c := by
  have hself : self (s.filled i c) = self c := rfl
  have hdestructor : destructor i (s.filled i c) = destructor i c := rfl
  have hslot : destructorSlot (s.filled i c) = destructorSlot c := rfl
  rw [filled, hself, hdestructor, hslot]
  cases hms : (s.methods i (self c) i.methods).2.2 with
  | some e => simp [filled, hms]
  | none => simp [filled, hms]

/-! ### After any history -/

variable {d : Description}

/-- After any history a class is filled in as far as it can be if its interface was specified, and
as it was before if not. -/
theorem find?_after (hd : d.Distinct) {past : List Interface} (hpast : ∀ j ∈ past, j ∈ d.interfaces)
    (hi : i ∈ d.interfaces) (hs : Alike s (ofDescription d))
    (hc : s.find? i.name = some (.object c)) :
    (s.after past).find? i.name =
      some (.object (if i ∈ past then (ofDescription d).filled i c else c)) := by
  induction past generalizing s c with
  | nil => exact hc
  | cons j past ih =>
      obtain ⟨hj, hmore⟩ := List.forall_mem_cons.1 hpast
      have hs' : Alike (s.specify j).2 (ofDescription d) :=
        fun name => (alike_specify s j name).trans (hs name)
      rw [after_cons]
      by_cases hij : i = j
      · -- from here on the class is filled in, and filling it in again changes nothing
        subst hij
        have hfilled := find?_specify hc
        rw [filled_of_alike hs] at hfilled
        rw [ih hmore hs' hfilled, if_pos List.mem_cons_self, filled_filled, ite_self]
      · have hname : i.name ≠ j.name := fun h => hij (hd.eq_of_name_eq hi hj h)
        have hfind : (s.specify j).2.find? i.name = some (.object c) := by
          rw [find?_specify_of_ne hname, hc]
        rw [ih hmore hs' hfind]
        simp [hij]

/-! ### Failures -/

/-- The methods in front of the one that cannot be expressed have functions. -/
theorem exists_of_methods_failure {p : CParam} {ms : List Method} {fs : List CFunction}
    {slots : List CSlot} {e : Failure} (h : s.methods i p ms = (fs, slots, some e)) :
    ∃ front m back, ms = front ++ m :: back ∧ s.methods i p front = (fs, slots, none) ∧
      s.method i p m = .error e := by
  induction ms generalizing fs slots with
  | nil => simp [methods] at h
  | cons m ms ih =>
      rw [methods] at h
      cases hm : s.method i p m with
      | error e' =>
          obtain ⟨rfl, rfl, rfl⟩ : [] = fs ∧ [] = slots ∧ e' = e := by simpa [hm] using h
          exact ⟨[], m, ms, rfl, rfl, hm⟩
      | ok x =>
          obtain ⟨f, slot?⟩ := x
          rcases hms : s.methods i p ms with ⟨fs', slots', e'⟩
          obtain ⟨rfl, rfl, rfl⟩ : f :: fs' = fs ∧ slot?.toList ++ slots' = slots ∧ e' = some e := by
            simpa [hm, hms] using h
          obtain ⟨front, m', back, rfl, hfront, hm'⟩ := ih hms
          exact ⟨m :: front, m', back, rfl, by rw [methods, hm, hfront], hm'⟩

/-- A class whose interface cannot be expressed keeps its table and has the functions of the methods
in front of the one to blame. -/
theorem filled_of_failure {e : Failure} (hc : s.find? i.name = some (.object c))
    (h : (s.specify i).1 = .error e) :
    ∃ front m back fs slots, i.methods = front ++ m :: back ∧
      s.methods i (self c) front = (fs, slots, none) ∧ s.method i (self c) m = .error e ∧
      s.filled i c = { c with functions := destructor i c :: fs } := by
  rcases hms : s.methods i (self c) i.methods with ⟨fs, slots, e'⟩
  obtain rfl : e' = some e := by
    rw [specify, hc] at h
    simp only [hms] at h
    cases e' with
    | none => cases h
    | some e' => exact congrArg some (Except.error.inj h)
  obtain ⟨front, m, back, heq, hfront, hm⟩ := exists_of_methods_failure hms
  refine ⟨front, m, back, fs, slots, heq, hfront, hm, ?_⟩
  simp [filled, hms]

/-- A function is seen in a class that had none. -/
theorem shown_ne_of_functions (hfunctions : c.functions = []) (f : CFunction)
    (fs : List CFunction) :
    (Entry.object { c with functions := f :: fs }).shown ≠ (Entry.object c).shown := by
  intro h
  have hrender : ({ c with functions := f :: fs } : CClass).code.render = c.code.render :=
    Option.some.inj (congrArg (fun x => x.2.2) h)
  rw [Code.render_eq_flat, Code.render_eq_flat] at hrender
  -- the struct and the table are the same, so the functions would have to be
  have htable : ({ c with functions := f :: fs } : CClass).tableCode = c.tableCode := rfl
  simp only [CClass.code, Code.flat, hfunctions, List.flatMap_append, htable] at hrender
  have hlines := List.append_cancel_left hrender
  simp [Code.flat, Code.lineBytes] at hlines

/-- A failure is seen in its own class unless the interface was specified before. -/
theorem shown?_specify_iff (hd : d.Distinct) {past : List Interface}
    (hpast : ∀ j ∈ past, j ∈ d.interfaces) (hi : i ∈ d.interfaces) {e : Failure}
    (hfail : (((ofDescription d).after past).specify i).1 = .error e) :
    (((ofDescription d).after past).specify i).2.shown? i.name =
      ((ofDescription d).after past).shown? i.name ↔ i ∈ past := by
  have hfind := find?_after hd hpast hi (fun _ => rfl) (find?_interface hd hi)
  rw [shown?, shown?, find?_specify hfind, hfind]
  by_cases hmem : i ∈ past
  · rw [if_pos hmem, filled_of_alike (alike_after _ past), filled_filled]
    exact iff_of_true rfl hmem
  · rw [if_neg hmem] at hfind ⊢
    obtain ⟨-, -, -, fs, -, -, -, -, hfilled⟩ := filled_of_failure hfind hfail
    rw [hfilled]
    exact iff_of_false (fun h => shown_ne_of_functions rfl _ fs (Option.some.inj h)) hmem

/-- **A failure changes its own class, the first time.**  Let an interface fail in a scope that was
made from a source and has any history.  Then all other names show the same as before.  If the
interface has a class, its table stays and its functions are now the destructor and those of the
methods in front of the one to blame; without a class nothing changes at all.  So if only
interfaces of the source were specified, a name shows the same as before exactly if it is not that
of the interface, or if the interface was specified before. -/
theorem failure_changes_own_class (source : String) (d : Description) (past : List Interface)
    (i : Interface) (e : Failure) (hd : Description.parse source = .ok d)
    (hfail : (((ofDescription d).after past).specify i).1 = .error e) :
    let s := (ofDescription d).after past
    let s' := (s.specify i).2
    (∀ name, name ≠ i.name → s'.shown? name = s.shown? name) ∧
      (∀ c, s.find? i.name = some (.object c) → ∃ front m back fs slots,
        i.methods = front ++ m :: back ∧ s.methods i (self c) front = (fs, slots, none) ∧
        s.method i (self c) m = .error e ∧
        s'.find? i.name = some (.object { c with functions := destructor i c :: fs })) ∧
      ((∀ c, s.find? i.name ≠ some (.object c)) → s' = s) ∧
      ((∀ j ∈ past, j ∈ d.interfaces) → i ∈ d.interfaces →
        ∀ name, s'.shown? name = s.shown? name ↔ (name = i.name → i ∈ past)) := by
  intro s s'
  have hother : ∀ name, name ≠ i.name → s'.shown? name = s.shown? name := by
    intro name hname
    rw [shown?, shown?, find?_specify_of_ne hname]
  refine ⟨hother, ?_, snd_specify_of_ne_object, ?_⟩
  · intro c hc
    obtain ⟨front, m, back, fs, slots, hmethods, hfront, hm, hfilled⟩ := filled_of_failure hc hfail
    exact ⟨front, m, back, fs, slots, hmethods, hfront, hm, by rw [find?_specify hc, hfilled]⟩
  · intro hpast hi name
    by_cases hname : name = i.name
    · subst hname
      rw [shown?_specify_iff (Description.distinct_of_parse hd) hpast hi hfail]
      exact ⟨fun hmem _ => hmem, fun h => h rfl⟩
    · exact iff_of_true (hother name hname) fun h => absurd h hname

end Scope

/-- An interface whose second method cannot be expressed. -/
def halfwayThing : Interface where
  name := "T"
  languages := ["c"]
  line := 1
  methods := [{ name := "a", returns := "i32" },
    { name := "f", returns := "void", params := [⟨"x", "Missing"⟩] }]

/-- An interface that uses it. -/
def usingThing : Interface where
  name := "U"
  languages := ["c"]
  line := 1
  methods := [{ name := "g", returns := "T", params := [⟨"t", "T"⟩] }]

def halfwaySource : String :=
  "T = interface +c \x7b a(): i32; f(x: Missing); \x7d U = interface +c \x7b g(t: T): T; \x7d"

/-- The description in the source. -/
def halfway : Description where
  decls := [.interface halfwayThing, .interface usingThing]

theorem parse_halfway : Description.parse halfwaySource = .ok halfway := by
  decide +kernel

/-- The type that is missing is blamed, whatever was specified before. -/
theorem Scope.specify_halfway (past : List Interface) :
    (((Scope.ofDescription halfway).after past).specify halfwayThing).1 =
      .error (.notFound .generate "type" "Missing") := by
  rw [Scope.specify_after]
  decide +kernel

theorem Scope.failure_changes_own_class_halfway :
    let s := (Scope.ofDescription halfway).after [usingThing]
    let again := (Scope.ofDescription halfway).after [halfwayThing, usingThing]
    Description.parse halfwaySource = .ok halfway ∧
      (s.specify halfwayThing).1 = .error (.notFound .generate "type" "Missing") ∧
      (s.specify halfwayThing).2.shown? "U" = s.shown? "U" ∧
      (s.specify halfwayThing).2.shown? "T" ≠ s.shown? "T" ∧
      (again.specify halfwayThing).1 = .error (.notFound .generate "type" "Missing") ∧
      ∀ name, (again.specify halfwayThing).2.shown? name = again.shown? name := by
  have hfirst := Scope.failure_changes_own_class halfwaySource halfway [usingThing] halfwayThing _
    parse_halfway (Scope.specify_halfway _)
  have hagain := Scope.failure_changes_own_class halfwaySource halfway [halfwayThing, usingThing]
    halfwayThing _ parse_halfway (Scope.specify_halfway _)
  have hfirst := hfirst.2.2.2 (by decide +kernel) (by decide +kernel)
  have hagain := hagain.2.2.2 (by decide +kernel) (by decide +kernel)
  refine ⟨parse_halfway, Scope.specify_halfway _, ?_, ?_, Scope.specify_halfway _, ?_⟩
  · exact (hfirst "U").2 (by decide)
  · exact fun h => absurd ((hfirst "T").1 h rfl) (by decide +kernel)
  · exact fun name => (hagain name).2 fun _ => List.mem_cons_self

theorem Scope.shown_object (c : CClass) : (Entry.object c).shown =
    (c.name, c.name ++ "*", some (c.code.lines.flatMap Code.lineBytes)) := by
  rw [← Code.flat_eq_flatMap_lines, ← Code.render_eq_flat]
  rfl

/-- **A failure shows**: the class had a struct only, and has two functions and no table after the
failure. -/
theorem Scope.failure_leaves_functions :
    Description.parse halfwaySource = .ok halfway ∧
      ((Scope.ofDescription halfway).specify halfwayThing).1 =
        .error (.notFound .generate "type" "Missing") ∧
      (Scope.ofDescription halfway).shown? "T" =
        some ("t_t", "t_t*", some (["typedef struct t_s t_t;"].flatMap Code.lineBytes)) ∧
      ((Scope.ofDescription halfway).specify halfwayThing).2.shown? "T" =
        some ("t_t", "t_t*", some (["typedef struct t_s t_t;", "void t_destroy(t_t* _sides_self);",
          "int t_a(t_t* _sides_self);"].flatMap Code.lineBytes)) := by
  have hbefore : (Scope.ofDescription halfway).find? "T" = some (.object { name := "t_t" }) := by
    decide +kernel
  have hafter : ((Scope.ofDescription halfway).specify halfwayThing).2.find? "T" =
      some (.object {
        name := "t_t"
        functions := [
          { returns := .primitive "void", name := "t_destroy"
            params := [⟨"_sides_self", .object "t_t"⟩] },
          { returns := .primitive "i32", name := "t_a"
            params := [⟨"_sides_self", .object "t_t"⟩] }] }) := by
    decide +kernel
  refine ⟨parse_halfway, Scope.specify_halfway [], ?_, ?_⟩
  · rw [Scope.shown?, hbefore, Option.map_some, Scope.shown_object]
    rfl
  · rw [Scope.shown?, hafter, Option.map_some, Scope.shown_object]
    rfl

end Handover
