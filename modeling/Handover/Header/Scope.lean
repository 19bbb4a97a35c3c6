/-
**From interfaces to C classes.**

A scope knows the C type behind each name: the interfaces and enumerations of a description, types
that were added to it, and the primitives.  Specifying an interface fills in its class in the scope.
The class starts over with its destructor and grows method by method, so a method that cannot be
expressed leaves the methods before it in the scope; the table of function pointers is replaced
only at the end.

Main definitions:

* `Handover.Scope` — the names and their types;
* `Handover.Scope.self`, `Handover.Scope.destructor` — what every class starts with;
* `Handover.Scope.specify` — the class of an interface, and the scope afterwards;
* `Handover.Description.headers` — one header for each interface that targets C.
-/

import Handover.Header.CClass

set_option autoImplicit false

namespace Handover

/-- What a name of a scope stands for. -/
inductive Scope.Entry where
  | object (c : CClass)
  | type (t : CType)
deriving DecidableEq, Repr

/-- The type that an entry stands for. -/
def Scope.Entry.ctype : Scope.Entry → CType
  | object c => .object c.name
  | type t => t

/-- The names of a scope, latest definition first. -/
structure Scope where
  entries : List (String × Scope.Entry) := []
deriving DecidableEq, Repr

namespace Scope

/-- Gives a name a meaning, which hides an earlier one. -/
def define (s : Scope) (name : String) (e : Entry) : Scope :=
  ⟨(name, e) :: s.entries.filter (·.1 ≠ name)⟩

/-- The meaning of a declaration, if it introduces a type. -/
def ofDecl? : Decl → Option (String × Entry)
  | .interface i => some (i.name, .object { name := CType.declaredName i.name })
  | .enumeration e => some (e.name, .type (.enumeration (CType.declaredName e.name) e.values))
  | .setting _ => none

/-- The scope of a description. -/
def ofDescription (d : Description) : Scope :=
  (d.decls.filterMap ofDecl?).foldl (fun s (name, e) => s.define name e) {}

/-- What a name stands for, primitives included. -/
def find? (s : Scope) (name : String) : Option Entry :=
  match s.entries.lookup name with
  | some e => some e
  | none => if isPrimitive name then some (.type (.primitive name)) else none

/-- The type of a name. -/
def resolve (s : Scope) (name : String) : Except Failure CType :=
  match s.find? name with
  | some e => .ok e.ctype
  | none => .error (.notFound .generate "type" name)

/-- The name of the receiver argument. -/
def receiver : String := "_sides_self"

/-- The receiver of the methods of a class. -/
def self (c : CClass) : CParam := ⟨receiver, .object c.name⟩

/-- The destructor, which is the first function of a class. -/
def destructor (i : Interface) (c : CClass) : CFunction where
  returns := .primitive "void"
  name := (Words.ofCamel i.name ++ ["destroy"]).snake
  params := [self c]

/-- The slot of the destructor, which is the first of the table. -/
def destructorSlot (c : CClass) : CSlot where
  returns := .primitive "void"
  name := "destroy"
  params := [self c]

/-- The arguments of a method behind its receiver. -/
def params (s : Scope) (ps : List Param) : Except Failure (List CParam) :=
  ps.mapM fun p => return ⟨p.name, ← s.resolve p.type⟩

/-- The function of a method, and its slot unless it is static. -/
def method (s : Scope) (i : Interface) (self : CParam) (m : Method) :
    Except Failure (CFunction × Option CSlot) := do
  if m.isAsync then
    throw (.unsupported .generate ("async method " ++ i.name ++ "." ++ m.name))
  if m.name = "destroy" ∧ !m.isStatic then
    throw (.invalidInput .generate (i.name ++ ".destroy is implicit"))
  let returns ← s.resolve m.returns
  let explicit ← s.params m.params
  let params := if m.isStatic then explicit else self :: explicit
  let words := Words.ofCamel m.name
  let name := (Words.ofCamel i.name ++ words).snake
  return ({ returns, name, params, isStatic := m.isStatic },
    if m.isStatic then none else some { returns, name := words.snake, params })

/-- The functions and slots of the methods up to the first that cannot be expressed, and why it
cannot. -/
def methods (s : Scope) (i : Interface) (self : CParam) :
    List Method → List CFunction × List CSlot × Option Failure
  | [] => ([], [], none)
  | m :: ms =>
    match s.method i self m with
    | .error e => ([], [], some e)
    | .ok (f, slot) =>
      let (fs, slots, e) := s.methods i self ms
      (f :: fs, slot.toList ++ slots, e)

/-- The class of an interface, and the scope with that class as far as it went. -/
def specify (s : Scope) (i : Interface) : Except Failure CClass × Scope :=
  match s.find? i.name with
  | none => (.error (.notFound .generate "type" i.name), s)
  | some (.type t) => (.error (.typeMismatch .generate "class" t.name), s)
  | some (.object c) =>
    let (fs, slots, e) := s.methods i (self c) i.methods
    let reached := { c with functions := destructor i c :: fs }
    match e with
    | some e => (.error e, s.define i.name (.object reached))
    | none =>
      let complete := { reached with table := some (destructorSlot c :: slots) }
      (.ok complete, s.define i.name (.object complete))

end Scope

/-- The language of the headers, as interfaces name it. -/
def headerLanguage : String := "c"

namespace Description

/-- The headers of some interfaces, in order, or the first failure. -/
def headersFrom (s : Scope) : List Interface → Except Failure (List HeaderFile)
  | [] => .ok []
  | i :: is =>
    if i.targets headerLanguage then
      match s.specify i with
      | (.error e, _) => .error e
      | (.ok c, s) => (headersFrom s is).map (c.file :: ·)
    else headersFrom s is

/-- One header for each interface that targets C. -/
def headers (d : Description) : Except Failure (List HeaderFile) :=
  headersFrom (Scope.ofDescription d) d.interfaces

end Description

end Handover
