/-
**Interface descriptions.**

A description is a list of declarations: interfaces with their methods, enumerations, and settings
that bind a name to a text.  Every declaration knows the source line of its name.

Main definitions:

* `Handover.Interface`, `Handover.Enumeration`, `Handover.Setting` — the three declarations;
* `Handover.Decl`, `Handover.Description` — one of them, and a whole description;
* `Handover.Interface.members` — the methods that act on an object.
-/

set_option autoImplicit false

namespace Handover

/-- A named, typed argument of a method. -/
structure Param where
  name : String
  type : String
deriving DecidableEq, Repr

/-- One method of an interface. -/
structure Method where
  name : String
  returns : String
  params : List Param := []
  isStatic : Bool := false
  isAsync : Bool := false
deriving DecidableEq, Repr

/-- An object type and its methods. -/
structure Interface where
  name : String
  /-- The languages the interface is generated for. -/
  languages : List String
  methods : List Method
  line : Nat
deriving DecidableEq, Repr

/-- A set of named values. -/
structure Enumeration where
  name : String
  values : List String
  line : Nat
deriving DecidableEq, Repr

/-- A name bound to a text. -/
structure Setting where
  name : String
  value : String
  /-- Whether it is written between hash marks. -/
  isLegacy : Bool
  line : Nat
deriving DecidableEq, Repr

/-- One declaration. -/
inductive Decl where
  | interface (i : Interface)
  | enumeration (e : Enumeration)
  | setting (s : Setting)
deriving DecidableEq, Repr

/-- The name that a declaration introduces. -/
def Decl.name : Decl → String
  | interface i => i.name
  | enumeration e => e.name
  | setting s => s.name

/-- The source line of that name. -/
def Decl.line : Decl → Nat
  | interface i => i.line
  | enumeration e => e.line
  | setting s => s.line

/-- The interface that a declaration is, if it is one. -/
def Decl.interface? : Decl → Option Interface
  | interface i => some i
  | _ => none

/-- The setting that a declaration is, if it is one. -/
def Decl.setting? : Decl → Option Setting
  | setting s => some s
  | _ => none

namespace Interface

/-- The methods that act on an object, in order. -/
def members (i : Interface) : List Method := i.methods.filter (!·.isStatic)

/-- The method of a name. -/
def method? (i : Interface) (name : String) : Option Method := i.methods.find? (·.name == name)

/-- Whether the interface is generated for a language. -/
def targets (i : Interface) (language : String) : Bool := i.languages.contains language

end Interface

/-- A whole description. -/
structure Description where
  decls : List Decl
deriving DecidableEq, Repr

namespace Description

/-- The interfaces, in order. -/
def interfaces (d : Description) : List Interface := d.decls.filterMap Decl.interface?

/-- The interface of a name. -/
def interface? (d : Description) (name : String) : Option Interface :=
  d.interfaces.find? (·.name == name)

/-- The text bound to a name. -/
def setting? (d : Description) (name : String) : Option String :=
  ((d.decls.filterMap Decl.setting?).find? (·.name == name)).map (·.value)

end Description

end Handover
