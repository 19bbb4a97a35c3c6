/-
**Types and signatures of a C header.**

A type has a name and a spelling as a parameter or return type: an object is passed by pointer, an
enumeration by value, and a primitive by its C equivalent.

Main definitions:

* `Handover.CType` — the types that a signature can use;
* `Handover.CType.param` — how a signature spells one;
* `Handover.primitiveSpelling` — the C equivalent of a built-in name.
-/

import Handover.Interface.Primitive
import Handover.Interface.Words
import Handover.Text.Suffix

set_option autoImplicit false

namespace Handover

/-- The C equivalent of a signed built-in name, of `long`, `size` and `void`. -/
def signedSpelling : String → String
  | "i8" => "char"
  | "i16" => "short"
  | "i32" => "int"
  | "i64" => "long long"
  | "long" => "long"
  | "size" => "unsigned long"
  | "void" => "void"
  | _ => ""

/-- The C equivalent of a built-in name, empty for any other name.  An unsigned type is spelled by
its signed twin. -/
def primitiveSpelling (name : String) : String :=
  if signedSpelling name ≠ "" then signedSpelling name
  else match name.toList with
    | 'u' :: bits =>
      let signed := signedSpelling (String.ofList ('i' :: bits))
      if signed ≠ "" then "unsigned " ++ signed else ""
    | _ => ""

/-- A type of a header. -/
inductive CType where
  | primitive (name : String)
  /-- An object type, by the name of its struct. -/
  | object (name : String)
  | enumeration (name : String) (values : List String)
  /-- A type whose spelling is given. -/
  | custom (name param : String)
deriving DecidableEq, Repr

namespace CType

/-- The name of a type. -/
def name : CType → String
  | primitive name => name
  | object name => name
  | enumeration name _ => name
  | custom name _ => name

/-- The spelling of a type in a signature. -/
def param : CType → String
  | primitive name => primitiveSpelling name
  | object name => name ++ "*"
  | enumeration name _ => name
  | custom _ param => param

/-- The C name of a declared type. -/
def declaredName (name : String) : String := (Words.ofCamel name ++ ["t"]).snake

end CType

/-- A named, typed argument. -/
structure CParam where
  name : String
  type : CType
deriving DecidableEq, Repr

/-- The arguments of a signature. -/
def CParam.join (ps : List CParam) : String :=
  ", ".intercalate (ps.map fun p => p.type.param ++ " " ++ p.name)

/-- A C function. -/
structure CFunction where
  returns : CType
  name : String
  params : List CParam
  isStatic : Bool := false
deriving DecidableEq, Repr

/-- The declaration of a function. -/
def CFunction.line (f : CFunction) : String :=
  f.returns.param ++ " " ++ f.name ++ "(" ++ CParam.join f.params ++ ");"

/-- An entry of a table of function pointers. -/
structure CSlot where
  returns : CType
  name : String
  params : List CParam
deriving DecidableEq, Repr

/-- The field of a slot. -/
def CSlot.line (s : CSlot) : String :=
  "\t" ++ s.returns.param ++ " (*" ++ s.name ++ ")(" ++ CParam.join s.params ++ ");"

end Handover
