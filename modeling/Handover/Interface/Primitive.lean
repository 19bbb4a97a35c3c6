/-
**Primitive type names.**

The names that an interface description may use without declaring them.  All but `void` have an
interface type.

Main definitions:

* `Handover.Primitive` — the built-in names;
* `Handover.Method.resultTypes?`, `Handover.Method.paramTypes?` — the interface types of a method
  whose type names are all built in.
-/

import Handover.Interface.Decl
import Handover.Wit

set_option autoImplicit false

namespace Handover

/-- A built-in type name. -/
inductive Primitive where
  | i8 | i16 | i32 | i64 | u8 | u16 | u32 | u64 | long | size | void
deriving DecidableEq, Repr

namespace Primitive

/-- All built-in names. -/
def all : List Primitive := [i8, i16, i32, i64, u8, u16, u32, u64, long, size, void]

/-- The spelling of a built-in name. -/
def name : Primitive → String
  | i8 => "i8"
  | i16 => "i16"
  | i32 => "i32"
  | i64 => "i64"
  | u8 => "u8"
  | u16 => "u16"
  | u32 => "u32"
  | u64 => "u64"
  | long => "long"
  | size => "size"
  | void => "void"

/-- The built-in name with a spelling. -/
def ofName? (s : String) : Option Primitive := all.find? (·.name == s)

/-- The interface type of a built-in name. -/
def wit? : Primitive → Option WitType
  | i8 => some .s8
  | i16 => some .s16
  | i32 => some .s32
  | i64 => some .s64
  | u8 => some .u8
  | u16 => some .u16
  | u32 => some .u32
  | u64 => some .u64
  | long => some .s64
  | size => some .u64
  | void => none

end Primitive

/-- Whether a type name is built in. -/
def isPrimitive (name : String) : Bool := (Primitive.ofName? name).isSome

/-- The interface type of a type name. -/
def WitType.ofName? (name : String) : Option WitType := (Primitive.ofName? name).bind Primitive.wit?

namespace Method

/-- The interface types of what a method returns: none for `void`. -/
def resultTypes? (m : Method) : Option (List WitType) :=
  if m.returns = "void" then some [] else (WitType.ofName? m.returns).map ([·])

/-- The interface types of the parameters of a method. -/
def paramTypes? (m : Method) : Option (List WitType) :=
  m.params.mapM fun p => WitType.ofName? p.type

end Method

end Handover
