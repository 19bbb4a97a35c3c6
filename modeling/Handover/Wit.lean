/-
**Interface types.**

The types of the component interface language as far as slots use them.  Every scalar is carried by
one core value; texts and defined types are not.

Main definitions: `Handover.WitType`, its keyword, and the way it is spelled in messages.
-/

set_option autoImplicit false

namespace Handover

/-- An interface type. -/
inductive WitType where
  | bool | s8 | u8 | s16 | u16 | s32 | u32 | s64 | u64 | f32 | f64 | char | string
  /-- A type with a definition of its own. -/
  | defined
deriving DecidableEq, Repr

namespace WitType

/-- All interface types. -/
def all : List WitType :=
  [bool, s8, u8, s16, u16, s32, u32, s64, u64, f32, f64, char, string, defined]

/-- The keyword of a type. -/
def keyword : WitType → String
  | bool => "bool"
  | s8 => "s8"
  | u8 => "u8"
  | s16 => "s16"
  | u16 => "u16"
  | s32 => "s32"
  | u32 => "u32"
  | s64 => "s64"
  | u64 => "u64"
  | f32 => "f32"
  | f64 => "f64"
  | char => "char"
  | string => "string"
  | defined => "typedef"

/-- The type of a keyword. -/
def ofKeyword? (s : String) : Option WitType := all.find? (·.keyword == s)

/-- How messages spell a type. -/
def spelling : WitType → String
  | defined => "*wit.TypeDef"
  | t => "wit." ++ t.keyword.capitalize

/-- How messages spell a signature. -/
def signature (params results : List WitType) : String :=
  let list (ts : List WitType) := "(" ++ ", ".intercalate (ts.map spelling) ++ ")"
  list params ++ " -> " ++ list results

end WitType

end Handover
