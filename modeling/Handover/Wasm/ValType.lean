/-
**Value types and signatures.**

A core value type is a byte of the binary format.  Four of them are numbers; a script may also use
vectors and references, and any other byte can be written down but not loaded.

Main definitions:

* `Handover.ValType` — a value type;
* `Handover.FuncType` — the signature of a function;
* `Handover.WitType.flatten?` — the value type that carries an interface type.
-/

import Handover.Text.Hex
import Handover.Wit

set_option autoImplicit false

namespace Handover

/-- A core value type, by its byte. -/
structure ValType where
  code : UInt8
deriving DecidableEq, Repr

namespace ValType

def i32 : ValType := ⟨0x7f⟩
def i64 : ValType := ⟨0x7e⟩
def f32 : ValType := ⟨0x7d⟩
def f64 : ValType := ⟨0x7c⟩
def v128 : ValType := ⟨0x7b⟩
def funcref : ValType := ⟨0x70⟩
def externref : ValType := ⟨0x6f⟩

/-- The name of a number type; any other byte is shown as such. -/
def name (t : ValType) : String :=
  if t = i32 then "i32"
  else if t = i64 then "i64"
  else if t = f32 then "f32"
  else if t = f64 then "f64"
  else "valtype(0x" ++ Text.hexPadded 2 t.code.toNat ++ ")"

/-- The number type of a name. -/
def ofName? (s : String) : Option ValType := [i32, i64, f32, f64].find? (·.name == s)

/-- The name of a type in a signature. -/
def signatureName (t : ValType) : String :=
  if t = i32 ∨ t = i64 ∨ t = f32 ∨ t = f64 then t.name
  else if t = externref then "externref"
  else "unknown"

/-- Whether a module may use the type. -/
def isKnown (t : ValType) : Bool := [i32, i64, f32, f64, v128, funcref, externref].contains t

end ValType

/-- The signature of a function. -/
structure FuncType where
  params : List ValType := []
  results : List ValType := []
deriving DecidableEq, Repr

/-- How messages spell a signature. -/
def FuncType.spelling (t : FuncType) : String :=
  let list (ts : List ValType) := "(" ++ ", ".intercalate (ts.map ValType.signatureName) ++ ")"
  "func" ++ list t.params ++ " -> " ++ list t.results

/-- The value type that carries a scalar; texts and defined types have none. -/
def WitType.flatten? : WitType → Option ValType
  | .bool | .s8 | .u8 | .s16 | .u16 | .s32 | .u32 | .char => some .i32
  | .s64 | .u64 => some .i64
  | .f32 => some .f32
  | .f64 => some .f64
  | .string | .defined => none

/-- The value types that carry a list of scalars. -/
def WitType.flattenAll? (ts : List WitType) : Option (List ValType) := ts.mapM flatten?

end Handover
