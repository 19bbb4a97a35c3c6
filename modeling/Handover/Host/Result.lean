/-
**Results of scripts.**

A script returns nothing or one value.  A word that is no number is shown by its bits.

Main definitions: `Handover.Result`, `Handover.Result.decode`, `Handover.Result.text`,
`Handover.Result.logValue`.
-/

import Handover.Decimal.Notation
import Handover.Log.Record
import Handover.Wasm.ValType

set_option autoImplicit false

namespace Handover

/-- What a script returned. -/
inductive Result where
  | nothing
  | int32 (v : Int32)
  | int64 (v : Int64)
  | float32 (bits : UInt32)
  | float64 (bits : UInt64)
  | word (bits : UInt64)
deriving DecidableEq, Repr

namespace Result

/-- The value of a type that a word carries. -/
def decode (t : ValType) (bits : UInt64) : Result :=
  if t = .i32 then int32 bits.toUInt32.toInt32
  else if t = .i64 then int64 bits.toInt64
  else if t = .f32 then float32 bits.toUInt32
  else if t = .f64 then float64 bits
  else word bits

/-- The value of a list of result types. -/
def ofWords (types : List ValType) (words : List UInt64) : Result :=
  match types, words with
  | t :: _, w :: _ => decode t w
  | _, _ => nothing

/-- The number that a result is, if it is a floating point number. -/
def binary? : Result → Option Decimal.Binary
  | float32 bits => some (.ofBits .single bits.toNat)
  | float64 bits => some (.ofBits .double bits.toNat)
  | _ => none

/-- The text of a result. -/
def text : Result → String
  | nothing => "<nil>"
  | int32 v => toString v.toInt
  | int64 v => toString v.toInt
  | float32 bits => Decimal.general (.ofBits .single bits.toNat)
  | float64 bits => Decimal.general (.ofBits .double bits.toNat)
  | word bits => toString bits.toNat

/-- The value of a result in the log. -/
def logValue (r : Result) : Log.Value :=
  match r with
  | nothing => .bare "null"
  | _ =>
    match r.binary? with
    | none => .bare r.text
    | some b => if b.isFinite then .bare (Decimal.positional b) else .text r.text

end Result

end Handover
