/-
**Flags.**

Flags stand before the other arguments of a command, behind one dash or two.  A flag that is not
just switched on takes the text behind an equals sign or the next argument.  What follows the first
argument that is no flag, or two dashes alone, is left to the command.  A variable stands in for a
flag that is not given.

Main definitions:

* `Handover.CommandLine.Flag` — a flag that a command knows;
* `Handover.CommandLine.Given` — the flags that were given, and the arguments after them;
* `Handover.CommandLine.readFlags` — reads the flags of a command;
* `Handover.CommandLine.integer?` — the value of a number.
-/

import Handover.Failure
import Handover.Text.Quoted
import Handover.Toml.Numeral

set_option autoImplicit false

namespace Handover.CommandLine

/-- The values of variables. -/
abbrev Variables := String → Option String

/-! ### Values -/

/-- The truth value that a text spells. -/
def truth? (s : String) : Option Bool :=
  if ["1", "t", "T", "true", "TRUE", "True"].contains s then some true
  else if ["0", "f", "F", "false", "FALSE", "False"].contains s then some false
  else none

/-- Whether every underscore in the digits stands between two of them; one may also stand between
the mark of a base and the digits. -/
def hasGoodUnderscores (digitBefore : Bool) : List Char → Bool
  | [] => true
  | '_' :: c :: cs => digitBefore && c ≠ '_' && hasGoodUnderscores true (c :: cs)
  | ['_'] => false
  | _ :: cs => hasGoodUnderscores true cs

/-- The number that digits spell; they may start with the mark of a base, and a zero that is not
alone means base eight. -/
def magnitude? (cs : List Char) : Option Nat :=
  let based (base : Nat) (isMarked : Bool) (ds : List Char) : Option Nat :=
    if hasGoodUnderscores isMarked ds then Toml.naturalIn base (ds.filter (· ≠ '_')) else none
  match cs with
  | '0' :: m :: d :: ds =>
    if m = 'x' ∨ m = 'X' then based 16 true (d :: ds)
    else if m = 'o' ∨ m = 'O' then based 8 true (d :: ds)
    else if m = 'b' ∨ m = 'B' then based 2 true (d :: ds)
    else based 8 true (m :: d :: ds)
  | ['0', d] => based 8 true [d]
  | ds => based 10 false ds

/-- The number of 64 bits that a text spells. -/
def integer? (s : String) : Option Int := do
  let n : Int ← match s.toList with
    | '-' :: cs => (magnitude? cs).map fun n => -(n : Int)
    | '+' :: cs => (magnitude? cs).map fun n => (n : Int)
    | cs => (magnitude? cs).map fun n => (n : Int)
  if Int64.minValue.toInt ≤ n ∧ n ≤ Int64.maxValue.toInt then some n else none

/-! ### Flags -/

/-- What a flag takes. -/
inductive Kind where
  | switch
  | text
  | number
deriving DecidableEq, Repr

/-- A flag that a command knows. -/
structure Flag where
  name : String
  aliases : List String := []
  kind : Kind := .text
  /-- The variable that stands in for the flag. -/
  standIn : Option String := none
deriving DecidableEq, Repr

/-- The flags that were given, by name, the latest first, and the arguments after them. -/
structure Given where
  flags : List (String × String) := []
  arguments : List String := []
deriving DecidableEq, Repr

namespace Given

/-- The value of a flag, if it was given. -/
def value? (g : Given) (name : String) : Option String := g.flags.lookup name

/-- Whether a switch is on. -/
def isOn (g : Given) (name : String) : Bool := ((g.value? name).bind truth?).getD false

end Given

/-- Whether a flag takes a value. -/
def Kind.accepts : Kind → String → Bool
  | switch, v => (truth? v).isSome
  | text, _ => true
  | number, v => (integer? v).isSome

/-- The name and the value of an argument that is written as a flag. -/
def split? (arg : String) : Option (String × Option String) :=
  let cut (cs : List Char) : Option (String × Option String) :=
    match cs with
    | [] => none
    | '-' :: _ => none
    | '=' :: _ => none
    | _ =>
      let name := String.ofList (cs.takeWhile (· ≠ '='))
      match cs.dropWhile (· ≠ '=') with
      | [] => some (name, none)
      | _ :: v => some (name, some (String.ofList v))
  match arg.toList with
  | '-' :: '-' :: cs => cut cs
  | '-' :: cs => cut cs
  | _ => none

/-- Whether an argument ends the flags: it does not start with a dash, or is a dash alone. -/
def endsFlags (arg : String) : Bool := !arg.startsWith "-" || arg = "-"

/-- Reads the flags that a command knows from its arguments. -/
def readFlags (known : List Flag) : List String → Except Failure Given
  | [] => .ok {}
  | "--" :: args => .ok { arguments := args }
  | arg :: args =>
    if endsFlags arg then .ok { arguments := arg :: args }
    else
      match split? arg with
      | none => .error (.plain ("bad flag syntax: " ++ arg))
      | some (name, value?) =>
        match known.find? fun f => f.name = name ∨ name ∈ f.aliases with
        | none => .error (.plain ("flag provided but not defined: -" ++ name))
        | some flag =>
          let keep (value : String) (given : Except Failure Given) : Except Failure Given :=
            if flag.kind.accepts value then
              given.map fun g => { g with flags := g.flags ++ [(flag.name, value)] }
            else
              .error (.plain ("invalid value " ++ Text.quote value ++ " for flag -" ++ name
                ++ ": parse error"))
          match value? with
          | some v => keep v (readFlags known args)
          | none =>
            if flag.kind = .switch then keep "true" (readFlags known args)
            else
              match args with
              | v :: rest => keep v (readFlags known rest)
              | [] => .error (.plain ("flag needs an argument: -" ++ name))

/-- Adds the variables that stand in for flags that were not given. -/
def standIns (vars : Variables) (known : List Flag) (g : Given) : Given :=
  { g with flags := g.flags ++ known.filterMap fun f => do
      return (f.name, ← vars (← f.standIn)) }

end Handover.CommandLine
