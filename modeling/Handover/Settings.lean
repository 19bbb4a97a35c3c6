/-
**Settings.**

The settings of the program: which script to run, how to log, how much memory a script may use, and
the number of the reference thing.  They are read from a file in which every key must be known.

Main definitions:

* `Handover.Settings` — the settings, with their defaults;
* `Handover.Settings.check` — the rules that they obey;
* `Handover.Settings.load` — the settings of a file;
* `Handover.Settings.ofVariable` — the settings of the file that a variable names.
-/

import Handover.Failure
import Handover.File.Tree
import Handover.Log.Record
import Handover.Object.Payload
import Handover.Script.File
import Handover.Toml.Document
import Handover.Wasm.Program

set_option autoImplicit false

namespace Handover

/-- The settings of the program. -/
structure Settings where
  script : String := Script.defaultPath
  logLevel : String := Log.Level.info.name
  logFormat : String := "text"
  memoryLimitPages : UInt32 := 0
  number : Int32 := defaultNumber
deriving DecidableEq, Repr

namespace Settings

/-- The variable that names the file of settings. -/
def fileVariable : String := "SIDES_CONFIG"

/-! ### Rules -/

/-- The ways in which the log can be written. -/
def logFormats : List String := ["text", "json"]

/-- The failure of settings that break a rule. -/
def refusal (value : String) (detail : String) : Failure :=
  .report { phase := .config, kind := .invalidInput, detail, value := some value }

/-- Checks the rules; the first one that is broken counts. -/
def check (s : Settings) : Except Failure Unit := do
  if (Log.Level.ofName? s.logLevel).isNone then
    throw (refusal s.logLevel "log_level must be debug, info, warn or error")
  if !logFormats.contains s.logFormat then
    throw (refusal s.logFormat "log_format must be text or json")
  if s.script = "" then throw (.invalidInput .config "script must not be empty")
  if Program.maxPages < s.memoryLimitPages.toNat then
    throw (refusal (toString s.memoryLimitPages)
      ("memory_limit_pages must be at most " ++ toString Program.maxPages))

/-! ### Keys -/

/-- A character in the form in which letters that differ only in case are equal. -/
def foldChar (c : Char) : Char :=
  if c = '\u017f' then 's' else if c = '\u212a' then 'k' else c.toLower

/-- Whether two keys differ at most in the case of letters. -/
def isAlike (a b : String) : Bool := a.toList.map foldChar == b.toList.map foldChar

/-- The known key that a written one stands for: an equal one, or else one that is alike. -/
def knownKey? (known : List String) (key : String) : Option String :=
  if known.contains key then some key else known.find? (isAlike · key)

/-- The known keys of the file. -/
def keys : List String := ["script", "log_level", "log_format", "memory_limit_pages", "reference"]

/-- The known keys of the table of the reference thing. -/
def referenceKeys : List String := ["number"]

/-- Whether a written key is known. -/
def isKnown : Toml.Path → Bool
  | [k] => (knownKey? keys k).isSome
  | [k, l] => knownKey? keys k = some "reference" && (knownKey? referenceKeys l).isSome
  | _ => false

/-! ### Reading -/

/-- The text that a value is. -/
def textOf? : Toml.Datum → Option String
  | .text s => some s
  | _ => none

/-- The number that a value is, if it lies between two bounds. -/
def numberOf? (least most : Int) : Toml.Datum → Option Int
  | .whole n => if least ≤ n ∧ n ≤ most then some n else none
  | _ => none

/-- Takes over an entry of the table of the reference thing. -/
def applyReference (s : Settings) (entry : String × Toml.Datum) : Option Settings :=
  match knownKey? referenceKeys entry.1 with
  | some _ => do
    let n ← numberOf? Int32.minValue.toInt Int32.maxValue.toInt entry.2
    return { s with number := Int32.ofInt n }
  | none => some s

/-- Takes over an entry of the file.  Unknown keys are passed over. -/
def apply (s : Settings) (entry : String × Toml.Datum) : Option Settings := do
  match knownKey? keys entry.1 with
  | some "script" => return { s with script := ← textOf? entry.2 }
  | some "log_level" => return { s with logLevel := ← textOf? entry.2 }
  | some "log_format" => return { s with logFormat := ← textOf? entry.2 }
  | some "memory_limit_pages" =>
    let n ← numberOf? 0 (UInt32.size - 1 : Nat) entry.2
    return { s with memoryLimitPages := n.toNat.toUInt32 }
  | some _ =>
    match entry.2 with
    | .table entries => entries.foldlM applyReference s
    | _ => failure
  | none => return s

/-- The failure of a file that cannot be read as settings. -/
def undecodable (path reason : String) : Failure :=
  .within .config .invalidData (some (.plain reason)) ("decode " ++ path)

/-- The settings of a file. -/
def load (files : File.Tree) (path : String) : Except Failure Settings := do
  let bytes ← (files.read path).mapError fun p => undecodable path p.message
  let refused := undecodable path "the file is not well-formed"
  let some document := Toml.Document.ofBytes? bytes | throw refused
  let some settings := document.root.foldlM apply {} | throw refused
  match document.keys.find? (!isKnown ·) with
  | some key =>
    let detail := path ++ ": unknown key " ++ Toml.Path.spelling key
    throw (.report { phase := .config, kind := .invalidInput, detail })
  | none =>
    settings.check
    return settings

/-- The settings of the file that a variable names; without a name, the defaults. -/
def ofVariable (files : File.Tree) (value : String) : Except Failure Settings :=
  if value = "" then .ok {} else load files value

end Settings

end Handover
