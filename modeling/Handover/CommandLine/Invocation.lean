/-
**Invocations.**

What the program is asked to do: which settings override those of the file, and which of its three
commands to perform.

Main definitions:

* `Handover.CommandLine.Overrides`, `Handover.CommandLine.Command` — the parts of an invocation;
* `Overrides.read`, `Command.read` — the parts that the arguments and variables make;
* `Handover.CommandLine.paths` — the files that an invocation is about.
-/

import Handover.CommandLine.Flags
import Handover.Script.Reference
import Handover.Settings

set_option autoImplicit false

namespace Handover.CommandLine

/-! ### Commands -/

/-- What overrides the settings. -/
structure Overrides where
  /-- The file of settings. -/
  file : String := ""
  logLevel : Option String := none
  logFormat : Option String := none
deriving DecidableEq, Repr

/-- How the reference thing is handed to a script. -/
structure RunOptions where
  script : Option String := none
  /-- Run the reference script in place of a file. -/
  isBuiltin : Bool := false
  number : Option Int := none
  /-- Print what happened to the thing. -/
  hasTrace : Bool := false
  /-- Use a thing that C built. -/
  isForeign : Bool := false
  isInteractive : Bool := false
deriving DecidableEq, Repr

/-- A command of the program. -/
inductive Command where
  | run (options : RunOptions)
  /-- Write the reference script to a file. -/
  | script (options : Script.Options) (path : String)
  /-- Write the headers of an interface description into a directory. -/
  | header (source directory : String)
deriving DecidableEq, Repr

/-! ### Flags of the commands -/

/-- The flags before the command. -/
def globalFlags : List Flag := [
  { name := "config", aliases := ["c"], standIn := some Settings.fileVariable },
  { name := "loglvl", standIn := some "SIDES_LOGLVL" },
  { name := "logfmt", aliases := ["f"], standIn := some "SIDES_LOGFMT" }]

/-- The flags of `run`. -/
def runFlags : List Flag := [
  { name := "script", aliases := ["s"], standIn := some "SIDES_SCRIPT" },
  { name := "builtin", kind := .switch },
  { name := "number", aliases := ["n"], kind := .number },
  { name := "trace", kind := .switch },
  { name := "foreign", kind := .switch },
  { name := "interactive", aliases := ["i"], kind := .switch }]

/-- The flags of `script`. -/
def scriptFlags : List Flag := [
  { name := "no-trace", kind := .switch },
  { name := "no-destroy", kind := .switch },
  { name := "trap", kind := .switch }]

/-! ### Reading -/

/-- Reads the flags of a command and the variables that stand in for them. -/
def given (vars : Variables) (known : List Flag) (args : List String) : Except Failure Given := do
  return standIns vars known (← readFlags known args)

/-- The command of a name and arguments. -/
def Command.read (vars : Variables) (name : String) (args : List String) :
    Except Failure Command := do
  match name with
  | "run" =>
    let g ← given vars runFlags args
    return .run {
      script := g.value? "script", isBuiltin := g.isOn "builtin"
      number := (g.value? "number").bind integer?, hasTrace := g.isOn "trace"
      isForeign := g.isOn "foreign", isInteractive := g.isOn "interactive" }
  | "script" =>
    let g ← given vars scriptFlags args
    let options : Script.Options := {
      trace := !g.isOn "no-trace", destroy := !g.isOn "no-destroy", trap := g.isOn "trap" }
    return .script options (Script.pathOr (g.arguments.head?.getD ""))
  | "header" =>
    let g ← given vars [] args
    let directory := g.arguments[1]?.getD ""
    return .header (g.arguments.head?.getD "") (if directory = "" then "." else directory)
  | _ => throw (.plain ("No help topic for " ++ Text.quote name))

/-- The overrides and the arguments after them. -/
def Overrides.read (vars : Variables) (args : List String) :
    Except Failure (Overrides × List String) := do
  let g ← given vars globalFlags args
  let overrides := {
    file := (g.value? "config").getD "", logLevel := g.value? "loglvl"
    logFormat := g.value? "logfmt" }
  return (overrides, g.arguments)

/-- The settings of a file with the overrides, checked. -/
def Overrides.settings (o : Overrides) (files : File.Tree) : Except Failure Settings := do
  let s ← Settings.ofVariable files o.file
  let s := { s with
    logLevel := o.logLevel.getD s.logLevel, logFormat := o.logFormat.getD s.logFormat }
  s.check
  return s

/-! ### Paths -/

/-- The paths that a command reads or writes. -/
def Command.paths (s : Settings) : Command → List String
  | run o => if o.isBuiltin then [] else [Script.pathOr (o.script.getD s.script)]
  | script _ path => [path]
  | header source directory => [source, directory]

/-- The command that is left after the overrides; without one, help is asked for. -/
def Command.ofArguments (vars : Variables) (args : List String) : Except Failure Command :=
  Command.read vars (args.head?.getD "help") args.tail

/-- The paths that an invocation is about, as far as the files that are known tell them. -/
def paths (vars : Variables) (files : File.Tree) (args : List String) : List String :=
  match Overrides.read vars args with
  | .error _ => []
  | .ok (overrides, rest) =>
    let named := do return (← Command.ofArguments vars rest).paths (← overrides.settings files)
    overrides.file :: match named with
      | .ok paths => paths
      | .error _ => []

end Handover.CommandLine
