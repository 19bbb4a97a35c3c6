/-
**Failures and faults.**

A failure is returned.  It either carries only a text, because it comes from the surroundings, or
it is a report: where it happened (the phase), of which kind it is, and what it is about.  A report
may name the failure that caused it.  A fault is raised: it stops a call that broke the protocol.

Main definitions:

* `Handover.Phase`, `Handover.Kind` — the two labels by which reports are told apart;
* `Handover.Report`, `Handover.Failure` — a report, and a chain of them;
* `Handover.Failure.message` — the one place where a failure gets its wording;
* `Handover.Failure.matches` — whether a failure, or a cause of it, has the labels of another;
* `Handover.Fault` — what stops a call.
-/

import Handover.Text.Directive

set_option autoImplicit false

namespace Handover

/-! ### Labels -/

/-- Where in the processing a failure arose. -/
structure Phase where
  label : String
deriving DecidableEq, Repr

namespace Phase

/-- Putting a value behind a handle. -/
def wrap : Phase := ⟨"wrap"⟩
/-- Calling a slot. -/
def dispatch : Phase := ⟨"dispatch"⟩
/-- Handing a value over at the entry point. -/
def boundary : Phase := ⟨"boundary"⟩
/-- Setting up and running the guest. -/
def host : Phase := ⟨"host"⟩
/-- Loading a script. -/
def load : Phase := ⟨"load"⟩
/-- Reading an interface description. -/
def parse : Phase := ⟨"parse"⟩
/-- Writing headers. -/
def generate : Phase := ⟨"generate"⟩
/-- Reading settings. -/
def config : Phase := ⟨"config"⟩

end Phase

/-- The sort of a failure. -/
structure Kind where
  label : String
deriving DecidableEq, Repr

namespace Kind

def allocation : Kind := ⟨"allocation"⟩
def protocol : Kind := ⟨"protocol"⟩
def invalidHandle : Kind := ⟨"invalid_handle"⟩
def hostFailure : Kind := ⟨"host_failure"⟩
def notFound : Kind := ⟨"not_found"⟩
def typeMismatch : Kind := ⟨"type_mismatch"⟩
def invalidInput : Kind := ⟨"invalid_input"⟩
def invalidData : Kind := ⟨"invalid_data"⟩
def unsupported : Kind := ⟨"unsupported"⟩
def instantiation : Kind := ⟨"instantiation"⟩
def registration : Kind := ⟨"registration"⟩

end Kind

/-! ### Reports -/

/-- What a failure says about itself.  An empty text, a zero handle and a line that is not positive
mean that there is nothing to say. -/
structure Report where
  phase : Phase
  kind : Kind
  /-- The source line, counted from one. -/
  line : Int := 0
  handle : Nat := 0
  /-- The type on the host's side. -/
  hostType : String := ""
  /-- The type in the interface description. -/
  witType : String := ""
  detail : String := ""
  /-- The offending value. -/
  value : Option String := none
deriving DecidableEq, Repr

namespace Report

/-- The types that a report names. -/
def types (r : Report) : String :=
  if r.hostType ≠ "" ∧ r.witType ≠ "" then
    "Go type " ++ r.hostType ++ ", WIT type " ++ r.witType
  else if r.hostType ≠ "" then "Go type " ++ r.hostType
  else if r.witType ≠ "" then "WIT type " ++ r.witType
  else ""

/-- The text of a report without its cause. -/
def message (r : Report) : String :=
  let types := r.types
  "[" ++ r.phase.label ++ "] " ++ r.kind.label
    ++ (if 0 < r.line then " at line " ++ toString r.line else "")
    ++ (if r.handle ≠ 0 then " (handle " ++ Text.address r.handle ++ ")" else "")
    ++ (if types ≠ "" then ": " ++ types else "")
    ++ (if r.detail ≠ "" then (if types ≠ "" then " - " else ": ") ++ r.detail else "")

end Report

/-! ### Failures -/

/-- Something that went wrong and was returned. -/
inductive Failure where
  /-- A failure of the surroundings, of which only the text is known. -/
  | plain (text : String)
  | report (r : Report)
  /-- A report with the failure that caused it. -/
  | caused (r : Report) (cause : Failure)
deriving DecidableEq, Repr, Inhabited

namespace Failure

/-- The text of a failure, causes included. -/
def message : Failure → String
  | plain text => text
  | report r => r.message
  | caused r cause => r.message ++ " (caused by: " ++ cause.message ++ ")"

/-- The report at the head of a failure. -/
def head? : Failure → Option Report
  | plain _ => none
  | report r => some r
  | caused r _ => some r

/-- The failure, its cause, the cause of that, and so on. -/
def chain : Failure → List Failure
  | plain text => [plain text]
  | report r => [report r]
  | caused r cause => caused r cause :: cause.chain

/-- Whether the head has the phase and the kind of the head of `target`. -/
def alike (f target : Failure) : Bool :=
  match f.head?, target.head? with
  | some r, some t => r.phase == t.phase && r.kind == t.kind
  | _, _ => false

/-- Whether the failure or one of its causes is alike to `target`. -/
def «matches» (f target : Failure) : Bool := f.chain.any (·.alike target)

/-- A report with a cause, if there is one. -/
def because (r : Report) : Option Failure → Failure
  | none => report r
  | some cause => caused r cause

/-! ### The usual reports -/

/-- A handle that names no live object. -/
def invalidHandle (phase : Phase) (h : Nat) : Failure :=
  report { phase, kind := .invalidHandle, handle := h, detail := "handle is not live" }

/-- A breach of the ownership protocol. -/
def protocol (phase : Phase) (h : Nat) (detail : String) : Failure :=
  report { phase, kind := .protocol, handle := h, detail }

/-- A failure that the guest raised. -/
def hostFailure (detail : String) (cause : Option Failure) : Failure :=
  because { phase := .host, kind := .hostFailure, detail } cause

/-- Two types that should agree and do not. -/
def typeMismatch (phase : Phase) (hostType witType : String) : Failure :=
  report { phase, kind := .typeMismatch, hostType, witType }

/-- Something that is not offered. -/
def unsupported (phase : Phase) (what : String) : Failure :=
  report { phase, kind := .unsupported, detail := what }

/-- A name that nothing bears. -/
def notFound (phase : Phase) (what name : String) : Failure :=
  report { phase, kind := .notFound, detail := what ++ " " ++ Text.quote name ++ " not found" }

/-- An input that is refused. -/
def invalidInput (phase : Phase) (detail : String) : Failure :=
  report { phase, kind := .invalidInput, detail }

/-- Data that cannot be used. -/
def invalidData (phase : Phase) (detail : String) : Failure :=
  report { phase, kind := .invalidData, detail }

/-- A host function that could not be offered. -/
def registration (module name : String) (cause : Option Failure) : Failure :=
  because { phase := .host, kind := .registration, detail := "register " ++ module ++ "#" ++ name }
    cause

/-- A guest that could not be started. -/
def instantiation (cause : Option Failure) : Failure :=
  because { phase := .host, kind := .instantiation, detail := "instantiate module" } cause

/-- A script that could not be loaded. -/
def load (detail : String) (cause : Option Failure) : Failure :=
  because { phase := .load, kind := .invalidData, detail } cause

/-- A mistake in an interface description. -/
def syntaxAt (line : Int) (detail : String) : Failure :=
  report { phase := .parse, kind := .invalidInput, line, detail }

/-- A failure in a wider context. -/
def within (phase : Phase) (kind : Kind) (cause : Option Failure) (detail : String) : Failure :=
  because { phase, kind, detail } cause

end Failure

/-! ### Faults -/

/-- What stops a call. -/
inductive Fault where
  /-- A broken protocol, reported. -/
  | failure (f : Failure)
  /-- A slot was read from a holder or a proxy that has none any more. -/
  | emptySlot
  /-- A place beyond the end of a list was read. -/
  | beyondEnd (index length : Nat)
  /-- A message raised by a payload. -/
  | message (text : String)
deriving DecidableEq, Repr

/-- The text of a fault. -/
def Fault.text : Fault → String
  | .failure f => f.message
  | .emptySlot => "runtime error: invalid memory address or nil pointer dereference"
  | .beyondEnd i n =>
    "runtime error: index out of range [" ++ toString i ++ "] with length " ++ toString n
  | .message text => text

end Handover
