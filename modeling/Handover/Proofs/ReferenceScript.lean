/-
**What the reference script does.**

The reference script is built by importing the log and then every slot, in the order of the slots,
and by writing the indices that the imports were given into the body of `main`.  Signatures are
shared, the indices are written with variable length, and all of it is read back before it runs; a
wrong index anywhere would still be a script that loads, but one that calls another slot.

This module says what a host sees of it.  A host offers the log and the two slots that the script
uses; run against such a host the script makes the calls that its options ask for, in this order,
each with the handle that it was given, and its result is the number.

Main definitions:

* `Handover.Script.referenceProgram` — the program of the reference script;
* `Handover.Script.Offers` — a host that offers the log and the two slots;
* `Handover.Script.meaning` — what the script does with them;
* `Handover.Script.calls`, `Handover.Script.recorder` — the calls that it makes, and a host that
  writes them down.

Main results:

* `Handover.Script.load?_reference` — the bytes stand for the program;
* `Handover.Script.perform_referenceProgram` — what the program does;
* `Handover.Script.reference_meaning` — **the meaning of the reference script**.
-/

import Handover.Proofs.Bench
import Handover.Proofs.Building
import Handover.Proofs.Guest
import Handover.Proofs.Instructions
import Handover.Proofs.TableLayout

set_option autoImplicit false

namespace Handover

/-! ### Imports -/

namespace Script

/-- The function that the script imports for a slot. -/
def slotImport (s : Slot) : ImportedFunction where
  module := thingModule
  name := s.name
  type := slotType s

/-- The indices are those of slots that were imported in order, the first one as `start`. -/
structure Numbered (start : Nat) (slots : List Slot) (indices : List (String × UInt32)) : Prop where
  found : ∀ i s, slots[i]? = some s → indices.lookup s.name = some (start + i).toUInt32
  missing : ∀ name, name ∉ slots.map (·.name) → indices.lookup name = none

/-- Of slots with different names each one is found under its own index. -/
theorem Numbered.cons {start : Nat} {s : Slot} {slots : List Slot}
    {indices : List (String × UInt32)} (h : Numbered (start + 1) slots indices)
    (hs : s.name ∉ slots.map (·.name)) :
    Numbered start (s :: slots) (indices ++ [(s.name, start.toUInt32)]) where
  found := by
    intro i t ht
    cases i with
    | zero =>
        obtain rfl : s = t := by simpa using ht
        simp [List.lookup_append, h.missing s.name hs]
    | succ i =>
        have hfound := h.found i t (by simpa using ht)
        rw [List.lookup_append, hfound, Option.some_or]
        exact congrArg (fun n => some (Nat.toUInt32 n)) (by omega)
  missing := by
    intro name hname
    simp only [List.map_cons, List.mem_cons, not_or] at hname
    obtain ⟨hne, hrest⟩ := hname
    rw [List.lookup_append, h.missing name hrest, Option.none_or, List.lookup_cons,
      beq_false_of_ne hne]
    rfl

/-- Importing slots adds one function for each. -/
theorem run_importSlots {slots : List Slot} (hnames : (slots.map (·.name)).Nodup) {m : Module}
    {fs : List ImportedFunction} (hm : m.Draft fs) (hroom : fs.length + slots.length < UInt32.size) :
    ∃ indices m', (importSlots slots).run m = .ok indices m' ∧
      m'.Draft (fs ++ slots.map slotImport) ∧ Numbered fs.length slots indices := by
  induction slots generalizing m fs with
  | nil => exact ⟨[], m, rfl, by simpa using hm, by simp, by simp⟩
  | cons s slots ih =>
      obtain ⟨hs, hnames⟩ := List.nodup_cons.1 hnames
      rw [List.length_cons] at hroom
      obtain ⟨m₁, hrun₁, hm₁⟩ := Module.run_importFunc hm (by omega) (slotImport s)
      have hroom₁ : (fs ++ [slotImport s]).length + slots.length < UInt32.size := by
        rw [List.length_append, List.length_singleton]
        omega
      obtain ⟨indices, m', hrun, hm', hnumbered⟩ := ih hnames hm₁ hroom₁
      rw [List.length_append, List.length_singleton] at hnumbered
      refine ⟨indices ++ [(s.name, fs.length.toUInt32)], m', ?_, ?_, hnumbered.cons hs⟩
      · simp only [importSlots, EStateM.run_bind]
        rw [show (Module.importFunc thingModule s.name (slotType s)).run m = _ from hrun₁]
        simp only [hrun]
        rfl
      · simpa using hm'

/-- However many slots there are, each is imported. -/
theorem length_imports_importSlots (slots : List Slot) {m : Module} (hm : m.funcs = []) :
    ∃ indices m', (importSlots slots).run m = .ok indices m' ∧ m'.funcs = [] ∧
      m'.imports.length = m.imports.length + slots.length := by
  induction slots generalizing m with
  | nil => exact ⟨[], m, rfl, hm, rfl⟩
  | cons s slots ih =>
      obtain ⟨idx, m₁, hrun₁, hm₁, hlength₁⟩ :=
        Module.length_imports_importFunc thingModule s.name (slotType s) hm
      obtain ⟨indices, m', hrun, hm', hlength⟩ := ih hm₁
      refine ⟨indices ++ [(s.name, idx)], m', ?_, hm', ?_⟩
      · simp only [importSlots, EStateM.run_bind, hrun₁, hrun]
        rfl
      · rw [hlength, hlength₁, List.length_cons]
        omega

/-! ### The program -/

/-- The signature of `main`. -/
def mainType : FuncType := { params := [.i64], results := [.i32] }

/-- The function that is exported as `main`, given the indices of two slots. -/
def mainFunction (opts : Options) (number destroy : UInt32) : Function where
  type := mainType
  locals := [.i32]
  code := instructions opts 0 number destroy

/-- The functions that the script imports. -/
def importsOf (slots : List Slot) : List ImportedFunction :=
  Host.logFunction :: slots.map slotImport

/-- The program of the reference script. -/
def referenceProgram (slots : List Slot) (opts : Options) (number destroy : UInt32) : Program where
  imports := importsOf slots
  functions := [mainFunction opts number destroy]
  exports := [{ name := mainExport, idx := (slots.length + 1).toUInt32 }]

/-- What is asked of the slots: names differ, and the two that the script uses have the signatures
that it relies on. -/
structure Suits (slots : List Slot) : Prop where
  names : (slots.map (·.name)).Nodup
  number : ∃ t : WitType, t.flatten? = some .i32 ∧ { name := "number", results := [t] } ∈ slots
  destroy : { name := "destroy" } ∈ slots

/-- The two slots have these indices. -/
structure Placed (slots : List Slot) (number destroy : UInt32) : Prop where
  number : (importsOf slots)[number.toNat]? =
    some { module := thingModule, name := "number", type := mainType }
  destroy : (importsOf slots)[destroy.toNat]? =
    some { module := thingModule, name := "destroy", type := { params := [.i64] } }

/-- A slot is imported under the index after its position, since the log comes first. -/
theorem getElem?_importsOf {slots : List Slot} {i : Nat} {s : Slot} (hi : slots[i]? = some s)
    (hroom : slots.length + 1 < UInt32.size) :
    (importsOf slots)[(1 + i).toUInt32.toNat]? = some (slotImport s) := by
  have hlt : i < slots.length := (List.getElem?_eq_some_iff.1 hi).1
  have hidx : (1 + i).toUInt32.toNat = i + 1 := by
    rw [Nat.add_comm]
    exact UInt32.toNat_ofNat_of_lt' (by omega)
  rw [hidx, importsOf, List.getElem?_cons_succ, List.getElem?_map, hi, Option.map_some]

/-- Building the script imports the log and every slot, and exports `main`. -/
theorem exporting_assemble {slots : List Slot} (hnames : (slots.map (·.name)).Nodup)
    (opts : Options) (hroom : slots.length + 1 < UInt32.size) :
    ∃ indices, Numbered 1 slots indices ∧
      (Module.build (assemble slots opts)).Exporting (importsOf slots) mainExport mainType {
        locals := [.i32]
        code := Instr.encodeAll (mainFunction opts ((indices.lookup "number").getD 0)
          ((indices.lookup "destroy").getD 0)).code } := by
  obtain ⟨m₁, hrun₁, hm₁⟩ := Module.run_importFunc .empty (by decide) Host.logFunction
  obtain ⟨indices, m₂, hrun₂, hm₂, hindices⟩ :=
    run_importSlots hnames hm₁ (by simp only [List.nil_append, List.length_singleton]; omega)
  have hlength : ([] ++ [Host.logFunction] ++ slots.map slotImport).length < UInt32.size := by
    simp only [List.nil_append, List.length_append, List.length_singleton, List.length_map]
    omega
  obtain ⟨m₃, hrun₃, hm₃⟩ := Module.run_exportFunc hm₂ hlength mainExport mainType [.i32]
    (Instr.encodeAll (mainFunction opts ((indices.lookup "number").getD 0)
      ((indices.lookup "destroy").getD 0)).code)
  refine ⟨indices, hindices, ?_⟩
  have hbuild : (assemble slots opts).run {} = .ok () m₃ := by
    have hlog : (Module.importFunc logModule "handle" { params := [.i64] }).run {} = .ok 0 m₁ :=
      hrun₁
    have hexport : (Module.exportFunc mainExport { params := [.i64], results := [.i32] } [.i32]
        (Instr.encodeAll (instructions opts 0 ((indices.lookup "number").getD 0)
          ((indices.lookup "destroy").getD 0)))).run m₂ = _ := hrun₃
    simp only [assemble, EStateM.run_bind, hlog, hrun₂, hexport]
    rfl
  rw [Module.build, hbuild]
  exact hm₃

/-- Building the script writes the indices of the two slots into the body of `main`. -/
theorem build_assemble {slots : List Slot} (hslots : Suits slots) (opts : Options)
    (hroom : slots.length + 1 < UInt32.size) : ∃ number destroy, Placed slots number destroy ∧
      (Module.build (assemble slots opts)).Exporting (importsOf slots) mainExport mainType
        { locals := [.i32], code := Instr.encodeAll (mainFunction opts number destroy).code } := by
  obtain ⟨t, ht, hnumber⟩ := hslots.number
  obtain ⟨i, hi⟩ := List.mem_iff_getElem?.1 hnumber
  obtain ⟨j, hj⟩ := List.mem_iff_getElem?.1 hslots.destroy
  obtain ⟨indices, hindices, hbuilt⟩ := exporting_assemble hslots.names opts hroom
  have hi' : indices.lookup "number" = some (1 + i).toUInt32 := hindices.found i _ hi
  have hj' : indices.lookup "destroy" = some (1 + j).toUInt32 := hindices.found j _ hj
  rw [hi', hj', Option.getD_some, Option.getD_some] at hbuilt
  refine ⟨(1 + i).toUInt32, (1 + j).toUInt32, ⟨?_, ?_⟩, hbuilt⟩
  · rw [getElem?_importsOf hi hroom]
    simp [slotImport, slotType, mainType, WitType.flattenAll?, ht]
  · rw [getElem?_importsOf hj hroom]
    simp [slotImport, slotType, WitType.flattenAll?]

/-- A type that carries an interface type can be used by a module. -/
theorem isKnown_of_flatten? {t : WitType} {v : ValType} (h : t.flatten? = some v) : v.isKnown := by
  cases t <;> cases h <;> rfl

theorem isKnown_of_mem_flattenAll? {ts : List WitType} {v : ValType}
    (hv : v ∈ (WitType.flattenAll? ts).getD []) : v.isKnown := by
  cases hts : WitType.flattenAll? ts with
  | none => simp [hts] at hv
  | some vs =>
      rw [hts, Option.getD_some] at hv
      obtain ⟨t, -, ht⟩ := exists_of_mem_of_forall₂ (forall₂_of_mapM_eq_some hts) hv
      exact isKnown_of_flatten? ht

theorem isKnownType_slotType (s : Slot) : Program.isKnownType (slotType s) := by
  refine List.all_eq_true.2 ?_
  intro v hv
  rcases List.mem_append.1 hv with hv | hv
  · rcases List.mem_cons.1 hv with rfl | hv
    · rfl
    · exact isKnown_of_mem_flattenAll? hv
  · exact isKnown_of_mem_flattenAll? hv

theorem isKnownType_of_mem_importsOf {slots : List Slot} {f : ImportedFunction}
    (hf : f ∈ importsOf slots) : Program.isKnownType f.type := by
  rcases List.mem_cons.1 hf with rfl | hf
  · rfl
  · obtain ⟨s, -, rfl⟩ := List.mem_map.1 hf
    exact isKnownType_slotType s

/-- The signature of an import is found under its index. -/
theorem getElem?_types {imports : List ImportedFunction} {i : Nat} {f : ImportedFunction}
    (hi : imports[i]? = some f) (types : List FuncType) :
    (imports.map (·.type) ++ types)[i]? = some f.type := by
  have hmap : (imports.map (·.type))[i]? = some f.type := by
    rw [List.getElem?_map, hi, Option.map_some]
  rw [List.getElem?_append_left (List.getElem?_eq_some_iff.1 hmap).1, hmap]

/-- Calling a function with the handle takes the handle off the stack and leaves the results. -/
theorem run?_call {c : Context} {f : UInt32} {t : FuncType} (hself : c.locals[0]? = some .i64)
    (hf : c.funcs[f.toNat]? = some t) (htype : t.params = [.i64]) (is : List Instr) :
    c.run? {} (.localGet 0 :: .call f :: is) = c.run? (Operands.pushAll {} t.results) is := by
  simp [Context.run?, Context.step?, hself, hf, htype, Operands.popAll?, Operands.pop?,
    Operands.push]

/-- A step that the options may leave out, and that leaves nothing on the stack. -/
theorem run?_if {c : Context} {step is : List Instr} (b : Bool)
    (hstep : c.run? {} (step ++ is) = c.run? {} is) :
    c.run? {} ((if b then step else []) ++ is) = c.run? {} is := by
  cases b with
  | true => exact hstep
  | false => rfl

/-- The body of `main` is well typed. -/
theorem isTyped_mainFunction {slots : List Slot} {number destroy : UInt32}
    (hplaced : Placed slots number destroy) (opts : Options) :
    Program.isTyped ((importsOf slots).map (·.type) ++ [mainType])
      (mainFunction opts number destroy) := by
  let c : Context := {
    funcs := (importsOf slots).map (·.type) ++ [mainType], locals := [.i64, .i32] }
  have hself : c.locals[0]? = some .i64 := rfl
  have hlog : c.funcs[(0 : UInt32).toNat]? = some { params := [.i64] } := rfl
  have hnumber : c.funcs[number.toNat]? = some mainType := getElem?_types hplaced.number _
  have hdestroy : c.funcs[destroy.toNat]? = some { params := [.i64] } :=
    getElem?_types hplaced.destroy _
  -- up to the last two instructions every step leaves the stack empty
  have hrun : c.run? {} (instructions opts 0 number destroy) =
      c.run? {} ((if opts.trap then [.unreachable] else []) ++ [.localGet 1, .finish]) := by
    rw [instructions]
    simp only [List.append_assoc]
    refine Eq.trans (run?_if opts.trace (run?_call hself hlog rfl _)) ?_
    refine Eq.trans (run?_call hself hnumber rfl _) ?_
    exact run?_if opts.destroy (run?_call hself hdestroy rfl _)
  show c.accepts [.i32] (instructions opts 0 number destroy) = true
  rw [Context.accepts, hrun]
  cases opts.trap with
  | true => rfl
  | false => rfl

theorem valid_instructions (opts : Options) (log number destroy : UInt32) :
    ∀ i ∈ instructions opts log number destroy, i.Valid := by
  obtain ⟨trace, destroys, trap⟩ := opts
  cases trace <;> cases destroys <;> cases trap <;> simp [instructions, Instr.Valid]

/-- A script that can be counted in 32 bits has slots that can be. -/
theorem length_lt_of_reference {slots : List Slot} {opts : Options}
    (hsize : (reference slots opts).length < UInt32.size) : slots.length + 1 < UInt32.size := by
  obtain ⟨log, m₁, hrun₁, hm₁, hlength₁⟩ :=
    Module.length_imports_importFunc logModule "handle" { params := [.i64] } (m := {}) rfl
  obtain ⟨indices, m₂, hrun₂, -, hlength₂⟩ := length_imports_importSlots slots hm₁
  obtain ⟨idx, m₃, hrun₃, himports⟩ := Module.imports_exportFunc mainExport mainType [.i32]
    (Instr.encodeAll (instructions opts log ((indices.lookup "number").getD 0)
      ((indices.lookup "destroy").getD 0))) m₂
  have hbuild : (assemble slots opts).run {} = .ok () m₃ := by
    simp only [assemble, EStateM.run_bind, hrun₁, hrun₂]
    rw [← mainType, hrun₃]
    rfl
  rw [reference, Module.build, hbuild] at hsize
  have hlt := (Module.importsFit_of_length_encode hsize).length
  rw [himports, hlength₂, hlength₁, List.length_nil] at hlt
  omega

/-- The bytes of the reference script are read back as the module that was built. -/
theorem decode?_reference {slots : List Slot} (hnames : (slots.map (·.name)).Nodup)
    {opts : Options} (hsize : (reference slots opts).length < UInt32.size) :
    Module.decode? (reference slots opts) = some (Module.build (assemble slots opts)) := by
  obtain ⟨indices, -, hbuilt⟩ := exporting_assemble hnames opts (length_lt_of_reference hsize)
  refine Module.decode?_encode (Module.fits_of_length_encode hsize ?_)
  rw [hbuilt.code]
  intro b hb
  rw [List.mem_singleton.1 hb]
  exact (by decide : 1 < UInt32.size)

/-- The bytes of the reference script stand for the program, whatever the limit for memories. -/
theorem load?_reference {slots : List Slot} (hslots : Suits slots) {opts : Options}
    (hsize : (reference slots opts).length < UInt32.size) :
    ∃ number destroy, Placed slots number destroy ∧ ∀ limit,
      Program.load? limit (reference slots opts) =
        some (referenceProgram slots opts number destroy) := by
  obtain ⟨number, destroy, hplaced, hbuilt⟩ :=
    build_assemble hslots opts (length_lt_of_reference hsize)
  refine ⟨number, destroy, hplaced, ?_⟩
  intro limit
  have hprogram := Program.ofModule?_exporting (mainFunction opts number destroy) hbuilt
    (fun f hf => isKnownType_of_mem_importsOf hf) rfl rfl
    (Instr.decodeAll?_encodeAll (valid_instructions opts 0 number destroy))
    (isTyped_mainFunction hplaced opts) limit
  rw [Program.load?, decode?_reference hslots.names hsize]
  rw [importsOf, List.length_cons, List.length_map, ← importsOf] at hprogram
  exact hprogram

/-! ### What the program does -/

section Meaning

variable {m : Type → Type} [Monad m]

/-- The host offers the log and the two slots for the handle `h`: called with it, the log and the
destructor give nothing back, and `number` gives the word of a number. -/
structure Offers (host : HostCall m) (h : UInt64) (log : m Unit) (number : m Int32)
    (destroy : m Unit) : Prop where
  log : host logModule "handle" [h] = log >>= fun _ => pure []
  number : host thingModule "number" [h] = number >>= fun n => pure [n.toUInt32.toUInt64]
  destroy : host thingModule "destroy" [h] = destroy >>= fun _ => pure []

/-- What the reference script does with what a host offers. -/
def meaning (opts : Options) (log : m Unit) (number : m Int32) (destroy : m Unit) :
    m (Except Trap Result) := do
  if opts.trace then log
  let n ← number
  if opts.destroy then destroy
  if opts.trap then return .error .unreachable else return .ok (.int32 n)

theorem meaning_eq_bind [LawfulMonad m] (opts : Options) (log : m Unit) (number : m Int32)
    (destroy : m Unit) : meaning opts log number destroy =
      (if opts.trace then log else pure ()) >>= fun _ => number >>= fun n =>
        (if opts.destroy then destroy else pure ()) >>= fun _ =>
          pure (if opts.trap then .error .unreachable else .ok (.int32 n)) := by
  obtain ⟨trace, destroys, trap⟩ := opts
  cases trace <;> cases destroys <;> cases trap <;> simp [meaning]

/-- Performs a run and decodes its results. -/
def performDecoded (host : HostCall m) (results : List ValType) (run : Run) :
    m (Except Trap Result) := do
  return (← run.perform host).map (.ofWords results)

/-- A run that waits for the host goes on with what the host answers. -/
theorem performDecoded_call [LawfulMonad m] (host : HostCall m) (results : List ValType)
    (module name : String) (args : List UInt64) (next : List UInt64 → Run) :
    performDecoded host results (.call module name args next) =
      host module name args >>= fun words => performDecoded host results (next words) := by
  simp only [performDecoded, Run.perform, bind_assoc]

end Meaning

/-- A number comes back from its word, whatever its sign. -/
theorem ofWords_number (n : Int32) : Result.ofWords [.i32] [n.toUInt32.toUInt64] = .int32 n := by
  simp [Result.ofWords, Result.decode]

/-- Calling an import waits for the host. -/
theorem invoke_of_import {p : Program} {f : Nat} {i : ImportedFunction}
    (hi : p.imports[f]? = some i) (depth : Nat) (args : List UInt64)
    (next : List UInt64 → Run) :
    p.invoke (depth + 1) f args next = .call i.module i.name args next := by
  rw [Program.invoke, hi]

theorem length_importsOf (slots : List Slot) : (importsOf slots).length = slots.length + 1 := by
  rw [importsOf, List.length_cons, List.length_map]

/-- `main` is exported under the index after the imports. -/
theorem export?_referenceProgram {slots : List Slot} (hroom : slots.length + 1 < UInt32.size)
    (opts : Options) (number destroy : UInt32) :
    (referenceProgram slots opts number destroy).export? mainExport =
      some (slots.length + 1, mainType) := by
  have hidx : (slots.length + 1).toUInt32.toNat = slots.length + 1 :=
    UInt32.toNat_ofNat_of_lt' hroom
  have htype : (referenceProgram slots opts number destroy).funcTypes[slots.length + 1]? =
      some mainType := by
    rw [Program.funcTypes, referenceProgram, List.getElem?_append_right] <;>
      simp [length_importsOf, mainFunction]
  simp only [Program.export?, referenceProgram, List.find?_cons, beq_self_eq_true,
    Option.bind_eq_bind, Option.bind_some, hidx]
  rw [← referenceProgram, htype]
  rfl

/-- What is left of the body of `main`, on locals and a stack. -/
def restOfMain (p : Program) (is : List Instr) (locals stack : List UInt64) : Run :=
  Program.runCode p.funcTypes (p.invoke 10000) is locals stack fun stack =>
    .done (stack.take 1).reverse

/-- The run of `main` is the run of its body, on the handle and a local that is zero. -/
theorem run_referenceProgram (slots : List Slot) (opts : Options) (number destroy : UInt32)
    (h : UInt64) :
    let p := referenceProgram slots opts number destroy
    p.run (slots.length + 1) [h] = restOfMain p (instructions opts 0 number destroy) [h, 0] [] := by
  intro p
  have himports : p.imports[slots.length + 1]? = none :=
    List.getElem?_eq_none (Nat.le_of_eq (length_importsOf slots))
  have hfunction : p.functions[slots.length + 1 - p.imports.length]? =
      some (mainFunction opts number destroy) := by
    rw [show p.imports.length = slots.length + 1 from length_importsOf slots, Nat.sub_self]
    rfl
  rw [Program.run, show p.maxDepth = 10000 + 1 from rfl, Program.invoke, himports]
  simp only [hfunction]
  rfl

/-- Calling an import with the handle waits for the host, and what it answers is on the stack. -/
theorem restOfMain_call {p : Program} {f : UInt32} {i : ImportedFunction}
    (hi : p.imports[f.toNat]? = some i) (htype : i.type.params = [.i64]) (is : List Instr)
    (h x : UInt64) :
    restOfMain p (.localGet 0 :: .call f :: is) [h, x] [] =
      .call i.module i.name [h] fun words => restOfMain p is [h, x] words.reverse := by
  have hcall (args : List UInt64) (next : List UInt64 → Run) :
      p.invoke 10000 f.toNat args next = .call i.module i.name args next :=
    invoke_of_import hi 9999 args next
  have harity : p.funcTypes[f.toNat]? = some i.type := getElem?_types hi _
  simp [restOfMain, Program.runCode, hcall, harity, htype]

section Steps

variable {m : Type → Type} [Monad m] [LawfulMonad m] {host : HostCall m} {h : UInt64}
  {p : Program} {f : UInt32} (is : List Instr) (x : UInt64)

/-- Performed, the call does what the host does, and the rest of the body goes on with the words. -/
theorem perform_call {i : ImportedFunction} (hi : p.imports[f.toNat]? = some i)
    (htype : i.type.params = [.i64]) {α : Type} {act : m α} {words : α → List UInt64}
    (hact : host i.module i.name [h] = act >>= fun a => pure (words a)) :
    performDecoded host mainType.results (restOfMain p (.localGet 0 :: .call f :: is) [h, x] []) =
      act >>= fun a =>
        performDecoded host mainType.results (restOfMain p is [h, x] (words a).reverse) := by
  rw [restOfMain_call hi htype, performDecoded_call, hact, bind_assoc]
  exact bind_congr fun a => pure_bind ..

variable {log : m Unit} {ask : m Int32} {drop : m Unit} (hhost : Offers host h log ask drop)
include hhost

/-- The script logs the handle and goes on. -/
theorem perform_log (hf : p.imports[f.toNat]? = some Host.logFunction) :
    performDecoded host mainType.results (restOfMain p (.localGet 0 :: .call f :: is) [h, x] []) =
      log >>= fun _ => performDecoded host mainType.results (restOfMain p is [h, x] []) :=
  perform_call is x hf rfl hhost.log

/-- The script asks for the number, keeps its word in the second local and goes on. -/
theorem perform_number (hf : p.imports[f.toNat]? =
      some { module := thingModule, name := "number", type := mainType }) :
    performDecoded host mainType.results
      (restOfMain p (.localGet 0 :: .call f :: .localSet 1 :: is) [h, x] []) =
    ask >>= fun n => performDecoded host mainType.results
      (restOfMain p is [h, n.toUInt32.toUInt64] []) :=
  perform_call (.localSet 1 :: is) x hf rfl hhost.number

/-- The script destroys the object and goes on. -/
theorem perform_destroy (hf : p.imports[f.toNat]? =
      some { module := thingModule, name := "destroy", type := { params := [.i64] } }) :
    performDecoded host mainType.results (restOfMain p (.localGet 0 :: .call f :: is) [h, x] []) =
      drop >>= fun _ => performDecoded host mainType.results (restOfMain p is [h, x] []) :=
  perform_call is x hf rfl hhost.destroy

end Steps

/-- In the end the script traps, or gives back the number that it kept. -/
theorem perform_end {m : Type → Type} [Monad m] [LawfulMonad m] (host : HostCall m) (p : Program)
    (trap : Bool) (h : UInt64) (n : Int32) :
    performDecoded host mainType.results (restOfMain p
      ((if trap then [.unreachable] else []) ++ [.localGet 1, .finish])
      [h, n.toUInt32.toUInt64] []) =
    pure (if trap then .error .unreachable else .ok (.int32 n)) := by
  cases trap with
  | true => simp [performDecoded, restOfMain, Program.runCode, Run.perform, Except.map]
  | false =>
      simp [performDecoded, restOfMain, Program.runCode, Run.perform, Except.map, mainType,
        ofWords_number]

/-- A step that the options may leave out. -/
theorem perform_if {m : Type → Type} [Monad m] [LawfulMonad m] {host : HostCall m} {p : Program}
    {step is : List Instr} {locals : List UInt64} {act : m Unit} (b : Bool)
    (hstep : performDecoded host mainType.results (restOfMain p (step ++ is) locals []) =
      act >>= fun _ => performDecoded host mainType.results (restOfMain p is locals [])) :
    performDecoded host mainType.results
      (restOfMain p ((if b then step else []) ++ is) locals []) =
    (if b then act else pure ()) >>= fun _ =>
      performDecoded host mainType.results (restOfMain p is locals []) := by
  cases b with
  | true => exact hstep
  | false => simp

/-- Run against a host, the program does what the script means. -/
theorem perform_referenceProgram {slots : List Slot} {number destroy : UInt32}
    (hplaced : Placed slots number destroy) (opts : Options) {m : Type → Type} [Monad m]
    [LawfulMonad m] {host : HostCall m} {h : UInt64} {log : m Unit} {ask : m Int32} {drop : m Unit}
    (hhost : Offers host h log ask drop) :
    performDecoded host mainType.results
      ((referenceProgram slots opts number destroy).run (slots.length + 1) [h]) =
    meaning opts log ask drop := by
  rw [run_referenceProgram, meaning_eq_bind, instructions]
  simp only [List.append_assoc]
  let p := referenceProgram slots opts number destroy
  have hlog : p.imports[(0 : UInt32).toNat]? = some Host.logFunction := rfl
  have hnumber : p.imports[number.toNat]? = _ := hplaced.number
  have hdestroy : p.imports[destroy.toNat]? = _ := hplaced.destroy
  -- one step after the other, each up to the next answer of the host
  refine Eq.trans (perform_if opts.trace (perform_log _ 0 hhost hlog)) (bind_congr fun _ => ?_)
  refine Eq.trans (perform_number _ 0 hhost hnumber) (bind_congr fun n => ?_)
  refine Eq.trans (perform_if opts.destroy (perform_destroy _ _ hhost hdestroy))
    (bind_congr fun _ => ?_)
  exact perform_end host p opts.trap h n

/-! ### The calls that are made -/

/-- The calls that the script makes if all of them are answered. -/
def calls (opts : Options) (h : UInt64) : List GuestCall :=
  (if opts.trace then [{ module := logModule, name := "handle", args := [h] }] else [])
    ++ { module := thingModule, name := "number", args := [h] }
    :: if opts.destroy then [{ module := thingModule, name := "destroy", args := [h] }] else []

/-- The state of a host that writes down the calls that were made. -/
abbrev Recording := EStateM Unit (List GuestCall)

/-- Writes down a call and answers it, as the calls up to now say.  No answer is a trap. -/
def note (answer : List GuestCall → Option Int32) (c : GuestCall) : Recording Int32 := fun made =>
  match answer (made ++ [c]) with
  | none => .error () (made ++ [c])
  | some n => .ok n (made ++ [c])

/-- A host that writes down every call. -/
def recorder (answer : List GuestCall → Option Int32) : HostCall Recording :=
  fun module name args => do
    let n ← note answer { module, name, args }
    return if name = "number" then [n.toUInt32.toUInt64] else []

/-- Calls that are made one after the other, up to the first one that is not answered. -/
def inOrder {α : Type} (answer : List GuestCall → Option Int32) (result : α) :
    List GuestCall → Recording α
  | [], made => .ok result made
  | c :: cs, made =>
    match answer (made ++ [c]) with
    | none => .error () (made ++ [c])
    | some _ => inOrder answer result cs (made ++ [c])

/-- A call that is written down is the first of those that are made in order, if what follows it
makes the others. -/
theorem run_note_bind {α : Type} {answer : List GuestCall → Option Int32} {c : GuestCall}
    {cs made : List GuestCall} {result : α} {next : Int32 → Recording α}
    (hnext : ∀ n, answer (made ++ [c]) = some n →
      (next n).run (made ++ [c]) = inOrder answer result cs (made ++ [c])) :
    (note answer c >>= next).run made = inOrder answer result (c :: cs) made := by
  have hrun : (note answer c).run made = match answer (made ++ [c]) with
      | none => .error () (made ++ [c])
      | some n => .ok n (made ++ [c]) := rfl
  rw [EStateM.run_bind, hrun, inOrder]
  cases hn : answer (made ++ [c]) with
  | none => rfl
  | some n => exact hnext n hn

/-- So is a call that the options may leave out. -/
theorem run_note_if_bind {α : Type} {answer : List GuestCall → Option Int32} {c : GuestCall}
    {cs made : List GuestCall} {result : α} {next : Unit → Recording α} (b : Bool)
    (hnext : ∀ made', made' = made ++ (if b then [c] else []) →
      (next ()).run made' = inOrder answer result cs made') :
    ((if b then note answer c >>= fun _ => pure () else pure ()) >>= next).run made =
      inOrder answer result ((if b then [c] else []) ++ cs) made := by
  cases b with
  | true =>
      rw [if_pos rfl, bind_assoc]
      exact run_note_bind fun _ _ => hnext _ rfl
  | false => exact hnext made (by simp)

/-- The recorder sees the calls of the script in their order and no other.  The number is the answer
to the last call before the destructor. -/
theorem perform_recorder {slots : List Slot} {number destroy : UInt32}
    (hplaced : Placed slots number destroy) (opts : Options) (h : UInt64)
    (answer : List GuestCall → Option Int32) :
    (performDecoded (recorder answer) mainType.results
      ((referenceProgram slots opts number destroy).run (slots.length + 1) [h])).run [] =
    inOrder answer (if opts.trap then .error .unreachable
      else .ok (.int32 ((answer (calls { opts with destroy := false } h)).getD 0)))
      (calls opts h) [] := by
  have hhost : Offers (recorder answer) h
      (note answer { module := logModule, name := "handle", args := [h] } >>= fun _ => pure ())
      (note answer { module := thingModule, name := "number", args := [h] })
      (note answer { module := thingModule, name := "destroy", args := [h] } >>=
        fun _ => pure ()) :=
    ⟨by simp [recorder], by simp [recorder], by simp [recorder]⟩
  rw [perform_referenceProgram hplaced opts hhost, meaning_eq_bind]
  refine run_note_if_bind opts.trace ?_
  rintro made rfl
  refine run_note_bind ?_
  intro n hn
  -- these are the calls before the destructor, so the answer is the number
  have hnumber : (answer (calls { opts with destroy := false } h)).getD 0 = n := by
    rw [List.nil_append] at hn
    simp [calls, hn]
  rw [hnumber, ← List.append_nil (if opts.destroy then _ else _)]
  exact run_note_if_bind opts.destroy fun made _ => rfl

end Script

/-! ### A host that was started -/

open Script

/-- What a script may import for a method is the import of the slot with its name. -/
theorem Boundary.slot_of_importOf {slots : List Slot} {m : Method} {f : ImportedFunction}
    (h : importOf slots m = .ok f) : ∃ s, Slot.find? slots f.name = some s ∧ f = slotImport s := by
  obtain ⟨slot, coreParams, coreResults, hslot, -, -, hparams, hresults, rfl⟩ := exists_of_importOf h
  have hname : slot.name = (Words.ofCamel m.name).snake := by
    simpa using List.find?_some hslot
  refine ⟨slot, hslot, ?_⟩
  simp [slotImport, slotType, hparams, hresults, hname]

/-- The imports of a boundary are those of the destructor and the members, in this order. -/
theorem Boundary.imports_eq_ok {b : Boundary} {imports : List ImportedFunction}
    (h : b.imports = .ok imports) : ∃ d i, Description.parse b.source = .ok d ∧
      d.interface? interfaceName = some i ∧
      List.Forall₂ (fun m f => importOf b.slots m = .ok f) (destructor :: i.members) imports := by
  simp only [Boundary.imports] at h
  obtain ⟨d, hd, h⟩ := bind_eq_ok.1 h
  split at h
  swap
  · cases h
  rename_i i hi
  refine ⟨d, i, ?_, hi, forall₂_of_mapM_eq_ok h⟩
  cases hparse : Description.parse b.source with
  | error e =>
      rw [hparse] at hd
      cases hd
  | ok d' =>
      rw [hparse] at hd
      exact congrArg Except.ok (Except.ok.inj hd)

namespace Host

/-- A host that was started offers the imports of its boundary, and the log. -/
theorem functions_of_start {b : Boundary} {output : Channel} {pages : Nat} {host : Host}
    (h : start b output pages = .ok host) : host.isClosed = false ∧
      ∃ imports, b.imports = .ok imports ∧ host.functions = imports ++ [logFunction] := by
  rw [start] at h
  split at h
  · obtain ⟨_, hthrow, -⟩ := bind_eq_ok.1 h
    cases hthrow
  obtain ⟨imports, himports, h⟩ := bind_eq_ok.1 h
  split at h
  · cases h
  obtain rfl := Except.ok.inj h
  exact ⟨rfl, imports, himports, rfl⟩

/-- The functions of a host that was started are imports of slots, and the log. -/
theorem start_eq_ok {b : Boundary} {output : Channel} {pages : Nat} {host : Host}
    (h : start b output pages = .ok host) : host.isClosed = false ∧
      ∀ f ∈ host.functions, f = logFunction ∨
        ∃ s, Slot.find? b.slots f.name = some s ∧ f = slotImport s := by
  obtain ⟨hopen, imports, himports, hfunctions⟩ := functions_of_start h
  refine ⟨hopen, ?_⟩
  intro f hf
  rw [hfunctions] at hf
  rcases List.mem_append.1 hf with hf | hf
  · obtain ⟨_, _, _, _, hrows⟩ := Boundary.imports_eq_ok himports
    obtain ⟨m, -, hm⟩ := exists_of_mem_of_forall₂ hrows hf
    exact Or.inr (Boundary.slot_of_importOf hm)
  · exact Or.inl (List.mem_singleton.1 hf)

/-- Such a host finds a slot by its name. -/
theorem find?_of_start {b : Boundary} {output : Channel} {pages : Nat} {host : Host}
    (hstart : start b output pages = .ok host) {f : ImportedFunction} (hf : f ∈ host.functions)
    (hmodule : f.module = thingModule) :
    host.functions.find? (fun i => i.module == thingModule && i.name == f.name) = some f := by
  have hsome : (host.functions.find? fun i => i.module == thingModule && i.name == f.name).isSome := by
    refine List.find?_isSome.2 ⟨f, hf, ?_⟩
    simp [hmodule]
  obtain ⟨g, hg⟩ := Option.isSome_iff_exists.1 hsome
  obtain ⟨hgm, hgn⟩ : g.module = thingModule ∧ g.name = f.name := by
    simpa using List.find?_some hg
  -- both are the import of the first slot with that name
  have hslot : ∀ i ∈ host.functions, i.module = thingModule →
      ∃ s, Slot.find? b.slots i.name = some s ∧ i = slotImport s := by
    intro i hi him
    rcases (start_eq_ok hstart).2 i hi with rfl | hs
    · exact absurd him (by decide)
    · exact hs
  obtain ⟨s, hs, rfl⟩ := hslot f hf hmodule
  obtain ⟨t, ht, rfl⟩ := hslot g (List.mem_of_find?_eq_some hg) hgm
  rw [hgn, hs] at ht
  rw [hg, Option.some.inj ht]

/-- What every call of a slot begins with: the handle must be that of an object that is lent. -/
def enter (slot : ImportedFunction) (h : Handle) : Act Proxy := do
  match ← Proxy.lookupLent h with
  | .error f =>
    Act.log .warn .runtime "script passed a bad handle"
      [("slot", .text slot.name), ("handle", .number h), ("error", .text f.message)]
    Act.fault f
  | .ok p =>
    Act.log .debug .runtime "slot call" [("slot", .text slot.name), ("handle", .number h)]
    return p

theorem callSlot_eq_enter (slot : ImportedFunction) (h : Handle) :
    callSlot slot h = enter slot h >>= fun p =>
      if slot.name = "destroy" then p.drop >>= fun _ => pure []
      else p.number >>= fun n => pure (slot.type.results.map fun _ => n.toUInt32.toUInt64) := by
  rw [callSlot, enter, bind_assoc]
  congr
  funext r
  cases r with
  | error f => rfl
  | ok p => rfl

/-- A host that was started offers the two slots to the reference script. -/
theorem offers_answer {b : Boundary} {output : Channel} {pages : Nat} {host : Host}
    (hstart : start b output pages = .ok host) {number destroy : UInt32}
    (hplaced : Placed b.slots number destroy) (hlinks : ∀ i ∈ importsOf b.slots, i ∈ host.functions)
    (h : UInt64) : Offers host.answer h
      (Act.printLine host.output ("script: thing " ++ Text.address h.toNat))
      (enter { module := thingModule, name := "number", type := mainType } h.toNat >>= Proxy.number)
      (enter { module := thingModule, name := "destroy", type := { params := [.i64] } } h.toNat >>=
        Proxy.drop) := by
  have hmodule : thingModule ≠ logModule := by decide
  have hnumber := find?_of_start hstart (hlinks _ (List.mem_of_getElem? hplaced.number)) rfl
  have hdestroy := find?_of_start hstart (hlinks _ (List.mem_of_getElem? hplaced.destroy)) rfl
  constructor
  · simp [answer]
  · simp [answer, hmodule, hnumber, callSlot_eq_enter, mainType]
  · simp [answer, hmodule, hdestroy, callSlot_eq_enter]

section Enter

open World

variable {w : World} (hw : w.WellKept) {h : Handle} (hlent : w.isLent h) {p : Payload}
  (hp : w.payload? h = some p) (slot : ImportedFunction)
include hw hlent hp

theorem run_enter : ∃ w₁, OnlyWritten w w₁ ∧ (enter slot h).run w = .ok (w.proxy h) w₁ := by
  have hr : w.refusalLent? h = none :=
    (w.refusalLent?_eq_none h).2 ⟨isLive_of_isLent hlent, by simp [hp], hlent⟩
  have hlookup : (Proxy.lookupLent h).run w = .ok (.ok (w.proxy h)) w := by
    rw [Proxy.run_lookupLent hw, hr]
    rfl
  exact ⟨_, .noted w rfl, by rw [enter, Act.run_bind_ok hlookup]; rfl⟩

/-- An object that answers is asked. -/
theorem run_enter_number {n : Int32} (hreply : p.reply = .ok n) :
    ∃ w', (enter slot h >>= Proxy.number).run w = .ok n w' ∧ Answered h p w w' := by
  obtain ⟨w₁, hwritten, henter⟩ := run_enter hw hlent hp slot
  have hp₁ : w₁.payload? h = some p := by
    obtain ⟨marks, -, rfl⟩ := hwritten
    exact hp
  refine ⟨w₁.answered h p, ?_, .of_written hwritten⟩
  rw [Act.run_bind_ok henter, Proxy.run_number_of_some (isSome_descriptor_proxy hp)]
  exact (run_numberSlot_of_some hp₁).trans (by rw [hreply])

/-- An object whose drop raises no fault is destroyed. -/
theorem run_enter_drop (hfree : w.DropsFreely h p) :
    ∃ w', (enter slot h >>= Proxy.drop).run w = .ok () w' := by
  obtain ⟨w₁, hwritten, henter⟩ := run_enter hw hlent hp slot
  have hp₁ : w₁.payload? h = some p := by
    obtain ⟨marks, -, rfl⟩ := hwritten
    exact hp
  obtain ⟨w', hslot, -⟩ := destroySlot_ok hp₁ (hfree.of_written hwritten)
  refine ⟨w', ?_⟩
  rw [Act.run_bind_ok henter, Proxy.run_drop_of_some (isSome_descriptor_proxy hp)]
  exact hslot

/-- With an object that answers, the script comes to its end. -/
theorem run_meaning {n : Int32} (hreply : p.reply = .ok n) (opts : Options)
    (hfree : opts.destroy → w.DropsFreely h p) (output : Channel) (text : String)
    (numberSlot destroySlot : ImportedFunction) :
    ∃ w', (meaning opts (Act.printLine output text) (enter numberSlot h >>= Proxy.number)
        (enter destroySlot h >>= Proxy.drop)).run w =
      .ok (if opts.trap then .error .unreachable else .ok (.int32 n)) w' := by
  obtain ⟨w₁, hwritten, htrace⟩ : ∃ w₁, OnlyWritten w w₁ ∧
      (if opts.trace then Act.printLine output text else pure ()).run w = .ok () w₁ := by
    split
    · exact ⟨_, .noted w rfl, rfl⟩
    · exact ⟨w, .refl w, rfl⟩
  have hw₁ := hwritten.wellKept hw
  obtain ⟨hlent₁, hp₁⟩ : w₁.isLent h ∧ w₁.payload? h = some p := by
    obtain ⟨marks, -, rfl⟩ := hwritten
    exact ⟨hlent, hp⟩
  obtain ⟨w₂, hask, ha⟩ := run_enter_number hw₁ hlent₁ hp₁ numberSlot hreply
  obtain ⟨w₃, hdestroy⟩ : ∃ w₃,
      (if opts.destroy then enter destroySlot h >>= Proxy.drop else pure ()).run w₂ = .ok () w₃ := by
    split
    · rename_i hdestroys
      -- the payload counts one answer more, which makes no difference to its drop
      have hp₂ : w₂.payload? h = some { p with calls := p.calls + 1 } := by
        rw [ha.payload?_eq, payload?_answered hp₁, if_pos rfl]
      refine run_enter_drop (ha.wellKept hp₁ hw₁) ?_ hp₂ destroySlot ?_
      · rwa [isLent_eq, ha.table]
      · exact ha.dropsFreely hp₁ (((hfree hdestroys).of_written hwritten).asked _)
    · exact ⟨w₂, rfl⟩
  refine ⟨w₃, ?_⟩
  rw [meaning_eq_bind, Act.run_bind_ok htrace, Act.run_bind_ok hask, Act.run_bind_ok hdestroy]
  rfl

end Enter

/-- How the run of a script that comes to its end is reported. -/
def reported (s : Script) : Except Trap Result → Except Failure Result
  | .error t => .error (stopped s t.message)
  | .ok r => .ok r

/-- A run that comes to an end, before its results are decoded. -/
theorem perform_of_performDecoded {host : Host} {results : List ValType} {run : Run} {w w' : World}
    {r : Except Trap Result} (hrun : (performDecoded host.answer results run).run w = .ok r w') :
    ∃ words, (run.perform host.answer).result w = .ok words ∧ words.map (.ofWords results) = r := by
  rw [performDecoded, EStateM.run_bind] at hrun
  rw [Act.result]
  cases hperform : (run.perform host.answer).run w with
  | error e w₁ =>
      rw [hperform] at hrun
      cases hrun
  | ok words w₁ =>
      rw [hperform] at hrun
      cases hrun
      exact ⟨words, rfl, rfl⟩

/-- A script that is linked and whose run comes to an end. -/
theorem result_main {host : Host} {s : Script} {idx : Nat} {type : FuncType} {h : UInt64}
    {w : World} {r : Except Trap Result} (hmain : mainOf s.program = .ok (idx, type))
    (hready : (host.isClosed || s.isClosed || !host.links s.program) = false)
    (hrun : ∀ w₁, World.OnlyWritten w w₁ →
      ∃ w', (performDecoded host.answer type.results (s.program.run idx [h])).run w₁ = .ok r w') :
    (host.main s h.toNat).result w = .ok (reported s r) := by
  obtain ⟨w₁, hlog, hwritten⟩ := World.OnlyWritten.log .debug .runtime "calling script"
    [("script", .text s.name), ("handle", .number h.toNat)] w
  obtain ⟨w₂, hperform⟩ := hrun w₁ hwritten
  obtain ⟨words, hwords, rfl⟩ := perform_of_performDecoded hperform
  have hword : h.toNat.toUInt64 = h := UInt64.ofNat_toNat
  simp only [main, hmain, hready, Act.result, Bool.false_eq_true, if_false, hword]
  rw [Act.run_bind_ok hlog, Act.run_bind_ok (Act.run_attempt _ w₁), hwords]
  cases words <;> rfl

end Host

namespace Script

/-- The reference script on a host that was started, with an object that answers. -/
theorem result_main_reference {b : Boundary} {output : Channel} {pages : Nat} {host : Host}
    (hstart : Host.start b output pages = .ok host) {number destroy : UInt32}
    (hplaced : Placed b.slots number destroy) (hroom : b.slots.length + 1 < UInt32.size)
    {opts : Options} {s : Script} (hs : s.program = referenceProgram b.slots opts number destroy)
    (hopen : s.isClosed = false) (hlinks : host.links s.program) {w : World} (hw : w.WellKept)
    {h : UInt64} (hlent : w.isLent h.toNat) {p : Payload} (hp : w.payload? h.toNat = some p)
    {n : Int32} (hreply : p.reply = .ok n) (hfree : opts.destroy → w.DropsFreely h.toNat p) :
    (host.main s h.toNat).result w =
      .ok (Host.reported s (if opts.trap then .error .unreachable else .ok (.int32 n))) := by
  have hmain : Host.mainOf s.program = .ok (b.slots.length + 1, mainType) := by
    rw [Host.mainOf, hs, export?_referenceProgram hroom]
    rfl
  have himports : ∀ i ∈ importsOf b.slots, i ∈ host.functions := by
    intro i hi
    rw [Host.links, hs] at hlinks
    simpa using List.all_eq_true.1 hlinks i hi
  refine Host.result_main hmain ?_ ?_
  · simp [(Host.start_eq_ok hstart).1, hopen, hlinks]
  · intro w₁ hwritten
    obtain ⟨hlent₁, hp₁⟩ : w₁.isLent h.toNat ∧ w₁.payload? h.toNat = some p := by
      obtain ⟨marks, -, rfl⟩ := hwritten
      exact ⟨hlent, hp⟩
    rw [hs, perform_referenceProgram hplaced opts (Host.offers_answer hstart hplaced himports h)]
    exact Host.run_meaning (hwritten.wellKept hw) hlent₁ hp₁ hreply opts
      (fun hdestroys => (hfree hdestroys).of_written hwritten) _ _ _ _

/-- **The meaning of the reference script.**  Its bytes can be read back, as long as they can be
counted in 32 bits, and `main` takes a handle and gives back a number.  Run on any handle against
any host that offers the log and the two slots, it logs the handle if it is to trace, asks for the
number, destroys the object if it is to do so, and then traps or gives back the number.  A host that
writes down the calls sees them in this order, up to the first that it does not answer.  So on a
host that was started, the result that is decoded is the number that the object answers. -/
theorem reference_meaning {slots : List Slot} (hslots : Suits slots) (opts : Options)
    (hsize : (reference slots opts).length < UInt32.size) :
    ∃ p idx, (∀ limit, Program.load? limit (reference slots opts) = some p) ∧
      p.export? mainExport = some (idx, { params := [.i64], results := [.i32] }) ∧
      (∀ (m : Type → Type) [Monad m] [LawfulMonad m] (host : HostCall m) (h : UInt64)
        (log : m Unit) (number : m Int32) (destroy : m Unit), Offers host h log number destroy →
          performDecoded host [.i32] (p.run idx [h]) = meaning opts log number destroy) ∧
      (∀ (answer : List GuestCall → Option Int32) (h : UInt64),
        (performDecoded (recorder answer) [.i32] (p.run idx [h])).run [] =
          inOrder answer (if opts.trap then .error .unreachable
            else .ok (.int32 ((answer (calls { opts with destroy := false } h)).getD 0)))
            (calls opts h) []) ∧
      ∀ (b : Boundary) (output : Channel) (pages : Nat) (host : Host) (name : String) (s : Script)
        (w : World) (h : UInt64) (q : Payload) (n : Int32), b.slots = slots →
        Host.start b output pages = .ok host → host.load name (reference slots opts) = .ok s →
        host.links s.program → w.WellKept → w.isLent h.toNat → w.payload? h.toNat = some q →
        q.reply = .ok n → (opts.destroy → w.DropsFreely h.toNat q) →
        (host.main s h.toNat).result w =
          .ok (if opts.trap then .error (Host.stopped s Trap.unreachable.message)
            else .ok (.int32 n)) := by
  have hroom := length_lt_of_reference hsize
  obtain ⟨number, destroy, hplaced, hload⟩ := load?_reference hslots hsize
  refine ⟨referenceProgram slots opts number destroy, slots.length + 1, hload,
    export?_referenceProgram hroom opts number destroy, ?_, ?_, ?_⟩
  · intro m _ _ host h log ask drop hhost
    exact perform_referenceProgram hplaced opts hhost
  · intro answer h
    exact perform_recorder hplaced opts h answer
  · rintro b output pages host name s w h q n rfl hstart hs hlinks hw hlent hq hreply hfree
    obtain rfl : s = { name, program := referenceProgram b.slots opts number destroy } := by
      rw [Host.load, (Host.start_eq_ok hstart).1] at hs
      simp only [Bool.false_eq_true, if_false, hload] at hs
      exact (Except.ok.inj hs).symm
    rw [result_main_reference hstart hplaced hroom rfl rfl hlinks hw hlent hq hreply hfree]
    cases opts.trap <;> rfl

/-- The two slots among others, not in the usual order. -/
def jumbled : List Slot := [
  { name := "peek", params := [.u64, .string], results := [.f64] },
  { name := "number", results := [.u8] },
  { name := "rename", params := [.char] },
  { name := "destroy" }]

theorem jumbled_suits : Suits jumbled :=
  ⟨by decide, ⟨.u8, rfl, by decide⟩, by decide⟩

theorem standard_suits : Suits Slot.standard :=
  ⟨by decide, ⟨.s32, rfl, by decide⟩, by decide⟩

/-- A host that answers every question with minus five. -/
def gloomy : HostCall Id := fun _ name _ =>
  if name = "number" then [(-5 : Int32).toUInt32.toUInt64] else []

/-- An object with a negative number, which is lent. -/
def lentWorld : World :=
  (Bench.run { world := { expired := [false] } } [
    .wrap .reference (.reference { number := -5 } 0), .ofHandle (World.handleAt 0),
    .intoHandle 0]).world

/-- The standard host offers what the reference script imports. -/
theorem start_standard : ∃ host, Host.start {} .out 0 = .ok host ∧
    ∀ i ∈ importsOf Slot.standard, i ∈ host.functions := by
  have hoffers : (Host.start {} .out 0).toOption.any
      (fun host => (importsOf Slot.standard).all host.functions.contains) = true := by
    decide +kernel
  cases hstart : Host.start {} .out 0 with
  | error f =>
      rw [hstart] at hoffers
      cases hoffers
  | ok host =>
      rw [hstart] at hoffers
      refine ⟨host, rfl, ?_⟩
      intro i hi
      simpa using List.all_eq_true.1 hoffers i hi

theorem lentWorld_dropsFreely :
    lentWorld.DropsFreely (World.handleAt 0) (.reference { number := -5 } 0) := by
  have hkept : lentWorld.WellKept := World.Reachable.wellKept ⟨_, _, ⟨rfl, rfl⟩, rfl, rfl⟩
  refine ⟨⟨by simp [Payload.reference], by decide⟩, by decide, ?_⟩
  rintro t - k - ⟨q, hq, -⟩
  obtain ⟨i, hi, rfl⟩ := (hkept.mem_handles_iff k).1
    (World.isSome_holder?_of_payload (Option.isSome_iff_exists.2 ⟨q, hq⟩))
  rw [Nat.lt_one_iff.1 hi]

/-- The script finds the two slots among others; if the number is not answered, it stops there.  On
a host that was started, a negative number comes back as it is. -/
theorem reference_meaning_jumbled :
    (∃ p idx, Program.load? 1 (reference jumbled .standard) = some p ∧
      performDecoded gloomy [.i32] (p.run idx [7]) = .ok (.int32 (-5)) ∧
      (performDecoded (recorder fun made => if made.length = 2 then none else some 1) [.i32]
        (p.run idx [7])).run [] = .error () [
          { module := logModule, name := "handle", args := [7] },
          { module := thingModule, name := "number", args := [7] }]) ∧
    ∃ host s, Host.start {} .out 0 = .ok host ∧
      host.load "standard" (reference Slot.standard .standard) = .ok s ∧
      (host.main s (World.handleAt 0)).result lentWorld = .ok (.ok (.int32 (-5))) := by
  constructor
  · obtain ⟨p, idx, hload, -, hmeaning, hcalls, -⟩ :=
      reference_meaning jumbled_suits .standard (by decide +kernel)
    refine ⟨p, idx, hload 1, ?_, ?_⟩
    · exact hmeaning Id gloomy 7 (pure ()) (pure (-5)) (pure ()) ⟨rfl, rfl, rfl⟩
    · rw [hcalls]
      rfl
  · obtain ⟨host, hstart, hoffers⟩ := start_standard
    obtain ⟨p, idx, hload, -, -, -, hhost⟩ :=
      reference_meaning standard_suits .standard (by decide +kernel)
    obtain ⟨number, destroy, -, hloads⟩ := load?_reference standard_suits
      (show (reference Slot.standard .standard).length < UInt32.size by decide +kernel)
    have hs : host.load "standard" (reference Slot.standard .standard) =
        .ok { name := "standard", program := p } := by
      rw [Host.load, (Host.start_eq_ok hstart).1]
      simp only [Bool.false_eq_true, if_false, hload]
    have hlinks : host.links p := by
      obtain rfl : p = referenceProgram Slot.standard .standard number destroy :=
        Option.some.inj ((hload 0).symm.trans (hloads 0))
      exact List.all_eq_true.2 fun i hi => by simpa using hoffers i hi
    refine ⟨host, _, hstart, hs, ?_⟩
    exact hhost {} .out 0 host "standard" _ lentWorld (World.handleAt 0).toUInt64 _ (-5) rfl hstart
      hs hlinks (World.Reachable.wellKept ⟨_, _, ⟨rfl, rfl⟩, rfl, rfl⟩) (by decide +kernel) rfl rfl
      fun _ => lentWorld_dropsFreely

end Script

end Handover
