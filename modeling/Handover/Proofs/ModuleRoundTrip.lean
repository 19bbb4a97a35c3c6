/-
**Reading back modules.**

Every part of the binary format ends by itself: what a writer wrote is read back, and what follows
is left.  This property is proved once for each writer, from the integers up to the sections, and
modules are read back because of it.  A section that was left out is read back as well, since what
follows it has a larger number.

Main definitions:

* `Handover.Module.Reads` — a reader gives back what a writer wrote;
* `Handover.Module.Fits` — all lengths that are written down fit 32 bits;
* `Handover.Module.readModule` — the reader of modules, which says what is left.

Main results:

* `Handover.Module.expandRuns_localRuns` — grouping locals loses nothing;
* `Handover.Module.readModule_encode` — **a module is read back from its bytes**;
* `Handover.Module.encode_lossless` — so no two modules have the same bytes.
-/

import Handover.Proofs.Leb128
import Handover.Proofs.Utf8
import Handover.Script.File
import Mathlib.Data.List.Basic

set_option autoImplicit false

namespace Handover

/-! ### What can be written down -/

/-- A name whose bytes can be counted. -/
def NameFits (s : String) : Prop := (Bytes.ofString s).length < UInt32.size

/-- A signature whose parameters and results can be counted. -/
structure FuncType.Fits (t : FuncType) : Prop where
  params : t.params.length < UInt32.size
  results : t.results.length < UInt32.size

structure Import.Fits (i : Import) : Prop where
  module : NameFits i.module
  name : NameFits i.name

/-- A function body whose locals and whose bytes can be counted. -/
structure FuncBody.Fits (b : FuncBody) : Prop where
  locals : b.locals.length < UInt32.size
  size : (Module.encodeLocals b.locals ++ b.code).length < UInt32.size

namespace Module

/-- A list of fitting items that fits a section, by its length and by its bytes. -/
structure SectionFits {α : Type} (write : α → Bytes) (fits : α → Prop) (xs : List α) : Prop where
  length : xs.length < UInt32.size
  items : ∀ x ∈ xs, fits x
  size : (encodeList write xs).length < UInt32.size

/-- All that is counted in a module fits 32 bits. -/
structure Fits (m : Module) : Prop where
  types : SectionFits encodeFuncType FuncType.Fits m.types
  imports : SectionFits encodeImport Import.Fits m.imports
  funcs : SectionFits Leb128.unsigned (fun _ => True) m.funcs
  memories : SectionFits encodeMemory (fun _ => True) m.memories
  exports : SectionFits encodeExport (fun e => NameFits e.name) m.exports
  code : SectionFits encodeBody FuncBody.Fits m.code

/-! Whether a module fits can be computed. -/

instance (s : String) : Decidable (NameFits s) := inferInstanceAs (Decidable (_ < _))

instance (t : FuncType) : Decidable t.Fits :=
  decidable_of_iff (t.params.length < UInt32.size ∧ t.results.length < UInt32.size)
    ⟨fun h => ⟨h.1, h.2⟩, fun h => ⟨h.params, h.results⟩⟩

instance (i : Import) : Decidable i.Fits :=
  decidable_of_iff (NameFits i.module ∧ NameFits i.name)
    ⟨fun h => ⟨h.1, h.2⟩, fun h => ⟨h.module, h.name⟩⟩

instance (b : FuncBody) : Decidable b.Fits :=
  decidable_of_iff (b.locals.length < UInt32.size ∧
      (encodeLocals b.locals ++ b.code).length < UInt32.size)
    ⟨fun h => ⟨h.1, h.2⟩, fun h => ⟨h.locals, h.size⟩⟩

instance {α : Type} (write : α → Bytes) (fits : α → Prop) [DecidablePred fits] (xs : List α) :
    Decidable (SectionFits write fits xs) :=
  decidable_of_iff (xs.length < UInt32.size ∧ (∀ x ∈ xs, fits x) ∧
      (encodeList write xs).length < UInt32.size)
    ⟨fun h => ⟨h.1, h.2.1, h.2.2⟩, fun h => ⟨h.length, h.items, h.size⟩⟩

instance (m : Module) : Decidable m.Fits :=
  decidable_of_iff (SectionFits encodeFuncType FuncType.Fits m.types ∧
      SectionFits encodeImport Import.Fits m.imports ∧
      SectionFits Leb128.unsigned (fun _ => True) m.funcs ∧
      SectionFits encodeMemory (fun _ => True) m.memories ∧
      SectionFits encodeExport (fun e => NameFits e.name) m.exports ∧
      SectionFits encodeBody FuncBody.Fits m.code)
    ⟨fun ⟨h₁, h₂, h₃, h₄, h₅, h₆⟩ => ⟨h₁, h₂, h₃, h₄, h₅, h₆⟩,
      fun h => ⟨h.types, h.imports, h.funcs, h.memories, h.exports, h.code⟩⟩

/-! ### Readers and writers -/

section Reads

variable {α : Type}

/-- The reader gives back what the writer wrote of `x`, and leaves what follows. -/
def Reads (read : Reading α) (write : α → Bytes) (x : α) : Prop :=
  ∀ rest, read (write x ++ rest) = some (x, rest)

theorem reads_unsigned (v : UInt32) : Reads readU32 Leb128.unsigned v := by
  intro rest
  rw [readU32, Leb128.readNat_unsigned]
  simp

theorem readU32_encodeCount (n : Nat) (rest : Bytes) :
    readU32 (encodeCount n ++ rest) = some (n.toUInt32, rest) :=
  reads_unsigned n.toUInt32 rest

theorem reads_block {bs : Bytes} (hbs : bs.length < UInt32.size) :
    Reads readBlock encodeBlock bs := by
  intro rest
  have hlength : bs.length.toUInt32.toNat = bs.length := UInt32.toNat_ofNat_of_lt' hbs
  rw [readBlock, encodeBlock, List.append_assoc, readU32_encodeCount]
  simp [hlength]

/-- Items that are each read back are read back in a row. -/
theorem readMany_flatMap {read : Reading α} {write : α → Bytes} {xs : List α}
    (hxs : ∀ x ∈ xs, Reads read write x) (rest : Bytes) :
    readMany read xs.length (xs.flatMap write ++ rest) = some (xs, rest) := by
  induction xs with
  | nil => rfl
  | cons x xs ih =>
      have hx := hxs x (List.mem_cons_self ..) (xs.flatMap write ++ rest)
      have hrest := ih fun y hy => hxs y (List.mem_cons_of_mem x hy)
      rw [List.flatMap_cons, List.append_assoc, List.length_cons, readMany, hx]
      simp [hrest]

theorem reads_list {read : Reading α} {write : α → Bytes} {xs : List α}
    (hlength : xs.length < UInt32.size) (hxs : ∀ x ∈ xs, Reads read write x) :
    Reads (readList read) (encodeList write) xs := by
  intro rest
  have hcount : xs.length.toUInt32.toNat = xs.length := UInt32.toNat_ofNat_of_lt' hlength
  rw [readList, encodeList, List.append_assoc, readU32_encodeCount]
  simp [hcount, readMany_flatMap hxs]

end Reads

/-! ### Names, signatures, imports and exports -/

theorem reads_name {s : String} (hs : NameFits s) : Reads readName encodeName s := by
  intro rest
  rw [readName, encodeName, reads_block hs]
  simp [Bytes.decode?_ofString]

theorem reads_valTypes {ts : List ValType} (hts : ts.length < UInt32.size) :
    Reads (readList readValType) encodeValTypes ts :=
  reads_list hts fun _ _ _ => rfl

theorem reads_funcType {t : FuncType} (ht : t.Fits) : Reads readFuncType encodeFuncType t := by
  intro rest
  rw [readFuncType, encodeFuncType, List.cons_append, List.append_assoc]
  simp [readExactly, reads_valTypes ht.params _, reads_valTypes ht.results _]

theorem reads_import {i : Import} (hi : i.Fits) : Reads readImport encodeImport i := by
  intro rest
  rw [readImport, encodeImport, List.append_assoc, List.append_assoc, reads_name hi.module]
  simp [readExactly, reads_name hi.name _, reads_unsigned i.typeIdx _]

theorem reads_export {e : Export} (he : NameFits e.name) : Reads readExport encodeExport e := by
  intro rest
  rw [readExport, encodeExport, List.append_assoc, reads_name he]
  simp [readExactly, reads_unsigned e.idx _]

theorem reads_memory (least : UInt32) : Reads readMemory encodeMemory least := by
  intro rest
  rw [readMemory, encodeMemory, List.cons_append]
  simp [readExactly, reads_unsigned least _]

/-! ### Locals and bodies -/

/-- Grouping locals loses nothing. -/
theorem expandRuns_localRuns (ts : List ValType) : expandRuns (localRuns ts) = ts := by
  induction ts with
  | nil => rfl
  | cons t ts ih =>
      rw [localRuns]
      cases hruns : localRuns ts with
      | nil =>
          rw [hruns] at ih
          simp [expandRuns, ← ih]
      | cons run runs =>
          obtain ⟨n, u⟩ := run
          rw [hruns] at ih
          by_cases htu : t = u
          · simp only [htu, if_true]
            rw [← ih]
            simp [expandRuns, List.replicate_succ]
          · simp only [htu, if_false]
            rw [← ih]
            simp [expandRuns]

theorem countRuns_eq (runs : List (Nat × ValType)) :
    countRuns runs = (expandRuns runs).length := by
  have hfold : ∀ k, runs.foldl (fun n run => n + run.1) k = k + (expandRuns runs).length := by
    induction runs with
    | nil => simp [expandRuns]
    | cons run runs ih =>
        intro k
        rw [List.foldl_cons, ih]
        simp [expandRuns, Nat.add_assoc]
  simpa [countRuns] using hfold 0

theorem le_countRuns {runs : List (Nat × ValType)} {run : Nat × ValType} (hrun : run ∈ runs) :
    run.1 ≤ countRuns runs := by
  obtain ⟨before, after, rfl⟩ := List.append_of_mem hrun
  simp only [countRuns_eq, expandRuns, List.flatMap_append, List.flatMap_cons, List.length_append,
    List.length_replicate]
  omega

/-- No run is empty, and there are no more runs than locals. -/
theorem localRuns_bounds (ts : List ValType) :
    (∀ run ∈ localRuns ts, 0 < run.1) ∧ (localRuns ts).length ≤ ts.length := by
  induction ts with
  | nil => simp [localRuns]
  | cons t ts ih =>
      obtain ⟨hpos, hlength⟩ := ih
      rw [localRuns]
      cases hruns : localRuns ts with
      | nil => simp
      | cons run runs =>
          obtain ⟨n, u⟩ := run
          rw [hruns] at hpos hlength
          have hrest : ∀ run ∈ runs, 0 < run.1 := fun run hrun =>
            hpos run (List.mem_cons_of_mem _ hrun)
          rw [List.length_cons] at hlength
          by_cases htu : t = u
          · simp only [htu, if_true, List.forall_mem_cons, List.length_cons]
            exact ⟨⟨Nat.succ_pos n, hrest⟩, by omega⟩
          · simp only [htu, if_false, List.forall_mem_cons, List.length_cons]
            exact ⟨⟨Nat.one_pos, hpos _ (List.mem_cons_self ..), hrest⟩, by omega⟩

theorem reads_run {run : Nat × ValType} (hpos : 0 < run.1) (hrun : run.1 < UInt32.size) :
    Reads readRun (fun (n, t) => encodeCount n ++ [t.code]) run := by
  intro rest
  obtain ⟨n, t⟩ := run
  have hn : n.toUInt32.toNat = n := UInt32.toNat_ofNat_of_lt' hrun
  have hne : n.toUInt32 ≠ 0 := by
    intro hzero
    rw [hzero] at hn
    exact absurd hn (Nat.ne_of_lt hpos)
  rw [readRun]
  simp only [List.append_assoc, readU32_encodeCount]
  simp [readValType, readByte, hne, hn]

/-- The locals of a body are read back as the runs that were written. -/
theorem reads_localRuns {ts : List ValType} (hts : ts.length < UInt32.size) (rest : Bytes) :
    readList readRun (encodeLocals ts ++ rest) = some (localRuns ts, rest) := by
  obtain ⟨hpos, hlength⟩ := localRuns_bounds ts
  have hcount : countRuns (localRuns ts) = ts.length := by
    rw [countRuns_eq, expandRuns_localRuns]
  refine reads_list (Nat.lt_of_le_of_lt hlength hts) ?_ rest
  intro run hrun
  exact reads_run (hpos run hrun) (Nat.lt_of_le_of_lt (hcount ▸ le_countRuns hrun) hts)

theorem reads_body {b : FuncBody} (hb : b.Fits) : Reads readBody encodeBody b := by
  intro rest
  have hcount : countRuns (localRuns b.locals) < UInt32.size := by
    rw [countRuns_eq, expandRuns_localRuns]
    exact hb.locals
  rw [readBody, encodeBody, reads_block hb.size]
  simp [reads_localRuns hb.locals, hcount, expandRuns_localRuns]

/-! ### Sections -/

/-- What follows a section: nothing, or a section with a larger number. -/
def Above (id : UInt8) (bs : Bytes) : Prop := ∀ b ∈ bs.head?, id < b

theorem above_nil (id : UInt8) : Above id [] := by simp [Above]

/-- A section comes above every smaller number, also if it is left out. -/
theorem above_section {α : Type} {id id' : UInt8} (hid : id < id') (write : α → Bytes)
    (xs : List α) {rest : Bytes} (hrest : Above id' rest) :
    Above id (encodeSection id' write xs ++ rest) := by
  unfold encodeSection
  split
  · intro b hb
    exact UInt8.lt_trans hid (hrest b hb)
  · intro b hb
    obtain rfl : id' = b := by simpa using hb
    exact hid

/-- A section is read back, whether or not it is there. -/
theorem readSection_encodeSection {α : Type} {id : UInt8} {read : Reading α} {write : α → Bytes}
    {fits : α → Prop} (hread : ∀ x, fits x → Reads read write x) {xs : List α}
    (hxs : SectionFits write fits xs) {rest : Bytes} (hrest : Above id rest) :
    readSection id read (encodeSection id write xs ++ rest) = some (xs, rest) := by
  cases hempty : xs.isEmpty with
  | true =>
      obtain rfl := List.isEmpty_iff.1 hempty
      cases rest with
      | nil => rfl
      | cons b bs =>
          have hne : b ≠ id := (UInt8.ne_of_lt (hrest b rfl)).symm
          simp [encodeSection, readSection, hne]
  | false =>
      have hlist := reads_list hxs.length (fun x hx => hread x (hxs.items x hx)) []
      rw [List.append_nil] at hlist
      simp [encodeSection, hempty, readSection, reads_block hxs.size rest, hlist]

/-! ### Modules -/

/-- Reads a module, and says what is left. -/
def readModule : Reading Module := fun bs => do
  if !header.isPrefixOf bs then none
  let bs := bs.drop header.length
  let (types, bs) ← readSection 1 readFuncType bs
  let (imports, bs) ← readSection 2 readImport bs
  let (funcs, bs) ← readSection 3 readU32 bs
  let (memories, bs) ← readSection 5 readMemory bs
  let (exports, bs) ← readSection 7 readExport bs
  let (code, bs) ← readSection 10 readBody bs
  return ({ types, imports, funcs, memories, exports, code }, bs)

/-- Bytes stand for a module if nothing is left of them. -/
theorem decode?_eq (bs : Bytes) : decode? bs =
    (readModule bs).bind fun (m, rest) => if rest.isEmpty then some m else none := by
  unfold decode? readModule
  split
  · rfl
  · simp [Option.bind_assoc]

/-- A module is read back from its bytes, as long as no section can be taken for a part of it. -/
theorem readModule_encode_append {m : Module} (hm : m.Fits) {rest : Bytes}
    (hrest : Above 10 rest) : readModule (m.encode ++ rest) = some (m, rest) := by
  -- each section is followed by sections with larger numbers only
  have hcode := above_section (show 7 < 10 by decide) encodeBody m.code hrest
  have hexports := above_section (show 5 < 7 by decide) encodeExport m.exports hcode
  have hmemories := above_section (show 3 < 5 by decide) encodeMemory m.memories hexports
  have hfuncs := above_section (show 2 < 3 by decide) Leb128.unsigned m.funcs hmemories
  have himports := above_section (show 1 < 2 by decide) encodeImport m.imports hfuncs
  rw [readModule, encode]
  simp only [List.append_assoc]
  rw [List.isPrefixOf_iff_prefix.2 (List.prefix_append ..), List.drop_left]
  simp [readSection_encodeSection (fun _ => reads_funcType) hm.types himports,
    readSection_encodeSection (fun _ => reads_import) hm.imports hfuncs,
    readSection_encodeSection (fun v _ => reads_unsigned v) hm.funcs hmemories,
    readSection_encodeSection (fun v _ => reads_memory v) hm.memories hexports,
    readSection_encodeSection (fun _ => reads_export) hm.exports hcode,
    readSection_encodeSection (fun _ => reads_body) hm.code hrest]

/-- **A module is read back from its bytes**, and nothing is left. -/
theorem readModule_encode {m : Module} (hm : m.Fits) : readModule m.encode = some (m, []) := by
  simpa using readModule_encode_append hm (above_nil 10)

theorem decode?_encode {m : Module} (hm : m.Fits) : decode? m.encode = some m := by
  rw [decode?_eq, readModule_encode hm]
  rfl

theorem header_prefix_encode (m : Module) : header <+: m.encode := by
  simp only [encode, List.append_assoc]
  exact List.prefix_append ..

/-- Two fitting modules with the same bytes are the same. -/
theorem encode_injective {m m' : Module} (hm : m.Fits) (hm' : m'.Fits)
    (hbytes : m.encode = m'.encode) : m = m' := by
  have hdecode := decode?_encode hm
  rw [hbytes, decode?_encode hm'] at hdecode
  exact (Option.some.inj hdecode).symm

/-- A file with the bytes of a module is taken for a script. -/
theorem fromFile_encode {files : File.Tree} {path : String} {m : Module}
    (hread : files.read (Script.pathOr path) = .ok m.encode) :
    Script.fromFile files path = .ok m.encode := by
  have hheader : header.isPrefixOf m.encode = true :=
    List.isPrefixOf_iff_prefix.2 (header_prefix_encode m)
  simp [Script.fromFile, hread, hheader]

/-- **Writing a module loses nothing**: its bytes are read back to the last one, and stand for no
other module.  The bytes of every module, whether or not it fits, start as a script must start. -/
theorem encode_lossless :
    (∀ m : Module, m.Fits → readModule m.encode = some (m, []) ∧ decode? m.encode = some m) ∧
    (∀ m m' : Module, m.Fits → m'.Fits → m.encode = m'.encode → m = m') ∧
    (∀ m : Module, header <+: m.encode) ∧
    ∀ (files : File.Tree) (path : String) (m : Module),
      files.read (Script.pathOr path) = .ok m.encode →
        Script.fromFile files path = .ok m.encode :=
  ⟨fun _ hm => ⟨readModule_encode hm, decode?_encode hm⟩, fun _ _ => encode_injective,
    header_prefix_encode, fun _ _ _ => fromFile_encode⟩

/-- A module that imports nothing, with one function and grouped locals. -/
def grouped : Module where
  types := [{ params := [.i64], results := [.i32] }]
  funcs := [0]
  exports := [{ name := "main", idx := 0 }]
  code := [{ locals := [.i32, .i32, .i64, .i32], code := [0x41, 0x07, 0x0b] }]

/-- The module is read back: its locals are in their order, and no import has come in. -/
theorem encode_lossless_grouped :
    grouped.Fits ∧ readModule grouped.encode = some (grouped, []) ∧
      decode? grouped.encode = some grouped := by
  have hfits : grouped.Fits := by decide +kernel
  exact ⟨hfits, encode_lossless.1 grouped hfits⟩

end Module

end Handover
