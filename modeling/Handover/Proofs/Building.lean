/-
**Building modules.**

A module is built by importing functions and then defining one that is exported.  Signatures are
shared, so that the index of a signature is not the index of its function, but an index stays valid
while signatures are added after it.  This module says what comes out: a module from which the
program with exactly these functions is read.

Lengths are written in 32 bits, and a module whose lengths do not fit is not read back.  If the
bytes of a module are fewer than 2 ^ 32, then every length in it fits, since what is counted has at
least one byte each.

Main definitions:

* `Handover.Module.Step`, `Handover.Module.answer` — the steps, and the answer to a step;
* `Handover.Module.Shares` — a signature is found, and was added only if it was missing;
* `Handover.Module.Change` — what a step can do to a module;
* `Handover.Module.Resolves` — an import of a module is a function;
* `Handover.Module.Draft` — a module that imports functions and has nothing else;
* `Handover.Module.Exporting` — such a module with one function that it exports.

Main results:

* `Handover.Module.change_answer` — a step does one of these things;
* `Handover.Module.run_importFunc`, `Handover.Module.run_exportFunc` — **what the steps build**;
* `Handover.Program.ofModule?_exporting` — the program of the module that was built;
* `Handover.Module.fits_of_length_encode` — a module of few bytes fits.
-/

import Handover.Proofs.ModuleRoundTrip
import Handover.Proofs.Success
import Handover.Wasm.Program

set_option autoImplicit false

namespace Handover

namespace Module

/-! ### What a step can do -/

/-- A step of building a module. -/
inductive Step where
  | addType (t : FuncType)
  | importFunc (module name : String) (t : FuncType)
  | addFunc (t : FuncType) (body : FuncBody)
  | exportFunc (name : String) (t : FuncType) (body : FuncBody)
deriving DecidableEq

namespace Step

/-- Performs a step. -/
def perform : Step → Building UInt32
  | addType t => Module.addType t
  | importFunc module name t => Module.importFunc module name t
  | addFunc t body => Module.addFunc t body.locals body.code
  | exportFunc name t body => Module.exportFunc name t body.locals body.code

end Step

/-- The answer to a step, and the module afterwards. -/
def answer (m : Module) (s : Step) : Except Fault UInt32 × Module :=
  match s.perform.run m with
  | .ok idx m => (.ok idx, m)
  | .error e m => (.error e, m)

/-- The signature is found under an index once `extra` is added, as long as there was room for one
more, and was added only if it was missing. -/
structure Shares (m : Module) (t : FuncType) (idx : UInt32) (extra : List FuncType) : Prop where
  found : m.types.length < UInt32.size → (m.types ++ extra)[idx.toNat]? = some t
  extra : extra = [] ∨ extra = [t] ∧ t ∉ m.types

theorem Shares.length_le {m : Module} {t : FuncType} {idx : UInt32} {extra : List FuncType}
    (h : m.Shares t idx extra) : extra.length ≤ 1 := by
  rcases h.extra with rfl | ⟨rfl, -⟩
  · exact Nat.zero_le 1
  · exact Nat.le_refl 1

theorem Shares.eq_of_mem {m : Module} {t : FuncType} {idx : UInt32} {extra : List FuncType}
    (h : m.Shares t idx extra) {u : FuncType} (hu : u ∈ extra) : u = t := by
  rcases h.extra with rfl | ⟨rfl, -⟩
  · cases hu
  · exact List.mem_singleton.1 hu

/-- Adding a signature gives an index at which it is found, and moves no other. -/
theorem run_addType (t : FuncType) (m : Module) :
    ∃ idx extra, (addType t).run m = .ok idx { m with types := m.types ++ extra } ∧
      m.Shares t idx extra := by
  simp only [addType, EStateM.run_bind, EStateM.run_get]
  cases hfind : m.types.findIdx? (· = t) with
  | some i =>
      obtain ⟨hi, heq, -⟩ := List.findIdx?_eq_some_iff_getElem.1 hfind
      refine ⟨i.toUInt32, [], by simp, ?_, Or.inl rfl⟩
      intro hm
      have hidx : i.toUInt32.toNat = i := UInt32.toNat_ofNat_of_lt' (Nat.lt_trans hi hm)
      rw [List.append_nil, hidx, List.getElem?_eq_getElem hi]
      exact congrArg some (by simpa using heq)
  | none =>
      refine ⟨m.types.length.toUInt32, [t], rfl, ?_, Or.inr ⟨rfl, ?_⟩⟩
      · intro hm
        have hidx : m.types.length.toUInt32.toNat = m.types.length := UInt32.toNat_ofNat_of_lt' hm
        rw [hidx, List.getElem?_concat_length]
      · intro ht
        simpa using List.findIdx?_eq_none_iff.1 hfind t ht

/-- The fault of an import that comes too late. -/
def lateImport : Fault := .message "wasm: imports must precede defined functions"

/-- What a step can do to a module, and what it gives back. -/
inductive Change (m : Module) : Step → Except Fault UInt32 × Module → Prop
  | addType {t : FuncType} {typeIdx : UInt32} {extra : List FuncType}
      (htype : m.Shares t typeIdx extra) :
      Change m (.addType t) (.ok typeIdx, { m with types := m.types ++ extra })
  | importFunc {module name : String} {t : FuncType} {typeIdx : UInt32} {extra : List FuncType}
      (hfuncs : m.funcs = []) (htype : m.Shares t typeIdx extra) :
      Change m (.importFunc module name t) (.ok m.imports.length.toUInt32, {
        m with
        types := m.types ++ extra
        imports := m.imports ++ [{ module, name, typeIdx }] })
  | refused {module name : String} {t : FuncType} (hfuncs : m.funcs ≠ []) :
      Change m (.importFunc module name t) (.error lateImport, m)
  | addFunc {t : FuncType} {body : FuncBody} {typeIdx : UInt32} {extra : List FuncType}
      (htype : m.Shares t typeIdx extra) :
      Change m (.addFunc t body) (.ok (m.imports.length + m.funcs.length).toUInt32, {
        m with
        types := m.types ++ extra
        funcs := m.funcs ++ [typeIdx]
        code := m.code ++ [body] })
  | exportFunc {name : String} {t : FuncType} {body : FuncBody} {typeIdx : UInt32}
      {extra : List FuncType} (htype : m.Shares t typeIdx extra) :
      Change m (.exportFunc name t body) (.ok (m.imports.length + m.funcs.length).toUInt32, {
        m with
        types := m.types ++ extra
        funcs := m.funcs ++ [typeIdx]
        exports := m.exports ++ [{ name, idx := (m.imports.length + m.funcs.length).toUInt32 }]
        code := m.code ++ [body] })

/-- A step does one of these things. -/
theorem change_answer (m : Module) (s : Step) : m.Change s (m.answer s) := by
  cases s with
  | addType t =>
      obtain ⟨typeIdx, extra, hadd, htype⟩ := run_addType t m
      have hanswer : m.answer (.addType t) =
          (.ok typeIdx, { m with types := m.types ++ extra }) := by
        simp [answer, Step.perform, hadd]
      exact hanswer ▸ .addType htype
  | importFunc module name t =>
      by_cases hfuncs : m.funcs = []
      · obtain ⟨typeIdx, extra, hadd, htype⟩ := run_addType t m
        have hanswer : m.answer (.importFunc module name t) = (.ok m.imports.length.toUInt32, {
            m with
            types := m.types ++ extra
            imports := m.imports ++ [{ module, name, typeIdx }] }) := by
          simp [answer, Step.perform, Module.importFunc, -bind_pure_comp, hfuncs, hadd]
        exact hanswer ▸ .importFunc hfuncs htype
      · have hanswer : m.answer (.importFunc module name t) = (.error lateImport, m) := by
          simp [answer, Step.perform, Module.importFunc, -bind_pure_comp, hfuncs, lateImport]
        exact hanswer ▸ .refused hfuncs
  | addFunc t body =>
      obtain ⟨typeIdx, extra, hadd, htype⟩ := run_addType t m
      have hanswer : m.answer (.addFunc t body) =
          (.ok (m.imports.length + m.funcs.length).toUInt32, {
            m with
            types := m.types ++ extra
            funcs := m.funcs ++ [typeIdx]
            code := m.code ++ [body] }) := by
        simp [answer, Step.perform, Module.addFunc, -bind_pure_comp, hadd, ← Nat.add_assoc]
      exact hanswer ▸ .addFunc htype
  | exportFunc name t body =>
      obtain ⟨typeIdx, extra, hadd, htype⟩ := run_addType t m
      have hanswer : m.answer (.exportFunc name t body) =
          (.ok (m.imports.length + m.funcs.length).toUInt32, {
            m with
            types := m.types ++ extra
            funcs := m.funcs ++ [typeIdx]
            exports := m.exports ++ [{ name, idx := (m.imports.length + m.funcs.length).toUInt32 }]
            code := m.code ++ [body] }) := by
        simp [answer, Step.perform, Module.exportFunc, Module.addFunc, -bind_pure_comp, hadd,
          ← Nat.add_assoc]
      exact hanswer ▸ .exportFunc htype

/-- A step that is answered was performed. -/
theorem run_perform_of_answer {m m' : Module} {s : Step} {idx : UInt32}
    (h : m.answer s = (.ok idx, m')) : s.perform.run m = .ok idx m' := by
  rw [answer] at h
  cases hrun : s.perform.run m with
  | ok idx₁ m₁ =>
      rw [hrun] at h
      cases h
      rfl
  | error e m₁ =>
      rw [hrun] at h
      cases h

/-- While no function is defined, an import is added behind the others. -/
theorem run_importFunc_of_funcs (module name : String) (t : FuncType) {m : Module}
    (hm : m.funcs = []) :
    ∃ typeIdx extra, m.Shares t typeIdx extra ∧
      (importFunc module name t).run m = .ok m.imports.length.toUInt32 {
        m with
        types := m.types ++ extra
        imports := m.imports ++ [{ module, name, typeIdx }] } := by
  have hchange := change_answer m (.importFunc module name t)
  generalize hx : m.answer (.importFunc module name t) = x at hchange
  cases hchange with
  | refused hfuncs => exact absurd hm hfuncs
  | importFunc _ htype => exact ⟨_, _, htype, run_perform_of_answer hx⟩

/-- A function that is exported is defined behind the others, and so is its export. -/
theorem run_exportFunc_eq (name : String) (t : FuncType) (locals : List ValType) (code : Bytes)
    (m : Module) :
    ∃ typeIdx extra, m.Shares t typeIdx extra ∧
      (exportFunc name t locals code).run m = .ok (m.imports.length + m.funcs.length).toUInt32 {
        m with
        types := m.types ++ extra
        funcs := m.funcs ++ [typeIdx]
        exports := m.exports ++ [{ name, idx := (m.imports.length + m.funcs.length).toUInt32 }]
        code := m.code ++ [{ locals, code }] } := by
  have hchange := change_answer m (.exportFunc name t { locals, code })
  generalize hx : m.answer (.exportFunc name t { locals, code }) = x at hchange
  cases hchange with
  | exportFunc htype => exact ⟨_, _, htype, run_perform_of_answer hx⟩

/-! ### Modules with one function -/

/-- The import stands for the function: it has its names, and the signature is found. -/
structure Resolves (m : Module) (i : Import) (f : ImportedFunction) : Prop where
  module : i.module = f.module
  name : i.name = f.name
  type : m.types[i.typeIdx.toNat]? = some f.type

/-- The module imports these functions and has nothing else. -/
structure Draft (fs : List ImportedFunction) (m : Module) : Prop where
  imports : List.Forall₂ m.Resolves m.imports fs
  /-- A signature was added for a function. -/
  types_of : ∀ t ∈ m.types, ∃ f ∈ fs, f.type = t
  types_length : m.types.length ≤ fs.length
  funcs : m.funcs = []
  memories : m.memories = []
  exports : m.exports = []
  code : m.code = []

/-- The module imports these functions, and defines and exports one. -/
structure Exporting (fs : List ImportedFunction) (name : String) (t : FuncType) (body : FuncBody)
    (m : Module) : Prop where
  imports : List.Forall₂ m.Resolves m.imports fs
  types_of : ∀ u ∈ m.types, u = t ∨ ∃ f ∈ fs, f.type = u
  funcs : ∃ idx, m.funcs = [idx] ∧ m.types[idx.toNat]? = some t
  memories : m.memories = []
  exports : m.exports = [{ name, idx := fs.length.toUInt32 }]
  code : m.code = [body]

theorem Draft.empty : Draft [] {} :=
  ⟨.nil, by simp, Nat.le_refl 0, rfl, rfl, rfl, rfl⟩

/-- Further signatures do not change what an import stands for. -/
theorem Resolves.of_types {m m' : Module} {i : Import} {f : ImportedFunction}
    (h : m.Resolves i f) (htypes : m.types <+: m'.types) : m'.Resolves i f where
  module := h.module
  name := h.name
  type := by
    obtain ⟨extra, hextra⟩ := htypes
    rw [← hextra, List.getElem?_append_left (List.getElem?_eq_some_iff.1 h.type).1]
    exact h.type

/-- An import is added even if its indices do not fit. -/
theorem length_imports_importFunc (module name : String) (t : FuncType) {m : Module}
    (hm : m.funcs = []) :
    ∃ idx m', (importFunc module name t).run m = .ok idx m' ∧ m'.funcs = [] ∧
      m'.imports.length = m.imports.length + 1 := by
  obtain ⟨typeIdx, extra, -, hrun⟩ := run_importFunc_of_funcs module name t hm
  exact ⟨_, _, hrun, hm, List.length_append⟩

/-- A function that is defined and exported leaves the imports as they are. -/
theorem imports_exportFunc (name : String) (t : FuncType) (locals : List ValType) (code : Bytes)
    (m : Module) : ∃ idx m', (exportFunc name t locals code).run m = .ok idx m' ∧
      m'.imports = m.imports := by
  obtain ⟨typeIdx, extra, -, hrun⟩ := run_exportFunc_eq name t locals code m
  exact ⟨_, _, hrun, rfl⟩

section Draft

variable {m : Module} {fs : List ImportedFunction} (hm : m.Draft fs)
  (hroom : fs.length < UInt32.size)
include hm hroom

/-- Importing a function gives it the next index. -/
theorem run_importFunc (f : ImportedFunction) :
    ∃ m', (importFunc f.module f.name f.type).run m = .ok fs.length.toUInt32 m' ∧
      m'.Draft (fs ++ [f]) := by
  obtain ⟨typeIdx, extra, htype, hrun⟩ := run_importFunc_of_funcs f.module f.name f.type hm.funcs
  have hfound := htype.found (Nat.lt_of_le_of_lt hm.types_length hroom)
  rw [hm.imports.length_eq] at hrun
  refine ⟨_, hrun, ?_, ?_, ?_, hm.funcs, hm.memories, hm.exports, hm.code⟩
  · refine List.rel_append (hm.imports.imp ?_) (.cons ⟨rfl, rfl, hfound⟩ .nil)
    intro i g hig
    exact hig.of_types (List.prefix_append ..)
  · intro t ht
    rcases List.mem_append.1 ht with ht | ht
    · obtain ⟨g, hg, hgt⟩ := hm.types_of t ht
      exact ⟨g, List.mem_append_left _ hg, hgt⟩
    · exact ⟨f, by simp, (htype.eq_of_mem ht).symm⟩
  · have htypes := hm.types_length
    have hextra := htype.length_le
    simp only [List.length_append, List.length_singleton]
    omega

/-- Defining and exporting a function gives it the index after the imports. -/
theorem run_exportFunc (name : String) (t : FuncType) (locals : List ValType) (code : Bytes) :
    ∃ m', (exportFunc name t locals code).run m = .ok fs.length.toUInt32 m' ∧
      m'.Exporting fs name t { locals, code } := by
  obtain ⟨typeIdx, extra, htype, hrun⟩ := run_exportFunc_eq name t locals code m
  have hfound := htype.found (Nat.lt_of_le_of_lt hm.types_length hroom)
  simp only [hm.funcs, hm.exports, hm.code, hm.imports.length_eq, List.length_nil, Nat.add_zero,
    List.nil_append] at hrun
  refine ⟨_, hrun, ?_, ?_, ⟨typeIdx, rfl, hfound⟩, hm.memories, rfl, rfl⟩
  · refine hm.imports.imp ?_
    intro i g hig
    exact hig.of_types (List.prefix_append ..)
  · intro u hu
    rcases List.mem_append.1 hu with hu | hu
    · exact Or.inr (hm.types_of u hu)
    · exact Or.inl (htype.eq_of_mem hu)

end Draft

/-! ### Lengths -/

section Lengths

variable {α : Type} (write : α → Bytes)

/-- Every item is a part of the list. -/
theorem length_le_encodeList_of_mem {xs : List α} {x : α} (hx : x ∈ xs) :
    (write x).length ≤ (encodeList write xs).length := by
  obtain ⟨before, after, rfl⟩ := List.append_of_mem hx
  simp only [encodeList, List.flatMap_append, List.flatMap_cons, List.length_append]
  omega

variable {write}

/-- A list has no more items than bytes. -/
theorem length_le_encodeList (hpos : ∀ x, write x ≠ []) (xs : List α) :
    xs.length ≤ (encodeList write xs).length := by
  have hflat : xs.length ≤ (xs.flatMap write).length := by
    induction xs with
    | nil => exact Nat.le_refl 0
    | cons x xs ih =>
        have hx : 0 < (write x).length := List.length_pos_iff.2 (hpos x)
        rw [List.length_cons, List.flatMap_cons, List.length_append]
        omega
  rw [encodeList, List.length_append]
  omega

/-- A list whose section is short fits, if items that are short fit. -/
theorem sectionFits_of_length (id : UInt8) {fits : α → Prop} {xs : List α}
    (hpos : ∀ x, write x ≠ []) (hfits : ∀ x ∈ xs, (write x).length < UInt32.size → fits x)
    (hlength : (encodeSection id write xs).length < UInt32.size) : SectionFits write fits xs := by
  have hsize : (encodeList write xs).length < UInt32.size := by
    cases xs with
    | nil => exact (by decide +kernel : (encodeCount 0 ++ []).length < UInt32.size)
    | cons x xs =>
        simp only [encodeSection, List.isEmpty_cons, Bool.false_eq_true, if_false, encodeBlock,
          List.length_cons, List.length_append] at hlength
        omega
  refine ⟨Nat.lt_of_le_of_lt (length_le_encodeList hpos xs) hsize, ?_, hsize⟩
  intro x hx
  exact hfits x hx (Nat.lt_of_le_of_lt (length_le_encodeList_of_mem write hx) hsize)

end Lengths

theorem unsigned_ne_nil (v : UInt32) : Leb128.unsigned v ≠ [] := by
  rw [Leb128.unsigned, Leb128.ofNat]
  split <;> exact List.cons_ne_nil _ _

theorem length_le_encodeBlock (bs : Bytes) : bs.length ≤ (encodeBlock bs).length := by
  rw [encodeBlock, List.length_append]
  exact Nat.le_add_left ..

theorem length_le_encodeName (s : String) : (Bytes.ofString s).length ≤ (encodeName s).length :=
  length_le_encodeBlock _

theorem length_le_encodeValTypes (ts : List ValType) : ts.length ≤ (encodeValTypes ts).length :=
  length_le_encodeList (fun _ => List.cons_ne_nil _ _) ts

theorem FuncType.fits_of_length {t : FuncType} (h : (encodeFuncType t).length < UInt32.size) :
    t.Fits := by
  have hparams := length_le_encodeValTypes t.params
  have hresults := length_le_encodeValTypes t.results
  simp only [encodeFuncType, List.length_cons, List.length_append] at h
  exact ⟨by omega, by omega⟩

theorem Import.fits_of_length {i : Import} (h : (encodeImport i).length < UInt32.size) :
    i.Fits := by
  simp only [encodeImport, List.length_append] at h
  refine ⟨?_, ?_⟩
  · exact Nat.lt_of_le_of_lt (length_le_encodeName i.module) (by omega)
  · exact Nat.lt_of_le_of_lt (length_le_encodeName i.name) (by omega)

/-- The imports of a module of few bytes fit. -/
theorem importsFit_of_length_encode {m : Module} (hlength : m.encode.length < UInt32.size) :
    SectionFits encodeImport Import.Fits m.imports := by
  simp only [encode, List.length_append] at hlength
  refine sectionFits_of_length 2 (fun i => by simp [encodeImport]) ?_ (by omega)
  exact fun i _ => Import.fits_of_length

/-- **A module of few bytes fits**, if its functions have few locals: those are not written one by
one. -/
theorem fits_of_length_encode {m : Module} (hlength : m.encode.length < UInt32.size)
    (hlocals : ∀ b ∈ m.code, b.locals.length < UInt32.size) : m.Fits := by
  have himports := importsFit_of_length_encode hlength
  simp only [encode, List.length_append] at hlength
  constructor
  · refine sectionFits_of_length 1 (fun t => List.cons_ne_nil _ _) ?_ (by omega)
    exact fun t _ => FuncType.fits_of_length
  · exact himports
  · exact sectionFits_of_length 3 unsigned_ne_nil (fun _ _ _ => trivial) (by omega)
  · refine sectionFits_of_length 5 (fun v => List.cons_ne_nil _ _) ?_ (by omega)
    exact fun _ _ _ => trivial
  · refine sectionFits_of_length 7 (fun e => by simp [encodeExport]) ?_ (by omega)
    intro e _ h
    simp only [encodeExport, List.length_append] at h
    exact Nat.lt_of_le_of_lt (length_le_encodeName e.name) (by omega)
  · refine sectionFits_of_length 10 (fun b => ?_) ?_ (by omega)
    · exact List.append_ne_nil_of_left_ne_nil (unsigned_ne_nil _) _
    · intro b hb h
      exact ⟨hlocals b hb, Nat.lt_of_le_of_lt (length_le_encodeBlock _) h⟩

end Module

/-! ### Programs -/

/-- A check that is passed is no obstacle. -/
theorem bind_guard {p : Prop} [Decidable p] {β : Type} (hp : p) (f : Unit → Option β) :
    (guard p >>= f) = f () := by
  have hguard : (guard p : Option Unit) = pure () := if_pos hp
  rw [hguard, pure_bind]

/-- The module with one exported function is the program of that function and the imports, if its
types are known and the function is well typed. -/
theorem Program.ofModule?_exporting (fn : Function) {fs : List ImportedFunction} {name : String}
    {bytes : Bytes} {m : Module}
    (hm : m.Exporting fs name fn.type { locals := fn.locals, code := bytes })
    (hknown : ∀ f ∈ fs, isKnownType f.type) (hfn : isKnownType fn.type)
    (hlocals : fn.locals.all ValType.isKnown) (hcode : Instr.decodeAll? bytes = some fn.code)
    (htyped : isTyped (fs.map (·.type) ++ [fn.type]) fn) (limit : Nat) :
    ofModule? limit m = some {
      imports := fs, functions := [fn], exports := [{ name, idx := fs.length.toUInt32 }] } := by
  have htypes : m.types.all isKnownType = true := by
    refine List.all_eq_true.2 ?_
    intro t ht
    rcases hm.types_of t ht with rfl | ⟨f, hf, rfl⟩
    · exact hfn
    · exact hknown f hf
  have himports : m.imports.mapM (fun i => do
      return ({ module := i.module, name := i.name, type := ← m.types[i.typeIdx.toNat]? } :
        ImportedFunction)) = pure fs := by
    refine mapM_eq_some_of_forall₂ (hm.imports.imp ?_)
    intro i f hif
    simp [hif.type, hif.module, hif.name]
  obtain ⟨idx, hfuncs, hidx⟩ := hm.funcs
  replace hidx : m.types[idx.toNat]? = pure fn.type := hidx
  replace hcode : Instr.decodeAll? bytes = pure fn.code := hcode
  have hexport : fs.length % UInt32.size < fs.length + 1 := Nat.lt_succ_of_le (Nat.mod_le ..)
  -- each check of the module is passed
  rw [ofModule?, bind_guard htypes, himports, pure_bind, hfuncs, hm.code, hm.exports, hm.memories]
  refine (bind_guard rfl _).trans ?_
  rw [List.zip_cons_cons, List.zip_nil_left, List.mapM_cons, List.mapM_nil]
  dsimp only
  rw [bind_guard hlocals, hidx, pure_bind, hcode, pure_bind, pure_bind, pure_bind, pure_bind]
  refine (bind_guard ?_ _).trans ((bind_guard ?_ _).trans ((bind_guard ?_ _).trans
    ((bind_guard ?_ _).trans rfl)))
  · simpa [funcTypes] using htyped
  · simpa [funcTypes] using hexport
  · simp
  · simp

end Handover
