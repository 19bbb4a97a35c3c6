/-
**Indices of a module under construction.**

A module is built in steps, and a step gives back an index: of a signature, or of a function.  Such
an index is written into code that is never looked at again, so it has to stand for the same thing
for good.  This is not obvious.  Signatures are shared, functions are numbered through two lists, and
the imports, which come first, grow as well.  It holds because every list grows at its end only, and
because the imports are closed with the first function that is defined.

A step is refused only if it imports a function after that.  The steps that follow go on with the
module as it was.

Main definitions:

* `Handover.Module.after` — the module that some steps build;
* `Handover.Module.callee?` — the function that an index stands for;
* `Handover.Module.Grows` — nothing that has an index was moved;
* `Handover.Module.Built` — what is known about the module that some steps build.

Main results:

* `Handover.Module.Grows.callee?_eq`, `Handover.Module.grows_after` — an index keeps its function;
* `Handover.Module.built_after` — the invariant of building;
* `Handover.Module.indices_stable` — **indices stay right for good**.
-/

import Handover.Proofs.Building
import Mathlib.Data.List.Induction
import Mathlib.Data.List.Nodup

set_option autoImplicit false

namespace Handover

namespace Module

/-! ### Steps -/

namespace Step

/-- Whether a step imports a function. -/
def isImport : Step → Bool
  | importFunc .. => true
  | _ => false

/-- Whether a step defines a function. -/
def defines : Step → Bool
  | addFunc .. | exportFunc .. => true
  | _ => false

end Step

/-- The module after some steps, whether or not some of them are refused. -/
def after (m : Module) (steps : List Step) : Module := steps.foldl (fun m s => (m.answer s).2) m

theorem after_concat (m : Module) (steps : List Step) (s : Step) :
    m.after (steps ++ [s]) = ((m.after steps).answer s).2 :=
  List.foldl_concat ..

/-- A function of a module. -/
inductive Callee where
  | imported (module name : String) (type : FuncType)
  | defined (type : FuncType) (body : FuncBody)
deriving DecidableEq

/-- The function that an index stands for: the imports come first, then the defined functions. -/
def callee? (m : Module) (idx : Nat) : Option Callee :=
  match m.imports[idx]? with
  | some i => (m.types[i.typeIdx.toNat]?).map (.imported i.module i.name)
  | none => do
    let typeIdx ← m.funcs[idx - m.imports.length]?
    let type ← m.types[typeIdx.toNat]?
    let body ← m.code[idx - m.imports.length]?
    return .defined type body

/-- The index stands for what the step was given. -/
def Stands (m : Module) (idx : UInt32) : Step → Prop
  | .addType t => m.types[idx.toNat]? = some t
  | .importFunc module name t => m.callee? idx.toNat = some (.imported module name t)
  | .addFunc t body | .exportFunc _ t body => m.callee? idx.toNat = some (.defined t body)

/-- The name and the function of a step that exports one. -/
def Step.export? : Step → Option (String × Callee)
  | exportFunc name t body => some (name, .defined t body)
  | _ => none

/-- The export has the name, and its index stands for the function. -/
def Exports (m : Module) (x : String × Callee) (e : Export) : Prop :=
  e.name = x.1 ∧ m.callee? e.idx.toNat = some x.2

/-- Signatures differ, and whatever has an index can be found. -/
structure Indexed (m : Module) : Prop where
  types : m.types.Nodup
  code : m.funcs.length = m.code.length
  imports : ∀ i ∈ m.imports, i.typeIdx.toNat < m.types.length
  funcs : ∀ idx ∈ m.funcs, idx.toNat < m.types.length
  exports : ∀ e ∈ m.exports, e.idx.toNat < m.imports.length + m.funcs.length

/-! ### Nothing is moved -/

/-- Every list of `m` is the beginning of that of `m'`, and once a function is defined there are no
more imports. -/
structure Grows (m m' : Module) : Prop where
  types : m.types <+: m'.types
  imports : m.imports <+: m'.imports
  funcs : m.funcs <+: m'.funcs
  code : m.code <+: m'.code
  closed : m.funcs ≠ [] → m'.imports = m.imports

theorem getElem?_mono {α : Type} {l l' : List α} (h : l <+: l') {i : Nat} {x : α}
    (hx : l[i]? = some x) : l'[i]? = some x := by
  obtain ⟨hi, rfl⟩ := List.getElem?_eq_some_iff.1 hx
  exact List.prefix_iff_getElem?.1 h i hi

namespace Grows

variable {m m' m'' : Module}

theorem refl (m : Module) : Grows m m :=
  ⟨List.prefix_refl _, List.prefix_refl _, List.prefix_refl _, List.prefix_refl _, fun _ => rfl⟩

theorem trans (h : Grows m m') (h' : Grows m' m'') : Grows m m'' where
  types := h.types.trans h'.types
  imports := h.imports.trans h'.imports
  funcs := h.funcs.trans h'.funcs
  code := h.code.trans h'.code
  closed := by
    intro hfuncs
    have hfuncs' : m'.funcs ≠ [] := fun hnil => hfuncs (List.prefix_nil.1 (hnil ▸ h.funcs))
    rw [h'.closed hfuncs', h.closed hfuncs]

/-- An index keeps its function. -/
theorem callee?_eq (h : Grows m m') {idx : Nat} {c : Callee} (hc : m.callee? idx = some c) :
    m'.callee? idx = some c := by
  rw [callee?] at hc ⊢
  cases hi : m.imports[idx]? with
  | some i =>
      rw [hi] at hc
      obtain ⟨t, ht, rfl⟩ := Option.map_eq_some_iff.1 hc
      rw [getElem?_mono h.imports hi]
      simp only [getElem?_mono h.types ht, Option.map_some]
  | none =>
      simp only [hi, Option.bind_eq_bind, Option.bind_eq_some_iff] at hc
      obtain ⟨typeIdx, hidx, t, ht, body, hbody, heq⟩ := hc
      -- the index is that of a defined function, so the imports before it are closed
      have himports : m'.imports = m.imports := by
        refine h.closed ?_
        rintro hnil
        simp [hnil] at hidx
      simp only [himports, hi, getElem?_mono h.funcs hidx, getElem?_mono h.types ht,
        getElem?_mono h.code hbody, Option.bind_eq_bind, Option.bind_some]
      exact heq

theorem stands (h : Grows m m') {idx : UInt32} {s : Step} (hs : m.Stands idx s) :
    m'.Stands idx s := by
  cases s with
  | addType t => exact getElem?_mono h.types hs
  | importFunc | addFunc | exportFunc => exact h.callee?_eq hs

theorem exports (h : Grows m m') {x : String × Callee} {e : Export} (he : m.Exports x e) :
    m'.Exports x e :=
  ⟨he.1, h.callee?_eq he.2⟩

end Grows

/-! ### One step -/

namespace Change

variable {m : Module} {s : Step} {x : Except Fault UInt32 × Module}

theorem grows (h : m.Change s x) : Grows m x.2 := by
  cases h with
  | addType =>
      exact ⟨List.prefix_append .., List.prefix_refl _, List.prefix_refl _, List.prefix_refl _,
        fun _ => rfl⟩
  | importFunc hfuncs =>
      exact ⟨List.prefix_append .., List.prefix_append .., List.prefix_refl _, List.prefix_refl _,
        fun hne => absurd hfuncs hne⟩
  | refused => exact .refl m
  | addFunc | exportFunc =>
      exact ⟨List.prefix_append .., List.prefix_refl _, List.prefix_append .., List.prefix_append ..,
        fun _ => rfl⟩

/-- A refused step changes nothing. -/
theorem eq_of_error (h : m.Change s x) {e : Fault} (he : x.1 = .error e) :
    x.2 = m ∧ e = lateImport := by
  cases h with
  | refused => exact ⟨rfl, (Except.error.inj he).symm⟩
  | addType | importFunc | addFunc | exportFunc => cases he

/-- A step is refused exactly if it imports a function after one was defined. -/
theorem error_iff (h : m.Change s x) :
    (∃ e, x.1 = .error e) ↔ s.isImport = true ∧ m.funcs ≠ [] := by
  cases h with
  | refused hfuncs => exact ⟨fun _ => ⟨rfl, hfuncs⟩, fun _ => ⟨lateImport, rfl⟩⟩
  | importFunc hfuncs => simp [hfuncs]
  | addType | addFunc | exportFunc => simp [Step.isImport]

theorem funcs_eq_nil (h : m.Change s x) :
    x.2.funcs = [] ↔ m.funcs = [] ∧ s.defines = false := by
  cases h <;> simp [Step.defines]

/-- One more signature at most, and one more function at most. -/
theorem length_le (h : m.Change s x) :
    x.2.types.length ≤ m.types.length + 1 ∧
      x.2.imports.length + x.2.funcs.length ≤ m.imports.length + m.funcs.length + 1 := by
  cases h with
  | refused => exact ⟨Nat.le_succ _, Nat.le_succ _⟩
  | addType htype | importFunc _ htype | addFunc htype | exportFunc htype =>
      have hextra := htype.length_le
      simp only [List.length_append, List.length_singleton]
      omega

/-- The index that a step gives back stands for what the step was given. -/
theorem stands (h : m.Change s x) (hm : m.Indexed) (htypes : m.types.length < UInt32.size)
    (hroom : m.imports.length + m.funcs.length < UInt32.size) {idx : UInt32}
    (hidx : x.1 = .ok idx) : x.2.Stands idx s := by
  cases h with
  | refused => cases hidx
  | addType htype =>
      cases hidx
      exact htype.found htypes
  | importFunc hfuncs htype =>
      cases hidx
      have hlast : m.imports.length.toUInt32.toNat = m.imports.length :=
        UInt32.toNat_ofNat_of_lt' (by omega)
      rw [Stands, hlast, callee?]
      simp [htype.found htypes]
  | addFunc htype | exportFunc htype =>
      cases hidx
      have hlast : (m.imports.length + m.funcs.length).toUInt32.toNat =
          m.imports.length + m.funcs.length := UInt32.toNat_ofNat_of_lt' hroom
      rw [Stands, hlast, callee?]
      simp [htype.found htypes, hm.code]

end Change

namespace Indexed

variable {m : Module} {t : FuncType} {typeIdx : UInt32} {extra : List FuncType}

/-- No signature is added twice. -/
theorem shares (hm : m.Indexed) (htype : m.Shares t typeIdx extra) :
    { m with types := m.types ++ extra }.Indexed := by
  have hmore {n : Nat} (hn : n < m.types.length) : n < (m.types ++ extra).length := by
    rw [List.length_append]
    exact Nat.lt_add_right _ hn
  refine ⟨?_, hm.code, fun i hi => hmore (hm.imports i hi),
    fun idx hidx => hmore (hm.funcs idx hidx), hm.exports⟩
  rcases htype.extra with rfl | ⟨rfl, hmissing⟩
  · rw [List.append_nil]
    exact hm.types
  · rw [← List.concat_eq_append]
    exact (List.nodup_concat ..).2 ⟨hmissing, hm.types⟩

theorem imported (hm : m.Indexed) {i : Import} (hi : i.typeIdx.toNat < m.types.length) :
    { m with imports := m.imports ++ [i] }.Indexed := by
  refine ⟨hm.types, hm.code, ?_, hm.funcs, ?_⟩
  · intro j hj
    rcases List.mem_append.1 hj with hj | hj
    · exact hm.imports j hj
    · rw [List.mem_singleton.1 hj]
      exact hi
  · intro e he
    have hlt := hm.exports e he
    simp only [List.length_append, List.length_singleton]
    omega

theorem defined (hm : m.Indexed) (hidx : typeIdx.toNat < m.types.length) (body : FuncBody) :
    { m with funcs := m.funcs ++ [typeIdx], code := m.code ++ [body] }.Indexed := by
  refine ⟨hm.types, ?_, hm.imports, ?_, ?_⟩
  · simp [hm.code]
  · intro idx hmem
    rcases List.mem_append.1 hmem with hmem | hmem
    · exact hm.funcs idx hmem
    · rw [List.mem_singleton.1 hmem]
      exact hidx
  · intro e he
    have hlt := hm.exports e he
    simp only [List.length_append, List.length_singleton]
    omega

theorem exported (hm : m.Indexed) {e : Export}
    (he : e.idx.toNat < m.imports.length + m.funcs.length) :
    { m with exports := m.exports ++ [e] }.Indexed := by
  refine ⟨hm.types, hm.code, hm.imports, hm.funcs, ?_⟩
  intro e' he'
  rcases List.mem_append.1 he' with he' | he'
  · exact hm.exports e' he'
  · rw [List.mem_singleton.1 he']
    exact he

end Indexed

/-- What has an index can still be found. -/
theorem Change.indexed {m : Module} {s : Step} {x : Except Fault UInt32 × Module}
    (h : m.Change s x) (hm : m.Indexed) (htypes : m.types.length < UInt32.size) :
    x.2.Indexed := by
  have hfound {t : FuncType} {typeIdx : UInt32} {extra : List FuncType}
      (htype : m.Shares t typeIdx extra) : typeIdx.toNat < (m.types ++ extra).length :=
    (List.getElem?_eq_some_iff.1 (htype.found htypes)).1
  cases h with
  | refused => exact hm
  | addType htype => exact hm.shares htype
  | importFunc _ htype => exact (hm.shares htype).imported (hfound htype)
  | addFunc htype => exact (hm.shares htype).defined (hfound htype) _
  | exportFunc htype =>
      refine ((hm.shares htype).defined (hfound htype) _).exported ?_
      -- the index may have been cut to 32 bits, which makes it smaller
      have hcut : (m.imports.length + m.funcs.length).toUInt32.toNat ≤
          m.imports.length + m.funcs.length := Nat.mod_le ..
      simp only [List.length_append, List.length_singleton]
      omega

/-! ### Every step -/

/-- What is known about the module that some steps build. -/
structure Built (steps : List Step) (m : Module) : Prop where
  indexed : m.Indexed
  types_length : m.types.length ≤ steps.length
  functions_length : m.imports.length + m.funcs.length ≤ steps.length
  funcs : m.funcs = [] ↔ ∀ s ∈ steps, s.defines = false
  exports : List.Forall₂ m.Exports (steps.filterMap Step.export?) m.exports

theorem Built.empty : Built [] {} where
  indexed := ⟨List.nodup_nil, rfl, by simp, by simp, by simp⟩
  types_length := Nat.le_refl 0
  functions_length := Nat.le_refl 0
  funcs := by simp
  exports := .nil

/-- The exports stay as they are, and a step that exports a function adds its own. -/
theorem Change.exports {m : Module} {s : Step} {x : Except Fault UInt32 × Module}
    (h : m.Change s x) (hm : m.Indexed) (htypes : m.types.length < UInt32.size)
    (hroom : m.imports.length + m.funcs.length < UInt32.size) {xs : List (String × Callee)}
    (hxs : List.Forall₂ m.Exports xs m.exports) :
    List.Forall₂ x.2.Exports (xs ++ s.export?.toList) x.2.exports := by
  have hkept : List.Forall₂ x.2.Exports xs m.exports := hxs.imp fun _ _ => h.grows.exports
  have hstands : ∀ idx, x.1 = .ok idx → x.2.Stands idx s := fun _ => h.stands hm htypes hroom
  cases h with
  | addType | importFunc | refused | addFunc => simpa [Step.export?] using hkept
  | exportFunc => exact List.rel_append hkept (.cons ⟨rfl, hstands _ rfl⟩ .nil)

theorem Built.step {steps : List Step} {m : Module} (hm : Built steps m)
    (hroom : steps.length < UInt32.size) (s : Step) : Built (steps ++ [s]) (m.answer s).2 := by
  have hchange := change_answer m s
  have hsignatures := Nat.lt_of_le_of_lt hm.types_length hroom
  have hfunctions := Nat.lt_of_le_of_lt hm.functions_length hroom
  obtain ⟨htypes, hcount⟩ := hchange.length_le
  have htypes' := hm.types_length
  have hcount' := hm.functions_length
  refine ⟨hchange.indexed hm.indexed hsignatures, ?_, ?_, ?_, ?_⟩
  · rw [List.length_append, List.length_singleton]
    omega
  · rw [List.length_append, List.length_singleton]
    omega
  · rw [hchange.funcs_eq_nil, hm.funcs, List.forall_mem_append, List.forall_mem_singleton]
  · rw [List.filterMap_append, List.filterMap_cons, List.filterMap_nil]
    have hexports := hchange.exports hm.indexed hsignatures hfunctions hm.exports
    cases hs : s.export? with
    | none => simpa [hs] using hexports
    | some x => simpa [hs] using hexports

/-- **The invariant of building.** -/
theorem built_after (steps : List Step) (hsteps : steps.length ≤ UInt32.size) :
    Built steps (after {} steps) := by
  induction steps using List.reverseRecOn with
  | nil => exact .empty
  | append_singleton steps s ih =>
      rw [List.length_append, List.length_singleton] at hsteps
      rw [after_concat]
      exact (ih (by omega)).step (by omega) s

/-- No step moves what the steps before it have built. -/
theorem grows_after (m : Module) (before later : List Step) :
    Grows (m.after before) (m.after (before ++ later)) := by
  induction later using List.reverseRecOn with
  | nil =>
      rw [List.append_nil]
      exact .refl _
  | append_singleton later s ih =>
      rw [← List.append_assoc, after_concat]
      exact ih.trans (change_answer _ s).grows

/-- **Indices stay right for good.**  After any steps, fewer than 2 ^ 32, signatures differ and
whatever has an index can be found.  An index that a step has given back stands for what the step
was given, whatever steps came after it.  A step is refused exactly if it imports a function after
one was defined, and then the module is the one before it.  The exports are those of the steps that
export a function, in their order, each with its own function. -/
theorem indices_stable (steps : List Step) (hsteps : steps.length < UInt32.size) :
    (after {} steps).Indexed ∧
      (∀ before s later, steps = before ++ s :: later →
        (∀ idx, ((after {} before).answer s).1 = .ok idx → (after {} steps).Stands idx s) ∧
        ((∃ e, ((after {} before).answer s).1 = .error e) ↔
          s.isImport = true ∧ ∃ q ∈ before, q.defines = true) ∧
        ∀ e, ((after {} before).answer s).1 = .error e →
          ((after {} before).answer s).2 = after {} before) ∧
      List.Forall₂ (after {} steps).Exports (steps.filterMap Step.export?)
        (after {} steps).exports := by
  have hbuilt := built_after steps (Nat.le_of_lt hsteps)
  refine ⟨hbuilt.indexed, ?_, hbuilt.exports⟩
  rintro before s later rfl
  rw [List.length_append, List.length_cons] at hsteps
  have hbefore := built_after before (by omega)
  have hchange := change_answer (after {} before) s
  refine ⟨?_, ?_, ?_⟩
  · intro idx hidx
    have hgrows := grows_after {} (before ++ [s]) later
    rw [after_concat, List.append_assoc, List.singleton_append] at hgrows
    have htypes := hbefore.types_length
    have hroom := hbefore.functions_length
    exact hgrows.stands (hchange.stands hbefore.indexed (by omega) (by omega) hidx)
  · rw [hchange.error_iff, ne_eq, hbefore.funcs]
    simp
  · intro e he
    exact (hchange.eq_of_error he).1

/-- Two functions that share a signature with an import, and a second import, which comes too late. -/
def lateSteps : List Step := [
  .importFunc "env" "log" { params := [.i64] },
  .addFunc { params := [.i64] } { locals := [.i32], code := [0x0b] },
  .importFunc "env" "late" { results := [.f64] },
  .exportFunc "main" { params := [.i64] } { locals := [], code := [0x00, 0x0b] }]

/-- The first function keeps its index, the late import leaves no signature behind, and `main` is the
function that was exported as `main`. -/
theorem indices_stable_lateSteps :
    lateSteps.length < UInt32.size ∧ (after {} lateSteps).Indexed ∧
      (after {} lateSteps).callee? 1 =
        some (.defined { params := [.i64] } { locals := [.i32], code := [0x0b] }) ∧
      (after {} (lateSteps.take 3)) = after {} (lateSteps.take 2) ∧
      ∃ e ∈ (after {} lateSteps).exports, e.name = "main" ∧
        (after {} lateSteps).callee? e.idx.toNat =
          some (.defined { params := [.i64] } { locals := [], code := [0x00, 0x0b] }) := by
  have hlength : lateSteps.length < UInt32.size := by decide
  obtain ⟨hindexed, hsteps, hexports⟩ := indices_stable lateSteps hlength
  refine ⟨hlength, hindexed, ?_, ?_, ?_⟩
  · exact (hsteps (lateSteps.take 1) _ _ rfl).1 1 rfl
  · exact (hsteps (lateSteps.take 2) _ _ rfl).2.2 lateImport rfl
  · obtain ⟨e, es, ⟨hname, hcallee⟩, -, heq⟩ := List.forall₂_cons_left_iff.1 hexports
    exact ⟨e, by simp [heq], hname, hcallee⟩

end Module

end Handover
