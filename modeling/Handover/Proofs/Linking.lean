/-
**The reference script links.**

What a script may import is derived from an interface description, and what the reference script
imports is derived from the slots.  The host refuses types that no core value carries, and the
script leaves them out without a word, so that the two could well come to different signatures.
They do not, because the host compares the types of a method with those of its slot before it offers
anything: where it offers a function, the script has imported the slot under the same signature.

The other way round needs an assumption, since nobody asks whether a slot has a method.  If every
slot has one, then the script imports the log and functions of the host, and nothing else.

Main definitions: `Handover.Boundary.Covered` — every slot has a method.

Main results:

* `Handover.Boundary.mem_importsOf`, `Handover.Boundary.Covered.slotImport_mem` — functions of the
  host are imports of the script, and the other way round;
* `Handover.Program.resolves_of_ofModule?` — a program has the imports of its module;
* `Handover.Script.reference_links` — **the reference script links**.
-/

import Handover.Proofs.ReferenceScript
import Handover.Proofs.TableLayout
import Mathlib.Data.List.Nodup

set_option autoImplicit false

namespace Handover

open Script

namespace Boundary

/-- Every slot is the destructor, or has the name of a member of the interface. -/
def Covered (b : Boundary) : Prop :=
  ∃ d i, Description.parse b.source = .ok d ∧ d.interface? interfaceName = some i ∧
    ∀ s ∈ b.slots, s.name = "destroy" ∨ ∃ m ∈ i.members, s.name = (Words.ofCamel m.name).snake

variable {b : Boundary} {imports : List ImportedFunction}

/-- A function of the host is the import of a slot. -/
theorem exists_slot_of_mem (himports : b.imports = .ok imports) {f : ImportedFunction}
    (hf : f ∈ imports) : ∃ s ∈ b.slots, f = slotImport s := by
  obtain ⟨_, _, -, -, hrows⟩ := imports_eq_ok himports
  obtain ⟨m, -, hm⟩ := exists_of_mem_of_forall₂ hrows hf
  obtain ⟨s, hs, rfl⟩ := slot_of_importOf hm
  exact ⟨s, List.mem_of_find?_eq_some hs, rfl⟩

/-- What the host offers, the script imports. -/
theorem mem_importsOf (himports : b.imports = .ok imports) {f : ImportedFunction}
    (hf : f ∈ imports) : f ∈ importsOf b.slots := by
  obtain ⟨s, hs, rfl⟩ := exists_slot_of_mem himports hf
  exact List.mem_cons_of_mem _ (List.mem_map_of_mem hs)

/-- If every slot has a method, the host offers it.  Slots with one name would be offered as the
first of them. -/
theorem Covered.slotImport_mem (hcovered : b.Covered) (hnames : (b.slots.map (·.name)).Nodup)
    (himports : b.imports = .ok imports) {s : Slot} (hs : s ∈ b.slots) :
    slotImport s ∈ imports := by
  obtain ⟨d, i, hd, hi, hslots⟩ := hcovered
  obtain ⟨d', i', hd', hi', hrows⟩ := imports_eq_ok himports
  obtain rfl : d = d' := Except.ok.inj (hd.symm.trans hd')
  obtain rfl : i = i' := Option.some.inj (hi.symm.trans hi')
  obtain ⟨m, hm, hname⟩ : ∃ m ∈ destructor :: i.members, s.name = (Words.ofCamel m.name).snake := by
    rcases hslots s hs with hname | ⟨m, hm, hname⟩
    · exact ⟨destructor, List.mem_cons_self, hname.trans Scope.snake_destructor.symm⟩
    · exact ⟨m, List.mem_cons_of_mem _ hm, hname⟩
  obtain ⟨f, hf, himport⟩ := exists_of_mem_of_forall₂ hrows.flip hm
  obtain ⟨s', hs', hslot⟩ := slot_of_importOf himport
  have hsame : s'.name = s.name := by
    have hfound : s'.name = f.name := by simpa using List.find?_some hs'
    rw [hfound, (importOf_eq_ok himport).1, hname]
  obtain rfl := List.inj_on_of_nodup_map hnames (List.mem_of_find?_eq_some hs') hs hsame
  exact hslot ▸ hf

end Boundary

namespace Program

/-- A program has the imports of its module, with the signatures that their indices stand for. -/
theorem resolves_of_ofModule? {limit : Nat} {m : Module} {p : Program}
    (h : ofModule? limit m = some p) : List.Forall₂ m.Resolves m.imports p.imports := by
  rw [ofModule?] at h
  obtain ⟨-, -, h⟩ := Option.bind_eq_some_iff.1 h
  obtain ⟨imports, himports, h⟩ := Option.bind_eq_some_iff.1 h
  obtain ⟨-, -, h⟩ := Option.bind_eq_some_iff.1 h
  obtain ⟨functions, -, h⟩ := Option.bind_eq_some_iff.1 h
  -- the other checks are about functions, exports and memories
  obtain ⟨-, -, h⟩ := Option.bind_eq_some_iff.1 h
  obtain ⟨-, -, h⟩ := Option.bind_eq_some_iff.1 h
  obtain ⟨-, -, h⟩ := Option.bind_eq_some_iff.1 h
  obtain ⟨-, -, h⟩ := Option.bind_eq_some_iff.1 h
  obtain rfl := Option.some.inj h
  refine (forall₂_of_mapM_eq_some himports).imp ?_
  intro i f hif
  obtain ⟨t, ht, hf⟩ := Option.bind_eq_some_iff.1 hif
  obtain rfl := Option.some.inj hf
  exact ⟨rfl, rfl, ht⟩

end Program

/-- An import stands for one function only. -/
theorem Module.Resolves.unique {m : Module} {i : Import} {f g : ImportedFunction}
    (hf : m.Resolves i f) (hg : m.Resolves i g) : f = g := by
  obtain ⟨module, name, type⟩ := f
  obtain ⟨module', name', type'⟩ := g
  obtain rfl : module = module' := hf.module.symm.trans hg.module
  obtain rfl : name = name' := hf.name.symm.trans hg.name
  obtain rfl : type = type' := Option.some.inj (hf.type.symm.trans hg.type)
  rfl

namespace Script

/-- A program that is loaded from the reference script imports the log and the slots. -/
theorem imports_of_load? {slots : List Slot} {opts : Options} {limit : Nat} {p : Program}
    (hnames : (slots.map (·.name)).Nodup) (hsize : (reference slots opts).length < UInt32.size)
    (hload : Program.load? limit (reference slots opts) = some p) : p.imports = importsOf slots := by
  rw [Program.load?, decode?_reference hnames hsize] at hload
  obtain ⟨_, -, hbuilt⟩ := exporting_assemble hnames opts (length_lt_of_reference hsize)
  have hunique : Relator.RightUnique (Module.build (assemble slots opts)).Resolves :=
    fun _ _ _ => Module.Resolves.unique
  exact List.right_unique_forall₂' hunique (Program.resolves_of_ofModule? hload) hbuilt.imports

/-- If every slot has a method, whatever the script imports is the log or a function of the host. -/
theorem mem_or_log_of_mem_importsOf {b : Boundary} {imports : List ImportedFunction}
    (hcovered : b.Covered) (hnames : (b.slots.map (·.name)).Nodup)
    (himports : b.imports = .ok imports) {f : ImportedFunction} (hf : f ∈ importsOf b.slots) :
    f = Host.logFunction ∨ f ∈ imports := by
  rcases List.mem_cons.1 hf with hf | hf
  · exact Or.inl hf
  · obtain ⟨s, hs, rfl⟩ := List.mem_map.1 hf
    exact Or.inr (hcovered.slotImport_mem hnames himports hs)

/-- **The reference script links.**  Its bytes are those of a module, and stand for it if they can
be counted in 32 bits.  Every function that the host derives from the description is an import of
this module, with the same names and the same signature, in which the receiver comes first.  If every
slot has a method, every import of the module is the log or one of these functions, so that the
program that is loaded from the bytes links on any host that was started. -/
theorem reference_links (b : Boundary) (opts : Options) (imports : List ImportedFunction)
    (hnames : (b.slots.map (·.name)).Nodup) (hroom : b.slots.length + 1 < UInt32.size)
    (himports : b.imports = .ok imports) :
    let m := Module.build (assemble b.slots opts)
    (m.encode = reference b.slots opts ∧
      ((reference b.slots opts).length < UInt32.size →
        Module.decode? (reference b.slots opts) = some m)) ∧
    (∀ f ∈ imports, f.module = thingModule ∧ f.type.params.head? = some .i64 ∧
      ∃ i ∈ m.imports, m.Resolves i f) ∧
    (b.Covered →
      (∀ i ∈ m.imports, m.Resolves i Host.logFunction ∨ ∃ f ∈ imports, m.Resolves i f) ∧
      ∀ (output : Channel) (pages limit : Nat) (host : Host) (p : Program),
        Host.start b output pages = .ok host → (reference b.slots opts).length < UInt32.size →
        Program.load? limit (reference b.slots opts) = some p → host.links p) := by
  intro m
  obtain ⟨_, -, hbuilt⟩ := exporting_assemble hnames opts hroom
  refine ⟨⟨rfl, decode?_reference hnames⟩, ?_, ?_⟩
  · intro f hf
    obtain ⟨s, -, rfl⟩ := Boundary.exists_slot_of_mem himports hf
    exact ⟨rfl, rfl, exists_of_mem_of_forall₂ hbuilt.imports (Boundary.mem_importsOf himports hf)⟩
  · intro hcovered
    constructor
    · intro i hi
      obtain ⟨f, hf, hresolves⟩ := exists_of_mem_of_forall₂ hbuilt.imports.flip hi
      rcases mem_or_log_of_mem_importsOf hcovered hnames himports hf with rfl | hf
      · exact Or.inl hresolves
      · exact Or.inr ⟨f, hf, hresolves⟩
    · intro output pages limit host p hstart hsize hload
      obtain ⟨-, imports', himports', hfunctions⟩ := Host.functions_of_start hstart
      obtain rfl : imports = imports' := Except.ok.inj (himports.symm.trans himports')
      refine List.all_eq_true.2 ?_
      intro f hf
      rw [imports_of_load? hnames hsize hload] at hf
      rw [List.contains_iff_mem, hfunctions, List.mem_append, List.mem_singleton, or_comm]
      exact mem_or_log_of_mem_importsOf hcovered hnames himports hf

/-- A description with a static method, which needs no slot. -/
def coveredThing : Interface where
  name := "Thing"
  languages := []
  line := 1
  methods := [
    { name := "setNumber", returns := "void", params := [⟨"to", "i32"⟩, ⟨"by", "u64"⟩] },
    { name := "make", returns := "Thing", isStatic := true },
    { name := "number", returns := "i32" }]

/-- Its slots, in another order than the members. -/
def covered : Boundary where
  source := "Thing = interface \x7b setNumber(to: i32, by: u64); static make(): Thing; " ++
    "number(): i32; \x7d"
  slots := [
    { name := "number", results := [.s32] }, { name := "set_number", params := [.s32, .u64] },
    { name := "destroy" }]

/-- What the host offers for it. -/
def coveredImports : List ImportedFunction := [
  { module := thingModule, name := "destroy", type := { params := [.i64] } },
  { module := thingModule, name := "set_number", type := { params := [.i64, .i32, .i64] } },
  { module := thingModule, name := "number", type := { params := [.i64], results := [.i32] } }]

theorem reference_links_covered :
    (covered.slots.map (·.name)).Nodup ∧ covered.imports = .ok coveredImports ∧ covered.Covered ∧
      ∀ opts, let m := Module.build (assemble covered.slots opts)
        (∀ f ∈ coveredImports, ∃ i ∈ m.imports, m.Resolves i f) ∧
        ∀ i ∈ m.imports, m.Resolves i Host.logFunction ∨ ∃ f ∈ coveredImports, m.Resolves i f := by
  have hnames : (covered.slots.map (·.name)).Nodup := by decide
  have hd : Description.parse covered.source = .ok ⟨[.interface coveredThing]⟩ := by decide +kernel
  have hi : (Description.mk [.interface coveredThing]).interface? Boundary.interfaceName =
      some coveredThing := by decide +kernel
  have himports : covered.imports = .ok coveredImports := by
    rw [Boundary.imports_eq_mapM hd hi]
    decide +kernel
  have hcovered : covered.Covered := ⟨_, coveredThing, hd, hi, by decide +kernel⟩
  refine ⟨hnames, himports, hcovered, ?_⟩
  intro opts
  obtain ⟨-, hoffered, hneeded⟩ :=
    reference_links covered opts coveredImports hnames (by decide) himports
  exact ⟨fun f hf => (hoffered f hf).2.2, (hneeded hcovered).1⟩

end Script

end Handover
