/-
**Which types a header introduces.**

The signatures in a header may name any class or enumeration of the description, but a header is
written from one class only.  It introduces the struct of that class, and the struct of its table of
function pointers, and nothing else; it has no lines for the types of other declarations.  So a
header can be read on its own exactly if its methods name no declared type but the interface itself.

What a header introduces is read off its lines, from top to bottom, without looking at how it was
made.

Main definitions:

* `Handover.Code.lines` — the lines of a code;
* `Handover.introduced?`, `Handover.typedefs` — the type that a line introduces, and those of
  several;
* `Handover.CClass.Place`, `Handover.CClass.places` — the places where a header names types;
* `Handover.CClass.SelfContained` — all types are introduced before they are named;
* `Handover.Method.NamesOwn` — a method that names no type but its interface.

Main results:

* `Handover.Code.flat_eq_flatMap_lines` — a code is made of its lines;
* `Handover.CClass.Plain.mem_typedefs_iff` — what is introduced above a place;
* `Handover.CClass.TypedBy.selfContained_iff` — when a header is self-contained;
* `Handover.Description.headers_introduce_own` — **a header introduces its own class only**;
* `Handover.Description.headers_not_selfContained` — a header that needs another one.
-/

import Handover.Proofs.Offences
import Handover.Proofs.TypeAgreement
import Mathlib.Data.List.TakeWhile

set_option autoImplicit false

namespace Handover

/-! ### Lines and what they introduce -/

namespace Code

mutual

/-- The lines of a code, from top to bottom. -/
def lines : Code → List String
  | line text => [text]
  | group children => linesAll children

/-- The lines of several codes. -/
def linesAll : List Code → List String
  | [] => []
  | c :: cs => lines c ++ linesAll cs

end

theorem linesAll_append (cs ds : List Code) : linesAll (cs ++ ds) = linesAll cs ++ linesAll ds := by
  induction cs with
  | nil => rfl
  | cons c cs ih => simp [linesAll, ih]

theorem linesAll_map {α : Type} (f : α → String) (as : List α) :
    linesAll (as.map fun a => line (f a)) = as.map f := by
  induction as with
  | nil => rfl
  | cons a as ih => simp [linesAll, lines, ih]

mutual

/-- A code is made of its lines. -/
theorem flat_eq_flatMap_lines : ∀ c : Code, c.flat = c.lines.flatMap lineBytes
  | line text => by simp [flat, lines]
  | group children => by rw [flat, lines, flatMap_flat_eq children]

theorem flatMap_flat_eq : ∀ cs : List Code, cs.flatMap flat = (linesAll cs).flatMap lineBytes
  | [] => rfl
  | c :: cs => by
      rw [List.flatMap_cons, linesAll, List.flatMap_append, flat_eq_flatMap_lines c,
        flatMap_flat_eq cs]

end

end Code

/-- What stands in front of the first blank. -/
def firstWord (line : String) : String := String.ofList (line.toList.takeWhile (· ≠ ' '))

/-- What stands behind the last blank. -/
def lastWord (cs : List Char) : String := String.ofList (cs.reverse.takeWhile (· ≠ ' ')).reverse

/-- The first words of lines that introduce types. -/
def openers : List String := ["typedef", "\x7d"]

/-- The type that a line of a header introduces: it starts a typedef or ends one that was started
above, and the name of the type comes last, before a semicolon. -/
def introduced? (line : String) : Option String :=
  if firstWord line ∈ openers ∧ line.toList.getLast? = some ';' then
    some (lastWord line.toList.dropLast)
  else none

/-- The types that some lines introduce. -/
def typedefs (lines : List String) : List String := lines.filterMap introduced?

theorem firstWord_append (s rest : String) : firstWord (s ++ " " ++ rest) = firstWord s := by
  have hchars : (s ++ " " ++ rest).toList = s.toList ++ ' ' :: rest.toList := by
    simp [String.toList_append]
  rw [firstWord, firstWord, hchars, List.takeWhile_append]
  split
  · rename_i hall
    rw [List.takeWhile_cons_of_neg (by simp), List.append_nil,
      (List.takeWhile_sublist _).eq_of_length hall]
  · rfl

theorem firstWord_of_no_blank {s : String} (hs : ' ' ∉ s.toList) : firstWord s = s := by
  have hall : ∀ c ∈ s.toList, decide (c ≠ ' ') = true := by
    intro c hc
    exact decide_eq_true fun h => hs (h ▸ hc)
  rw [firstWord, List.takeWhile_eq_self_iff.2 hall, String.ofList_toList]

theorem lastWord_append (front : List Char) {word : List Char} (hword : ' ' ∉ word) :
    lastWord (front ++ ' ' :: word) = String.ofList word := by
  have hall : ∀ c ∈ word.reverse, decide (c ≠ ' ') = true := by
    intro c hc
    exact decide_eq_true fun h => hword (h ▸ List.mem_reverse.1 hc)
  rw [lastWord, List.reverse_append, List.reverse_cons, List.append_assoc, List.singleton_append,
    List.takeWhile_append_of_pos hall, List.takeWhile_cons_of_neg (by simp), List.append_nil,
    List.reverse_reverse]

/-- A line that ends in a name and a semicolon introduces the name, if it starts as it should. -/
theorem introduced?_eq_some {front name : String} (hfirst : firstWord front ∈ openers)
    (hname : ' ' ∉ name.toList) : introduced? (front ++ " " ++ name ++ ";") = some name := by
  have hchars : (front ++ " " ++ name ++ ";").toList =
      (front.toList ++ ' ' :: name.toList) ++ [';'] := by
    simp [String.toList_append]
  have hstart : firstWord (front ++ " " ++ name ++ ";") = firstWord front := by
    rw [String.append_assoc, firstWord_append]
  rw [introduced?, hstart, hchars, if_pos ⟨hfirst, List.getLast?_concat⟩, List.dropLast_concat,
    lastWord_append _ hname, String.ofList_toList]

theorem introduced?_of_firstWord {line : String} (h : firstWord line ∉ openers) :
    introduced? line = none :=
  if_neg fun hline => h hline.1

/-- A line that is set off by a tab introduces nothing. -/
theorem introduced?_tab (rest : String) : introduced? ("\t" ++ rest) = none := by
  refine introduced?_of_firstWord ?_
  have hchars : ("\t" ++ rest).toList = '\t' :: rest.toList := by simp [String.toList_append]
  rw [firstWord, hchars, List.takeWhile_cons_of_pos (by decide)]
  intro h
  simp only [openers, List.mem_cons, List.not_mem_nil, or_false] at h
  -- both words start with another character
  rcases h with h | h
  · exact absurd (congrArg (·.toList.head?) h) (by simp)
  · exact absurd (congrArg (·.toList.head?) h) (by simp)

/-- Nor does a line that ends in a brace. -/
theorem introduced?_brace (front : String) : introduced? (front ++ "\x7b") = none := by
  have hchars : (front ++ "\x7b").toList = front.toList ++ ['\x7b'] := by
    simp [String.toList_append]
  refine if_neg fun h => ?_
  rw [hchars, List.getLast?_concat] at h
  exact absurd h.2 (by decide)

theorem typedefs_append (ls ls' : List String) :
    typedefs (ls ++ ls') = typedefs ls ++ typedefs ls' :=
  List.filterMap_append

theorem typedefs_eq_nil {ls : List String} (h : ∀ l ∈ ls, introduced? l = none) :
    typedefs ls = [] :=
  List.filterMap_eq_nil_iff.2 h

/-! ### Names have no blanks -/

theorem Text.toLower_ne_blank {c : Char} (hc : isWordPart c = true) : Text.toLower c ≠ ' ' := by
  have hrange := toNat_of_isWordPart hc
  rw [toLower_of_ascii (by omega)]
  exact forall_ascii (p := fun c => 48 ≤ c.toNat → c.toLower ≠ ' ') (by decide +kernel) (by omega)
    (by omega)

theorem blank_notMem_spellChar {c : Char} (hc : isWordPart c = true) : ' ' ∉ spellChar c := by
  have hlower := (Text.toLower_ne_blank hc).symm
  rw [spellChar]
  split
  · simpa using hlower
  · simpa using hlower

theorem blank_notMem_cSpelling {name : String} (hname : isName name = true) :
    ' ' ∉ (cSpelling name).toList := by
  obtain ⟨c, cs, hchars, hc, hcs⟩ := (isName_iff name).1 hname
  rw [cSpelling, String.toList_ofList, hchars, spellChars, List.mem_cons, List.mem_flatMap]
  rintro (hblank | ⟨x, hx, hblank⟩)
  · exact Text.toLower_ne_blank (isWordPart_of_isWordStart hc) hblank.symm
  · exact blank_notMem_spellChar (hcs x hx) hblank

/-- A word with an ending of its own does not start a typedef. -/
theorem firstWord_notMem_of_suffix (s suffix : String) (hblank : ' ' ∉ (s ++ suffix).toList)
    (hsuffix : ∀ w ∈ openers, Text.hasSuffix suffix w = false) :
    firstWord (s ++ suffix) ∉ openers := by
  intro h
  rw [firstWord_of_no_blank hblank] at h
  have hfalse := hsuffix _ h
  rw [Text.hasSuffix_append] at hfalse
  cases hfalse

/-- What a type name stands for is not spelled like the start of a typedef. -/
theorem Description.Means.firstWord_param {d : Description} {name : String} {t : CType}
    (ht : d.Means name t) (hname : isName name = true) :
    firstWord t.param ∉ openers := by
  have hblank := blank_notMem_cSpelling hname
  rcases ht.declared_or_primitive with ⟨-, hparam | hparam⟩ | ⟨-, rfl⟩
  · rw [hparam, Scope.declaredName_of_isName hname]
    refine firstWord_notMem_of_suffix (cSpelling name ++ "_t") "*" ?_ (by decide +kernel)
    simpa [String.toList_append] using hblank
  · rw [hparam, Scope.declaredName_of_isName hname]
    refine firstWord_notMem_of_suffix (cSpelling name) "_t" ?_ (by decide +kernel)
    simpa [String.toList_append] using hblank
  · obtain ⟨p, rfl⟩ : ∃ p : Primitive, p.name = name := by
      cases ht
      exact ⟨_, rfl⟩
    cases p <;> decide +kernel

/-! ### The lines of a header -/

/-- The name of a class or of an enumeration. -/
def CType.declared? : CType → Option String
  | object name => some name
  | enumeration name _ => some name
  | primitive _ => none
  | custom _ _ => none

/-- The names of the classes and enumerations in a signature. -/
def signatureNames (returns : CType) (params : List CParam) : List String :=
  (returns :: params.map CParam.type).filterMap CType.declared?

namespace CClass

/-- The lines of the header of a class. -/
def lines (c : CClass) : List String := c.file.code.lines

/-- A line of a header that holds a signature. -/
structure Place where
  /-- The number of lines above it. -/
  above : Nat
  text : String
  /-- The classes and enumerations that it names. -/
  names : List String

/-- The place of a slot, which has `k` slots above it. -/
def slotPlace (k : Nat) (s : CSlot) : Place := ⟨k + 4, s.line, signatureNames s.returns s.params⟩

/-- The place of a function, which has `k` functions above it. -/
def functionPlace (slots k : Nat) (f : CFunction) : Place :=
  ⟨k + (slots + 8), f.line, signatureNames f.returns f.params⟩

/-- The signatures in the header of a class: those of the slots, then those of the functions. -/
def places (c : CClass) (table : List CSlot) : List Place :=
  table.mapIdx slotPlace ++ c.functions.mapIdx (functionPlace table.length)

/-- A header that introduces all classes and enumerations before they are named. -/
def SelfContained (c : CClass) (table : List CSlot) : Prop :=
  ∀ p ∈ c.places table, ∀ name ∈ p.names, name ∈ typedefs (c.lines.take p.above)

/-- The lines above the slots. -/
def opening (c : CClass) : List String :=
  [HeaderFile.banner, HeaderFile.guardLine, structStub c.name,
    "typedef struct " ++ c.stem ++ "_vtable_s \x7b"]

/-- The lines between the slots and the functions. -/
def closing (c : CClass) : List String :=
  ["\x7d " ++ c.stem ++ "_vtable_t;", "struct " ++ c.stem ++ "_s \x7b",
    "\tconst " ++ c.stem ++ "_vtable_t* vtable;", "\x7d;"]

theorem length_opening (c : CClass) : c.opening.length = 4 := rfl

theorem length_above (c : CClass) (table : List CSlot) :
    (c.opening ++ (table.map CSlot.line ++ c.closing)).length = table.length + 8 := by
  simp [opening, closing]

variable {c : CClass} {table : List CSlot}

theorem lines_eq (htable : c.table = some table) :
    c.lines =
      c.opening ++ (table.map CSlot.line ++ (c.closing ++ c.functions.map CFunction.line)) := by
  simp [lines, file, HeaderFile.code, HeaderFile.codeOf, Code.lines, Code.linesAll,
    Code.linesAll_append, Code.linesAll_map, code, htable, tableCode, opening, closing]

theorem lines_eq_append (htable : c.table = some table) :
    c.lines =
      (c.opening ++ (table.map CSlot.line ++ c.closing)) ++ c.functions.map CFunction.line := by
  rw [lines_eq htable, List.append_assoc, List.append_assoc]

theorem forall_mem_places {P : Place → Prop} :
    (∀ p ∈ c.places table, P p) ↔ (∀ k (hk : k < table.length), P (slotPlace k table[k])) ∧
      ∀ k (hk : k < c.functions.length), P (functionPlace table.length k c.functions[k]) := by
  simp only [places, List.forall_mem_append, List.forall_mem_iff_forall_getElem, List.length_mapIdx,
    List.getElem_mapIdx]

/-- No slot introduces a type. -/
theorem introduced?_slot (s : CSlot) : introduced? s.line = none := by
  simp only [CSlot.line, String.append_assoc]
  exact introduced?_tab _

theorem introduced?_function {f : CFunction}
    (hf : firstWord f.returns.param ∉ openers) : introduced? f.line = none := by
  refine introduced?_of_firstWord ?_
  have hline : f.line =
      f.returns.param ++ " " ++ (f.name ++ "(" ++ CParam.join f.params ++ ");") := by
    simp [CFunction.line, String.append_assoc]
  rwa [hline, firstWord_append]

theorem introduced?_structStub (stem : String) {name : String} (hname : ' ' ∉ name.toList) :
    introduced? ("typedef struct " ++ stem ++ "_s " ++ name ++ ";") = some name := by
  have hfirst : firstWord ("typedef" ++ " " ++ ("struct " ++ stem ++ "_s")) = "typedef" := by
    rw [firstWord_append]
    decide +kernel
  have hline : "typedef struct " ++ stem ++ "_s " ++ name ++ ";" =
      "typedef" ++ " " ++ ("struct " ++ stem ++ "_s") ++ " " ++ name ++ ";" := by
    simp only [← String.toList_inj, String.toList_append, List.append_assoc]
    rfl
  rw [hline]
  refine introduced?_eq_some ?_ hname
  rw [hfirst]
  exact List.mem_cons_self

/-- Above the slots, a header introduces its class. -/
theorem typedefs_opening (hname : c.name = c.stem ++ "_t") (hstem : ' ' ∉ c.stem.toList) :
    typedefs c.opening = [c.name] := by
  have hbanner : introduced? HeaderFile.banner = none := by decide +kernel
  have hguard : introduced? HeaderFile.guardLine = none := by decide +kernel
  have hblank : ' ' ∉ c.name.toList := by
    rw [hname]
    simpa [String.toList_append] using hstem
  have hstub : introduced? (structStub c.name) = some c.name := introduced?_structStub _ hblank
  have htable : introduced? ("typedef struct " ++ c.stem ++ "_vtable_s \x7b") = none := by
    have hline : "typedef struct " ++ c.stem ++ "_vtable_s \x7b" =
        ("typedef struct " ++ c.stem ++ "_vtable_s ") ++ "\x7b" := by
      simp [← String.toList_inj, String.toList_append]
    rw [hline, introduced?_brace]
  simp [typedefs, opening, hbanner, hguard, hstub, htable]

/-- Between the slots and the functions, it introduces its table. -/
theorem typedefs_closing (hstem : ' ' ∉ c.stem.toList) :
    typedefs c.closing = [c.stem ++ "_vtable_t"] := by
  have htable : introduced? ("\x7d " ++ c.stem ++ "_vtable_t;") = some (c.stem ++ "_vtable_t") := by
    have hline : "\x7d " ++ c.stem ++ "_vtable_t;" =
        "\x7d" ++ " " ++ (c.stem ++ "_vtable_t") ++ ";" := by
      simp [← String.toList_inj, String.toList_append]
    rw [hline]
    refine introduced?_eq_some (by decide +kernel) ?_
    simpa [String.toList_append] using hstem
  have hstruct : introduced? ("struct " ++ c.stem ++ "_s \x7b") = none := by
    have hline : "struct " ++ c.stem ++ "_s \x7b" = ("struct " ++ c.stem ++ "_s ") ++ "\x7b" := by
      simp [← String.toList_inj, String.toList_append]
    rw [hline, introduced?_brace]
  have hpointer : introduced? ("\tconst " ++ c.stem ++ "_vtable_t* vtable;") = none := by
    have hline : "\tconst " ++ c.stem ++ "_vtable_t* vtable;" =
        "\t" ++ ("const " ++ c.stem ++ "_vtable_t* vtable;") := by
      simp [← String.toList_inj, String.toList_append]
    rw [hline, introduced?_tab]
  have hend : introduced? "\x7d;" = none := by decide +kernel
  simp [typedefs, closing, htable, hstruct, hpointer, hend]

/-- A class whose names have no blanks, and whose functions return types that a typedef does not
start with. -/
structure Plain (c : CClass) (table : List CSlot) : Prop where
  table_eq : c.table = some table
  name_eq : c.name = c.stem ++ "_t"
  stem : ' ' ∉ c.stem.toList
  functions : ∀ f ∈ c.functions, firstWord f.returns.param ∉ openers

namespace Plain

/-- What is introduced above a slot. -/
theorem typedefs_take_slot (h : c.Plain table) {k : Nat} (hk : k ≤ table.length) :
    typedefs (c.lines.take (k + 4)) = [c.name] := by
  have htake : c.lines.take (k + 4) = c.opening ++ (table.take k).map CSlot.line := by
    rw [lines_eq h.table_eq, Nat.add_comm, ← c.length_opening, List.take_length_add_append,
      List.take_append_of_le_length (by simpa using hk), List.map_take]
  have hslots : typedefs ((table.take k).map CSlot.line) = [] :=
    typedefs_eq_nil (List.forall_mem_map.2 fun s _ => introduced?_slot s)
  rw [htake, typedefs_append, typedefs_opening h.name_eq h.stem, hslots, List.append_nil]

/-- What is introduced above a function. -/
theorem typedefs_take_function (h : c.Plain table) (k : Nat) :
    typedefs (c.lines.take (k + (table.length + 8))) = [c.name, c.stem ++ "_vtable_t"] := by
  have htake : c.lines.take (k + (table.length + 8)) =
      (c.opening ++ (table.map CSlot.line ++ c.closing)) ++
        (c.functions.take k).map CFunction.line := by
    rw [lines_eq_append h.table_eq, Nat.add_comm, ← c.length_above table,
      List.take_length_add_append, List.map_take]
  have hslots : typedefs (table.map CSlot.line) = [] :=
    typedefs_eq_nil (List.forall_mem_map.2 fun s _ => introduced?_slot s)
  have hfunctions : typedefs ((c.functions.take k).map CFunction.line) = [] := by
    refine typedefs_eq_nil (List.forall_mem_map.2 fun f hf => ?_)
    exact introduced?_function (h.functions f (List.mem_of_mem_take hf))
  rw [htake, typedefs_append, typedefs_append, typedefs_append, hslots, hfunctions,
    typedefs_opening h.name_eq h.stem, typedefs_closing h.stem]
  rfl

/-- **What is introduced above a place**: the class, and below its table the table. -/
theorem mem_typedefs_iff (h : c.Plain table) : ∀ p ∈ c.places table, ∀ name,
    name ∈ typedefs (c.lines.take p.above) ↔
      name = c.name ∨ (table.length + 8 ≤ p.above ∧ name = c.stem ++ "_vtable_t") := by
  refine forall_mem_places.2 ⟨fun k hk name => ?_, fun k hk name => ?_⟩
  · have habove : ¬ table.length + 8 ≤ k + 4 := by omega
    rw [slotPlace, h.typedefs_take_slot hk.le]
    simp [habove]
  · rw [functionPlace, h.typedefs_take_function k]
    simp

/-- The places are where they are said to be. -/
theorem getElem?_lines (h : c.Plain table) :
    ∀ p ∈ c.places table, c.lines[p.above]? = some p.text := by
  refine forall_mem_places.2 ⟨fun k hk => ?_, fun k hk => ?_⟩
  · have hslot : k < (table.map CSlot.line).length := by simpa using hk
    rw [slotPlace, lines_eq h.table_eq, List.getElem?_append_right (by simp [c.length_opening]),
      c.length_opening, Nat.add_sub_cancel, List.getElem?_append_left hslot, List.getElem?_map,
      List.getElem?_eq_getElem hk]
    rfl
  · rw [functionPlace, lines_eq_append h.table_eq,
      List.getElem?_append_right (by simp [c.length_above table]), c.length_above table,
      Nat.add_sub_cancel, List.getElem?_map, List.getElem?_eq_getElem hk]
    rfl

/-- A header is self-contained if its slots name the class only, and its functions the class and its
table. -/
theorem selfContained_iff (h : c.Plain table) :
    c.SelfContained table ↔
      (∀ s ∈ table, ∀ name ∈ signatureNames s.returns s.params, name = c.name) ∧
        ∀ f ∈ c.functions, ∀ name ∈ signatureNames f.returns f.params,
          name = c.name ∨ name = c.stem ++ "_vtable_t" := by
  rw [SelfContained, forall_mem_places, List.forall_mem_iff_forall_getElem,
    List.forall_mem_iff_forall_getElem]
  refine and_congr (forall₂_congr fun k hk => ?_) (forall₂_congr fun k hk => ?_)
  · rw [slotPlace, h.typedefs_take_slot hk.le]
    simp
  · rw [functionPlace, h.typedefs_take_function k]
    simp

end Plain

end CClass

/-! ### The types of the methods -/

/-- The classes and enumerations among types are those of the names that are declared. -/
theorem Description.mem_declared_iff {d : Description} {ns : List String} {ts : List CType}
    (h : List.Forall₂ d.Means ns ts) {name : String} :
    name ∈ ts.filterMap CType.declared? ↔
      ∃ n ∈ ns, n ∈ d.typeNames ∧ CType.declaredName n = name := by
  have hmeans : ∀ n t, d.Means n t →
      (t.declared? = some name ↔ n ∈ d.typeNames ∧ CType.declaredName n = name) := by
    intro n t ht
    cases ht with
    | object hi => simp [CType.declared?, mem_typeNames_iff.2 ⟨_, hi, rfl⟩]
    | enumeration he => simp [CType.declared?, mem_typeNames_iff.2 ⟨_, he, rfl⟩]
    | primitive hp => simp [CType.declared?, hp]
  rw [List.mem_filterMap]
  constructor
  · rintro ⟨t, ht, hname⟩
    obtain ⟨n, hn, hnt⟩ := exists_of_mem_of_forall₂ h ht
    exact ⟨n, hn, (hmeans n t hnt).1 hname⟩
  · rintro ⟨n, hn, hname⟩
    obtain ⟨t, ht, hnt⟩ := exists_of_mem_of_forall₂ h.flip hn
    exact ⟨t, ht, (hmeans n t hnt).2 hname⟩

/-- The classes and enumerations in the signature of a method: the class itself, if it is a member,
and what its type names stand for. -/
theorem Scope.Typed.mem_signatureNames {d : Description} {own receiver : String} {m : Method}
    {t : CType} {cs : List CParam} (h : Typed d ⟨receiver, .object own⟩ m t cs) {name : String} :
    name ∈ signatureNames t cs ↔ (m.isStatic = false ∧ name = own) ∨
      ∃ n ∈ m.types, n ∈ d.typeNames ∧ CType.declaredName n = name := by
  obtain ⟨explicit, rfl, hparams⟩ := h.params
  have htypes : List.Forall₂ d.Means m.types (t :: explicit.map CParam.type) := by
    refine .cons h.returns ?_
    rw [List.forall₂_map_left_iff, List.forall₂_map_right_iff]
    exact hparams
  rw [← Description.mem_declared_iff htypes]
  cases hstatic : m.isStatic with
  | true => simp [signatureNames]
  | false => simp [signatureNames, CType.declared?, eq_comm, or_left_comm]

/-- What holds of the class itself holds of all classes and enumerations in the signature of a
method exactly if it holds of those that its type names stand for. -/
theorem Scope.Typed.forall_signatureNames {d : Description} {own receiver : String} {m : Method}
    {t : CType} {cs : List CParam} (h : Typed d ⟨receiver, .object own⟩ m t cs) {P : String → Prop}
    (hown : P own) :
    (∀ name ∈ signatureNames t cs, P name) ↔
      ∀ n ∈ m.types, n ∈ d.typeNames → P (CType.declaredName n) := by
  constructor
  · intro hall n hn hdeclared
    exact hall _ (h.mem_signatureNames.2 (.inr ⟨n, hn, hdeclared, rfl⟩))
  · intro hall name hname
    rcases h.mem_signatureNames.1 hname with ⟨-, rfl⟩ | ⟨n, hn, hdeclared, rfl⟩
    · exact hown
    · exact hall n hn hdeclared

/-- A method that names no declared type but its interface, up to the spelling in C.  A static
method may also name a type that is spelled like the table of the class. -/
def Method.NamesOwn (d : Description) (i : Interface) (m : Method) : Prop :=
  ∀ n ∈ m.types, n ∈ d.typeNames → cSpelling n = cSpelling i.name ∨
    (m.isStatic = true ∧ cSpelling n = cSpelling i.name ++ "_vtable")

instance (d : Description) (i : Interface) (m : Method) : Decidable (m.NamesOwn d i) :=
  inferInstanceAs (Decidable (∀ n ∈ m.types, n ∈ d.typeNames → cSpelling n = cSpelling i.name ∨
    (m.isStatic = true ∧ cSpelling n = cSpelling i.name ++ "_vtable")))

theorem forall_mem_iff_of_forall₂ {α β : Type} {R : α → β → Prop} {P : α → Prop} {Q : β → Prop}
    (hPQ : ∀ a b, R a b → (Q b ↔ P a)) {as : List α} {bs : List β} (h : List.Forall₂ R as bs) :
    (∀ b ∈ bs, Q b) ↔ ∀ a ∈ as, P a := by
  induction h with
  | nil => simp
  | cons hab _ ih => rw [List.forall_mem_cons, List.forall_mem_cons, hPQ _ _ hab, ih]

/-- The types of a class: the destructor, which takes the class and returns nothing, and then what
the type names of the methods stand for. -/
structure CClass.TypedBy (d : Description) (i : Interface) (c : CClass) (table : List CSlot) :
    Prop where
  table_eq : c.table = some table
  name_eq : c.name = cSpelling i.name ++ "_t"
  stem_eq : c.stem = cSpelling i.name
  functions : ∃ fs, c.functions = Scope.destructor i c :: fs ∧
    List.Forall₂ (fun m f => Scope.Typed d (Scope.self c) m f.returns f.params) i.methods fs
  slots : ∃ ss, table = Scope.destructorSlot c :: ss ∧
    List.Forall₂ (fun m s => Scope.Typed d (Scope.self c) m s.returns s.params) i.members ss

theorem Scope.typedBy_of_specify {d : Description} (hd : d.Distinct) {i : Interface}
    (hi : isName i.name = true) {c : CClass} (hc : ((ofDescription d).specify i).1 = .ok c) :
    ∃ table, c.TypedBy d i table := by
  obtain ⟨c₀, fs, slots, hfind, hmethods, rfl⟩ := exists_of_specify hc
  have hc₀ := spelled_ofDescription d i.name c₀ hfind
  obtain ⟨hfunctions, hslots⟩ := forall₂_of_methods hd hmethods
  exact ⟨_, rfl, hc₀.trans (declaredName_of_isName hi), stem_of_name hi hc₀,
    ⟨fs, rfl, hfunctions⟩, slots, rfl, hslots⟩

namespace CClass.TypedBy

variable {d : Description} {i : Interface} {c : CClass} {table : List CSlot}

theorem plain (h : c.TypedBy d i table) (hi : isName i.name = true)
    (hms : ∀ m ∈ i.methods, isName m.returns = true) : c.Plain table := by
  obtain ⟨fs, hfunctions, htyped⟩ := h.functions
  refine ⟨h.table_eq, h.stem_eq ▸ h.name_eq, h.stem_eq ▸ blank_notMem_cSpelling hi, ?_⟩
  have hvoid : firstWord (CType.primitive "void").param ∉ openers := by decide +kernel
  rw [hfunctions]
  refine List.forall_mem_cons.2 ⟨hvoid, fun f hf => ?_⟩
  obtain ⟨m, hm, hmf⟩ := exists_of_mem_of_forall₂ htyped hf
  exact hmf.returns.firstWord_param (hms m hm)

/-- What holds of the class itself holds of all that its slots name, exactly if it holds of what the
members name. -/
theorem forall_slots (h : c.TypedBy d i table) {P : String → Prop} (hown : P c.name) :
    (∀ s ∈ table, ∀ name ∈ signatureNames s.returns s.params, P name) ↔
      ∀ m ∈ i.members, ∀ n ∈ m.types, n ∈ d.typeNames → P (CType.declaredName n) := by
  obtain ⟨ss, rfl, htyped⟩ := h.slots
  rw [List.forall_mem_cons,
    forall_mem_iff_of_forall₂ (fun m s hs => hs.forall_signatureNames hown) htyped]
  simpa [Scope.destructorSlot, Scope.self, signatureNames, CType.declared?] using fun _ => hown

theorem forall_functions (h : c.TypedBy d i table) {P : String → Prop} (hown : P c.name) :
    (∀ f ∈ c.functions, ∀ name ∈ signatureNames f.returns f.params, P name) ↔
      ∀ m ∈ i.methods, ∀ n ∈ m.types, n ∈ d.typeNames → P (CType.declaredName n) := by
  obtain ⟨fs, hfunctions, htyped⟩ := h.functions
  rw [hfunctions, List.forall_mem_cons,
    forall_mem_iff_of_forall₂ (fun m f hf => hf.forall_signatureNames hown) htyped]
  simpa [Scope.destructor, Scope.self, signatureNames, CType.declared?] using fun _ => hown

/-- **A header is self-contained exactly if its methods name no other type.** -/
theorem selfContained_iff (h : c.TypedBy d i table) (hplain : c.Plain table)
    (hnames : ∀ m ∈ i.methods, ∀ n ∈ m.types, isName n = true) :
    c.SelfContained table ↔ ∀ m ∈ i.methods, m.NamesOwn d i := by
  rw [hplain.selfContained_iff, h.forall_slots (P := (· = c.name)) rfl,
    h.forall_functions (P := fun name => name = c.name ∨ name = c.stem ++ "_vtable_t") (.inl rfl)]
  have hown : ∀ m ∈ i.methods, ∀ n ∈ m.types,
      (CType.declaredName n = c.name ↔ cSpelling n = cSpelling i.name) := by
    intro m hm n hn
    rw [Scope.declaredName_of_isName (hnames m hm n hn), h.name_eq, String.append_left_inj]
  have htable : ∀ m ∈ i.methods, ∀ n ∈ m.types,
      (CType.declaredName n = c.stem ++ "_vtable_t" ↔
        cSpelling n = cSpelling i.name ++ "_vtable") := by
    intro m hm n hn
    have hsplit : cSpelling i.name ++ "_vtable_t" = cSpelling i.name ++ "_vtable" ++ "_t" := by
      rw [String.append_assoc]
      rfl
    rw [Scope.declaredName_of_isName (hnames m hm n hn), h.stem_eq, hsplit, String.append_left_inj]
  constructor
  · rintro ⟨hslots, hfunctions⟩ m hm n hn hdeclared
    cases hstatic : m.isStatic with
    | false =>
        have hmember : m ∈ i.members := List.mem_filter.2 ⟨hm, by simp [hstatic]⟩
        exact .inl ((hown m hm n hn).1 (hslots m hmember n hn hdeclared))
    | true =>
        refine (hfunctions m hm n hn hdeclared).imp (hown m hm n hn).1 fun h => ⟨rfl, ?_⟩
        exact (htable m hm n hn).1 h
  · intro hmethods
    refine ⟨fun m hmember n hn hdeclared => ?_, fun m hm n hn hdeclared => ?_⟩
    · obtain ⟨hm, hstatic⟩ := List.mem_filter.1 hmember
      refine (hown m hm n hn).2 ((hmethods m hm n hn hdeclared).resolve_right ?_)
      exact fun h => by simp [h.1] at hstatic
    · refine (hmethods m hm n hn hdeclared).imp (hown m hm n hn).2 fun h => ?_
      exact (htable m hm n hn).2 h.2

end CClass.TypedBy

/-! ### Headers -/

/-- **A header introduces its own class only.**  There is one header for each interface that targets
C.  The signatures of its slots and functions stand on the lines that are given.  A class or an
enumeration that one of them names is introduced above that line exactly if it is the class of the
header or, below the table, is called like the table.  So a header is self-contained exactly if the
methods of its interface name no declared type but the interface itself, up to the spelling in C. -/
theorem Description.headers_introduce_own (source : String) (d : Description)
    (files : List HeaderFile) (hd : Description.parse source = .ok d)
    (hfiles : d.headers = .ok files) :
    ∃ classes : List CClass, files = classes.map CClass.file ∧
      List.Forall₂ (fun i c => ((Scope.ofDescription d).specify i).1 = .ok c ∧
        c.file.code.flat = c.lines.flatMap Code.lineBytes ∧
        ∃ table, c.table = some table ∧
          (∀ p ∈ c.places table, c.lines[p.above]? = some p.text ∧ ∀ name ∈ p.names,
            (name ∈ typedefs (c.lines.take p.above) ↔
              name = c.name ∨ (table.length + 8 ≤ p.above ∧ name = c.stem ++ "_vtable_t"))) ∧
          (c.SelfContained table ↔ ∀ m ∈ i.methods, m.NamesOwn d i)) d.headed classes := by
  have hdistinct := Description.distinct_of_parse hd
  have hnamed := Description.wellNamed_of_parse hd
  obtain ⟨classes, hclasses, hnames⟩ := Description.names_of_headers hd hfiles
  refine ⟨classes, hclasses, hnames.imp ?_⟩
  rintro i c ⟨hi, hc, -⟩
  have hname := (hnamed.interface hi).1
  have htypes : ∀ m ∈ i.methods, ∀ n ∈ m.types, isName n = true :=
    fun m hm n hn => hnamed.types hi hm hn
  obtain ⟨table, htyped⟩ := Scope.typedBy_of_specify hdistinct hname hc
  have hplain := htyped.plain hname fun m hm => htypes m hm _ List.mem_cons_self
  exact ⟨hc, Code.flat_eq_flatMap_lines _, table, htyped.table_eq,
    fun p hp => ⟨hplain.getElem?_lines p hp, fun name _ => hplain.mem_typedefs_iff p hp name⟩,
    htyped.selfContained_iff hplain htypes⟩

/-- An interface that refers to another one. -/
def referringThing : Interface where
  name := "A"
  languages := ["c"]
  line := 1
  methods := [{ name := "f", returns := "void", params := [⟨"b", "B"⟩] }]

/-- The other one, which refers to itself. -/
def referredThing : Interface where
  name := "B"
  languages := ["c"]
  line := 1
  methods := [{ name := "join", returns := "B", params := [⟨"b", "B"⟩] }]

def referringSource : String :=
  "A = interface +c \x7b f(b: B); \x7d B = interface +c \x7b join(b: B): B; \x7d"

/-- The description in the source. -/
def referring : Description where
  decls := [.interface referringThing, .interface referredThing]

theorem parse_referring : Description.parse referringSource = .ok referring := by
  decide +kernel

theorem Description.headers_introduce_own_referring :
    Description.parse referringSource = .ok referring ∧
      ∃ a b tableA tableB, referring.headers = .ok [CClass.file a, CClass.file b] ∧
        a.table = some tableA ∧ ¬ a.SelfContained tableA ∧
        b.table = some tableB ∧ b.SelfContained tableB := by
  have hheaders : referring.headers.isOk = true := by decide +kernel
  have hheaded : referring.headed = [referringThing, referredThing] := by decide +kernel
  have hother : ¬ ∀ m ∈ referringThing.methods, m.NamesOwn referring referringThing := by
    decide +kernel
  have hown : ∀ m ∈ referredThing.methods, m.NamesOwn referring referredThing := by decide +kernel
  obtain ⟨files, hfiles⟩ := exists_of_isOk hheaders
  obtain ⟨classes, rfl, hclasses⟩ :=
    Description.headers_introduce_own referringSource referring files parse_referring hfiles
  rw [hheaded] at hclasses
  obtain _ | ⟨⟨-, -, tableA, htableA, -, hA⟩, hrest⟩ := hclasses
  obtain _ | ⟨⟨-, -, tableB, htableB, -, hB⟩, _ | _⟩ := hrest
  exact ⟨parse_referring, _, _, tableA, tableB, hfiles, htableA, mt hA.1 hother, htableB, hB.2 hown⟩

/-- **A header may need another one**: the class of the other interface stands in the table and in a
function of the first header, which introduces its own class and its table only. -/
theorem Description.headers_not_selfContained :
    Description.parse referringSource = .ok referring ∧
      (∃ files, referring.headers = .ok files ∧
        files.map (fun f => (f.name, typedefs f.code.lines)) =
          [("a.h", ["a_t", "a_vtable_t"]), ("b.h", ["b_t", "b_vtable_t"])]) ∧
      ∃ c, ((Scope.ofDescription referring).specify referringThing).1 = .ok c ∧
        c.table.map (fun table => (c.places table).map fun p => (p.text, p.names)) = some
          [("\tvoid (*destroy)(a_t* _sides_self);", ["a_t"]),
            ("\tvoid (*f)(a_t* _sides_self, b_t* b);", ["a_t", "b_t"]),
            ("void a_destroy(a_t* _sides_self);", ["a_t"]),
            ("void a_f(a_t* _sides_self, b_t* b);", ["a_t", "b_t"])] := by
  refine ⟨parse_referring, map_eq_ok.1 ?_, map_eq_ok.1 ?_⟩
  · decide +kernel
  · decide +kernel

end Handover
