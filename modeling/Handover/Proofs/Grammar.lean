/-
**The grammar of interface descriptions.**

The grammar says which shapes of tokens spell a description:

    description := decl*
    decl        := word '=' 'interface' ('+' word)* '{' member* '}'
                 | word '=' 'enum' '{' (word ';')* '}'
                 | word '=' text
                 | '#' word '=' text '#'
    member      := ('static' | 'async')* word '(' params? ')' (':' word)? ';'
    params      := word ':' word (',' word ':' word)*

It knows nothing of steps, of what is left, or of lines, except that a declaration stands on the
line of its name.  That no name is declared twice is not a matter of the grammar and is stated
beside it.

Main definitions:

* `Handover.Grammar.Many`, `Handover.Grammar.Member`, `Handover.Grammar.Declaration` — the rules;
* `Handover.Grammar.Derives` — a list of tokens stands for a description;
* `Handover.Description.Distinct` — no name is declared twice;
* `Handover.Token.Ahead` — tokens of some shapes come next, in terms of which every step of the
  reader is described.

Main results: `Handover.Token.ahead_cons`, `Handover.Token.ahead_append` — what comes next can be
taken apart.
-/

import Handover.Interface.Parser
import Mathlib.Data.List.Basic

set_option autoImplicit false

namespace Handover

/-- Whether a token of this shape is a word. -/
def Shape.isWord : Shape → Bool
  | word _ => true
  | _ => false

/-! ### The rules -/

namespace Grammar

/-- `P` any number of times: what the occurrences stand for, and all their symbols in a row. -/
inductive Many {α β : Type} (P : α → List β → Prop) : List α → List β → Prop
  | nil : Many P [] []
  | cons {a : α} {as : List α} {us vs : List β} :
      P a us → Many P as vs → Many P (a :: as) (us ++ vs)

/-- `('+' word)*` -/
def languages (ls : List String) : List Shape := ls.flatMap fun l => [.mark '+', .word l]

/-- `(word ';')*` -/
def values (vs : List String) : List Shape := vs.flatMap fun v => [.word v, .mark ';']

/-- `word ':' word` -/
def param (p : Param) : List Shape := [.word p.name, .mark ':', .word p.type]

/-- `params?`, the parameters with commas between them -/
def params : List Param → List Shape
  | [] => []
  | p :: ps => param p ++ ps.flatMap fun q => .mark ',' :: param q

/-- `'static' | 'async'` -/
inductive Modifier where
  | static
  | async
deriving DecidableEq

/-- The word of a modifier. -/
def Modifier.keyword : Modifier → String
  | static => "static"
  | async => "async"

/-- `('static' | 'async')*`, in any order and as often as one likes -/
def modifiers (ks : List Modifier) : List Shape := ks.map fun k => .word k.keyword

/-- `(':' word)?`, where a missing type is `void` -/
inductive Returns : String → List Shape → Prop
  | missing : Returns "void" []
  | given (type : String) : Returns type [.mark ':', .word type]

/-- `member` -/
inductive Member : Method → List Shape → Prop
  | intro (ks : List Modifier) (name : String) (ps : List Param) {type : String}
      {ret : List Shape} (hret : Returns type ret) :
      Member
        { name, returns := type, params := ps
          isStatic := ks.contains .static, isAsync := ks.contains .async }
        (modifiers ks ++ [.word name, .mark '('] ++ params ps ++ [.mark ')'] ++ ret
          ++ [.mark ';'])

/-- What stands behind the name and the equals sign of a declaration. -/
inductive Body (name : String) (line : Nat) : Decl → List Shape → Prop
  | interface (ls : List String) {ms : List Method} {body : List Shape}
      (hms : Many Member ms body) :
      Body name line (.interface { name, languages := ls, methods := ms, line })
        ([.word "interface"] ++ languages ls ++ [.mark '\x7b'] ++ body ++ [.mark '\x7d'])
  | enumeration (vs : List String) :
      Body name line (.enumeration { name, values := vs, line })
        ([.word "enum", .mark '\x7b'] ++ values vs ++ [.mark '\x7d'])
  | setting (value : String) :
      Body name line (.setting { name, value, isLegacy := false, line }) [.text value]

theorem Body.name_line {name : String} {line : Nat} {d : Decl} {body : List Shape}
    (hbody : Body name line d body) : d.name = name ∧ d.line = line := by
  cases hbody <;> exact ⟨rfl, rfl⟩

/-- `decl`, on any line -/
inductive Declaration : Decl → List Shape → Prop
  | named (name : String) (line : Nat) {d : Decl} {body : List Shape}
      (hbody : Body name line d body) :
      Declaration d ([.word name, .mark '='] ++ body)
  | legacy (name value : String) (line : Nat) :
      Declaration (.setting { name, value, isLegacy := true, line })
        [.mark '#', .word name, .mark '=', .text value, .mark '#']

/-- The line of the first word among some tokens. -/
def nameLine? (ts : List Token) : Option Nat := (ts.find? (·.shape.isWord)).map (·.line)

/-- The tokens declare `d`, on the line of its name. -/
def Declares (d : Decl) (ts : List Token) : Prop :=
  Declaration d (ts.map Token.shape) ∧ nameLine? ts = some d.line

/-- The tokens stand for a description. -/
def Derives (d : Description) (ts : List Token) : Prop := Many Declares d.decls ts

end Grammar

/-- The methods of the declaration, if it is an interface, have different names. -/
def Decl.MethodsDistinct (d : Decl) : Prop :=
  ∀ i : Interface, d.interface? = some i → (i.methods.map Method.name).Nodup

instance (d : Decl) : Decidable d.MethodsDistinct :=
  inferInstanceAs (Decidable (∀ i ∈ d.interface?, (i.methods.map Method.name).Nodup))

theorem Decl.methodsDistinct_of_interface?_eq_none {d : Decl} (hd : d.interface? = none) :
    d.MethodsDistinct := by
  intro i hi
  rw [hd] at hi
  cases hi

/-- No name is declared twice, and no method of an interface either. -/
structure Description.Distinct (d : Description) : Prop where
  names : (d.decls.map Decl.name).Nodup
  methods : ∀ x ∈ d.decls, x.MethodsDistinct

namespace Token

/-! ### What comes next -/

/-- Tokens of the shapes `σ` come next, and `rest` after them. -/
def Ahead (σ : List Shape) (ts rest : List Token) : Prop :=
  ∃ us, ts = us ++ rest ∧ us.map Token.shape = σ

variable {σ τ : List Shape} {ts rest : List Token} {s : Shape}

@[simp] theorem ahead_nil : Ahead [] ts rest ↔ ts = rest := by
  constructor
  · rintro ⟨us, rfl, hus⟩
    rw [List.map_eq_nil_iff.1 hus, List.nil_append]
  · rintro rfl
    exact ⟨[], rfl, rfl⟩

/-- Tokens are known by their shapes up to their lines. -/
theorem exists_line_of_shapes (hts : ts.map Token.shape = s :: σ) :
    ∃ line ts', ts = ⟨s, line⟩ :: ts' ∧ ts'.map Token.shape = σ := by
  obtain ⟨⟨s', line⟩, ts', rfl, rfl, hts'⟩ := List.map_eq_cons_iff.1 hts
  exact ⟨line, ts', rfl, hts'⟩

@[simp] theorem ahead_cons :
    Ahead (s :: σ) ts rest ↔ ∃ line ts', ts = ⟨s, line⟩ :: ts' ∧ Ahead σ ts' rest := by
  constructor
  · rintro ⟨us, rfl, hus⟩
    obtain ⟨line, us', rfl, hus'⟩ := exists_line_of_shapes hus
    exact ⟨line, us' ++ rest, rfl, us', rfl, hus'⟩
  · rintro ⟨line, ts', rfl, us, rfl, rfl⟩
    exact ⟨⟨s, line⟩ :: us, rfl, rfl⟩

theorem ahead_singleton : Ahead [s] ts rest ↔ ∃ line, ts = ⟨s, line⟩ :: rest := by
  simp

@[simp] theorem ahead_append :
    Ahead (σ ++ τ) ts rest ↔ ∃ mid, Ahead σ ts mid ∧ Ahead τ mid rest := by
  constructor
  · rintro ⟨us, rfl, hus⟩
    obtain ⟨vs, ws, rfl, hvs, hws⟩ := List.map_eq_append_iff.1 hus
    exact ⟨ws ++ rest, ⟨vs, List.append_assoc .., hvs⟩, ws, rfl, hws⟩
  · rintro ⟨mid, ⟨vs, rfl, rfl⟩, ws, rfl, rfl⟩
    exact ⟨vs ++ ws, (List.append_assoc ..).symm, List.map_append⟩

theorem Ahead.append {mid : List Token} (hσ : Ahead σ ts mid) (hτ : Ahead τ mid rest) :
    Ahead (σ ++ τ) ts rest :=
  ahead_append.2 ⟨mid, hσ, hτ⟩

end Token

end Handover
