/-
**From tokens to an interface description.**

The grammar, with `*` for any number and `?` for at most one:

    description := decl*
    decl        := word '=' 'interface' ('+' word)* '{' member* '}'
                 | word '=' 'enum' '{' (word ';')* '}'
                 | word '=' text
                 | '#' word '=' text '#'
    member      := ('static' | 'async')* word '(' params? ')' (':' word)? ';'
    params      := word ':' word (',' word ':' word)*

`static` and `async` are modifiers unless a parenthesis follows, `interface` and `enum` are
keywords only behind the equals sign.  Declarations have different names, and so have the methods
of one interface.  A method without a return type returns `void`.

Each step takes the tokens that are left and gives back what follows.  `eof` is the line that is
blamed when the tokens run out.

Main definitions: `Handover.Description.ofTokens`, `Handover.Description.parse` and
`Handover.Description.ofBytes`.
-/

import Handover.Interface.Decl
import Handover.Interface.Token
import Handover.Text.Utf8

set_option autoImplicit false

namespace Handover

namespace Token

/-! ### Single tokens -/

/-- The complaint that `what` does not come next. -/
def complain (eof : Nat) (what : Expected) : List Token → SyntaxError
  | [] => ⟨eof, .endBefore what⟩
  | t :: _ => ⟨t.line, .mismatch what t.value⟩

/-- Takes a word. -/
def takeWord (eof : Nat) : List Token → Except SyntaxError (String × List Token)
  | ⟨.word s, _⟩ :: rest => .ok (s, rest)
  | ts => .error (complain eof .word ts)

/-- Takes a text. -/
def takeString (eof : Nat) : List Token → Except SyntaxError (String × List Token)
  | ⟨.text s, _⟩ :: rest => .ok (s, rest)
  | ts => .error (complain eof .text ts)

/-- Takes the mark `c`. -/
def takeMark (eof : Nat) (c : Char) : List Token → Except SyntaxError (List Token)
  | ⟨.mark d, line⟩ :: rest =>
    if d = c then .ok rest else .error (complain eof (.mark c) (⟨.mark d, line⟩ :: rest))
  | ts => .error (complain eof (.mark c) ts)

theorem length_takeWord {eof : Nat} {ts rest : List Token} {s : String}
    (h : takeWord eof ts = .ok (s, rest)) : rest.length < ts.length := by
  unfold takeWord at h
  split at h <;> simp_all

theorem length_takeString {eof : Nat} {ts rest : List Token} {s : String}
    (h : takeString eof ts = .ok (s, rest)) : rest.length < ts.length := by
  unfold takeString at h
  split at h <;> simp_all

theorem length_takeMark {eof : Nat} {c : Char} {ts rest : List Token}
    (h : takeMark eof c ts = .ok rest) : rest.length < ts.length := by
  unfold takeMark at h
  split at h
  · split at h <;> simp_all
  · simp_all

/-! ### Methods -/

/-- The modifiers of a method. -/
structure Modifiers where
  isStatic : Bool := false
  isAsync : Bool := false

/-- Whether the tokens start with the mark `c`. -/
def startsWith (c : Char) : List Token → Bool
  | ⟨.mark d, _⟩ :: _ => d == c
  | _ => false

/-- Takes the modifiers at the head of a method. -/
def takeModifiers (m : Modifiers) : List Token → Modifiers × List Token
  | ⟨.word s, line⟩ :: rest =>
    if startsWith '(' rest then (m, ⟨.word s, line⟩ :: rest)
    else if s = "static" then takeModifiers { m with isStatic := true } rest
    else if s = "async" then takeModifiers { m with isAsync := true } rest
    else (m, ⟨.word s, line⟩ :: rest)
  | ts => (m, ts)

/-- Takes at least one parameter, and the closing parenthesis. -/
def takeParams (eof : Nat) (ts : List Token) : Except SyntaxError (List Param × List Token) :=
  match h₁ : takeWord eof ts with
  | .error e => .error e
  | .ok (name, ts₁) =>
    match h₂ : takeMark eof ':' ts₁ with
    | .error e => .error e
    | .ok ts₂ =>
      match h₃ : takeWord eof ts₂ with
      | .error e => .error e
      | .ok (type, ts₃) =>
        if startsWith ')' ts₃ then .ok ([⟨name, type⟩], ts₃.tail)
        else match h₄ : takeMark eof ',' ts₃ with
          | .error e => .error e
          | .ok ts₄ =>
            have := length_takeWord h₁
            have := length_takeMark h₂
            have := length_takeWord h₃
            have := length_takeMark h₄
            (takeParams eof ts₄).map fun (ps, rest) => (⟨name, type⟩ :: ps, rest)
termination_by ts.length

/-- Takes the parameters behind an opening parenthesis. -/
def takeParamList (eof : Nat) (ts : List Token) : Except SyntaxError (List Param × List Token) :=
  if startsWith ')' ts then .ok ([], ts.tail) else takeParams eof ts

/-- Takes a return type, if there is one. -/
def takeReturn (eof : Nat) (ts : List Token) : Except SyntaxError (String × List Token) :=
  if startsWith ':' ts then takeWord eof ts.tail else .ok ("void", ts)

/-- Takes one method. -/
def takeMethod (eof : Nat) (ts : List Token) : Except SyntaxError (Method × List Token) := do
  let (m, ts) := takeModifiers {} ts
  let (name, ts) ← takeWord eof ts
  let ts ← takeMark eof '(' ts
  let (params, ts) ← takeParamList eof ts
  let (returns, ts) ← takeReturn eof ts
  let ts ← takeMark eof ';' ts
  return ({ name, returns, params, isStatic := m.isStatic, isAsync := m.isAsync }, ts)

theorem length_takeModifiers (m : Modifiers) (ts : List Token) :
    (takeModifiers m ts).2.length ≤ ts.length := by
  fun_induction takeModifiers m ts <;> simp <;> omega

theorem length_takeParams {eof : Nat} {ts rest : List Token} {ps : List Param}
    (h : takeParams eof ts = .ok (ps, rest)) : rest.length < ts.length := by
  fun_induction takeParams eof ts generalizing ps rest with
  | case1 | case2 | case3 | case5 => simp at h
  | case4 ts name ts₁ h₁ ts₂ h₂ type ts₃ h₃ hc =>
    have := length_takeWord h₁
    have := length_takeMark h₂
    have := length_takeWord h₃
    simp only [Except.ok.injEq, Prod.mk.injEq] at h
    rw [← h.2, List.length_tail]
    omega
  | case6 ts name ts₁ h₁ ts₂ h₂ type ts₃ h₃ hc ts₄ h₄ _ _ _ _ ih =>
    have := length_takeWord h₁
    have := length_takeMark h₂
    have := length_takeWord h₃
    have := length_takeMark h₄
    cases hp : takeParams eof ts₄ with
    | error e => simp [hp, Except.map] at h
    | ok p =>
      obtain ⟨ps', rest'⟩ := p
      have := ih hp
      simp only [hp, Except.map, Except.ok.injEq, Prod.mk.injEq] at h
      rw [← h.2]
      omega

theorem length_takeParamList {eof : Nat} {ts rest : List Token} {ps : List Param}
    (h : takeParamList eof ts = .ok (ps, rest)) : rest.length ≤ ts.length := by
  unfold takeParamList at h
  split at h
  · simp only [Except.ok.injEq, Prod.mk.injEq] at h
    rw [← h.2, List.length_tail]
    omega
  · exact Nat.le_of_lt (length_takeParams h)

theorem length_takeReturn {eof : Nat} {ts rest : List Token} {s : String}
    (h : takeReturn eof ts = .ok (s, rest)) : rest.length ≤ ts.length := by
  unfold takeReturn at h
  split at h
  · have := length_takeWord h
    rw [List.length_tail] at this
    omega
  · simp only [Except.ok.injEq, Prod.mk.injEq] at h
    exact Nat.le_of_eq (congrArg List.length h.2.symm)

theorem length_takeMethod {eof : Nat} {ts rest : List Token} {m : Method}
    (h : takeMethod eof ts = .ok (m, rest)) : rest.length < ts.length := by
  have h₀ := length_takeModifiers {} ts
  simp only [takeMethod, bind, Except.bind] at h
  split at h
  · simp at h
  · next h₁ =>
    split at h
    · simp at h
    · next h₂ =>
      split at h
      · simp at h
      · next h₃ =>
        split at h
        · simp at h
        · next h₄ =>
          split at h
          · simp at h
          · next h₅ =>
            have := length_takeWord h₁
            have := length_takeMark h₂
            have := length_takeParamList h₃
            have := length_takeReturn h₄
            have := length_takeMark h₅
            simp only [pure, Except.pure, Except.ok.injEq, Prod.mk.injEq] at h
            rw [← h.2]
            omega

/-! ### Bodies -/

/-- Takes the methods of the interface `name` and the closing brace.  `seen` holds the names of the
methods before. -/
def takeMembers (eof : Nat) (name : String) (seen : List String) (ts : List Token) :
    Except SyntaxError (List Method × List Token) :=
  match ts with
  | [] => .error ⟨eof, .openInterface name⟩
  | t :: rest =>
    if t.shape = .mark '\x7d' then .ok ([], rest)
    else match h : takeMethod eof (t :: rest) with
      | .error e => .error e
      | .ok (m, rest') =>
        if seen.contains m.name then .error ⟨t.line, .methodTaken name m.name⟩
        else
          have := length_takeMethod h
          (takeMembers eof name (m.name :: seen) rest').map fun (ms, r) => (m :: ms, r)
termination_by ts.length
decreasing_by exact this

/-- Takes the values of an enumeration and the closing brace. -/
def takeValues (eof : Nat) (ts : List Token) : Except SyntaxError (List String × List Token) :=
  if startsWith '\x7d' ts then .ok ([], ts.tail)
  else match h₁ : takeWord eof ts with
    | .error e => .error e
    | .ok (v, ts₁) =>
      match h₂ : takeMark eof ';' ts₁ with
      | .error e => .error e
      | .ok ts₂ =>
        have := length_takeWord h₁
        have := length_takeMark h₂
        (takeValues eof ts₂).map fun (vs, rest) => (v :: vs, rest)
termination_by ts.length

/-- Takes the languages of an interface. -/
def takeLanguages (eof : Nat) (ts : List Token) : Except SyntaxError (List String × List Token) :=
  if startsWith '+' ts then
    match h : takeWord eof ts.tail with
    | .error e => .error e
    | .ok (l, rest) =>
      have := length_takeWord h
      have : ts.tail.length ≤ ts.length := by simp
      (takeLanguages eof rest).map fun (ls, r) => (l :: ls, r)
  else .ok ([], ts)
termination_by ts.length

theorem length_takeMembers {eof : Nat} {name : String} {seen : List String}
    {ts rest : List Token} {ms : List Method}
    (h : takeMembers eof name seen ts = .ok (ms, rest)) : rest.length < ts.length := by
  fun_induction takeMembers eof name seen ts generalizing ms rest with
  | case1 | case3 | case4 => simp at h
  | case2 seen t rest' =>
    simp only [Except.ok.injEq, Prod.mk.injEq] at h
    simp [← h.2]
  | case5 seen t rest' _ m rest'' hm hs _ ih =>
    cases hp : takeMembers eof name (m.name :: seen) rest'' with
    | error e => simp [hp, Except.map] at h
    | ok p =>
      obtain ⟨ms', r⟩ := p
      have := ih hp
      have := length_takeMethod hm
      simp only [hp, Except.map, Except.ok.injEq, Prod.mk.injEq] at h
      rw [← h.2]
      omega

theorem length_takeValues {eof : Nat} {ts rest : List Token} {vs : List String}
    (h : takeValues eof ts = .ok (vs, rest)) : rest.length ≤ ts.length := by
  fun_induction takeValues eof ts generalizing vs rest with
  | case1 ts hc =>
    simp only [Except.ok.injEq, Prod.mk.injEq] at h
    simp [← h.2]
  | case2 | case3 => simp at h
  | case4 ts _ v ts₁ h₁ ts₂ h₂ _ _ ih =>
    cases hp : takeValues eof ts₂ with
    | error e => simp [hp, Except.map] at h
    | ok p =>
      obtain ⟨vs', r⟩ := p
      have := ih hp
      have := length_takeWord h₁
      have := length_takeMark h₂
      simp only [hp, Except.map, Except.ok.injEq, Prod.mk.injEq] at h
      rw [← h.2]
      omega

theorem length_takeLanguages {eof : Nat} {ts rest : List Token} {ls : List String}
    (h : takeLanguages eof ts = .ok (ls, rest)) : rest.length ≤ ts.length := by
  fun_induction takeLanguages eof ts generalizing ls rest with
  | case1 => simp at h
  | case2 ts hc l rest' hw _ _ ih =>
    cases hp : takeLanguages eof rest' with
    | error e => simp [hp, Except.map] at h
    | ok p =>
      obtain ⟨ls', r⟩ := p
      have := ih hp
      simp only [hp, Except.map, Except.ok.injEq, Prod.mk.injEq] at h
      rw [← h.2]
      omega
  | case3 ts hc =>
    simp only [Except.ok.injEq, Prod.mk.injEq] at h
    simp [← h.2]

/-! ### Declarations -/

/-- The names declared so far, each with its line. -/
abbrev Declared := List (String × Nat)

/-- Records a name, which must be new. -/
def declare (seen : Declared) (name : String) (line : Nat) : Except SyntaxError Declared :=
  match seen.lookup name with
  | some before => .error ⟨line, .nameTaken name before⟩
  | none => .ok ((name, line) :: seen)

/-- The line of the next token. -/
def lineOf (eof : Nat) : List Token → Nat
  | [] => eof
  | t :: _ => t.line

/-- Takes what stands behind the name and the equals sign of a declaration. -/
def takeBody (eof : Nat) (name : String) (line : Nat) :
    List Token → Except SyntaxError (Decl × List Token)
  | [] => .error ⟨eof, .endAfter name⟩
  | ⟨.text value, _⟩ :: rest => .ok (.setting { name, value, isLegacy := false, line }, rest)
  | ⟨.word "interface", _⟩ :: rest => do
    let (languages, ts) ← takeLanguages eof rest
    let ts ← takeMark eof '\x7b' ts
    let (methods, ts) ← takeMembers eof name [] ts
    return (.interface { name, languages, methods, line }, ts)
  | ⟨.word "enum", _⟩ :: rest => do
    let ts ← takeMark eof '\x7b' rest
    let (values, ts) ← takeValues eof ts
    return (.enumeration { name, values, line }, ts)
  | t :: _ => .error ⟨t.line, .noDeclaration t.value⟩

/-- Takes a name that is new and the equals sign behind it. -/
def takeName (eof : Nat) (seen : Declared) (ts : List Token) :
    Except SyntaxError (String × Nat × Declared × List Token) := do
  let line := lineOf eof ts
  let (name, ts) ← takeWord eof ts
  let seen ← declare seen name line
  let ts ← takeMark eof '=' ts
  return (name, line, seen, ts)

/-- Takes one declaration. -/
def takeDecl (eof : Nat) (seen : Declared) (ts : List Token) :
    Except SyntaxError (Decl × Declared × List Token) :=
  if startsWith '#' ts then do
    let (name, line, seen, ts) ← takeName eof seen ts.tail
    let (value, ts) ← takeString eof ts
    let ts ← takeMark eof '#' ts
    return (.setting { name, value, isLegacy := true, line }, seen, ts)
  else do
    let (name, line, seen, ts) ← takeName eof seen ts
    let (d, ts) ← takeBody eof name line ts
    return (d, seen, ts)

theorem length_takeBody {eof line : Nat} {name : String} {ts rest : List Token} {d : Decl}
    (h : takeBody eof name line ts = .ok (d, rest)) : rest.length < ts.length := by
  unfold takeBody at h
  split at h
  · simp at h
  · simp only [Except.ok.injEq, Prod.mk.injEq] at h
    simp [← h.2]
  · simp only [bind, Except.bind] at h
    split at h
    · simp at h
    · next h₁ =>
      split at h
      · simp at h
      · next h₂ =>
        split at h
        · simp at h
        · next h₃ =>
          have := length_takeLanguages h₁
          have := length_takeMark h₂
          have := length_takeMembers h₃
          simp only [pure, Except.pure, Except.ok.injEq, Prod.mk.injEq] at h
          rw [← h.2, List.length_cons]
          omega
  · simp only [bind, Except.bind] at h
    split at h
    · simp at h
    · next h₁ =>
      split at h
      · simp at h
      · next h₂ =>
        have := length_takeMark h₁
        have := length_takeValues h₂
        simp only [pure, Except.pure, Except.ok.injEq, Prod.mk.injEq] at h
        rw [← h.2, List.length_cons]
        omega
  · simp at h

theorem length_takeName {eof line : Nat} {seen seen' : Declared} {ts rest : List Token}
    {name : String} (h : takeName eof seen ts = .ok (name, line, seen', rest)) :
    rest.length < ts.length := by
  simp only [takeName, bind, Except.bind] at h
  split at h
  · simp at h
  · next h₁ =>
    split at h
    · simp at h
    · split at h
      · simp at h
      · next h₂ =>
        have := length_takeWord h₁
        have := length_takeMark h₂
        simp only [pure, Except.pure, Except.ok.injEq, Prod.mk.injEq] at h
        rw [← h.2.2.2]
        omega

theorem length_takeDecl {eof : Nat} {seen seen' : Declared} {ts rest : List Token} {d : Decl}
    (h : takeDecl eof seen ts = .ok (d, seen', rest)) : rest.length < ts.length := by
  unfold takeDecl at h
  split at h
  · simp only [bind, Except.bind] at h
    split at h
    · simp at h
    · next h₁ =>
      split at h
      · simp at h
      · next h₂ =>
        split at h
        · simp at h
        · next h₃ =>
          have := length_takeName h₁
          have := length_takeString h₂
          have := length_takeMark h₃
          simp only [pure, Except.pure, Except.ok.injEq, Prod.mk.injEq] at h
          rw [List.length_tail] at *
          rw [← h.2.2]
          omega
  · simp only [bind, Except.bind] at h
    split at h
    · simp at h
    · next h₁ =>
      split at h
      · simp at h
      · next h₂ =>
        have := length_takeName h₁
        have := length_takeBody h₂
        simp only [pure, Except.pure, Except.ok.injEq, Prod.mk.injEq] at h
        rw [← h.2.2]
        omega

/-- Takes all declarations. -/
def takeDecls (eof : Nat) (seen : Declared) (ts : List Token) : Except SyntaxError (List Decl) :=
  if ts.isEmpty then .ok []
  else match h : takeDecl eof seen ts with
    | .error e => .error e
    | .ok (d, seen', rest) =>
      have := length_takeDecl h
      (takeDecls eof seen' rest).map (d :: ·)
termination_by ts.length

end Token

namespace Description

/-- The line that is blamed when the tokens run out: that of the last one. -/
def lastLine (ts : List Token) : Nat := (ts.getLast?.map (·.line)).getD 1

/-- The description that a list of tokens stands for. -/
def ofTokens (ts : List Token) : Except SyntaxError Description :=
  (Token.takeDecls (lastLine ts) [] ts).map Description.mk

/-- The description in a source text. -/
def parse (source : String) : Except SyntaxError Description :=
  Token.scan source >>= ofTokens

/-- The description in the bytes of a source, which are read leniently. -/
def ofBytes (bytes : Bytes) : Except SyntaxError Description := parse bytes.decode

end Description

end Handover
