/-
**Layouts of tokens.**

Tokens can be written down in many ways.  Between any two of them there may be a gap, made of blanks
and of comments that end with their line.  Only two words need one, since otherwise they would be
one word.  A text is written between quotes, with a backslash in front of each quote and each
backslash in it.  However tokens are laid out, the same shapes are scanned again.

The scanner knows nothing of gaps.  It looks at the next character, and the classes of characters
keep apart what may come next: blanks, the slash of a comment, the quote, words and marks.

Main definitions:

* `Handover.Filler`, `Handover.Layout` — what stands between tokens, and tokens with their gaps;
* `Handover.Layout.source` — the text of a layout;
* `Handover.isName` — words of letters, digits and underscores.

Main results:

* `Handover.Token.takeText_escape` — an escaped text is read back;
* `Handover.Layout.scan_source` — **a layout is scanned as its tokens**.
-/

import Handover.Proofs.Grammar
import Mathlib.Data.List.Chain

set_option autoImplicit false

namespace Handover

/-! ### Writing tokens -/

/-- What may stand between two tokens: a blank, or a comment with the end of its line. -/
inductive Filler where
  | blank (c : Char) (hc : Text.isBlank c = true)
  | comment (text : List Char) (htext : '\n' ∉ text)

/-- The characters of a filler. -/
def Filler.chars : Filler → List Char
  | blank c _ => [c]
  | comment text _ => '/' :: '/' :: (text ++ ['\n'])

/-- What stands between two tokens. -/
abbrev Gap := List Filler

/-- The characters of a gap. -/
def Gap.chars (g : Gap) : List Char := g.flatMap Filler.chars

/-- A backslash in front of each quote and each backslash. -/
def escapeText (cs : List Char) : List Char :=
  cs.flatMap fun c => if c = '"' ∨ c = '\\' then ['\\', c] else [c]

/-- How a token is written. -/
def Shape.chars : Shape → List Char
  | word s => s.toList
  | text s => '"' :: (escapeText s.toList ++ ['"'])
  | mark c => [c]

/-- Tokens, each with the gap behind it, and the gap before the first one.  Two words in a row do
not touch. -/
structure Layout where
  lead : Gap
  items : List (Shape × Gap)
  apart : items.IsChain fun x y => x.1.isWord → y.1.isWord → x.2 ≠ []

/-- The characters of tokens and the gaps behind them. -/
def itemChars (items : List (Shape × Gap)) : List Char :=
  items.flatMap fun x => x.1.chars ++ Gap.chars x.2

namespace Layout

/-- The tokens of a layout. -/
def shapes (l : Layout) : List Shape := l.items.map Prod.fst

/-- The text of a layout. -/
def source (l : Layout) : String := String.ofList (Gap.chars l.lead ++ itemChars l.items)

end Layout

/-- A letter or underscore, then letters, digits and underscores. -/
def isName (s : String) : Bool :=
  match s.toList with
  | [] => false
  | c :: cs => (c.isAlpha || c == '_') && cs.all fun x => x.isAlphanum || x == '_'

/-- Tokens that can be written: words are names, and marks are marks. -/
def Shape.Legible : Shape → Prop
  | word s => isName s = true
  | text _ => True
  | mark c => isMark c = true

/-! ### Classes of characters -/

theorem isWordPart_of_isWordStart {c : Char} (hc : isWordStart c = true) :
    isWordPart c = true := by
  simp [isWordPart, hc]

/-- The characters of words stand in four runs of code points. -/
theorem toNat_of_isWordPart {c : Char} (hc : isWordPart c = true) :
    48 ≤ c.toNat ∧ c.toNat ≤ 57 ∨ 65 ≤ c.toNat ∧ c.toNat ≤ 90 ∨ c.toNat = 95 ∨
      97 ≤ c.toNat ∧ c.toNat ≤ 122 := by
  simp only [isWordPart, isWordStart, Bool.or_eq_true, beq_iff_eq] at hc
  rcases hc with (halpha | rfl) | hdigit
  · rcases (Bool.or_eq_true c.isUpper c.isLower).mp halpha with hupper | hlower
    · have hrun : 'A'.val ≤ c.val ∧ c.val ≤ 'Z'.val := of_decide_eq_true hupper
      rw [UInt32.le_iff_toNat_le, UInt32.le_iff_toNat_le] at hrun
      exact .inr (.inl hrun)
    · obtain ⟨hlow, hhigh⟩ := (Bool.and_eq_true _ _).mp hlower
      have hrun : 'a'.val ≤ c.val ∧ c.val ≤ 'z'.val :=
        ⟨of_decide_eq_true hlow, of_decide_eq_true hhigh⟩
      rw [UInt32.le_iff_toNat_le, UInt32.le_iff_toNat_le] at hrun
      exact .inr (.inr (.inr hrun))
  · exact .inr (.inr (.inl rfl))
  · obtain ⟨hlow, hhigh⟩ := (Bool.and_eq_true _ _).mp hdigit
    have hrun : '0'.val ≤ c.val ∧ c.val ≤ '9'.val :=
      ⟨of_decide_eq_true hlow, of_decide_eq_true hhigh⟩
    rw [UInt32.le_iff_toNat_le, UInt32.le_iff_toNat_le] at hrun
    exact .inl hrun

/-- No word has a blank in it. -/
theorem isWordPart_of_isBlank {c : Char} (hc : Text.isBlank c = true) : isWordPart c = false := by
  rw [Bool.eq_false_iff]
  intro hword
  have hrange := toNat_of_isWordPart hword
  simp only [Text.isBlank, Text.blankRuns, List.any_cons, List.any_nil, Bool.or_false,
    Bool.or_eq_true, Bool.and_eq_true, decide_eq_true_eq] at hc
  omega

/-- What starts a word starts nothing else. -/
theorem class_of_isWordStart {c : Char} (hc : isWordStart c = true) :
    c ≠ '\n' ∧ Text.isBlank c = false ∧ c ≠ '/' ∧ c ≠ '"' := by
  have hpart := isWordPart_of_isWordStart hc
  refine ⟨?_, ?_, ?_, ?_⟩
  · rintro rfl
    exact absurd hpart (by decide)
  · rw [Bool.eq_false_iff]
    intro hblank
    rw [isWordPart_of_isBlank hblank] at hpart
    cases hpart
  · rintro rfl
    exact absurd hpart (by decide)
  · rintro rfl
    exact absurd hpart (by decide)

/-- A mark is nothing else. -/
theorem class_of_isMark {c : Char} (hc : isMark c = true) :
    c ≠ '\n' ∧ Text.isBlank c = false ∧ c ≠ '/' ∧ c ≠ '"' ∧ isWordPart c = false := by
  have hmem : c ∈ ['=', '\x7b', '\x7d', '(', ')', ';', ':', ',', '+', '#'] := by
    simpa [isMark] using hc
  simp only [List.mem_cons, List.not_mem_nil, or_false] at hmem
  rcases hmem with rfl | rfl | rfl | rfl | rfl | rfl | rfl | rfl | rfl | rfl
  all_goals exact ⟨by decide, rfl, by decide, by decide, rfl⟩

theorem isWordStart_of_isMark {c : Char} (hc : isMark c = true) : isWordStart c = false := by
  rw [Bool.eq_false_iff]
  intro hstart
  have hpart := isWordPart_of_isWordStart hstart
  rw [(class_of_isMark hc).2.2.2.2] at hpart
  cases hpart

/-- A name is a character that starts words and characters that words go on with. -/
theorem isName_iff (s : String) :
    isName s = true ↔
      ∃ c cs, s.toList = c :: cs ∧ isWordStart c = true ∧ ∀ x ∈ cs, isWordPart x = true := by
  rw [isName]
  cases s.toList with
  | nil => simp
  | cons c cs => simp [isWordStart, isWordPart, Char.isAlphanum, or_right_comm]

/-- No word goes on with these characters. -/
def EndsWord (cs : List Char) : Prop := ∀ c ∈ cs.head?, isWordPart c = false

theorem dropWhile_append_of_endsWord {cs rest : List Char} (hcs : ∀ x ∈ cs, isWordPart x = true)
    (hrest : EndsWord rest) : (cs ++ rest).dropWhile isWordPart = rest := by
  rw [List.dropWhile_append_of_pos hcs]
  cases rest with
  | nil => rfl
  | cons c rest => exact List.dropWhile_cons_of_neg (by simp [hrest c rfl])

theorem takeWhile_append_of_endsWord {cs rest : List Char} (hcs : ∀ x ∈ cs, isWordPart x = true)
    (hrest : EndsWord rest) : (cs ++ rest).takeWhile isWordPart = cs := by
  rw [List.takeWhile_append_of_pos hcs]
  cases rest with
  | nil => exact List.append_nil cs
  | cons c rest => rw [List.takeWhile_cons_of_neg (by simp [hrest c rfl]), List.append_nil]

namespace Token

/-! ### Scanning gaps -/

/-- What stands in front of a line end is skipped. -/
theorem dropWhile_line (text rest : List Char) (htext : '\n' ∉ text) :
    (text ++ rest).dropWhile (· != '\n') = rest.dropWhile (· != '\n') := by
  refine List.dropWhile_append_of_pos ?_
  intro c hc
  simpa using fun heq : c = '\n' => htext (heq ▸ hc)

theorem afterLine_append (text rest : List Char) (htext : '\n' ∉ text) :
    afterLine (text ++ '\n' :: rest) = rest := by
  rw [afterLine, dropWhile_line text _ htext]
  rfl

/-- A filler is skipped, and its line end is counted. -/
theorem scanFrom_filler (line : Nat) (f : Filler) (rest : List Char) :
    scanFrom line (f.chars ++ rest) = scanFrom (line + f.chars.count '\n') rest := by
  cases f with
  | blank c hc =>
      by_cases hend : c = '\n'
      · rw [Filler.chars, List.singleton_append, scanFrom, if_pos hend, hend]
        rfl
      · have hcount : [c].count '\n' = 0 := List.count_eq_zero.2 (by simpa using Ne.symm hend)
        rw [Filler.chars, List.singleton_append, scanFrom, if_neg hend, if_pos hc, hcount]
        rfl
  | comment text htext =>
      have hskip : afterLine ('/' :: text ++ '\n' :: rest) = rest :=
        afterLine_append ('/' :: text) rest (by simpa using htext)
      have hchars : (Filler.comment text htext).chars ++ rest
          = '/' :: ('/' :: text ++ '\n' :: rest) := by
        simp [Filler.chars]
      have hcount : (Filler.comment text htext).chars.count '\n' = 1 := by
        simp [Filler.chars, List.count_eq_zero.2 htext]
      rw [hcount, hchars, scanFrom, if_neg (by decide), if_neg (by decide), if_pos ⟨rfl, rfl⟩, hskip]

theorem scanFrom_gap (line : Nat) (g : Gap) (rest : List Char) :
    scanFrom line (Gap.chars g ++ rest) = scanFrom (line + (Gap.chars g).count '\n') rest := by
  induction g generalizing line with
  | nil => rfl
  | cons f g ih =>
      have hchars : Gap.chars (f :: g) = f.chars ++ Gap.chars g := List.flatMap_cons ..
      rw [hchars, List.append_assoc, scanFrom_filler, ih, List.count_append, Nat.add_assoc]

/-! ### Scanning tokens -/

/-- An escaped text is read back up to its closing quote. -/
theorem takeText_escape (cs rest : List Char) :
    ∃ n, takeText (escapeText cs ++ '"' :: rest) = some (cs, n, rest) := by
  induction cs with
  | nil => exact ⟨0, rfl⟩
  | cons c cs ih =>
      obtain ⟨n, ih⟩ := ih
      rw [escapeText, List.flatMap_cons, List.append_assoc]
      by_cases hc : c = '"' ∨ c = '\\'
      · -- the backslash keeps `c` from ending the text, and from escaping what follows
        refine ⟨n, ?_⟩
        rw [if_pos hc, List.cons_append, List.singleton_append, takeText]
        exact congrArg (Option.map _) ih
      · rw [not_or] at hc
        refine ⟨if c = '\n' then n + 1 else n, ?_⟩
        rw [if_neg (by simp [hc.1, hc.2]), List.singleton_append, takeText]
        · exact congrArg (Option.map _) ih
        · exact hc.1
        · exact fun _ _ heq => absurd heq hc.2

section Shapes

variable (line : Nat)

/-- A word is taken whole, and ends where `rest` starts. -/
theorem scanFrom_word {c : Char} {cs rest : List Char} (hc : isWordStart c = true)
    (hcs : ∀ x ∈ cs, isWordPart x = true) (hrest : EndsWord rest) :
    scanFrom line (c :: cs ++ rest) =
      (⟨.word (String.ofList (c :: cs)), line⟩ :: ·) <$> scanFrom line rest := by
  obtain ⟨hend, hblank, hslash, hquote⟩ := class_of_isWordStart hc
  have htake := takeWhile_append_of_endsWord hcs hrest
  have hdrop := dropWhile_append_of_endsWord hcs hrest
  rw [List.cons_append, scanFrom, if_neg hend, if_neg (by simp [hblank]), if_neg (by simp [hslash]),
    if_neg hquote, if_pos hc, htake, hdrop, bind_pure_comp]

/-- A text is taken up to its closing quote, and the lines that it adds are counted. -/
theorem scanFrom_text {cs s rest : List Char} {n : Nat} (htext : takeText cs = some (s, n, rest)) :
    scanFrom line ('"' :: cs) =
      (⟨.text (String.ofList s), line⟩ :: ·) <$> scanFrom (line + n) rest := by
  rw [scanFrom, if_neg (by decide), if_neg (by decide), if_neg (by simp), if_pos rfl]
  split
  · rename_i hnone
    exact absurd (hnone.symm.trans htext) (by simp)
  · rename_i s' n' rest' hsome
    obtain ⟨rfl, rfl, rfl⟩ : s = s' ∧ n = n' ∧ rest = rest' := by
      simpa using htext.symm.trans hsome
    rw [bind_pure_comp]

theorem scanFrom_mark {c : Char} (hc : isMark c = true) (rest : List Char) :
    scanFrom line (c :: rest) = (⟨.mark c, line⟩ :: ·) <$> scanFrom line rest := by
  obtain ⟨hend, hblank, hslash, hquote, -⟩ := class_of_isMark hc
  rw [scanFrom, if_neg hend, if_neg (by simp [hblank]), if_neg (by simp [hslash]), if_neg hquote,
    if_neg (by simp [isWordStart_of_isMark hc]), if_pos hc, bind_pure_comp]

/-- A token is read off the front, if what follows does not carry it on. -/
theorem scanFrom_shape {s : Shape} (hs : s.Legible) {rest : List Char}
    (hrest : s.isWord → EndsWord rest) :
    ∃ line', scanFrom line (s.chars ++ rest) = (⟨s, line⟩ :: ·) <$> scanFrom line' rest := by
  cases s with
  | word s =>
      obtain ⟨c, cs, hchars, hc, hcs⟩ := (isName_iff s).1 hs
      refine ⟨line, ?_⟩
      rw [Shape.chars, hchars, scanFrom_word line hc hcs (hrest rfl), ← hchars,
        String.ofList_toList]
  | text s =>
      -- a line end in the text moves what follows it to a later line
      obtain ⟨n, htext⟩ := takeText_escape s.toList rest
      refine ⟨line + n, ?_⟩
      rw [Shape.chars, List.cons_append, List.append_assoc, List.singleton_append,
        scanFrom_text line htext, String.ofList_toList]
  | mark c => exact ⟨line, scanFrom_mark line hs rest⟩

end Shapes

end Token

/-! ### Scanning a layout -/

/-- A gap that is not empty ends a word. -/
theorem endsWord_gap {g : Gap} (hg : g ≠ []) (rest : List Char) :
    EndsWord (Gap.chars g ++ rest) := by
  obtain ⟨f, g, rfl⟩ := List.exists_cons_of_ne_nil hg
  intro c hc
  cases f with
  | blank b hb =>
      obtain rfl : b = c := by simpa [Gap.chars, Filler.chars] using hc
      exact isWordPart_of_isBlank hb
  | comment text htext =>
      obtain rfl : '/' = c := by simpa [Gap.chars, Filler.chars] using hc
      decide

/-- A token that is no word ends a word. -/
theorem endsWord_shape {s : Shape} (hs : s.Legible) (hword : s.isWord = false) (rest : List Char) :
    EndsWord (s.chars ++ rest) := by
  intro c hc
  cases s with
  | word s => cases hword
  | text s =>
      obtain rfl : '"' = c := by simpa [Shape.chars] using hc
      decide
  | mark m =>
      obtain rfl : m = c := by simpa [Shape.chars] using hc
      exact (class_of_isMark hs).2.2.2.2

theorem itemChars_cons (x : Shape × Gap) (items : List (Shape × Gap)) :
    itemChars (x :: items) = x.1.chars ++ (Gap.chars x.2 ++ itemChars items) := by
  rw [itemChars, List.flatMap_cons, List.append_assoc]
  rfl

/-- What stands behind a word does not carry it on. -/
theorem endsWord_of_apart {x : Shape × Gap} {items : List (Shape × Gap)}
    (hapart : (x :: items).IsChain fun x y => x.1.isWord → y.1.isWord → x.2 ≠ [])
    (hlegible : ∀ y ∈ items, y.1.Legible) (hword : x.1.isWord = true) :
    EndsWord (Gap.chars x.2 ++ itemChars items) := by
  by_cases hgap : x.2 = []
  · rw [hgap]
    cases items with
    | nil => exact fun c hc => by cases hc
    | cons y items =>
        have hy : y.1.isWord = false := by
          rw [Bool.eq_false_iff]
          exact fun hy => hapart.rel hword hy hgap
        rw [itemChars_cons]
        exact endsWord_shape (hlegible y List.mem_cons_self) hy _
  · exact endsWord_gap hgap _

theorem scanFrom_items (items : List (Shape × Gap))
    (hapart : items.IsChain fun x y => x.1.isWord → y.1.isWord → x.2 ≠ [])
    (hlegible : ∀ x ∈ items, x.1.Legible) (line : Nat) :
    ∃ ts, Token.scanFrom line (itemChars items) = .ok ts ∧
      ts.map Token.shape = items.map Prod.fst := by
  induction items generalizing line with
  | nil => exact ⟨[], by simp [itemChars, Token.scanFrom], rfl⟩
  | cons x items ih =>
      obtain ⟨hx, hitems⟩ := List.forall_mem_cons.1 hlegible
      obtain ⟨line₁, hshape⟩ := Token.scanFrom_shape line hx (endsWord_of_apart hapart hitems)
      have hgap := Token.scanFrom_gap line₁ x.2 (itemChars items)
      obtain ⟨ts, hts, hshapes⟩ := ih hapart.tail hitems (line₁ + (Gap.chars x.2).count '\n')
      refine ⟨⟨x.1, line⟩ :: ts, ?_, ?_⟩
      · rw [itemChars_cons, hshape, hgap, hts]
        rfl
      · rw [List.map_cons, List.map_cons, hshapes]

/-- **A layout is scanned as its tokens.** -/
theorem Layout.scan_source (l : Layout) (hlegible : ∀ s ∈ l.shapes, s.Legible) :
    ∃ ts, Token.scan l.source = .ok ts ∧ ts.map Token.shape = l.shapes := by
  have hitems : ∀ x ∈ l.items, x.1.Legible :=
    fun x hx => hlegible x.1 (List.mem_map_of_mem hx)
  obtain ⟨ts, hts, hshapes⟩ :=
    scanFrom_items l.items l.apart hitems (1 + (Gap.chars l.lead).count '\n')
  refine ⟨ts, ?_, hshapes⟩
  rw [Token.scan, Layout.source, String.toList_ofList, Token.scanFrom_gap, hts]

end Handover
