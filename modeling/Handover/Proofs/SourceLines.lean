/-
**The lines of a source.**

Every source can be cut into pieces: a gap and a lexeme behind it, again and again, and at the end
something that is no lexeme.  The rules of the cut are those of the written form.  A lexeme is a
word that nothing carries on, a text between quotes, or a mark.  The end is nothing, a comment
without a line end, a text without its closing quote, or a character that starts no lexeme.  How the
scanner gets there plays no part in them.

A cut tells where a token stands: on the line that follows the line ends in front of it.  The
scanner counts these, with one exception.  A line end behind a backslash belongs to its text like
any other character and is not counted.  So the line of a token and the escaped line ends in front
of it add up to the line on which it stands, and the two lines agree as long as no line end is
escaped.

Main definitions:

* `Handover.Stroke`, `Handover.Lexeme`, `Handover.Piece` — what a source is made of;
* `Handover.Cut` — a source cut into pieces, and how it ends;
* `Handover.lineAfter`, `Handover.hiddenLines` — the line behind some characters, and the escaped
  line ends of some pieces.

Main results:

* `Handover.Token.scanFrom_cuts`, `Handover.Token.scan_of_cut` — what the scanner makes of the pieces
  of a cut, and of a whole one;
* `Handover.Cut.exists_cut` — every source can be cut;
* `Handover.Token.scan_lines` — **the line of a token, of a mistake and of a declaration**;
* `Handover.Description.line_behind_escape` — a declaration on the third line is said to be on the
  second.
-/

import Handover.Proofs.Declarations
import Handover.Proofs.Layout

set_option autoImplicit false

namespace Handover

/-! ### Pieces -/

/-- One character of a text as it is written: by itself, or behind a backslash. -/
inductive Stroke where
  | plain (c : Char) (hquote : c ≠ '"') (hslash : c ≠ '\\')
  | escaped (c : Char)

namespace Stroke

/-- The character that is meant. -/
def char : Stroke → Char
  | plain c _ _ => c
  | escaped c => c

/-- The characters that are written. -/
def chars : Stroke → List Char
  | plain c _ _ => [c]
  | escaped c => ['\\', c]

/-- The character without a backslash in front of it, if it is one. -/
def shown : Stroke → List Char
  | plain c _ _ => [c]
  | escaped _ => []

/-- The character behind a backslash, if it is one. -/
def hidden : Stroke → List Char
  | plain _ _ _ => []
  | escaped c => [c]

end Stroke

/-- A token as it is written. -/
inductive Lexeme where
  | word (c : Char) (cs : List Char) (hc : isWordStart c = true)
      (hcs : ∀ x ∈ cs, isWordPart x = true)
  | text (strokes : List Stroke)
  | mark (c : Char) (hc : isMark c = true)

namespace Lexeme

/-- The token that is meant. -/
def shape : Lexeme → Shape
  | word c cs _ _ => .word (String.ofList (c :: cs))
  | text strokes => .text (String.ofList (strokes.map Stroke.char))
  | mark c _ => .mark c

/-- The characters that are written. -/
def chars : Lexeme → List Char
  | word c cs _ _ => c :: cs
  | text strokes => '"' :: (strokes.flatMap Stroke.chars ++ ['"'])
  | mark c _ => [c]

/-- The characters that no backslash stands in front of, without quotes. -/
def shown : Lexeme → List Char
  | word c cs _ _ => c :: cs
  | text strokes => strokes.flatMap Stroke.shown
  | mark c _ => [c]

/-- The characters behind a backslash. -/
def hidden : Lexeme → List Char
  | text strokes => strokes.flatMap Stroke.hidden
  | _ => []

end Lexeme

/-- A lexeme and the gap in front of it. -/
structure Piece where
  gap : Gap
  lexeme : Lexeme

/-- The characters of a piece. -/
def Piece.chars (p : Piece) : List Char := Gap.chars p.gap ++ p.lexeme.chars

/-- The characters of pieces in a row. -/
def pieceChars (ps : List Piece) : List Char := ps.flatMap Piece.chars

/-- The line of what stands behind `cs`. -/
def lineAfter (cs : List Char) : Nat := 1 + cs.count '\n'

/-- How many line ends stand behind a backslash in the texts of some pieces. -/
def hiddenLines (ps : List Piece) : Nat := (ps.flatMap fun p => p.lexeme.hidden).count '\n'

/-! ### Cuts -/

/-- `cs` is made of some pieces and of `rest`, and no word is carried on. -/
inductive Cuts : List Char → List Piece → List Char → Prop
  | done (cs : List Char) : Cuts cs [] cs
  | piece {p : Piece} {ps : List Piece} {cs rest : List Char}
      (hword : p.lexeme.shape.isWord = true → EndsWord cs) (hcs : Cuts cs ps rest) :
      Cuts (p.chars ++ cs) (p :: ps) rest

/-- Whether no token, comment or blank starts with these characters. -/
structure Stray (c : Char) (rest : List Char) : Prop where
  blank : Text.isBlank c = false
  comment : ¬(c = '/' ∧ rest.head? = some '/')
  quote : c ≠ '"'
  word : isWordStart c = false
  mark : isMark c = false

/-- How a source can end behind its last piece, and what is wrong with that. -/
inductive Ending : List Char → Option Mistake → Prop
  | nothing : Ending [] none
  | comment (text : List Char) (htext : '\n' ∉ text) : Ending ('/' :: '/' :: text) none
  | stray {c : Char} {rest : List Char} (hc : Stray c rest) :
      Ending (c :: rest) (some (.strayChar c))
  | openText (strokes : List Stroke) : Ending ('"' :: strokes.flatMap Stroke.chars) (some .openText)
  | openEscape (strokes : List Stroke) :
      Ending ('"' :: (strokes.flatMap Stroke.chars ++ ['\\'])) (some .openText)

/-- A source cut into pieces, a gap and what is left. -/
structure Cut (cs : List Char) where
  pieces : List Piece
  gap : Gap
  ending : List Char
  mistake : Option Mistake
  cuts : Cuts cs pieces (Gap.chars gap ++ ending)
  ends : Ending ending mistake

/-- The pieces and what is left make up the whole. -/
theorem Cuts.eq_append {cs rest : List Char} {ps : List Piece} (h : Cuts cs ps rest) :
    cs = pieceChars ps ++ rest := by
  induction h with
  | done cs => rfl
  | @piece p ps cs rest _ _ ih =>
      have hchars : pieceChars (p :: ps) = p.chars ++ pieceChars ps := List.flatMap_cons ..
      rw [hchars, List.append_assoc, ← ih]

/-! ### Line ends in lexemes -/

theorem count_of_isWordPart {cs : List Char} (hcs : ∀ x ∈ cs, isWordPart x = true) :
    cs.count '\n' = 0 := by
  refine List.count_eq_zero.2 fun hmem => ?_
  exact absurd (hcs '\n' hmem) (by decide)

theorem Stroke.count_shown_hidden (s : Stroke) :
    s.shown.count '\n' + s.hidden.count '\n' = s.chars.count '\n' := by
  cases s with
  | plain c hquote hslash => rfl
  | escaped c => simp [shown, hidden, chars]

/-- The line ends of a text stand behind a backslash or not. -/
theorem count_strokes (strokes : List Stroke) :
    (strokes.flatMap Stroke.shown).count '\n' + (strokes.flatMap Stroke.hidden).count '\n'
      = (strokes.flatMap Stroke.chars).count '\n' := by
  induction strokes with
  | nil => rfl
  | cons s strokes ih =>
      have hs := s.count_shown_hidden
      simp only [List.flatMap_cons, List.count_append]
      omega

theorem Lexeme.count_shown_hidden (l : Lexeme) :
    l.shown.count '\n' + l.hidden.count '\n' = l.chars.count '\n' := by
  cases l with
  | word c cs hc hcs => rfl
  | text strokes =>
      have hstrokes := count_strokes strokes
      simpa [shown, hidden, chars] using hstrokes
  | mark c hc => rfl

theorem Lexeme.legible (l : Lexeme) : l.shape.Legible := by
  cases l with
  | word c cs hc hcs => exact (isName_iff _).2 ⟨c, cs, String.toList_ofList, hc, hcs⟩
  | text strokes => trivial
  | mark c hc => exact hc

/-! ### The tokens of pieces -/

/-- The tokens of some pieces, of which the first character is counted to line `line`. -/
def tokensFrom (line : Nat) : List Piece → List Token
  | [] => []
  | p :: ps =>
    ⟨p.lexeme.shape, line + (Gap.chars p.gap).count '\n'⟩ ::
      tokensFrom (line + (Gap.chars p.gap ++ p.lexeme.shown).count '\n') ps

/-- The line ends of some pieces that the scanner counts. -/
def shownLines (ps : List Piece) : Nat :=
  (ps.flatMap fun p => Gap.chars p.gap ++ p.lexeme.shown).count '\n'

theorem shownLines_add_hiddenLines (ps : List Piece) :
    shownLines ps + hiddenLines ps = (pieceChars ps).count '\n' := by
  induction ps with
  | nil => rfl
  | cons p ps ih =>
      have hp := p.lexeme.count_shown_hidden
      simp only [shownLines, hiddenLines, pieceChars, Piece.chars, List.flatMap_cons,
        List.count_append] at ih ⊢
      omega

theorem shownLines_cons (p : Piece) (ps : List Piece) :
    shownLines (p :: ps) = (Gap.chars p.gap ++ p.lexeme.shown).count '\n' + shownLines ps := by
  rw [shownLines, List.flatMap_cons, List.count_append]
  rfl

theorem length_tokensFrom (line : Nat) (ps : List Piece) :
    (tokensFrom line ps).length = ps.length := by
  induction ps generalizing line with
  | nil => rfl
  | cons p ps ih => rw [tokensFrom, List.length_cons, List.length_cons, ih]

theorem tokensFrom_append (line : Nat) (before after : List Piece) :
    tokensFrom line (before ++ after) =
      tokensFrom line before ++ tokensFrom (line + shownLines before) after := by
  induction before generalizing line with
  | nil => rfl
  | cons p before ih =>
      rw [List.cons_append, tokensFrom, tokensFrom, ih, shownLines_cons, Nat.add_assoc,
        List.cons_append]

/-- Where the tokens of some pieces are split, the pieces can be split too. -/
theorem exists_split_of_tokensFrom {line : Nat} {ps : List Piece} {us vs : List Token}
    (h : tokensFrom line ps = us ++ vs) :
    ∃ before after, ps = before ++ after ∧ vs = tokensFrom (line + shownLines before) after := by
  refine ⟨ps.take us.length, ps.drop us.length, (List.take_append_drop ..).symm, ?_⟩
  have hlength : us.length ≤ ps.length := by
    rw [← length_tokensFrom line ps, h, List.length_append]
    exact Nat.le_add_right ..
  rw [← List.take_append_drop us.length ps, tokensFrom_append] at h
  refine (List.append_inj_right h ?_).symm
  rw [length_tokensFrom, List.length_take, Nat.min_eq_left hlength]

/-- The line of a piece's token and the escaped line ends before it make up the true line. -/
theorem line_add_hiddenLines (before : List Piece) (gap : Gap) :
    1 + shownLines before + (Gap.chars gap).count '\n' + hiddenLines before =
      lineAfter (pieceChars before ++ Gap.chars gap) := by
  have hbefore := shownLines_add_hiddenLines before
  rw [lineAfter, List.count_append]
  omega

namespace Token

/-! ### Scanning pieces -/

/-- Strokes are read one by one, and the line ends among those that are shown are counted. -/
theorem takeText_append (strokes : List Stroke) (rest : List Char) :
    takeText (strokes.flatMap Stroke.chars ++ rest) =
      (takeText rest).map fun x => (strokes.map Stroke.char ++ x.1,
        (strokes.flatMap Stroke.shown).count '\n' + x.2.1, x.2.2) := by
  induction strokes with
  | nil => simp
  | cons s strokes ih =>
      cases s with
      | plain c hquote hslash =>
          simp only [List.flatMap_cons, Stroke.chars, Stroke.shown, List.cons_append,
            List.nil_append]
          rw [takeText, ih, Option.map_map]
          · refine congrArg (Option.map · _) (funext fun x => ?_)
            by_cases hend : c = '\n'
            · simp [hend, Stroke.char]
              omega
            · simp [hend, Stroke.char]
          · exact hquote
          · exact fun _ _ heq => absurd heq hslash
      | escaped c =>
          simp only [List.flatMap_cons, Stroke.chars, Stroke.shown, List.cons_append,
            List.nil_append]
          rw [takeText, ih, Option.map_map]
          rfl

/-- A text is read up to its closing quote. -/
theorem takeText_strokes (strokes : List Stroke) (rest : List Char) :
    takeText (strokes.flatMap Stroke.chars ++ '"' :: rest) =
      some (strokes.map Stroke.char, (strokes.flatMap Stroke.shown).count '\n', rest) := by
  rw [takeText_append, takeText, Option.map_some, List.append_nil, Nat.add_zero]

/-- A text without a closing quote is not read. -/
theorem takeText_open {strokes : List Stroke} {rest : List Char} (hrest : takeText rest = none) :
    takeText (strokes.flatMap Stroke.chars ++ rest) = none := by
  rw [takeText_append, hrest, Option.map_none]

theorem scanFrom_lexeme (line : Nat) (l : Lexeme) {rest : List Char}
    (hrest : l.shape.isWord = true → EndsWord rest) :
    scanFrom line (l.chars ++ rest) =
      (⟨l.shape, line⟩ :: ·) <$> scanFrom (line + l.shown.count '\n') rest := by
  cases l with
  | word c cs hc hcs =>
      have hcount : (c :: cs).count '\n' = 0 :=
        count_of_isWordPart (List.forall_mem_cons.2 ⟨isWordPart_of_isWordStart hc, hcs⟩)
      rw [Lexeme.chars, scanFrom_word line hc hcs (hrest rfl), Lexeme.shown, hcount]
      rfl
  | text strokes =>
      rw [Lexeme.chars, List.cons_append, List.append_assoc, List.singleton_append,
        scanFrom_text line (takeText_strokes strokes rest)]
      rfl
  | mark c hc =>
      have hcount : [c].count '\n' = 0 :=
        List.count_eq_zero.2 (by simpa using (class_of_isMark hc).1.symm)
      rw [Lexeme.chars, List.singleton_append, scanFrom_mark line hc, Lexeme.shown, hcount]
      rfl

theorem scanFrom_piece (line : Nat) (p : Piece) {rest : List Char}
    (hrest : p.lexeme.shape.isWord = true → EndsWord rest) :
    scanFrom line (p.chars ++ rest) =
      (⟨p.lexeme.shape, line + (Gap.chars p.gap).count '\n'⟩ :: ·) <$>
        scanFrom (line + (Gap.chars p.gap ++ p.lexeme.shown).count '\n') rest := by
  rw [Piece.chars, List.append_assoc, scanFrom_gap, scanFrom_lexeme _ _ hrest, List.count_append,
    Nat.add_assoc]

/-- The pieces of a cut become their tokens, and what is left is scanned behind them. -/
theorem scanFrom_cuts {cs rest : List Char} {ps : List Piece} (h : Cuts cs ps rest) (line : Nat) :
    scanFrom line cs = (tokensFrom line ps ++ ·) <$> scanFrom (line + shownLines ps) rest := by
  induction h generalizing line with
  | done cs => exact (id_map _).symm
  | @piece p ps cs rest hword _ ih =>
      rw [scanFrom_piece line p hword, ih, shownLines_cons, Nat.add_assoc, tokensFrom,
        Functor.map_map]
      rfl

theorem afterLine_eq_nil {cs : List Char} (hcs : '\n' ∉ cs) : afterLine cs = [] := by
  have hdrop := dropWhile_line cs [] hcs
  rw [List.append_nil] at hdrop
  rw [afterLine, hdrop]
  rfl

/-- What the scanner answers to an ending on line `line`. -/
def endAt (line : Nat) : Option Mistake → Except SyntaxError (List Token)
  | none => .ok []
  | some m => .error ⟨line, m⟩

theorem scanFrom_openText (line : Nat) {cs : List Char} (hcs : takeText cs = none) :
    scanFrom line ('"' :: cs) = .error ⟨line, .openText⟩ := by
  rw [scanFrom, if_neg (by decide), if_neg (by decide), if_neg (by simp), if_pos rfl]
  split
  · rfl
  · rename_i hsome
    exact absurd (hcs.symm.trans hsome) (by simp)

theorem scanFrom_ending (line : Nat) {cs : List Char} {mistake : Option Mistake}
    (h : Ending cs mistake) : scanFrom line cs = endAt line mistake := by
  cases h with
  | nothing => rw [scanFrom, endAt]
  | comment text htext =>
      have hskip : afterLine ('/' :: text) = [] := afterLine_eq_nil (by simpa using htext)
      rw [scanFrom, if_neg (by decide), if_neg (by decide), if_pos ⟨rfl, rfl⟩, hskip, scanFrom,
        endAt]
  | @stray c rest hc =>
      have hend : c ≠ '\n' := by
        rintro rfl
        exact absurd hc.blank (by decide)
      rw [scanFrom, if_neg hend, if_neg (by simp [hc.blank]), if_neg hc.comment, if_neg hc.quote,
        if_neg (by simp [hc.word]), if_neg (by simp [hc.mark]), endAt]
  | openText strokes =>
      have hopen : takeText (strokes.flatMap Stroke.chars ++ []) = none := takeText_open rfl
      rw [List.append_nil] at hopen
      exact scanFrom_openText line hopen
  | openEscape strokes => exact scanFrom_openText line (takeText_open rfl)

/-- **What the scanner makes of a cut**: the tokens of its pieces, or the mistake at its end. -/
theorem scan_of_cut {source : String} (cut : Cut source.toList) :
    scan source = (tokensFrom 1 cut.pieces ++ ·) <$>
      endAt (1 + shownLines cut.pieces + (Gap.chars cut.gap).count '\n') cut.mistake := by
  rw [scan, scanFrom_cuts cut.cuts, scanFrom_gap, scanFrom_ending _ cut.ends]

theorem scan_of_cut_eq_ok {source : String} (cut : Cut source.toList) {ts : List Token}
    (h : scan source = .ok ts) : ts = tokensFrom 1 cut.pieces := by
  rw [scan_of_cut cut] at h
  cases hm : cut.mistake with
  | none =>
      rw [hm] at h
      exact (Except.ok.inj h).symm.trans (List.append_nil _)
  | some m =>
      rw [hm] at h
      cases h

/-! ### Taking texts and comments apart -/

/-- A text that is read is written in strokes. -/
theorem exists_strokes_of_takeText {cs s r : List Char} {n : Nat}
    (h : takeText cs = some (s, n, r)) :
    ∃ strokes : List Stroke, cs = strokes.flatMap Stroke.chars ++ '"' :: r := by
  fun_induction takeText cs generalizing s n r with
  | case1 => cases h
  | case2 rest =>
      obtain ⟨-, -, rfl⟩ : [] = s ∧ 0 = n ∧ rest = r := by simpa using h
      exact ⟨[], rfl⟩
  | case3 c rest ih =>
      obtain ⟨⟨s', n', r'⟩, h', heq⟩ := Option.map_eq_some_iff.1 h
      obtain ⟨strokes, rfl⟩ := ih h'
      obtain ⟨-, -, rfl⟩ : c :: s' = s ∧ n' = n ∧ r' = r := by simpa using heq
      exact ⟨.escaped c :: strokes, rfl⟩
  | case4 c rest hquote hslash ih =>
      obtain ⟨⟨s', n', r'⟩, h', heq⟩ := Option.map_eq_some_iff.1 h
      obtain ⟨strokes, rfl⟩ := ih h'
      obtain ⟨-, -, rfl⟩ : c :: s' = s ∧ (if c = '\n' then n' + 1 else n') = n ∧ r' = r := by
        simpa using heq
      -- something follows `c`, so a backslash would have taken it along
      have hplain : c ≠ '\\' := by
        rintro rfl
        cases strokes with
        | nil => exact hslash _ _ rfl rfl
        | cons s strokes => cases s <;> exact hslash _ _ rfl rfl
      exact ⟨.plain c hquote hplain :: strokes, rfl⟩

/-- A text that is not read is written in strokes, but for a backslash at its end. -/
theorem exists_strokes_of_takeText_eq_none {cs : List Char} (h : takeText cs = none) :
    ∃ strokes : List Stroke,
      cs = strokes.flatMap Stroke.chars ∨ cs = strokes.flatMap Stroke.chars ++ ['\\'] := by
  fun_induction takeText cs with
  | case1 => exact ⟨[], .inl rfl⟩
  | case2 rest => cases h
  | case3 c rest ih =>
      obtain ⟨strokes, rfl | rfl⟩ := ih (Option.map_eq_none_iff.1 h)
      · exact ⟨.escaped c :: strokes, .inl rfl⟩
      · exact ⟨.escaped c :: strokes, .inr rfl⟩
  | case4 c rest hquote hslash ih =>
      by_cases hplain : c = '\\'
      · cases rest with
        | nil => exact ⟨[], .inr (by rw [hplain]; rfl)⟩
        | cons d rest => exact (hslash d rest hplain rfl).elim
      · obtain ⟨strokes, rfl | rfl⟩ := ih (Option.map_eq_none_iff.1 h)
        · exact ⟨.plain c hquote hplain :: strokes, .inl rfl⟩
        · exact ⟨.plain c hquote hplain :: strokes, .inr rfl⟩

theorem eq_append_afterLine {cs : List Char} (hcs : '\n' ∈ cs) :
    ∃ text, '\n' ∉ text ∧ cs = text ++ '\n' :: afterLine cs := by
  obtain ⟨text, rest, rfl, htext⟩ := List.eq_append_cons_of_mem hcs
  exact ⟨text, htext, by rw [afterLine_append text rest htext]⟩

end Token

/-! ### Every source can be cut -/

namespace Cut

/-- A cut with a filler in front. -/
theorem exists_cut_filler (f : Filler) {cs : List Char} (h : Nonempty (Cut cs)) :
    Nonempty (Cut (f.chars ++ cs)) := by
  obtain ⟨⟨pieces, gap, ending, mistake, cuts, ends⟩⟩ := h
  have hgap (g : Gap) : Gap.chars (f :: g) = f.chars ++ Gap.chars g := List.flatMap_cons ..
  cases cuts with
  | done =>
      refine ⟨⟨[], f :: gap, ending, mistake, ?_, ends⟩⟩
      rw [hgap, List.append_assoc]
      exact .done _
  | @piece p ps cs rest hword hcs =>
      have hchars : Piece.chars ⟨f :: p.gap, p.lexeme⟩ = f.chars ++ p.chars := by
        rw [Piece.chars, hgap, List.append_assoc]
        rfl
      refine ⟨⟨⟨f :: p.gap, p.lexeme⟩ :: ps, gap, ending, mistake, ?_, ends⟩⟩
      rw [← List.append_assoc, ← hchars]
      exact .piece hword hcs

/-- A cut with a lexeme in front. -/
theorem exists_cut_lexeme (l : Lexeme) {cs : List Char}
    (hword : l.shape.isWord = true → EndsWord cs) (h : Nonempty (Cut cs)) :
    Nonempty (Cut (l.chars ++ cs)) := by
  obtain ⟨cut⟩ := h
  exact ⟨{ cut with pieces := ⟨[], l⟩ :: cut.pieces, cuts := .piece (p := ⟨[], l⟩) hword cut.cuts }⟩

theorem exists_cut_ending {cs : List Char} {mistake : Option Mistake} (h : Ending cs mistake) :
    Nonempty (Cut cs) :=
  ⟨⟨[], [], cs, mistake, .done cs, h⟩⟩

theorem exists_cut_comment {text : List Char} (h : Nonempty (Cut (Token.afterLine ('/' :: text)))) :
    Nonempty (Cut ('/' :: '/' :: text)) := by
  by_cases hend : '\n' ∈ text
  · obtain ⟨comment, hcomment, htext⟩ := Token.eq_append_afterLine hend
    have hchars : '/' :: '/' :: text =
        (Filler.comment comment hcomment).chars ++ Token.afterLine text := by
      rw [Filler.chars, List.cons_append, List.cons_append, List.append_assoc,
        List.singleton_append, ← htext]
    rw [hchars]
    exact exists_cut_filler _ h
  · exact exists_cut_ending (.comment text hend)

theorem endsWord_dropWhile (cs : List Char) : EndsWord (cs.dropWhile isWordPart) := by
  intro c hc
  have hhead := List.head?_dropWhile_not isWordPart cs
  rw [Option.mem_def.1 hc] at hhead
  simpa using hhead

/-- **Every source can be cut.** -/
theorem exists_cut (cs : List Char) : Nonempty (Cut cs) := by
  -- the cases are those of the scanner, on whichever line
  generalize hline : 1 = line
  clear hline
  fun_induction Token.scanFrom line cs with
  | case1 => exact exists_cut_ending .nothing
  | case2 line rest ih => exact exists_cut_filler (.blank '\n' (by decide)) ih
  | case3 line c rest _ hblank ih => exact exists_cut_filler (.blank c hblank) ih
  | case4 line c rest _ _ hslash _ ih =>
      obtain ⟨rfl, hhead⟩ := hslash
      obtain ⟨text, rfl⟩ := List.head?_eq_some_iff.1 hhead
      exact exists_cut_comment ih
  | case5 line rest htext =>
      obtain ⟨strokes, rfl | rfl⟩ := Token.exists_strokes_of_takeText_eq_none htext
      · exact exists_cut_ending (.openText strokes)
      · exact exists_cut_ending (.openEscape strokes)
  | case6 line rest s n rest' htext _ _ _ _ ih =>
      obtain ⟨strokes, rfl⟩ := Token.exists_strokes_of_takeText htext
      have hcut := exists_cut_lexeme (.text strokes) (fun h => by cases h) ih
      simpa [Lexeme.chars] using hcut
  | case7 line c rest _ _ _ _ hstart _ ih =>
      have hcs : ∀ x ∈ rest.takeWhile isWordPart, isWordPart x = true :=
        List.all_eq_true.1 List.all_takeWhile
      have hcut := exists_cut_lexeme (.word c _ hstart hcs) (fun _ => endsWord_dropWhile rest) ih
      simpa [Lexeme.chars] using hcut
  | case8 line c rest _ _ _ _ _ hmark ih =>
      exact exists_cut_lexeme (.mark c hmark) (fun h => by cases h) ih
  | case9 line c rest _ hblank hslash hquote hstart hmark =>
      exact exists_cut_ending
        (.stray ⟨by simpa using hblank, hslash, hquote, by simpa using hstart, by simpa using hmark⟩)

end Cut

/-- Tokens that are scanned can be written. -/
theorem Token.legible_of_scan {source : String} {ts : List Token} (h : scan source = .ok ts) :
    ∀ t ∈ ts, t.shape.Legible := by
  obtain ⟨cut⟩ := Cut.exists_cut source.toList
  obtain rfl := scan_of_cut_eq_ok cut h
  intro t ht
  obtain ⟨us, vs, hsplit⟩ := List.append_of_mem ht
  obtain ⟨before, after, -, hafter⟩ := exists_split_of_tokensFrom hsplit
  cases after with
  | nil => cases hafter
  | cons p after =>
      obtain ⟨rfl, -⟩ := List.cons.inj hafter
      exact p.lexeme.legible

/-! ### Lines -/

/-- A declaration has its name among the tokens, on its line and in front of an equals sign. -/
theorem Grammar.Derives.exists_name {d : Description} {ts : List Token} (hd : Grammar.Derives d ts)
    {x : Decl} (hx : x ∈ d.decls) :
    ∃ us l vs, ts = us ++ ⟨.word x.name, x.line⟩ :: ⟨.mark '=', l⟩ :: vs := by
  obtain ⟨ds⟩ := d
  simp only [Grammar.Derives] at hd hx
  induction hd with
  | nil => cases hx
  | @cons y ds us vs hy _ ih =>
      rcases List.mem_cons.1 hx with rfl | hx
      · rcases Token.tokens_of_declares hy with
          ⟨name, line, l, ws, rfl, hbody⟩ | ⟨name, value, line, l₀, l₂, l₃, l₄, rfl, rfl⟩
        · obtain ⟨rfl, rfl⟩ := hbody.name_line
          exact ⟨[], l, ws ++ vs, rfl⟩
        · exact ⟨[⟨.mark '#', l₀⟩], l₂, ⟨.text value, l₃⟩ :: ⟨.mark '#', l₄⟩ :: vs, rfl⟩
      · obtain ⟨us', l, vs', rfl⟩ := ih hx
        exact ⟨us ++ us', l, vs', (List.append_assoc ..).symm⟩

/-- **The lines of a source.**  Every source can be cut into pieces, and however it is cut, the
scanner gives the tokens of the pieces, or the mistake at the end.  The line of a token, of a mistake
and of a declaration falls short of the line on which it stands by the number of escaped line ends in
front of it. -/
theorem Token.scan_lines (source : String) :
    Nonempty (Cut source.toList) ∧ ∀ cut : Cut source.toList,
      source.toList = pieceChars cut.pieces ++ (Gap.chars cut.gap ++ cut.ending) ∧
      (cut.mistake = none → ∃ ts, Token.scan source = .ok ts ∧ ts.length = cut.pieces.length ∧
        ∀ before p after, cut.pieces = before ++ p :: after →
          ∃ t, ts[before.length]? = some t ∧ t.shape = p.lexeme.shape ∧
            t.line + hiddenLines before = lineAfter (pieceChars before ++ Gap.chars p.gap)) ∧
      (∀ m, cut.mistake = some m → ∃ line, Token.scan source = .error ⟨line, m⟩ ∧
        line + hiddenLines cut.pieces = lineAfter (pieceChars cut.pieces ++ Gap.chars cut.gap)) ∧
      ∀ d, Description.parse source = .ok d → ∀ x ∈ d.decls,
        ∃ before p q after, cut.pieces = before ++ p :: q :: after ∧
          p.lexeme.shape = .word x.name ∧ q.lexeme.shape = .mark '=' ∧
          x.line + hiddenLines before = lineAfter (pieceChars before ++ Gap.chars p.gap) := by
  refine ⟨Cut.exists_cut source.toList, fun cut => ⟨cut.cuts.eq_append, ?_, ?_, ?_⟩⟩
  · intro hm
    refine ⟨tokensFrom 1 cut.pieces, ?_, length_tokensFrom 1 cut.pieces, ?_⟩
    · rw [scan_of_cut cut, hm]
      exact congrArg Except.ok (List.append_nil _)
    · intro before p after hpieces
      refine ⟨⟨p.lexeme.shape, 1 + shownLines before + (Gap.chars p.gap).count '\n'⟩, ?_, rfl,
        line_add_hiddenLines before p.gap⟩
      rw [hpieces, tokensFrom_append, ← length_tokensFrom 1 before, List.getElem?_append_right le_rfl,
        Nat.sub_self]
      rfl
  · intro m hm
    refine ⟨_, ?_, line_add_hiddenLines cut.pieces cut.gap⟩
    rw [scan_of_cut cut, hm]
    rfl
  · intro d hd x hx
    obtain ⟨ts, hscan, hparse⟩ := bind_eq_ok.1 hd
    obtain ⟨hderives, -⟩ := Description.derives_of_ofTokens hparse
    obtain ⟨us, l, vs, hts⟩ := hderives.exists_name hx
    rw [scan_of_cut_eq_ok cut hscan] at hts
    obtain ⟨before, after, hpieces, hafter⟩ := exists_split_of_tokensFrom hts
    -- two tokens are left, so two pieces are
    have hlength : after.length = vs.length + 2 := by
      rw [← length_tokensFrom (1 + shownLines before) after, ← hafter]
      rfl
    obtain ⟨p, q, after, rfl⟩ : ∃ p q after', after = p :: q :: after' := by
      match after, hlength with
      | p :: q :: after, _ => exact ⟨p, q, after, rfl⟩
    simp only [tokensFrom, List.cons.injEq, Token.mk.injEq] at hafter
    obtain ⟨⟨hname, hline⟩, ⟨hequals, -⟩, -⟩ := hafter
    refine ⟨before, p, q, after, hpieces, hname.symm, hequals.symm, ?_⟩
    rw [hline]
    exact line_add_hiddenLines before p.gap

/-- A text of one escaped line end, and a declaration on the third line. -/
def escapedLineEnd : String := "a = \"\\\n\"\nb = \"z\""

/-- The pieces up to the text with the line end. -/
def piecesBefore : List Piece := [
  ⟨[], .word 'a' [] (by decide) (by simp)⟩,
  ⟨[.blank ' ' (by decide)], .mark '=' (by decide)⟩,
  ⟨[.blank ' ' (by decide)], .text [.escaped '\n']⟩]

/-- The first piece behind it, on a line of its own. -/
def pieceBehind : Piece := ⟨[.blank '\n' (by decide)], .word 'b' [] (by decide) (by simp)⟩

/-- The pieces at the end. -/
def piecesAfter : List Piece := [
  ⟨[.blank ' ' (by decide)], .mark '=' (by decide)⟩,
  ⟨[.blank ' ' (by decide)], .text [.plain 'z' (by decide) (by decide)]⟩]

theorem cuts_escapedLineEnd :
    Cuts escapedLineEnd.toList (piecesBefore ++ pieceBehind :: piecesAfter) [] := by
  have hchars : escapedLineEnd.toList = pieceChars (piecesBefore ++ pieceBehind :: piecesAfter) := by
    decide +kernel
  have hblank (cs : List Char) : EndsWord (' ' :: cs) := by
    intro c hc
    obtain rfl : ' ' = c := by simpa using hc
    decide
  rw [hchars]
  exact .piece (fun _ => hblank _) (.piece (fun h => by cases h) (.piece (fun h => by cases h)
    (.piece (fun _ => hblank _) (.piece (fun h => by cases h) (.piece (fun h => by cases h)
      (.done []))))))

theorem Token.scan_lines_escapedLineEnd :
    hiddenLines piecesBefore = 1 ∧ pieceBehind.lexeme.shape = .word "b" ∧
      ∃ ts t, Token.scan escapedLineEnd = .ok ts ∧ ts[3]? = some t ∧ t.shape = .word "b" ∧
        t.line + 1 = lineAfter (pieceChars piecesBefore ++ Gap.chars pieceBehind.gap) := by
  let cut : Cut escapedLineEnd.toList :=
    { pieces := piecesBefore ++ pieceBehind :: piecesAfter, gap := [], ending := []
      mistake := none, cuts := cuts_escapedLineEnd, ends := .nothing }
  obtain ⟨ts, hscan, -, hplaces⟩ := ((Token.scan_lines escapedLineEnd).2 cut).2.1 rfl
  obtain ⟨t, ht, hshape, hline⟩ := hplaces piecesBefore pieceBehind piecesAfter rfl
  exact ⟨by decide, rfl, ts, t, hscan, ht, hshape, hline⟩

/-- **An escaped line end is not counted**: a declaration on the third line is said to be on the
second. -/
theorem Description.line_behind_escape :
    ∃ before after : List Char, escapedLineEnd.toList = before ++ 'b' :: after ∧
      lineAfter before = 3 ∧
      Description.parse escapedLineEnd = .ok ⟨[
        .setting { name := "a", value := "\n", isLegacy := false, line := 1 },
        .setting { name := "b", value := "z", isLegacy := false, line := 2 }]⟩ := by
  refine ⟨"a = \"\\\n\"\n".toList, " = \"z\"".toList, by decide +kernel, by decide +kernel, ?_⟩
  decide +kernel

end Handover
