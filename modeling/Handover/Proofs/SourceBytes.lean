/-
**Sources in bytes.**

A source is stored in bytes, and read leniently before it is cut into tokens.  So a layout has a
form in bytes.  Words, marks and blanks are characters, and stand as their bytes.  Comments and the
texts between quotes may have any bytes in them, of characters or not.

Reading does not run over the borders of a layout: each token and each comment starts with a byte
that continues no sequence.  So the bytes are read as the layout in which each comment and each text
is read by itself.  A text that was written in its own bytes is read back from them.  Other bytes
are accepted too, but are lost on the way: what is read is then not what was written.

Main definitions:

* `Handover.ByteShape`, `Handover.ByteLayout`, `Handover.ByteLayout.source` — tokens in bytes, with
  the gaps between them, and what they are in a source;
* `Handover.ByteLayout.asRead` — the layout in characters;
* `Handover.ByteLayout.Writes` — the source of a description, whose texts are in their own bytes.

Main results:

* `Handover.ByteLayout.decode_source` — the bytes of a layout are read as that of characters;
* `Handover.ByteLayout.exists_ofBytes` — whatever bytes its texts have, a layout is accepted;
* `Handover.Description.ofBytes_source` — **what is written is read back**;
* `Handover.ByteLayout.stray_lost` — a byte that is no character's is not.
-/

import Handover.Proofs.Spelling
import Handover.Proofs.Utf8

set_option autoImplicit false

namespace Handover

open Grammar

/-! ### Writing tokens in bytes -/

/-- What may stand between two tokens: a blank, or a comment with the end of its line.  A comment
may have any bytes. -/
inductive ByteFiller where
  | blank (c : Char) (hc : Text.isBlank c = true)
  | comment (text : Bytes) (htext : 0x0a ∉ text)

/-- The bytes of a filler. -/
def ByteFiller.bytes : ByteFiller → Bytes
  | blank c _ => String.utf8EncodeChar c
  | comment text _ => 0x2f :: 0x2f :: (text ++ [0x0a])

/-- What stands between two tokens. -/
abbrev ByteGap := List ByteFiller

/-- A token that is to be written.  A text may have any bytes. -/
inductive ByteShape where
  | word (s : String)
  | text (value : Bytes)
  | mark (c : Char)

/-- An escape in front of each quote and each escape. -/
def escapeWith {α : Type} [DecidableEq α] (quote escape : α) (as : List α) : List α :=
  as.flatMap fun a => if a = quote ∨ a = escape then [escape, a] else [a]

/-- A backslash in front of each quote and each backslash. -/
def escapeBytes (bs : Bytes) : Bytes := escapeWith 0x22 0x5c bs

/-- How a token is written. -/
def ByteShape.bytes : ByteShape → Bytes
  | word s => Bytes.ofString s
  | text value => 0x22 :: (escapeBytes value ++ [0x22])
  | mark c => String.utf8EncodeChar c

/-- The token that is read. -/
def ByteShape.asRead : ByteShape → Shape
  | word s => .word s
  | text value => .text value.decode
  | mark c => .mark c

/-- A token with its text in its own bytes. -/
def Shape.inBytes : Shape → ByteShape
  | word s => .word s
  | text s => .text (Bytes.ofString s)
  | mark c => .mark c

/-- A text in its own bytes is read as it was. -/
theorem Shape.asRead_inBytes (s : Shape) : s.inBytes.asRead = s := by
  cases s with
  | word s => rfl
  | text s => exact congrArg Shape.text (Bytes.decode_ofString s)
  | mark c => rfl

/-- Tokens and the gaps around them.  The gap behind a token may be empty, except that two words do
not touch. -/
structure ByteLayout where
  lead : ByteGap
  items : List (ByteShape × ByteGap)
  apart : items.IsChain fun x y => x.1.asRead.isWord → y.1.asRead.isWord → x.2 ≠ []

namespace ByteLayout

/-- The tokens of a layout. -/
def shapes (l : ByteLayout) : List ByteShape := l.items.map Prod.fst

/-- The bytes of a layout. -/
def source (l : ByteLayout) : Bytes :=
  l.lead.flatMap ByteFiller.bytes ++
    l.items.flatMap fun x => x.1.bytes ++ x.2.flatMap ByteFiller.bytes

/-- The layout is one of the description: it has tokens by the rules of the grammar, with their
texts in their own bytes. -/
def Writes (l : ByteLayout) (d : Description) : Prop :=
  ∃ σ, Spells d σ ∧ l.shapes = σ.map Shape.inBytes

end ByteLayout

/-! ### What is read -/

namespace Bytes

/-- The bytes are read as the characters, in front of whatever starts afresh, and start afresh
themselves. -/
structure ReadsAs (bs : Bytes) (cs : List Char) : Prop where
  chars : ∀ {rest}, StartsAfresh rest → decodeChars (bs ++ rest) = cs ++ decodeChars rest
  afresh : ∀ {rest}, StartsAfresh rest → StartsAfresh (bs ++ rest)

theorem startsAfresh_ascii {b : UInt8} (hb : b.toNat < 0x80) (bs : Bytes) :
    StartsAfresh (b :: bs) := by
  intro x hx
  obtain rfl : b = x := by simpa using hx
  rw [Bool.eq_false_iff]
  intro hcontinues
  have := (isContinuation_iff b).1 hcontinues
  omega

namespace ReadsAs

theorem nil : ReadsAs [] [] := ⟨fun _ => rfl, fun hrest => hrest⟩

theorem append {bs bs' : Bytes} {cs cs' : List Char} (h : ReadsAs bs cs) (h' : ReadsAs bs' cs') :
    ReadsAs (bs ++ bs') (cs ++ cs') where
  chars hrest := by
    rw [List.append_assoc, h.chars (h'.afresh hrest), h'.chars hrest, List.append_assoc]
  afresh hrest := by
    rw [List.append_assoc]
    exact h.afresh (h'.afresh hrest)

theorem flatMap {α : Type} {f : α → Bytes} {g : α → List Char} (h : ∀ a, ReadsAs (f a) (g a))
    (as : List α) : ReadsAs (as.flatMap f) (as.flatMap g) := by
  induction as with
  | nil => exact nil
  | cons a as ih =>
      rw [List.flatMap_cons, List.flatMap_cons]
      exact (h a).append ih

theorem char (c : Char) : ReadsAs (String.utf8EncodeChar c) [c] where
  chars _ := decodeChars_encodeChar c _
  afresh _ := startsAfresh_encodeChar c _

theorem ofString (s : String) : ReadsAs (Bytes.ofString s) s.toList := by
  have hchars := flatMap char s.toList
  rwa [List.flatMap_singleton', ← ofString_eq] at hchars

theorem ascii {b : UInt8} (hb : b.toNat < 0x80) : ReadsAs [b] [Char.ofNat b.toNat] where
  chars _ := decodeChars_ascii hb _
  afresh _ := startsAfresh_ascii hb _

/-- Any bytes between two ASCII bytes are read by themselves. -/
theorem enclosed {b e : UInt8} (hb : b.toNat < 0x80) (he : e.toNat < 0x80) (bs : Bytes) :
    ReadsAs (b :: (bs ++ [e]))
      (Char.ofNat b.toNat :: (decodeChars bs ++ [Char.ofNat e.toNat])) where
  chars {rest} _ := by
    rw [List.cons_append, List.append_assoc, List.singleton_append, decodeChars_ascii hb,
      decodeChars_append bs (startsAfresh_ascii he rest), decodeChars_ascii he]
    simp
  afresh _ := startsAfresh_ascii hb _

end ReadsAs

end Bytes

/-! ### Escapes -/

section Escapes

variable {α : Type} [DecidableEq α] {quote escape : α}

/-- Nothing is to be escaped, or there is a first symbol that is. -/
theorem plain_or_split (quote escape : α) (as : List α) :
    (quote ∉ as ∧ escape ∉ as) ∨
      ∃ us q vs, as = us ++ q :: vs ∧ (q = quote ∨ q = escape) ∧ quote ∉ us ∧ escape ∉ us := by
  induction as with
  | nil => exact Or.inl ⟨by simp, by simp⟩
  | cons a as ih =>
      by_cases ha : a = quote ∨ a = escape
      · exact Or.inr ⟨[], a, as, rfl, ha, by simp, by simp⟩
      · rw [not_or] at ha
        rcases ih with ⟨hquote, hescape⟩ | ⟨us, q, vs, rfl, hq, hquote, hescape⟩
        · exact Or.inl ⟨by simp [Ne.symm ha.1, hquote], by simp [Ne.symm ha.2, hescape]⟩
        · exact Or.inr ⟨a :: us, q, vs, rfl, hq, by simp [Ne.symm ha.1, hquote],
            by simp [Ne.symm ha.2, hescape]⟩

theorem escapeWith_of_plain {as : List α} (hquote : quote ∉ as) (hescape : escape ∉ as) :
    escapeWith quote escape as = as := by
  have hself : ∀ a ∈ as, (if a = quote ∨ a = escape then [escape, a] else [a]) = [a] := by
    intro a ha
    refine if_neg ?_
    rintro (rfl | rfl)
    · exact hquote ha
    · exact hescape ha
  rw [escapeWith, List.flatMap_congr hself, List.flatMap_singleton']

/-- Up to the first symbol that is escaped, nothing changes. -/
theorem escapeWith_append_cons {us : List α} {q : α} (hq : q = quote ∨ q = escape)
    (hquote : quote ∉ us) (hescape : escape ∉ us) (vs : List α) :
    escapeWith quote escape (us ++ q :: vs) =
      us ++ escape :: q :: escapeWith quote escape vs := by
  rw [escapeWith, List.flatMap_append, ← escapeWith, escapeWith_of_plain hquote hescape,
    List.flatMap_cons, if_pos hq, ← escapeWith]
  rfl

end Escapes

theorem escapeText_eq (cs : List Char) : escapeText cs = escapeWith '"' '\\' cs := rfl

/-- Escapes are read as escapes. -/
theorem Bytes.decodeChars_escapeBytes (bs : Bytes) :
    decodeChars (escapeBytes bs) = escapeText (decodeChars bs) := by
  rw [escapeBytes, escapeText_eq]
  -- a quote or a backslash is read off its own byte only, so what is read of plain bytes is plain
  have hquotes : ∀ us : Bytes, 0x22 ∉ us → '"' ∉ decodeChars us :=
    fun us hus hmem => hus (mem_of_mem_decodeChars (by decide) hmem)
  have hescapes : ∀ us : Bytes, 0x5c ∉ us → '\\' ∉ decodeChars us :=
    fun us hus hmem => hus (mem_of_mem_decodeChars (by decide) hmem)
  -- from one byte that is escaped to the next: in between nothing is escaped on either side
  induction hn : bs.length using Nat.strong_induction_on generalizing bs with
  | _ n ih =>
      rcases plain_or_split 0x22 0x5c bs with
        ⟨hquote, hescape⟩ | ⟨us, q, vs, rfl, hq, hquote, hescape⟩
      · rw [escapeWith_of_plain hquote hescape,
          escapeWith_of_plain (hquotes bs hquote) (hescapes bs hescape)]
      · have hascii : q.toNat < 0x80 := by rcases hq with rfl | rfl <;> decide
        have hchar : Char.ofNat q.toNat = '"' ∨ Char.ofNat q.toNat = '\\' := by
          rcases hq with rfl | rfl
          · exact Or.inl rfl
          · exact Or.inr rfl
        have hrest := ih vs.length (by simp at hn; omega) vs rfl
        rw [escapeWith_append_cons hq hquote hescape,
          decodeChars_append us (startsAfresh_ascii (by decide) _),
          decodeChars_append us (startsAfresh_ascii hascii vs), decodeChars_ascii (by decide),
          decodeChars_ascii hascii, decodeChars_ascii hascii, hrest,
          escapeWith_append_cons hchar (hquotes us hquote) (hescapes us hescape)]
        rfl

/-! ### Reading a layout -/

/-- The filler that is read. -/
def ByteFiller.asRead : ByteFiller → Filler
  | blank c hc => .blank c hc
  | comment text htext => .comment text.decodeChars fun hmem =>
      htext (Bytes.mem_of_mem_decodeChars (by decide) hmem)

theorem ByteFiller.readsAs (f : ByteFiller) : Bytes.ReadsAs f.bytes f.asRead.chars := by
  cases f with
  | blank c hc => exact .char c
  | comment text htext =>
      exact .append (.ascii (b := 0x2f) (by decide)) (.enclosed (by decide) (by decide) text)

theorem ByteShape.readsAs (s : ByteShape) : Bytes.ReadsAs s.bytes s.asRead.chars := by
  cases s with
  | word s => exact .ofString s
  | mark c => exact .char c
  | text value =>
      have htext := Bytes.ReadsAs.enclosed (b := 0x22) (e := 0x22) (by decide) (by decide)
        (escapeBytes value)
      rw [Bytes.decodeChars_escapeBytes] at htext
      rw [ByteShape.asRead, Shape.chars, Bytes.decode, String.toList_ofList]
      exact htext

namespace ByteLayout

/-- The layout that is read: each comment and each text by itself. -/
def asRead (l : ByteLayout) : Layout where
  lead := l.lead.map ByteFiller.asRead
  items := l.items.map fun x => (x.1.asRead, x.2.map ByteFiller.asRead)
  apart := by
    rw [List.isChain_map]
    exact l.apart.imp fun x y happart hx hy hnil => happart hx hy (List.map_eq_nil_iff.1 hnil)

theorem shapes_asRead (l : ByteLayout) : l.asRead.shapes = l.shapes.map ByteShape.asRead := by
  simp [asRead, Layout.shapes, shapes]

/-- The bytes of a layout are read as that of characters. -/
theorem decode_source (l : ByteLayout) : l.source.decode = l.asRead.source := by
  have hgap : ∀ g : ByteGap, Bytes.ReadsAs (g.flatMap ByteFiller.bytes)
      (Gap.chars (g.map ByteFiller.asRead)) := by
    intro g
    rw [Gap.chars, List.flatMap_map]
    exact .flatMap ByteFiller.readsAs g
  have hitems : Bytes.ReadsAs (l.items.flatMap fun x => x.1.bytes ++ x.2.flatMap ByteFiller.bytes)
      (itemChars l.asRead.items) := by
    rw [itemChars, asRead, List.flatMap_map]
    exact .flatMap (fun x => x.1.readsAs.append (hgap x.2)) l.items
  have hend : Bytes.StartsAfresh [] := by simp [Bytes.StartsAfresh]
  have hall := ((hgap l.lead).append hitems).chars hend
  rw [List.append_nil, Bytes.decodeChars, List.append_nil] at hall
  rw [Bytes.decode, Layout.source, source, hall]
  rfl

/-- Whatever bytes its texts have, a layout is accepted.  Each text is read by itself. -/
theorem exists_ofBytes {l : ByteLayout} {d : Description} (named : d.WellNamed)
    (distinct : d.Distinct) (hl : Spells d (l.shapes.map ByteShape.asRead)) :
    ∃ d', Description.ofBytes l.source = .ok d' ∧ d'.unlined = d.unlined := by
  rw [← l.shapes_asRead] at hl
  rw [Description.ofBytes, l.decode_source]
  exact Description.parse_source named distinct hl

theorem Writes.spells {l : ByteLayout} {d : Description} (hl : l.Writes d) :
    Spells d (l.shapes.map ByteShape.asRead) := by
  obtain ⟨σ, hσ, hshapes⟩ := hl
  have hread : (σ.map Shape.inBytes).map ByteShape.asRead = σ := by
    rw [List.map_map, List.map_congr_left (g := id) fun s _ => s.asRead_inBytes, List.map_id]
  rwa [hshapes, hread]

/-- Tokens with a space behind each. -/
def spaced (σ : List ByteShape) : ByteLayout where
  lead := []
  items := σ.map fun s => (s, [.blank ' ' rfl])
  apart := by
    rw [List.isChain_map]
    exact (List.pairwise_of_forall fun _ _ _ _ => List.cons_ne_nil _ _).isChain

theorem shapes_spaced (σ : List ByteShape) : (spaced σ).shapes = σ := by
  simp [spaced, shapes, Function.comp_def]

end ByteLayout

/-! ### Reading back -/

/-- **What is written is read back**: a description of names, in which nothing is declared twice,
can be written, and however it is written, with its texts in their own bytes and any bytes in the
comments, it is read back up to its lines. -/
theorem Description.ofBytes_source (d : Description) (named : d.WellNamed)
    (distinct : d.Distinct) :
    (∃ l : ByteLayout, l.Writes d) ∧
      ∀ l : ByteLayout, l.Writes d →
        ∃ d', Description.ofBytes l.source = .ok d' ∧ d'.unlined = d.unlined := by
  refine ⟨⟨.spaced (d.shapes.map Shape.inBytes), d.shapes, d.spells_shapes, ?_⟩, ?_⟩
  · exact ByteLayout.shapes_spaced _
  · exact fun l hl => ByteLayout.exists_ofBytes named distinct hl.spells

/-- A setting whose text has a quote, a backslash, a line end, two slashes and a letter of two bytes
in it, and a method that is called like a modifier. -/
def noted : Description where
  decls := [
    .setting { name := "note", value := "\"\\\n//é", isLegacy := true, line := 7 },
    .interface
      { name := "Thing", languages := ["c"], line := 0
        methods := [{ name := "static", returns := "void", isStatic := true, isAsync := true }] }]

/-- The description with few blanks: its words are kept apart by a comment and an ideographic
space.  The comments have bytes that are no characters, one of which would start a sequence. -/
def notedLayout : ByteLayout where
  lead := [.comment [0x22, 0xe3] (by decide), .blank ' ' rfl]
  items := [
    (.mark '#', []), (.word "note", []), (.mark '=', []),
    (.text (Bytes.ofString "\"\\\n//é"), []), (.mark '#', []),
    (.word "Thing", [.comment [0xff] (by decide)]), (.mark '=', []), (.word "interface", []),
    (.mark '+', []), (.word "c", []), (.mark '\x7b', [.blank '\t' rfl]),
    (.word "async", [.comment [0x2f] (by decide)]), (.word "static", [.blank '　' rfl]),
    (.word "static", []), (.mark '(', []), (.mark ')', []), (.mark ';', []), (.mark '\x7d', [])]
  apart := by simp [ByteShape.asRead, Shape.isWord]

theorem writes_notedLayout : notedLayout.Writes noted := by
  have hmethod := Member.intro [.async, .static] "static" [] .missing
  have hthing := Declaration.named "Thing" 0 (.interface ["c"] (.cons hmethod .nil))
  exact ⟨_, .cons (.legacy "note" "\"\\\n//é" 7) (.cons hthing .nil), rfl⟩

theorem Description.ofBytes_source_noted :
    noted.WellNamed ∧ noted.Distinct ∧
      ∃ d', Description.ofBytes notedLayout.source = .ok d' ∧ d'.unlined = noted.unlined := by
  have named : noted.WellNamed := by decide
  have distinct : noted.Distinct := ⟨by decide, by decide⟩
  exact ⟨named, distinct, (Description.ofBytes_source noted named distinct).2 _ writes_notedLayout⟩

/-! ### Bytes that are lost -/

/-- A setting whose text is a byte that is no character's. -/
def strayLayout : ByteLayout where
  lead := []
  items := [
    (.word "a", [.blank ' ' rfl]), (.mark '=', [.blank ' ' rfl]),
    (.text [0xff], [])]
  apart := by simp [ByteShape.asRead, Shape.isWord]

theorem Bytes.decode_stray : Bytes.decode [0xff] = "�" := by
  have hhead : headChar 0xff [] = ('�', 0) := by decide
  rw [decode, decodeChars_cons, hhead, List.drop_nil, decodeChars]

/-- The byte is not that of a text. -/
theorem Bytes.ofString_ne_stray (s : String) : Bytes.ofString s ≠ [0xff] := by
  intro heq
  have hs : s = "�" := by rw [← decode_ofString s, heq, decode_stray]
  rw [hs, ofString_eq] at heq
  exact absurd heq (by decide)

/-- **A byte that is no character's is lost**: the source is accepted, but the setting that is read
has a replacement character for a text.  That is not what was written, and nothing that can be read
is. -/
theorem ByteLayout.stray_lost :
    strayLayout.source = [0x61, 0x20, 0x3d, 0x20, 0x22, 0xff, 0x22] ∧
    (∃ d, Description.ofBytes strayLayout.source = .ok d ∧
      d.unlined = ⟨[.setting { name := "a", value := "�", isLegacy := false, line := 0 }]⟩) ∧
    ∀ d, ¬ strayLayout.Writes d := by
  refine ⟨?_, ?_, ?_⟩
  · have hword : Bytes.ofString "a" = [0x61] := by
      rw [Bytes.ofString_eq]
      decide
    simp only [source, strayLayout, List.flatMap_cons, List.flatMap_nil, ByteShape.bytes, hword]
    decide
  · have hspells : Spells ⟨[.setting ⟨"a", "�", false, 0⟩]⟩
        (strayLayout.shapes.map ByteShape.asRead) := by
      have hsetting := Declaration.named "a" 0 (.setting "�")
      rw [← Bytes.decode_stray] at hsetting ⊢
      exact .cons hsetting .nil
    exact exists_ofBytes (by decide) ⟨by decide, by decide⟩ hspells
  · rintro d ⟨σ, -, hshapes⟩
    have hmem : ByteShape.text [0xff] ∈ σ.map Shape.inBytes := by
      rw [← hshapes]
      simp [shapes, strayLayout]
    obtain ⟨s, -, hs⟩ := List.mem_map.1 hmem
    cases s with
    | word s => cases hs
    | text s => exact Bytes.ofString_ne_stray s (ByteShape.text.inj hs)
    | mark c => cases hs

end Handover
