/-
**From one style of names to the other and back.**

A name in capitals style is cut into segments, each of which but the first starts with the only
capital letter in it.  Cutting loses nothing but the case of the first character: of every other
segment it is known that its first letter was a capital.  So a name comes back from its words with
its first character in upper case, and words come back from their name as long as each starts with a
small letter.  An underscore can stand for the cut if no word has one, and then two names have the
same spelling in underscore style exactly if they have the same words.

The tables of letter case are for all characters; the statements here are about ASCII.

Main definitions:

* `Handover.Words.Segmented` — a name and the segments it is cut into;
* `Handover.Words.firstUpper` — a name with its first character in upper case;
* `Handover.Words.SmallWord`, `Handover.Words.Separable` — words that come back from their name in
  either style.

Main results:

* `Handover.Words.segmented_cutCamel`, `Handover.Words.Segmented.cutCamel_eq` — cutting a name gives
  its segments, and there are no others;
* `Handover.Words.camel_ofCamel`, `Handover.Words.ofCamel_camel`, `Handover.Words.ofSnake_snake` —
  both styles can be read back;
* `Handover.Words.styles_invertible` — **names and words determine each other**;
* `Handover.CType.declaredName_eq_iff` — when two types have the same name in C.
-/

import Handover.Header.CType

set_option autoImplicit false

namespace Handover

/-! ### Letter case in ASCII -/

/-- A text of ASCII characters. -/
def IsAscii (s : String) : Prop := ∀ c ∈ s.toList, c.toNat < 128

namespace Text

/-- What holds of the 128 characters of ASCII, one by one. -/
theorem forall_ascii {p : Char → Prop} (h : ∀ n < 128, p (Char.ofNat n)) {c : Char}
    (hc : c.toNat < 128) : p c :=
  c.ofNat_toNat ▸ h c.toNat hc

theorem Stride.covers_eq_false {s : Stride} {n : Nat} (h : n < s.first) : s.covers n = false := by
  have hlow : decide (s.first ≤ n) = false := decide_eq_false (Nat.not_le.2 h)
  rw [covers, hlow]
  rfl

/-- Only the first stride says something about ASCII if all others lie above. -/
theorem any_covers_of_ascii {s : Stride} {ss : List Stride} (habove : ∀ r ∈ ss, 128 ≤ r.first)
    {n : Nat} (hn : n < 128) : (s :: ss).any (·.covers n) = s.covers n := by
  have hnone : ss.any (·.covers n) = false := by
    rw [List.any_eq_false]
    intro r hr
    rw [Stride.covers_eq_false (Nat.lt_of_lt_of_le hn (habove r hr))]
    exact Bool.false_ne_true
  rw [List.any_cons, hnone, Bool.or_false]

theorem mapCase_of_ascii {row : CaseRow} {rows : List CaseRow}
    (habove : ∀ r ∈ rows, 128 ≤ r.stride.first) {c : Char} (hc : c.toNat < 128) :
    mapCase (row :: rows) c =
      if row.stride.covers c.toNat then Char.ofNat (c.toNat + row.offset).toNat else c := by
  have hnone : rows.find? (·.stride.covers c.toNat) = none := by
    rw [List.find?_eq_none]
    intro r hr
    rw [Stride.covers_eq_false (Nat.lt_of_lt_of_le hc (habove r hr))]
    exact Bool.false_ne_true
  rw [mapCase, List.find?_cons]
  cases row.stride.covers c.toNat with
  | true => rfl
  | false => rw [hnone]; rfl

theorem isUpper_of_ascii {c : Char} (hc : c.toNat < 128) : isUpper c = c.isUpper := by
  rw [isUpper, upperStrides, any_covers_of_ascii (by decide +kernel) hc]
  exact forall_ascii (p := fun c => Stride.covers ⟨65, 90, 1⟩ c.toNat = c.isUpper)
    (by decide +kernel) hc

theorem toUpper_of_ascii {c : Char} (hc : c.toNat < 128) : toUpper c = c.toUpper := by
  rw [toUpper, toUpperRows, mapCase_of_ascii (by decide +kernel) hc]
  exact forall_ascii (p := fun c => (if Stride.covers ⟨97, 122, 1⟩ c.toNat then
    Char.ofNat (c.toNat + (-32 : Int)).toNat else c) = c.toUpper) (by decide +kernel) hc

theorem toLower_of_ascii {c : Char} (hc : c.toNat < 128) : toLower c = c.toLower := by
  rw [toLower, toLowerRows, mapCase_of_ascii (by decide +kernel) hc]
  exact forall_ascii (p := fun c => (if Stride.covers ⟨65, 90, 1⟩ c.toNat then
    Char.ofNat (c.toNat + (32 : Int)).toNat else c) = c.toLower) (by decide +kernel) hc

theorem toUpper_toLower_of_ascii {c : Char} (hc : c.toNat < 128) :
    toUpper (toLower c) = c.toUpper := by
  have hback : c.toLower.toNat < 128 ∧ c.toLower.toUpper = c.toUpper :=
    forall_ascii (p := fun c => c.toLower.toNat < 128 ∧ c.toLower.toUpper = c.toUpper)
      (by decide +kernel) hc
  rw [toLower_of_ascii hc, toUpper_of_ascii hback.1, hback.2]

theorem toLower_of_not_isUpper {c : Char} (hc : c.toNat < 128) (hsmall : isUpper c = false) :
    toLower c = c := by
  rw [isUpper_of_ascii hc] at hsmall
  rw [toLower_of_ascii hc]
  exact forall_ascii (p := fun c => c.isUpper = false → c.toLower = c) (by decide +kernel) hc hsmall

theorem toUpper_of_isUpper {c : Char} (hc : c.toNat < 128) (hupper : isUpper c = true) :
    c.toUpper = c := by
  rw [isUpper_of_ascii hc] at hupper
  exact forall_ascii (p := fun c => c.isUpper = true → c.toUpper = c) (by decide +kernel) hc hupper

theorem ascii_of_isLower {c : Char} (hc : c.isLower = true) : c.toNat < 128 := by
  have hz : c.val ≤ 'z'.val := of_decide_eq_true (Bool.and_eq_true_iff.1 hc).2
  exact Nat.lt_of_le_of_lt (UInt32.le_iff_toNat_le.1 hz) (by decide)

/-- A small letter is made a capital, and back. -/
theorem isUpper_toUpper_of_isLower {c : Char} (hc : c.isLower = true) :
    isUpper (toUpper c) = true ∧ toLower (toUpper c) = c := by
  have hascii := ascii_of_isLower hc
  have hback : c.toUpper.toNat < 128 ∧ c.toUpper.isUpper = true ∧ c.toUpper.toLower = c :=
    forall_ascii (p := fun c => c.isLower = true → c.toUpper.toNat < 128 ∧
      c.toUpper.isUpper = true ∧ c.toUpper.toLower = c) (by decide +kernel) hascii hc
  rw [toUpper_of_ascii hascii, isUpper_of_ascii hback.1, toLower_of_ascii hback.1]
  exact hback.2

theorem toLower_ne_underscore {c : Char} (hc : c.toNat < 128) (hne : c ≠ '_') :
    toLower c ≠ '_' := by
  rw [toLower_of_ascii hc]
  exact forall_ascii (p := fun c => c ≠ '_' → c.toLower ≠ '_') (by decide +kernel) hc hne

/-- Characters with the same upper case have the same lower case. -/
theorem toLower_eq_of_toUpper_eq {c d : Char} (hc : c.toNat < 128) (hd : d.toNat < 128)
    (h : c.toUpper = d.toUpper) : toLower c = toLower d := by
  have hback : ∀ {x : Char}, x.toNat < 128 → x.toLower = x.toUpper.toLower := fun hx =>
    forall_ascii (p := fun x => x.toLower = x.toUpper.toLower) (by decide +kernel) hx
  rw [toLower_of_ascii hc, toLower_of_ascii hd, hback hc, h, ← hback hd]

/-- Small letters stay as they are. -/
theorem map_toLower {cs : List Char} (hascii : ∀ c ∈ cs, c.toNat < 128)
    (hsmall : ∀ c ∈ cs, isUpper c = false) : cs.map toLower = cs := by
  calc cs.map toLower = cs.map id :=
        List.map_congr_left fun c hc => toLower_of_not_isUpper (hascii c hc) (hsmall c hc)
    _ = cs := List.map_id cs

end Text

namespace Words

/-! ### Segments -/

/-- A name and its segments: a segment goes on up to the next capital letter, whatever its own first
character is. -/
inductive Segmented : List Char → List (List Char) → Prop
  | nil : Segmented [] []
  | cons {c : Char} {small rest : List Char} {ws : List (List Char)}
      (hsmall : ∀ x ∈ small, Text.isUpper x = false)
      (hrest : ∀ d ∈ rest.head?, Text.isUpper d = true) (h : Segmented rest ws) :
      Segmented (c :: (small ++ rest)) ((c :: small) :: ws)

theorem segmented_cutCamel (cs : List Char) : Segmented cs (cutCamel cs) := by
  fun_induction cutCamel cs with
  | case1 => exact .nil
  | case2 c cs _ ih =>
      have hsmall : ∀ x ∈ cs.takeWhile (!Text.isUpper ·), Text.isUpper x = false := by
        intro x hx
        simpa using List.all_eq_true.1 List.all_takeWhile x hx
      have hrest : ∀ d ∈ (cs.dropWhile (!Text.isUpper ·)).head?, Text.isUpper d = true := by
        intro d hd
        have hhead := List.head?_dropWhile_not (!Text.isUpper ·) cs
        rw [Option.mem_def.1 hd] at hhead
        simpa using hhead
      have hsegmented := Segmented.cons (c := c) hsmall hrest ih
      rwa [List.takeWhile_append_dropWhile] at hsegmented

theorem Segmented.cutCamel_eq {cs : List Char} {ws : List (List Char)} (h : Segmented cs ws) :
    cutCamel cs = ws := by
  induction h with
  | nil => rw [cutCamel]
  | @cons c small rest ws hsmall hrest _ ih =>
      have hpass : ∀ x ∈ small, (!Text.isUpper x) = true := by simpa using hsmall
      -- the rest starts with a capital letter, if at all, and the segment ends there
      have hstop : rest.takeWhile (!Text.isUpper ·) = [] ∧
          rest.dropWhile (!Text.isUpper ·) = rest := by
        cases rest with
        | nil => exact ⟨rfl, rfl⟩
        | cons d ds =>
            have hd : Text.isUpper d = true := hrest d rfl
            simp [hd]
      rw [cutCamel, List.takeWhile_append_of_pos hpass, List.dropWhile_append_of_pos hpass,
        hstop.1, hstop.2, List.append_nil, ih]

namespace Segmented

variable {cs : List Char} {ws : List (List Char)}

theorem flatten (h : Segmented cs ws) : ws.flatten = cs := by
  induction h with
  | nil => rfl
  | cons _ _ _ ih => rw [List.flatten_cons, ih, List.cons_append]

theorem ne_nil (h : Segmented cs ws) : ∀ w ∈ ws, w ≠ [] := by
  induction h with
  | nil => simp
  | cons _ _ _ ih => simpa using ih

/-- Capital letters followed by small ones are segments. -/
theorem of_capitals {ws : List (List Char)}
    (hws : ∀ w ∈ ws, ∃ c small, w = c :: small ∧ Text.isUpper c = true ∧
      ∀ x ∈ small, Text.isUpper x = false) : Segmented ws.flatten ws := by
  induction ws with
  | nil => exact .nil
  | cons w ws ih =>
      obtain ⟨⟨c, small, rfl, -, hsmall⟩, htail⟩ := List.forall_mem_cons.1 hws
      refine .cons hsmall ?_ (ih htail)
      cases ws with
      | nil => simp
      | cons v vs =>
          obtain ⟨d, ds, rfl, hd, -⟩ := htail v List.mem_cons_self
          simpa using hd

/-- The segments, each in small letters with a capital in front, are the name with a capital in
front. -/
theorem flatMap_capital (h : Segmented cs ws) (hcs : ∀ c ∈ cs, c.toNat < 128) :
    ws.flatMap (fun w => (w.map Text.toLower).modifyHead Text.toUpper) =
      cs.modifyHead Char.toUpper := by
  induction h with
  | nil => rfl
  | @cons c small rest ws hsmall hrest _ ih =>
      obtain ⟨hc, hcs⟩ := List.forall_mem_cons.1 hcs
      obtain ⟨hsmall', hrest'⟩ := List.forall_mem_append.1 hcs
      -- the induction gives the rest a capital in front, which it has already
      have hcapital : rest.modifyHead Char.toUpper = rest := by
        cases rest with
        | nil => rfl
        | cons d ds =>
            have hd := Text.toUpper_of_isUpper (hrest' d List.mem_cons_self) (hrest d rfl)
            rw [List.modifyHead_cons, hd]
      rw [List.flatMap_cons, ih hrest', hcapital, List.map_cons, Text.map_toLower hsmall' hsmall,
        List.modifyHead_cons, Text.toUpper_toLower_of_ascii hc, List.modifyHead_cons,
        List.cons_append]

end Segmented

/-! ### Capitals style -/

/-- A name with its first character in upper case. -/
def firstUpper (s : String) : String := String.ofList (s.toList.modifyHead Char.toUpper)

theorem toList_capitalise (w : String) :
    (capitalise w).toList = w.toList.modifyHead Text.toUpper := by
  rw [capitalise]
  cases w.toList with
  | nil => rfl
  | cons c cs => simp

theorem toList_camel (ws : Words) :
    ws.camel.toList = ws.flatMap fun w => w.toList.modifyHead Text.toUpper := by
  simp [camel, String.toList_join, List.flatMap_map, toList_capitalise]

/-- **A name comes back from its words** with its first character in upper case. -/
theorem camel_ofCamel {s : String} (hs : IsAscii s) : (ofCamel s).camel = firstUpper s := by
  rw [← String.toList_inj, toList_camel, ofCamel, firstUpper, String.toList_ofList,
    ← (segmented_cutCamel s.toList).flatMap_capital hs, List.flatMap_map]
  simp

/-- A word that starts with a small letter and has no capital letters. -/
def SmallWord (w : String) : Prop :=
  ∃ c cs, w.toList = c :: cs ∧ c.isLower = true ∧ ∀ x ∈ cs, x.toNat < 128 ∧ x.isUpper = false

/-- With a capital in front, a word is a segment, from which the word is made again. -/
theorem SmallWord.segment {w : String} (hw : SmallWord w) :
    ∃ c small, w.toList.modifyHead Text.toUpper = c :: small ∧ Text.isUpper c = true ∧
      (∀ x ∈ small, Text.isUpper x = false) ∧
      String.ofList ((c :: small).map Text.toLower) = w := by
  obtain ⟨c, cs, hchars, hc, hcs⟩ := hw
  have hsmall : ∀ x ∈ cs, Text.isUpper x = false := by
    intro x hx
    rw [Text.isUpper_of_ascii (hcs x hx).1, (hcs x hx).2]
  obtain ⟨hupper, hlower⟩ := Text.isUpper_toUpper_of_isLower hc
  refine ⟨Text.toUpper c, cs, by rw [hchars, List.modifyHead_cons], hupper, hsmall, ?_⟩
  rw [List.map_cons, hlower, Text.map_toLower (fun x hx => (hcs x hx).1) hsmall, ← hchars,
    String.ofList_toList]

/-- **Words come back from their name** if each of them starts with a small letter. -/
theorem ofCamel_camel {ws : Words} (hws : ∀ w ∈ ws, SmallWord w) : ofCamel ws.camel = ws := by
  have hsegmented : Segmented ws.camel.toList
      (ws.map fun w => w.toList.modifyHead Text.toUpper) := by
    rw [toList_camel, List.flatMap_def]
    refine Segmented.of_capitals fun v hv => ?_
    obtain ⟨w, hw, rfl⟩ := List.mem_map.1 hv
    obtain ⟨c, small, hsegment, hc, hsmall, -⟩ := (hws w hw).segment
    exact ⟨c, small, hsegment, hc, hsmall⟩
  rw [ofCamel, hsegmented.cutCamel_eq, List.map_map]
  calc ws.map _ = ws.map id := List.map_congr_left fun w hw => ?_
    _ = ws := List.map_id ws
  obtain ⟨c, small, hsegment, -, -, hword⟩ := (hws w hw).segment
  rw [Function.comp_apply, hsegment, hword, id_eq]

/-! ### Underscore style -/

theorem cutSnake_eq_splitOn (cs : List Char) : cutSnake cs = cs.splitOn '_' := by
  fun_induction cutSnake cs with
  | case1 => rfl
  | case2 cs ih => simp [List.splitOn_cons_eq_if_modifyHead, ih]
  | case3 c cs hc hnil ih => exact absurd (hnil ▸ ih).symm (List.splitOn_ne_nil _ _)
  | case4 c cs hc w ws hcut ih =>
      rw [List.splitOn_cons_eq_if_modifyHead, if_neg (by simpa using hc), ← ih, hcut]
      rfl

/-- Words that an underscore keeps apart. -/
def Separable (ws : Words) : Prop := ∀ w ∈ ws, w ≠ "" ∧ '_' ∉ w.toList

instance : DecidablePred Separable := fun ws =>
  inferInstanceAs (Decidable (∀ w ∈ ws, w ≠ "" ∧ '_' ∉ w.toList))

/-- **Words come back from their name in underscore style** if there are no empty ones and none has
an underscore. -/
theorem ofSnake_snake {ws : Words} (hws : ws.Separable) : ofSnake ws.snake = ws := by
  cases ws with
  | nil => rfl
  | cons w ws =>
      have hcut : cutSnake (snake (w :: ws)).toList = (w :: ws).map String.toList := by
        rw [cutSnake_eq_splitOn, snake, String.toList_intercalate]
        refine List.splitOn_intercalate '_' ?_ (by simp)
        intro v hv
        obtain ⟨u, hu, rfl⟩ := List.mem_map.1 hv
        exact (hws u hu).2
      have hsome : (snake (w :: ws)).isEmpty = false := by
        rw [String.isEmpty_eq_false_iff]
        intro hempty
        -- an empty text is cut into one empty word
        rw [hempty] at hcut
        have hw : [] = w.toList := (List.cons.inj hcut).1
        exact (hws w List.mem_cons_self).1 (String.toList_eq_nil_iff.1 hw.symm)
      rw [ofSnake, hsome, hcut]
      simp

theorem snake_inj {ws vs : Words} (hws : ws.Separable) (hvs : vs.Separable) :
    ws.snake = vs.snake ↔ ws = vs := by
  refine ⟨fun h => ?_, congrArg snake⟩
  rw [← ofSnake_snake hws, h, ofSnake_snake hvs]

/-! ### Names that have the same words -/

theorem separable_ofCamel {s : String} (hs : IsAscii s) (hplain : '_' ∉ s.toList) :
    (ofCamel s).Separable := by
  have hsegmented := segmented_cutCamel s.toList
  intro w hw
  obtain ⟨v, hv, rfl⟩ := List.mem_map.1 hw
  refine ⟨?_, ?_⟩
  · have hne := hsegmented.ne_nil v hv
    simpa using hne
  · intro hmem
    rw [String.toList_ofList] at hmem
    obtain ⟨c, hc, hlower⟩ := List.mem_map.1 hmem
    have hcs : c ∈ s.toList := hsegmented.flatten ▸ List.mem_flatten_of_mem hv hc
    exact Text.toLower_ne_underscore (hs c hcs) (fun h => hplain (h ▸ hcs)) hlower

/-- Two names have the same words exactly if they are equal up to the case of their first
character. -/
theorem ofCamel_eq_iff {s t : String} (hs : IsAscii s) (ht : IsAscii t) :
    ofCamel s = ofCamel t ↔ firstUpper s = firstUpper t := by
  constructor
  · intro h
    rw [← camel_ofCamel hs, h, camel_ofCamel ht]
  · intro h
    have hfirst : s.toList.modifyHead Char.toUpper = t.toList.modifyHead Char.toUpper :=
      String.ofList_injective h
    cases hcs : s.toList with
    | nil =>
        rw [hcs] at hfirst
        cases hds : t.toList with
        | nil => rw [ofCamel, ofCamel, hcs, hds]
        | cons d ds => simp [hds] at hfirst
    | cons c cs =>
        rw [hcs] at hfirst
        cases hds : t.toList with
        | nil => simp [hds] at hfirst
        | cons d ds =>
            rw [hds] at hfirst
            -- only the first characters can differ, and the words have them in lower case
            obtain ⟨hupper, rfl⟩ := List.cons.inj hfirst
            have hc : c.toNat < 128 := hs c (by simp [hcs])
            have hd : d.toNat < 128 := ht d (by simp [hds])
            have hlower := Text.toLower_eq_of_toUpper_eq hc hd hupper
            simp [ofCamel, hcs, hds, cutCamel, hlower]

/-- **Names and words determine each other.**  A name comes back from its words with its first
character in upper case.  Words that start with a small letter and have no capital letters come back
from their name in capitals style; words that are not empty and have no underscores come back from
their name in underscore style.  So two names without underscores have the same spelling in
underscore style exactly if they are equal up to the case of their first character. -/
theorem styles_invertible :
    (∀ s : String, IsAscii s → (ofCamel s).camel = firstUpper s) ∧
    (∀ ws : Words, (∀ w ∈ ws, SmallWord w) → ofCamel ws.camel = ws) ∧
    (∀ ws : Words, ws.Separable → ofSnake ws.snake = ws) ∧
    ∀ s t : String, IsAscii s → IsAscii t → '_' ∉ s.toList → '_' ∉ t.toList →
      ((ofCamel s).snake = (ofCamel t).snake ↔ firstUpper s = firstUpper t) := by
  refine ⟨fun s hs => camel_ofCamel hs, fun ws hws => ofCamel_camel hws,
    fun ws hws => ofSnake_snake hws, fun s t hs ht hs' ht' => ?_⟩
  rw [snake_inj (separable_ofCamel hs hs') (separable_ofCamel ht ht'), ofCamel_eq_iff hs ht]

/-- A run of capitals, digits, words with an underscore, and names that differ in one letter. -/
theorem styles_invertible_runs :
    (IsAscii "xML2Http" ∧ (ofCamel "xML2Http").camel = "XML2Http") ∧
      ((∀ w ∈ ["x", "m", "l2", "a_b"], SmallWord w) ∧
        ofCamel (camel ["x", "m", "l2", "a_b"]) = ["x", "m", "l2", "a_b"]) ∧
      (Separable ["2nd", "X"] ∧ ofSnake (snake ["2nd", "X"]) = ["2nd", "X"]) ∧
      (ofCamel "xML2Http").snake = (ofCamel "XML2Http").snake ∧
      (ofCamel "xML2Http").snake ≠ (ofCamel "xMl2Http").snake := by
  obtain ⟨hcamel, hwords, hsnake, hnames⟩ := styles_invertible
  have hname : IsAscii "xML2Http" ∧ '_' ∉ "xML2Http".toList := by simp [IsAscii]
  have hfirst : IsAscii "XML2Http" ∧ '_' ∉ "XML2Http".toList := by simp [IsAscii]
  have hthird : IsAscii "xMl2Http" ∧ '_' ∉ "xMl2Http".toList := by simp [IsAscii]
  have hsmall : ∀ w ∈ ["x", "m", "l2", "a_b"], SmallWord w := by
    simp [SmallWord, and_assoc]
  have hseparable : Separable ["2nd", "X"] := by decide +kernel
  refine ⟨⟨hname.1, ?_⟩, ⟨hsmall, hwords _ hsmall⟩, ⟨hseparable, hsnake _ hseparable⟩, ?_, ?_⟩
  · exact (hcamel _ hname.1).trans (by decide +kernel)
  · exact (hnames _ _ hname.1 hfirst.1 hname.2 hfirst.2).2 (by decide +kernel)
  · intro hsame
    have hequal := (hnames _ _ hname.1 hthird.1 hname.2 hthird.2).1 hsame
    exact absurd hequal (by decide +kernel)

end Words

/-- Two types have the same name in C exactly if their names are equal up to the case of the first
character. -/
theorem CType.declaredName_eq_iff {s t : String} (hs : IsAscii s) (ht : IsAscii t)
    (hs' : '_' ∉ s.toList) (ht' : '_' ∉ t.toList) :
    declaredName s = declaredName t ↔ Words.firstUpper s = Words.firstUpper t := by
  have hmark : Words.Separable ["t"] := by decide +kernel
  have hjoined : ∀ {n : String}, IsAscii n → '_' ∉ n.toList →
      Words.Separable (Words.ofCamel n ++ ["t"]) := fun hn hn' =>
    List.forall_mem_append.2 ⟨Words.separable_ofCamel hn hn', hmark⟩
  rw [declaredName, declaredName, Words.snake_inj (hjoined hs hs') (hjoined ht ht'),
    List.append_left_inj, Words.ofCamel_eq_iff hs ht]

end Handover
