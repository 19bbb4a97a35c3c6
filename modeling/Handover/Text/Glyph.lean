/-
**Glyphs.**

What a terminal shows in one go: an ASCII character, a control sequence, which is not seen, or the
characters beyond ASCII that belong together.  A glyph takes as many columns as its width says.

Main definitions:

* `Handover.Text.Glyph`, `Handover.Text.glyphs` — glyphs, and those of a line;
* `Glyph.width`, `Handover.Text.lineWidth` — how many columns they take;
* `Handover.Text.cutTo` — as much of a line as a number of columns holds.
-/

import Handover.Text.BreakClass

set_option autoImplicit false

namespace Handover.Text

/-! ### Characters that belong together -/

/-- What is known of the characters before a border. -/
structure Border where
  last : BreakClass
  /-- Whether a pictograph and its extensions end here. -/
  ofPictograph : Bool
  /-- Whether a pictograph, its extensions and a joiner end here. -/
  isJoined : Bool
  /-- Whether half a flag ends here. -/
  halfFlag : Bool

/-- The border after a first character. -/
def Border.first (k : BreakClass) : Border :=
  { last := k, ofPictograph := k = .pictograph, isJoined := false, halfFlag := k = .indicator }

/-- The border after one more character. -/
def Border.next (b : Border) (k : BreakClass) : Border :=
  { last := k
    ofPictograph := k = .pictograph || (b.ofPictograph && k = .extend)
    isJoined := b.ofPictograph && k = .joiner
    halfFlag := k = .indicator && !b.halfFlag }

/-- Whether a character belongs to those before the border. -/
def Border.joins (b : Border) (k : BreakClass) : Bool :=
  match b.last, k with
  | .control, _ | _, .control => false
  | _, .extend | _, .joiner | _, .spacing => true
  | .prepend, _ => true
  | .leading, .leading | .leading, .vowel => true
  | .leading, .openSyllable | .leading, .closedSyllable => true
  | .openSyllable, .vowel | .openSyllable, .trailing | .vowel, .vowel | .vowel, .trailing => true
  | .closedSyllable, .trailing | .trailing, .trailing => true
  | .joiner, .pictograph => b.isJoined
  | .indicator, .indicator => b.halfFlag
  | _, _ => false

/-- How many of the characters after the border belong to those before it. -/
def Border.reach (b : Border) : List Char → Nat
  | [] => 0
  | c :: cs =>
    let k := breakClass c
    if b.joins k then (b.next k).reach cs + 1 else 0

/-! ### Control sequences -/

/-- The length of characters of one kind with a final one behind them, if it is there. -/
def lengthTo (isInner isFinal : Char → Bool) (cs : List Char) : Nat :=
  let inner := (cs.takeWhile isInner).length
  if ((cs.drop inner).head?.map isFinal).getD false then inner + 1 else inner

/-- Whether a character lies between two code points. -/
def isBetween (first last : Nat) (c : Char) : Bool := first ≤ c.toNat && c.toNat ≤ last

/-- How many characters after an escape belong to its control sequence. -/
def sequenceLength : List Char → Nat
  | [] => 0
  | c :: cs =>
    if c = '[' then 1 + lengthTo (isBetween 0x20 0x3f) (isBetween 0x40 0x7e) cs
    else if c = ']' then
      1 + lengthTo (fun d => d ≠ '\x1b' && d ≠ '\x07') (fun d => d = '\x07') cs
    else if c = 'P' || c = 'X' || c = '\x5e' || c = '_' then
      1 + lengthTo (fun d => d ≠ '\x1b') (fun _ => false) cs
    else lengthTo (isBetween 0x20 0x2f) (isBetween 0x30 0x7e) (c :: cs)

/-! ### Glyphs -/

/-- What is shown in one go. -/
inductive Glyph where
  /-- A printable ASCII character. -/
  | plain (c : Char)
  /-- An ASCII control character. -/
  | control (c : Char)
  /-- A control sequence. -/
  | sequence (cs : List Char)
  /-- Characters from one beyond ASCII on. -/
  | cluster (c : Char) (cs : List Char)
deriving DecidableEq, Repr

/-- The characters of a glyph. -/
def Glyph.chars : Glyph → List Char
  | plain c => [c]
  | control c => [c]
  | sequence cs => cs
  | cluster c cs => c :: cs

/-- The glyphs of a line. -/
def glyphs (line : List Char) : List Glyph :=
  match line with
  | [] => []
  | c :: cs =>
    if isBetween 0x20 0x7e c then .plain c :: glyphs cs
    else if c = '\x1b' then
      let n := sequenceLength cs
      .sequence (c :: cs.take n) :: glyphs (cs.drop n)
    else if c.toNat < 0x80 then .control c :: glyphs cs
    else
      let n := (Border.first (breakClass c)).reach cs
      .cluster c (cs.take n) :: glyphs (cs.drop n)
termination_by line.length
decreasing_by all_goals (simp only [List.length_cons, List.length_drop]; omega)

/-! ### Widths -/

/-- The runs of wide characters. -/
def wideRuns : List (Nat × Nat) := [
  (4352, 4447), (8986, 8987), (9001, 9002), (9193, 9196), (9200, 9200), (9203, 9203),
  (9725, 9726), (9748, 9749), (9800, 9811), (9855, 9855), (9875, 9875), (9889, 9889),
  (9898, 9899), (9917, 9918), (9924, 9925), (9934, 9934), (9940, 9940), (9962, 9962),
  (9970, 9971), (9973, 9973), (9978, 9978), (9981, 9981), (9989, 9989), (9994, 9995),
  (10024, 10024), (10060, 10060), (10062, 10062), (10067, 10069), (10071, 10071), (10133, 10135),
  (10160, 10160), (10175, 10175), (11035, 11036), (11088, 11088), (11093, 11093), (11904, 11929),
  (11931, 12019), (12032, 12245), (12272, 12283), (12288, 12350), (12353, 12438), (12441, 12543),
  (12549, 12591), (12593, 12686), (12688, 12771), (12784, 12830), (12832, 12871), (12880, 19903),
  (19968, 42124), (42128, 42182), (43360, 43388), (44032, 55203), (63744, 64255), (65040, 65049),
  (65072, 65106), (65108, 65126), (65128, 65131), (65281, 65376), (65504, 65510), (94176, 94180),
  (94192, 94193), (94208, 100343), (100352, 101589), (101632, 101640), (110576, 110579),
  (110581, 110587), (110589, 110590), (110592, 110882), (110898, 110898), (110928, 110930),
  (110933, 110933), (110948, 110951), (110960, 111355), (126980, 126980), (127183, 127183),
  (127374, 127374), (127377, 127386), (127488, 127490), (127504, 127547), (127552, 127560),
  (127568, 127569), (127584, 127589), (127744, 127776), (127789, 127797), (127799, 127868),
  (127870, 127891), (127904, 127946), (127951, 127955), (127968, 127984), (127988, 127988),
  (127992, 128062), (128064, 128064), (128066, 128252), (128255, 128317), (128331, 128334),
  (128336, 128359), (128378, 128378), (128405, 128406), (128420, 128420), (128507, 128591),
  (128640, 128709), (128716, 128716), (128720, 128722), (128725, 128727), (128732, 128735),
  (128747, 128748), (128756, 128764), (128992, 129003), (129008, 129008), (129292, 129338),
  (129340, 129349), (129351, 129535), (129648, 129660), (129664, 129672), (129680, 129725),
  (129727, 129733), (129742, 129755), (129760, 129768), (129776, 129784), (131072, 196605),
  (196608, 262141)]

/-- The runs of pictographs that are shown in colour, and wide, unless told otherwise. -/
def colourRuns : List (Nat × Nat) := [
  (8986, 8987), (9193, 9196), (9200, 9200), (9203, 9203), (9725, 9726), (9748, 9749),
  (9800, 9811), (9855, 9855), (9875, 9875), (9889, 9889), (9898, 9899), (9917, 9918),
  (9924, 9925), (9934, 9934), (9940, 9940), (9962, 9962), (9970, 9971), (9973, 9973),
  (9978, 9978), (9981, 9981), (9989, 9989), (9994, 9995), (10024, 10024), (10060, 10060),
  (10062, 10062), (10067, 10069), (10071, 10071), (10133, 10135), (10160, 10160), (10175, 10175),
  (11035, 11036), (11088, 11088), (11093, 11093), (126980, 126980), (127183, 127183),
  (127374, 127374), (127377, 127386), (127462, 127487), (127489, 127489), (127514, 127514),
  (127535, 127535), (127538, 127542), (127544, 127546), (127568, 127569), (127744, 127776),
  (127789, 127797), (127799, 127868), (127870, 127891), (127904, 127946), (127951, 127955),
  (127968, 127984), (127988, 127988), (127992, 128062), (128064, 128064), (128066, 128252),
  (128255, 128317), (128331, 128334), (128336, 128359), (128378, 128378), (128405, 128406),
  (128420, 128420), (128507, 128591), (128640, 128709), (128716, 128716), (128720, 128722),
  (128725, 128727), (128732, 128735), (128747, 128748), (128756, 128764), (128992, 129003),
  (129008, 129008), (129292, 129338), (129340, 129349), (129351, 129535), (129648, 129660),
  (129664, 129672), (129680, 129725), (129727, 129733), (129742, 129755), (129760, 129768),
  (129776, 129784)]

/-- The columns that a character takes. -/
def charWidth (c : Char) : Nat :=
  match breakClass c with
  | .control | .extend | .joiner => 0
  | .indicator => 2
  | .pictograph => if inRuns colourRuns c then 2 else 1
  | _ =>
    if c = '\u2e3a' then 3
    else if c = '\u2e3b' then 4
    else if inRuns wideRuns c then 2
    else 1

/-- The columns of a cluster, after those of its first character.  A pictograph may be told to be
narrow or wide; flags and syllables take the room of their first character. -/
def clusterWidth (first : BreakClass) (w : Nat) (cs : List Char) : Nat :=
  match first with
  | .pictograph =>
    cs.foldl (fun w c => if c = '\ufe0e' then 1 else if c = '\ufe0f' then 2 else w) w
  | .indicator | .leading => w
  | _ => cs.foldl (fun w c => w + charWidth c) w

/-- The columns that a glyph takes. -/
def Glyph.width : Glyph → Nat
  | plain _ => 1
  | control _ => 0
  | sequence _ => 0
  | cluster c cs => clusterWidth (breakClass c) (charWidth c) cs

/-- The columns that a line takes. -/
def lineWidth (line : List Char) : Nat := (glyphs line).foldl (fun w g => w + g.width) 0

/-- The columns that the widest of some lines takes. -/
def widest (lines : List (List Char)) : Nat := lines.foldl (fun w l => max w (lineWidth l)) 0

/-! ### Cutting -/

/-- As many glyphs as there is room for; `none` stands for no room any more.  What takes no room
because it is not shown is kept in any case. -/
def cut : Option Nat → List Glyph → List Char
  | _, [] => []
  | room, .control c :: gs => c :: cut room gs
  | room, .sequence cs :: gs => cs ++ cut room gs
  | none, _ :: gs => cut none gs
  | some room, g :: gs =>
    if g.width ≤ room then g.chars ++ cut (some (room - g.width)) gs else cut none gs

/-- As much of a line as `w` columns hold. -/
def cutTo (w : Nat) (line : List Char) : List Char :=
  if lineWidth line ≤ w then line else cut (some w) (glyphs line)

/-- A line with blanks on the right up to `w` columns. -/
def fillTo (w : Nat) (line : List Char) : List Char :=
  line ++ List.replicate (w - lineWidth line) ' '

end Handover.Text
