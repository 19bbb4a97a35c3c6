/-
**Grids.**

A grid shows rows of cells in a frame.  Each column is as wide as its widest line, with its blanks
on both sides, and each row is as high as is counted for its highest cell; what does not fit into a
cell is cut off.

Main definitions:

* `Handover.Grid.Cell`, `Handover.Grid` — cells, and the title row with the other rows;
* `Grid.widths`, `Grid.height` — the room of columns and rows;
* `Grid.render` — the text of a grid.
-/

import Handover.Text.Wrap

set_option autoImplicit false

namespace Handover

/-- A cell of a grid. -/
structure Grid.Cell where
  text : List Char
  /-- The blanks on each side. -/
  margin : Nat := 1
deriving DecidableEq, Repr

/-- A grid with a row of titles. -/
structure Grid where
  titles : List Grid.Cell
  rows : List (List Grid.Cell)
deriving DecidableEq, Repr

namespace Grid

/-! ### Lines of a cell -/

/-- A text in which every line ends in the same way. -/
def uniform : List Char → List Char
  | '\r' :: '\n' :: cs => '\n' :: uniform cs
  | c :: cs => c :: uniform cs
  | [] => []

/-- Blanks in place of tabulators. -/
def withoutTabs (cs : List Char) : List Char :=
  cs.flatMap fun c => if c = '\t' then List.replicate 4 ' ' else [c]

/-- The lines of a text. -/
def linesOf : List Char → List (List Char)
  | [] => [[]]
  | c :: cs =>
    if c = '\n' then [] :: linesOf cs
    else match linesOf cs with
      | [] => [[c]]
      | l :: ls => (c :: l) :: ls

/-- The columns that a cell takes without its blanks. -/
def Cell.width (c : Cell) : Nat := Text.widest (linesOf c.text)

/-- The lines that are counted for a cell in a column with room for `limit` columns of text. -/
def Cell.height (limit : Nat) (c : Cell) : Nat :=
  (linesOf (uniform c.text)).foldl (fun h l => h + Text.linesNeeded limit l) 0

/-- The lines of a cell that is `w` columns wide and `h` lines high. -/
def Cell.lines (w h : Nat) (c : Cell) : List (List Char) :=
  let side := List.replicate c.margin ' '
  let inner := Text.wrap (w - 2 * c.margin) (uniform (withoutTabs c.text))
  let all := inner.map (side ++ · ++ side) ++ List.replicate (h - inner.length) []
  let full := max w (Text.widest all)
  (all.map fun l => Text.cutTo w (Text.fillTo full l)).take h

/-! ### Columns and rows -/

/-- All rows. -/
def all (g : Grid) : List (List Cell) := g.titles :: g.rows

/-- The room for text in each column. -/
def rooms (g : Grid) : List Nat :=
  (List.range g.titles.length).map fun i =>
    g.all.foldl (fun w r => max w ((r[i]?.map Cell.width).getD 0)) 0

/-- The blanks on each side of a column. -/
def margins (g : Grid) : List Nat :=
  (List.range g.titles.length).map fun i =>
    g.all.foldl (fun m r => max m ((r[i]?.map Cell.margin).getD 0)) 0

/-- The widths of the columns. -/
def widths (g : Grid) : List Nat := List.zipWith (fun room m => room + 2 * m) g.rooms g.margins

/-- The height of a row, given the room in its columns. -/
def height (rooms : List Nat) (row : List Cell) : Nat :=
  (rooms.zip row).foldl (fun h (room, c) => max h (c.height room)) 1

/-- A line of the frame. -/
def rule (left middle right : String) (ws : List Nat) : String :=
  left ++ middle.intercalate (ws.map fun w => "".pushn '─' w) ++ right ++ "\n"

/-- The text of a row.  The lines of a cell are filled up to the widest of them. -/
def renderRow (rooms ws : List Nat) (row : List Cell) : String :=
  let h := height rooms row
  let blocks := (ws.zip row).map fun (w, c) =>
    let ls := c.lines w h
    ls.map fun l => String.ofList (Text.fillTo (Text.widest ls) l)
  String.join ((List.range h).map fun i =>
    "│" ++ "│".intercalate (blocks.map fun b => b[i]?.getD "") ++ "│\n")

/-- The text of a grid. -/
def render (g : Grid) : String :=
  let ws := g.widths
  rule "╭" "┬" "╮" ws ++ renderRow g.rooms ws g.titles ++ rule "├" "┼" "┤" ws
    ++ String.join (g.rows.map (renderRow g.rooms ws)) ++ rule "╰" "┴" "╯" ws

end Grid

end Handover
