import FieldFilter.Console.Line
import FieldFilter.Number.Binary64

/-!
# FieldFilter.Console.Table — tables with ruled borders

A table has a heavy header and one row of cells after another.  Every column is as wide as the widest line
in it and the blanks beside it, unless the table would be wider than the screen: then columns that wrap
their text give way first, and in the end all do.  A cell of several lines makes its row as high.
-/

namespace FieldFilter.Console

open Line (Pieces Uncut Printout)

/-- A column: its heading, and whether its text is wrapped or cut where it is too long. -/
structure Column where
  heading : LooseText
  wraps : Bool := false
  deriving DecidableEq, Repr

/-- Columns, and rows with a cell for each. -/
structure Table where
  columns : List Column
  rows : List (List LooseText)
  deriving DecidableEq, Repr

namespace Table

/-! ### The widths of columns -/

/-- The blanks on both sides of a cell. -/
def margins : Nat := 2

/-- Characters that end a line in the wide sense, by which a cell's width is measured. -/
def endsLine (c : Char) : Bool :=
  [10, 11, 12, 13, 28, 29, 30, 133, 0x2028, 0x2029].contains c.toNat

/-- The columns of the screen that the text of a cell asks for. -/
def cellWidth (cell : LooseText) : Nat :=
  (((Message.printed cell.marks).splitOnP (Mark.is endsLine)).map Text.width).foldl max 0

/-- The width, up to a limit, of a column of which the cells ask for some width. -/
def bounded (limit asked : Nat) : Nat := min limit (asked + margins)

/-- Whether the text of a column is wrapped, and how wide the column is or asks to be. -/
structure Extent where
  wraps : Bool
  width : Nat
  deriving DecidableEq, Repr

/-- The width of all columns. -/
def totalWidth (es : List Extent) : Nat := es.foldl (fun sum e => sum + e.width) 0

/-- Takes an amount away from the columns that are to shrink, in equal shares as far as whole columns of the
screen go, and from each not more than `most` allows. -/
def reduce (shrinks : Extent → Bool) (most : Extent → Nat) (amount : Nat) (sharers : Nat) :
    List Extent → List Extent
  | [] => []
  | e :: rest =>
    if shrinks e ∧ 0 < most e ∧ 0 < sharers then
      let share := min (most e) (Binary64.roundDiv amount sharers)
      { e with width := e.width - share } :: reduce shrinks most (amount - share) (sharers - 1) rest
    else e :: reduce shrinks most amount sharers rest

/-- Takes an amount away from columns. -/
def shrink (shrinks : Extent → Bool) (most : Extent → Nat) (amount : Nat) (es : List Extent) :
    List Extent :=
  reduce shrinks most amount (es.countP fun e => shrinks e && 0 < most e) es

/-- The widest of the columns that wrap, among those with a property. -/
def widest (p : Extent → Bool) (es : List Extent) : Nat :=
  es.foldl (fun w e => if e.wraps && p e then max w e.width else w) 0

/-- Brings the widest columns that wrap down to the next one, until all columns fit.  Every step takes
something away, so the total width is fuel enough. -/
def collapse (limit : Nat) : Nat → List Extent → List Extent
  | 0, es => es
  | fuel + 1, es =>
    let excess := totalWidth es - limit
    let first := widest (fun _ => true) es
    let second := widest (fun e => e.width != first) es
    if excess = 0 ∨ first = second then es
    else
      collapse limit fuel
        (shrink (fun e => e.wraps && e.width == first) (fun _ => min excess (first - second)) excess es)

/-- The columns with their widths, from the widths that their cells ask for and a limit to them all. -/
def share (limit : Nat) (asked : List Extent) : List Extent :=
  let es := asked.map fun e => { e with width := max 1 (bounded limit e.width) }
  if totalWidth es ≤ limit then es
  else
    let es := collapse limit (totalWidth es) es
    let es := shrink (fun _ => true) Extent.width (totalWidth es - limit) es
    List.zipWith (fun e a => { a with width := bounded e.width a.width }) es asked

/-- The columns with the widths that their cells ask for. -/
def askedExtents (t : Table) : List Extent :=
  let headings := t.columns.map fun c => cellWidth c.heading
  let widest := t.rows.foldl (fun widest row => List.zipWith max widest (row.map cellWidth)) headings
  List.zipWith (fun c w => ⟨c.wraps, w⟩) t.columns widest

/-- The columns with their widths.  The borders between and around them take one column of the screen
each. -/
def extents (t : Table) : List Extent := share (Line.screenColumns - (t.columns.length + 1)) t.askedExtents

/-! ### Lines -/

/-- The lines of a cell with some width, in pieces, each line with a blank on both sides.  Where there is
room for the blanks only there are no lines. -/
def cellLines (wraps : Bool) (columns : Nat) (cell : LooseText) : Except Uncut (List Pieces) :=
  let room := columns - margins
  if room = 0 then .ok []
  else
    let lines := ((Message.printed cell.marks).splitOn (.char '\n')).flatMap fun line =>
      let line := Line.expandTabs line
      if wraps then Wrap.wrap room .kept line else [line]
    lines.mapM fun line => do
      let text ← Line.adjusted room [Line.fit room line]
      Line.adjusted columns (← Line.adjusted columns (Text.blanks 1 :: text ++ [Text.blanks 1]))

/-- A line across the table: parts in pieces between its ends, with joints where columns meet. -/
def across (left joint right : Mark) (parts : List Pieces) : Pieces :=
  [left] :: [[joint]].intercalate parts ++ [[right]]

/-- A ruled line. -/
def rule (left fill joint right : Mark) (extents : List Extent) : Pieces :=
  across left joint right (extents.map fun e => [List.replicate e.width fill])

/-- The lines of a cell with as many blank ones as it takes to make up a height, above them or below. -/
def raised (atBottom : Bool) (height columns : Nat) (lines : List Pieces) : List Pieces :=
  let blank := List.replicate (height - lines.length) [Text.blanks columns]
  if atBottom then blank ++ lines else lines ++ blank

/-- A row of cells for columns of the given extents, as high as its highest cell.  The lines of a heading
stand at the bottom of its place. -/
def row (bar : Mark) (heading : Bool) (extents : List Extent) (cells : List LooseText) :
    Except Uncut (List Pieces) := do
  let lines ← (extents.zip cells).mapM fun (e, cell) => cellLines e.wraps e.width cell
  let height := (lines.map List.length).foldl max 1
  let places := List.zipWith (fun e ls => raised heading height e.width ls) extents lines
  return (List.range height).map fun i => across bar bar bar (places.map fun ls => ls.getD i [])

/-- The lines of the table; without columns there is an empty one. -/
def lines (t : Table) : Except Uncut (List Pieces) := do
  if t.columns.isEmpty then return [[]]
  let es := t.extents
  let head ← row '┃' true es (t.columns.map Column.heading)
  let body ← t.rows.mapM (row '│' false es)
  return rule '┏' '━' '┳' '┓' es :: head ++ rule '┡' '━' '╇' '┩' es :: body.flatten ++
    [rule '└' '─' '┴' '┘' es]

/-- Prints the table. -/
def print (t : Table) : Printout := .ofLines t.lines

end Table
end FieldFilter.Console
