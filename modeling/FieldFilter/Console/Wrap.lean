import FieldFilter.Text.Blank
import FieldFilter.Text.Width

/-!
# FieldFilter.Console.Wrap — lines broken between words

A word is held together with the white space after it.  `wrap` puts as many words on a line as fit, where
the white space at the end of the line does not count.  A word that is too long for any line has lines of
its own: one for the whole of it, or as many as it takes.
-/

namespace FieldFilter.Console

open Text (Sign width signs)

/-- What is done with a word that is too long for a line. -/
inductive LongWord where
  | kept
  | folded
  deriving DecidableEq, Repr

namespace Wrap

/-- White space. -/
def isBlank (m : Mark) : Bool := m.is Text.isBlank

/-- White space and the mark of a word after it belong to different words. -/
def staysTogether (a b : Mark) : Bool := !isBlank a || isBlank b

/-- The words of a line, each with the white space after it and the first one also with that before it.
White space alone holds no word. -/
def words (line : List Mark) : List (List Mark) :=
  match line.splitBy staysTogether with
  | first :: second :: rest =>
    if first.all isBlank then (first ++ second) :: rest else first :: second :: rest
  | groups => groups.filter fun group => !group.all isBlank

/-- The text without white space at the end. -/
def dropBlanksAtEnd (s : List Mark) : List Mark := (s.reverse.dropWhile isBlank).reverse

/-- White space at the end is dropped as far as the line has more marks than the given number. -/
def dropExcess (size : Nat) (line : List Mark) : List Mark :=
  let blanks := (line.reverse.takeWhile isBlank).length
  line.take (line.length - min blanks (line.length - size))

/-- The signs of a word in pieces that fit, after a piece under way that takes some columns. -/
def chop (columns : Nat) (piece : List Mark) (used : Nat) : List Sign → List (List Mark)
  | [] => [piece]
  | s :: rest =>
    if columns < used + s.width then piece :: chop columns s.text s.width rest
    else chop columns (piece ++ s.text) (used + s.width) rest

/-- Lines under way: the finished ones, and the last one with the columns it takes. -/
structure Filling where
  finished : List (List Mark) := []
  line : List Mark := []
  used : Nat := 0

namespace Filling

/-- All lines.  A line that nothing was put on is none. -/
def lines (f : Filling) : List (List Mark) :=
  if f.line.isEmpty then f.finished else f.finished ++ [f.line]

/-- Starts a new line with a word. -/
def start (f : Filling) (word : List Mark) : Filling := ⟨f.lines, word, width word⟩

/-- Adds a word. -/
def add (columns : Nat) (long : LongWord) (f : Filling) (word : List Mark) : Filling :=
  let needed := width (dropBlanksAtEnd word)
  if f.used + needed ≤ columns then { f with line := f.line ++ word, used := f.used + width word }
  else if needed ≤ columns ∨ long = .kept then f.start word
  else (chop columns [] 0 (signs word)).foldl start f

end Filling

/-- The parts in which a line is broken, with all of its white space. -/
def parts (columns : Nat) (long : LongWord) (line : List Mark) : List (List Mark) :=
  match words line with
  | [] => [line]
  | ws => (ws.foldl (Filling.add columns long) {}).lines

/-- The lines that a line takes if each is to fit into some columns. -/
def wrap (columns : Nat) (long : LongWord) (line : List Mark) : List (List Mark) :=
  (parts columns long line).map (dropExcess columns)

end Wrap
end FieldFilter.Console
