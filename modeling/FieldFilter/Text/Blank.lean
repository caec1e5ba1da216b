import FieldFilter.Text.CodeRange

/-!
# FieldFilter.Text.Blank — white space

`isBlank` is white space in the wide sense: ASCII blanks and separators, the no-break space and the
typographic spaces.  `stripChars` removes it from both ends of a text.
-/

namespace FieldFilter.Text

/-- White space: tabs, line and page breaks, the four information separators, and every space. -/
def blankRanges : List (Nat × Nat) := [
    (9, 13), (28, 32), (133, 133), (160, 160), (5760, 5760), (8192, 8202),
    (8232, 8233), (8239, 8239), (8287, 8287), (12288, 12288)]

/-- White space in the wide sense. -/
def isBlank (c : Char) : Bool := within blankRanges c

/-- A list without the members of some kind at either end. -/
def trim {α : Type} (p : α → Bool) (l : List α) : List α := ((l.dropWhile p).reverse.dropWhile p).reverse

/-- The characters without white space at either end. -/
def stripChars (s : List Char) : List Char := trim isBlank s

end FieldFilter.Text
