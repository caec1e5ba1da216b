import FieldFilter.Console.Message
import FieldFilter.Console.Wrap

/-!
# FieldFilter.Console.Line — lines as a terminal shows them

The tabs of a printed text reach to the next multiple of eight columns, and its lines are no longer than the
screen.  `fit` and `adjusted` make a line as wide as the place it has, and `print` prints a message.  Text that
is echoed only loses control sequences.
-/

namespace FieldFilter.Console.Line

/-- The distance between tab stops. -/
def tabStop : Nat := 8

/-- The parts of a line between its tabs from some column on, with blanks in the place of the tabs. -/
def joinAtTabs (column : Nat) : List (List Mark) → List Mark
  | [] => []
  | [part] => part
  | part :: rest =>
    let part := part ++ Text.blanks 1
    let column := column + Text.width part
    let missing := (tabStop - column % tabStop) % tabStop
    part ++ Text.blanks missing ++ joinAtTabs (column + missing) rest

/-- A line with blanks in the place of its tabs. -/
def expandTabs (line : List Mark) : List Mark := joinAtTabs 0 (line.splitOn (.char '\t'))

/-- The columns of the screen. -/
def screenColumns : Nat := 10000

/-- A line made to take some columns: padded if it is short, and cut with a final ellipsis if it is long. -/
def fit (columns : Nat) (line : List Mark) : List Mark :=
  if Text.width line ≤ columns then Text.padded columns line
  else Text.fitted (columns - 1) line ++ [.char '…']

/-! ### Pieces

A line is printed in pieces.  Each takes columns for itself, and so pieces may take more columns than the line
that they make up. -/

/-- The pieces of a line, in order. -/
abbrev Pieces := List (List Mark)

/-- A text was to be cut past its last sign.  That happens where a joiner begins the text and counts
otherwise among the columns of the text than among those of its signs. -/
structure Uncut where
  /-- The columns that the signs take. -/
  signs : Nat
  deriving DecidableEq, Repr

/-- A text cut to take some columns. -/
def clipped (columns : Nat) (text : List Mark) : Except Uncut (List Mark) :=
  let signs := Text.signsWidth (Text.signs text)
  if 0 < columns ∧ columns < Text.width text ∧ signs < columns then .error ⟨signs⟩
  else .ok (Text.fitted columns text)

/-- The pieces of a line up to some column. -/
def cut (columns : Nat) : Pieces → Except Uncut Pieces
  | [] => .ok []
  | piece :: rest => do
    if Text.width piece < columns then return piece :: (← cut (columns - Text.width piece) rest)
    else return [← clipped columns piece]

/-- The columns of pieces that take columns each for itself. -/
def piecesWidth (pieces : Pieces) : Nat := (pieces.map Text.width).foldl (· + ·) 0

/-- The pieces of a line cut or padded to take some columns together. -/
def adjusted (columns : Nat) (pieces : Pieces) : Except Uncut Pieces :=
  if piecesWidth pieces ≤ columns then
    .ok (pieces ++ [Text.blanks (columns - piecesWidth pieces)])
  else cut columns pieces

/-- The pieces of a line as far as the screen shows them. -/
def cropped (pieces : Pieces) : Except Uncut Pieces :=
  if piecesWidth pieces ≤ screenColumns then .ok pieces else cut screenColumns pieces

/-- The pieces of a part of a text that starts at some place: one ends at each edge in the part.  The edges
are in rising order. -/
def piecesFrom (start : Nat) : List Nat → List Mark → Pieces
  | [], part => [part]
  | edge :: edges, part =>
    part.take (edge - start) :: piecesFrom (max start edge) edges (part.drop (edge - start))

/-! ### Printing -/

/-- What has been printed, and what stopped it if it was stopped. -/
structure Printout where
  text : LooseText := {}
  fault : Option Uncut := none
  deriving DecidableEq, Repr

namespace Printout

/-- Puts a line in front of what is printed after it. -/
def prepend (line : Pieces) (after : Printout) : Printout :=
  { after with text := ⟨line.flatten ++ .char '\n' :: after.text.marks⟩ }

/-- Prints lines one after the other. -/
def addLines : List Pieces → Printout
  | [] => {}
  | line :: rest =>
    match cropped line with
    | .ok pieces => prepend pieces (addLines rest)
    | .error e => { fault := some e }

/-- Prints lines, if there are any to be printed. -/
def ofLines : Except Uncut (List Pieces) → Printout
  | .ok lines => addLines lines
  | .error e => { fault := some e }

end Printout

/-- The lines that parts of a text make, of which the first starts at some place, in pieces between edges. -/
def foldParts (edges : List Nat) (start : Nat) : List (List Mark) → Except Uncut (List Pieces)
  | [] => .ok []
  | part :: rest => do
    let line := Wrap.dropExcess screenColumns part
    let shown ← if Text.width line ≤ screenColumns then pure line else clipped screenColumns line
    return piecesFrom start edges shown :: (← foldParts edges (start + part.length) rest)

/-- The places after the tabs of a line. -/
def tabEnds (line : List Mark) : List Nat :=
  line.zipIdx.filterMap fun (m, i) => if m = '\t' then some (i + 1) else none

/-- The places of a line where one piece ends and the next one begins, in rising order: where a span starts or
stops, and after a tab that a span goes across. -/
def edges (spans : List Span) (line : List Mark) : List Nat :=
  let tabs := (tabEnds line).filter fun place => spans.any (Span.crosses place)
  (spans.flatMap (fun s => [s.start, s.stop]) ++ tabs).mergeSort

/-- A line with spans as it is printed: in more than one line if it is longer than the screen. -/
def folded (spans : List Span) (line : List Mark) : Except Uncut (List Pieces) :=
  foldParts ((edges spans line).map fun edge => (expandTabs (line.take edge)).length) 0
    (Wrap.parts screenColumns .folded (expandTabs line))

/-- Lines as they are printed, of which the first starts at some place of a text with spans. -/
def foldLines (spans : List Span) (start : Nat) : List (List Mark) → Except Uncut (List Pieces)
  | [] => .ok []
  | line :: rest => do
    let inside := (spans.map (Span.within start line.length)).filter fun s => !s.isEmpty
    return (← folded inside line) ++ (← foldLines spans (start + line.length + 1) rest)

/-- The most columns that a line can take in any pieces. -/
def mostColumns (line : List Mark) : Nat :=
  (line.map Text.markWidth).foldl (· + ·) (line.countP Text.isEmojiSelector)

/-- The columns of a line do not depend on its pieces, unless it holds a joiner or a selector, or do not matter
since the screen has room for it in any pieces. -/
def isSteady (line : List Mark) : Bool :=
  !(line.any fun m => Text.isJoiner m || Text.isEmojiSelector m) ||
    mostColumns (expandTabs line) ≤ screenColumns

/-- Prints a message and a line break.  Besides the spans of the message there are those of whatever else is
found to stand out in its text. -/
def print (found : List Mark → List Span) (m : Message) : Printout :=
  let lines := m.text.splitOn (.char '\n')
  Printout.ofLines (foldLines (if lines.all isSteady then [] else m.spans ++ found m.text) 0 lines)

/-! ### Echoed text -/

/-- A character with a code from one number to another. -/
def isBetween (first last : Nat) (m : Mark) : Bool := m.is fun c => first ≤ c.toNat && c.toNat ≤ last

/-- The text after the control sequence at its front, if there is one: an escape character, an opening
bracket, parameters, intermediate characters and a final one. -/
def afterSequence? : List Mark → Option (List Mark)
  | .char '\x1b' :: .char '[' :: rest =>
    match (rest.dropWhile (isBetween 0x30 0x3f)).dropWhile (isBetween 0x20 0x2f) with
    | [] => none
    | final :: rest => if isBetween 0x40 0x7e final then some rest else none
  | _ => none

theorem afterSequence?_length {s rest : List Mark} (h : afterSequence? s = some rest) :
    rest.length < s.length := by
  unfold afterSequence? at h
  split at h
  · next after =>
    have h1 := (List.dropWhile_suffix (l := after) (isBetween 0x30 0x3f)).length_le
    have h2 := (List.dropWhile_suffix (l := after.dropWhile (isBetween 0x30 0x3f))
      (isBetween 0x20 0x2f)).length_le
    split at h
    · simp at h
    · next final left e =>
      rw [e, List.length_cons] at h2
      split at h
      · simp only [Option.some.injEq] at h
        subst h
        simp only [List.length_cons]
        omega
      · simp at h
  · simp at h

/-- The text without control sequences. -/
def echoed (s : List Mark) : List Mark :=
  match h : afterSequence? s with
  | some rest =>
    have := afterSequence?_length h
    echoed rest
  | none =>
    match s with
    | [] => []
    | m :: rest => m :: echoed rest
termination_by s.length

/-- A text and a line break, as echoed. -/
def echo (text : LooseText) : LooseText := ⟨echoed text.marks⟩ ++ "\n"

end FieldFilter.Console.Line
