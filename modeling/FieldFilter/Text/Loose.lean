import FieldFilter.Text.Blank
import FieldFilter.Text.Case
import FieldFilter.Text.Quoted
import FieldFilter.Text.Surrogate

/-!
# FieldFilter.Text.Loose — texts in which halves of surrogate pairs may stand alone

What users type and what files hold is a `LooseText`: a list of marks, each a character or a half of a
surrogate pair.  Every text is a loose one.  Halves have no case, are no white space, and belong to no class of
characters.
-/

namespace FieldFilter

open Text (Half)

/-- What a loose text is made of. -/
inductive Mark where
  | char (c : Char)
  | half (h : Half)
  deriving DecidableEq, Repr, Inhabited

namespace Mark

instance : Coe Char Mark := ⟨char⟩

/-- The mark is a character of some class. -/
def is (p : Char → Bool) : Mark → Bool
  | char c => p c
  | half _ => false

/-- The character, if the mark is one. -/
def char? : Mark → Option Char
  | char c => some c
  | half _ => none

end Mark

/-- A text in which halves of surrogate pairs may stand between characters. -/
structure LooseText where
  marks : List Mark := []
  deriving DecidableEq, Repr, Inhabited

namespace LooseText

/-- A text as a loose one. -/
def ofString (s : String) : LooseText := ⟨s.toList.map .char⟩

instance : Coe String LooseText := ⟨ofString⟩

instance : Append LooseText := ⟨fun s t => ⟨s.marks ++ t.marks⟩⟩

/-- The texts one after the other with a text between them. -/
def intercalate (between : LooseText) (texts : List LooseText) : LooseText :=
  ⟨between.marks.intercalate (texts.map marks)⟩

def isEmpty (t : LooseText) : Bool := t.marks.isEmpty

/-- The text, if it is made of characters alone. -/
def whole? (t : LooseText) : Option String := (t.marks.mapM Mark.char?).map String.ofList

/-- The first text is the start of the second. -/
def isStartOf (s t : LooseText) : Bool := s.marks.isPrefixOf t.marks

/-- The text without white space at either end. -/
def strip (t : LooseText) : LooseText := ⟨Text.trim (Mark.is Text.isBlank) t.marks⟩

/-- The parts of the text between the places where a character stands. -/
def splitOn (c : Char) (t : LooseText) : List LooseText := (t.marks.splitOn (.char c)).map .mk

/-! ### Lower case -/

/-- The runs of characters in a list of marks: the first one, and each half with the one after it. -/
def runs : List Mark → List Char × List (Half × List Char)
  | [] => ([], [])
  | .char c :: rest =>
    let (run, more) := runs rest
    (c :: run, more)
  | .half h :: rest =>
    let (run, more) := runs rest
    ([], (h, run) :: more)

/-- The marks of some runs. -/
def ofRuns (run : List Char) (more : List (Half × List Char)) : List Mark :=
  run.map .char ++ more.flatMap fun (h, run) => .half h :: run.map .char

/-- The text in lower case.  A run ends at a half as at the end of a text. -/
def lower (t : LooseText) : LooseText :=
  let (run, more) := runs t.marks
  ⟨ofRuns (Text.lowerChars run) (more.map fun (h, run) => (h, Text.lowerChars run))⟩

/-! ### Halves made visible -/

/-- The text with the escape of each half in its place. -/
def escaped (t : LooseText) : String :=
  String.ofList (t.marks.flatMap fun
    | .char c => [c]
    | .half h => Text.codeEscape h.unit)

/-- How a mark is shown between the given quotes. -/
def quotedMark (quote : Char) : Mark → List Char
  | .char c => Text.quotedChar quote c
  | .half h => Text.codeEscape h.unit

/-- The text between quotes. -/
def quoted (t : LooseText) : String :=
  let quote := Text.quoteFor (t.marks.filterMap Mark.char?)
  String.ofList (quote :: t.marks.flatMap (quotedMark quote) ++ [quote])

/-! ### Texts without halves -/

@[simp] theorem marks_ofString (s : String) : (ofString s).marks = s.toList.map .char := rfl

@[simp] theorem marks_append (s t : LooseText) : (s ++ t).marks = s.marks ++ t.marks := rfl

theorem mapM_char? (cs : List Char) : (cs.map Mark.char).mapM Mark.char? = some cs := by
  induction cs with
  | nil => rfl
  | cons c cs ih => simp [List.mapM_cons, Mark.char?, ih]

@[simp] theorem whole?_ofString (s : String) : (ofString s).whole? = some s := by
  rw [whole?, marks_ofString, mapM_char?]
  simp

theorem runs_map_char (cs : List Char) : runs (cs.map .char) = (cs, []) := by
  induction cs with
  | nil => rfl
  | cons c cs ih => simp [runs, ih]

theorem lower_ofString (s : String) : (ofString s).lower = ofString (Text.lower s) := by
  simp [lower, runs_map_char, ofRuns, ofString, Text.lower]

/-- A text is empty in lower case only if it is empty. -/
@[simp] theorem isEmpty_lower (t : LooseText) : t.lower.isEmpty = t.isEmpty := by
  obtain ⟨marks⟩ := t
  cases marks with
  | nil => simp [lower, runs, ofRuns, isEmpty]
  | cons m rest => cases m <;> simp [lower, runs, ofRuns, isEmpty]

theorem ofRuns_runs (ms : List Mark) : ofRuns (runs ms).1 (runs ms).2 = ms := by
  induction ms with
  | nil => rfl
  | cons m rest ih => cases m <;> simpa [runs, ofRuns] using ih

end LooseText
end FieldFilter
