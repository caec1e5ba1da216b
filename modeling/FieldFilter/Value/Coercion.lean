import FieldFilter.Calendar
import FieldFilter.Value.Basic
import FieldFilter.Text.Blank

/-!
# FieldFilter.Value.Coercion — values as texts, numbers and days

Comparison looks at values, never at a schema: `Value.written` for text tests, `Value.toNumber` for
order tests, and `LooseText.day?` for texts of the form `YYYY-MM-DD`.  An integer past the range of doubles
cannot become a number, and one with too many digits cannot become a text.
-/

namespace FieldFilter

/-- Why a value cannot be compared. -/
inductive Incomparable where
  /-- The integer was needed as a double and no double is near it. -/
  | outOfRange (integer : Int)
  /-- An integer was to be written and has too many digits. -/
  | numeralTooLong
  deriving DecidableEq, Repr

/-- A number as text: whole numbers without a point. -/
def Binary64.toText (x : Binary64) : String :=
  match x with
  | .nan => "NaN"
  | .infinity negative => if negative then "-Infinity" else "Infinity"
  | .finite .. =>
    match x.toInt? with
    | some n => toString n
    | none => Layout.literal.write x

/-- The double nearest to an integer that is in range. -/
def Binary64.ofInt (n : Int) : Except Incomparable Binary64 :=
  match Binary64.ofInt? n with
  | some x => .ok x
  | none => .error (.outOfRange n)

def Scalar.toText : Scalar → LooseText
  | .text s => s
  | .number x => x.toText
  | .date x => x.toText

namespace Value

/-- A value as text: null is empty, truth values are lower case, and whole doubles have no point, so
that `31.0` and `31` have the same text. -/
def toText : Value → LooseText
  | null => ""
  | bool b => if b then "true" else "false"
  | float x => x.toText
  | text s => s
  | scalar s => s.toText
  | v => v.literal

/-- The value as text, if it can be written. -/
def written (v : Value) : Except Incomparable LooseText :=
  if v.isWritable then .ok v.toText else .error .numeralTooLong

/-- A text as a number: blank counts as zero, and what is no numeral is not a number. -/
def textToNumber (s : String) : Binary64 :=
  let trimmed := Text.stripChars s.toList
  if trimmed.isEmpty then .zero
  else
    match Numeral.read? trimmed with
    | some n => n.toBinary64
    | none =>
      let (negative, word) := Numeral.takeSign trimmed
      if word = "Infinity".toList then .infinity negative else .nan

/-- A value as a number; what is not numeric is not a number, and so is a text with half of a pair in it. -/
def toNumber : Value → Except Incomparable Binary64
  | null => .ok .nan
  | bool b => .ok (if b then .one else .zero)
  | int n => Binary64.ofInt n
  | float x => .ok x
  | scalar (.number x) => .ok x
  | scalar (.date x) => .ok x
  | v => return ((← v.written).whole?.map textToNumber).getD .nan

/-- The year, month and day of a text in the form `YYYY-MM-DD`, in the digits of any script.  A line
end may follow.  The second part says that the text is plain: ASCII digits and no line end. -/
def dateShape? : List Char → Option (Date × Bool)
  | [y1, y2, y3, y4, '-', m1, m2, '-', d1, d2] => go [y1, y2, y3, y4] [m1, m2] [d1, d2] true
  | [y1, y2, y3, y4, '-', m1, m2, '-', d1, d2, '\n'] => go [y1, y2, y3, y4] [m1, m2] [d1, d2] false
  | _ => none
where
  /-- The three numbers, if every character is a digit. -/
  go (year month day : List Char) (plain : Bool) : Option (Date × Bool) := do
    let y ← year.mapM Text.digitValue?
    let m ← month.mapM Text.digitValue?
    let d ← day.mapM Text.digitValue?
    return (⟨Numeral.ofDigits y, Numeral.ofDigits m, Numeral.ofDigits d⟩,
      plain && (year ++ month ++ day).all Char.isDigit)

/-- The milliseconds of a text in the form of a date, not a number if no such day exists, and `none` if
the text has another form. -/
def textToDay? (s : String) : Option Binary64 :=
  (dateShape? s.toList).map fun (date, plain) =>
    if plain ∧ date.IsValid then (Binary64.ofInt? date.millis).getD .nan else .nan

end Value

/-- The day that a text names; one that does not exist is not a number. -/
def LooseText.day? (t : LooseText) : Option Binary64 := t.whole?.bind Value.textToDay?

namespace Value

/-- The day that a value names by its text alone, whatever kind the value is of. -/
def day? (v : Value) : Option Binary64 := v.toText.day?

/-- The settled form of a value: numbers become doubles, null stays missing, and all else is text. -/
def settle : Value → Except Incomparable (Option Scalar)
  | null => .ok none
  | scalar s => .ok (some s)
  | int n => return some (.number (← Binary64.ofInt n))
  | float x => .ok (some (.number x))
  | v => return some (.text (← v.written))

/-- A settled value, or null, as a value again. -/
def ofScalar? : Option Scalar → Value
  | none => null
  | some s => scalar s

end Value
end FieldFilter
