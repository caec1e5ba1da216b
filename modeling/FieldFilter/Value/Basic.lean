import FieldFilter.DecodeFault
import FieldFilter.Number.Layout
import FieldFilter.Text.Loose

/-!
# FieldFilter.Value.Basic — the loosely typed values of records

A record maps field keys to values of any kind.  `Value.literal` shows a value inside another one and
`Value.display` shows it alone; they differ for texts only.  Both have integers with all their digits, but one with
too many of them cannot be written, and neither can what it stands in (`Value.isWritable`).
-/

namespace FieldFilter

/-- A value whose kind is settled: a text, a number, or a day in milliseconds since 1970. -/
inductive Scalar where
  | text (s : LooseText)
  | number (x : Binary64)
  | date (millis : Binary64)
  deriving DecidableEq, Repr, Inhabited

/-- A value found in a record or typed as an operand. -/
inductive Value where
  | null
  | bool (b : Bool)
  | int (n : Int)
  | float (x : Binary64)
  | text (s : LooseText)
  | list (items : List Value)
  | object (entries : List (LooseText × Value))
  | scalar (s : Scalar)
  deriving Repr, Inhabited

/-- Field keys with their values, in order. -/
abbrev Record := List (LooseText × Value)

/-- The value under a key; a key that is missing counts as null. -/
def Record.get (r : Record) (key : LooseText) : Value := (r.lookup key).getD .null

/-- A settled value as shown inside another value. -/
def Scalar.literal : Scalar → String
  | .text s => "TextValue(value=" ++ s.quoted ++ ")"
  | .number x => "NumberValue(value=" ++ Layout.literal.write x ++ ")"
  | .date x => "DateValue(millis=" ++ Layout.literal.write x ++ ")"

namespace Value

mutual

/-- The value as shown inside a list or an object: texts are quoted. -/
def literal : Value → String
  | null => "None"
  | bool b => if b then "True" else "False"
  | int n => toString n
  | float x => Layout.literal.write x
  | text s => s.quoted
  | list items => "[" ++ ", ".intercalate (literals items) ++ "]"
  | object entries => "\x7b" ++ ", ".intercalate (entryLiterals entries) ++ "\x7d"
  | scalar s => s.literal

def literals : List Value → List String
  | [] => []
  | v :: rest => v.literal :: literals rest

def entryLiterals : List (LooseText × Value) → List String
  | [] => []
  | (key, v) :: rest => (key.quoted ++ ": " ++ v.literal) :: entryLiterals rest

end

mutual

/-- No integer in the value, at whatever depth, has more digits than are written. -/
def isWritable : Value → Bool
  | int n => decide (n.natAbs < integerLimit)
  | list items => areWritable items
  | object entries => entriesAreWritable entries
  | _ => true

def areWritable : List Value → Bool
  | [] => true
  | v :: rest => v.isWritable && areWritable rest

def entriesAreWritable : List (LooseText × Value) → Bool
  | [] => true
  | (_, v) :: rest => v.isWritable && entriesAreWritable rest

end

/-- The value shown alone: a text stands for itself. -/
def display : Value → LooseText
  | text s => s
  | v => v.literal

/-- The name of the value's kind, as notices give it. -/
def kindName : Value → String
  | null => "NoneType"
  | bool _ => "bool"
  | int _ => "int"
  | float _ => "float"
  | text _ => "str"
  | list _ => "list"
  | object _ => "dict"
  | scalar (.text _) => "TextValue"
  | scalar (.number _) => "NumberValue"
  | scalar (.date _) => "DateValue"

end Value
end FieldFilter
