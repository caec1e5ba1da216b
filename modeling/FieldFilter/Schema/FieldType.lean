import FieldFilter.Filter.Operator

/-!
# FieldFilter.Schema.FieldType — kinds of fields

A field's type fixes which operators it takes, whether its values are picked from a list, and the hint
shown where one is typed.
-/

namespace FieldFilter

/-- The primitive type of a field. -/
inductive FieldType where
  | string
  | number
  | date
  | boolean
  | enum
  | relation
  deriving DecidableEq, Repr, Inhabited

namespace FieldType

def all : List FieldType := [string, number, date, boolean, enum, relation]

def word : FieldType → String
  | string => "string"
  | number => "number"
  | date => "date"
  | boolean => "boolean"
  | enum => "enum"
  | relation => "relation"

/-- The type that a word names. -/
def ofWord? (w : LooseText) : Option FieldType := all.find? fun t => w == t.word

/-- The operators that fields of the type take, in the order shown. -/
def operators : FieldType → List Operator
  | string => [.contains, .equal, .notEqual]
  | number | date => [.equal, .notEqual, .greater, .atLeast, .less, .atMost]
  | boolean | enum | relation => [.equal, .notEqual]

def operatorWords (t : FieldType) : List LooseText := t.operators.map fun op => op.word

/-- The operators whose words start with the given text. -/
def suggestOperators (t : FieldType) (text : LooseText) : List LooseText :=
  t.operatorWords.filter text.isStartOf

/-- The hint shown where a value is to be typed. -/
def placeholder : FieldType → String
  | number => "123"
  | date => "YYYY-MM-DD"
  | _ => "value"

/-- Values of the type are picked from a list rather than typed freely. -/
def hasChoices : FieldType → Bool
  | boolean | enum | relation => true
  | _ => false

end FieldType
end FieldFilter
