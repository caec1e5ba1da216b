import FieldFilter.Value.Coercion

/-!
# FieldFilter.Filter.Operator — the seven comparisons

`Operator.apply` compares two values.  `contains` looks for one text inside another without regard to
case, `=` and `!=` compare texts, and the order tests compare numbers and fail on what is not one.
-/

namespace FieldFilter.Text

/-- The first list occurs somewhere in the second. -/
def occursIn {α : Type} [BEq α] (needle : List α) : List α → Bool
  | [] => needle.isEmpty
  | c :: rest => needle.isPrefixOf (c :: rest) || occursIn needle rest

end FieldFilter.Text

namespace FieldFilter

/-- The first text occurs in the second when both are in lower case. -/
def LooseText.occursInAnyCase (needle hay : LooseText) : Bool :=
  Text.occursIn needle.lower.marks hay.lower.marks

/-- A comparison between a record's value and an operand. -/
inductive Operator where
  | contains
  | equal
  | notEqual
  | greater
  | atLeast
  | less
  | atMost
  deriving DecidableEq, Repr, Inhabited

namespace Operator

/-- The comparison as it is typed. -/
def word : Operator → String
  | contains => "contains"
  | equal => "="
  | notEqual => "!="
  | greater => ">"
  | atLeast => ">="
  | less => "<"
  | atMost => "<="

def all : List Operator := [contains, equal, notEqual, greater, atLeast, less, atMost]

/-- The comparison that a word names. -/
def ofWord? (w : LooseText) : Option Operator := all.find? fun op => w == op.word

/-- An order test on the numbers of two values. -/
def numeric (test : Binary64 → Binary64 → Bool) (a b : Value) : Except Incomparable Bool := do
  let x ← a.toNumber
  let y ← b.toNumber
  return test x y

/-- A test on the texts of two values. -/
def textual (test : LooseText → LooseText → Bool) (a b : Value) : Except Incomparable Bool := do
  let s ← a.written
  let t ← b.written
  return test s t

/-- Compares the left value with the right one. -/
def apply : Operator → Value → Value → Except Incomparable Bool
  | contains, a, b => textual (fun s t => t.occursInAnyCase s) a b
  | equal, a, b => textual (fun s t => s == t) a b
  | notEqual, a, b => textual (fun s t => s != t) a b
  | greater, a, b => numeric (fun x y => y.lt x) a b
  | atLeast, a, b => numeric (fun x y => y.le x) a b
  | less, a, b => numeric Binary64.lt a b
  | atMost, a, b => numeric Binary64.le a b

end Operator

/-- Compares two values by the operator that a word names; a word that names none is never satisfied. -/
def compare (operator : LooseText) (a b : Value) : Except Incomparable Bool :=
  match Operator.ofWord? operator with
  | some op => op.apply a b
  | none => .ok false

end FieldFilter
