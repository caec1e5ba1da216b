import FieldFilter.Text.Loose

/-!
# FieldFilter.Filter.Node — filter trees

A filter is a tree of conditions joined by combinators, and `Node.everything` is the filter that asks for
nothing.  The words for operators and combinators are kept as they were given; evaluation and validation
give them a meaning.
-/

namespace FieldFilter

/-- One test: a field, an operator and the operand as typed. -/
structure Condition where
  field : LooseText
  operator : LooseText
  value : LooseText
  deriving DecidableEq, Repr, Inhabited

/-- A filter tree. -/
inductive Node where
  /-- No filter: every record passes. -/
  | everything
  | condition (c : Condition)
  | group (combinator : LooseText) (children : List Node)
  deriving Repr, Inhabited, BEq

/-- The two ways to join filters. -/
inductive Combinator where
  | and
  | or
  deriving DecidableEq, Repr

namespace Combinator

def word : Combinator → String
  | and => "and"
  | or => "or"

/-- The combinator that a word names. -/
def ofWord? (w : LooseText) : Option Combinator :=
  if w = "and" then some and else if w = "or" then some or else none

end Combinator

namespace Node

mutual

/-- The number of conditions in a tree. -/
def countConditions : Node → Nat
  | everything => 0
  | condition _ => 1
  | group _ children => countAll children

def countAll : List Node → Nat
  | [] => 0
  | n :: rest => n.countConditions + countAll rest

end

end Node
end FieldFilter
