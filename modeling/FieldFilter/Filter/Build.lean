import FieldFilter.Filter.Expression
import FieldFilter.Schema.Registry

/-!
# FieldFilter.Filter.Build — building and checking trees

Conditions are built against a registry, groups are edited by value, and `Registry.validate` checks a tree
made elsewhere, reporting its first fault in reading order.  `Registry.parse` reads an expression and
resolves its field names.
-/

namespace FieldFilter

/-- A condition on a registered field with an operator that suits its type.  The value is taken as typed. -/
def Registry.condition (r : Registry) (field operator value : LooseText) : Except Fault Condition := do
  let f ← r.get field
  if operator ∈ f.type.operatorWords then return ⟨field, operator, value⟩
  else throw (.invalidOperator field operator f.type.operators)

namespace Node

/-- A group with the combinator that a word names. -/
def ofCombinator (combinator : LooseText) (children : List Node) : Except Fault Node :=
  match Combinator.ofWord? combinator with
  | some _ => .ok (.group combinator children)
  | none => .error (.invalidCombinator combinator)

def allOf (children : List Node) : Node := .group Combinator.and.word children

def anyOf (children : List Node) : Node := .group Combinator.or.word children

/-- Filters side by side as one `and` group; none ask for nothing. -/
def ofChips : List Node → Node
  | [] => .everything
  | chips => allOf chips

/-- The group with one more member at its end. -/
def append (target n : Node) : Node :=
  match target with
  | .everything => allOf [n]
  | .group combinator children => .group combinator (children ++ [n])
  | .condition c => allOf [.condition c, n]

/-- The position of a member of a list of the given size, if the index is one. -/
def position? (index : Int) (size : Nat) : Option Nat :=
  if 0 ≤ index ∧ index < size then some index.toNat else none

/-- The group without the member at an index. -/
def remove (target : Node) (index : Int) : Except Fault Node :=
  match target with
  | .group combinator children =>
    match position? index children.length with
    | some i => .ok (.group combinator (children.eraseIdx i))
    | none => .error (.indexOutOfRange index children.length)
  | .everything | .condition _ => .error (.indexOutOfRange index 0)

end Node

namespace Registry

mutual

/-- Checks every combinator, field and operator of a tree, each group before its members. -/
def validate (r : Registry) : Node → Except Fault Unit
  | .everything => .ok ()
  | .condition c => (r.condition c.field c.operator c.value).map fun _ => ()
  | .group combinator children =>
    match Combinator.ofWord? combinator with
    | some _ => validateAll r children
    | none => .error (.invalidCombinator combinator)

def validateAll (r : Registry) : List Node → Except Fault Unit
  | [] => .ok ()
  | n :: rest => do
    validate r n
    validateAll r rest

end

/-- The condition with its field given by key, where the registry knows the name. -/
def resolveCondition (r : Registry) (c : Condition) : Condition :=
  { c with field := (r.find c.field).getD c.field }

mutual

/-- The tree with its fields given by key, where the registry knows their names. -/
def resolve (r : Registry) : Node → Node
  | .everything => .everything
  | .condition c => .condition (r.resolveCondition c)
  | .group combinator children => .group combinator (resolveAll r children)

def resolveAll (r : Registry) : List Node → List Node
  | [] => []
  | n :: rest => resolve r n :: resolveAll r rest

end

/-- Reads an expression against a registry: field names are resolved to keys, and then the tree is checked. -/
def parse (r : Registry) (text : LooseText) : Except Fault Node := do
  let n := r.resolve (← Expression.parse text)
  r.validate n
  return n

end Registry
end FieldFilter
