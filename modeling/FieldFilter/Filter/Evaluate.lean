import FieldFilter.Filter.Node
import FieldFilter.Filter.Operator

/-!
# FieldFilter.Filter.Evaluate — which records pass a filter

`Node.holds` evaluates a tree on a record from left to right and stops as soon as the answer is known;
`filterOn` keeps the rows that pass.
-/

namespace FieldFilter

/-- Tests one condition.  If the texts of both sides look like dates they are compared as days, else the sides are
compared in their settled forms. -/
def Condition.holds (r : Record) (c : Condition) : Except Incomparable Bool := do
  let raw := r.get c.field
  let text ← raw.written
  match text.day?, c.value.day? with
  | some left, some right =>
    compare c.operator (.scalar (.date left)) (.scalar (.date right))
  | _, _ =>
    let left ← raw.settle
    let right ← (Value.text c.value).settle
    compare c.operator (.ofScalar? left) (.ofScalar? right)

namespace Node

mutual

/-- Evaluates a tree: `and` needs every child, `or` some child, and a group with any other combinator is
never satisfied. -/
def holds (r : Record) : Node → Except Incomparable Bool
  | everything => .ok true
  | condition c => c.holds r
  | group combinator children =>
    match Combinator.ofWord? combinator with
    | some .and => allHold r children
    | some .or => someHolds r children
    | none => .ok false

def allHold (r : Record) : List Node → Except Incomparable Bool
  | [] => .ok true
  | n :: rest => do
    if ← n.holds r then allHold r rest else return false

def someHolds (r : Record) : List Node → Except Incomparable Bool
  | [] => .ok false
  | n :: rest => do
    if ← n.holds r then return true else someHolds r rest

end

end Node

/-- The rows whose records pass, in their order. -/
def filterOn {α : Type} (record : α → Record) (filter : Node) :
    List α → Except Incomparable (List α)
  | [] => .ok []
  | row :: rest => do
    let keep ← filter.holds (record row)
    let kept ← filterOn record filter rest
    return if keep then row :: kept else kept

end FieldFilter
