import FieldFilter.Fault
import FieldFilter.Filter.Node
import FieldFilter.Filter.Token

/-!
# FieldFilter.Filter.Expression — filter expressions as trees

An expression is read token by token into a `Reading`, which holds the chains of the open parentheses,
the chain under way, and what the next token has to supply.  `and` binds tighter than `or`; a chain of
several members is one group and a chain of one is that member.  `Expression.parse` reads a text and
reports the place where it stops making sense.
-/

namespace FieldFilter

/-- The filter that a chain of members stands for: one member is itself, several are a group. -/
def Combinator.join (combinator : Combinator) : List Node → Node
  | [n] => n
  | members => .group combinator.word members

/-- An expression under way: the finished members of its `or` chain, and the members so far of the `and`
chain that comes next. -/
structure Chain where
  alternatives : List Node := []
  conjuncts : List Node := []
  deriving Repr, Inhabited

/-- The filter that a finished chain stands for. -/
def Chain.node (c : Chain) : Node :=
  Combinator.or.join (c.alternatives ++ [Combinator.and.join c.conjuncts])

/-- What the next token has to supply, with the parts of the condition read so far. -/
inductive Pending where
  | operand
  | operator (field : LooseText)
  | value (field operator : LooseText)
  | joint
  deriving DecidableEq, Repr, Inhabited

/-- An expression read up to some token. -/
structure Reading where
  /-- The chains that wait outside the open parentheses, innermost first. -/
  outer : List Chain := []
  chain : Chain := {}
  pending : Pending := .operand
  deriving Repr, Inhabited

namespace Reading

/-- Puts a finished operand at the end of the `and` chain under way. -/
def supply (r : Reading) (n : Node) : Reading :=
  { r with chain := { r.chain with conjuncts := r.chain.conjuncts ++ [n] }, pending := .joint }

/-- Takes one more token, unless it cannot stand there. -/
def step (r : Reading) (t : Token) : Option Reading :=
  match r.pending, t with
  | .operand, .opening => some { outer := r.chain :: r.outer }
  | .operand, .field name => some { r with pending := .operator name }
  | .operator name, .operator word => some { r with pending := .value name word }
  | .value name word, .value text => some (r.supply (.condition ⟨name, word, text⟩))
  | .joint, .and => some { r with pending := .operand }
  | .joint, .or =>
    let member := Combinator.and.join r.chain.conjuncts
    some { r with
      chain := { alternatives := r.chain.alternatives ++ [member] }, pending := .operand }
  | .joint, .closing =>
    match r.outer with
    | [] => none
    | chain :: outer => some ({ outer, chain : Reading }.supply r.chain.node)
  | _, _ => none

/-- Takes tokens until one cannot stand where it is; then the number of marks left there. -/
def steps (r : Reading) : List (Nat × Token) → Except Nat Reading
  | [] => .ok r
  | (left, t) :: rest =>
    match r.step t with
    | some r => r.steps rest
    | none => .error left

/-- The filter read, if the expression may end here. -/
def finish? (r : Reading) : Option Node :=
  match r.outer, r.pending with
  | [], .joint => some r.chain.node
  | _, _ => none

end Reading

namespace Expression

/-- Reads the marks of an expression as a tree. -/
def read (s : List Mark) : Except Stop Node :=
  let (tokens, stuck) := Token.scan .operand s
  match ({} : Reading).steps tokens with
  | .error left => .error (.offset (s.length - left))
  | .ok reading =>
    match stuck, reading.finish? with
    | some left, _ => .error (.offset (s.length - left))
    | none, some n => .ok n
    | none, none => .error .textEnd

/-- A lone condition becomes a group of its own. -/
def rooted : Node → Node
  | .condition c => .group Combinator.and.word [.condition c]
  | n => n

/-- Reads an expression.  A blank text asks for nothing; otherwise the result is a group. -/
def parse (text : LooseText) : Except Fault Node :=
  let trimmed := text.strip
  if trimmed.isEmpty then .ok .everything
  else
    match read trimmed.marks with
    | .ok n => .ok (rooted n)
    | .error stop => .error (.unreadable trimmed stop)

end Expression
end FieldFilter
