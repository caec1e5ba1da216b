import FieldFilter.Filter.Node

/-!
# FieldFilter.Filter.Render — trees as filter expressions

`Node.render` writes a tree in the syntax of expressions: values are quoted only where they have to be,
and a group inside a group has parentheses if it has more than one member.
-/

namespace FieldFilter

namespace Render

/-- A character that a value without quotes cannot hold. -/
def isDelimiter (c : Char) : Bool :=
  Text.isBlank c || c == '(' || c == ')' || c == '"' || c == '\\'

/-- A value that can be written without quotes: not empty, no keyword, and free of delimiters. -/
def isBare (value : LooseText) : Bool :=
  !value.isEmpty && (Combinator.ofWord? value.lower).isNone && !value.marks.any (Mark.is isDelimiter)

/-- A backslash goes before every backslash and every quote. -/
def escape : List Mark → List Mark
  | [] => []
  | m :: rest => if m = '\\' ∨ m = '"' then .char '\\' :: m :: escape rest else m :: escape rest

/-- A value as it is typed in an expression. -/
def value (v : LooseText) : LooseText :=
  if isBare v then v else ⟨.char '"' :: escape v.marks ++ [.char '"']⟩

end Render

def Condition.render (c : Condition) : LooseText :=
  c.field ++ " " ++ c.operator ++ " " ++ Render.value c.value

namespace Node

/-- A group of at least two members. -/
def isCompound : Node → Bool
  | group _ (_ :: _ :: _) => true
  | _ => false

mutual

/-- The tree as an expression; where nothing is asked for it is empty. -/
def render : Node → LooseText
  | everything => ""
  | condition c => c.render
  | group combinator children => LooseText.intercalate (" " ++ combinator ++ " ") (renderMembers children)

/-- The members of a group as they stand between its combinators. -/
def renderMembers : List Node → List LooseText
  | [] => []
  | n :: rest => (if n.isCompound then "(" ++ n.render ++ ")" else n.render) :: renderMembers rest

end

end Node

end FieldFilter
