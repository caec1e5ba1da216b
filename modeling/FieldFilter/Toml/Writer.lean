import FieldFilter.Text.Loose
import FieldFilter.Toml.Datum

/-!
# FieldFilter.Toml.Writer — documents of plain sections

A written document is a list of sections, each a header and its assignments, with a blank line between
sections.  Arrays of texts have one item a line.
-/

namespace FieldFilter.Toml

/-- What is assigned to a key of a written section. -/
inductive Setting where
  | flag (b : Bool)
  | text (t : LooseText)
  | texts (items : List LooseText)
  deriving DecidableEq, Repr

/-- One character as it stands inside a string.  The tab stands for itself. -/
def escapeChar (c : Char) : List Char :=
  if c = '"' ∨ c = '\\' then ['\\', c]
  else if c = '\n' then ['\\', 'n']
  else if c = '\r' then ['\\', 'r']
  else if c = '\x0c' then ['\\', 'f']
  else if c = '\x08' then ['\\', 'b']
  else if (c.toNat < 32 ∧ c ≠ '\t') ∨ c.toNat = 127 then '\\' :: 'u' :: Text.hexDigits 4 c.toNat
  else [c]

/-- One mark as it stands inside a string. -/
def escapeMark : Mark → List Mark
  | .char c => (escapeChar c).map .char
  | .half h => [.half h]

/-- A text between double quotes. -/
def quote (t : LooseText) : LooseText := "\"" ++ ⟨t.marks.flatMap escapeMark⟩ ++ "\""

def Setting.write : Setting → LooseText
  | flag b => if b then "true" else "false"
  | text t => quote t
  | texts items => "[\n" ++ LooseText.intercalate "" (items.map fun t => "    " ++ quote t ++ ",\n") ++ "]"

/-- A section: its header and its assignments. -/
def writeSection (header : String) (settings : List (String × Setting)) : LooseText :=
  "[" ++ header ++ "]\n" ++
    LooseText.intercalate "" (settings.map fun (key, s) => key ++ " = " ++ s.write ++ "\n")

/-- A document of several sections. -/
def writeSections (sections : List (String × List (String × Setting))) : LooseText :=
  LooseText.intercalate "\n" (sections.map fun (header, settings) => writeSection header settings)

end FieldFilter.Toml
