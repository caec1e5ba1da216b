import FieldFilter.Files.Path

/-!
# FieldFilter.Command.Starter — the configuration file to start from

The file that `init-config` writes: an example with comments, in which the paths of the schema and the rows
can be set.
-/

namespace FieldFilter.Starter

/-- The lines of the example. -/
def exampleLines : List String := [
  "# smart-search configuration",
  "#",
  "# Default location: ~/.config/smart-search/config.toml",
  "# Relative paths are resolved against the directory of this file.",
  "",
  "[paths]",
  "# TOML schema describing the filterable fields, e.g.:",
  "#",
  "#   [fields.status]",
  "#   label = \"Status\"",
  "#   type = \"enum\"          # string, number, date, boolean, enum, relation",
  "#   options = [\"active\", \"archived\", \"draft\"]",
  "schema = \"schema.toml\"",
  "",
  "# JSON array of row objects to filter",
  "data = \"rows.json\"",
  "",
  "[display]",
  "# Use colored terminal output (also disabled by --no-color or NO_COLOR)",
  "colored_output = true",
  "",
  "# Columns shown by \x60smart-search filter\x60 (empty = all columns)",
  "columns = []",
  ""]

/-- The example as text. -/
def exampleText : String := "\n".intercalate exampleLines

/-- Sets a key to a text between single quotes in the first line that sets it. -/
def setFirst (key : String) (value : LooseText) : List LooseText → List LooseText
  | [] => []
  | line :: rest =>
    if LooseText.isStartOf (key ++ " = ") line then (key ++ " = '" ++ value ++ "'") :: rest
    else line :: setFirst key value rest

/-- Sets a key of a document, if there is a value for it. -/
def setKey (key : String) (value : Option Path) (document : LooseText) : LooseText :=
  match value with
  | none => document
  | some p => LooseText.intercalate "\n" (setFirst key p.text (document.splitOn '\n'))

/-- The file with the given paths. -/
def document (schema data : Option Path) : LooseText :=
  setKey "data" data (setKey "schema" schema exampleText)

end FieldFilter.Starter
