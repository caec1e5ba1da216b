import FieldFilter.Value.Basic

/-!
# FieldFilter.Json.Writer — values as JSON texts

`Json.indented` writes one item a line, two spaces deeper than its bracket, and `Json.inlineTexts` writes
texts on one line.  Everything outside printable ASCII is escaped by 16-bit units.
-/

namespace FieldFilter.Json

/-- A `u` escape of one 16-bit unit. -/
def unitEscape (n : Nat) : List Char := '\\' :: 'u' :: Text.hexDigits 4 n

/-- One character as it stands inside a string. -/
def escapeChar (c : Char) : List Char :=
  if c = '"' ∨ c = '\\' then ['\\', c]
  else if c = '\n' then ['\\', 'n']
  else if c = '\r' then ['\\', 'r']
  else if c = '\t' then ['\\', 't']
  else if c = '\x0c' then ['\\', 'f']
  else if c = '\x08' then ['\\', 'b']
  else if 32 ≤ c.toNat ∧ c.toNat < 127 then [c]
  else if c.toNat < 0x10000 then unitEscape c.toNat
  else
    let offset := c.toNat - 0x10000
    unitEscape (0xD800 + offset / 0x400) ++ unitEscape (0xDC00 + offset % 0x400)

/-- One mark as it stands inside a string. -/
def escapeMark : Mark → List Char
  | .char c => escapeChar c
  | .half h => unitEscape h.unit

/-- A string between quotes. -/
def quote (t : LooseText) : String := String.ofList ('"' :: t.marks.flatMap escapeMark ++ ['"'])

/-- A value that holds no others. -/
def atom : Value → String
  | .null => "null"
  | .bool b => if b then "true" else "false"
  | .int n => toString n
  | .float x => Layout.json.write x
  | .text s => quote s
  | v => quote v.literal

/-- The start of a line at a depth. -/
def newLine (depth : Nat) : String := "\n" ++ String.ofList (List.replicate (2 * depth) ' ')

/-- Members between brackets, one a line, a step deeper than the closing bracket. -/
def block (opening closing : String) (depth : Nat) : List String → String
  | [] => opening ++ closing
  | members =>
    opening ++ newLine (depth + 1) ++ ("," ++ newLine (depth + 1)).intercalate members ++
      newLine depth ++ closing

mutual

/-- The value with one item a line, for a place at the given depth. -/
def indented (depth : Nat) : Value → String
  | .list items => block "[" "]" depth (indentedItems (depth + 1) items)
  | .object entries => block "\x7b" "\x7d" depth (indentedEntries (depth + 1) entries)
  | v => atom v

def indentedItems (depth : Nat) : List Value → List String
  | [] => []
  | v :: rest => indented depth v :: indentedItems depth rest

def indentedEntries (depth : Nat) : List (LooseText × Value) → List String
  | [] => []
  | (key, v) :: rest => (quote key ++ ": " ++ indented depth v) :: indentedEntries depth rest

end

/-- Texts as an array on one line. -/
def inlineTexts (texts : List LooseText) : String := "[" ++ ", ".intercalate (texts.map quote) ++ "]"

end FieldFilter.Json
