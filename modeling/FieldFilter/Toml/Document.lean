import FieldFilter.Toml.Statement

/-!
# FieldFilter.Toml.Document — statements as one table

A `Draft` takes the statements of a document one by one; `Document.read` reads a whole document.
-/

namespace FieldFilter.Toml

namespace Document

/-- A document under way: its parts, the header in force, and the number of headers so far. -/
structure Draft where
  entries : List (String × Branch) := []
  header : List String := []
  sectionNumber : Nat := 0

/-- Takes one more statement. -/
def Draft.take (d : Draft) : Statement → Except DecodeFault Draft
  | .header key => do
    let entries ← Branch.within (Branch.declareTable (key.getLastD "")) key.dropLast d.entries
    return ⟨entries, key, d.sectionNumber + 1⟩
  | .arrayHeader key => do
    let entries ← Branch.within (Branch.declareItem (key.getLastD "")) key.dropLast d.entries
    return ⟨entries, key, d.sectionNumber + 1⟩
  | .assignment key datum => do
    let entries ← Branch.within (Branch.assign d.sectionNumber datum key) d.header d.entries
    return { d with entries }

/-- The table that statements make together. -/
def ofStatements (statements : List Statement) : Except DecodeFault Table := do
  let draft ← statements.foldlM Draft.take {}
  return Branch.finishEntries draft.entries

/-- Reads a document. -/
def read (text : String) : Except DecodeFault Table := do
  let (statements, fault) := Statement.read text
  let table ← ofStatements statements
  match fault with
  | none => return table
  | some e => throw e

/-- Reads a document from its bytes. -/
def decode (bytes : ByteArray) : Except DecodeFault Table := do
  read (← decodeText bytes)

end Document
end FieldFilter.Toml
