import FieldFilter.Toml.Branch
import FieldFilter.Toml.Lexeme

/-!
# FieldFilter.Toml.Statement — the statements of a TOML document

A document is a list of statements: headers of tables and of array items, and assignments of data to keys.
`Statement.read` splits a text into them; what they mean together is not looked at here.  An inline table
is put together while it is read, so that the first fault in it is the one that counts.  An array is two steps
of nesting and an inline table three.
-/

namespace FieldFilter.Toml

/-- A statement of a document. -/
inductive Statement where
  | header (key : List String)
  | arrayHeader (key : List String)
  | assignment (key : List String) (value : Datum)
  deriving Repr, Inhabited

namespace Statement

/-- Skips a comment up to the end of its line. -/
def skipComment (s : List Char) : Except DecodeFault (List Char) :=
  match s with
  | '#' :: rest =>
    if (rest.takeWhile (· != '\n')).any isControl then .error .malformed
    else .ok (rest.dropWhile (· != '\n'))
  | _ => .ok s

/-- Skips white space, line breaks and comments between the items of an array. -/
def skipBetween : Nat → List Char → Except DecodeFault (List Char)
  | 0, s => .ok s
  | fuel + 1, s =>
    match s.dropWhile isSpaceOrBreak with
    | '#' :: rest => do skipBetween fuel (← skipComment ('#' :: rest))
    | rest => .ok rest

/-- The value at the front that holds no other values. -/
def plain (s : List Char) : Except DecodeFault (Part Datum) := do
  let text (r : Except DecodeFault (Part String)) : Except DecodeFault (Part Datum) := do
    let (t, rest) ← r
    return (.text t, rest)
  match s with
  | '"' :: '"' :: '"' :: rest => text (ofChars? (basic? true .off (dropBreak rest)))
  | '"' :: rest => text (ofChars? (basic? false .off rest))
  | '\'' :: '\'' :: '\'' :: rest => text (ofChars? (literalLines? (dropBreak rest)))
  | '\'' :: rest => text (ofChars? (literal? rest))
  | 't' :: 'r' :: 'u' :: 'e' :: rest => return (.boolean true, rest)
  | 'f' :: 'a' :: 'l' :: 's' :: 'e' :: rest => return (.boolean false, rest)
  | _ => scalar s

/-- The steps of nesting that an array takes. -/
def arraySteps : Nat := 2

/-- The steps of nesting that an inline table takes. -/
def tableSteps : Nat := 3

mutual

/-- The value at the front, if so many steps of nesting are left.  Each step of reading takes a character or
opens a bracket, so twice the length of the text is fuel enough. -/
def value (steps : Nat) : Nat → List Char → Except DecodeFault (Part Datum)
  | 0, _ => .error .malformed
  | fuel + 1, s =>
    match s with
    | '[' :: rest => do
      if steps < arraySteps then throw .tooDeep
      match ← skipBetween rest.length rest with
      | ']' :: rest => return (.array [], rest)
      | rest =>
        let (items, rest) ← items (steps - arraySteps) fuel rest
        return (.array items, rest)
    | '\x7b' :: rest => do
      if steps < tableSteps then throw .tooDeep
      match skipSpace rest with
      | '\x7d' :: rest => return (.table [], rest)
      | rest =>
        let (entries, rest) ← assignments (steps - tableSteps) fuel [] rest
        return (.table (Branch.finishEntries entries), rest)
    | _ => plain s

/-- The items of an array up to its closing bracket; a comma may come before it. -/
def items (steps : Nat) : Nat → List Char → Except DecodeFault (Part (List Datum))
  | 0, _ => .error .malformed
  | fuel + 1, s => do
    let (v, rest) ← value steps fuel s
    match ← skipBetween rest.length rest with
    | ']' :: rest => return ([v], rest)
    | ',' :: rest =>
      match ← skipBetween rest.length rest with
      | ']' :: rest => return ([v], rest)
      | rest =>
        let (vs, rest) ← items steps fuel rest
        return (v :: vs, rest)
    | _ => throw .malformed

/-- The assignments of an inline table up to its closing bracket, put to the entries made so far.  Keys with
points make tables of their own. -/
def assignments (steps : Nat) : Nat → List (String × Branch) → List Char →
    Except DecodeFault (Part (List (String × Branch)))
  | 0, _, _ => .error .malformed
  | fuel + 1, entries, s => do
    let (k, rest) ← key s
    match rest with
    | '=' :: rest =>
      let (v, rest) ← value steps fuel (skipSpace rest)
      let entries ← Branch.assign 0 v k entries
      match skipSpace rest with
      | '\x7d' :: rest => return (entries, rest)
      | ',' :: rest => assignments steps fuel entries (skipSpace rest)
      | _ => throw .malformed
    | _ => throw .malformed

end

/-- The statement at the front. -/
def next (s : List Char) : Except DecodeFault (Part Statement) :=
  match s with
  | '[' :: '[' :: rest => do
    let (k, rest) ← key (skipSpace rest)
    match rest with
    | ']' :: ']' :: rest => return (.arrayHeader k, rest)
    | _ => throw .malformed
  | '[' :: rest => do
    let (k, rest) ← key (skipSpace rest)
    match rest with
    | ']' :: rest => return (.header k, rest)
    | _ => throw .malformed
  | _ => do
    let (k, rest) ← key s
    match rest with
    | '=' :: rest =>
      let (v, rest) ← value maxNesting (2 * rest.length + 2) (skipSpace rest)
      return (.assignment k v, rest)
    | _ => throw .malformed

/-- Skips spaces and a comment up to the end of the line, where a statement has to end. -/
def endLine (s : List Char) : Except DecodeFault (List Char) := do
  match ← skipComment (skipSpace s) with
  | [] => return []
  | '\n' :: rest => return rest
  | _ => throw .malformed

/-- The statements of a text, as far as it can be read, and what stops it from being read further. -/
def readFrom : Nat → List Char → List Statement × Option DecodeFault
  | 0, _ => ([], none)
  | fuel + 1, s =>
    match skipSpace s with
    | [] => ([], none)
    | '\n' :: rest => readFrom fuel rest
    | '#' :: rest =>
      match endLine ('#' :: rest) with
      | .ok rest => readFrom fuel rest
      | .error e => ([], some e)
    | s =>
      match next s with
      | .error e => ([], some e)
      | .ok (statement, rest) =>
        match endLine rest with
        | .error e => ([statement], some e)
        | .ok rest =>
          let (statements, fault) := readFrom fuel rest
          (statement :: statements, fault)

/-- Carriage returns before line feeds are left out. -/
def unifyBreaks : List Char → List Char
  | [] => []
  | '\r' :: '\n' :: rest => '\n' :: unifyBreaks rest
  | c :: rest => c :: unifyBreaks rest

/-- The statements of a document and what stops it from being read to its end. -/
def read (text : String) : List Statement × Option DecodeFault :=
  let s := unifyBreaks text.toList
  readFrom (s.length + 1) s

end Statement
end FieldFilter.Toml
