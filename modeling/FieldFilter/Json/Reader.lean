import FieldFilter.DecodeFault
import FieldFilter.Value.Basic

/-!
# FieldFilter.Json.Reader — JSON texts as values

`Json.read` reads a JSON text as a value.  Numbers without fraction and exponent are integers of any size,
all others doubles; `NaN`, `Infinity` and `-Infinity` are numbers too.  A key that comes again keeps its
first place and takes its last value.  Escapes may name a half of a surrogate pair alone.  Each bracket is a
step of nesting.
-/

namespace FieldFilter.Json

/-- What has been read, and the rest of the text. -/
abbrev Part (α : Type) := α × List Char

def isSpace (c : Char) : Bool := c == ' ' || c == '\t' || c == '\n' || c == '\r'

def skipSpace (s : List Char) : List Char := s.dropWhile isSpace

/-- Puts a value under a key: in the place of the one there, else at the end. -/
def putEntry (key : LooseText) (v : Value) : List (LooseText × Value) → List (LooseText × Value)
  | [] => [(key, v)]
  | (k, w) :: rest => if k = key then (k, v) :: rest else (k, w) :: putEntry key v rest

/-- What a one-letter escape stands for. -/
def escaped? : Char → Option Char
  | '"' => some '"'
  | '\\' => some '\\'
  | '/' => some '/'
  | 'b' => some '\x08'
  | 'f' => some '\x0c'
  | 'n' => some '\n'
  | 'r' => some '\r'
  | 't' => some '\t'
  | _ => none

/-- Puts a mark in front of those that were read. -/
def prepend (m : Mark) (r : Option (Part (List Mark))) : Option (Part (List Mark)) :=
  r.map fun (marks, left) => (m :: marks, left)

/-- What stands up to the closing quote, without escapes, and the rest after the quote. -/
def marks? : List Char → Option (Part (List Mark))
  | [] => none
  | '"' :: rest => some ([], rest)
  | '\\' :: 'u' :: a :: b :: c :: d :: rest =>
    match Text.hexValue? [a, b, c, d] with
    | none => none
    | some unit =>
      match Text.Half.ofUnit? unit with
      | none => prepend (.char (Char.ofNat unit)) (marks? rest)
      | some half =>
        match rest with
        | '\\' :: 'u' :: e :: f :: g :: h :: after =>
          match ((Text.hexValue? [e, f, g, h]).bind Text.Half.ofUnit?).bind half.pair? with
          | some ch => prepend (.char ch) (marks? after)
          | none => prepend (.half half) (marks? ('\\' :: 'u' :: e :: f :: g :: h :: after))
        | rest => prepend (.half half) (marks? rest)
  | '\\' :: c :: rest =>
    match escaped? c with
    | some ch => prepend (.char ch) (marks? rest)
    | none => none
  | c :: rest => if c.toNat < 32 ∨ c = '\\' then none else prepend (.char c) (marks? rest)

/-- A string after its opening quote. -/
def string (s : List Char) : Except DecodeFault (Part LooseText) :=
  match marks? s with
  | some (marks, rest) => .ok (⟨marks⟩, rest)
  | none => .error .malformed

/-- The digits at the front and the rest. -/
def digits (s : List Char) : List Char × List Char := (s.takeWhile Char.isDigit, s.dropWhile Char.isDigit)

/-- The fraction at the front, if there is one, as written. -/
def fraction (s : List Char) : List Char × List Char :=
  match s with
  | '.' :: rest =>
    match digits rest with
    | ([], _) => ([], s)
    | (ds, rest) => ('.' :: ds, rest)
  | _ => ([], s)

/-- The exponent at the front, if there is one, as written. -/
def exponent (s : List Char) : List Char × List Char :=
  match s with
  | e :: rest =>
    if e = 'e' ∨ e = 'E' then
      let (sign, rest) := match rest with
        | '+' :: rest => (['+'], rest)
        | '-' :: rest => (['-'], rest)
        | _ => ([], rest)
      match digits rest with
      | ([], _) => ([], s)
      | (ds, rest) => (e :: sign ++ ds, rest)
    else ([], s)
  | [] => ([], s)

/-- A number after its sign. -/
def number (negative : Bool) (s : List Char) : Except DecodeFault (Part Value) :=
  let (whole, rest) := match s with
    | '0' :: rest => (['0'], rest)
    | _ => digits s
  if whole.isEmpty then .error .malformed
  else
    let (fraction, rest) := fraction rest
    let (exponent, rest) := exponent rest
    if fraction.isEmpty && exponent.isEmpty then
      if maxIntegerDigits < whole.length then .error .numeralTooLong
      else
        let n : Int := Numeral.ofDigits (whole.map fun c => c.toNat - 48)
        .ok (.int (if negative then -n else n), rest)
    else
      match Numeral.read? (whole ++ fraction ++ exponent) with
      | some n => .ok (.float { n with negative }.toBinary64, rest)
      | none => .error .malformed

/-- The values that are written as words. -/
def words : List (List Char × Value) := [
  ("null".toList, .null), ("true".toList, .bool true), ("false".toList, .bool false),
  ("NaN".toList, .float .nan), ("Infinity".toList, .float (.infinity false)),
  ("-Infinity".toList, .float (.infinity true))]

/-- A value written as a word, or a number. -/
def plain (s : List Char) : Except DecodeFault (Part Value) :=
  match words.find? fun (word, _) => word.isPrefixOf s with
  | some (word, v) => .ok (v, s.drop word.length)
  | none =>
    match s with
    | '-' :: rest => number true rest
    | _ => number false s

mutual

/-- The value at the front, if so many steps of nesting are left.  Each step of reading takes a character or
opens a bracket, so twice the length of the text is fuel enough. -/
def value (steps : Nat) : Nat → List Char → Except DecodeFault (Part Value)
  | 0, _ => .error .malformed
  | fuel + 1, s =>
    match s with
    | '"' :: rest => do
      let (text, rest) ← string rest
      return (.text text, rest)
    | '[' :: rest =>
      if steps = 0 then .error .tooDeep
      else
        match skipSpace rest with
        | ']' :: rest => .ok (.list [], rest)
        | rest => do
          let (items, rest) ← items (steps - 1) fuel rest
          return (.list items, rest)
    | '\x7b' :: rest =>
      if steps = 0 then .error .tooDeep
      else
        match skipSpace rest with
        | '\x7d' :: rest => .ok (.object [], rest)
        | rest => do
          let (entries, rest) ← entries (steps - 1) fuel [] rest
          return (.object entries, rest)
    | _ => plain s

/-- The items of an array up to its closing bracket. -/
def items (steps : Nat) : Nat → List Char → Except DecodeFault (Part (List Value))
  | 0, _ => .error .malformed
  | fuel + 1, s => do
    let (v, rest) ← value steps fuel s
    match skipSpace rest with
    | ']' :: rest => return ([v], rest)
    | ',' :: rest =>
      let (vs, rest) ← items steps fuel (skipSpace rest)
      return (v :: vs, rest)
    | _ => throw .malformed

/-- The entries of an object up to its closing bracket, put to those already read. -/
def entries (steps : Nat) : Nat → List (LooseText × Value) → List Char →
    Except DecodeFault (Part (List (LooseText × Value)))
  | 0, _, _ => .error .malformed
  | fuel + 1, read, s => do
    match s with
    | '"' :: rest =>
      let (key, rest) ← string rest
      match skipSpace rest with
      | ':' :: rest =>
        let (v, rest) ← value steps fuel (skipSpace rest)
        let read := putEntry key v read
        match skipSpace rest with
        | '\x7d' :: rest => return (read, rest)
        | ',' :: rest => entries steps fuel read (skipSpace rest)
        | _ => throw .malformed
      | _ => throw .malformed
    | _ => throw .malformed

end

/-- Reads a whole text as one value. -/
def read (text : String) : Except DecodeFault Value := do
  let s := text.toList
  let (v, rest) ← value maxNesting (2 * s.length + 2) (skipSpace s)
  match skipSpace rest with
  | [] => return v
  | _ => throw .malformed

end FieldFilter.Json
