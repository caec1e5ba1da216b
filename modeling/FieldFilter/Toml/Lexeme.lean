import FieldFilter.Calendar
import FieldFilter.DecodeFault
import FieldFilter.Number.Numeral
import FieldFilter.Text.Hex
import FieldFilter.Toml.Datum

/-!
# FieldFilter.Toml.Lexeme — strings, keys, numbers and dates of TOML

The parts of a document that hold no other parts.  Every reader here takes the characters at the front of
a text and returns what they stand for and the rest.
-/

namespace FieldFilter.Toml

/-- What has been read, and the rest of the text. -/
abbrev Part (α : Type) := α × List Char

def isSpace (c : Char) : Bool := c == ' ' || c == '\t'

def isSpaceOrBreak (c : Char) : Bool := isSpace c || c == '\n'

def skipSpace (s : List Char) : List Char := s.dropWhile isSpace

/-- A control character other than the tab, which no comment and no one-line string may hold. -/
def isControl (c : Char) : Bool := (c.toNat < 32 && c != '\t') || c.toNat == 127

/-- A control character that no string of several lines may hold. -/
def isForbidden (c : Char) : Bool := isControl c && c != '\n'

/-- Puts a character in front of the text that was read. -/
def prepend (c : Char) (r : Option (Part (List Char))) : Option (Part (List Char)) :=
  r.map fun (text, left) => (c :: text, left)

/-! ### Strings -/

/-- What a one-letter escape stands for. -/
def escaped? : Char → Option Char
  | 'b' => some '\x08'
  | 't' => some '\t'
  | 'n' => some '\n'
  | 'f' => some '\x0c'
  | 'r' => some '\r'
  | '"' => some '"'
  | '\\' => some '\\'
  | _ => none

/-- Where reading stands inside a string: in its text, or among white space that a backslash at the end of
a line leaves out, before or after the line break. -/
inductive Trim where
  | off
  | beforeBreak
  | afterBreak
  deriving DecidableEq, Repr

/-- The text of a string in double quotes up to its end, without escapes.  A string of several lines ends
with three quotes, of which up to two more may be its own. -/
def basic? (multiline : Bool) (trim : Trim) : List Char → Option (Part (List Char))
  | [] => none
  | c :: rest =>
    if trim = .beforeBreak then
      if isSpace c then basic? multiline .beforeBreak rest
      else if c = '\n' then basic? multiline .afterBreak rest
      else none
    else if trim = .afterBreak && isSpaceOrBreak c then basic? multiline .afterBreak rest
    else if c = '"' then
      if multiline then
        match rest with
        | '"' :: '"' :: '"' :: '"' :: left => some (['"', '"'], left)
        | '"' :: '"' :: '"' :: left => some (['"'], left)
        | '"' :: '"' :: left => some ([], left)
        | _ => prepend '"' (basic? multiline .off rest)
      else some ([], rest)
    else if c = '\\' then
      match rest with
      | 'u' :: d1 :: d2 :: d3 :: d4 :: left =>
        match (Text.hexValue? [d1, d2, d3, d4]).bind Text.scalarValue? with
        | some ch => prepend ch (basic? multiline .off left)
        | none => none
      | 'U' :: d1 :: d2 :: d3 :: d4 :: d5 :: d6 :: d7 :: d8 :: left =>
        match (Text.hexValue? [d1, d2, d3, d4, d5, d6, d7, d8]).bind Text.scalarValue? with
        | some ch => prepend ch (basic? multiline .off left)
        | none => none
      | e :: left =>
        if multiline && isSpace e then basic? multiline .beforeBreak left
        else if multiline && e == '\n' then basic? multiline .afterBreak left
        else
          match escaped? e with
          | some ch => prepend ch (basic? multiline .off left)
          | none => none
      | [] => none
    else if (if multiline then isForbidden c else isControl c) then none
    else prepend c (basic? multiline .off rest)

/-- The text of a string in single quotes on one line, up to its end. -/
def literal? : List Char → Option (Part (List Char))
  | [] => none
  | c :: rest =>
    if c = '\'' then some ([], rest)
    else if isControl c then none
    else prepend c (literal? rest)

/-- The text of a string in three single quotes up to its end.  Up to two more quotes are its own. -/
def literalLines? : List Char → Option (Part (List Char))
  | [] => none
  | c :: rest =>
    if c = '\'' then
      match rest with
      | '\'' :: '\'' :: '\'' :: '\'' :: left => some (['\'', '\''], left)
      | '\'' :: '\'' :: '\'' :: left => some (['\''], left)
      | '\'' :: '\'' :: left => some ([], left)
      | _ => prepend c (literalLines? rest)
    else if isForbidden c then none
    else prepend c (literalLines? rest)

/-- A line break right after the opening quotes of a string of several lines is left out. -/
def dropBreak : List Char → List Char
  | '\n' :: rest => rest
  | s => s

def ofChars? (r : Option (Part (List Char))) : Except DecodeFault (Part String) :=
  match r with
  | some (text, rest) => .ok (String.ofList text, rest)
  | none => .error .malformed

/-! ### Keys -/

def isBareKeyChar (c : Char) : Bool := c.isAlphanum || c == '-' || c == '_'

/-- One part of a key: bare, or a string on one line. -/
def keyPart (s : List Char) : Except DecodeFault (Part String) :=
  match s with
  | '\'' :: rest => ofChars? (literal? rest)
  | '"' :: rest => ofChars? (basic? false .off rest)
  | _ =>
    match s.takeWhile isBareKeyChar with
    | [] => .error .malformed
    | bare => .ok (String.ofList bare, s.dropWhile isBareKeyChar)

/-- The parts of a key, joined by points that may stand between spaces. -/
def keyParts : Nat → List Char → Except DecodeFault (Part (List String))
  | 0, _ => .error .malformed
  | fuel + 1, s => do
    let (part, rest) ← keyPart s
    match skipSpace rest with
    | '.' :: rest =>
      let (parts, rest) ← keyParts fuel (skipSpace rest)
      return (part :: parts, rest)
    | rest => return ([part], rest)

/-- A key with its parts; the spaces after it are skipped. -/
def key (s : List Char) : Except DecodeFault (Part (List String)) := keyParts (s.length + 1) s

/-! ### Numbers, dates and times -/

/-- Exactly so many ASCII digits, as a number. -/
def fixedDigits? (count : Nat) (s : List Char) : Option (Part Nat) :=
  let ds := s.take count
  if ds.length = count ∧ ds.all Char.isDigit then
    some (Numeral.ofDigits (ds.map fun c => c.toNat - 48), s.drop count)
  else none

/-- One given character. -/
def char? (c : Char) : List Char → Option (List Char)
  | d :: rest => if d = c then some rest else none
  | [] => none

/-- A number of fixed width that is at most a limit. -/
def upTo? (count limit : Nat) (s : List Char) : Option (List Char) :=
  match fixedDigits? count s with
  | some (n, rest) => if n ≤ limit then some rest else none
  | none => none

/-- A time of day with an optional fraction of a second: the rest after it. -/
def time? (s : List Char) : Option (List Char) := do
  let s ← upTo? 2 23 s
  let s ← char? ':' s
  let s ← upTo? 2 59 s
  let s ← char? ':' s
  let s ← upTo? 2 59 s
  match s with
  | '.' :: rest =>
    if (rest.takeWhile Char.isDigit).isEmpty then return s else return rest.dropWhile Char.isDigit
  | _ => return s

/-- An optional offset from UTC: the rest after it. -/
def offset (s : List Char) : List Char :=
  let signed (rest : List Char) : Option (List Char) := do
    let rest ← upTo? 2 23 rest
    let rest ← char? ':' rest
    upTo? 2 59 rest
  match s with
  | 'Z' :: rest | 'z' :: rest => rest
  | '+' :: rest | '-' :: rest => (signed rest).getD s
  | _ => s

/-- A date: the date and the rest after it.  The month is at most 12 and the day at most 31. -/
def date? (s : List Char) : Option (Part Date) := do
  let (year, s) ← fixedDigits? 4 s
  let s ← char? '-' s
  let (month, s) ← fixedDigits? 2 s
  let s ← char? '-' s
  let (day, s) ← fixedDigits? 2 s
  if 1 ≤ month ∧ month ≤ 12 ∧ 1 ≤ day ∧ day ≤ 31 then return (⟨year, month, day⟩, s) else none

/-- A time of day with an offset after a date, if one is there: the rest after it. -/
def timeOfDate (s : List Char) : List Char :=
  match s with
  | c :: rest =>
    if c = 'T' ∨ c = 't' ∨ c = ' ' then
      match time? rest with
      | some rest => offset rest
      | none => s
    else s
  | [] => s

/-- The characters of a text before a rest of it. -/
def before (s rest : List Char) : String := String.ofList (s.take (s.length - rest.length))

/-- A date, a time or both.  A date has to exist. -/
def moment? (s : List Char) : Option (Except DecodeFault (Part Datum)) :=
  match date? s with
  | some (date, rest) =>
    if date.IsValid then
      let rest := timeOfDate rest
      some (.ok (.moment (before s rest), rest))
    else some (.error .malformed)
  | none => (time? s).map fun rest => .ok (.moment (before s rest), rest)

/-- Digits of one kind, with single underscores between them: the digits and the rest. -/
def digitRun (isDigit : Char → Bool) : List Char → Part (List Char)
  | [] => ([], [])
  | '_' :: d :: rest =>
    if isDigit d then
      let (ds, left) := digitRun isDigit rest
      (d :: ds, left)
    else ([], '_' :: d :: rest)
  | c :: rest =>
    if isDigit c then
      let (ds, left) := digitRun isDigit rest
      (c :: ds, left)
    else ([], c :: rest)

/-- A run of digits that starts with one. -/
def digits? (isDigit : Char → Bool) (s : List Char) : Option (Part (List Char)) :=
  match s with
  | c :: _ => if isDigit c then some (digitRun isDigit s) else none
  | [] => none

/-- A number with a sign of its base: `0x`, `0o` or `0b`. -/
def basedInteger? (s : List Char) : Option (Part Datum) :=
  let ofBase (base : Nat) (rest : List Char) : Option (Part Datum) := do
    let isDigit (c : Char) : Bool := match Text.hexDigit? c with
      | some d => d < base
      | none => false
    let (ds, rest) ← digits? isDigit rest
    let n := ds.foldl (fun n c => base * n + (Text.hexDigit? c).getD 0) 0
    return (.integer n, rest)
  match s with
  | '0' :: 'x' :: rest => ofBase 16 rest
  | '0' :: 'o' :: rest => ofBase 8 rest
  | '0' :: 'b' :: rest => ofBase 2 rest
  | _ => none

/-- The whole part of a decimal number, without leading zeros. -/
def wholePart? (s : List Char) : Option (Part (List Char)) :=
  match s with
  | '0' :: rest => some (['0'], rest)
  | _ => digits? Char.isDigit s

/-- The fraction at the front, if there is one, without underscores. -/
def fractionPart (s : List Char) : Part (List Char) :=
  match s with
  | '.' :: rest =>
    match digits? Char.isDigit rest with
    | some (ds, rest) => ('.' :: ds, rest)
    | none => ([], s)
  | _ => ([], s)

/-- The exponent at the front, if there is one, without underscores. -/
def exponentPart (s : List Char) : Part (List Char) :=
  match s with
  | e :: rest =>
    if e = 'e' ∨ e = 'E' then
      let (sign, rest) := match rest with
        | '+' :: rest => (['+'], rest)
        | '-' :: rest => (['-'], rest)
        | _ => ([], rest)
      match digits? Char.isDigit rest with
      | some (ds, rest) => (e :: sign ++ ds, rest)
      | none => ([], s)
    else ([], s)
  | [] => ([], s)

/-- A decimal number: an integer if it has neither fraction nor exponent. -/
def decimal? (s : List Char) : Option (Except DecodeFault (Part Datum)) := do
  let (negative, unsigned) := Numeral.takeSign s
  let (whole, rest) ← wholePart? unsigned
  let (fraction, rest) := fractionPart rest
  let (exponent, rest) := exponentPart rest
  if fraction.isEmpty && exponent.isEmpty then
    if maxIntegerDigits < whole.length then return .error .numeralTooLong
    else
      let n : Int := Numeral.ofDigits (whole.map fun c => c.toNat - 48)
      return .ok (.integer (if negative then -n else n), rest)
  else
    let n ← Numeral.read? (whole ++ fraction ++ exponent)
    return .ok (.float { n with negative }.toBinary64, rest)

/-- The doubles that are written as words. -/
def floatWords : List (List Char × Binary64) := [
  ("inf".toList, .infinity false), ("nan".toList, .nan), ("+inf".toList, .infinity false),
  ("-inf".toList, .infinity true), ("+nan".toList, .nan), ("-nan".toList, .nan)]

/-- A date, a time or a number. -/
def scalar (s : List Char) : Except DecodeFault (Part Datum) :=
  match (moment? s).or ((basedInteger? s).map Except.ok |>.or (decimal? s)) with
  | some r => r
  | none =>
    match floatWords.find? fun (word, _) => word.isPrefixOf s with
    | some (word, x) => .ok (.float x, s.drop word.length)
    | none => .error .malformed

end FieldFilter.Toml
