import FieldFilter.Console.Message
import FieldFilter.Text.Digit
import FieldFilter.Text.Hex
import FieldFilter.Text.Word

/-!
# FieldFilter.Console.Highlight — what stands out in messages

On a terminal with colors, tags, attributes, brackets, addresses, calls, numbers, paths, strings and links
inside a message would stand out.  Without colors nothing of that is seen, but the message is still made of
pieces that begin and end with them: `Highlight.spans`.
-/

namespace FieldFilter.Console.Highlight

/-- Something found at the front of a text: how many characters it has, and the spans of it that stand out. -/
structure Find where
  length : Nat
  spans : List Span
  deriving DecidableEq, Repr

/-- Something that stands out as a whole. -/
def Find.plain (length : Nat) : Find := ⟨length, [⟨0, length⟩]⟩

/-- Something of two looks, the second after the first. -/
def Find.pair (first second : Nat) : Find := ⟨first + second, [⟨0, first⟩, ⟨first, first + second⟩]⟩

/-- The number of characters at the front with a property. -/
def run (p : Char → Bool) (s : List Char) : Nat := (s.takeWhile p).length

/-- The number of characters at the front with a property, as far as they are looked at. -/
def runUpTo (most : Nat) (p : Char → Bool) (s : List Char) : Nat := run p (s.take most)

/-- A text starts with some characters. -/
def startsWith (start : String) (s : List Char) : Bool := start.toList.isPrefixOf s

/-- Takes one of some characters, if it is there: how many it took. -/
def optional (cs : List Char) : List Char → Nat
  | c :: _ => if cs.contains c then 1 else 0
  | [] => 0

def isHex (c : Char) : Bool := (Text.hexDigit? c).isSome

/-- The character is there and continues a word. -/
def isWord (c : Option Char) : Bool := c.any Text.isWordChar

/-! ### Addresses -/

/-- The length of fields between separators.  Each field has a least and a most number of characters. -/
def fields? (p : Char → Bool) (separator : Char) : List (Nat × Nat) → List Char → Option Nat
  | [], _ => some 0
  | [(least, most)], s =>
    let n := runUpTo most p s
    if least ≤ n then some n else none
  | (least, most) :: rest, s =>
    let n := runUpTo most p s
    if least ≤ n ∧ (s.drop n).head? = some separator then
      (fields? p separator rest (s.drop (n + 1))).map (n + 1 + ·)
    else none

/-- So many fields of one kind. -/
def fieldsOf? (count least most : Nat) (p : Char → Bool) (separator : Char) (s : List Char) : Option Nat :=
  fields? p separator (List.replicate count (least, most)) s

/-- Fields of up to four hexadecimal digits with one or two colons after each: where the digits of each end,
and where its colons do. -/
def colonFields (place : Nat) : Nat → List Char → List (Nat × Nat)
  | 0, _ => []
  | count + 1, s =>
    let digits := runUpTo 4 isHex s
    let colons := runUpTo 2 (· == ':') (s.drop digits)
    if digits = 0 ∨ colons = 0 then []
    else
      (place + digits, place + digits + colons) ::
        colonFields (place + digits + colons) count (s.drop (digits + colons))

/-- The length of up to eight fields of hexadecimal digits with colons between them. -/
def colonAddress? (s : List Char) : Option Nat :=
  match (colonFields 0 7 s).reverse with
  | [] => none
  | (digitsEnd, colonsEnd) :: before =>
    let last := runUpTo 4 isHex (s.drop colonsEnd)
    if 0 < last then some (colonsEnd + last) else if before.isEmpty then none else some digitsEnd

/-- The length of an address of a network, a device or an object. -/
def address? (s : List Char) : Option Nat :=
  fieldsOf? 4 1 3 Char.isDigit '.' s <|> colonAddress? s <|>
  fieldsOf? 8 1 2 isHex '-' s <|> fieldsOf? 8 1 2 isHex ':' s <|> fieldsOf? 4 4 4 isHex '.' s <|>
  fieldsOf? 6 1 2 isHex '-' s <|> fieldsOf? 6 1 2 isHex ':' s <|> fieldsOf? 3 4 4 isHex '.' s <|>
  fields? isHex '-' ([8, 4, 4, 4, 12].map fun n => (n, n)) s

/-! ### Calls and words -/

def isNameChar (c : Char) : Bool := Text.isWordChar c || c == '.'

/-- A name before a bracket. -/
def call? (s : List Char) : Option Find :=
  if (s.dropWhile isNameChar).head? = some '(' then
    let n := run isNameChar s
    some ⟨n + 1, [⟨0, n⟩]⟩
  else none

/-- The length of a constant's name that stands as a word of its own. -/
def constant? (before : Option Char) (s : List Char) : Option Nat :=
  (["True", "False", "None"].find? fun w =>
    !isWord before && startsWith w s && !isWord (s.drop w.length).head?).map String.length

/-! ### Numbers -/

/-- The length of digits with a point among them or after them. -/
def mantissa? (s : List Char) : Option Nat :=
  let whole := run Char.isDigit s
  if whole = 0 then none
  else
    let point := optional ['.'] (s.drop whole)
    some (whole + point + run Char.isDigit (s.drop (whole + point)))

/-- The length of an exponent: a sign may precede its digits. -/
def exponent? : List Char → Option Nat
  | 'e' :: rest =>
    let sign := optional ['-', '+'] rest
    let digits := run Text.isDecimalDigit (rest.drop sign)
    if digits = 0 then none else some (1 + sign + digits)
  | _ => none

/-- The length of a number without a sign; where an exponent begins it has to be complete. -/
def unsigned? (s : List Char) : Option Nat :=
  (mantissa? s).bind fun n =>
    if (s.drop n).head? = some 'e' then (exponent? (s.drop n)).map (n + ·) else some n

/-- The length of an imaginary number, perhaps after a real one. -/
def complex? (before : Option Char) (s : List Char) : Option Nat := do
  if isWord before then none
  let sign := optional ['-'] s
  let first := sign + (← unsigned? (s.drop sign))
  let operator := optional ['-', '+'] (s.drop first)
  let second ← if operator = 0 then some 0 else unsigned? (s.drop (first + operator))
  let all := first + operator + second
  if (s.drop all).head? = some 'j' then some (all + 1) else none

/-- The length of a number in decimal notation.  It ends where a word begins or ends, so its fraction or its
point may be left out. -/
def decimal? (before : Option Char) (s : List Char) : Option Nat :=
  if isWord before then none
  else
    let sign := optional ['-'] s
    let whole := run Char.isDigit (s.drop sign)
    let point := optional ['.'] (s.drop (sign + whole))
    let fraction := if point = 0 then 0 else run Char.isDigit (s.drop (sign + whole + point))
    let longest := sign + whole + point + fraction
    let next := isWord (s.drop longest).head?
    let exponent := (exponent? (s.drop longest)).filter fun n => !isWord (s.drop (longest + n)).head?
    if whole = 0 then none
    else
      match exponent with
      | some n => some (longest + n)
      | none =>
        if point = 0 then if next then none else some longest
        else if fraction = 0 then some (if next then longest else longest - 1)
        else some (if next then longest - fraction else longest)

/-- The length of a number in decimal or hexadecimal notation. -/
def number? (before : Option Char) (s : List Char) : Option Nat :=
  decimal? before s <|> if startsWith "0x" s then some (2 + run isHex (s.drop 2)) else none

/-! ### Paths, strings and links -/

/-- A character of a file's name. -/
def isFileChar (c : Char) : Bool := Text.isWordChar c || ['-', '.', '+'].contains c

/-- The length of directories, each with a slash after it, of which the length up to the last slash and the
length so far are given.  No directory has an empty name. -/
def directories (lastSlash length : Nat) (isNew : Bool) : List Char → Nat
  | [] => lastSlash
  | c :: rest =>
    if c = '/' then if isNew then lastSlash else directories (length + 1) (length + 1) true rest
    else if isFileChar c then directories lastSlash (length + 1) false rest
    else lastSlash

/-- An absolute path, of which the file's name has a look of its own. -/
def path? (before : Option Char) : List Char → Option Find
  | '/' :: rest =>
    if isWord before then none
    else
      let n := directories 1 1 true rest
      some (.pair n (run isFileChar (rest.drop (n - 1))))
  | _ => none

/-- The length of a text on one line up to its closing quotes, before which there is no backslash. -/
def closed? (quotes : List Char) (length : Nat) (escapes : Bool) : List Char → Option Nat
  | [] => none
  | c :: rest =>
    if !escapes && quotes.isPrefixOf (c :: rest) then some (length + quotes.length)
    else if c = '\n' then none
    else closed? quotes (length + 1) (c == '\\') rest

/-- The length of a string between quotes. -/
def string? (before : Option Char) (s : List Char) : Option Nat :=
  if isWord before ∨ before = some '\\' then none
  else
    let mark := optional ['b'] s
    ["'''", "'", "\"\"\"", "\""].findSome? fun quotes =>
      if startsWith quotes (s.drop mark) then
        closed? quotes.toList (mark + quotes.length) false (s.drop (mark + quotes.length))
      else none

/-- A character of a link. -/
def isLinkChar (c : Char) : Bool := c.isAlphanum || "-$_+!\x60(),.?/;:&=%#~@".toList.contains c

/-- The length of a link. -/
def link? (s : List Char) : Option Nat :=
  (["file://", "https://", "http://", "ws://", "wss://"].find? fun start => startsWith start s).map
    fun start => start.length + run isLinkChar (s.drop start.length)

/-! ### All spans -/

/-- A name and perhaps a value after an equals sign. -/
def attribute? (s : List Char) : Option Find :=
  let name := runUpTo 51 Text.isWordChar s
  if 0 < name ∧ name ≤ 50 ∧ (s.drop name).head? = some '=' then
    let rest := s.drop (name + 1)
    let opening := optional ['"'] rest
    let word := run Text.isWordChar (rest.drop opening)
    if word = 0 then some ⟨name + 1, [⟨0, name⟩]⟩
    else
      let value := opening + word + optional ['"'] (rest.drop (opening + word))
      some ⟨name + 1 + value, [⟨0, name⟩, ⟨name + 1, name + 1 + value⟩]⟩
  else none

/-- A bracket. -/
def bracket? (s : List Char) : Option Find :=
  if optional ['[', ']', '\x7b', '\x7d', '(', ')'] s = 1 then some (.plain 1) else none

/-- What stands out at the front of a text after some character, brackets and attributes apart. -/
def item? (before : Option Char) (s : List Char) : Option Find :=
  (address? s).map .plain <|> call? s <|> (constant? before s).map .plain <|>
  (if startsWith "..." s then some (.plain 3) else none) <|>
  (complex? before s).map .plain <|> (number? before s).map .plain <|> path? before s <|>
  (string? before s).map .plain <|> (link? s).map .plain

/-- The spans of what is found in a text from some place on; nothing is looked for inside of a find. -/
def scan (find : Option Char → List Char → Option Find) (place : Nat) (before : Option Char) :
    List Char → List Span
  | [] => []
  | c :: rest =>
    match find before (c :: rest) with
    | some f =>
      f.spans.map (Span.after place) ++
        scan find (place + (f.length - 1) + 1) (c :: rest)[f.length - 1]? (rest.drop (f.length - 1))
    | none => scan find (place + 1) (some c) rest
termination_by s => s.length
decreasing_by all_goals simp only [List.length_cons, List.length_drop]; omega

/-- A character of a tag's name. -/
def isTagChar (c : Char) : Bool := Text.isWordChar c || ['-', '.', ':', '|'].contains c

/-- The spans of the first tag: from the first opening angle bracket to the last closing one. -/
def tagSpans (s : List Char) : List Span :=
  let opening := run (· != '<') s
  let closing := s.length - 1 - run (· != '>') s.reverse
  if opening < closing ∧ s[closing]? = some '>' then
    let name := opening + 1 + run isTagChar (s.drop (opening + 1))
    [⟨opening, opening + 1⟩, ⟨opening + 1, name⟩, ⟨name, closing⟩, ⟨closing, closing + 1⟩]
  else []

/-- A character in the place of a mark.  In that of a half it is one that is in no class of characters here. -/
def charOf : Mark → Char
  | .char c => c
  | .half _ => '\ufffd'

/-- The spans of a text that stand out. -/
def spans (text : List Mark) : List Span :=
  let s := text.map charOf
  tagSpans s ++ scan (fun _ => attribute?) 0 none s ++ scan (fun _ => bracket?) 0 none s ++ scan item? 0 none s

end FieldFilter.Console.Highlight
