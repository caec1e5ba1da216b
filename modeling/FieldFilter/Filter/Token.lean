import FieldFilter.Text.Loose
import FieldFilter.Text.Word

/-!
# FieldFilter.Filter.Token — the words of a filter expression

Field names, keywords, operators and bare values overlap; what may stand at a place decides.  After each
token one `Slot` says which tokens may follow, `Token.next?` reads the longest of these, and `Token.scan`
splits a whole text, noting how many marks are left where a token starts.
-/

namespace FieldFilter

/-- What a place in an expression is for. -/
inductive Slot where
  /-- A field name or an opening parenthesis. -/
  | operand
  | operator
  | value
  /-- A combinator or a closing parenthesis. -/
  | joint
  deriving DecidableEq, Repr, Inhabited

/-- A word of an expression.  An operator is in lower case and a quoted value without its escapes. -/
inductive Token where
  | opening
  | closing
  | field (name : LooseText)
  | operator (word : LooseText)
  | value (text : LooseText)
  | and
  | or
  deriving DecidableEq, Repr, Inhabited

/-- What the place after a token is for. -/
def Token.slotAfter : Token → Slot
  | opening => .operand
  | closing => .joint
  | field _ => .operator
  | operator _ => .value
  | value _ => .joint
  | and => .operand
  | or => .operand

namespace Token

/-- Space, tab, line feed, form feed and carriage return separate tokens; other white space does not. -/
def isSeparator (c : Char) : Bool :=
  c == ' ' || c == '\t' || c == '\n' || c == '\x0c' || c == '\r'

def isFieldStart (c : Char) : Bool := c.isAlpha || c == '_'

def isFieldChar (c : Char) : Bool := c.isAlphanum || c == '_' || c == '.' || c == '-'

/-- The character ends a value without quotes. -/
def endsBare (c : Char) : Bool := Text.isBlank c || c == '(' || c == ')' || c == '"'

/-- A mark of a value without quotes. -/
def isBare (m : Mark) : Bool := !m.is endsBare

/-- The letters agree without regard to case.  Two forms of `i` and the long `s` count as their plain
letters. -/
def sameLetter (letter c : Char) : Bool :=
  c.toLower == letter || (letter == 'i' && (c == 'İ' || c == 'ı')) || (letter == 's' && c == 'ſ')

/-- No word character follows, so a word that stopped here is complete. -/
def endsWord (s : List Mark) : Bool := !(s.head?.any (Mark.is Text.isWordChar))

/-- Splits a keyword off the front, if it stands there as a whole word in any case: the characters that
were typed for it, and the rest. -/
def keyword? : List Char → List Mark → Option (List Char × List Mark)
  | [], rest => if endsWord rest then some ([], rest) else none
  | letter :: letters, .char c :: rest =>
    if sameLetter letter c then
      (keyword? letters rest).map fun (typed, left) => (c :: typed, left)
    else none
  | _ :: _, _ => none

/-- The operator at the front and the rest; of two that fit, the longer. -/
def operator? : List Mark → Option (List Char × List Mark)
  | .char '>' :: .char '=' :: rest => some (['>', '='], rest)
  | .char '<' :: .char '=' :: rest => some (['<', '='], rest)
  | .char '!' :: .char '=' :: rest => some (['!', '='], rest)
  | .char '=' :: rest => some (['='], rest)
  | .char '>' :: rest => some (['>'], rest)
  | .char '<' :: rest => some (['<'], rest)
  | s => keyword? ['c', 'o', 'n', 't', 'a', 'i', 'n', 's'] s

/-- What stands before the closing quote, without its escapes, and what follows it.  A backslash stands
before the mark that is meant, which cannot be a line end. -/
def quoted? : List Mark → Option (List Mark × List Mark)
  | [] => none
  | .char '"' :: rest => some ([], rest)
  | .char '\\' :: m :: rest =>
    if m = '\n' then none else (quoted? rest).map fun (text, left) => (m :: text, left)
  | m :: rest =>
    if m = '\\' then none else (quoted? rest).map fun (text, left) => (m :: text, left)

/-- The token at the front of a text that starts with no separator, and the rest. -/
def next? : Slot → List Mark → Option (Token × List Mark)
  | _, [] => none
  | .operand, m :: rest =>
    if m = '(' then some (opening, rest)
    else if m.is isFieldStart then
      some (field ⟨m :: rest.takeWhile (Mark.is isFieldChar)⟩, rest.dropWhile (Mark.is isFieldChar))
    else none
  | .operator, m :: rest =>
    (operator? (m :: rest)).map fun (word, left) => (operator (Text.lower (String.ofList word)), left)
  | .value, m :: rest =>
    if m = '"' then (quoted? rest).map fun (text, left) => (value ⟨text⟩, left)
    else if isBare m then some (value ⟨m :: rest.takeWhile isBare⟩, rest.dropWhile isBare)
    else none
  | .joint, m :: rest =>
    if m = ')' then some (closing, rest)
    else
      match keyword? ['a', 'n', 'd'] (m :: rest) with
      | some (_, left) => some (and, left)
      | none => (keyword? ['o', 'r'] (m :: rest)).map fun (_, left) => (or, left)

/-! ### Every token takes at least one character -/

theorem length_dropWhile_le {α : Type} (p : α → Bool) (l : List α) :
    (l.dropWhile p).length ≤ l.length := by
  induction l with
  | nil => simp
  | cons a l ih =>
    rw [List.dropWhile_cons]
    split
    · simp only [List.length_cons]; omega
    · simp

theorem keyword?_length {letters typed : List Char} {s left : List Mark}
    (h : keyword? letters s = some (typed, left)) : left.length + letters.length = s.length := by
  fun_induction keyword? letters s generalizing typed left with
  | case1 => simp_all
  | case2 => simp at h
  | case3 letter letters c rest _ ih =>
    obtain ⟨⟨t, l⟩, h1, h2⟩ := Option.map_eq_some_iff.1 h
    simp only [Prod.mk.injEq] at h2
    have := ih h1
    simp only [List.length_cons]
    rw [← h2.2]; omega
  | case4 => simp at h
  | case5 => simp at h

theorem operator?_length {s left : List Mark} {word : List Char} (h : operator? s = some (word, left)) :
    left.length < s.length := by
  unfold operator? at h
  split at h
  case h_7 =>
    have := keyword?_length h
    simp only [List.length_cons] at this; omega
  all_goals
    simp only [Option.some.injEq, Prod.mk.injEq] at h
    simp only [← h.2, List.length_cons]; omega

theorem quoted?_length {s text left : List Mark} (h : quoted? s = some (text, left)) :
    left.length < s.length := by
  fun_induction quoted? s generalizing text left with
  | case1 => simp at h
  | case2 rest => simp_all
  | case3 => simp at h
  | case4 c rest _ ih =>
    obtain ⟨⟨t, l⟩, h1, h2⟩ := Option.map_eq_some_iff.1 h
    simp only [Prod.mk.injEq] at h2
    have := ih h1
    simp only [List.length_cons]; rw [← h2.2]; omega
  | case5 => simp at h
  | case6 c rest _ _ _ ih =>
    obtain ⟨⟨t, l⟩, h1, h2⟩ := Option.map_eq_some_iff.1 h
    simp only [Prod.mk.injEq] at h2
    have := ih h1
    simp only [List.length_cons]; rw [← h2.2]; omega

theorem next?_length {slot : Slot} {s left : List Mark} {t : Token}
    (h : next? slot s = some (t, left)) : left.length < s.length := by
  cases s with
  | nil => cases slot <;> simp [next?] at h
  | cons c rest =>
    cases slot with
    | operand =>
      simp only [next?] at h
      split at h
      · simp_all
      · split at h
        · simp only [Option.some.injEq, Prod.mk.injEq] at h
          have := length_dropWhile_le (Mark.is isFieldChar) rest
          rw [← h.2]; simp only [List.length_cons]; omega
        · simp at h
    | operator =>
      simp only [next?] at h
      obtain ⟨⟨w, l⟩, h1, h2⟩ := Option.map_eq_some_iff.1 h
      simp only [Prod.mk.injEq] at h2
      rw [← h2.2]; exact operator?_length h1
    | value =>
      simp only [next?] at h
      split at h
      · obtain ⟨⟨w, l⟩, h1, h2⟩ := Option.map_eq_some_iff.1 h
        simp only [Prod.mk.injEq] at h2
        have := quoted?_length h1
        rw [← h2.2]; simp only [List.length_cons]; omega
      · split at h
        · simp only [Option.some.injEq, Prod.mk.injEq] at h
          have := length_dropWhile_le isBare rest
          rw [← h.2]; simp only [List.length_cons]; omega
        · simp at h
    | joint =>
      simp only [next?] at h
      split at h
      · simp_all
      · split at h
        · next h1 =>
          have := keyword?_length h1
          simp only [Option.some.injEq, Prod.mk.injEq] at h
          rw [← h.2]; simp at this ⊢; omega
        · obtain ⟨⟨w, l⟩, h1, h2⟩ := Option.map_eq_some_iff.1 h
          simp only [Prod.mk.injEq] at h2
          have := keyword?_length h1
          rw [← h2.2]; simp at this ⊢; omega

/-- Splits a text into tokens, each with the number of marks left where it starts.  The second part is the
number of marks left at a place where no token fits, if there is one. -/
def scan (slot : Slot) (s : List Mark) : List (Nat × Token) × Option Nat :=
  if s.dropWhile (Mark.is isSeparator) = [] then ([], none)
  else
    match _h : next? slot (s.dropWhile (Mark.is isSeparator)) with
    | none => ([], some (s.dropWhile (Mark.is isSeparator)).length)
    | some (t, left) =>
      let (tokens, stuck) := scan t.slotAfter left
      (((s.dropWhile (Mark.is isSeparator)).length, t) :: tokens, stuck)
termination_by s.length
decreasing_by
  have := next?_length _h
  have := length_dropWhile_le (Mark.is isSeparator) s
  omega

end Token
end FieldFilter
