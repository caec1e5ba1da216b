import FieldFilter.Console.Message
import FieldFilter.Text.Emoji

/-!
# FieldFilter.Console.Markup — messages with style tags

Messages are written as markup: a tag between square brackets sets the style of what follows, and the name of
an emoji between colons stands for the emoji.  `escape` turns a text into markup for that text, its emoji apart,
and `message` is what markup shows.
-/

namespace FieldFilter.Console.Markup

/-- A character that a tag can begin with. -/
def startsTag (c : Char) : Bool :=
  ('a' ≤ c && c ≤ 'z') || c == '#' || c == '/' || c == '@'

/-- Whether there is a tag at the start of a text: a bracket, a character that tags begin with, and a
closing bracket before the next opening one. -/
def opensTag : List Mark → Bool
  | .char '[' :: m :: rest =>
    m.is startsTag && (rest.dropWhile fun n => n != .char '[' && n != .char ']').head? == some (.char ']')
  | _ => false

/-- Puts a backslash before every tag of a text that comes after some backslashes, and one more for every
backslash that directly precedes a tag. -/
def escapeTags (slashes : Nat) : List Mark → List Mark
  | [] => []
  | m :: rest =>
    if m = '\\' then m :: escapeTags (slashes + 1) rest
    else if opensTag (m :: rest) then
      List.replicate (slashes + 1) (.char '\\') ++ m :: escapeTags 0 rest
    else m :: escapeTags 0 rest

/-- The text ends with exactly one backslash. -/
def endsWithSlash (s : List Mark) : Bool :=
  match s.reverse with
  | .char '\\' :: .char '\\' :: _ => false
  | .char '\\' :: _ => true
  | _ => false

/-- Markup for a text.  A single backslash at its end is doubled, since a tag may follow. -/
def escape (t : LooseText) : LooseText :=
  let escaped := escapeTags 0 t.marks
  ⟨if endsWithSlash escaped then escaped ++ [.char '\\'] else escaped⟩

/-! ### Emoji -/

/-- The forms of an emoji that can be asked for after its name, each with the selector of the form. -/
def emojiForms : List (List Mark × Char) :=
  [("-emoji", '\ufe0f'), ("-text", '\ufe0e')].map fun (form, selector) => ((form : LooseText).marks, selector)

/-- The name in a code, and the selector of the form if one is asked for. -/
def splitForm (code : List Mark) : List Mark × List Mark :=
  match emojiForms.find? fun (form, _) => form.isSuffixOf code with
  | some (form, selector) => (code.take (code.length - form.length), [selector])
  | none => (code, [])

/-- What a code between colons stands for: an emoji, if it is the name of one, else itself. -/
def decoded (code : List Mark) : List Mark :=
  let (name, selector) := splitForm code
  match (LooseText.mk name).lower.whole?.bind Text.emoji? with
  | some emoji => emoji.map .char ++ selector
  | none => .char ':' :: code ++ [.char ':']

/-- The text from a colon on, given by its parts between colons.  A code holds no white space. -/
def afterColon : List (List Mark) → List Mark
  | [] => []
  | [part] => .char ':' :: part
  | code :: part :: rest =>
    if code.any (Mark.is Text.isBlank) then .char ':' :: code ++ afterColon (part :: rest)
    else decoded code ++ part ++ afterColon rest

/-- A text with emoji in the place of their codes. -/
def withEmoji (s : List Mark) : List Mark :=
  match s.splitOn (.char ':') with
  | part :: rest => part ++ afterColon rest
  | [] => []

/-! ### What markup shows -/

/-- Where a reader of markup is: in text, after some backslashes not yet shown, inside a tag, or inside a
tag that is plain text. -/
inductive Place where
  | text (slashes : Nat)
  | tag
  | literal

/-- A part of markup: marks to be shown, or a tag that begins or ends a style. -/
inductive Part where
  | shown (s : List Mark)
  | opening
  | closing
  deriving DecidableEq, Repr

/-- Puts marks in front of the first part. -/
def prepend (s : List Mark) : List Part → List Part
  | .shown first :: rest => .shown (s ++ first) :: rest
  | parts => .shown s :: parts

/-- The tag of which the text after the bracket is given. -/
def tagOf : List Mark → Part
  | .char '/' :: _ => .closing
  | _ => .opening

/-- The parts of markup from some place on.  Before a tag backslashes count in pairs, and an odd one makes the
tag plain text; before any other opening bracket the last one is dropped. -/
def parts : Place → List Mark → List Part
  | .text slashes, [] => [.shown (List.replicate slashes '\\')]
  | .tag, [] | .literal, [] => []
  | .tag, m :: rest => if m = ']' then parts (.text 0) rest else parts .tag rest
  | .literal, m :: rest =>
    if m = ']' then .shown [m] :: parts (.text 0) rest else prepend [m] (parts .literal rest)
  | .text slashes, m :: rest =>
    if m = '\\' then parts (.text (slashes + 1)) rest
    else if opensTag (m :: rest) then
      .shown [] :: .shown (List.replicate (slashes / 2) '\\') ::
        if slashes % 2 = 1 then prepend [m] (parts .literal rest) else tagOf rest :: parts .tag rest
    else
      prepend (List.replicate (if m = '[' then slashes - 1 else slashes) (.char '\\') ++ [m])
        (parts (.text 0) rest)

/-- The message that parts make which come after so many marks, where some styles have begun and not ended: the
place where each has, the last one first. -/
def join (place : Nat) (begun : List Nat) : List Part → Message
  | [] => { spans := begun.map fun start => ⟨start, place⟩ }
  | .shown s :: rest =>
    let s := Message.printed (withEmoji s)
    let m := join (place + s.length) begun rest
    { m with text := s ++ m.text }
  | .opening :: rest => join place (place :: begun) rest
  | .closing :: rest =>
    match begun with
    | [] => join place [] rest
    | start :: begun =>
      let m := join place begun rest
      { m with spans := ⟨start, place⟩ :: m.spans }

/-- The message that markup shows. -/
def message (markup : LooseText) : Message := join 0 [] (parts (.text 0) markup.marks)

/-- Markup in a style. -/
def styled (style markup : LooseText) : LooseText := "[" ++ style ++ "]" ++ markup ++ "[/" ++ style ++ "]"

end FieldFilter.Console.Markup
