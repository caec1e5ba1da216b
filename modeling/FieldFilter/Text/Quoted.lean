import FieldFilter.Text.Printable

/-!
# FieldFilter.Text.Quoted — characters between quotes

A text is shown between single quotes, or between double quotes where it holds single quotes only, with
backslash escapes for the quote, the backslash and whatever is not printable.
-/

namespace FieldFilter.Text

/-- The number in lower-case hexadecimal digits, padded with zeros to the given width. -/
def hexDigits (width n : Nat) : List Char :=
  let digits := Nat.toDigits 16 n
  List.replicate (width - digits.length) '0' ++ digits

/-- The escape of a code point that is not shown as it is. -/
def codeEscape (n : Nat) : List Char :=
  if n < 0x100 then '\\' :: 'x' :: hexDigits 2 n
  else if n < 0x10000 then '\\' :: 'u' :: hexDigits 4 n
  else '\\' :: 'U' :: hexDigits 8 n

/-- How one character is shown between the given quotes. -/
def quotedChar (quote c : Char) : List Char :=
  if c = quote ∨ c = '\\' then ['\\', c]
  else if c = '\t' then ['\\', 't']
  else if c = '\n' then ['\\', 'n']
  else if c = '\r' then ['\\', 'r']
  else if isPrintable c then [c]
  else codeEscape c.toNat

/-- Double quotes only for a text that holds a single quote and no double quote. -/
def quoteFor (s : List Char) : Char :=
  if s.contains '\'' && !s.contains '"' then '"' else '\''

end FieldFilter.Text
