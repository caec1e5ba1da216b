/-!
# FieldFilter.Text.Hex — hexadecimal escapes

`hexValue?` reads hexadecimal digits in either case, and `scalarValue?` the character at a code point.
-/

namespace FieldFilter.Text

def hexDigit? (c : Char) : Option Nat :=
  if '0' ≤ c ∧ c ≤ '9' then some (c.toNat - 48)
  else if 'a' ≤ c ∧ c ≤ 'f' then some (c.toNat - 87)
  else if 'A' ≤ c ∧ c ≤ 'F' then some (c.toNat - 55)
  else none

/-- The number that hexadecimal digits stand for; there has to be nothing else. -/
def hexValue? (s : List Char) : Option Nat :=
  s.foldlM (fun n c => (hexDigit? c).map (16 * n + ·)) 0

/-- The character at a code point, if there is one: surrogates are none. -/
def scalarValue? (n : Nat) : Option Char :=
  if n.isValidChar then some (Char.ofNat n) else none

end FieldFilter.Text
