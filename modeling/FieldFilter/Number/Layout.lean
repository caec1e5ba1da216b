import FieldFilter.Number.Shortest

/-!
# FieldFilter.Number.Layout — doubles as text

A `Layout` fixes everything about the text of a double that its digits do not: where positional
writing ends, the width of the exponent, and the words for the values without digits.
-/

namespace FieldFilter

/-- How doubles are written. -/
structure Layout where
  nan : String
  infinity : String
  /-- The smallest exponent of the leading digit that is still written positionally. -/
  lowest : Int
  /-- The largest exponent of the leading digit that is still written positionally. -/
  highest : Int
  /-- The least number of digits of a written exponent. -/
  exponentDigits : Nat
  deriving Repr

namespace Layout

/-- Numbers inside shown values: positional from `1e-4` up to sixteen digits, else with an exponent of
a sign and two digits. -/
def literal : Layout := ⟨"nan", "inf", -4, 15, 2⟩

/-- Numbers in JSON: as inside shown values, but with the words of JSON dialects for the rest. -/
def json : Layout := { literal with nan := "NaN", infinity := "Infinity" }

/-- The digits without trailing zeros. -/
def significant (digits : List Char) : List Char :=
  (digits.reverse.dropWhile (· == '0')).reverse

def zeros (n : Nat) : List Char := List.replicate n '0'

/-- Positional writing of the digits with the point after the first `point` of them. -/
def positional (digits : List Char) (point : Int) : List Char :=
  if point ≤ 0 then '0' :: '.' :: zeros (-point).toNat ++ digits
  else if digits.length ≤ point.toNat then digits ++ zeros (point.toNat - digits.length) ++ ['.', '0']
  else digits.take point.toNat ++ '.' :: digits.drop point.toNat

/-- Writing with an exponent: one digit, the others after a point, and the exponent. -/
def scientific (layout : Layout) (digits : List Char) (exponent : Int) : List Char :=
  let mantissa := match digits with
    | first :: second :: rest => first :: '.' :: second :: rest
    | _ => digits
  let power := Nat.toDigits 10 exponent.natAbs
  mantissa ++ 'e' :: (if exponent < 0 then '-' else '+')
    :: zeros (layout.exponentDigits - power.length) ++ power

/-- The text of a positive count of units. -/
def magnitude (layout : Layout) (units : Nat) : List Char :=
  let (number, exponent) := Binary64.shortest units
  let written := Nat.toDigits 10 number
  let leading := exponent + written.length - 1
  let digits := significant written
  if layout.lowest ≤ leading ∧ leading ≤ layout.highest then positional digits (leading + 1)
  else layout.scientific digits leading

/-- The text of a double. -/
def write (layout : Layout) : Binary64 → String
  | .nan => layout.nan
  | .infinity negative => if negative then "-" ++ layout.infinity else layout.infinity
  | .finite negative units =>
    let text := if units = 0 then ['0', '.', '0'] else layout.magnitude units
    String.ofList (if negative then '-' :: text else text)

end Layout
end FieldFilter
