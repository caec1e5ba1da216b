import FieldFilter.Number.Numeral

/-!
# FieldFilter.Number.Shortest — the fewest digits that read back

`shortest` finds, for a count of units, the decimal with the fewest significant digits whose nearest
double has that count.  On each grid of decimals only the two neighbours of the value can be nearest
to it, so these are tried, grid by grid.
-/

namespace FieldFilter.Binary64

/-- Whether the decimal `digits * 10 ^ exponent` reads back as that many units. -/
def readsBackAs (units digits : Nat) (exponent : Int) : Bool :=
  (Numeral.mk false digits exponent).toBinary64 == .finite false units

/-- The exponent of the leading decimal digit of a positive count of units. -/
def leadingExponent (units : Nat) : Int :=
  (Numeral.decimalLength (units * Nat.pow 10 330 / unitsPerOne) : Int) - 331

/-- The multiple of `10 ^ exponent` nearest to the value among those next to it that read back; of two
equally near, the even one. -/
def neighbour? (units : Nat) (exponent : Int) : Option Nat :=
  let num := units * Nat.pow 10 (-exponent).toNat
  let den := unitsPerOne * Nat.pow 10 exponent.toNat
  let below := num / den
  let above := below + 1
  match readsBackAs units below exponent, readsBackAs units above exponent with
  | true, true => some (roundDiv num den)
  | true, false => some below
  | false, true => some above
  | false, false => none

/-- Tries one grid after the other, each ten times as fine as the one before. -/
def shortestFrom (units : Nat) (exponent : Int) : Nat → Nat × Int
  | 0 => (units, 0)
  | fuel + 1 =>
    match neighbour? units exponent with
    | some digits => (digits, exponent)
    | none => shortestFrom units (exponent - 1) fuel

/-- The digits and the exponent of the shortest decimal that reads back as a positive count of
units.  Seventeen significant digits always suffice. -/
def shortest (units : Nat) : Nat × Int := shortestFrom units (leadingExponent units) 17

end FieldFilter.Binary64
