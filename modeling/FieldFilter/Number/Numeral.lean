import FieldFilter.Number.Binary64
import FieldFilter.Text.Digit

/-!
# FieldFilter.Number.Numeral — decimal numerals

`Numeral.read?` reads a decimal numeral with an optional sign, fraction and exponent, in the digits of
any script; `Numeral.toBinary64` is the double nearest to it.
-/

namespace FieldFilter

/-- A decimal numeral: `digits * 10 ^ exponent` with a sign. -/
structure Numeral where
  negative : Bool
  digits : Nat
  exponent : Int
  deriving DecidableEq, Repr

namespace Numeral

open Text (digitValue?)

/-- The decimal digits at the front of the text, and what follows them. -/
def takeDigits : List Char → List Nat × List Char
  | [] => ([], [])
  | c :: rest =>
    match digitValue? c with
    | some d => ((d :: (takeDigits rest).1), (takeDigits rest).2)
    | none => ([], c :: rest)

/-- The number that a list of digits, most significant first, stands for. -/
def ofDigits (digits : List Nat) : Nat := digits.foldl (fun n d => 10 * n + d) 0

/-- An optional sign at the front; `true` for a minus. -/
def takeSign : List Char → Bool × List Char
  | '+' :: rest => (false, rest)
  | '-' :: rest => (true, rest)
  | s => (false, s)

/-- The exponent part that has to fill the rest of the numeral. -/
def readExponent? : List Char → Option Int
  | [] => some 0
  | e :: rest =>
    if e = 'e' ∨ e = 'E' then
      let (negative, rest) := takeSign rest
      match takeDigits rest with
      | ([], _) => none
      | (ds, []) => some (if negative then -(ofDigits ds : Int) else ofDigits ds)
      | (_, _ :: _) => none
    else none

/-- Reads a whole text as a numeral: digits on at least one side of an optional point, then an
optional exponent. -/
def read? (s : List Char) : Option Numeral := do
  let (negative, s) := takeSign s
  let (whole, s) := takeDigits s
  let (fraction, s) := match s with
    | '.' :: rest => takeDigits rest
    | _ => ([], s)
  if whole.isEmpty && fraction.isEmpty then none
  let exponent ← readExponent? s
  return ⟨negative, ofDigits (whole ++ fraction), exponent - fraction.length⟩

/-- The number of decimal digits of a natural number. -/
def decimalLength (n : Nat) : Nat := (Nat.toDigits 10 n).length

/-- The double nearest to the numeral.  A value of at least `10 ^ 310` is out of range and one below
`10 ^ (-330)` rounds to zero, whatever the digits, so the powers of ten stay small. -/
def toBinary64 (x : Numeral) : Binary64 :=
  let magnitude := x.exponent + decimalLength x.digits
  if x.digits = 0 ∨ magnitude < -330 then .finite x.negative 0
  else if 310 < magnitude then .infinity x.negative
  else .ofQuotient x.negative (x.digits * Nat.pow 10 x.exponent.toNat) (Nat.pow 10 (-x.exponent).toNat)

end Numeral
end FieldFilter
