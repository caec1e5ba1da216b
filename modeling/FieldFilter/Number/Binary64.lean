/-!
# FieldFilter.Number.Binary64 — double-precision numbers, exactly

A finite double is a whole number of units of `2 ^ (-1074)`, so a double is kept as that whole number
and its sign.  `Binary64.ofQuotient` rounds a fraction to the nearest double, half to even, and
`Binary64.lt` and `Binary64.le` compare values; nothing here is approximate.
-/

namespace FieldFilter

/-- A double: not a number, an infinity, or a signed count of units of `2 ^ (-1074)`. -/
inductive Binary64 where
  | nan
  | infinity (negative : Bool)
  | finite (negative : Bool) (units : Nat)
  deriving DecidableEq, Repr, Inhabited

namespace Binary64

/-- The number of units in one. -/
def unitsPerOne : Nat := Nat.pow 2 1074

/-- The first count of units past the largest finite double. -/
def unitsLimit : Nat := Nat.pow 2 2098

/-- The whole number nearest to `a / b`; of two equally near, the even one. -/
def roundDiv (a b : Nat) : Nat :=
  let q := a / b
  let r := a % b
  if b < 2 * r ∨ (b = 2 * r ∧ q % 2 = 1) then q + 1 else q

/-- The nearest multiple of a spacing at which `num / den` has at most 53 significant bits, in units. -/
def roundUnits (num den : Nat) : Nat :=
  let scaled := num * unitsPerOne
  let spacing := Nat.pow 2 ((scaled / den).log2 - 52)
  roundDiv scaled (den * spacing) * spacing

/-- The count of units nearest to `num / den`, or `none` if that is past the largest double. -/
def nearestUnits? (num den : Nat) : Option Nat :=
  let units := roundUnits num den
  if units < unitsLimit then some units else none

/-- The double nearest to a fraction; an infinity if it is out of range. -/
def ofQuotient (negative : Bool) (num den : Nat) : Binary64 :=
  match nearestUnits? num den with
  | some units => .finite negative units
  | none => .infinity negative

/-- The double nearest to an integer, or `none` if the integer is out of range. -/
def ofInt? (n : Int) : Option Binary64 :=
  (nearestUnits? n.natAbs 1).map (.finite (n < 0))

def zero : Binary64 := .finite false 0

def one : Binary64 := .finite false unitsPerOne

def isNaN : Binary64 → Bool
  | .nan => true
  | _ => false

/-- The place of a double in the order of values: which of the three regions it lies in (below, at
or above the finite ones) and its signed units there.  Zero has one place whatever its sign. -/
def rank? : Binary64 → Option (Int × Int)
  | .nan => none
  | .infinity negative => some (if negative then -1 else 1, 0)
  | .finite negative units => some (0, if negative then -(units : Int) else units)

/-- Strictly smaller in value; never true of a value that is not a number. -/
def lt (x y : Binary64) : Bool :=
  match x.rank?, y.rank? with
  | some a, some b => a.1 < b.1 || (a.1 == b.1 && a.2 < b.2)
  | _, _ => false

/-- Smaller or equal in value; never true of a value that is not a number. -/
def le (x y : Binary64) : Bool :=
  match x.rank?, y.rank? with
  | some a, some b => a.1 < b.1 || (a.1 == b.1 && a.2 ≤ b.2)
  | _, _ => false

/-- The integer that a double is equal to, if it is one. -/
def toInt? : Binary64 → Option Int
  | .finite negative units =>
    if units % unitsPerOne = 0 then
      let n : Int := (units / unitsPerOne : Nat)
      some (if negative then -n else n)
    else none
  | _ => none

end Binary64
end FieldFilter
