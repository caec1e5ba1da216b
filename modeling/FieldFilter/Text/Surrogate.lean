import FieldFilter.Text.Hex

/-!
# FieldFilter.Text.Surrogate — halves of surrogate pairs

A 16-bit unit from 0xD800 to 0xDFFF is half of a pair that stands for one character past 0xFFFF.  A `Half`
that stands alone is no character.  In the names of files some stand for single bytes.
-/

namespace FieldFilter.Text

/-- Half of a surrogate pair: its place among the units from 0xD800 to 0xDFFF. -/
structure Half where
  place : Fin 0x800
  deriving DecidableEq, Repr, Inhabited

namespace Half

/-- The 16-bit unit of a half. -/
def unit (h : Half) : Nat := 0xD800 + h.place

/-- The half with a unit, if the unit is one of a half. -/
def ofUnit? (unit : Nat) : Option Half :=
  if h : 0xD800 ≤ unit ∧ unit < 0xE000 then some ⟨⟨unit - 0xD800, by omega⟩⟩ else none

/-- In the name of a file the half stands for a byte past 0x7F. -/
def isByte (h : Half) : Bool := 0xDC80 ≤ h.unit && h.unit ≤ 0xDCFF

/-- The character that two halves stand for: the first comes before 0xDC00, and the second does not. -/
def pair? (high low : Half) : Option Char :=
  if high.unit < 0xDC00 ∧ 0xDC00 ≤ low.unit then
    scalarValue? (0x10000 + (high.unit - 0xD800) * 0x400 + (low.unit - 0xDC00))
  else none

theorem ofUnit?_unit (h : Half) : ofUnit? h.unit = some h := by
  have inRange : 0xD800 ≤ h.unit ∧ h.unit < 0xE000 := by
    have := h.place.isLt
    unfold unit
    omega
  rw [ofUnit?, dif_pos inRange]
  simp [unit]

end Half
end FieldFilter.Text
