/-!
# FieldFilter.Calendar — days of the Gregorian calendar

`Date.IsValid` says which dates exist and `Date.dayNumber` counts the days from 1 January 1970.
-/

namespace FieldFilter

/-- A year, a month and a day of the month, which need not make an existing date. -/
structure Date where
  year : Nat
  month : Nat
  day : Nat
  deriving DecidableEq, Repr

namespace Date

def isLeap (year : Nat) : Bool :=
  year % 4 == 0 && (year % 100 != 0 || year % 400 == 0)

/-- The number of days in a month of a year. -/
def daysInMonth (year month : Nat) : Nat :=
  if month = 2 then (if isLeap year then 29 else 28)
  else if month = 4 ∨ month = 6 ∨ month = 9 ∨ month = 11 then 30
  else 31

/-- The date exists, in a year from 1 to 9999. -/
def IsValid (d : Date) : Prop :=
  1 ≤ d.year ∧ d.year ≤ 9999 ∧ 1 ≤ d.month ∧ d.month ≤ 12 ∧
    1 ≤ d.day ∧ d.day ≤ daysInMonth d.year d.month

instance (d : Date) : Decidable d.IsValid := by unfold IsValid; infer_instance

/-- Days in the months of a year that come before the given one. -/
def daysBeforeMonth (year : Nat) : Nat → Nat
  | 0 => 0
  | month + 1 => daysBeforeMonth year month + (if month = 0 then 0 else daysInMonth year month)

/-- Days in the years from 1 up to the given one, without it. -/
def daysBeforeYear (year : Nat) : Nat :=
  let past := year - 1
  365 * past + past / 4 - past / 100 + past / 400

/-- Days since 1 January 1970, negative before it. -/
def dayNumber (d : Date) : Int :=
  (daysBeforeYear d.year + daysBeforeMonth d.year d.month + d.day : Nat) - 719163

/-- Milliseconds from the start of 1970 to the start of the day. -/
def millis (d : Date) : Int := d.dayNumber * 86400000

end Date
end FieldFilter
