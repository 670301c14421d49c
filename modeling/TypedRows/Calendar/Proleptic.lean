import TypedRows.Calendar.Date
/-!
# Dates of any year

The calendar repeats every 400 years, so a day of any year lies in a cycle of 400 years at the place of
a day of the years 1 to 400. Days are counted from the first day of year 1 as for a `Date`; the years
before it are zero and negative.
-/

namespace TypedRows

def daysPerCycle : Nat := daysBeforeYear 401

/-- A day of the calendar, of any year. -/
structure ProlepticDate where
  year : Int
  month : Nat
  day : Nat
deriving DecidableEq, Repr

namespace ProlepticDate

def ofDayNumber (n : Int) : ProlepticDate :=
  let place := (n.fmod daysPerCycle).toNat
  let year := Date.yearOfDay place
  let inYear := Date.locate (monthLengths year) (place - daysBeforeYear year)
  ⟨year + 400 * n.fdiv daysPerCycle, inYear.1 + 1, inYear.2 + 1⟩

/-- The days from the first day of year 1 to the first day of a month. -/
def daysBefore (year : Int) (month : Nat) : Int :=
  let inCycle := ((year - 1).fmod 400).toNat + 1
  (year - 1).fdiv 400 * daysPerCycle + daysBeforeYear inCycle + daysBeforeMonth inCycle month

end ProlepticDate

example : daysPerCycle = 146097 := by decide

example : ProlepticDate.ofDayNumber (-1) = ⟨0, 12, 31⟩ := by decide

example : ProlepticDate.daysBefore 0 12 = -31 := by decide

end TypedRows
