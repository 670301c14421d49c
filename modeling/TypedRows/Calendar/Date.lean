/-!
# Calendar dates

Dates of the Gregorian calendar in the years 1 to 9999. `dayNumber` counts the days since the first
day of year 1 and `ofDayNumber?` is its inverse.
-/

namespace TypedRows

def isLeapYear (year : Nat) : Bool :=
  year % 4 == 0 && (year % 100 != 0 || year % 400 == 0)

def monthLengths (year : Nat) : List Nat :=
  [31, if isLeapYear year then 29 else 28, 31, 30, 31, 30, 31, 31, 30, 31, 30, 31]

/-- The length of a month, counted from 1; zero if there is no such month. -/
def daysInMonth (year month : Nat) : Nat :=
  if month = 0 then 0 else (monthLengths year).getD (month - 1) 0

def daysInYear (year : Nat) : Nat := if isLeapYear year then 366 else 365

def daysBeforeYear (year : Nat) : Nat :=
  365 * (year - 1) + (year - 1) / 4 - (year - 1) / 100 + (year - 1) / 400

def daysBeforeMonth (year month : Nat) : Nat := ((monthLengths year).take (month - 1)).foldr (· + ·) 0

def IsDate (year month day : Nat) : Prop :=
  1 ≤ year ∧ year ≤ 9999 ∧ 1 ≤ month ∧ month ≤ 12 ∧ 1 ≤ day ∧ day ≤ daysInMonth year month

instance (year month day : Nat) : Decidable (IsDate year month day) :=
  inferInstanceAs (Decidable (_ ∧ _))

structure Date where
  year : Nat
  month : Nat
  day : Nat
  isDate : IsDate year month day
deriving DecidableEq, Repr

namespace Date

def ofNumbers? (year month day : Nat) : Option Date :=
  if h : IsDate year month day then some ⟨year, month, day, h⟩ else none

/-- The days since 1 January of year 1. -/
def dayNumber (d : Date) : Nat :=
  daysBeforeYear d.year + daysBeforeMonth d.year d.month + (d.day - 1)

/-- The year that a day belongs to: an estimate from the mean length of a year, which is at most one
year off. -/
def yearOfDay (n : Nat) : Nat :=
  let estimate := n * 400 / 146097 + 1
  if n < daysBeforeYear estimate then estimate - 1
  else if daysBeforeYear (estimate + 1) ≤ n then estimate + 1
  else estimate

/-- The month and the day of the month, both counted from 0, of a day counted from the first day of
the first of the months. -/
def locate : List Nat → Nat → Nat × Nat
  | [], n => (0, n)
  | length :: rest, n =>
    if n < length then (0, n)
    else ((locate rest (n - length)).1 + 1, (locate rest (n - length)).2)

/-- The date that many days after 1 January of year 1. -/
def ofDayNumber? (n : Nat) : Option Date :=
  let year := yearOfDay n
  let place := locate (monthLengths year) (n - daysBeforeYear year)
  ofNumbers? year (place.1 + 1) (place.2 + 1)

def epoch : Date := ⟨1970, 1, 1, by decide⟩

/-- The day of the week, counted from 0 for Monday. -/
def weekday (d : Date) : Nat := d.dayNumber % 7

end Date

example : Date.epoch.dayNumber = 719162 := by decide

end TypedRows
