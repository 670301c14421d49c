import TypedRows.Calendar.Date
/-!
# Times of day and instants

A `TimeOfDay` has microseconds, a `DateTime` is a time on a date. Times and instants are counted in
microseconds; `DateTime.epochMillis` rounds such a count down to whole milliseconds since the start
of 1970.
-/

namespace TypedRows

def IsTime (hour minute second micro : Nat) : Prop :=
  hour < 24 ∧ minute < 60 ∧ second < 60 ∧ micro < 1000000

instance (hour minute second micro : Nat) : Decidable (IsTime hour minute second micro) :=
  inferInstanceAs (Decidable (_ ∧ _))

structure TimeOfDay where
  hour : Nat
  minute : Nat
  second : Nat
  micro : Nat
  isTime : IsTime hour minute second micro
deriving DecidableEq, Repr

def microsPerSecond : Nat := 1000000

def microsPerDay : Nat := 86400 * microsPerSecond

def millisPerDay : Nat := 86400000

namespace TimeOfDay

def midnight : TimeOfDay := ⟨0, 0, 0, 0, by decide⟩

def ofNumbers? (hour minute second micro : Nat) : Option TimeOfDay :=
  if h : IsTime hour minute second micro then some ⟨hour, minute, second, micro, h⟩ else none

/-- The microseconds since midnight. -/
def micros (t : TimeOfDay) : Nat :=
  ((t.hour * 60 + t.minute) * 60 + t.second) * microsPerSecond + t.micro

/-- The time that many microseconds after midnight, whole days left out. -/
def ofMicros (n : Nat) : TimeOfDay where
  hour := n / (3600 * 1000000) % 24
  minute := n / (60 * 1000000) % 60
  second := n / 1000000 % 60
  micro := n % 1000000
  isTime := by refine ⟨?_, ?_, ?_, ?_⟩ <;> omega

/-- The milliseconds since midnight, rounded down, of a time at an offset in seconds from universal
time. The count of an offset time may be negative or longer than a day. -/
def millis (t : TimeOfDay) (offset : Option Int) : Int :=
  ((t.micros : Int) - offset.getD 0 * microsPerSecond).fdiv 1000

end TimeOfDay

structure DateTime where
  date : Date
  time : TimeOfDay
deriving DecidableEq, Repr

namespace DateTime

def ofDate (d : Date) : DateTime := ⟨d, .midnight⟩

/-- The microseconds since the start of year 1. -/
def micros (d : DateTime) : Nat := d.date.dayNumber * microsPerDay + d.time.micros

/-- The instant that many microseconds after the start of year 1, in the years 1 to 9999. -/
def ofMicros? (n : Int) : Option DateTime :=
  if n < 0 then none
  else
    (Date.ofDayNumber? (n.toNat / microsPerDay)).map fun date =>
      ⟨date, .ofMicros (n.toNat % microsPerDay)⟩

def epoch : DateTime := ofDate Date.epoch

/-- The milliseconds since the start of 1970, rounded down. -/
def epochMillis (d : DateTime) : Int := ((d.micros : Int) - epoch.micros).fdiv 1000

/-- The instant that many microseconds after the start of 1970, in the years 1 to 9999. -/
def ofEpochMicros? (n : Int) : Option DateTime := ofMicros? (n + epoch.micros)

/-- The same instant in universal time, if that lies in the years 1 to 9999. -/
def toUniversal? (d : DateTime) (offset : Int) : Option DateTime :=
  ofMicros? (d.micros - offset * microsPerSecond)

def nextDay? (d : DateTime) : Option DateTime := ofMicros? (d.micros + microsPerDay)

end DateTime

def minEpochMillis : Int := -62135596800000

/-- The greatest count of epoch milliseconds that names an instant. -/
def maxEpochMillis : Int := 253402300799999

end TypedRows
