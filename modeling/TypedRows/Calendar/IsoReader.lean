import TypedRows.Calendar.Time
import TypedRows.Number.Numeral
/-!
# Reading dates and times

`readDateTime` (`isoparse`) and `readTime` (`parse_isotime`) read ISO 8601 text, as the library behind the columns of
dates and times does it. A date is a year, a year and a month, a calendar date, a week date or an ordinal date; any one
character may separate it from a time. A time has hours, minutes, seconds and a fraction, of which all but the hours may
be missing, and may end in an offset. Text that has another form gives `malformed`; a date that runs past year 9999 in
the course of the reading gives `outOfRange`.

The reader takes so many characters for a number and reads them as integers are read (`integer?`). So a number may have
fewer digits at the end of a text, or blanks, a sign or an underscore in their place, and it may be negative: only the
calendar refuses it.
-/

namespace TypedRows.IsoReader

/-- Why a text is not a date or time. -/
inductive Refusal where
  | malformed
  | outOfRange
deriving DecidableEq, Repr

/-- A date given by numbers that have not been checked against the calendar. -/
structure RawDate where
  year : Int
  month : Int
  day : Int
deriving DecidableEq, Repr

/-- A time given by numbers that have not been checked. The offset is in seconds. -/
structure RawTime where
  hour : Int
  minute : Int
  second : Int
  micro : Nat
  offset : Option Int
deriving DecidableEq, Repr

/-- The integer that characters write. -/
def integer? (cs : List Char) : Option Int := (Numeral.integer? (String.ofList cs)).map Numeral.Digits.value

/-- The integer in the first characters, as many as there are of `width`, and the rest. -/
def number? (width : Nat) (cs : List Char) : Option (Int × List Char) :=
  (integer? (cs.take width)).map fun n => (n, cs.drop width)

/-- The integer in the first `width` characters, and the rest. -/
def fullNumber? (width : Nat) (cs : List Char) : Option (Int × List Char) :=
  if cs.length < width then none else number? width cs

def RawDate.date? (d : RawDate) : Option Date :=
  -- A negative number becomes zero, which is no year, no month and no day.
  Date.ofNumbers? d.year.toNat d.month.toNat d.day.toNat

/-- The time of day with the numbers, if hour 24 is taken for hour 0. -/
def RawTime.time? (t : RawTime) : Option TimeOfDay :=
  if 0 ≤ t.hour ∧ 0 ≤ t.minute ∧ 0 ≤ t.second then
    TimeOfDay.ofNumbers? (if t.hour = 24 then 0 else t.hour.toNat) t.minute.toNat t.second.toNat t.micro
  else none

/-! ## Dates -/

/-- A year, a year and a month, or a calendar date at the front, and the rest. A month alone needs the
hyphen. -/
def calendarDate? (cs : List Char) : Option (RawDate × List Char) := do
  let (year, rest) ← fullNumber? 4 cs
  match rest with
  | [] => some (⟨year, 1, 1⟩, [])
  | '-' :: rest =>
    let (month, rest) ← fullNumber? 2 rest
    match rest with
    | [] => some (⟨year, month, 1⟩, [])
    | '-' :: rest =>
      let (day, rest) ← fullNumber? 2 rest
      some (⟨year, month, day⟩, rest)
    | _ => none
  | rest =>
    let (month, rest) ← fullNumber? 2 rest
    let (day, rest) ← fullNumber? 2 rest
    some (⟨year, month, day⟩, rest)

def RawDate.ofDate (d : Date) : RawDate := ⟨d.year, d.month, d.day⟩

/-- The day of a week of a year. Week 1 holds 4 January, and the day is counted from it, so the last
weeks may run into the next year. -/
def ofWeek (year week day : Int) : Except Refusal RawDate :=
  if week < 1 ∨ 53 < week ∨ day < 1 ∨ 7 < day then .error .malformed
  else
    match RawDate.date? ⟨year, 1, 4⟩ with
    | none => .error .malformed
    | some fourth =>
      match Date.ofDayNumber? (fourth.dayNumber - fourth.weekday + ((week - 1) * 7 + (day - 1)).toNat) with
      | none => .error .outOfRange
      | some date => .ok (.ofDate date)

def ofOrdinal (year day : Int) : Except Refusal RawDate :=
  match RawDate.date? ⟨year, 1, 1⟩ with
  | none => .error .malformed
  | some first =>
    if day < 1 ∨ daysInYear first.year < day then .error .malformed
    else
      match Date.ofDayNumber? (first.dayNumber + (day - 1).toNat) with
      | none => .error .outOfRange
      | some date => .ok (.ofDate date)

def orMalformed {α : Type} : Option α → Except Refusal α
  | some a => .ok a
  | none => .error .malformed

/-- The day after a week, which may be missing at the end of the text, and the rest. The hyphen is
there exactly if it was there after the year. -/
def weekDay? (hyphen : Bool) : List Char → Option (Int × List Char)
  | [] => some (1, [])
  | '-' :: rest => if hyphen then number? 1 rest else none
  | rest => if hyphen then none else number? 1 rest

/-- A week date or an ordinal date at the front, and the rest. -/
def weekOrOrdinalDate (cs : List Char) : Except Refusal (RawDate × List Char) := do
  let (year, rest) ← orMalformed (fullNumber? 4 cs)
  let (hyphen, rest) := match rest with
    | '-' :: rest => (true, rest)
    | rest => (false, rest)
  match rest with
  | 'W' :: rest =>
    let (week, rest) ← orMalformed (number? 2 rest)
    let (day, rest) ← orMalformed (weekDay? hyphen rest)
    let date ← ofWeek year week day
    return (date, rest)
  | rest =>
    let (day, rest) ← orMalformed (fullNumber? 3 rest)
    let date ← ofOrdinal year day
    return (date, rest)

/-- A date of any form at the front, and the rest. -/
def rawDate (cs : List Char) : Except Refusal (RawDate × List Char) :=
  match calendarDate? cs with
  | some answer => .ok answer
  | none => weekOrOrdinalDate cs

/-! ## Times -/

def offsetSeconds? (sign : Char) (hours minutes : Int) : Option Int :=
  if hours = 0 ∧ minutes = 0 then some 0
  else if 59 < minutes ∨ 23 < hours then none
  else
    let seconds := (hours * 60 + minutes) * 60
    some (if sign = '-' then -seconds else seconds)

/-- An offset, which must be the whole text. The result is in seconds. -/
def offset? (cs : List Char) : Option Int :=
  match cs with
  | ['Z'] | ['z'] => some 0
  | sign :: rest =>
    if (sign = '+' ∨ sign = '-') ∧ (rest.length = 2 ∨ rest.length = 4 ∨ rest.length = 5) then do
      let (hours, rest) ← number? 2 rest
      let minutes ← match rest with
        | [] => some 0
        | ':' :: rest => integer? rest
        | rest => integer? rest
      offsetSeconds? sign hours minutes
    else none
  | [] => none

def beginsOffset (c : Char) : Bool := c == '+' || c == '-' || c == 'Z' || c == 'z'

def ending? (time : RawTime) : List Char → Option RawTime
  | [] => some time
  | c :: rest =>
    if beginsOffset c then (offset? (c :: rest)).map fun offset => { time with offset := some offset }
    else none

def digit? (c : Char) : Option Nat := if c.isDigit then some (c.toNat - 48) else none

/-- The microseconds written by the digits of a fraction; digits after the sixth are dropped. -/
def microsOf (digits : List Nat) : Nat :=
  ((digits ++ List.replicate 6 0).take 6).foldl (fun n d => 10 * n + d) 0

/-- A fraction, which may be missing, and an offset. -/
def fractionOn? (time : RawTime) : List Char → Option RawTime
  | [] => some time
  | c :: rest =>
    if c = '.' ∨ c = ',' then
      let digits := (rest.takeWhile Char.isDigit).filterMap digit?
      if digits.isEmpty then none
      else ending? { time with micro := microsOf digits } (rest.dropWhile Char.isDigit)
    else ending? time (c :: rest)

/-- The seconds, which may be missing, and what follows. The colon is there exactly if it was there
before the minutes. -/
def secondsOn? (colon : Bool) (time : RawTime) : List Char → Option RawTime
  | [] => some time
  | c :: rest =>
    if beginsOffset c then ending? time (c :: rest)
    else do
      let rest ← if colon then (if c = ':' then some rest else none) else some (c :: rest)
      let (second, rest) ← number? 2 rest
      fractionOn? { time with second := second } rest

/-- The minutes, which may be missing, and what follows. -/
def minutesOn? (time : RawTime) : List Char → Option RawTime
  | [] => some time
  | c :: rest =>
    if beginsOffset c then ending? time (c :: rest)
    else do
      let (minute, rest) ← number? 2 (if c = ':' then rest else c :: rest)
      secondsOn? (c = ':') { time with minute := minute } rest

/-- Hour 24 is the end of the day, so nothing may follow it. -/
def RawTime.hourFits (t : RawTime) : Bool :=
  t.hour != 24 || (t.minute == 0 && t.second == 0 && t.micro == 0)

/-- A time of at least two characters. -/
def rawTime? (cs : List Char) : Option RawTime :=
  match cs with
  | first :: second :: rest => do
    let time ←
      if beginsOffset first then ending? ⟨0, 0, 0, 0, none⟩ (first :: second :: rest)
      else do
        let (hour, rest) ← number? 2 (first :: second :: rest)
        minutesOn? ⟨hour, 0, 0, 0, none⟩ rest
    if time.hourFits then some time else none
  | _ => none

/-! ## Values -/

/-- The characters of a text, which must all be ASCII. -/
def asciiChars (text : String) : Except Refusal (List Char) :=
  if text.toList.all fun c => c.toNat < 128 then .ok text.toList else .error .malformed

/-- A time of day and its offset; hour 24 is midnight. -/
def readTime (text : String) : Except Refusal (TimeOfDay × Option Int) := do
  let cs ← asciiChars text
  let raw ← orMalformed (rawTime? cs)
  let time ← orMalformed raw.time?
  return (time, raw.offset)

/-- A date with or without a time, and its offset; hour 24 is the start of the next day. -/
def readDateTime (text : String) : Except Refusal (DateTime × Option Int) := do
  let cs ← asciiChars text
  let (rawDay, rest) ← rawDate cs
  let raw ← match rest with
    | [] => .ok ⟨0, 0, 0, 0, none⟩
    | _ :: rest => orMalformed (rawTime? rest)
  let date ← orMalformed rawDay.date?
  let time ← orMalformed raw.time?
  if raw.hour = 24 then
    match DateTime.nextDay? ⟨date, time⟩ with
    | some next => return (next, raw.offset)
    | none => .error .outOfRange
  else return (⟨date, time⟩, raw.offset)

end TypedRows.IsoReader
